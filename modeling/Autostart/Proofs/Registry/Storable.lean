import Autostart.Proofs.Entry.Merging
import Autostart.Proofs.Registry.Changes

/-!
# Changes that can be stored

When the arguments of all actions of a run can be stored, the changes of every launcher can be at
every point of it: delays have 32 bits, and no changed text starts with white space that has no
escape.
-/

namespace Autostart

/-- The arguments of an action can be stored: its delay has 32 bits, and none of its texts starts
with white space that has no escape. -/
def Registry.Action.IsStorable : Registry.Action → Prop
  | .update _ name? comment? exec? delay =>
    delay ≤ Document.maxDelay ∧ Text.IsStorable (name?.getD "") ∧
      Text.IsStorable (comment?.getD "") ∧ Text.IsStorable (exec?.getD "")
  | .create request =>
    request.delay ≤ Document.maxDelay ∧ Text.IsStorable (request.name?.getD "") ∧
      Text.IsStorable (request.comment?.getD "") ∧ Text.IsStorable request.exec
  | _ => True

/-- The empty text can be stored. -/
theorem Text.isStorable_empty : Text.IsStorable "" :=
  fun c hc => by cases hc

/-- A delay that is read has 32 bits. -/
theorem Document.delay_le (d : Document) : d.delay ≤ Document.maxDelay := by
  unfold delay
  split
  · unfold delayOf
    split
    · split
      · exact Nat.zero_le _
      · exact Nat.min_le_right _ _
    · exact Nat.zero_le _
  · exact Nat.zero_le _

namespace Entry

/-- A due save changes neither the delay nor the changed fields nor their texts. -/
theorem schedule_spec (e : Entry) (s : SearchPath) (due : Nat) :
    (e.schedule s due).delay = e.delay ∧ (e.schedule s due).dirty = e.dirty ∧
      ∀ f, (e.schedule s due).text? f = e.text? f := by
  unfold schedule
  split
  · exact ⟨rfl, rfl, fun f => by cases f <;> rfl⟩
  · exact ⟨rfl, rfl, fun f => by cases f <;> rfl⟩

/-- A launcher with storable changes has them when its save is due. -/
theorem Storable.schedule {e : Entry} (h : e.Storable) (s : SearchPath) (due : Nat) :
    (e.schedule s due).Storable := by
  obtain ⟨hdelay, hdirty, htext⟩ := e.schedule_spec s due
  refine ⟨hdelay ▸ h.delay_le, fun f hf => ?_⟩
  rw [htext]
  exact h.texts f (hdirty ▸ hf)

/-- A launcher without changes whose delay has 32 bits is storable. -/
theorem storable_of_clean {e : Entry} (hdelay : e.delay ≤ Document.maxDelay)
    (hdirty : e.dirty = .none) : e.Storable := by
  refine ⟨hdelay, fun f hf => ?_⟩
  rw [hdirty] at hf
  cases f <;> cases hf

/-- A launcher that differs in nothing that is stored stays storable. -/
theorem Storable.congr {e e' : Entry} (h : e.Storable) (hdelay : e'.delay = e.delay)
    (hdirty : e'.dirty = e.dirty) (htext : ∀ f, e'.text? f = e.text? f) : e'.Storable := by
  refine ⟨hdelay ▸ h.delay_le, fun f hf => ?_⟩
  rw [htext]
  exact h.texts f (hdirty ▸ hf)

/-- The name of a new launcher is one of the two texts that it may come from. -/
theorem nameOr_eq (name? exec? : Option String) :
    nameOr name? exec? = name? ∨ nameOr name? exec? = exec? := by
  unfold nameOr
  split
  · exact .inr rfl
  · exact .inl rfl

/-- A new launcher is storable when what it is made from is. -/
theorem storable_ofCommand {name? comment? : Option String} {exec : String} {delay : Nat}
    (hdelay : delay ≤ Document.maxDelay) (hname : Text.IsStorable (name?.getD ""))
    (hcomment : Text.IsStorable (comment?.getD "")) (hexec : Text.IsStorable exec)
    (filename : String) (path : Path) :
    (ofCommand filename path name? comment? exec delay).Storable := by
  refine ⟨hdelay, fun f _ => ?_⟩
  cases f with
  | hidden => exact Text.isStorable_empty
  | name =>
    show Text.IsStorable ((nameOr name? (some exec)).getD "")
    rcases nameOr_eq name? (some exec) with heq | heq
    · rw [heq]
      exact hname
    · rw [heq]
      exact hexec
  | comment => exact hcomment
  | exec => exact hexec
  | delay => exact Text.isStorable_empty

/-- A field is in a set after a possible insertion when it was inserted or there before. -/
theorem contains_insertIf (s : FieldSet) (changed : Bool) (f g : Field) :
    (s.insertIf changed f).contains g = ((changed && decide (g = f)) || s.contains g) := by
  unfold FieldSet.insertIf
  cases changed
  · simp
  · rw [if_pos rfl, FieldSet.contains_insert, Bool.true_and]
    simp only [eq_comm]

/-- The texts that an edit gives to the fields. -/
def given (name? comment? exec? : Option String) : Field → Option String
  | .name => name?
  | .comment => comment?
  | .exec => exec?
  | .hidden | .delay => none

/-- Whether an edit changes a field. -/
def isChanged (e : Entry) (name? comment? exec? : Option String) (delay : Nat) : Field → Bool
  | .name => !Text.agree name? e.name?
  | .comment => !Text.agree comment? e.comment?
  | .exec => !Text.agree exec? e.exec?
  | .delay => delay ≠ e.delay
  | .hidden => false

section Edited

variable (e : Entry) (name? comment? exec? : Option String) (delay : Nat) (f : Field)

/-- An edit marks the fields that it changes. -/
theorem contains_edited :
    (Registry.edited e name? comment? exec? delay).dirty.contains f =
      (e.isChanged name? comment? exec? delay f || e.dirty.contains f) := by
  unfold Registry.edited
  simp only [contains_insertIf]
  cases f <;> simp [isChanged]

/-- An edit gives its texts to the fields that it changes. -/
theorem text?_edited :
    (Registry.edited e name? comment? exec? delay).text? f =
      if e.isChanged name? comment? exec? delay f then given name? comment? exec? f
      else e.text? f := by
  cases f with
  | hidden => rfl
  | name => rfl
  | comment => rfl
  | exec => rfl
  | delay => exact (ite_self _).symm

variable {e name? comment? exec? delay f}

/-- An edit leaves the fields that it does not change. -/
theorem agreesOn_edited_iff (h : e.isChanged name? comment? exec? delay f = false) (d : Document)
    (locale? : Option Locale) :
    (Registry.edited e name? comment? exec? delay).AgreesOn d locale? f ↔
      e.AgreesOn d locale? f := by
  have htext := text?_edited e name? comment? exec? delay f
  rw [h, if_neg Bool.false_ne_true] at htext
  cases f with
  | hidden => exact Iff.rfl
  | name =>
    have hname : (Registry.edited e name? comment? exec? delay).name? = e.name? := htext
    simp only [AgreesOn, hname]
  | comment =>
    have hcomment : (Registry.edited e name? comment? exec? delay).comment? = e.comment? := htext
    simp only [AgreesOn, hcomment]
  | exec =>
    have hexec : (Registry.edited e name? comment? exec? delay).exec? = e.exec? := htext
    simp only [AgreesOn, hexec]
  | delay =>
    have hdelay : delay = e.delay := by simpa [isChanged] using h
    show d.delay = delay ↔ d.delay = e.delay
    rw [hdelay]

end Edited

/-- An edit with arguments that can be stored keeps a launcher storable. -/
theorem Storable.edited {e : Entry} (h : e.Storable) {name? comment? exec? : Option String}
    {delay : Nat} (hdelay : delay ≤ Document.maxDelay)
    (hname : Text.IsStorable (name?.getD "")) (hcomment : Text.IsStorable (comment?.getD ""))
    (hexec : Text.IsStorable (exec?.getD "")) :
    (Registry.edited e name? comment? exec? delay).describeAnew.Storable := by
  refine ⟨hdelay, fun f hf => ?_⟩
  have hf' : (Registry.edited e name? comment? exec? delay).dirty.contains f = true := hf
  have htext : (Registry.edited e name? comment? exec? delay).describeAnew.text? f =
      (Registry.edited e name? comment? exec? delay).text? f := by
    cases f <;> rfl
  -- A field that is marked now has a given text, and any other was marked before.
  rw [contains_edited] at hf'
  rw [htext, text?_edited]
  split
  · cases f with
    | hidden => exact Text.isStorable_empty
    | name => exact hname
    | comment => exact hcomment
    | exec => exact hexec
    | delay => exact Text.isStorable_empty
  · next hsame =>
    rw [Bool.eq_false_iff.2 hsame, Bool.false_or] at hf'
    exact h.texts f hf'

/-- Switching a launcher off or on keeps it storable. -/
theorem Storable.switched {e : Entry} (h : e.Storable) (hidden : Bool) :
    ({ e with hidden, dirty := e.dirty.insert .hidden } : Entry).Storable := by
  refine ⟨h.delay_le, fun f hf => ?_⟩
  have hf' : (e.dirty.insert .hidden).contains f = true := hf
  rw [FieldSet.contains_insert] at hf'
  cases f with
  | hidden => exact Text.isStorable_empty
  | name => exact h.texts .name hf'
  | comment => exact h.texts .comment hf'
  | exec => exact h.texts .exec hf'
  | delay => exact Text.isStorable_empty

end Entry

namespace Registry

/-- Changes of actions whose arguments can be stored keep launchers storable. -/
theorem storable_of_change {settings : Settings} {a : Action} {key : String}
    {before? after? : Option Entry} (ok : a.IsStorable)
    (hchange : Change settings a key before? after?)
    (h : ∀ e, before? = some e → e.Storable) : ∀ e, after? = some e → e.Storable := by
  intro e' he'
  cases hchange with
  | dropped => cases he'
  | made _ path d rank shadow? isFileName settled =>
    cases he'
    exact Entry.storable_of_clean d.delay_le rfl
  | command _ request path due isFileName action =>
    -- The texts of a new launcher are those of the request.
    cases he'
    subst action
    obtain ⟨hdelay, hname, hcomment, hexec⟩ := ok
    exact (Entry.storable_ofCommand hdelay hname hcomment hexec key path).schedule _ due
  | edited e name? comment? exec? delay due action differs =>
    cases he'
    subst action
    obtain ⟨hdelay, hname, hcomment, hexec⟩ := ok
    exact ((h e rfl).edited hdelay hname hcomment hexec).schedule _ due
  | switched e hidden due =>
    cases he'
    exact ((h e rfl).switched hidden).schedule _ due
  | shadowed e shadow? =>
    cases he'
    exact (h e rfl).congr rfl rfl fun f => by cases f <;> rfl
  | reported e =>
    cases he'
    exact (h e rfl).congr rfl rfl fun f => by cases f <;> rfl
  | undue e =>
    cases he'
    exact (h e rfl).congr rfl rfl fun f => by cases f <;> rfl
  | saved e =>
    cases he'
    exact Entry.storable_of_clean (h e rfl).delay_le rfl
  | back e rank path =>
    cases he'
    exact Entry.storable_of_clean (h e rfl).delay_le rfl

/-- In a run of actions whose arguments can be stored every launcher is storable. -/
theorem Reachable.storable {allowed : Action → Prop} {settings : Settings} {r : Registry}
    (h : Reachable allowed settings r) (hallowed : ∀ a, allowed a → a.IsStorable) {key : String}
    {e : Entry} (hfind : r.find? key = some e) : e.Storable :=
  h.entry_invariant (fun a _ _ _ ok hchange => storable_of_change (hallowed a ok) hchange) hfind

end Registry

end Autostart
