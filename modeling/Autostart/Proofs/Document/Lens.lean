import Autostart.Proofs.Entry.Overwriting

/-!
# Setting values

A setter stores a value of its kind in a slot of the main group, and the getter of the kind gives it
back. Nothing else changes: every other slot keeps the value that it has, every other group stays,
and of the lines of the document one gives way or one is added. A document without a main group gets
one in front of its groups. A value that was set can be set again without a change.
-/

namespace Autostart.Document

/-- A value to set, by its kind. -/
inductive Setter where
  /-- A text under a key. -/
  | text (key value : String)
  /-- A truth value under a key. -/
  | flag (key : String) (value : Bool)
  /-- The start delay in seconds, a number of 32 bits. -/
  | delay (seconds : UInt32)
  /-- A text under a key for a locale, or for everybody when there is none. -/
  | localText (key : String) (locale? : Option Locale) (value : String)
deriving DecidableEq, Repr

namespace Setter

/-- The document with the value set. -/
def apply (d : Document) : Setter → Document
  | text key value => d.setText key value
  | flag key value => d.setFlag key value
  | delay seconds => d.setDelay seconds.toNat
  | localText key locale? value => d.setLocalText key locale? value

/-- The getter of the kind gives the value. -/
def IsGivenBy (d : Document) : Setter → Prop
  | text key value => d.text? key = some value
  | flag key value => ∀ default, d.flag key default = value
  | delay seconds => d.delay = seconds.toNat
  | localText key locale? value => d.localText? key locale? = some value

/-- The slot in which the value is stored, and the value as it is written. -/
def write : Setter → Write
  | text key value => ⟨(key, none), escape value⟩
  | flag key value => ⟨(key, none), if value then "true" else "false"⟩
  | delay seconds => ⟨(Key.delay, none), toString seconds.toNat⟩
  | localText key locale? value => ⟨(key, locale?.map Locale.suffix), escape value⟩

/-- A value is set by a store in its slot. -/
theorem apply_eq (d : Document) (s : Setter) :
    s.apply d = d.store s.write.slot.1 s.write.slot.2 s.write.value := by
  cases s <;> rfl

/-- The getter gives the value that was set. -/
theorem isGivenBy_apply (d : Document) (s : Setter) : s.IsGivenBy (s.apply d) := by
  cases s with
  | text key value => exact text?_setText d key value
  | flag key value => exact flag_setFlag d key value
  | delay seconds =>
    have hle : seconds.toNat ≤ maxDelay := by
      have hlt := seconds.toNat_lt
      unfold maxDelay
      omega
    exact delay_setDelay d hle
  | localText key locale? value => exact localText?_setLocalText d key locale? value

end Setter

/-! ## Lines -/

/-- A list is another one, but that at most one member gave way to a new one or the new one was
added. -/
inductive Amended {α : Type} (new : α) : List α → List α → Prop where
  /-- Nothing changed. -/
  | unchanged (xs : List α) : Amended new xs xs
  /-- A member gave way to the new one in its place. -/
  | replaced (front : List α) (old : α) (back : List α) :
    Amended new (front ++ old :: back) (front ++ new :: back)
  /-- The new one was added. -/
  | inserted (front back : List α) : Amended new (front ++ back) (front ++ new :: back)

namespace Amended

variable {α β : Type} {new : α} {xs xs' : List α}

/-- What is made of the members of an amended list makes an amended list. -/
theorem map (f : α → β) (h : Amended new xs xs') : Amended (f new) (xs.map f) (xs'.map f) := by
  cases h with
  | unchanged => exact .unchanged _
  | replaced front old back =>
    simp only [List.map_append, List.map_cons]
    exact .replaced _ (f old) _
  | inserted front back =>
    simp only [List.map_append, List.map_cons]
    exact .inserted _ _

/-- A list with an amended part is amended. -/
theorem within (h : Amended new xs xs') (before after : List α) :
    Amended new (before ++ xs ++ after) (before ++ xs' ++ after) := by
  cases h with
  | unchanged => exact .unchanged _
  | replaced front old back =>
    have hframe : Amended new _ _ := .replaced (before ++ front) old (back ++ after)
    simpa using hframe
  | inserted front back =>
    have hframe : Amended new _ _ := .inserted (before ++ front) (back ++ after)
    simpa using hframe

end Amended

section Stores

variable {key : String} {locale? : Option String} {value : String}

/-- A replaced value changes the line of its key. -/
theorem amended_replaceValue {lines lines' : List Line}
    (h : replaceValue key locale? value lines = some lines') :
    Amended (.entry (.plain key locale? value)) lines lines' := by
  induction lines generalizing lines' with
  | nil => cases h
  | cons line rest ih =>
    unfold replaceValue at h
    split at h
    · obtain rfl := Option.some.inj h
      split
      · exact .unchanged _
      · exact .replaced [] line rest
    · obtain ⟨rest', hrest, rfl⟩ := Option.map_eq_some_iff.1 h
      simpa using (ih hrest).within [line] []

/-- A stored value changes the line of its key, or adds one. -/
theorem amended_storeIn (key : String) (locale? : Option String) (value : String)
    (lines : List Line) :
    Amended (.entry (.plain key locale? value)) lines (storeIn key locale? value lines) := by
  unfold storeIn
  split
  · next lines' h => exact amended_replaceValue h
  · obtain ⟨front, back, rfl, hadd⟩ := addLine_eq (.entry (.plain key locale? value)) lines
    rw [hadd]
    exact .inserted front back

/-- A value is stored among the lines of the first main group, or under a header of its own in front
of the groups when there is none. -/
theorem store_cases (d : Document) (key : String) (locale? : Option String) (value : String) :
    (∃ before main after, main.name = mainGroup ∧ d.groups = before ++ main :: after ∧
      d.store key locale? value = ⟨d.preamble, before ++
        { main with lines := storeIn key locale? value main.lines } :: after⟩) ∨
    (d.hasGroup mainGroup = false ∧
      d.store key locale? value = ⟨d.preamble, ⟨mainGroup, "[" ++ mainGroup ++ "]",
        .entry (.plain key locale? value) :: separator d.groups⟩ :: d.groups⟩) := by
  rcases hgroup : d.hasGroup mainGroup with _ | _
  · -- The only value of a list of one is written in front.
    have hwritten : Overwritten [⟨(key, locale?), value⟩] d (d.store key locale? value) :=
      overwritten_storeAll (by simp) d
    generalize d.store key locale? value = d' at hwritten
    cases hwritten with
    | nothing _ hnil => cases hnil
    | inPlace preamble before main after lines main_eq => simp [hasGroup, group?, main_eq] at hgroup
    | inFront => exact .inr ⟨rfl, rfl⟩
  · obtain ⟨main, hmain⟩ := Option.isSome_iff_exists.1 hgroup
    obtain ⟨preamble, groups⟩ := d
    obtain ⟨before, after, rfl, hname, hfirst⟩ := exists_groups_of_group? hmain
    exact .inl ⟨before, main, after, hname, rfl,
      store_of_groups key locale? value preamble hname hfirst after⟩

/-- The groups besides the main one, in their order. -/
def otherGroups (d : Document) : List Group :=
  d.groups.filter fun g => g.name ≠ mainGroup

/-- A store leaves the other groups. -/
theorem otherGroups_store (d : Document) (key : String) (locale? : Option String)
    (value : String) : (d.store key locale? value).otherGroups = d.otherGroups := by
  unfold otherGroups
  rcases store_cases d key locale? value with ⟨before, main, after, hname, hgroups, hstore⟩ |
    ⟨-, hstore⟩
  · rw [hstore, hgroups]
    simp [hname]
  · rw [hstore]
    simp

/-- The lines of a document are others with one line set: one line changed, or one was added. In
front of the groups of a document without a main group it stands below a new header, and before a
blank line when there are other groups. -/
def HasLineSet (line : String) (d d' : Document) : Prop :=
  if d.hasGroup mainGroup then Amended line d.lines d'.lines
  else d'.lines = d.preamble ++ ["[Desktop Entry]", line] ++
    (if d.groups.isEmpty then [] else [""]) ++ d.groups.flatMap Group.allLines

/-- A store sets the line of its value. -/
theorem hasLineSet_store (d : Document) (key : String) (locale? : Option String)
    (value : String) :
    HasLineSet (KeyLine.plain key locale? value).text d (d.store key locale? value) := by
  unfold HasLineSet
  rcases store_cases d key locale? value with ⟨before, main, after, hname, hgroups, hstore⟩ |
    ⟨hnone, hstore⟩
  · have hgroup : d.hasGroup mainGroup = true := by simp [hasGroup, group?, hgroups, hname]
    rw [if_pos hgroup, hstore]
    unfold lines
    rw [hgroups]
    -- The lines around those of the main group, its header included, stay.
    have hmain : Amended (KeyLine.plain key locale? value).text (main.lines.map Line.text)
        ((storeIn key locale? value main.lines).map Line.text) :=
      (amended_storeIn key locale? value main.lines).map Line.text
    have hlines := hmain.within (d.preamble ++ before.flatMap Group.allLines ++ [main.header])
      (after.flatMap Group.allLines)
    simpa [Group.allLines] using hlines
  · rw [if_neg (by simp [hnone]), hstore]
    have hheader : "[" ++ mainGroup ++ "]" = "[Desktop Entry]" := rfl
    have hseparator : (separator d.groups).map Line.text =
        if d.groups.isEmpty then [] else [""] := by
      unfold separator
      split <;> rfl
    simp [lines, Group.allLines, hheader, hseparator, Line.text]

end Stores

/-- Setters and getters are a lens on the values of a document. The getter of the kind gives the
value that was set, every other slot keeps its value and every other group stays, the lines change
by the line of the value only, and to set the value once more changes nothing. -/
theorem setters_are_lenses (d : Document) (s : Setter) :
    s.IsGivenBy (s.apply d) ∧
    (∀ slot : Slot, slot ≠ s.write.slot →
      (s.apply d).rawValue? slot.1 slot.2 = d.rawValue? slot.1 slot.2) ∧
    (s.apply d).otherGroups = d.otherGroups ∧
    HasLineSet s.write.line.text d (s.apply d) ∧
    s.apply (s.apply d) = s.apply d := by
  refine ⟨s.isGivenBy_apply d, fun slot hslot => ?_, ?_, ?_, ?_⟩
  · have hne : ¬(slot.1 = s.write.slot.1 ∧ slot.2 = s.write.slot.2) := fun heq =>
      hslot (Prod.ext heq.1 heq.2)
    rw [s.apply_eq, rawValue?_store, if_neg hne]
  · rw [s.apply_eq, otherGroups_store]
  · rw [s.apply_eq]
    exact hasLineSet_store d _ _ _
  · have hvalue : (s.apply d).rawValue? s.write.slot.1 s.write.slot.2 = some s.write.value := by
      rw [s.apply_eq, rawValue?_store, if_pos ⟨rfl, rfl⟩]
    rw [s.apply_eq (s.apply d), store_self hvalue]

end Autostart.Document
