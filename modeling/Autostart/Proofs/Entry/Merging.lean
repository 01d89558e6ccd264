import Autostart.Entry.Basic
import Autostart.Proofs.Document.Values

/-!
# What a merge stores

A merge stores exactly the changed fields: each of them reads from the merged document as the
launcher holds it, and every other key keeps all its values. The merged document comes back from its
text when the base does.
-/

namespace Autostart

/-- Texts agree when they are the same but for absence. -/
theorem Text.agree_iff (a b : Option String) : agree a b = true ↔ a.getD "" = b.getD "" := by
  unfold agree
  exact beq_iff_eq

/-- An absent text agrees with the empty ones. -/
theorem Text.agree_none_iff (text? : Option String) :
    Text.agree none text? = true ↔ text?.getD "" = "" := by
  rw [agree_iff, Option.getD_none, eq_comm]

/-- The key under which a field is stored. -/
def Field.key : Field → String
  | .hidden => Document.Key.hidden
  | .name => Document.Key.name
  | .comment => Document.Key.comment
  | .exec => Document.Key.exec
  | .delay => Document.Key.delay

/-- The keys of the fields are plain. -/
theorem Field.isPlainKey (f : Field) : Document.IsPlainKey f.key := by
  cases f <;> exact Document.isPlainKey_of_all rfl rfl

/-- Different fields are stored under different keys. -/
theorem Field.key_ne {f g : Field} (h : f ≠ g) : f.key ≠ g.key := by
  cases f <;> cases g <;> first | exact absurd rfl h | decide

/-- A locale under which texts can be stored. -/
def Locale.IsStorable (locale? : Option Locale) : Prop :=
  ∀ l, locale? = some l → Document.IsSuffix l.suffix

namespace Entry

/-- The text of a field that has one. -/
def text? (e : Entry) : Field → Option String
  | .name => e.name?
  | .comment => e.comment?
  | .exec => e.exec?
  | .hidden | .delay => none

/-- A document says of a field what the launcher holds, where an absent text counts as empty. -/
def AgreesOn (e : Entry) (d : Document) (locale? : Option Locale) : Field → Prop
  | .hidden => d.flag Document.Key.hidden false = e.hidden
  | .name => Text.agree (d.localText? Document.Key.name locale?) e.name? = true
  | .comment => Text.agree (d.localText? Document.Key.comment locale?) e.comment? = true
  | .exec => Text.agree (d.text? Document.Key.exec) e.exec? = true
  | .delay => d.delay = e.delay

/-- A launcher whose changed fields can be stored: its delay has 32 bits, and no changed text starts
with white space that has no escape. -/
structure Storable (e : Entry) : Prop where
  /-- The delay has 32 bits. -/
  delay_le : e.delay ≤ Document.maxDelay
  /-- The changed texts can be read back. -/
  texts : ∀ f, e.dirty.contains f = true → Text.IsStorable ((e.text? f).getD "")

end Entry

namespace Document

/-- Two documents give the same values to a key. -/
def SameAt (d d' : Document) (key : String) : Prop :=
  ∀ locale?, d.rawValue? key locale? = d'.rawValue? key locale?

variable {d d' : Document} {key : String}

/-- The text of a key depends on its values only. -/
theorem SameAt.text?_eq (h : SameAt d d' key) : d.text? key = d'.text? key := by
  unfold text?
  rw [h none]

/-- The truth value of a key depends on its values only. -/
theorem SameAt.flag_eq (h : SameAt d d' key) (default : Bool) :
    d.flag key default = d'.flag key default := by
  unfold flag
  rw [h none]

/-- The text of a key for a locale depends on its values only. -/
theorem SameAt.localText?_eq (h : SameAt d d' key) (locale? : Option Locale) :
    d.localText? key locale? = d'.localText? key locale? := by
  cases locale? with
  | none => exact h.text?_eq
  | some l =>
    unfold localText?
    dsimp only
    rw [h.text?_eq, funext fun suffix => h (some suffix)]

/-- The delay depends on the values of its key only. -/
theorem SameAt.delay_eq (h : SameAt d d' Key.delay) : d.delay = d'.delay := by
  unfold delay
  rw [h none]

/-- A store changes the values of its own key only. -/
theorem sameAt_store (d : Document) {key key' : String} (hne : key' ≠ key)
    (locale? : Option String) (value : String) : SameAt (d.store key locale? value) d key' := by
  intro locale'?
  rw [rawValue?_store, if_neg fun h => hne h.1]

end Document

namespace Entry

variable (e : Entry) (locale? : Option Locale)

/-- What a document says of a field depends on the values of its key only. -/
theorem agreesOn_congr {d d' : Document} {f : Field} (h : Document.SameAt d d' f.key) :
    e.AgreesOn d locale? f ↔ e.AgreesOn d' locale? f := by
  cases f with
  | hidden =>
    have hsame : Document.SameAt d d' Document.Key.hidden := h
    simp only [AgreesOn, hsame.flag_eq]
  | name =>
    have hsame : Document.SameAt d d' Document.Key.name := h
    simp only [AgreesOn, hsame.localText?_eq]
  | comment =>
    have hsame : Document.SameAt d d' Document.Key.comment := h
    simp only [AgreesOn, hsame.localText?_eq]
  | exec =>
    have hsame : Document.SameAt d d' Document.Key.exec := h
    simp only [AgreesOn, hsame.text?_eq]
  | delay => simp only [AgreesOn, Document.SameAt.delay_eq h]

/-! ## One field -/

/-- A text stored for a locale and for everybody else changes the values of its own key only. -/
theorem sameAt_storeLocal (d : Document) {key key' : String} (hne : key' ≠ key)
    (value? : Option String) : Document.SameAt (storeLocal d key locale? value?) d key' := by
  have hlocal : Document.SameAt (d.setLocalText key locale? (value?.getD "")) d key' :=
    Document.sameAt_store d hne _ _
  unfold storeLocal Document.fillUntranslated
  split
  · split
    · exact fun l => (Document.sameAt_store _ hne none _ l).trans (hlocal l)
    · exact hlocal
  · exact hlocal

/-- Storing a field changes the values of its own key only. -/
theorem sameAt_storeField (d : Document) (f : Field) {key : String} (hne : key ≠ f.key) :
    Document.SameAt (e.storeField locale? d f) d key := by
  cases f with
  | hidden => exact Document.sameAt_store d hne _ _
  | name => exact sameAt_storeLocal locale? d hne _
  | comment => exact sameAt_storeLocal locale? d hne _
  | exec => exact Document.sameAt_store d hne _ _
  | delay => exact Document.sameAt_store d hne _ _

/-- The locale sees the text that was stored for it. -/
theorem localText?_storeLocal (d : Document) (key : String) (value? : Option String) :
    (storeLocal d key locale? value?).localText? key locale? = some (value?.getD "") :=
  Document.localText?_fillUntranslated (Document.localText?_setLocalText d key locale? _)

/-- A stored field reads as the launcher holds it. -/
theorem agreesOn_storeField (d : Document) (h : e.delay ≤ Document.maxDelay) (f : Field) :
    e.AgreesOn (e.storeField locale? d f) locale? f := by
  cases f with
  | hidden => exact Document.flag_setFlag d _ _ _
  | name =>
    show Text.agree ((storeLocal d _ locale? e.name?).localText? _ locale?) e.name? = true
    rw [localText?_storeLocal]
    simp [Text.agree]
  | comment =>
    show Text.agree ((storeLocal d _ locale? e.comment?).localText? _ locale?) e.comment? = true
    rw [localText?_storeLocal]
    simp [Text.agree]
  | exec =>
    show Text.agree ((d.setText _ (e.exec?.getD "")).text? _) e.exec? = true
    rw [Document.text?_setText]
    simp [Text.agree]
  | delay => exact Document.delay_setDelay d h

/-- A text stored for a locale and for everybody else keeps a document stable. -/
theorem stable_storeLocal {d : Document} (hd : d.Stable) {key : String}
    (hkey : Document.IsPlainKey key) (hlocale : Locale.IsStorable locale?) {value? : Option String}
    (hvalue : Text.IsStorable (value?.getD "")) : (storeLocal d key locale? value?).Stable := by
  have hlocal : (d.setLocalText key locale? (value?.getD "")).Stable := by
    refine hd.store ⟨hkey, fun suffix hsuffix => ?_, Document.isValue_escape hvalue⟩
    obtain ⟨l, hl, rfl⟩ := Option.map_eq_some_iff.1 hsuffix
    exact hlocale l hl
  -- The text for everybody else is the one that the locale sees, which was just stored.
  unfold storeLocal Document.fillUntranslated
  rw [Document.localText?_setLocalText]
  split
  · exact hlocal.store (.of_none hkey (Document.isValue_escape hvalue))
  · exact hlocal

/-- Storing a field that can be read back keeps a document stable. -/
theorem stable_storeField {d : Document} (hd : d.Stable) (hlocale : Locale.IsStorable locale?)
    {f : Field} (htext : Text.IsStorable ((e.text? f).getD "")) :
    (e.storeField locale? d f).Stable := by
  have hkey := f.isPlainKey
  cases f with
  | hidden => exact hd.store (.of_none hkey (Document.isValue_flag _))
  | name => exact stable_storeLocal locale? hd hkey hlocale htext
  | comment => exact stable_storeLocal locale? hd hkey hlocale htext
  | exec => exact hd.store (.of_none hkey (Document.isValue_escape htext))
  | delay => exact hd.store (.of_none hkey (Document.isValue_toString _))

/-! ## All changed fields -/

/-- Storing fields changes the values of their keys only. -/
theorem sameAt_foldl_storeField (fields : List Field) (d : Document) {key : String}
    (hne : ∀ f ∈ fields, key ≠ f.key) :
    Document.SameAt (fields.foldl (e.storeField locale?) d) d key := by
  induction fields generalizing d with
  | nil => exact fun _ => rfl
  | cons f rest ih =>
    have hfirst := sameAt_storeField e locale? d f (hne f List.mem_cons_self)
    have hrest := ih (e.storeField locale? d f) fun g hg => hne g (List.mem_cons_of_mem f hg)
    exact fun l => (hrest l).trans (hfirst l)

/-- Stored fields read as the launcher holds them. -/
theorem agreesOn_foldl_storeField (fields : List Field) (d : Document)
    (h : e.delay ≤ Document.maxDelay) {f : Field} (hf : f ∈ fields) :
    e.AgreesOn (fields.foldl (e.storeField locale?) d) locale? f := by
  induction fields generalizing d with
  | nil => cases hf
  | cons g rest ih =>
    rw [List.foldl_cons]
    by_cases hmem : f ∈ rest
    · exact ih _ hmem
    · -- The field is the first one, and none of the others has its key.
      obtain rfl : f = g := by
        rcases List.mem_cons.1 hf with hf | hf
        · exact hf
        · exact absurd hf hmem
      have hothers : ∀ g' ∈ rest, f.key ≠ g'.key := fun g' hg' =>
        Field.key_ne fun heq => hmem (heq ▸ hg')
      rw [agreesOn_congr e locale? (sameAt_foldl_storeField e locale? rest _ hothers)]
      exact agreesOn_storeField e locale? d h f

/-- Storing fields that can be read back keeps a document stable. -/
theorem stable_foldl_storeField (fields : List Field) {d : Document} (hd : d.Stable)
    (hlocale : Locale.IsStorable locale?)
    (htexts : ∀ f ∈ fields, Text.IsStorable ((e.text? f).getD "")) :
    (fields.foldl (e.storeField locale?) d).Stable := by
  induction fields generalizing d with
  | nil => exact hd
  | cons f rest ih =>
    have hfirst := stable_storeField e locale? hd hlocale (htexts f List.mem_cons_self)
    exact ih hfirst fun g hg => htexts g (List.mem_cons_of_mem f hg)

variable {e locale?}

/-- A merge changes the values of the keys of changed fields only. -/
theorem sameAt_mergeInto (d : Document) {key : String}
    (hne : ∀ f, e.dirty.contains f = true → key ≠ f.key) :
    Document.SameAt (e.mergeInto d locale?) d key :=
  sameAt_foldl_storeField e locale? _ d fun f hf => hne f (FieldSet.mem_toList_iff.1 hf)

/-- A changed field reads from the merged document as the launcher holds it. -/
theorem agreesOn_mergeInto_of_dirty (d : Document) (h : e.delay ≤ Document.maxDelay) {f : Field}
    (hf : e.dirty.contains f = true) : e.AgreesOn (e.mergeInto d locale?) locale? f :=
  agreesOn_foldl_storeField e locale? _ d h (FieldSet.mem_toList_iff.2 hf)

/-- A field without changes has the values of the base in the merged document. -/
theorem sameAt_mergeInto_of_clean (d : Document) {f : Field} (hf : e.dirty.contains f = false) :
    Document.SameAt (e.mergeInto d locale?) d f.key := by
  refine sameAt_mergeInto d fun g hg => Field.key_ne ?_
  rintro rfl
  rw [hf] at hg
  cases hg

/-- The merged document of a stable base is stable. -/
theorem Storable.stable_mergeInto (h : e.Storable) {d : Document} (hd : d.Stable)
    (hlocale : Locale.IsStorable locale?) : (e.mergeInto d locale?).Stable :=
  stable_foldl_storeField e locale? _ hd hlocale fun f hf =>
    h.texts f (FieldSet.mem_toList_iff.1 hf)

end Entry

end Autostart
