import Autostart.Entry.Basic
import Autostart.Proofs.Document.Storing
import Mathlib.Data.List.Forall2

/-!
# Lines that a merge leaves

A store of a value touches at most the line of its key in the main group. A merge stores the changed
fields of a launcher, so every other line stays, in its group and in its place among the others, and
so do all groups and what stands before the first one.
-/

namespace Autostart

namespace Document

/-- A key of the main group with a locale suffix, under which a value is stored. -/
abbrev Slot := String × Option String

/-- A line gives a value to one of some slots. -/
def Line.isIn (slots : List Slot) : Line → Bool
  | verbatim _ => false
  | entry line => slots.contains (line.key, line.locale?)

/-- The lines of a group, in the main group without those of some slots. -/
def Group.linesBut (slots : List Slot) (g : Group) : List Line :=
  if g.name = mainGroup then g.lines.filter fun line => !line.isIn slots else g.lines

/-- The lines of a document, in the main group without those of some slots. -/
def linesBut (slots : List Slot) (d : Document) : List String :=
  d.preamble ++ d.groups.flatMap fun g => g.header :: (g.linesBut slots).map Line.text

/-- A group is another one with the same header, whose lines are all there, in the main group but
for those of some slots. -/
structure Group.KeepsBut (slots : List Slot) (g g' : Group) : Prop where
  /-- The name is the same. -/
  name_eq : g'.name = g.name
  /-- The header is the same. -/
  header_eq : g'.header = g.header
  /-- The lines are there in their order. -/
  lines : (g.linesBut slots).Sublist g'.lines
  /-- Only the main group is another one. -/
  lines_eq : g.name ≠ mainGroup → g'.lines = g.lines

/-- A document is another one with all groups in their order, and all their lines but those of some
slots of the main group. -/
structure KeepsBut (slots : List Slot) (d d' : Document) : Prop where
  /-- What stands before the first group is the same. -/
  preamble_eq : d'.preamble = d.preamble
  /-- The groups are there in their order. -/
  groups : d.groups.SublistForall₂ (Group.KeepsBut slots) d'.groups

variable {slots : List Slot} {key : String} {locale? : Option String} {value : String}

/-! ## Groups -/

namespace Group

/-- The lines but those of some slots are lines of the group. -/
theorem linesBut_sublist (slots : List Slot) (g : Group) : (g.linesBut slots).Sublist g.lines := by
  unfold linesBut
  split
  · exact List.filter_sublist
  · exact .refl _

namespace KeepsBut

/-- A group keeps its own lines. -/
theorem refl (g : Group) : KeepsBut slots g g :=
  ⟨rfl, rfl, linesBut_sublist slots g, fun _ => rfl⟩

/-- What one group after another keeps both keep. -/
theorem trans {g g' g'' : Group} (h : KeepsBut slots g g') (h' : KeepsBut slots g' g'') :
    KeepsBut slots g g'' := by
  refine ⟨h'.name_eq.trans h.name_eq, h'.header_eq.trans h.header_eq, ?_, fun hother => ?_⟩
  · have hlines := h.lines
    have hlines' := h'.lines
    unfold linesBut at hlines hlines' ⊢
    rw [h.name_eq] at hlines'
    split at hlines
    · -- The lines that the first one keeps are not of the slots, so the second one keeps them.
      next hmain =>
      rw [if_pos hmain] at hlines'
      rw [if_pos hmain]
      have hkept := hlines.filter fun line => !line.isIn slots
      rw [List.filter_filter] at hkept
      simp only [Bool.and_self] at hkept
      exact hkept.trans hlines'
    · next hother =>
      rw [if_neg hother] at hlines'
      rw [if_neg hother]
      exact hlines.trans hlines'
  · have hother' : g'.name ≠ mainGroup := fun heq => hother (h.name_eq.symm.trans heq)
    exact (h'.lines_eq hother').trans (h.lines_eq hother)

end KeepsBut

end Group

instance : Std.Refl (Group.KeepsBut slots) := ⟨.refl⟩

instance : IsTrans Group (Group.KeepsBut slots) := ⟨fun _ _ _ => .trans⟩

namespace KeepsBut

variable {d d' d'' : Document}

/-- A document keeps its own lines. -/
theorem refl (d : Document) : KeepsBut slots d d :=
  ⟨rfl, refl_of _ d.groups⟩

/-- What one document after another keeps both keep. -/
theorem trans (h : KeepsBut slots d d') (h' : KeepsBut slots d' d'') : KeepsBut slots d d'' :=
  ⟨h'.preamble_eq.trans h.preamble_eq, trans_of _ h.groups h'.groups⟩

/-- The lines that a document keeps are lines of its text, in their order. -/
theorem lines_sublist (h : KeepsBut slots d d') : (d.linesBut slots).Sublist d'.lines := by
  unfold linesBut lines
  rw [h.preamble_eq]
  refine List.Sublist.append_left ?_ _
  have hgroups := h.groups
  generalize d.groups = groups at hgroups
  generalize d'.groups = groups' at hgroups
  induction hgroups with
  | nil => exact List.nil_sublist _
  | cons hgroup _ ih =>
    simp only [List.flatMap_cons]
    unfold Group.allLines
    rw [hgroup.header_eq]
    exact ((hgroup.lines.map Line.text).cons_cons _).append ih
  | cons_right _ ih =>
    rw [List.flatMap_cons]
    exact ih.trans (List.sublist_append_right _ _)

end KeepsBut

/-! ## Stores -/

/-- A line with a value of a slot is one of the slots. -/
theorem isIn_of_value? {line : Line} {old : String} (h : line.value? key locale? = some old)
    (hslot : (key, locale?) ∈ slots) : line.isIn slots = true := by
  cases line with
  | verbatim text => cases h
  | entry keyLine =>
    unfold Line.value? at h
    dsimp only at h
    split at h
    · next hline =>
      obtain ⟨rfl, rfl⟩ := hline
      exact List.contains_iff_mem.2 hslot
    · cases h

/-- A replaced value leaves the lines of all other slots. -/
theorem sublist_replaceValue {lines lines' : List Line} (hslot : (key, locale?) ∈ slots)
    (h : replaceValue key locale? value lines = some lines') :
    (lines.filter fun line => !line.isIn slots).Sublist lines' := by
  induction lines generalizing lines' with
  | nil => cases h
  | cons line rest ih =>
    unfold replaceValue at h
    split at h
    · -- The line that changes is one of the slot, so it is not among those to keep.
      next old hold =>
      obtain rfl := Option.some.inj h
      rw [List.filter_cons_of_neg (by simp [isIn_of_value? hold hslot])]
      exact List.filter_sublist.trans (List.sublist_cons_self _ rest)
    · obtain ⟨rest', hrest, rfl⟩ := Option.map_eq_some_iff.1 h
      rw [List.filter_cons]
      split
      · exact (ih hrest).cons_cons line
      · exact (ih hrest).cons line

/-- An added line leaves all others. -/
theorem sublist_addLine (line : Line) (lines : List Line) : lines.Sublist (addLine line lines) := by
  obtain ⟨front, back, rfl, hadd⟩ := addLine_eq line lines
  rw [hadd]
  exact (List.sublist_cons_self line back).append_left front

/-- A stored value leaves the lines of all other slots. -/
theorem sublist_storeIn (hslot : (key, locale?) ∈ slots) (lines : List Line) :
    (lines.filter fun line => !line.isIn slots).Sublist (storeIn key locale? value lines) := by
  unfold storeIn
  split
  · next lines' h => exact sublist_replaceValue hslot h
  · exact List.filter_sublist.trans (sublist_addLine _ lines)

/-- A change of a group leaves the others. -/
theorem sublistForall₂_changeGroup {name : String} {f : Group → Group}
    (hf : ∀ g, g.name = name → Group.KeepsBut slots g (f g)) (groups : List Group) :
    groups.SublistForall₂ (Group.KeepsBut slots) (changeGroup name f groups) := by
  induction groups with
  | nil => exact .nil
  | cons g rest ih =>
    unfold changeGroup
    split
    · next hname => exact .cons (hf g hname) (refl_of _ rest)
    · exact .cons (.refl g) ih

/-- A document with a main group has all that it had without one. -/
theorem keepsBut_withMainGroup (d : Document) : KeepsBut slots d d.withMainGroup := by
  unfold withMainGroup
  split
  · exact .refl d
  · -- A new main group comes first, and all groups follow as they are.
    exact ⟨rfl, .cons_right (refl_of _ d.groups)⟩

/-- A stored value leaves all lines but that of its slot. -/
theorem keepsBut_store (d : Document) (hslot : (key, locale?) ∈ slots) :
    KeepsBut slots d (d.store key locale? value) := by
  refine (keepsBut_withMainGroup d).trans ⟨rfl, sublistForall₂_changeGroup (fun g hmain => ?_) _⟩
  refine ⟨rfl, rfl, ?_, fun hother => absurd hmain hother⟩
  unfold Group.linesBut
  rw [if_pos hmain]
  exact sublist_storeIn hslot g.lines

end Document

/-! ## Fields -/

/-- The slots in which a field is stored. A name and a comment are stored for the locale, and for
everybody else where they have nothing. -/
def Field.slots (locale? : Option Locale) : Field → List Document.Slot
  | .hidden => [(Document.Key.hidden, none)]
  | .name => [(Document.Key.name, locale?.map Locale.suffix), (Document.Key.name, none)]
  | .comment => [(Document.Key.comment, locale?.map Locale.suffix), (Document.Key.comment, none)]
  | .exec => [(Document.Key.exec, none)]
  | .delay => [(Document.Key.delay, none)]

namespace Entry

open Document (KeepsBut)

variable {slots : List Document.Slot} {locale? : Option Locale}

/-- The slots in which the changed fields of a launcher are stored. -/
def changedSlots (e : Entry) (locale? : Option Locale) : List Document.Slot :=
  e.dirty.toList.flatMap (Field.slots locale?)

/-- A text for everybody else leaves all lines but that of its slot. -/
theorem keepsBut_fillUntranslated (d : Document) {key : String} (hslot : (key, none) ∈ slots) :
    KeepsBut slots d (d.fillUntranslated key locale?) := by
  unfold Document.fillUntranslated
  split
  · split
    · exact Document.keepsBut_store d hslot
    · exact .refl d
  · exact .refl d

/-- A stored field leaves all lines but those of its slots. -/
theorem keepsBut_storeField (e : Entry) (d : Document) {f : Field}
    (hslots : ∀ slot ∈ f.slots locale?, slot ∈ slots) :
    KeepsBut slots d (e.storeField locale? d f) := by
  -- A localized text is stored in its two slots one after the other.
  have hlocal : ∀ key text?, (key, locale?.map Locale.suffix) ∈ slots → (key, none) ∈ slots →
      KeepsBut slots d (storeLocal d key locale? text?) := fun key text? hsuffix hnone =>
    (Document.keepsBut_store d hsuffix).trans (keepsBut_fillUntranslated _ hnone)
  simp only [Field.slots] at hslots
  cases f with
  | hidden => exact Document.keepsBut_store d (hslots _ (by simp))
  | name => exact hlocal _ _ (hslots _ (by simp)) (hslots _ (by simp))
  | comment => exact hlocal _ _ (hslots _ (by simp)) (hslots _ (by simp))
  | exec => exact Document.keepsBut_store d (hslots _ (by simp))
  | delay => exact Document.keepsBut_store d (hslots _ (by simp))

/-- A merge leaves all lines but those of the slots of the changed fields. -/
theorem keepsBut_mergeInto (e : Entry) (d : Document) (locale? : Option Locale) :
    KeepsBut (e.changedSlots locale?) d (e.mergeInto d locale?) := by
  -- Fields stored one after the other leave what each of them leaves.
  have hfields : ∀ fields : List Field, (∀ f ∈ fields, f ∈ e.dirty.toList) → ∀ d,
      KeepsBut (e.changedSlots locale?) d (fields.foldl (e.storeField locale?) d) := by
    intro fields
    induction fields with
    | nil => exact fun _ d => .refl d
    | cons f rest ih =>
      intro hmem d
      have hslots : ∀ slot ∈ f.slots locale?, slot ∈ e.changedSlots locale? := fun slot hslot =>
        List.mem_flatMap.2 ⟨f, hmem f List.mem_cons_self, hslot⟩
      have hrest := ih fun g hg => hmem g (List.mem_cons_of_mem f hg)
      exact (e.keepsBut_storeField d hslots).trans (hrest _)
  exact hfields _ (fun _ hf => hf) d

end Entry

end Autostart
