import Autostart.Proofs.Registry.Storable

/-!
# Saves without a base

When the base of a save is missing or cannot be read, the changes are stored in a new document. What
is written then holds the changed fields and no others: it says all that the launcher holds exactly
when every field without changes holds what an absent value reads as.
-/

namespace Autostart

/-- A field holds what an absent value reads as. -/
def Entry.IsDefault (e : Entry) : Field → Prop
  | .hidden => e.hidden = false
  | .name => e.name?.getD "" = ""
  | .comment => e.comment?.getD "" = ""
  | .exec => e.exec?.getD "" = ""
  | .delay => e.delay = 0

namespace Document

variable {d : Document} {key : String}

/-- A key without values has no text. -/
theorem text?_of_absent (h : ∀ l, d.rawValue? key l = none) : d.text? key = none := by
  unfold text?
  rw [h none]
  rfl

/-- A key without values has no text for any locale. -/
theorem localText?_of_absent (h : ∀ l, d.rawValue? key l = none) (locale? : Option Locale) :
    d.localText? key locale? = none := by
  cases locale? with
  | none => exact text?_of_absent h
  | some l =>
    have hnone : l.candidates.findSome? (fun suffix => d.rawValue? key (some suffix)) = none :=
      List.findSome?_eq_none_iff.2 fun suffix _ => h (some suffix)
    unfold localText?
    dsimp only
    rw [hnone]
    exact text?_of_absent h

/-- A key without values has the truth value of its default. -/
theorem flag_of_absent (h : ∀ l, d.rawValue? key l = none) (default : Bool) :
    d.flag key default = default := by
  unfold flag
  rw [h none]
  rfl

/-- Without a value there is no delay. -/
theorem delay_of_absent (h : ∀ l, d.rawValue? Key.delay l = none) : d.delay = 0 := by
  unfold delay
  rw [h none]

/-- A new launcher has no value for a field. -/
theorem rawValue?_application (f : Field) (l : Option String) :
    application.rawValue? f.key l = none := by
  have hne : f.key ≠ Key.type := by cases f <;> decide
  exact sameAt_store empty hne none _ l

end Document

namespace Entry

/-- A document without values for a field agrees on it with launchers that hold its default. -/
theorem agreesOn_iff_of_absent (e : Entry) {d : Document} {f : Field}
    (h : ∀ l, d.rawValue? f.key l = none) (locale? : Option Locale) :
    e.AgreesOn d locale? f ↔ e.IsDefault f := by
  cases f with
  | hidden =>
    show d.flag (Field.key .hidden) false = e.hidden ↔ e.hidden = false
    rw [Document.flag_of_absent h, eq_comm]
  | name =>
    show Text.agree (d.localText? (Field.key .name) locale?) e.name? = true ↔ _
    rw [Document.localText?_of_absent h]
    exact Text.agree_none_iff _
  | comment =>
    show Text.agree (d.localText? (Field.key .comment) locale?) e.comment? = true ↔ _
    rw [Document.localText?_of_absent h]
    exact Text.agree_none_iff _
  | exec =>
    show Text.agree (d.text? (Field.key .exec)) e.exec? = true ↔ _
    rw [Document.text?_of_absent h]
    exact Text.agree_none_iff _
  | delay =>
    show d.delay = e.delay ↔ e.delay = 0
    rw [Document.delay_of_absent h, eq_comm]

/-- A document with the changed fields and no others agrees on all fields exactly with launchers
that hold the default in every field without changes. -/
theorem agreesOn_all_iff {e : Entry} {d : Document} {locale? : Option Locale}
    (hdirty : ∀ f, e.dirty.contains f = true → e.AgreesOn d locale? f)
    (hclean : ∀ f, e.dirty.contains f = false → ∀ l, d.rawValue? f.key l = none) :
    (∀ f, e.AgreesOn d locale? f) ↔ ∀ f, e.dirty.contains f = false → e.IsDefault f := by
  constructor
  · intro h f hf
    exact (e.agreesOn_iff_of_absent (hclean f hf) locale?).1 (h f)
  · intro h f
    cases hf : e.dirty.contains f with
    | true => exact hdirty f hf
    | false => exact (e.agreesOn_iff_of_absent (hclean f hf) locale?).2 (h f hf)

end Entry

namespace Registry

/-- When a save writes and its base is missing or cannot be read, the written file is read back as
a document that agrees with the launcher on every changed field and has no value for any other, so
it agrees on all fields exactly when those without changes hold their defaults. -/
theorem written_of_vanished_base {settings : Settings}
    (hlocale : Locale.IsStorable settings.locale?) {r : Registry}
    (h : Reachable Action.IsStorable settings r) {name : String} {e : Entry}
    (hfind : r.find? name = some e)
    (hvanished : ∀ d, Document.load r.files (mergeBase e) ≠ .ok d)
    (hwritten : (r.flush name).1 = .ok .written) :
    ∃ d, Document.load (r.flush name).2.files e.source = .ok d ∧
      (∀ f, e.dirty.contains f = true → e.AgreesOn d settings.locale? f) ∧
      (∀ f, e.dirty.contains f = false → ∀ l, d.rawValue? f.key l = none) ∧
      ((∀ f, e.AgreesOn d settings.locale? f) ↔
        ∀ f, e.dirty.contains f = false → e.IsDefault f) := by
  have hstorable : e.Storable := h.storable (fun _ ok => ok) hfind
  obtain ⟨files, hwrite, hafter⟩ := flush_of_written hfind hwritten
  rw [merged_of_load_ne_ok hvanished, h.settings_eq] at hwrite
  -- The new document has no value for any field, so nothing but the changes gets into it.
  have hstable : (e.mergeInto Document.application settings.locale?).Stable :=
    hstorable.stable_mergeInto Document.stable_application hlocale
  have hdirty : ∀ f, e.dirty.contains f = true →
      e.AgreesOn (e.mergeInto Document.application settings.locale?) settings.locale? f :=
    fun f hf => Entry.agreesOn_mergeInto_of_dirty _ hstorable.delay_le hf
  have hclean : ∀ f, e.dirty.contains f = false → ∀ l,
      (e.mergeInto Document.application settings.locale?).rawValue? f.key l = none := by
    intro f hf l
    rw [Entry.sameAt_mergeInto_of_clean _ hf l]
    exact Document.rawValue?_application f l
  refine ⟨_, ?_, hdirty, hclean, Entry.agreesOn_all_iff hdirty hclean⟩
  rw [hafter]
  exact load_of_writeUser hwrite hstable.parse_text

/-- A run on one launcher of the user, which is switched off, and whose file another program removes
before the save. -/
def removedBeforeSave : Registry :=
  [.scan, .setHidden "a.desktop" true, .outside (FileStore.atDirectory []),
    .fileRemoved ⟨"user/a.desktop"⟩].foldl perform (fresh userDirectoryOnly oneUserLauncher 0)

/-- The run consists of actions whose arguments can be stored. -/
theorem reachable_removedBeforeSave :
    Reachable Action.IsStorable userDirectoryOnly removedBeforeSave :=
  Reachable.foldl (.fresh oneUserLauncher 0) (by simp [Action.IsStorable])

/-- The base of the save is gone. -/
theorem load_removedBeforeSave (d : Document) :
    Document.load removedBeforeSave.files ⟨"user/a.desktop"⟩ ≠ .ok d :=
  fun h => by cases h

/-- The save writes that the launcher is switched off. -/
theorem hidden_written_removedBeforeSave :
    ∃ e d, removedBeforeSave.find? "a.desktop" = some e ∧ e.hidden = true ∧
      Document.load (removedBeforeSave.flush "a.desktop").2.files e.source = .ok d ∧
      e.AgreesOn d none .hidden := by
  have hfind : removedBeforeSave.find? "a.desktop" = some _ := rfl
  obtain ⟨d, hload, hdirty, -⟩ := written_of_vanished_base (fun l hl => by cases hl)
    reachable_removedBeforeSave hfind load_removedBeforeSave rfl
  exact ⟨_, d, hfind, rfl, hload, hdirty .hidden rfl⟩

/-- The save writes a file without the name and the command line that the launcher holds. -/
theorem exec_lost_removedBeforeSave :
    ∃ e d, Reachable Action.IsStorable userDirectoryOnly removedBeforeSave ∧
      removedBeforeSave.find? "a.desktop" = some e ∧ e.isPending = true ∧
      (∀ d, Document.load removedBeforeSave.files (mergeBase e) ≠ .ok d) ∧
      (removedBeforeSave.flush "a.desktop").1 = .ok .written ∧
      Document.load (removedBeforeSave.flush "a.desktop").2.files e.source = .ok d ∧
      e.exec? = some "a" ∧ d.text? Document.Key.exec = none ∧ ¬ e.AgreesOn d none .exec :=
  ⟨_, _, reachable_removedBeforeSave, rfl, rfl, load_removedBeforeSave, rfl, rfl, rfl, rfl,
    fun h => by cases h⟩

end Registry

end Autostart
