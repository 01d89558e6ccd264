import Autostart.Proofs.Entry.Merging

/-!
# Launchers compared with documents

What a launcher holds beside what a document says, field by field, and beside the launcher that the
document makes. Both comparisons come to the same when the document has a name to show, since a
launcher made from a document without one takes its command line for the name.
-/

namespace Autostart

/-- Whether a document can speak for a launcher at every point of a run: it has a name to show, and
no line of it ends in a carriage return. -/
structure Document.Fit (d : Document) (locale? : Option Locale) : Prop where
  /-- There is a name to show. -/
  named : Text.isMissing (d.localText? Key.name locale?) = false
  /-- No line ends in a carriage return. -/
  ending : ∀ line ∈ d.lines, line.toList.getLast? ≠ some '\r'

/-- The document of a text is stable when it is fit. -/
theorem Document.Fit.stable {d : Document} {locale? : Option Locale} (h : d.Fit locale?)
    {s : String} (hparse : parse s = .ok d) : d.Stable :=
  stable_of_parse hparse h.ending

/-- A text that agrees with one that is not missing is not missing either. -/
theorem Text.isMissing_of_agree {a b : Option String} (h : agree a b = true)
    (hb : isMissing b = false) : isMissing a = false := by
  rw [agree_iff] at h
  have hgetD : ∀ t : Option String, isMissing t = isBlank (t.getD "") := by
    intro t
    cases t with
    | none => rfl
    | some s => rfl
  rw [hgetD, h, ← hgetD, hb]

namespace Entry

/-- A launcher whose name, if it was changed, is one to show. -/
def IsNamed (e : Entry) : Prop :=
  e.dirty.contains .name = true → Text.isMissing e.name? = false

/-- A document says of the icon what the launcher holds. -/
def AgreesOnIcon (e : Entry) (d : Document) (locale? : Option Locale) : Prop :=
  Text.agree (d.localText? Document.Key.icon locale?) e.iconSpec? = true

/-- Two launchers hold the same in a field, where an absent text counts as empty. -/
def SameOn (e e' : Entry) : Field → Prop
  | .hidden => e.hidden = e'.hidden
  | .name => Text.agree e.name? e'.name? = true
  | .comment => Text.agree e.comment? e'.comment? = true
  | .exec => Text.agree e.exec? e'.exec? = true
  | .delay => e.delay = e'.delay

/-- Two launchers specify the same icon, where an absent text counts as empty. -/
def SameIcon (e e' : Entry) : Prop :=
  Text.agree e.iconSpec? e'.iconSpec? = true

/-- A launcher follows a document when it holds what the document says in the icon and in every
field without changes. -/
structure Follows (e : Entry) (d : Document) (locale? : Option Locale) : Prop where
  /-- The fields without changes agree. -/
  clean : ∀ f, e.dirty.contains f = false → e.AgreesOn d locale? f
  /-- The icon agrees. -/
  icon : e.AgreesOnIcon d locale?

/-- A launcher follows the documents that another one follows when it holds the same in the icon and
in every field without changes, which has none in the other one either. -/
theorem Follows.congr {e e' : Entry} {d : Document} {locale? : Option Locale}
    (h : e.Follows d locale?)
    (hclean : ∀ f, e'.dirty.contains f = false →
      e.dirty.contains f = false ∧ (e.AgreesOn d locale? f → e'.AgreesOn d locale? f))
    (hicon : e'.iconSpec? = e.iconSpec?) : e'.Follows d locale? := by
  refine ⟨fun f hf => (hclean f hf).2 (h.clean f (hclean f hf).1), ?_⟩
  unfold AgreesOnIcon
  rw [hicon]
  exact h.icon

/-- What a launcher records of its file and of its save does not matter for what it follows. -/
theorem Follows.records {e : Entry} {d : Document} {locale? : Option Locale}
    (h : e.Follows d locale?) (source : Path) (rank? shadow? due? : Option Nat)
    (base? : Option Path) (ownWrite : Bool) :
    ({ e with source, rank?, shadow?, due?, base?, ownWrite } : Entry).Follows d locale? := by
  refine h.congr (fun f hf => ⟨hf, fun ha => ?_⟩) rfl
  cases f <;> exact ha

/-- A name that is not missing is kept. -/
theorem nameOr_of_not_missing {name? : Option String} (h : Text.isMissing name? = false)
    (exec? : Option String) : nameOr name? exec? = name? := by
  unfold nameOr
  rw [h]
  rfl

section OfDocument

variable {d : Document} {locale? : Option Locale}

/-- The launcher that a document with a name makes holds the same in a field as another launcher
when the document agrees with this one. -/
theorem sameOn_ofDocument_iff (hnamed : Text.isMissing (d.localText? Document.Key.name locale?) =
    false) (filename : String) (path : Path) (rank : Nat) (e : Entry) (f : Field) :
    (ofDocument filename path d locale? rank).SameOn e f ↔ e.AgreesOn d locale? f := by
  cases f with
  | name =>
    -- The name is the only field for which another text can stand in.
    show Text.agree (nameOr (d.localText? Document.Key.name locale?) _) e.name? = true ↔ _
    rw [nameOr_of_not_missing hnamed]
    exact Iff.rfl
  | hidden => exact Iff.rfl
  | comment => exact Iff.rfl
  | exec => exact Iff.rfl
  | delay => exact Iff.rfl

/-- The launcher that a document makes specifies the same icon as another launcher when the document
agrees with this one. -/
theorem sameIcon_ofDocument_iff (filename : String) (path : Path) (rank : Nat) (e : Entry) :
    (ofDocument filename path d locale? rank).SameIcon e ↔ e.AgreesOnIcon d locale? :=
  Iff.rfl

/-- A document with a name agrees with the launcher that it makes. -/
theorem agreesOn_ofDocument (hnamed : Text.isMissing (d.localText? Document.Key.name locale?) =
    false) (filename : String) (path : Path) (rank : Nat) (f : Field) :
    (ofDocument filename path d locale? rank).AgreesOn d locale? f := by
  rw [← sameOn_ofDocument_iff hnamed filename path rank]
  have hagree : ∀ t : Option String, Text.agree t t = true := fun t =>
    (Text.agree_iff t t).2 rfl
  cases f <;> first | rfl | exact hagree _

end OfDocument

/-- A launcher follows every document that it agrees with. -/
theorem follows_of_agreesWith {e : Entry} {d : Document} {locale? : Option Locale}
    (h : e.agreesWith d locale? = true) :
    (∀ f, e.AgreesOn d locale? f) ∧ e.AgreesOnIcon d locale? := by
  unfold agreesWith at h
  simp only [Bool.and_eq_true, beq_iff_eq] at h
  obtain ⟨⟨⟨⟨⟨hhidden, hname⟩, hcomment⟩, hexec⟩, hicon⟩, hdelay⟩ := h
  refine ⟨fun f => ?_, hicon⟩
  cases f with
  | hidden => exact hhidden
  | name => exact hname
  | comment => exact hcomment
  | exec => exact hexec
  | delay => exact hdelay

/-! ## Merged documents -/

section Merged

variable {e : Entry} {d : Document} {locale? : Option Locale}

/-- The merged document agrees on a field without changes as the base does. -/
theorem agreesOn_mergeInto_iff {f : Field} (hf : e.dirty.contains f = false) (e' : Entry) :
    e'.AgreesOn (e.mergeInto d locale?) locale? f ↔ e'.AgreesOn d locale? f :=
  e'.agreesOn_congr locale? (sameAt_mergeInto_of_clean d hf)

/-- The merged document says of the icon what the base says. -/
theorem agreesOnIcon_mergeInto_iff (e' : Entry) :
    e'.AgreesOnIcon (e.mergeInto d locale?) locale? ↔ e'.AgreesOnIcon d locale? := by
  have hicon : Document.SameAt (e.mergeInto d locale?) d Document.Key.icon :=
    sameAt_mergeInto d fun f _ => by cases f <;> decide
  unfold AgreesOnIcon
  rw [hicon.localText?_eq]

/-- A launcher that follows the base agrees with the merged document on all fields. -/
theorem Follows.mergeInto (h : e.Follows d locale?) (hdelay : e.delay ≤ Document.maxDelay) :
    (∀ f, e.AgreesOn (e.mergeInto d locale?) locale? f) ∧
      e.AgreesOnIcon (e.mergeInto d locale?) locale? := by
  refine ⟨fun f => ?_, (agreesOnIcon_mergeInto_iff e).2 h.icon⟩
  cases hf : e.dirty.contains f with
  | true => exact agreesOn_mergeInto_of_dirty d hdelay hf
  | false => exact (agreesOn_mergeInto_iff hf e).2 (h.clean f hf)

/-- The merged document of a fit base is fit, when a changed name is one to show. -/
theorem Storable.fit_mergeInto (h : e.Storable) (hlocale : Locale.IsStorable locale?)
    (hname : e.IsNamed) (hfit : d.Fit locale?) (hstable : d.Stable) :
    (e.mergeInto d locale?).Fit locale? := by
  refine ⟨?_, fun line hline => ((h.stable_mergeInto hstable hlocale).isLine line hline).2⟩
  cases hdirty : e.dirty.contains .name with
  | true =>
    have hagrees : e.AgreesOn (e.mergeInto d locale?) locale? .name :=
      agreesOn_mergeInto_of_dirty d h.delay_le hdirty
    exact Text.isMissing_of_agree hagrees (hname hdirty)
  | false =>
    have hsame : Document.SameAt (e.mergeInto d locale?) d Document.Key.name :=
      sameAt_mergeInto_of_clean d hdirty
    rw [hsame.localText?_eq]
    exact hfit.named

end Merged

/-! ## Launchers made from merged documents -/

section Reread

variable {e : Entry} {base : Document} {locale? : Option Locale} (filename : String) (path : Path)
  (rank : Nat)

/-- The launcher made from a merged document has the changed fields. -/
theorem sameOn_reread_of_dirty (hdelay : e.delay ≤ Document.maxDelay)
    (hmerged : (e.mergeInto base locale?).Fit locale?) {f : Field}
    (hf : e.dirty.contains f = true) :
    (ofDocument filename path (e.mergeInto base locale?) locale? rank).SameOn e f := by
  rw [sameOn_ofDocument_iff hmerged.named]
  exact agreesOn_mergeInto_of_dirty base hdelay hf

/-- The launcher made from a merged document has the other fields of the one made from the base. -/
theorem sameOn_reread_of_clean (hbase : base.Fit locale?)
    (hmerged : (e.mergeInto base locale?).Fit locale?) {f : Field}
    (hf : e.dirty.contains f = false) :
    (ofDocument filename path (e.mergeInto base locale?) locale? rank).SameOn
      (ofDocument filename path base locale? rank) f := by
  rw [sameOn_ofDocument_iff hmerged.named, agreesOn_mergeInto_iff hf]
  exact agreesOn_ofDocument hbase.named filename path rank f

/-- The launcher made from a merged document has the icon of the one made from the base. -/
theorem sameIcon_reread :
    (ofDocument filename path (e.mergeInto base locale?) locale? rank).SameIcon
      (ofDocument filename path base locale? rank) := by
  rw [sameIcon_ofDocument_iff, agreesOnIcon_mergeInto_iff]
  exact (Text.agree_iff _ _).2 rfl

/-- The launcher made from a merged document is the one whose changes were merged, in every field
and the icon, exactly when this one follows the base. -/
theorem same_reread_iff (hdelay : e.delay ≤ Document.maxDelay)
    (hmerged : (e.mergeInto base locale?).Fit locale?) :
    (∀ f, (ofDocument filename path (e.mergeInto base locale?) locale? rank).SameOn e f) ∧
        (ofDocument filename path (e.mergeInto base locale?) locale? rank).SameIcon e ↔
      e.Follows base locale? := by
  simp only [sameOn_ofDocument_iff hmerged.named]
  rw [sameIcon_ofDocument_iff]
  constructor
  · rintro ⟨hfields, hicon⟩
    refine ⟨fun f hf => ?_, (agreesOnIcon_mergeInto_iff e).1 hicon⟩
    exact (agreesOn_mergeInto_iff hf e).1 (hfields f)
  · exact fun h => h.mergeInto hdelay

end Reread

end Entry

end Autostart
