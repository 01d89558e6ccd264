import Autostart.Proofs.Entry.Comparing

/-!
# What a merged document says

A merge stores the changed fields and nothing else. A changed field reads from the merged document
as the launcher holds it, in the locale that it was stored for; a field without changes reads as it
did from the base in every locale, and so do the icon, the mark that leaves a launcher out of lists
and the lists of desktops that decide whether it may run. What a merge makes of the comparison of
the launcher with the document depends therefore on the base alone, in what was not changed.
-/

namespace Autostart

namespace Document

variable {d d' : Document} {key : String} {f : Field}

/-- The list of a key depends on its values only. -/
theorem SameAt.items?_eq (h : SameAt d d' key) : d.items? key = d'.items? key := by
  unfold items?
  rw [h none]

/-- Two documents say the same of a field, in every locale. -/
def ReadsAs (d d' : Document) : Field → Prop
  | .hidden => ∀ default, d.flag Key.hidden default = d'.flag Key.hidden default
  | .name => ∀ locale?, d.localText? Key.name locale? = d'.localText? Key.name locale?
  | .comment => ∀ locale?, d.localText? Key.comment locale? = d'.localText? Key.comment locale?
  | .exec => d.text? Key.exec = d'.text? Key.exec
  | .delay => d.delay = d'.delay

/-- What a document says of a field comes from the values of its key. -/
theorem SameAt.readsAs (h : SameAt d d' f.key) : d.ReadsAs d' f := by
  cases f with
  | hidden => exact fun default => h.flag_eq default
  | name => exact fun locale? => h.localText?_eq locale?
  | comment => exact fun locale? => h.localText?_eq locale?
  | exec => exact h.text?_eq
  | delay => exact h.delay_eq

/-- Two documents say the same of what no edit changes. -/
structure ShowsAs (d d' : Document) : Prop where
  /-- They specify the same icon in every locale. -/
  icon : ∀ locale?, d.localText? Key.icon locale? = d'.localText? Key.icon locale?
  /-- Both or neither leave the launcher out of lists. -/
  noDisplay : ∀ default, d.flag Key.noDisplay default = d'.flag Key.noDisplay default
  /-- They list the same desktops that run the launcher. -/
  onlyShowIn : d.items? Key.onlyShowIn = d'.items? Key.onlyShowIn
  /-- They list the same desktops that do not. -/
  notShowIn : d.items? Key.notShowIn = d'.items? Key.notShowIn

/-- The lists of desktops decide whether a launcher may run. -/
theorem ShowsAs.isLaunchable_eq (h : d.ShowsAs d') (desktops : List String) :
    Entry.isLaunchable d desktops = Entry.isLaunchable d' desktops := by
  unfold Entry.isLaunchable
  rw [h.onlyShowIn, h.notShowIn]

end Document

namespace Entry

variable {e : Entry} {d : Document} {locale? : Option Locale}

/-- A document says what the launcher holds when it does so of every field and of the icon. -/
theorem agreesWith_iff :
    e.agreesWith d locale? = true ↔ (∀ f, e.AgreesOn d locale? f) ∧ e.AgreesOnIcon d locale? := by
  constructor
  · exact follows_of_agreesWith
  · rintro ⟨hfields, hicon⟩
    have hhidden : d.flag Document.Key.hidden false = e.hidden := hfields .hidden
    have hname : Text.agree (d.localText? Document.Key.name locale?) e.name? = true := hfields .name
    have hcomment : Text.agree (d.localText? Document.Key.comment locale?) e.comment? = true :=
      hfields .comment
    have hexec : Text.agree (d.text? Document.Key.exec) e.exec? = true := hfields .exec
    have hdelay : d.delay = e.delay := hfields .delay
    have hicon' : Text.agree (d.localText? Document.Key.icon locale?) e.iconSpec? = true := hicon
    unfold agreesWith
    simp only [hhidden, hname, hcomment, hexec, hicon', hdelay, beq_self_eq_true, Bool.and_self]

/-- A merge stores nothing that no edit changes. -/
theorem showsAs_mergeInto (e : Entry) (d : Document) (locale? : Option Locale) :
    (e.mergeInto d locale?).ShowsAs d := by
  have hsame : ∀ key, (∀ f : Field, key ≠ f.key) →
      Document.SameAt (e.mergeInto d locale?) d key := fun key hne =>
    sameAt_mergeInto d fun f _ => hne f
  have hicon := hsame Document.Key.icon fun f => by cases f <;> decide
  have hnoDisplay := hsame Document.Key.noDisplay fun f => by cases f <;> decide
  have honly := hsame Document.Key.onlyShowIn fun f => by cases f <;> decide
  have hnot := hsame Document.Key.notShowIn fun f => by cases f <;> decide
  exact ⟨hicon.localText?_eq, hnoDisplay.flag_eq, honly.items?_eq, hnot.items?_eq⟩

/-- The merged document says what the launcher holds exactly when the base does so in the icon and
in every field without changes. -/
theorem agreesWith_mergeInto_iff (hdelay : e.delay ≤ Document.maxDelay) :
    e.agreesWith (e.mergeInto d locale?) locale? = true ↔ e.Follows d locale? := by
  rw [agreesWith_iff]
  constructor
  · rintro ⟨hfields, hicon⟩
    refine ⟨fun f hf => ?_, (agreesOnIcon_mergeInto_iff e).1 hicon⟩
    exact (agreesOn_mergeInto_iff hf e).1 (hfields f)
  · intro hfollows
    exact hfollows.mergeInto hdelay

/-- A merge is exact, for a launcher whose delay has 32 bits. Every changed field reads from the
merged document as the launcher holds it, where an absent text counts as empty. Every other field
reads as it did from the base, and so does all that no edit changes, so the launcher may run on the
same desktops. The merged document says what the launcher holds exactly when the base does so in the
icon and in every field without changes. -/
theorem merge_is_exact (e : Entry) (d : Document) (locale? : Option Locale)
    (hdelay : e.delay ≤ Document.maxDelay) :
    (∀ f, e.dirty.contains f = true → e.AgreesOn (e.mergeInto d locale?) locale? f) ∧
    (∀ f, e.dirty.contains f = false → (e.mergeInto d locale?).ReadsAs d f) ∧
    (e.mergeInto d locale?).ShowsAs d ∧
    (∀ desktops, isLaunchable (e.mergeInto d locale?) desktops = isLaunchable d desktops) ∧
    (e.agreesWith (e.mergeInto d locale?) locale? = true ↔ e.Follows d locale?) := by
  have hshows := showsAs_mergeInto e d locale?
  refine ⟨fun f hf => ?_, fun f hf => ?_, hshows, hshows.isLaunchable_eq,
    agreesWith_mergeInto_iff hdelay⟩
  · exact agreesOn_mergeInto_of_dirty d hdelay hf
  · exact (sameAt_mergeInto_of_clean d hf).readsAs

/-- A launcher whose name was taken away, and whose command line was changed. -/
def unnamed : Entry :=
  { ofCommand "a.desktop" ⟨"user/a.desktop"⟩ none (some "C") "a --new" 0 with
    name? := none
    dirty := (FieldSet.none.insert .name).insert .exec }

/-- A document with two lines for one key, a name for a locale, and a list of desktops. -/
def twiceNamed : Document :=
  ⟨[], [⟨"Desktop Entry", "[Desktop Entry]",
    [.entry (.plain "Name" none "A"), .entry (.plain "Name" none "B"),
      .entry (.plain "Name" (some "de") "D"), .entry (.plain "Comment" none "C"),
      .entry (.plain "Exec" none "a"), .entry (.plain "OnlyShowIn" none "KDE;")]⟩]⟩

/-- The locale of German texts. -/
def german : Locale :=
  ⟨"de", none, none, none⟩

/-- After the merge there is no German name, the command line is the new one, the comment is that of
the base, the launcher runs on KDE only, and the merged document says what it holds. -/
theorem merge_is_exact_unnamed :
    let merged := unnamed.mergeInto twiceNamed (some german)
    (merged.localText? Document.Key.name (some german)).getD "" = "" ∧
    (merged.text? Document.Key.exec).getD "" = "a --new" ∧
    merged.localText? Document.Key.comment none = some "C" ∧
    isLaunchable merged ["KDE"] = true ∧ isLaunchable merged ["MATE"] = false ∧
    unnamed.agreesWith merged (some german) = true := by
  obtain ⟨hdirty, hclean, -, hlaunch, hagrees⟩ :=
    merge_is_exact unnamed twiceNamed (some german) (by decide)
  have hname := hdirty .name rfl
  have hexec := hdirty .exec rfl
  have hcomment := hclean .comment rfl none
  have hfollows : unnamed.Follows twiceNamed (some german) := by
    refine ⟨fun f hf => ?_, rfl⟩
    cases f with
    | hidden => rfl
    | name => cases hf
    | comment => rfl
    | exec => cases hf
    | delay => rfl
  refine ⟨(Text.agree_iff _ _).1 hname, (Text.agree_iff _ _).1 hexec, ?_, ?_, ?_,
    hagrees.2 hfollows⟩
  · rw [hcomment]
    rfl
  · rw [hlaunch]
    rfl
  · rw [hlaunch]
    rfl

end Entry

end Autostart
