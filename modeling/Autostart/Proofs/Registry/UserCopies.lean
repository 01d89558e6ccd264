import Autostart.Proofs.Entry.Preserving
import Autostart.Proofs.Registry.SyncState
import Autostart.Proofs.Registry.Tidiness

/-!
# What a save leaves of the file of the user

A save writes the document of its base with the changed fields stored. So it leaves all else that
the file of the user says when that file is the base, or says the same. The base of a launcher that
moved from the system is there for a file of the user that has to be made. But the save does not
look whether there is one already: a file that no scan used, or that came after the edit, is
overwritten by a copy of the base, and what the user wrote is lost.
-/

namespace Autostart.Registry

variable {settings : Settings} {r : Registry} {name : String} {e : Entry} {d : Document}

/-- The changes of a launcher are stored in the document of the user when no earlier base says
otherwise. -/
theorem load_mergeBase (hsource : Document.load r.files e.source = .ok d)
    (hbase : ∀ p, e.base? = some p → Document.load r.files p = .ok d) :
    Document.load r.files (mergeBase e) = .ok d := by
  unfold mergeBase
  rcases hp : e.base? with _ | p
  · exact hsource
  · exact hbase p hp

/-- A launcher with changes has the file of the user as its source, however the path is spelled. -/
theorem same_source_of_dirty (h : e.Sound settings.searchPath name) (hdirty : e.dirty ≠ .none) :
    (settings.searchPath.userPath name).same e.source = true := by
  obtain ⟨rank, hrank, -, hplaces⟩ := h.placed
  rw [h.user_of_dirty hdirty] at hrank
  obtain rfl := Option.some.inj hrank
  exact hplaces.congr.1 (settings.searchPath.places_userPath name)

/-- A save that writes leaves everything in the file of the user but the lines of the changed
fields, at any point of a run: what stands before the first group, all groups in their order, and in
them all lines in theirs, of which only the main group has the exempted ones. The document of the
user counts as it is just before the save, whether or not it speaks for the launcher. Only a file
that a copy of another base would overwrite is left out. -/
theorem user_lines_kept (h : Reachable Action.IsPlaced settings r) (hfind : r.find? name = some e)
    (hload : Document.load r.files (settings.searchPath.userPath name) = .ok d)
    (hbase : ∀ p, e.base? = some p → Document.load r.files p = .ok d)
    (hwritten : (r.flush name).1 = .ok .written) :
    ∃ d', (r.flush name).2.files.readText (settings.searchPath.userPath name) = .ok d'.text ∧
      d.KeepsBut (e.changedSlots settings.locale?) d' ∧
      (d.linesBut (e.changedSlots settings.locale?)).Sublist d'.lines := by
  have hsync := h.inSync fun _ ha => ha
  have hsound := hsync.sound name e hfind
  rcases hresult : r.flush name with ⟨outcome, r'⟩
  rw [hresult] at hwritten
  obtain rfl : outcome = .ok .written := hwritten
  cases flush_step hresult with
  | written e' files find pending write =>
    obtain rfl := Option.some.inj (hfind.symm.trans find)
    have hsame := same_source_of_dirty hsound (hsound.dirty_of_pending pending)
    have hsame' := (Path.same_iff _ _).2 ((Path.same_iff _ _).1 hsame).symm
    obtain ⟨s, hread, hparse⟩ := Document.load_eq_ok_iff.1 hload
    have hnew := (writeUser_eq_ok write).2
    -- The source was written, so it can be read, and it led to the file of the user before too.
    have hsource : Document.load r.files e.source = .ok d :=
      Document.load_eq_ok_iff.2 ⟨s, FileStore.readText_of_readable hsame hread hnew, hparse⟩
    rw [merged_of_load_eq_ok (load_mergeBase hsource hbase), hsync.settings_eq] at hnew
    -- What was written through the source is what the path of the user leads to from then on.
    have hkept := e.keepsBut_mergeInto d settings.locale?
    exact ⟨_, FileStore.readText_of_readable hsame' hnew hread, hkept, hkept.lines_sublist⟩

/-- What the user wrote for another desktop. -/
def otherDesktopText : String :=
  "# mine\n[Desktop Entry]\nName=B\nOnlyShowIn=KDE;\nExec=b\n\n[Other]\nX=1\n"

/-- A run in which the file of the user of a launcher becomes one for another desktop, which does
not speak for the launcher, before the launcher is switched off. -/
def skippedBeforeEdit : Registry :=
  [.scan, .outside (oneUserLauncher.put ⟨"user/a.desktop"⟩ (.file (.text otherDesktopText))),
    .fileChanged ⟨"user/a.desktop"⟩, .setHidden "a.desktop" true].foldl perform
      (fresh userDirectoryOnly oneUserLauncher 0)

/-- The save of a launcher that was switched off leaves what the user wrote for another desktop. -/
theorem kept_skippedBeforeEdit :
    ∃ e d d', skippedBeforeEdit.find? "a.desktop" = some e ∧
      Document.load skippedBeforeEdit.files ⟨"user/a.desktop"⟩ = .ok d ∧
      (skippedBeforeEdit.flush "a.desktop").2.files.readText ⟨"user/a.desktop"⟩ = .ok d'.text ∧
      d.KeepsBut (e.changedSlots none) d' ∧
      d'.text = "# mine\n[Desktop Entry]\nName=B\nOnlyShowIn=KDE;\nExec=b\nHidden=true\n\n" ++
        "[Other]\nX=1\n" := by
  have hreachable : Reachable Action.IsPlaced userDirectoryOnly skippedBeforeEdit :=
    .foldl (.fresh oneUserLauncher 0) (by simp [Action.IsPlaced])
  obtain ⟨e, hfind, hnone⟩ : ∃ e, skippedBeforeEdit.find? "a.desktop" = some e ∧
      e.base? = none := ⟨_, rfl, rfl⟩
  obtain ⟨d, hload⟩ : ∃ d, Document.load skippedBeforeEdit.files ⟨"user/a.desktop"⟩ = .ok d :=
    ⟨_, rfl⟩
  obtain ⟨d', hread, hkept, -⟩ := user_lines_kept hreachable hfind hload
    (fun p hp => by rw [hnone] at hp; cases hp) rfl
  refine ⟨e, d, d', hfind, hload, hread, hkept, Except.ok.inj (hread.symm.trans ?_)⟩
  rfl

/-- A run in which the user already has a file for another desktop when a launcher of the system is
switched off. -/
def skippedCopy : Registry :=
  [.scan, .setHidden "a.desktop" true].foldl perform
    (fresh oneSystemDirectory
      (oneSystemLauncher.put ⟨"user/a.desktop"⟩ (.file (.text otherDesktopText))) 0)

/-- A run in which the user writes a file after a launcher of the system was switched off, and this
is reported before the save. -/
def copyAfterEdit : Registry :=
  [.scan, .setHidden "a.desktop" true,
    .outside (oneSystemLauncher.put ⟨"user/a.desktop"⟩ (.file (.text otherDesktopText))),
    .fileChanged ⟨"user/a.desktop"⟩].foldl perform (fresh oneSystemDirectory oneSystemLauncher 0)

/-- A save loses what the user wrote: the comment, the list of desktops and the other group are gone
from a file that was there before the launcher of the system was edited, and from one that came
after it. In both runs the save copies the base, as if the user had no file yet. -/
theorem lost_otherBase :
    (skippedCopy.files.readText ⟨"user/a.desktop"⟩ = .ok otherDesktopText ∧
      (skippedCopy.flush "a.desktop").1 = .ok .written ∧
      (skippedCopy.flush "a.desktop").2.files.readText ⟨"user/a.desktop"⟩ =
        .ok "[Desktop Entry]\nName=A\nExec=a\nHidden=true\n") ∧
      copyAfterEdit.files.readText ⟨"user/a.desktop"⟩ = .ok otherDesktopText ∧
      (copyAfterEdit.flush "a.desktop").1 = .ok .written ∧
      (copyAfterEdit.flush "a.desktop").2.files.readText ⟨"user/a.desktop"⟩ =
        .ok "[Desktop Entry]\nName=A\nExec=a\nHidden=true\n" := by
  refine ⟨⟨?_, ?_, ?_⟩, ?_, ?_, ?_⟩
  all_goals rfl

end Autostart.Registry
