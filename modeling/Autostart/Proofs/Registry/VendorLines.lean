import Autostart.Proofs.Entry.Overwriting
import Autostart.Proofs.Registry.Changes
import Autostart.Proofs.Registry.UserCopies

/-!
# What a save keeps of its base

A save writes the lines of its base, of which only those of the changed fields may have given way,
with the lines of the changed fields that had none. So a user who changes a launcher of the system
gets the file of the vendor with all its comments, keys, translations and groups.
-/

namespace Autostart.Registry

variable {allowed : Action → Prop} {settings : Settings} {r : Registry} {name : String} {e : Entry}
  {d : Document}

/-- A save that writes gives its file the lines of the merge base, line by line and in their order,
but for the values of the changed fields. That holds at any point of any run, of every base that can
be read and parsed. The file is that of the user, however its path is spelled, in every run that
loads files only where the search path places them. -/
theorem vendor_lines_kept (h : Reachable allowed settings r) (hfind : r.find? name = some e)
    (hload : Document.load r.files (mergeBase e) = .ok d)
    (hwritten : (r.flush name).1 = .ok .written) :
    ∃ s d', r.files.readText (mergeBase e) = .ok s ∧ d.lines = Text.lines s ∧
      (r.flush name).2.files.readText e.source = .ok (Document.joinLines d'.lines) ∧
      Document.Overwritten (e.writes d settings.locale?) d d' ∧
      ((∀ a, allowed a → a.IsPlaced) →
        (settings.searchPath.userPath name).same e.source = true) := by
  obtain ⟨s, hread, hparse⟩ := Document.load_eq_ok_iff.1 hload
  have hlines := (Document.isRead_of_parse hparse).2
  refine ⟨s, e.mergeInto d settings.locale?, hread, hlines, ?_,
    e.overwritten_mergeInto d settings.locale?, fun hplaced => ?_⟩
  · obtain ⟨files, hwrite, hafter⟩ := flush_of_written hfind hwritten
    have hnew := (writeUser_eq_ok hwrite).2
    rw [merged_of_load_eq_ok hload, h.settings_eq] at hnew
    rw [hafter]
    exact hnew
  · have hsound := (h.inSync hplaced).sound name e hfind
    -- Only a launcher with changes is saved.
    have hpending : e.isPending = true := by
      rcases hresult : r.flush name with ⟨outcome, r'⟩
      rw [hresult] at hwritten
      obtain rfl : outcome = .ok .written := hwritten
      cases flush_step hresult with
      | written e' files find pending write =>
        obtain rfl := Option.some.inj (hfind.symm.trans find)
        exact pending
    exact same_source_of_dirty hsound (hsound.dirty_of_pending hpending)

/-- The settings of a user of German with one directory of the system. -/
def germanDesktop : Settings :=
  { oneSystemDirectory with locale? := some ⟨"de", none, none, none⟩ }

/-- What a vendor installs: comments, a translation, an empty text, a key twice, odd spacing and an
action. -/
def vendorText : String :=
  "# vendor\n[Desktop Entry]\nName=A\nName[de]=B\nComment=\nX-Tool = a\nExec = a\nExec=b\n\n" ++
    "# action\n[Desktop Action New]\nExec=a --new\n"

/-- A run in which a launcher of a vendor gets a comment and another command line. -/
def vendorEdited : Registry :=
  [.scan, .update "a.desktop" (some "B") (some "C") (some "c") 0].foldl perform
    (fresh germanDesktop
      ((FileStore.atDirectory []).put ⟨"system/a.desktop"⟩ (.file (.text vendorText))) 0)

/-- What the save of the changes of a vendor's launcher writes: the new comment takes the place of
the empty one for everybody else and gets a line for German after the last key. -/
def vendorTextAfter : String :=
  "# vendor\n[Desktop Entry]\nName=A\nName[de]=B\nComment=C\nX-Tool = a\nExec=c\nExec=b\n" ++
    "Comment[de]=C\n\n# action\n[Desktop Action New]\nExec=a --new\n"

set_option maxRecDepth 8000 in
/-- The save of a launcher of a vendor keeps the lines of its file. -/
theorem lines_vendorEdited :
    ∃ e d d', vendorEdited.find? "a.desktop" = some e ∧ d.lines = Text.lines vendorText ∧
      Document.Overwritten (e.writes d germanDesktop.locale?) d d' ∧
      (vendorEdited.flush "a.desktop").2.files.readText ⟨"user/a.desktop"⟩ =
        .ok (Document.joinLines d'.lines) ∧
      Document.joinLines d'.lines = vendorTextAfter := by
  have hreachable : Reachable Action.IsPlaced germanDesktop vendorEdited :=
    .foldl (.fresh _ 0) (by simp [Action.IsPlaced])
  obtain ⟨e, d, hfind, hbase, hsource, hload⟩ : ∃ e d, vendorEdited.find? "a.desktop" = some e ∧
      mergeBase e = ⟨"system/a.desktop"⟩ ∧ e.source = ⟨"user/a.desktop"⟩ ∧
      Document.load vendorEdited.files (mergeBase e) = .ok d := ⟨_, _, rfl, rfl, rfl, rfl⟩
  obtain ⟨s, d', hread, hlines, hnew, hover, -⟩ := vendor_lines_kept hreachable hfind hload rfl
  rw [hbase] at hread
  obtain rfl : vendorText = s := Except.ok.inj hread
  rw [hsource] at hnew
  exact ⟨e, d, d', hfind, hlines, hover, hnew, Except.ok.inj (hnew.symm.trans rfl)⟩

end Autostart.Registry
