import Autostart.Proofs.Document.StoredTexts
import Autostart.Proofs.Registry.Editing
import Autostart.Proofs.Registry.Flushing
import Autostart.Proofs.Registry.Rescan

/-!
# Launchers that are switched off or on

A launcher that a scan found is switched off or on and saved at once. The save writes a copy of the
user, which goes before all others, or takes the copy of the user away in favour of the file of the
system that says the same. A later scan finds the launcher as it was switched, if what is left can
be used: the lists of desktops of a written copy have to read as they were written, and the file of
the system has to run on the desktop and must not be the removed copy under another spelling.
-/

namespace Autostart

/-- A launcher that is switched off or on, written and read again may run where it did, when its
lists of desktops do not end in a carriage return. -/
theorem Entry.isLaunchable_reread {d : Document} (h : d.IsRead)
    (honly : d.EndsPlainly Document.Key.onlyShowIn) (hnot : d.EndsPlainly Document.Key.notShowIn)
    (hidden : Bool) (desktops : List String) :
    isLaunchable (d.setFlag Document.Key.hidden hidden).reread desktops =
      isLaunchable d desktops := by
  unfold isLaunchable Document.items? Document.setFlag
  rw [h.rawValue?_reread_store (by decide) honly, h.rawValue?_reread_store (by decide) hnot]

/-- A document of which the launcher is switched off or on is read again from its text. -/
theorem Document.IsStart.parse_text_setFlag {d : Document} (h : d.IsStart) (hidden : Bool) :
    parse (d.setFlag Key.hidden hidden).text = .ok (d.setFlag Key.hidden hidden).reread := by
  have hlocale : ∀ suffix, (none : Option String) = some suffix → IsSuffix suffix := nofun
  exact parse_text_store (Field.isPlainKey .hidden) hlocale h (by cases hidden <;> decide)

/-- A truth value that is stored, written and read again is the stored one. -/
theorem Document.flag_reread_setFlag (d : Document) (key : String) (value default : Bool) :
    (d.setFlag key value).reread.flag key default = value := by
  unfold flag setFlag
  rw [rawValue?_reread, rawValue?_store, if_pos ⟨rfl, rfl⟩]
  cases value <;> rfl

namespace Registry

/-! ## The launcher to save -/

/-- A launcher waits for the save of one change to another, that it is switched off or on. -/
structure AwaitsSwitch (s : SearchPath) (e : Entry) (hidden : Bool) (e' : Entry) : Prop where
  /-- It is switched. -/
  hidden_eq : e'.hidden = hidden
  /-- Nothing else waits. -/
  dirty_eq : e'.dirty = FieldSet.none.insert .hidden
  /-- The change is merged into the file of the other. -/
  base_eq : mergeBase e' = e.source
  /-- It goes to the directory of the user. -/
  source_eq : e'.source = s.userPath e.filename
  /-- It stands at the rank of the user. -/
  rank_eq : e'.rank? = some SearchPath.userRank
  /-- The shadow is the same. -/
  shadow_eq : e'.shadow? = e.shadow?
  /-- The file name is the same. -/
  filename_eq : e'.filename = e.filename

/-- A launcher without changes that is switched waits for the save of this. -/
theorem awaitsSwitch_schedule {s : SearchPath} {e : Entry} (hsettled : e.dirty = .none)
    (hbase : e.base? = none)
    (hsource : e.rank? = some SearchPath.userRank → e.source = s.userPath e.filename)
    (hidden : Bool) (due : Nat) :
    AwaitsSwitch s e hidden ((switched e hidden).schedule s due) := by
  have hdirty : (switched e hidden).dirty = FieldSet.none.insert .hidden := by
    unfold switched
    rw [hsettled]
  have hnobase : (switched e hidden).base? = none := hbase
  unfold Entry.schedule
  split
  · next huser =>
    refine ⟨rfl, hdirty, ?_, hsource huser, huser, rfl, rfl⟩
    show (switched e hidden).base?.getD e.source = e.source
    rw [hnobase]
    rfl
  · refine ⟨rfl, hdirty, ?_, rfl, rfl, rfl, rfl⟩
    show (switched e hidden).base?.getD e.source = e.source
    rw [hnobase]
    rfl

/-- Storing that a launcher is switched changes one truth value. -/
theorem AwaitsSwitch.mergeInto_eq {s : SearchPath} {e e' : Entry} {hidden : Bool}
    (h : AwaitsSwitch s e hidden e') (d : Document) (locale? : Option Locale) :
    e'.mergeInto d locale? = d.setFlag Document.Key.hidden hidden := by
  have hfields : (FieldSet.none.insert .hidden).toList = [.hidden] := rfl
  unfold Entry.mergeInto
  rw [h.dirty_eq, hfields, ← h.hidden_eq]
  rfl

/-! ## A written copy -/

section Next

variable {settings : Settings} {files files' : FileStore} {name : String}

/-- A launcher that was written to the file of the user is found as it was switched. -/
theorem find?_scan_of_written (huser : settings.searchPath.userDirectory.text ≠ "")
    (hlauncher : Entry.isFilename name = true) (hname : Path.IsFileName name) {r : Registry}
    {e e' : Entry} {hidden : Bool} (h : AwaitsSwitch settings.searchPath e hidden e')
    (hfilename : e.filename = name) {d : Document}
    (hload : Document.load r.files e.source = .ok d)
    (honly : d.EndsPlainly Document.Key.onlyShowIn) (hnot : d.EndsPlainly Document.Key.notShowIn)
    (hruns : Entry.isLaunchable d settings.desktops = true)
    (hwrite : r.writeUser e'.source (r.merged (undue e')) = (.ok (), files')) :
    ∃ found, (Registry.fresh settings files' 0).scan.find? name = some found ∧
      found.hidden = hidden := by
  have hsource : e'.source = settings.searchPath.userDirectory.join name := by
    rw [h.source_eq, hfilename]
    rfl
  have hmerged : r.merged (undue e') = d.setFlag Document.Key.hidden hidden := by
    rw [merged_of_load_eq_ok (h.base_eq ▸ hload), h.mergeInto_eq]
  obtain ⟨s, -, hparse⟩ := Document.load_eq_ok_iff.1 hload
  rw [hmerged] at hwrite
  have hstart : d.IsStart := .parsed s d hparse
  have hreload := load_of_writeUser hwrite (hstart.parse_text_setFlag hidden)
  rw [hsource] at hreload
  -- The one value is none of the lists of desktops, so the copy runs where the old file did.
  have hreads : (Registry.fresh settings files' 0).Reads
      (settings.searchPath.userDirectory.join name)
      (d.setFlag Document.Key.hidden hidden).reread :=
    ⟨hreload, (Entry.isLaunchable_reread hstart.spec.1 honly hnot hidden _).trans hruns⟩
  obtain ⟨shadow?, hfound⟩ := find?_rescanned_of_user (r := Registry.fresh settings files' 0)
    huser hlauncher hname hreads
  exact ⟨_, hfound, Document.flag_reread_setFlag d Document.Key.hidden hidden false⟩

/-! ## A removed copy -/

/-- The directories hold no other copies without the file of the user, and not that of the user. -/
theorem holds_of_withoutFile
    (hremoved : withoutFile files (settings.searchPath.userPath name) = .ok files') {rank : Nat}
    {dir : Path} (h : (Registry.fresh settings files' 0).Holds name rank dir) :
    SearchPath.userRank < rank ∧ (Registry.fresh settings files 0).Holds name rank dir := by
  have hdir := h.ne_empty
  obtain ⟨hat, hlauncher, hname, hfile⟩ := (holds_iff hdir).1 h
  refine ⟨?_, (holds_iff hdir).2 ⟨hat, hlauncher, hname, ?_⟩⟩
  · rcases Nat.eq_zero_or_pos rank with rfl | hpos
    · obtain rfl : settings.searchPath.userDirectory = dir := Option.some.inj hat
      exact absurd ((isFile_of_withoutFile hremoved).symm.trans hfile) (by decide)
    · exact hpos
  · obtain ⟨l, c, hstat⟩ := FileStore.isFile_iff.1 hfile
    exact FileStore.isFile_iff.2 ⟨l, c, stat_of_withoutFile hremoved hstat⟩

/-- What reads without the file of the user read before. -/
theorem reads_of_withoutFile
    (hremoved : withoutFile files (settings.searchPath.userPath name) = .ok files') {q : Path}
    {d : Document} (h : (Registry.fresh settings files' 0).Reads q d) :
    (Registry.fresh settings files 0).Reads q d := by
  obtain ⟨s, hread, hparse⟩ := Document.load_eq_ok_iff.1 h.1
  obtain ⟨l, hstat⟩ := FileStore.readText_eq_ok_iff.1 hread
  have hread' : files.readText q = .ok s :=
    FileStore.readText_eq_ok_iff.2 ⟨l, stat_of_withoutFile hremoved hstat⟩
  exact ⟨Document.load_eq_ok_iff.2 ⟨s, hread', hparse⟩, h.2⟩

/-- Without the file of the user the first copy of the system that can be used is found, unless it
is the removed file under another spelling. -/
theorem find?_scan_of_withoutFile
    (hremoved : withoutFile files (settings.searchPath.userPath name) = .ok files') {rank : Nat}
    {dir : Path} {d : Document} (hheld : (Registry.fresh settings files 0).Holds name rank dir)
    (hreads : (Registry.fresh settings files 0).Reads (dir.join name) d)
    (hplace : files.locationOf (dir.join name) ≠
      files.locationOf (settings.searchPath.userPath name))
    (hfirst : ∀ rank' dir' d', SearchPath.userRank < rank' →
      (Registry.fresh settings files 0).Holds name rank' dir' →
      (Registry.fresh settings files 0).Reads (dir'.join name) d' → rank ≤ rank') :
    ∃ found, (Registry.fresh settings files' 0).scan.find? name = some found ∧
      found.hidden = d.flag Document.Key.hidden false := by
  -- A copy that stands elsewhere is not touched by the removal.
  have hkeeps := (withoutFile_spec hremoved).1
  have hheld' : (Registry.fresh settings files' 0).Holds name rank dir := by
    obtain ⟨hat, hlauncher, hname, hfile⟩ := (holds_iff hheld.ne_empty).1 hheld
    exact (holds_iff hheld.ne_empty).2 ⟨hat, hlauncher, hname, hkeeps.isFile hfile hplace⟩
  have hreads' : (Registry.fresh settings files' 0).Reads (dir.join name) d :=
    ⟨Document.load_of_keeps hkeeps hreads.1 hplace, hreads.2⟩
  obtain ⟨shadow?, hfound⟩ := find?_rescanned_of_reads hheld' hreads'
    fun rank' dir' d' hheld'' hreads'' => by
      obtain ⟨hsystem, hbefore⟩ := holds_of_withoutFile hremoved hheld''
      exact hfirst rank' dir' d' hsystem hbefore (reads_of_withoutFile hremoved hreads'')
  exact ⟨_, hfound, rfl⟩

/-- Without the only copy of the user nothing is found when the system holds none. -/
theorem find?_scan_eq_none
    (hremoved : withoutFile files (settings.searchPath.userPath name) = .ok files')
    (hnone : Lowest ((Registry.fresh settings files 0).HeldInSystem name) none) :
    (Registry.fresh settings files' 0).scan.find? name = none := by
  have hmerged := mergedFrom_rescanned (Registry.fresh settings files' 0) name
  rcases hfind : (Registry.fresh settings files' 0).rescanned.find? name with _ | e
  · exact hfind
  · rw [hfind] at hmerged
    obtain ⟨rank, dir, d, shadow?, hheld, -⟩ := hmerged
    obtain ⟨hsystem, hbefore⟩ := holds_of_withoutFile hremoved hheld
    exact absurd ⟨hsystem, dir, hbefore⟩ (hnone rank)

end Next

/-! ## A switch that is saved -/

/-- What the save that a launcher waits for needs so that its switch lasts. A launcher that does not
wait for a save needs nothing. -/
structure Steady (r : Registry) (name : String) : Prop where
  /-- A file of the system that the launcher gives way to may run on this desktop. -/
  runs : ∀ e rank path d, r.find? name = some e → e.isPending = true →
    r.twin? e = some (rank, path) → Document.load r.files path = .ok d →
    Entry.isLaunchable d r.settings.desktops = true
  /-- It is not the file of the user, which is removed, under another spelling. -/
  apart : ∀ e rank path, r.find? name = some e → e.isPending = true →
    r.twin? e = some (rank, path) → e.source.same path = false →
    r.files.locationOf path ≠ r.files.locationOf e.source
  /-- In a file that the changes are merged into, the lists of desktops do not end in a carriage
  return. -/
  ending : ∀ e d, r.find? name = some e → e.isPending = true → r.twin? e = none →
    Document.load r.files (mergeBase e) = .ok d →
    d.EndsPlainly Document.Key.onlyShowIn ∧ d.EndsPlainly Document.Key.notShowIn

section Switched

variable {settings : Settings} {files : FileStore} {name : String} {r : Registry}
  (hscanned : Scanned (Registry.fresh settings files 0)
    (Registry.fresh settings files 0).sightings r)
  {e : Entry} (hfind : r.find? name = some e)
include hscanned hfind

/-- The file of the system below a launcher goes before all copies of the system that can be
used. -/
theorem first_of_shadow {rank : Nat} {path : Path} (hshadow : e.shadow? = some rank)
    (hpath : r.searchPath.pathAt? rank name = some path) :
    ∃ dir, path = dir.join name ∧ (Registry.fresh settings files 0).Holds name rank dir ∧
      ∀ rank' dir' d', SearchPath.userRank < rank' →
        (Registry.fresh settings files 0).Holds name rank' dir' →
        (Registry.fresh settings files 0).Reads (dir'.join name) d' → rank ≤ rank' := by
  have hmerged := hscanned.mergedFrom name
  rw [hfind] at hmerged
  obtain ⟨own, dir, d₀, shadow?, hheld, -, hleast, he, hspec⟩ := hmerged
  obtain rfl : shadow? = some rank := by
    rw [← hshadow, he]
  -- The path is that of the copy that the directory of the rank holds.
  have hjoin : ∀ dir', (Registry.fresh settings files 0).Holds name rank dir' →
      path = dir'.join name := by
    intro dir' hheld'
    have hpath' : (Registry.fresh settings files 0).searchPath.pathAt? rank name = some path := by
      rw [← hpath]
      unfold searchPath
      rw [hscanned.settings_eq]
    exact Option.some.inj (hpath'.symm.trans (SearchPath.pathAt?_of_directoryAt? hheld'.1 name))
  split at hspec
  · obtain rfl : rank = own := Option.some.inj hspec
    exact ⟨dir, hjoin dir hheld, hheld, fun rank' dir' d' _ => hleast rank' dir' d'⟩
  · obtain ⟨⟨-, dir', hheld'⟩, hlowest⟩ := hspec
    exact ⟨dir', hjoin dir' hheld', hheld', fun rank' dir'' d' hsystem hheld'' _ =>
      hlowest rank' ⟨hsystem, dir'', hheld''⟩⟩

/-- When the file of the system that a save compares a launcher with is that of the user by its
components, the launcher was made from it. -/
theorem hidden_of_same {rank : Nat} {dir : Path} {d : Document} (hshadow : e.shadow? = some rank)
    (hheld : (Registry.fresh settings files 0).Holds name rank dir)
    (hreads : (Registry.fresh settings files 0).Reads (dir.join name) d)
    (hsame : (settings.searchPath.userPath name).same (dir.join name) = true) :
    e.hidden = d.flag Document.Key.hidden false := by
  have hmerged := hscanned.mergedFrom name
  rw [hfind] at hmerged
  obtain ⟨own, ownDir, ownDocument, shadow?, hown, hownReads, -, he, hspec⟩ := hmerged
  obtain rfl : shadow? = some rank := by
    rw [← hshadow, he]
  have hdocument : ownDocument = d := by
    split at hspec
    · obtain rfl : rank = own := Option.some.inj hspec
      obtain rfl : dir = ownDir := Option.some.inj (hheld.1.symm.trans hown.1)
      exact hownReads.unique hreads
    · -- The launcher is that of the user, whose file reads like the other.
      next huserOwn =>
      obtain rfl : own = SearchPath.userRank := Nat.le_zero.1 (Nat.not_lt.1 huserOwn)
      obtain rfl : settings.searchPath.userDirectory = ownDir := Option.some.inj hown.1
      have htexts := FileStore.readText_of_same hsame hown.2.2.2 hheld.2.2.2
      obtain ⟨s, hread, hparse⟩ := Document.load_eq_ok_iff.1 hownReads.1
      obtain ⟨s', hread', hparse'⟩ := Document.load_eq_ok_iff.1 hreads.1
      obtain rfl : s = s' := Except.ok.inj (hread.symm.trans (htexts.trans hread'))
      exact Except.ok.inj (hparse.symm.trans hparse')
  rw [he, hdocument]
  rfl

/-- A launcher that gives way to a file of the system that says how it was switched is found as it
was switched. -/
theorem find?_scan_of_back {e' : Entry} {hidden : Bool}
    (hwait : AwaitsSwitch settings.searchPath e hidden e') {rank : Nat} {path : Path} {d : Document}
    (hshadow : e.shadow? = some rank) (hpath : r.searchPath.pathAt? rank name = some path)
    (hreads : (Registry.fresh settings files 0).Reads path d)
    (hagrees : e'.agreesWith d settings.locale? = true)
    (hapart : e'.source.same path = false → files.locationOf path ≠ files.locationOf e'.source)
    {files' : FileStore} (hremoved : withoutOverride files (undue e') path = .ok files') :
    ∃ found, (Registry.fresh settings files' 0).scan.find? name = some found ∧
      found.hidden = hidden := by
  have hflag : d.flag Document.Key.hidden false = hidden :=
    ((Entry.follows_of_agreesWith hagrees).1 .hidden).trans hwait.hidden_eq
  obtain ⟨dir, rfl, hheld, hfirst⟩ := first_of_shadow hscanned hfind hshadow hpath
  have hmerged := hscanned.mergedFrom name
  have hrescanned := hmerged.eq_rescanned
  rw [hfind] at hmerged hrescanned
  have hfilename : e.filename = name := by
    obtain ⟨-, -, -, -, -, -, -, rfl, -⟩ := hmerged
    rfl
  have hsource : e'.source = settings.searchPath.userPath name := by
    rw [← hfilename]
    exact hwait.source_eq
  have hsource' : (undue e').source = settings.searchPath.userPath name := hsource
  have huser : (undue e').rank? = some SearchPath.userRank := hwait.rank_eq
  rw [hsource] at hapart
  unfold withoutOverride at hremoved
  rw [hsource', huser] at hremoved
  rcases hsame : (settings.searchPath.userPath name).same (dir.join name) with _ | _
  · rw [if_pos (by simp [hsame])] at hremoved
    split at hremoved
    · next hwithout =>
      obtain rfl := Except.ok.inj hremoved
      obtain ⟨found, hfound, hsays⟩ :=
        find?_scan_of_withoutFile hwithout hheld hreads (hapart hsame) hfirst
      exact ⟨found, hfound, hsays.trans hflag⟩
    · cases hremoved
  · -- The file of the system is that of the user, so nothing is removed.
    rw [if_neg (by simp [hsame])] at hremoved
    obtain rfl := Except.ok.inj hremoved
    have hown := hidden_of_same hscanned hfind hshadow hheld hreads hsame
    exact ⟨e, hrescanned, hown.trans hflag⟩

/-- A launcher that was switched waits for the save of this. -/
theorem exists_awaitsSwitch (hidden : Bool) :
    ∃ e', (r.commit name (switched e hidden)).find? name = some e' ∧
      AwaitsSwitch settings.searchPath e hidden e' := by
  have hmerged := hscanned.mergedFrom name
  rw [hfind] at hmerged
  obtain ⟨rank, dir, d, shadow?, hheld, -, -, he, -⟩ := hmerged
  have hsource : e.rank? = some SearchPath.userRank →
      e.source = settings.searchPath.userPath e.filename := by
    intro huser
    obtain rfl : rank = SearchPath.userRank := by
      rw [he] at huser
      exact Option.some.inj huser
    obtain rfl : settings.searchPath.userDirectory = dir := Option.some.inj hheld.1
    rw [he]
    rfl
  refine ⟨(switched e hidden).schedule settings.searchPath r.dueTime, ?_,
    awaitsSwitch_schedule (he ▸ rfl) (he ▸ rfl) hsource hidden r.dueTime⟩
  rw [find?_commit]
  unfold searchPath
  rw [hscanned.settings_eq]
  rfl

end Switched

/-- A switch of a launcher that a scan found is found by a later scan, once it is saved. -/
theorem find?_scan_of_switched {settings : Settings} {files : FileStore} {name : String}
    (huser : settings.searchPath.userDirectory.text ≠ "") {r : Registry}
    (hscanned : Scanned (Registry.fresh settings files 0)
      (Registry.fresh settings files 0).sightings r)
    {e : Entry} (hfind : r.find? name = some e) {hidden : Bool}
    (hsteady : (r.commit name (switched e hidden)).Steady name)
    {saved : Saved} (hsaved : ((r.commit name (switched e hidden)).flush name).1 = .ok saved) :
    ∃ found, (Registry.fresh settings ((r.commit name (switched e hidden)).flush name).2.files
        0).scan.find? name = some found ∧ found.hidden = hidden := by
  have hmerged := hscanned.mergedFrom name
  rw [hfind] at hmerged
  obtain ⟨rank, dir, d, shadow?, hheld, hreads, -, he, -⟩ := hmerged
  have hfilename : e.filename = name := he ▸ rfl
  have hsource : e.source = dir.join name := he ▸ rfl
  obtain ⟨e', hcommitted, hwait⟩ := exists_awaitsSwitch hscanned hfind hidden
  have hfiles : (r.commit name (switched e hidden)).files = files := hscanned.files_eq
  have hsettings : (r.commit name (switched e hidden)).settings = settings := hscanned.settings_eq
  have hpath : (r.commit name (switched e hidden)).searchPath = r.searchPath := rfl
  generalize r.commit name (switched e hidden) = r₁ at *
  rcases hresult : r₁.flush name with ⟨outcome, r₂⟩
  rw [hresult] at hsaved
  obtain rfl : outcome = .ok saved := hsaved
  cases flush_step hresult with
  | idle e'' find settled =>
    obtain rfl := Option.some.inj (hcommitted.symm.trans find)
    have hdirty := hwait.dirty_eq
    simp [Entry.isPending, hdirty, FieldSet.isEmpty, FieldSet.insert, FieldSet.none] at settled
  | back e'' rank' path files' find pending twin removed =>
    obtain rfl := Option.some.inj (hcommitted.symm.trans find)
    obtain ⟨hshadow, hat, d', hload, hagrees⟩ := twin?_spec twin
    have hruns := hsteady.runs e' rank' path d' find pending twin hload
    have hapart := hsteady.apart e' rank' path find pending twin
    have hshadow' : e.shadow? = some rank' := hwait.shadow_eq.symm.trans hshadow
    have hat' : r.searchPath.pathAt? rank' name = some path := by
      rw [← hpath, ← hfilename, ← hwait.filename_eq]
      exact hat
    rw [hfiles] at hload hapart removed
    rw [hsettings] at hagrees hruns
    exact find?_scan_of_back hscanned hfind hwait hshadow' hat' ⟨hload, hruns⟩ hagrees hapart
      removed
  | written e'' files' find pending write twin =>
    obtain rfl := Option.some.inj (hcommitted.symm.trans find)
    have hload : Document.load r₁.files e.source = .ok d := by
      rw [hfiles, hsource]
      exact hreads.1
    obtain ⟨honly, hnot⟩ := hsteady.ending e' d find pending twin (hwait.base_eq ▸ hload)
    exact find?_scan_of_written huser hheld.2.1 hheld.isFileName hwait hfilename hload honly hnot
      hreads.2 write

end Registry

end Autostart
