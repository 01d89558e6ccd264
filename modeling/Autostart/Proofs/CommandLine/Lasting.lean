import Autostart.CommandLine.Run
import Autostart.Proofs.Registry.Switching
import Autostart.Proofs.Registry.SyncState

/-!
# Commands that last

What the commands that switch a launcher off or on, or remove it, leave for the next run. Such a
command edits one launcher of a fresh scan, and the only save of its end is that of this launcher.
So when the program ends with code 0, the next scan finds the launcher as it was switched, under the
conditions under which that save lasts. Without a save there are none, and each is needed: of a file
of the system that does not run on the desktop, of a list of desktops that ends in a carriage
return, and of a file of the system that is that of the user, the save knows nothing.
-/

namespace Autostart

/-! ## Settings of a run -/

/-- Settings that were applied are valid. -/
theorem Settings.validate_of_apply {base settings : Settings} {overrides : Overrides}
    (h : base.apply overrides = .ok settings) : settings.validate = .ok () := by
  unfold apply at h
  dsimp only at h
  split at h
  · next hvalid =>
    obtain rfl := Except.ok.inj h
    exact hvalid
  · cases h

/-- Valid settings have a directory of the user that is not the empty path. -/
theorem Settings.userDirectory_ne_empty {settings : Settings} (h : settings.validate = .ok ()) :
    settings.searchPath.userDirectory.text ≠ "" := by
  intro hempty
  unfold validate at h
  rw [hempty] at h
  split at h
  · cases h
  · cases h

namespace CommandLine

/-- The program runs a command under valid settings. -/
theorem run_eq_runCommand {env : Environment} {files : FileStore} {args : List String}
    {invocation : Invocation} {settings : Settings}
    (hread : Invocation.read env args = .ok invocation)
    (hsettings : settingsOf env files invocation.shared = .ok settings) :
    settings.validate = .ok () ∧ run env files args =
      runCommand (Registry.fresh settings files 0).scan invocation.command := by
  -- With or without a settings file, the options are applied last, which checks the settings.
  have hshared : ∀ overrides?, (invocation.shared.settings env overrides?) = .ok settings →
      settings.validate = .ok () := by
    intro overrides? h
    unfold Shared.settings at h
    dsimp only at h
    split at h
    · exact Settings.validate_of_apply h
    · split at h
      · exact Settings.validate_of_apply h
      · cases h
  refine ⟨?_, ?_⟩
  · unfold settingsOf at hsettings
    dsimp only at hsettings
    split at hsettings
    · cases hsettings
    · next overrides? _ =>
      rcases h : invocation.shared.settings env overrides? with error | settings'
      · rw [h] at hsettings
        cases hsettings
      · rw [h] at hsettings
        obtain rfl : settings' = settings := Except.ok.inj hsettings
        exact hshared overrides? h
  · unfold run
    rw [hread]
    dsimp only
    rw [hsettings]

/-! ## The end of a run -/

section Finish

variable {r : Registry} (out finalOut : String)

/-- A run in which nothing waits for a save leaves the files alone. -/
theorem finish_of_settled (h : ∀ key e, r.find? key = some e → e.isPending = false) :
    (finish r out finalOut).files = r.files := by
  have hnames : r.namesWhere Entry.isPending = [] := by
    refine List.eq_nil_iff_forall_not_mem.2 fun key hkey => ?_
    obtain ⟨e, he, hpending⟩ := Registry.mem_namesWhere_iff.1 hkey
    rw [h key e he] at hpending
    cases hpending
  unfold finish Registry.shutdown
  rw [hnames]
  rfl

/-- A run in which one launcher waits for a save ends well only when the save succeeds, and leaves
the files that the save leaves. -/
theorem finish_of_pending {name : String}
    (h : ∀ key, (∃ e, r.find? key = some e ∧ e.isPending = true) ↔ key = name)
    (hcode : (finish r out finalOut).code = 0) :
    ∃ saved, (r.flush name).1 = .ok saved ∧
      (finish r out finalOut).files = (r.flush name).2.files := by
  -- No name comes twice, so the launchers that are saved at the end are this one.
  have hnames : r.namesWhere Entry.isPending = [name] := by
    refine List.perm_singleton.1 ((List.perm_ext_iff_of_nodup
      (Registry.nodup_namesWhere r Entry.isPending) (List.nodup_singleton name)).2 fun key => ?_)
    rw [Registry.mem_namesWhere_iff, h key, List.mem_singleton]
  unfold finish Registry.shutdown at hcode ⊢
  rw [hnames] at hcode ⊢
  unfold Registry.flushEach at hcode ⊢
  rcases hflush : r.flush name with ⟨error | saved, r'⟩
  · rw [hflush] at hcode
    cases hcode
  · exact ⟨saved, rfl, rfl⟩

end Finish

/-! ## Commands -/

/-- The registry of the next run, which scans the files that a run left. -/
def Outcome.next (o : Outcome) (settings : Settings) : Registry :=
  (Registry.fresh settings o.files 0).scan

/-- A removal that ends well deleted the launcher and saved what was left. -/
theorem exists_of_runRemove {r : Registry} {name : String}
    (hcode : (runCommand r (.remove name)).code = 0) :
    ∃ out, Registry.DeleteStep r name (.ok ()) (r.delete name).2 ∧
      runCommand r (.remove name) = finish (r.delete name).2 out "" := by
  unfold runCommand at hcode ⊢
  dsimp only at hcode ⊢
  rcases hresult : r.delete name with ⟨error | ⟨⟩, r'⟩
  · rw [hresult] at hcode
    cases hcode
  · dsimp only
    split
    · exact ⟨_, Registry.delete_step hresult, rfl⟩
    · exact ⟨_, Registry.delete_step hresult, rfl⟩

section Commands

variable {settings : Settings} {files : FileStore} {name : String} {r : Registry}
  (hscanned : Registry.Scanned (Registry.fresh settings files 0)
    (Registry.fresh settings files 0).sightings r)
include hscanned

/-- Nothing waits for a save after a scan. -/
theorem settled_of_scanned {key : String} {e : Entry} (hfind : r.find? key = some e) :
    e.isPending = false := by
  have hmerged := hscanned.mergedFrom key
  rw [hfind] at hmerged
  exact hmerged.settled.1

/-- Only the launcher that was switched waits for a save. -/
theorem exists_pending_iff {e : Entry} (hidden : Bool) (key : String) :
    (∃ e', (r.commit name (Registry.switched e hidden)).find? key = some e' ∧
      e'.isPending = true) ↔ key = name := by
  have hfind : (r.commit name (Registry.switched e hidden)).find? key =
      if key = name then some ((Registry.switched e hidden).schedule r.searchPath r.dueTime)
      else r.find? key := by
    unfold Registry.commit
    rw [Registry.find?_tell, Registry.find?_set]
  rw [hfind]
  split
  · next heq =>
    refine iff_of_true ⟨_, rfl, ?_⟩ heq
    unfold Entry.schedule
    split <;> rfl
  · next hne =>
    refine iff_of_false ?_ hne
    rintro ⟨e', he', hpending⟩
    rw [settled_of_scanned hscanned he'] at hpending
    cases hpending

/-- A run that leaves the files alone leaves what the scan found. -/
theorem find?_next_of_files_eq {o : Outcome} (h : o.files = files) :
    (o.next settings).find? name = r.find? name := by
  unfold Outcome.next
  rw [h]
  exact (hscanned.mergedFrom name).eq_rescanned

/-- A launcher that only the user has is gone once its file is removed. -/
theorem find?_next_eq_none {e : Entry} (hfind : r.find? name = some e)
    (hrank : e.rank? = some SearchPath.userRank) (hshadow : e.shadow? = none) {files' : FileStore}
    (hremoved : Registry.withoutFile r.files e.source = .ok files') {o : Outcome}
    (ho : o.files = files') : (o.next settings).find? name = none := by
  have hmerged := hscanned.mergedFrom name
  rw [hfind] at hmerged
  -- Without a shadow the scan found no copy in the system, whether it can be used or not.
  obtain ⟨rank, dir, d, shadow?, hheld, -, -, he, hspec⟩ := hmerged
  obtain rfl : rank = SearchPath.userRank := by
    rw [he] at hrank
    exact Option.some.inj hrank
  obtain rfl : shadow? = none := by
    rw [he] at hshadow
    exact hshadow
  obtain rfl : settings.searchPath.userDirectory = dir := Option.some.inj hheld.1
  have hsource : e.source = settings.searchPath.userPath name := he ▸ rfl
  rw [if_neg (Nat.lt_irrefl _)] at hspec
  rw [hscanned.files_eq, hsource] at hremoved
  unfold Outcome.next
  rw [ho]
  exact Registry.find?_scan_eq_none hremoved hspec

variable (huser : settings.searchPath.userDirectory.text ≠ "")
include huser

/-- A run that ends well after a switch leaves the launcher as it was switched. -/
theorem exists_of_finish_switched {e : Entry} (hfind : r.find? name = some e) {hidden : Bool}
    (hsteady : (r.commit name (Registry.switched e hidden)).Steady name) {out finalOut : String}
    (hcode : (finish (r.commit name (Registry.switched e hidden)) out finalOut).code = 0) :
    ∃ found, ((finish (r.commit name (Registry.switched e hidden)) out finalOut).next
      settings).find? name = some found ∧ found.hidden = hidden := by
  obtain ⟨saved, hsaved, hfiles⟩ :=
    finish_of_pending out finalOut (exists_pending_iff hscanned hidden) hcode
  unfold Outcome.next
  rw [hfiles]
  exact Registry.find?_scan_of_switched huser hscanned hfind hsteady hsaved

/-- A command that switches a launcher and ends well leaves it as it was switched. -/
theorem exists_of_runToggle {hidden : Bool}
    (hsteady : (r.setHidden name hidden).2.Steady name)
    (hcode : (runToggle r name hidden).code = 0) :
    ∃ found, ((runToggle r name hidden).next settings).find? name = some found ∧
      found.hidden = hidden := by
  unfold runToggle at hcode ⊢
  rcases hresult : r.setHidden name hidden with ⟨outcome, r'⟩
  rw [hresult] at hcode hsteady
  cases Registry.setHidden_step hresult with
  | unknown => cases hcode
  | same e find same =>
    -- The files stay, and the launcher was that way.
    refine ⟨e, ?_, same⟩
    rw [find?_next_of_files_eq hscanned, find]
    exact (finish_of_settled _ _ fun _ _ => settled_of_scanned hscanned).trans hscanned.files_eq
  | switched e find => exact exists_of_finish_switched hscanned huser find hsteady hcode

/-- A removal that ends well leaves no launcher, or one that is switched off. -/
theorem hidden_of_remove (hsteady : (r.delete name).2.Steady name)
    (hcode : (runCommand r (.remove name)).code = 0) {found : Entry}
    (hfound : ((runCommand r (.remove name)).next settings).find? name = some found) :
    found.hidden = true := by
  obtain ⟨out, hdelete, hrun⟩ := exists_of_runRemove hcode
  generalize (r.delete name).2 = r' at hdelete hrun hsteady
  cases hdelete with
  | removed e files' find own removed =>
    -- The file of the user is gone, and no other was there.
    have hsettled : ∀ key e',
        (({ r with files := files' }.drop name).tell (.removed name)).find? key = some e' →
        e'.isPending = false := by
      intro key e' he'
      rw [Registry.find?_tell, Registry.find?_drop] at he'
      split at he'
      · cases he'
      · exact settled_of_scanned hscanned he'
    have hfiles : (runCommand r (.remove name)).files = files' := by
      rw [hrun]
      exact finish_of_settled out "" hsettled
    rw [find?_next_eq_none hscanned find own.1 own.2 removed hfiles] at hfound
    cases hfound
  | switched e find =>
    -- The launcher of the system is switched off instead.
    rw [hrun] at hcode hfound
    obtain ⟨found', hfound', hhidden⟩ :=
      exists_of_finish_switched hscanned huser find hsteady hcode
    obtain rfl := Option.some.inj (hfound'.symm.trans hfound)
    exact hhidden

end Commands

/-! ## Runs of the program -/

section Run

variable {env : Environment} {files : FileStore} {args : List String} {invocation : Invocation}
  {settings : Settings} {name : String}

/-- When the program ends well after a launcher was switched off or removed, the next scan finds it
switched off or not at all, and when it ends well after one was switched on, the next scan finds it
switched on. What this takes is asked of the launcher as it waits for the save at the end. -/
theorem switches_last (hread : Invocation.read env args = .ok invocation)
    (hsettings : settingsOf env files invocation.shared = .ok settings)
    (hcode : (run env files args).code = 0) :
    (invocation.command = .disable name →
      ((Registry.fresh settings files 0).scan.setHidden name true).2.Steady name →
      ∀ found, ((run env files args).next settings).find? name = some found →
        found.hidden = true) ∧
    (invocation.command = .remove name →
      ((Registry.fresh settings files 0).scan.delete name).2.Steady name →
      ∀ found, ((run env files args).next settings).find? name = some found →
        found.hidden = true) ∧
    (invocation.command = .enable name →
      ((Registry.fresh settings files 0).scan.setHidden name false).2.Steady name →
      ∃ found, ((run env files args).next settings).find? name = some found ∧
        found.hidden = false) := by
  obtain ⟨hvalid, hrun⟩ := run_eq_runCommand hread hsettings
  have huser := Settings.userDirectory_ne_empty hvalid
  have hscanned := Registry.scanned_scan (r := Registry.fresh settings files 0) fun _ => rfl
  rw [hrun] at hcode ⊢
  refine ⟨fun hdisable hsteady found hfound => ?_, fun hremove hsteady found hfound => ?_,
    fun henable hsteady => ?_⟩
  · rw [hdisable] at hcode hfound
    obtain ⟨found', hfound', hhidden⟩ := exists_of_runToggle hscanned huser hsteady hcode
    obtain rfl := Option.some.inj (hfound'.symm.trans hfound)
    exact hhidden
  · rw [hremove] at hcode hfound
    exact hidden_of_remove hscanned huser hsteady hcode hfound
  · rw [henable] at hcode ⊢
    exact exists_of_runToggle hscanned huser hsteady hcode

end Run

/-- The outcome of a command on `a.desktop`, for some directories of the system. -/
def commandRun (files : FileStore) (systemDirectories : List String) (command : String) : Outcome :=
  run (fun _ => none) files (["--user-dir", "user"] ++
    systemDirectories.flatMap (["--system-dir", ·]) ++ [command, "a.desktop"])

/-- Files with a launcher of the system that the user switched off. -/
def oneHiddenCopy : FileStore :=
  Registry.oneSystemLauncher.put ⟨"user/a.desktop"⟩
    (.file (.text "[Desktop Entry]\nName=A\nExec=a\nHidden=true\n"))

/-- Files with a launcher of the user, which the system has for another desktop, and of which a line
ends in a carriage return. -/
def oneShownCopy : FileStore :=
  (Registry.oneUserLauncher.put ⟨"user/a.desktop"⟩
    (.file (.text "[Desktop Entry]\nName=A\nExec=a\n# mine\r\r\n"))).put ⟨"system/a.desktop"⟩
      (.file (.text "[Desktop Entry]\nName=A\nExec=a\nOnlyShowIn=KDE;\n"))

/-- The registry of a scan of some files, in which the only launcher is switched. -/
def switchedTo (files : FileStore) (hidden : Bool) : Registry :=
  ((Registry.fresh Registry.oneSystemDirectory files 0).scan.setHidden "a.desktop" hidden).2

/-- A launcher that gives way to a file of the system for all desktops in another place is steady. -/
theorem steady_oneHiddenCopy : (switchedTo oneHiddenCopy false).Steady "a.desktop" := by
  obtain ⟨e, hfind, htwin, hsource⟩ : ∃ e, (switchedTo oneHiddenCopy false).find? "a.desktop" =
      some e ∧ (switchedTo oneHiddenCopy false).twin? e = some (1, ⟨"system/a.desktop"⟩) ∧
      e.source = ⟨"user/a.desktop"⟩ := ⟨_, rfl, rfl, rfl⟩
  refine ⟨fun e' rank path d hfind' _ htwin' hload => ?_,
    fun e' rank path hfind' _ htwin' _ => ?_, fun e' d hfind' _ hnone => ?_⟩
  all_goals obtain rfl := Option.some.inj (hfind.symm.trans hfind')
  · obtain ⟨rfl, rfl⟩ := Prod.mk.inj (Option.some.inj (htwin.symm.trans htwin'))
    cases hload
    rfl
  · obtain ⟨rfl, rfl⟩ := Prod.mk.inj (Option.some.inj (htwin.symm.trans htwin'))
    rw [hsource]
    decide
  · cases htwin.symm.trans hnone

/-- A launcher that is written is steady when only other lines than its lists of desktops end in
carriage returns, whatever the file of the system says of desktops. -/
theorem steady_oneShownCopy : (switchedTo oneShownCopy true).Steady "a.desktop" := by
  obtain ⟨e, hfind, htwin, hbase⟩ : ∃ e, (switchedTo oneShownCopy true).find? "a.desktop" =
      some e ∧ (switchedTo oneShownCopy true).twin? e = none ∧
      Registry.mergeBase e = ⟨"user/a.desktop"⟩ := ⟨_, rfl, rfl, rfl⟩
  refine ⟨fun e' rank path d hfind' _ htwin' => ?_,
    fun e' rank path hfind' _ htwin' => ?_, fun e' d hfind' _ _ hload => ?_⟩
  all_goals obtain rfl := Option.some.inj (hfind.symm.trans hfind')
  · cases htwin.symm.trans htwin'
  · cases htwin.symm.trans htwin'
  · rw [hbase] at hload
    cases hload
    exact ⟨nofun, nofun⟩

/-- A launcher of the system that the user switched off is switched on again, and one of the user
that the system has for another desktop is switched off. -/
theorem switched_onAndOff :
    ((commandRun oneHiddenCopy ["system"] "enable").code = 0 ∧
      ∃ found, ((commandRun oneHiddenCopy ["system"] "enable").next
        Registry.oneSystemDirectory).find? "a.desktop" = some found ∧ found.hidden = false) ∧
    (commandRun oneShownCopy ["system"] "disable").code = 0 ∧
      ∃ found, ((commandRun oneShownCopy ["system"] "disable").next
        Registry.oneSystemDirectory).find? "a.desktop" = some found ∧ found.hidden = true := by
  have hon : (commandRun oneHiddenCopy ["system"] "enable").code = 0 := rfl
  have hoff : (commandRun oneShownCopy ["system"] "disable").code = 0 := rfl
  refine ⟨⟨hon, (switches_last rfl rfl hon).2.2 rfl steady_oneHiddenCopy⟩, hoff, ?_⟩
  obtain ⟨found, hfound⟩ : ∃ found, ((commandRun oneShownCopy ["system"] "disable").next
      Registry.oneSystemDirectory).find? "a.desktop" = some found := ⟨_, rfl⟩
  exact ⟨found, hfound, (switches_last rfl rfl hoff).1 rfl steady_oneShownCopy found hfound⟩

/-- Files with a launcher that the user switched off, which the system has for another desktop. -/
def oneForeignLauncher : FileStore :=
  oneHiddenCopy.put ⟨"system/a.desktop"⟩
    (.file (.text "[Desktop Entry]\nName=A\nExec=a\nOnlyShowIn=KDE;\n"))

/-- Files with a launcher that the user and a second directory of the system have switched on, and a
first one has switched off for another desktop. -/
def oneForeignCopy : FileStore :=
  (Registry.oneUserLauncher.put ⟨"first/a.desktop"⟩
    (.file (.text "[Desktop Entry]\nName=A\nExec=a\nHidden=true\nOnlyShowIn=KDE;\n"))).put
      ⟨"second/a.desktop"⟩ (.file (.text "[Desktop Entry]\nName=A\nExec=a\n"))

/-- Files with a launcher of the system and a copy of the user, which runs on this desktop only
while its last line ends in a carriage return. -/
def oneReturnedLine : FileStore :=
  Registry.oneSystemLauncher.put ⟨"user/a.desktop"⟩
    (.file (.text "[Desktop Entry]\nName=A\nExec=a\nNotShowIn=MATE\r\r\n"))

/-- Files with a launcher that the user switched off, which a second directory of the system has. -/
def oneHiddenSecond : FileStore :=
  ((FileStore.atDirectory []).put ⟨"user/a.desktop"⟩
    (.file (.text "[Desktop Entry]\nName=A\nExec=a\nHidden=true\n"))).put ⟨"second/a.desktop"⟩
      (.file (.text "[Desktop Entry]\nName=A\nExec=a\n"))

/-- Commands that end well do not last when the next scan uses another file than the save left: the
file of the user gives way to one that does not run on this desktop, so that nothing is switched on
and something else is not switched off; a written file does not run on this desktop any more; or the
file of the user is removed in favour of itself. -/
theorem forgotten_switches :
    ((commandRun oneForeignLauncher ["system"] "enable").code = 0 ∧
      ((commandRun oneForeignLauncher ["system"] "enable").next
        Registry.oneSystemDirectory).find? "a.desktop" = none) ∧
    ((commandRun oneForeignCopy ["first", "second"] "disable").code = 0 ∧
      (((commandRun oneForeignCopy ["first", "second"] "disable").next
        (.ofDirectories ⟨⟨"user"⟩, [⟨"first"⟩, ⟨"second"⟩]⟩)).find? "a.desktop").map Entry.hidden =
          some false) ∧
    ((commandRun oneReturnedLine ["system"] "disable").code = 0 ∧
      (((commandRun oneReturnedLine ["system"] "disable").next
        Registry.oneSystemDirectory).find? "a.desktop").map Entry.hidden = some false) ∧
    ((commandRun oneHiddenSecond ["./user", "second"] "remove").code = 0 ∧
      (((commandRun oneHiddenSecond ["./user", "second"] "remove").next
        (.ofDirectories ⟨⟨"user"⟩, [⟨"./user"⟩, ⟨"second"⟩]⟩)).find? "a.desktop").map Entry.hidden =
          some false) := by
  decide +kernel

end CommandLine

end Autostart
