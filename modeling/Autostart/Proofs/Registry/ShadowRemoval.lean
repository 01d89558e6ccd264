import Autostart.Proofs.Registry.Storable
import Autostart.Proofs.Registry.UserFiles

/-!
# Launchers that give way to the system

A save takes the file of the user away when the file of the system below it says what the launcher
holds. What decides this is a comparison field by field, and the launcher in memory is only pointed
at the other file. When every copy can be used and has a name to show, a new registry makes the same
launcher from the files that are left, up to texts that are absent in one and empty in the other.
This needs that no directory of the system is the one of the user, whose file is gone, and that no
directory of the system becomes reachable when the one of the user is made.
-/

namespace Autostart.Registry

/-- Every file of a launcher in the directories can be read, may run on this desktop, and has a name
to show. -/
def Presentable (r : Registry) : Prop :=
  ∀ name rank dir, r.Holds name rank dir →
    ∃ d, r.Reads (dir.join name) d ∧
      Text.isMissing (d.localText? Document.Key.name r.settings.locale?) = false

/-- Whether every file in the directories can be read, may run on this desktop, and has a name to
show. -/
def canPresentAll (r : Registry) : Bool :=
  r.allDocuments fun d => Entry.isLaunchable d r.settings.desktops &&
    !Text.isMissing (d.localText? Document.Key.name r.settings.locale?)

/-- Every file of a launcher has a name to show when every file has. -/
theorem presentable_of_canPresentAll {r : Registry} (h : r.canPresentAll = true) :
    r.Presentable := by
  intro name rank dir hheld
  obtain ⟨d, hload, htest⟩ := load_of_allDocuments h hheld
  rw [Bool.and_eq_true, Bool.not_eq_true'] at htest
  exact ⟨d, ⟨hload, htest.1⟩, htest.2⟩

/-- Files that have a name to show can all be used. -/
theorem Presentable.usable {r : Registry} (h : r.Presentable) : r.Usable := by
  intro name rank dir hheld
  obtain ⟨d, hreads, -⟩ := h name rank dir hheld
  exact ⟨d, hreads⟩

/-- No directory of the system stands where the one of the user does, whatever the spelling. -/
def StandsApart (s : SearchPath) (fs : FileStore) : Prop :=
  ∀ dir ∈ s.systemDirectories, fs.locationOf dir ≠ fs.locationOf s.userDirectory

/-- The path of every file of a name in a directory of the system leads there, if the directory has
a name. -/
def ReachesCopies (s : SearchPath) (fs : FileStore) (name : String) : Prop :=
  ∀ dir ∈ s.systemDirectories, dir.text ≠ "" → ∀ c,
    fs.node? (fs.locationOf (dir.join name)) = some (.file c) → fs.isFile (dir.join name) = true

/-- A directory of a rank of the system is one of the system. -/
theorem mem_systemDirectories {s : SearchPath} {rank : Nat} {dir : Path}
    (h : s.directoryAt? rank = some dir) (hsystem : SearchPath.userRank < rank) :
    dir ∈ s.systemDirectories := by
  obtain ⟨n, rfl⟩ := Nat.exists_eq_succ_of_ne_zero (Nat.ne_of_gt hsystem)
  exact List.mem_of_getElem? h

/-- The file of a system that stands apart is none of the user. -/
theorem StandsApart.locationOf_ne {s : SearchPath} {fs : FileStore} (h : StandsApart s fs)
    {dir : Path} (hdir : dir ∈ s.systemDirectories) {name : String} (hname : Path.IsFileName name)
    (name' : String) :
    fs.locationOf (dir.join name) ≠ fs.locationOf s.userDirectory ++ [name'] := by
  rw [fs.locationOf_join dir hname]
  intro heq
  exact h dir hdir (List.append_singleton_inj.1 heq).1

namespace SinceScan

variable {settings : Settings} {files : FileStore} {r : Registry}

/-- The copies in the directories of the system are alike since the scan. -/
theorem alike (h : SinceScan settings files r) (hapart : StandsApart settings.searchPath files)
    {key : String} (hreaches : ReachesCopies settings.searchPath files key)
    (hkey : Path.IsFileName key) {dir : Path} (hdir : dir ∈ settings.searchPath.systemDirectories)
    (hnamed : dir.text ≠ "") : files.Alike r.files (dir.join key) :=
  (h.leaves.leaves _ (hapart.locationOf_ne hdir hkey)).alike (hreaches dir hdir hnamed)

/-- The directories of the system hold the same copies since the scan. -/
theorem holds_iff (h : SinceScan settings files r) (hapart : StandsApart settings.searchPath files)
    {key : String} (hreaches : ReachesCopies settings.searchPath files key) {rank : Nat}
    (hsystem : SearchPath.userRank < rank) (dir : Path) (now : Nat) :
    r.Holds key rank dir ↔ (Registry.fresh settings files now).Holds key rank dir := by
  have hsettings : r.settings = settings := h.reachable.settings_eq
  by_cases hat : settings.searchPath.directoryAt? rank = some dir
  · by_cases hdir : dir.text = ""
    · exact iff_of_false (fun hheld => hheld.ne_empty hdir) fun hheld => hheld.ne_empty hdir
    · exact holds_iff_of_alike hsettings hdir fun hkey =>
        h.alike hapart hreaches hkey (mem_systemDirectories hat hsystem) hdir
  · exact iff_of_false (fun hheld => hat (h.searchPath_eq ▸ hheld.1)) fun hheld => hat hheld.1

end SinceScan

/-! ## Icons -/

/-- A launcher with a due save has the icon of before. -/
theorem icon?_schedule (e : Entry) (s : SearchPath) (due : Nat) :
    (e.schedule s due).icon? = e.icon? ∧ (e.schedule s due).iconSpec? = e.iconSpec? := by
  unfold Entry.schedule
  split <;> exact ⟨rfl, rfl⟩

/-- In every run a launcher shows the icon that its text specifies. -/
theorem Reachable.icon?_eq {allowed : Action → Prop} {settings : Settings} {r : Registry}
    (h : Reachable allowed settings r) {key : String} {e : Entry} (hfind : r.find? key = some e) :
    e.icon? = e.iconSpec?.map Icon.ofSpec := by
  have hschedule : ∀ (e' : Entry) (s : SearchPath) (due : Nat),
      e'.icon? = e'.iconSpec?.map Icon.ofSpec →
        (e'.schedule s due).icon? = (e'.schedule s due).iconSpec?.map Icon.ofSpec := by
    intro e' s due hicon
    obtain ⟨hsame, hspec⟩ := icon?_schedule e' s due
    rw [hsame, hspec, hicon]
  refine h.entry_invariant (P := fun _ e => e.icon? = e.iconSpec?.map Icon.ofSpec) ?_ hfind
  intro a key before? after? _ hchange hbefore e he
  -- Only a launcher that is made anew gets an icon, and it gets it from its text.
  cases hchange with
  | dropped => cases he
  | made before? path d rank shadow? isFileName settled =>
    obtain rfl := Option.some.inj he
    rfl
  | command before? request path due isFileName action =>
    obtain rfl := Option.some.inj he
    exact hschedule _ _ _ rfl
  | edited e' name? comment? exec? delay due =>
    obtain rfl := Option.some.inj he
    exact hschedule _ _ _ (hbefore e' rfl)
  | switched e' hidden due =>
    obtain rfl := Option.some.inj he
    exact hschedule _ _ _ (hbefore e' rfl)
  | shadowed e' =>
    obtain rfl := Option.some.inj he
    exact hbefore e' rfl
  | reported e' =>
    obtain rfl := Option.some.inj he
    exact hbefore e' rfl
  | undue e' =>
    obtain rfl := Option.some.inj he
    exact hbefore e' rfl
  | saved e' =>
    obtain rfl := Option.some.inj he
    exact hbefore e' rfl
  | back e' =>
    obtain rfl := Option.some.inj he
    exact hbefore e' rfl

/-! ## The launcher that is left -/

namespace SinceScan

variable {settings : Settings} {files : FileStore} {now : Nat} {r : Registry}

/-- The file of the system that says what a launcher holds is the copy of the lowest rank of the
system, as it was at the scan. -/
theorem reads_twin (h : SinceScan settings files r)
    (hpresentable : (Registry.fresh settings files now).Presentable)
    (hapart : StandsApart settings.searchPath files) {key : String} {e : Entry}
    (hfind : r.find? key = some e) {rank : Nat} {path : Path}
    (htwin : r.twin? (undue e) = some (rank, path)) :
    ∃ dir d, path = dir.join key ∧
      Lowest ((Registry.fresh settings files now).HeldInSystem key) (some rank) ∧
      (Registry.fresh settings files now).Holds key rank dir ∧
      (Registry.fresh settings files now).Reads path d ∧ r.Reads path d ∧
      Text.isMissing (d.localText? Document.Key.name settings.locale?) = false ∧
      e.agreesWith d settings.locale? = true := by
  obtain ⟨hshadow, hpath, d', hload, hagrees⟩ := twin?_spec htwin
  have hlowest := h.shadow key e rank hfind hshadow
  obtain ⟨hsystem, dir, hheld⟩ := hlowest.1
  -- The path is that of the copy that the shadow names.
  have hfilename : (undue e).filename = key := (h.sound hfind).filename_eq
  have hjoin : path = dir.join key := by
    have hat : settings.searchPath.pathAt? rank key = some (dir.join key) :=
      SearchPath.pathAt?_of_directoryAt? hheld.1 key
    rw [hfilename, h.searchPath_eq, hat] at hpath
    exact (Option.some.inj hpath).symm
  obtain ⟨d, hreads, hnamed⟩ := hpresentable key rank dir hheld
  -- The copy still reads as it did at the scan.
  have hleaves := h.leaves.leaves (dir.join key)
    (hapart.locationOf_ne (mem_systemDirectories hheld.1 hsystem) hheld.isFileName)
  have hkept : Document.load r.files (dir.join key) = .ok d := by
    obtain ⟨s, hread, hparse⟩ := Document.load_eq_ok_iff.1 hreads.1
    exact Document.load_eq_ok_iff.2 ⟨s, hleaves.readText s hread, hparse⟩
  rw [hjoin, hkept] at hload
  obtain rfl : d = d' := Except.ok.inj hload
  have hsettings : r.settings = settings := h.reachable.settings_eq
  refine ⟨dir, d, hjoin, hlowest, hheld, hjoin ▸ hreads, ⟨hjoin ▸ hkept, ?_⟩, hnamed, ?_⟩
  · rw [hsettings]
    exact hreads.2
  · rw [← hsettings]
    exact hagrees

/-- After a save in favour of the system the directory of the user does not hold the launcher. -/
theorem not_holds_user (h : SinceScan settings files r)
    (hapart : StandsApart settings.searchPath files) {key : String} {e : Entry}
    (hfind : r.find? key = some e) (hpending : e.isPending = true) {dir : Path}
    (hdir : dir ∈ settings.searchPath.systemDirectories) {files' : FileStore}
    (hremoved : withoutOverride r.files (undue e) (dir.join key) = .ok files') :
    files'.isFile (settings.searchPath.userPath key) = false := by
  have hkey := h.reachable.isFileName hfind
  have huser := (h.sound hfind).user_of_dirty ((h.sound hfind).dirty_of_pending hpending)
  have hsource : e.source = settings.searchPath.userPath key := h.source key e hfind huser
  have hother : e.source.same (dir.join key) = false := by
    refine Bool.eq_false_iff.2 fun hsame => ?_
    have hcomponents := (Path.same_iff _ _).1 hsame
    rw [hsource] at hcomponents
    refine hapart.locationOf_ne hdir hkey key ?_
    rw [files.locationOf_eq, ← hcomponents, ← files.locationOf_eq]
    exact files.locationOf_join _ hkey
  unfold withoutOverride at hremoved
  rw [if_pos (by simp [undue, huser, hother])] at hremoved
  split at hremoved
  · next hwithout =>
    obtain rfl := Except.ok.inj hremoved
    rw [← hsource]
    exact isFile_of_withoutFile hwithout
  · cases hremoved

/-- After a save in favour of the system, a new registry makes the launcher from the file that the
launcher in memory was pointed at. -/
theorem rescanned_of_shadowRemoved (h : SinceScan settings files r)
    (hpresentable : (Registry.fresh settings files now).Presentable)
    (hapart : StandsApart settings.searchPath files) {key : String} {e : Entry}
    (hreaches : ReachesCopies settings.searchPath files key) (hfind : r.find? key = some e)
    (hremoved : (r.flush key).1 = .ok .shadowRemoved) :
    ∃ rank path d, (r.flush key).2.find? key = some (backToSystem (undue e) rank path) ∧
      e.shadow? = some rank ∧ e.agreesWith d settings.locale? = true ∧
      Text.isMissing (d.localText? Document.Key.name settings.locale?) = false ∧
      (r.flush key).2.rescanned.find? key =
        some { Entry.ofDocument key path d settings.locale? rank with shadow? := some rank } := by
  have hafter := h.flush key
  obtain ⟨rank, path, files', hpending, htwin, hfiles, hend⟩ :=
    flush_of_shadowRemoved hfind hremoved
  obtain ⟨dir, d, rfl, hlowest, hheld, hreads, -, hnamed, hagrees⟩ :=
    h.reads_twin hpresentable hapart hfind htwin
  have hsystem := hlowest.1.1
  have hdir := mem_systemDirectories hheld.1 hsystem
  have hgone := h.not_holds_user hapart hfind hpending hdir hfiles
  have hkey := hheld.isFileName
  refine ⟨rank, dir.join key, d, ?_, (twin?_spec htwin).1, hagrees, hnamed, ?_⟩
  · rw [hend, find?_set_self]
  · have hsettings : (r.flush key).2.settings = settings := hafter.reachable.settings_eq
    have hstill : (r.flush key).2.Reads (dir.join key) d :=
      (reads_iff_of_alike (r := Registry.fresh settings files now) hsettings
        (hafter.alike hapart hreaches hkey hdir hheld.ne_empty) d).2 hreads
    refine MergedFrom.eq_rescanned ⟨rank, dir, d, some rank,
      (hafter.holds_iff hapart hreaches hsystem dir now).2 hheld, hstill,
      fun rank' dir' d' hheld' _ => ?_, by rw [hsettings], ?_⟩
    · rcases Nat.eq_zero_or_pos rank' with rfl | hsystem'
      · -- Only the file of the user could come first, and it is gone.
        have hat : (r.flush key).2.searchPath.userDirectory = dir' := Option.some.inj hheld'.1
        have hfile := hheld'.2.2.2
        rw [← hat, hafter.searchPath_eq, hend] at hfile
        exact absurd (hgone.symm.trans hfile) (by decide)
      · exact hlowest.2 rank' ⟨hsystem',
          dir', (hafter.holds_iff hapart hreaches hsystem' dir' now).1 hheld'⟩
    · rw [if_pos hsystem]

end SinceScan

/-- When every copy of every launcher can be used and has a name to show, no directory of the system
stands where that of the user does, and every file of the name in a directory of the system is
reached through it, a save in favour of the system after any edits since a scan leaves the launcher
that a new registry finds: at the same rank, from the same source, with the same shadow, and the
same in every field and the icon, where an absent text counts as empty. -/
theorem rescan_after_shadowRemoved {settings : Settings} {files : FileStore} {now : Nat}
    (hpresentable : (Registry.fresh settings files now).Presentable)
    (hapart : StandsApart settings.searchPath files) {key : String}
    (hreaches : ReachesCopies settings.searchPath files key) {edits : List Action}
    (hedits : ∀ a ∈ edits, a.IsEdit) {r : Registry}
    (hrun : edits.foldl perform ((Registry.fresh settings files now).perform .scan) = r)
    (hremoved : (r.flush key).1 = .ok .shadowRemoved) :
    ∃ held found, (r.flush key).2.find? key = some held ∧
      (r.flush key).2.rescanned.find? key = some found ∧
      found.rank? = held.rank? ∧ found.source = held.source ∧ found.shadow? = held.shadow? ∧
      (∀ f, found.SameOn held f) ∧ found.SameIcon held ∧
      held.icon? = held.iconSpec?.map Icon.ofSpec ∧
      found.icon? = found.iconSpec?.map Icon.ofSpec := by
  have h : SinceScan settings files r :=
    hrun ▸ (SinceScan.scan settings files now hpresentable.usable).foldl hedits
  obtain ⟨e, hfind⟩ : ∃ e, r.find? key = some e := by
    rcases hfind : r.find? key with _ | e
    · unfold Registry.flush at hremoved
      rw [hfind] at hremoved
      cases hremoved
    · exact ⟨e, rfl⟩
  obtain ⟨rank, path, d, hheld, hshadow, hagrees, hnamed, hfound⟩ :=
    h.rescanned_of_shadowRemoved hpresentable hapart hreaches hfind hremoved
  obtain ⟨hfields, hicon⟩ := Entry.follows_of_agreesWith hagrees
  refine ⟨_, _, hheld, hfound, rfl, rfl, hshadow.symm, fun f => ?_, ?_,
    (h.flush key).reachable.icon?_eq hheld, rfl⟩
  · have hmade := (Entry.sameOn_ofDocument_iff hnamed key path rank e f).2 (hfields f)
    cases f <;> exact hmade
  · exact (Entry.sameIcon_ofDocument_iff key path rank e).2 hicon

/-! ## Runs on few files -/

/-- A launcher is switched off, which is saved, and switched on again. -/
def offAndOn : List Action :=
  [.setHidden "a.desktop" true, .flush "a.desktop", .setHidden "a.desktop" false]

/-- A scan of some files, and a launcher that is switched off, which is saved, and on again. -/
def switchedOffAndOn (settings : Settings) (files : FileStore) : Registry :=
  offAndOn.foldl perform ((Registry.fresh settings files 0).perform .scan)

/-- Switching a launcher off and on is an edit. -/
theorem isEdit_of_mem_offAndOn : ∀ a ∈ offAndOn, a.IsEdit := by
  simp [offAndOn, Action.IsEdit]

/-- The only launcher of the system, which was switched off and on again, is left as a new registry
finds it. -/
theorem rescan_switchedOffAndOn :
    ((switchedOffAndOn oneSystemDirectory oneSystemLauncher).flush
        "a.desktop").1 = .ok .shadowRemoved ∧
    ∃ held found, ((switchedOffAndOn oneSystemDirectory oneSystemLauncher).flush
        "a.desktop").2.find? "a.desktop" = some held ∧
      ((switchedOffAndOn oneSystemDirectory oneSystemLauncher).flush
        "a.desktop").2.rescanned.find? "a.desktop" = some found ∧
      found.rank? = held.rank? ∧ found.SameOn held .hidden ∧ found.SameOn held .name := by
  have hapart : StandsApart oneSystemDirectory.searchPath oneSystemLauncher := by
    intro dir hdir
    obtain rfl : dir = ⟨"system"⟩ := List.mem_singleton.1 hdir
    decide
  have hreaches : ReachesCopies oneSystemDirectory.searchPath oneSystemLauncher "a.desktop" := by
    intro dir hdir _ _ _
    obtain rfl : dir = ⟨"system"⟩ := List.mem_singleton.1 hdir
    rfl
  obtain ⟨held, found, hheld, hfound, hrank, -, -, hfields, -⟩ :=
    rescan_after_shadowRemoved (presentable_of_canPresentAll rfl) hapart hreaches
      isEdit_of_mem_offAndOn (rfl : _ = switchedOffAndOn oneSystemDirectory oneSystemLauncher) rfl
  exact ⟨rfl, held, found, hheld, hfound, hrank, hfields .hidden, hfields .name⟩

/-- Files with a launcher of the system and a copy of the user, which says the same but that its
comment is empty and that it is left out of lists. -/
def oneUnlistedCopy : FileStore :=
  oneSystemLauncher.put ⟨"user/a.desktop"⟩
    (.file (.text "[Desktop Entry]\nName=A\nExec=a\nComment=\nNoDisplay=true\n"))

/-- A scan of some files, and a launcher that is switched off and on again before any save. -/
def onAgain (settings : Settings) (files : FileStore) : Registry :=
  [.scan, .setHidden "a.desktop" true, .setHidden "a.desktop" false].foldl perform
    (fresh settings files 0)

/-- The copy of the user, switched off and on again. -/
def unlistedAgain : Registry :=
  onAgain oneSystemDirectory oneUnlistedCopy

/-- The settings of a user whose directory is one of the system under another spelling. -/
def sameDirectoryTwice : Settings :=
  .ofDirectories ⟨⟨"user"⟩, [⟨"./user"⟩]⟩

/-- The only launcher of a directory that is listed twice, switched off and on again. -/
def twiceAgain : Registry :=
  onAgain sameDirectoryTwice oneUserLauncher

/-- The settings of a user with two directories of the system, of which the first is named by a
detour through that of the user. -/
def detourDirectory : Settings :=
  .ofDirectories ⟨⟨"user"⟩, [⟨"user/../first"⟩, ⟨"second"⟩]⟩

/-- Files with a launcher that both directories of the system define. -/
def oneTwofoldLauncher : FileStore :=
  ((FileStore.atDirectory []).put ⟨"first/a.desktop"⟩
    (.file (.text "[Desktop Entry]\nName=A\nExec=a\n"))).put ⟨"second/a.desktop"⟩
      (.file (.text "[Desktop Entry]\nName=A\nExec=a\n"))

/-- The launcher of the second directory, switched off, which is saved, and on again. -/
def detourAgain : Registry :=
  switchedOffAndOn detourDirectory oneTwofoldLauncher

/-- A save in favour of the system is seen by a new registry in three ways, though every copy can be
used and has a name to show: the launcher in memory is still left out of lists and its empty comment
is not the absent one of the file; the only file is gone when both directories are the same; and a
directory that could not be reached before that of the user was made goes before the one that the
launcher in memory was pointed at. -/
theorem visible_shadowRemovals :
    ((fresh oneSystemDirectory oneUnlistedCopy 0).Presentable ∧
      (unlistedAgain.flush "a.desktop").1 = .ok .shadowRemoved ∧
      ∃ held found, (unlistedAgain.flush "a.desktop").2.find? "a.desktop" = some held ∧
        (unlistedAgain.flush "a.desktop").2.rescanned.find? "a.desktop" = some found ∧
        held.noDisplay = true ∧ found.noDisplay = false ∧
        held.comment? = some "" ∧ found.comment? = none) ∧
    ((fresh sameDirectoryTwice oneUserLauncher 0).Presentable ∧
      (twiceAgain.flush "a.desktop").1 = .ok .shadowRemoved ∧
      (twiceAgain.flush "a.desktop").2.rescanned.find? "a.desktop" = none) ∧
    ((fresh detourDirectory oneTwofoldLauncher 0).Presentable ∧
      (detourAgain.flush "a.desktop").1 = .ok .shadowRemoved ∧
      ((detourAgain.flush "a.desktop").2.find? "a.desktop").bind Entry.rank? = some 2 ∧
      ((detourAgain.flush "a.desktop").2.rescanned.find? "a.desktop").bind Entry.rank? =
        some 1) := by
  have hheld : ((unlistedAgain.flush "a.desktop").2.find? "a.desktop").map
      (fun e => (e.noDisplay, e.comment?)) = some (true, some "") := rfl
  have hfound : ((unlistedAgain.flush "a.desktop").2.rescanned.find? "a.desktop").map
      (fun e => (e.noDisplay, e.comment?)) = some (false, none) := rfl
  obtain ⟨held, hheld, hmemory⟩ := Option.map_eq_some_iff.1 hheld
  obtain ⟨found, hfound, hfile⟩ := Option.map_eq_some_iff.1 hfound
  obtain ⟨hunlisted, hempty⟩ := Prod.mk.inj hmemory
  obtain ⟨hlisted, habsent⟩ := Prod.mk.inj hfile
  exact ⟨⟨presentable_of_canPresentAll rfl, rfl, held, found, hheld, hfound, hunlisted, hlisted,
    hempty, habsent⟩, ⟨presentable_of_canPresentAll rfl, rfl, rfl⟩,
    presentable_of_canPresentAll rfl, rfl, rfl, rfl⟩

end Autostart.Registry
