import Autostart.Proofs.Registry.Confinement
import Autostart.Proofs.Registry.Reports
import Autostart.Proofs.Registry.ShadowRanks
import Autostart.Proofs.Registry.ShadowRemoval

/-!
# Shadows between edits and saves

The shadow of a launcher is kept up to date in four places: a scan and a report of a new file lower
it, a report of a removal looks for the next rank, and a save in favour of the system makes it the
rank of the launcher. Edits and saves write files of the user only, so between the reports nothing
in the system changes, and after each report the shadow is again the lowest rank of the system that
holds the name. One report is lost: while a launcher waits for its save, a report that the file of
its shadow was removed is ignored like one about its own file, and the save keeps the shadow.
-/

namespace Autostart

namespace Registry

variable {settings : Settings} {r r' : Registry} {name : String} {rank : Nat} {dir path : Path}

/-! ## Edits and saves -/

/-- What edits and saves launchers, with the steps of the clock between them. -/
def Action.IsDeferred : Action → Prop
  | .update _ _ _ _ _ | .setHidden _ _ | .flush _ | .runDueSaves => True
  | .advance _ | .subscribe | .unsubscribe _ => True
  | _ => False

/-- Edits and saves are done by the registry itself. -/
theorem Action.IsDeferred.isInternal {a : Action} (h : a.IsDeferred) : a.IsInternal := by
  cases a <;> first | exact h.elim | trivial

/-- Edits and saves keep all shadows. -/
theorem shadowOf?_perform (r : Registry) {a : Action} (ha : a.IsDeferred) (key : String) :
    (r.perform a).shadowOf? key = r.shadowOf? key := by
  cases a with
  | update name name? comment? exec? delay =>
    exact shadowOf?_update r name name? comment? exec? delay key
  | setHidden name hidden => exact shadowOf?_setHidden r name hidden key
  | flush name => exact shadowOf?_flush r name key
  | runDueSaves =>
    exact flushEach_invariant (P := fun r' => r'.shadowOf? key = r.shadowOf? key) rfl
      (fun r' name h => (shadowOf?_flush r' name key).trans h) _
  | advance milliseconds => rfl
  | subscribe => rfl
  | unsubscribe id => rfl
  | scan | load | fileChanged | fileRemoved | delete | create | copyFrom | close | shutdown
  | outside => exact ha.elim

/-! ## Files of the system -/

/-- No directory of the system stands where that of the user does, and every file in a directory of
the system is reached through the path of the directory. -/
structure SeesSystem (s : SearchPath) (fs : FileStore) : Prop where
  /-- The directories of the system stand apart. -/
  apart : StandsApart s fs
  /-- The files in them are reached. -/
  reaches : ∀ name, Path.IsFileName name → ReachesCopies s fs name

/-- Whether no directory of the system stands where that of the user does, and each of them reaches
everything at its place. -/
def canSeeSystem (s : SearchPath) (fs : FileStore) : Bool :=
  s.systemDirectories.all fun dir => fs.locationOf dir != fs.locationOf s.userDirectory &&
    (fs.namesBelow (fs.locationOf dir)).all fun name => fs.isFile (dir.join name)

/-- The system is seen when each directory of it stands apart and reaches everything at its
place. -/
theorem seesSystem_of_canSeeSystem {s : SearchPath} {fs : FileStore}
    (h : canSeeSystem s fs = true) : SeesSystem s fs := by
  have hall : ∀ dir ∈ s.systemDirectories, fs.locationOf dir ≠ fs.locationOf s.userDirectory ∧
      ∀ name ∈ fs.namesBelow (fs.locationOf dir), fs.isFile (dir.join name) = true := by
    simpa [canSeeSystem] using h
  refine ⟨fun dir hdir => (hall dir hdir).1, fun name hname dir hdir _ c hc => ?_⟩
  rw [fs.locationOf_join dir hname] at hc
  exact (hall dir hdir).2 name (FileStore.mem_namesBelow hname hc)

section Confined

variable {s : SearchPath} {written : String → Prop} {fs fs' : FileStore} (h : SeesSystem s fs)
  (hconfined : Confined s written fs fs')
include h hconfined

/-- What is confined to the directory of the user leaves the files of the system. -/
theorem SeesSystem.leaves (hdir : dir ∈ s.systemDirectories) (hname : Path.IsFileName name) :
    fs.Leaves fs' (dir.join name) := by
  refine hconfined.touches.leaves ?_
  rintro ⟨name', heq⟩
  exact h.apart.locationOf_ne hdir hname name' heq

/-- The files of the system are seen as before. -/
theorem SeesSystem.alike (hdir : dir ∈ s.systemDirectories) (hnamed : dir.text ≠ "")
    (hname : Path.IsFileName name) : fs.Alike fs' (dir.join name) :=
  (h.leaves hconfined hdir hname).alike (h.reaches name hname dir hdir hnamed)

/-- The system is still seen after what is confined to the directory of the user. -/
theorem SeesSystem.confined : SeesSystem s fs' := by
  have hlocation : ∀ p, fs'.locationOf p = fs.locationOf p :=
    FileStore.locationOf_congr hconfined.touches.workingDirectory_eq
  refine ⟨fun dir hdir => ?_, fun name hname dir hdir hnamed c hc => ?_⟩
  · rw [hlocation, hlocation]
    exact h.apart dir hdir
  · have hleaves := h.leaves hconfined hdir hname
    rw [hlocation] at hc
    exact hleaves.isFile (h.reaches name hname dir hdir hnamed c (hleaves.node?_of_file c hc))

end Confined

/-- Whatever is confined to the directory of the user, the ranks of the system hold the same copies,
which read the same. -/
theorem SeesSystem.holds_iff (h : SeesSystem r.searchPath r.files) {written : String → Prop}
    (hconfined : Confined r.searchPath written r.files r'.files)
    (hsettings : r'.settings = r.settings) (hsystem : SearchPath.userRank < rank) :
    (r'.Holds name rank dir ↔ r.Holds name rank dir) ∧
      ∀ d, r.Holds name rank dir → (r'.Reads (dir.join name) d ↔ r.Reads (dir.join name) d) := by
  have hpath : r'.searchPath = r.searchPath := congrArg Settings.searchPath hsettings
  have halike : r.searchPath.directoryAt? rank = some dir → dir.text ≠ "" →
      Path.IsFileName name → r.files.Alike r'.files (dir.join name) := fun hat hnamed hname =>
    h.alike hconfined (mem_systemDirectories hat hsystem) hnamed hname
  refine ⟨?_, fun d hheld =>
    reads_iff_of_alike hsettings (halike hheld.1 hheld.ne_empty hheld.isFileName) d⟩
  by_cases hat : r.searchPath.directoryAt? rank = some dir
  · by_cases hempty : dir.text = ""
    · exact iff_of_false (fun hheld => hheld.ne_empty hempty) fun hheld => hheld.ne_empty hempty
    · exact holds_iff_of_alike hsettings hempty (halike hat hempty)
  · exact iff_of_false (fun hheld => hat (hpath ▸ hheld.1)) fun hheld => hat hheld.1

/-! ## Reports -/

/-- The shadow after a file of the system was taken account of: the lower one of its rank and the
shadow before. -/
theorem shadowOf?_loadEntry {s : SearchPath} (hsystem : SearchPath.userRank < rank)
    (hsound : ∀ e, r.find? name = some e → e.Sound s name) {d : Document}
    (hreads : r.Reads path d) :
    (r.loadEntry path name rank).2.shadowOf? name =
      some (((r.shadowOf? name).map fun shadow => min shadow rank).getD rank) := by
  have hread : (∀ n, r.shadowOf? name = some n → rank ≤ n) →
      (r.readEntry path name rank).2.shadowOf? name =
        some (((r.shadowOf? name).map fun shadow => min shadow rank).getD rank) := by
    intro horder
    have hmin : ((r.shadowOf? name).map fun shadow => min shadow rank).getD rank = rank := by
      rcases hshadow : r.shadowOf? name with _ | n
      · rfl
      · exact Nat.min_eq_right (horder n hshadow)
    rw [readEntry_of_reads hreads fun _ => horder, hmin]
    unfold shadowOf? made
    rw [find?_tell, find?_set_self, if_pos hsystem]
    rfl
  unfold loadEntry
  rcases hfind : r.find? name with _ | e
  · exact hread fun n hn => by simp [shadowOf?, hfind] at hn
  · obtain ⟨current, hrank, -⟩ := (hsound e hfind).placed
    dsimp only
    -- An own write is one of the user, so its report is not about a file of the system.
    have hown : ¬(e.rank? = some rank ∧ e.ownWrite = true) := by
      rintro ⟨heq, hown⟩
      rw [(hsound e hfind).user_of_ownWrite hown] at heq
      exact Nat.ne_of_lt hsystem (Option.some.inj heq)
    rw [if_neg hown]
    split
    · rw [shadowOf?_of_find? hfind, shadowedBy_eq hsystem]
      unfold shadowOf?
      rw [find?_set_self]
      rfl
    · next hgoes =>
      -- The launcher stands at a rank of the system that is not below, and is its own shadow.
      have hle : rank ≤ current := by
        rw [Bool.or_eq_true, not_or] at hgoes
        simpa [hrank] using hgoes.1
      refine hread fun n hn => ?_
      rw [shadowOf?_of_find? hfind, (hsound e hfind).shadow_eq current hrank
        (Nat.lt_of_lt_of_le hsystem hle)] at hn
      obtain rfl := Option.some.inj hn
      exact hle

/-- A registry can read every file of a launcher in the directories of the system, and may run
it. -/
def SystemUsable (r : Registry) : Prop :=
  ∀ name rank dir, SearchPath.userRank < rank → r.Holds name rank dir →
    ∃ d, r.Reads (dir.join name) d

/-- The next definitions of a name can be used when every file of the system can. -/
theorem SystemUsable.reads_definitionsAfter (h : r.SystemUsable)
    (hnonempty : ∀ dir ∈ r.searchPath.directories, dir.text ≠ "")
    (hlauncher : Entry.isFilename name = true) (hname : Path.IsFileName name) :
    ∀ place ∈ r.definitionsAfter rank name, ∃ d, r.Reads place.2 d := by
  intro place hmem
  obtain ⟨hsystem, hpath⟩ := definitionsAfter_spec hmem
  obtain ⟨-, dir, hheld⟩ := (mem_definitionsAfter_iff hnonempty hlauncher hname place.1).1
    (List.mem_map_of_mem hmem)
  obtain ⟨dir', hdir', hjoin⟩ := SearchPath.exists_of_pathAt? hpath
  obtain rfl : dir = dir' := Option.some.inj (hheld.1.symm.trans hdir')
  exact hjoin ▸ h name place.1 dir hsystem hheld

/-- The shadow of a launcher whose copy in the system is gone is the rank of the next definition,
and without one there is no launcher. -/
theorem shadowOf?_detached (hname : Path.IsFileName name)
    (husable : ∀ place ∈ r.definitionsAfter rank name, ∃ d, r.Reads place.2 d) {detached : Entry}
    (hrank : detached.rank? = none) (hsettled : detached.isPending = false)
    (hshadow : detached.shadow? = none) :
    (match (r.set name detached).loadFirst (r.definitionsAfter rank name) with
      | (true, r) => r
      | (false, r) => (r.drop name).tell (.removed name)).shadowOf? name =
        (r.definitionsAfter rank name).head?.map (·.1) := by
  rcases hplaces : r.definitionsAfter rank name with _ | ⟨place, rest⟩
  · unfold loadFirst shadowOf?
    simp
  · have hmem : place ∈ r.definitionsAfter rank name := hplaces ▸ List.mem_cons_self
    have hsystem := (definitionsAfter_spec hmem).1
    obtain ⟨d, hreads⟩ := husable place hmem
    have hplaceName : place.2.fileName? = some name := fileName?_definitionsAfter hname hmem
    have hfind : (r.set name detached).find? name = some detached := by simp
    have hplaceReads : (r.set name detached).Reads place.2 d := hreads
    rw [loadFirst_of_reads hfind hrank hsettled hshadow hplaceName hplaceReads]
    unfold shadowOf? made
    simp [hsystem]

/-- No launcher waits for its save while the file of a rank is its shadow. Such a launcher would not
take notice of a removal of the file. -/
def Notices (r : Registry) (name : String) (rank : Nat) : Prop :=
  ∀ e, r.find? name = some e → e.isPending = true → e.shadow? ≠ some rank

/-- The shadow after a report that a file of the system was removed: the rank of the next definition
if it was that of the file. -/
theorem shadowOf?_fileRemoved
    (hdistinct : r.searchPath.directories.Pairwise fun dir dir' => dir.same dir' = false)
    (hsystem : SearchPath.userRank < rank)
    (hsound : ∀ e, r.find? name = some e → e.Sound r.searchPath name)
    (hplaces : r.searchPath.Places rank name path) (hname : Path.IsFileName name)
    (hnotices : r.Notices name rank)
    (husable : r.shadowOf? name = some rank →
      ∀ place ∈ r.definitionsAfter rank name, ∃ d, r.Reads place.2 d) :
    (r.fileRemoved path).shadowOf? name =
      if r.shadowOf? name = some rank then (r.definitionsAfter rank name).head?.map (·.1)
      else r.shadowOf? name := by
  obtain ⟨dir, -, hcomponents⟩ := hplaces.components_eq hname
  have hfileName : path.fileName? = some name := by
    rw [Path.fileName?, hcomponents, List.getLast?_concat]
  unfold fileRemoved
  rw [SearchPath.rankOf?_of_places hdistinct hplaces hfileName, hfileName]
  dsimp only
  rcases hfind : r.find? name with _ | e
  · have hnone : r.shadowOf? name = none := by
      unfold shadowOf?
      rw [hfind]
      rfl
    simp [hnone]
  · have hshadow := shadowOf?_of_find? hfind
    rw [hshadow] at husable ⊢
    dsimp only
    split
    · next hpending => rw [if_neg (hnotices e hfind hpending), hshadow]
    · next hsettled =>
      split
      · -- The source is still there, so at most the shadow is gone.
        split
        · unfold shadowOf?
          rw [find?_set_self]
          rfl
        · exact hshadow
      · next hgoes =>
        -- The source is gone, which stands at the rank of the system, and was its own shadow.
        obtain ⟨current, hrank, -, hsource⟩ := (hsound e hfind).placed
        have hsame : e.source.same path = true := by simpa using hgoes
        obtain rfl : current = rank := (hsource.same_iff hdistinct hname hplaces).1 hsame
        have hown := (hsound e hfind).shadow_eq current hrank hsystem
        rw [if_pos hown]
        refine shadowOf?_detached hname (husable hown) rfl ?_ rfl
        simpa [Entry.isPending] using hsettled

/-! ## Runs -/

/-- The registries that start with a scan, edit and save launchers, and are told at once of every
single file that is made or removed in a directory of the system, when all files of launchers can be
used, those of the system at all times. No file is removed while it is the shadow of a launcher that
waits for its save. -/
inductive Informed (settings : Settings) : Registry → Prop where
  /-- A registry that knows no launcher scans the directories. -/
  | scanned (r : Registry) (reachable : Reachable Action.IsPlaced settings r)
      (empty : ∀ name, r.find? name = none) (sees : SeesSystem settings.searchPath r.files)
      (usable : r.Usable) : Informed settings r.scan
  /-- Launchers are edited or saved. -/
  | deferred (r : Registry) (a : Action) (informed : Informed settings r) (ok : a.IsDeferred) :
      Informed settings (r.perform a)
  /-- A file of the system is made, and reported as changed. -/
  | made (r : Registry) (files : FileStore) (rank : Nat) (name : String) (dir path : Path)
      (informed : Informed settings r) (system : SearchPath.userRank < rank)
      (place : settings.searchPath.directoryAt? rank = some dir) (named : Path.IsFileName name)
      (same : path.same (dir.join name) = true)
      (only : OnlyCopy settings.searchPath rank name r.files files)
      (there : files.isFile (dir.join name) = true) (reached : files.isFile path = true)
      (sees : SeesSystem settings.searchPath files)
      (usable : ({ r with files } : Registry).SystemUsable) :
      Informed settings (({ r with files } : Registry).fileChanged path).2
  /-- A file of the system is removed, and reported as removed. -/
  | removed (r : Registry) (files : FileStore) (rank : Nat) (name : String) (dir path : Path)
      (informed : Informed settings r) (system : SearchPath.userRank < rank)
      (place : settings.searchPath.directoryAt? rank = some dir) (named : Path.IsFileName name)
      (same : path.same (dir.join name) = true)
      (only : OnlyCopy settings.searchPath rank name r.files files)
      (gone : files.isFile (dir.join name) = false) (notices : r.Notices name rank)
      (sees : SeesSystem settings.searchPath files)
      (usable : ({ r with files } : Registry).SystemUsable) :
      Informed settings (({ r with files } : Registry).fileRemoved path)

/-- A run that is kept informed is a run. -/
theorem Informed.reachable (h : Informed settings r) : Reachable Action.IsPlaced settings r := by
  induction h with
  | scanned r reachable => exact .step r .scan reachable trivial
  | deferred r a _ ok ih => exact .step r a ih ok.isInternal.isPlaced
  | made r files rank name dir path _ _ _ _ _ _ _ _ _ _ ih =>
    exact .step _ (.fileChanged path) (.step r (.outside files) ih trivial) trivial
  | removed r files rank name dir path _ _ _ _ _ _ _ _ _ _ ih =>
    exact .step _ (.fileRemoved path) (.step r (.outside files) ih trivial) trivial

/-- A registry with these settings sees files of the system that can all be used, and the shadow of
every name is the lowest rank of the system that holds it. -/
structure Shadowing (settings : Settings) (r : Registry) : Prop where
  /-- The system is seen. -/
  sees : SeesSystem settings.searchPath r.files
  /-- All files of the system can be used. -/
  usable : r.SystemUsable
  /-- The shadows are the lowest ranks. -/
  lowest : ∀ name, Lowest (r.HeldInSystem name) (r.shadowOf? name)

namespace Shadowing

/-- After a scan the shadows are the lowest ranks. -/
theorem scan (hempty : ∀ name, r.find? name = none)
    (hsees : SeesSystem settings.searchPath r.files) (husable : r.Usable) :
    Shadowing settings r.scan := by
  have hscanned := scanned_scan hempty
  have hholds := holds_congr hscanned.files_eq hscanned.settings_eq
  have hreads := reads_congr hscanned.files_eq hscanned.settings_eq
  refine ⟨hscanned.files_eq.symm ▸ hsees, fun name rank dir _ hheld => ?_, fun name => ?_⟩
  · obtain ⟨d, hd⟩ := husable name rank dir ((hholds name rank dir).1 hheld)
    exact ⟨d, (hreads _ d).2 hd⟩
  · have hmerged := hscanned.mergedFrom name
    have hlowest : Lowest (r.HeldInSystem name) (r.scan.shadowOf? name) := by
      unfold shadowOf?
      rcases hfind : r.scan.find? name with _ | e
      · rw [hfind] at hmerged
        rintro n ⟨-, dir, hheld⟩
        obtain ⟨d, hd⟩ := husable name n dir hheld
        exact hmerged n dir d hheld hd
      · rw [hfind] at hmerged
        exact hmerged.lowest_shadow husable
    refine hlowest.congr fun n => ?_
    unfold HeldInSystem
    simp only [hholds]

/-- Edits and saves leave the shadows the lowest ranks. -/
theorem perform (h : Shadowing settings r) (hreachable : Reachable Action.IsPlaced settings r)
    {a : Action} (ha : a.IsDeferred) : Shadowing settings (r.perform a) := by
  have hsettings : (r.perform a).settings = r.settings := (evolves_perform a r).settings_eq
  have hconfined := confined_perform hreachable ha.isInternal
  have hsees := h.sees
  obtain rfl := hreachable.settings_eq
  have hsame : ∀ {rank : Nat}, SearchPath.userRank < rank → ∀ (name : String) (dir : Path),
      ((r.perform a).Holds name rank dir ↔ r.Holds name rank dir) ∧
        ∀ d, r.Holds name rank dir →
          ((r.perform a).Reads (dir.join name) d ↔ r.Reads (dir.join name) d) :=
    fun hsystem _ _ => SeesSystem.holds_iff hsees hconfined hsettings hsystem
  refine ⟨hsees.confined hconfined, fun name rank dir hsystem hheld => ?_, fun name => ?_⟩
  · obtain ⟨hholds, hreads⟩ := hsame hsystem name dir
    obtain ⟨d, hd⟩ := h.usable name rank dir hsystem (hholds.1 hheld)
    exact ⟨d, (hreads d (hholds.1 hheld)).2 hd⟩
  · rw [shadowOf?_perform r ha]
    refine (h.lowest name).congr fun n => and_congr_right fun hsystem => ?_
    exact exists_congr fun dir => (hsame hsystem name dir).1.symm

/-- As long as the same launchers are known, the shadows are the lowest ranks of before. -/
theorem lowest_of_entries_eq (h : Shadowing settings r) {r₁ : Registry}
    (hentries : r₁.entries = r.entries) (name : String) :
    Lowest (r.HeldInSystem name) (r₁.shadowOf? name) := by
  have hfind : r₁.find? name = r.find? name := congrArg (SortedMap.find? · name) hentries
  have hshadow : r₁.shadowOf? name = r.shadowOf? name := congrArg (·.bind Entry.shadow?) hfind
  rw [hshadow]
  exact h.lowest name

section Reports

variable {r₁ : Registry} (h : Shadowing settings r)
  (hsettings : r.settings = settings) (hsettings₁ : r₁.settings = settings)
  (hentries : r₁.entries = r.entries)
  (hnonempty : ∀ dir ∈ settings.searchPath.directories, dir.text ≠ "")
  (honly : OnlyCopy settings.searchPath rank name r.files r₁.files)
  (hsees : SeesSystem settings.searchPath r₁.files) (husable : r₁.SystemUsable)
  (hname : Path.IsFileName name) (hsame : path.same (dir.join name) = true)
include h hsettings hsettings₁ hentries hnonempty honly hsees husable hname hsame

/-- A registry that sees one changed file has the lowest ranks for shadows after a report when it
has the one of the reported name, and of the others what it had before. -/
theorem of_frame (hframe : r'.files = r₁.files ∧ r'.settings = r₁.settings ∧
      ∀ name', path.fileName? ≠ some name' → r'.find? name' = r₁.find? name')
    (hown : Lowest (r₁.HeldInSystem name) (r'.shadowOf? name)) : Shadowing settings r' := by
  obtain ⟨hfiles, hsettings', hothers⟩ := hframe
  subst hsettings
  have hholds := holds_congr hfiles hsettings'
  have hreads := reads_congr hfiles hsettings'
  refine ⟨hfiles.symm ▸ hsees, fun name' rank' dir' hsystem hheld => ?_, fun name' => ?_⟩
  · obtain ⟨d, hd⟩ := husable name' rank' dir' hsystem ((hholds _ _ _).1 hheld)
    exact ⟨d, (hreads _ d).2 hd⟩
  · have hlowest : Lowest (r₁.HeldInSystem name') (r'.shadowOf? name') := by
      by_cases hne : name' = name
      · rw [hne]
        exact hown
      · have hfileName : path.fileName? ≠ some name' := by
          rw [Path.fileName?_of_same hname hsame]
          exact fun heq => hne (Option.some.inj heq).symm
        have hkept : r'.shadowOf? name' = r.shadowOf? name' := by
          unfold shadowOf?
          rw [hothers name' hfileName, find?, hentries]
          rfl
        rw [hkept]
        refine (h.lowest name').congr fun n => and_congr_right fun _ => exists_congr fun p => ?_
        exact (honly.holds_iff hsettings₁ hnonempty (.inr hne) p).symm
    refine hlowest.congr fun n => ?_
    unfold HeldInSystem
    simp only [hholds]

variable (hdistinct : settings.searchPath.directories.Pairwise fun dir dir' =>
    dir.same dir' = false)
  (hsystem : SearchPath.userRank < rank)
  (hplace : settings.searchPath.directoryAt? rank = some dir)
  (hsound : ∀ e, r₁.find? name = some e → e.Sound settings.searchPath name)
include hdistinct hsystem hplace hsound

/-- A report of a file of the system that was made leaves the shadows the lowest ranks. -/
theorem fileChanged (hthere : r₁.files.isFile (dir.join name) = true)
    (hreached : r₁.files.isFile path = true) : Shadowing settings (r₁.fileChanged path).2 := by
  refine h.of_frame hsettings hsettings₁ hentries hnonempty honly hsees husable hname hsame
    (fileChanged_frame r₁ path) ?_
  have hfileName : path.fileName? = some name := Path.fileName?_of_same hname hsame
  have hbut : SameBut r r₁ name rank := by
    subst hsettings
    exact honly.sameBut hsettings₁ hnonempty
  have hlowest := h.lowest_of_entries_eq hentries name
  clear hsettings
  subst hsettings₁
  unfold Registry.fileChanged
  rw [hfileName, Option.any_some]
  by_cases hlauncher : Entry.isFilename name = true
  · have hheld : r₁.Holds name rank dir :=
      (Registry.holds_iff (hnonempty dir (List.mem_of_getElem? hplace))).2
        ⟨hplace, hlauncher, hname, hthere⟩
    obtain ⟨d, hreads⟩ := husable name rank dir hsystem hheld
    have hreads' : r₁.Reads path d := by
      refine ⟨?_, hreads.2⟩
      rw [Document.load_eq_ok_iff, FileStore.readText_of_same hsame hreached hthere]
      exact Document.load_eq_ok_iff.1 hreads.1
    have hrank : r₁.searchPath.rankOf? path = some rank := SearchPath.rankOf?_of_places hdistinct
      (SearchPath.places_of_same hplace hsame) hfileName
    rw [if_pos hlauncher, hrank]
    dsimp only
    rw [load_snd hfileName, shadowOf?_loadEntry hsystem hsound hreads']
    exact (hlowest.insert rank).congr fun n => (hbut.heldInSystem_iff hheld hsystem n).symm
  · -- A file of another kind has no launcher, so no rank holds it, before and after.
    rw [if_neg hlauncher]
    refine hlowest.congr fun n => ?_
    exact iff_of_false (fun ⟨_, _, hheld⟩ => hlauncher hheld.2.1)
      fun ⟨_, _, hheld⟩ => hlauncher hheld.2.1

/-- A report of a file of the system that was removed leaves the shadows the lowest ranks, when it
is taken notice of. -/
theorem fileRemoved (hgone : r₁.files.isFile (dir.join name) = false)
    (hnotices : r₁.Notices name rank) : Shadowing settings (r₁.fileRemoved path) := by
  refine h.of_frame hsettings hsettings₁ hentries hnonempty honly hsees husable hname hsame
    (fileRemoved_frame r₁ path) ?_
  have hbut : SameBut r r₁ name rank := by
    subst hsettings
    exact honly.sameBut hsettings₁ hnonempty
  have hlowest := h.lowest_of_entries_eq hentries name
  clear hsettings
  subst hsettings₁
  have hgone' : ∀ dir', ¬ r₁.Holds name rank dir' := by
    intro dir' hheld
    obtain rfl := Option.some.inj (hplace.symm.trans hheld.1)
    exact absurd (hgone.symm.trans hheld.2.2.2) (by decide)
  have hnext : r₁.shadowOf? name = some rank →
      ∀ place ∈ r₁.definitionsAfter rank name, ∃ d, r₁.Reads place.2 d := by
    intro hown
    -- The shadow was a copy, so the name is that of a launcher.
    rw [hown] at hlowest
    obtain ⟨-, dir', hheld⟩ := hlowest.1
    exact husable.reads_definitionsAfter hnonempty hheld.2.1 hname
  rw [shadowOf?_fileRemoved hdistinct hsystem hsound (SearchPath.places_of_same hplace hsame) hname
    hnotices hnext]
  exact hbut.lowest_unshadowed hnonempty hlowest hgone'

end Reports

end Shadowing

/-- A registry that is kept informed has the lowest ranks of the system for shadows. -/
theorem Informed.shadowing (h : Informed settings r)
    (hdistinct : settings.searchPath.directories.Pairwise fun dir dir' => dir.same dir' = false)
    (hnonempty : ∀ dir ∈ settings.searchPath.directories, dir.text ≠ "") :
    Shadowing settings r := by
  induction h with
  | scanned r reachable empty sees usable => exact .scan empty sees usable
  | deferred r a informed ok ih => exact ih.perform informed.reachable ok
  | made r files rank name dir path informed system place named same only there reached sees usable
      ih =>
    have hsync := informed.reachable.inSync fun _ ok => ok
    exact ih.fileChanged hsync.settings_eq hsync.settings_eq rfl hnonempty only sees usable named
      same hdistinct system place (hsync.sound name) there reached
  | removed r files rank name dir path informed system place named same only gone notices sees
      usable ih =>
    have hsync := informed.reachable.inSync fun _ ok => ok
    exact ih.fileRemoved hsync.settings_eq hsync.settings_eq rfl hnonempty only sees usable named
      same hdistinct system place (hsync.sound name) gone notices

/-- When the directories are different, none is the empty path and no directory of the system stands
where that of the user does, then the shadow of a launcher is the lowest rank of the system that
holds its file, after a scan and any edits, saves and files of the system that were made or removed
and reported at once, unless one was removed while it was the shadow of a launcher that waited for
its save. So a launcher that only the user has is deleted with its file, or nothing is changed when
the file cannot be removed. -/
theorem shadow_is_lowest
    (hdistinct : settings.searchPath.directories.Pairwise fun dir dir' => dir.same dir' = false)
    (hnonempty : ∀ dir ∈ settings.searchPath.directories, dir.text ≠ "")
    (h : Informed settings r) {e : Entry} (hfind : r.find? name = some e) :
    Lowest (r.HeldInSystem name) e.shadow? ∧
      (e.rank? = some SearchPath.userRank → (∀ n, ¬ r.HeldInSystem name n) →
        (∃ cause, r.delete name = (.error (.io cause), r)) ∨
          (r.delete name).1 = .ok () ∧ (r.delete name).2.find? name = none ∧
            (r.delete name).2.files.isFile e.source = false) := by
  have hlowest := (h.shadowing hdistinct hnonempty).lowest name
  rw [shadowOf?_of_find? hfind] at hlowest
  refine ⟨hlowest, fun huser hnone => ?_⟩
  have hshadow : e.shadow? = none := by
    rcases hshadow : e.shadow? with _ | n
    · rfl
    · rw [hshadow] at hlowest
      exact absurd hlowest.1 (hnone n)
  rcases hresult : r.delete name with ⟨outcome, r'⟩
  cases delete_step hresult with
  | unknown find =>
    rw [hfind] at find
    cases find
  | failed e' cause => exact .inl ⟨cause, rfl⟩
  | removed e' files find own removed =>
    obtain rfl := Option.some.inj (hfind.symm.trans find)
    refine .inr ⟨rfl, ?_, isFile_of_withoutFile removed⟩
    rw [find?_tell, find?_drop, if_pos rfl]
  | switched e' find shared =>
    obtain rfl := Option.some.inj (hfind.symm.trans find)
    exact absurd ⟨huser, hshadow⟩ shared

/-! ## Runs on few files -/

/-- A launcher of the system and a copy of the user, which a scan found and which got a new name. -/
def renamedCopy : Registry :=
  (Registry.fresh oneSystemDirectory oneCopiedLauncher 0).scan.perform
    (.update "a.desktop" (some "C") none (some "b") 0)

/-- The file of the system is removed, and reported as removed. -/
def withdrawn (r : Registry) : Registry :=
  { r with files := cleanedUp r.files ⟨"system/a.desktop"⟩ }.fileRemoved ⟨"system/a.desktop"⟩

/-- The file of the system is removed after the new name was saved. -/
def savedThenWithdrawn : Registry :=
  withdrawn (renamedCopy.perform (.flush "a.desktop"))

/-- The file of the system is removed before the new name is saved. -/
def withdrawnThenSaved : Registry :=
  (withdrawn renamedCopy).perform (.flush "a.desktop")

/-- The only directory of the system does not hold a launcher without a file. -/
theorem not_heldInSystem_of_isFile (hsettings : r.settings = oneSystemDirectory)
    (hfile : r.files.isFile ⟨"system/a.desktop"⟩ = false) (n : Nat) :
    ¬ r.HeldInSystem "a.desktop" n := by
  rintro ⟨hsystem, dir, hheld⟩
  have hmem : dir ∈ r.searchPath.systemDirectories := mem_systemDirectories hheld.1 hsystem
  rw [searchPath, hsettings] at hmem
  obtain rfl : dir = ⟨"system"⟩ := List.mem_singleton.1 hmem
  exact absurd (hfile.symm.trans hheld.2.2.2) (by decide)

/-- A run is kept informed of a removal of the file of the system of which notice is taken. -/
theorem informed_withdrawn (h : Informed oneSystemDirectory r)
    (hthere : (r.files.removeFile ⟨"system/a.desktop"⟩).isOk = true)
    (hnotices : r.Notices "a.desktop" 1)
    (hsees : canSeeSystem oneSystemDirectory.searchPath
      (cleanedUp r.files ⟨"system/a.desktop"⟩) = true)
    (husable : ({ r with files := cleanedUp r.files ⟨"system/a.desktop"⟩ } : Registry).canUseAll =
      true) :
    Informed oneSystemDirectory (withdrawn r) := by
  have hremoved : r.files.removeFile ⟨"system/a.desktop"⟩ =
      .ok (cleanedUp r.files ⟨"system/a.desktop"⟩) := by
    unfold cleanedUp
    rcases hresult : r.files.removeFile ⟨"system/a.desktop"⟩ with _ | _
    · rw [hresult] at hthere
      cases hthere
    · rfl
  have hgone : (cleanedUp r.files ⟨"system/a.desktop"⟩).isFile ⟨"system/a.desktop"⟩ = false := by
    have hwithout : withoutFile r.files ⟨"system/a.desktop"⟩ =
        .ok (cleanedUp r.files ⟨"system/a.desktop"⟩) := by
      unfold withoutFile
      rw [hremoved]
    exact isFile_of_withoutFile hwithout
  have hname : Path.IsFileName "a.desktop" := Path.isFileName_of_length rfl (by decide)
  have hdir : oneSystemDirectory.searchPath.directoryAt? 1 = some ⟨"system"⟩ := rfl
  have hplaces : oneSystemDirectory.searchPath.directories.Pairwise fun dir dir' =>
      r.files.locationOf dir ≠ r.files.locationOf dir' := by
    have hworking := (FileStore.keeps_removeFile hremoved).workingDirectory_eq
    have happart := (seesSystem_of_canSeeSystem hsees).apart ⟨"system"⟩ List.mem_cons_self
    rw [FileStore.locationOf_congr hworking, FileStore.locationOf_congr hworking] at happart
    exact List.pairwise_pair.2 happart.symm
  have honly : OnlyCopy oneSystemDirectory.searchPath 1 "a.desktop" r.files
      (cleanedUp r.files ⟨"system/a.desktop"⟩) :=
    onlyCopy_of_keeps hplaces hdir hname (FileStore.keeps_removeFile hremoved)
      (FileStore.keeps_of_removeFile hremoved)
  exact .removed r _ 1 "a.desktop" ⟨"system"⟩ ⟨"system/a.desktop"⟩ h (by decide) hdir hname
    (by decide) honly hgone hnotices (seesSystem_of_canSeeSystem hsees)
    fun name rank dir _ hheld => usable_of_canUseAll husable name rank dir hheld

/-- A launcher of the user and the system whose name was saved before the file of the system was
removed is one of the user only, and is deleted with its file. -/
theorem deleted_savedThenWithdrawn :
    Informed oneSystemDirectory savedThenWithdrawn ∧
      ∃ e, savedThenWithdrawn.find? "a.desktop" = some e ∧ e.source = ⟨"user/a.desktop"⟩ ∧
        e.isPending = false ∧ Lowest (savedThenWithdrawn.HeldInSystem "a.desktop") e.shadow? ∧
        (savedThenWithdrawn.delete "a.desktop").2.find? "a.desktop" = none ∧
        (savedThenWithdrawn.delete "a.desktop").2.files.isFile e.source = false := by
  have hscanned : Informed oneSystemDirectory
      (Registry.fresh oneSystemDirectory oneCopiedLauncher 0).scan :=
    .scanned _ (.fresh _ _) (fun _ => rfl) (seesSystem_of_canSeeSystem rfl)
      (usable_of_canUseAll rfl)
  have hsaved : Informed oneSystemDirectory (renamedCopy.perform (.flush "a.desktop")) :=
    .deferred _ _ (.deferred _ _ hscanned trivial) trivial
  have hnotices : (renamedCopy.perform (.flush "a.desktop")).Notices "a.desktop" 1 := by
    have hsettled : ((renamedCopy.perform (.flush "a.desktop")).find? "a.desktop").map
        Entry.isPending = some false := rfl
    intro e hfind hpending
    rw [hfind] at hsettled
    exact absurd (hpending.symm.trans (Option.some.inj hsettled)) (by decide)
  have hinformed : Informed oneSystemDirectory savedThenWithdrawn :=
    informed_withdrawn hsaved rfl hnotices rfl rfl
  have hentry : (savedThenWithdrawn.find? "a.desktop").map
      (fun e => (e.source, e.rank?, e.isPending)) =
        some (⟨"user/a.desktop"⟩, some SearchPath.userRank, false) := rfl
  have hdeleted : (savedThenWithdrawn.delete "a.desktop").1 = .ok () := rfl
  have hnone := not_heldInSystem_of_isFile (r := savedThenWithdrawn) rfl rfl
  obtain ⟨e, hfind, hfields⟩ := Option.map_eq_some_iff.1 hentry
  obtain ⟨hsource, hrest⟩ := Prod.mk.inj hfields
  obtain ⟨huser, hsettled⟩ := Prod.mk.inj hrest
  obtain ⟨hlowest, hdelete⟩ := shadow_is_lowest (by decide) (by decide) hinformed hfind
  rcases hdelete huser hnone with ⟨cause, hfailed⟩ | ⟨-, hdropped, hgone⟩
  · rw [hfailed] at hdeleted
    cases hdeleted
  · exact ⟨hinformed, e, hfind, hsource, hsettled, hlowest, hdropped, hgone⟩

/-- The settings of a user with two directories of the system, of which the first is that of the
user under another spelling. -/
def respelledDirectory : Settings :=
  .ofDirectories ⟨⟨"user"⟩, [⟨"./user"⟩, ⟨"system"⟩]⟩

/-- A scan of some files, and a launcher that is switched off, which is saved. -/
def savedOff (settings : Settings) (files : FileStore) : Registry :=
  [.scan, .setHidden "a.desktop" true, .flush "a.desktop"].foldl perform
    (Registry.fresh settings files 0)

/-- A launcher of the user and the system, and a file of its name in the working directory. -/
def oneStrayCopy : FileStore :=
  oneDefinedLauncher.put ⟨"user/a.desktop"⟩ (.file (.text "[Desktop Entry]\nName=B\nExec=b\n"))

/-- The file of the system is removed before the one of the working directory. -/
def strayShadow : Registry :=
  withdrawn (Registry.fresh oneEmptyDirectory oneStrayCopy 0).scan

/-- The shadow of a launcher of the user whose changes are saved. -/
def settledShadow (r : Registry) (name : String) : Option (Option Nat) :=
  ((r.find? name).filter fun e => e.rank? = some SearchPath.userRank && !e.isPending).map
    Entry.shadow?

/-- A shadow is no more the lowest rank of the system that holds the name when the file of the
system was removed before a change of the launcher was saved: it is one of the user only, but is
hidden when it is deleted. It is none either when the directory of the user is one of the system
under another spelling, when a directory of the system becomes reachable by a save, and when a
directory with the empty path comes next. -/
theorem stale_shadows :
    (renamedCopy.Usable ∧ withdrawnThenSaved.settledShadow "a.desktop" = some (some 1) ∧
      (∀ n, ¬ withdrawnThenSaved.HeldInSystem "a.desktop" n) ∧
      (withdrawnThenSaved.delete "a.desktop").1 = .ok () ∧
      ((withdrawnThenSaved.delete "a.desktop").2.find? "a.desktop").map Entry.hidden = some true) ∧
    ((savedOff respelledDirectory oneSystemLauncher).settledShadow "a.desktop" = some (some 2) ∧
      (savedOff respelledDirectory oneSystemLauncher).HeldInSystem "a.desktop" 1) ∧
    ((savedOff detourDirectory oneTwofoldLauncher).settledShadow "a.desktop" = some (some 2) ∧
      (savedOff detourDirectory oneTwofoldLauncher).HeldInSystem "a.desktop" 1) ∧
    (strayShadow.settledShadow "a.desktop" = some (some 2) ∧
      ∀ n, ¬ strayShadow.HeldInSystem "a.desktop" n) := by
  refine ⟨⟨usable_of_canUseAll rfl, rfl, not_heldInSystem_of_isFile rfl rfl, rfl, rfl⟩,
    ⟨rfl, by decide, ⟨"./user"⟩, rfl, rfl, List.mem_cons_self, rfl⟩,
    ⟨rfl, by decide, ⟨"user/../first"⟩, rfl, rfl, List.mem_cons_self, rfl⟩, rfl, ?_⟩
  rintro n ⟨hsystem, dir, hheld⟩
  have hmem : dir ∈ oneEmptyDirectory.searchPath.systemDirectories :=
    mem_systemDirectories (s := oneEmptyDirectory.searchPath) hheld.1 hsystem
  -- A directory with the empty path lists nothing, and the other one has lost its file.
  rcases List.mem_cons.1 hmem with rfl | hmem
  · have hgone : strayShadow.files.isFile ⟨"system/a.desktop"⟩ = false := rfl
    exact absurd (hgone.symm.trans hheld.2.2.2) (by decide)
  · obtain rfl : dir = ⟨""⟩ := List.mem_singleton.1 hmem
    exact hheld.ne_empty rfl

end Registry

end Autostart
