import Autostart.Proofs.FileStore.Touching

/-!
# Local changes

An operation on the file of a path reads what stands on the way of the path, and changes what stands
at its end. So it ends alike, and with the same effect, in all stores that agree on the way. This
makes operations on files of different names in one directory independent of each other: the one
that changes anything found directories on the whole way, so it left what the other one reads. An
operation that is local in this sense can be done before or after any other one in the directory.
-/

namespace Autostart.FileStore

variable {fs fs' : FileStore} {p dir : Path} {name : String}

/-! ## Agreement on the way of a path -/

/-- Two stores hold the same at every location that the steps of a path pass through or end at. -/
structure AgreeOnWay (fs fs' : FileStore) (p : Path) : Prop where
  /-- Relative paths start at the same place. -/
  workingDirectory_eq : fs'.workingDirectory = fs.workingDirectory
  /-- What stands on the way is the same. -/
  node?_eq : ∀ l, fs.OnWay p l → fs'.node? l = fs.node? l

/-- A store agrees with itself. -/
theorem AgreeOnWay.refl (fs : FileStore) (p : Path) : AgreeOnWay fs fs p :=
  ⟨rfl, fun _ _ => rfl⟩

namespace AgreeOnWay

/-- A path starts at the same place. -/
theorem start_eq (h : AgreeOnWay fs fs' p) (route : Path.Route) :
    fs'.start route = fs.start route := by
  unfold start
  rw [h.workingDirectory_eq]

/-- The steps of a path lead to the same, and what they lead to holds the same. -/
theorem walk (h : AgreeOnWay fs fs' p) {route : Path.Route} (hroute : p.route? = some route)
    {steps : List Path.Step} (hsteps : steps <+: route.steps) :
    fs'.walk (fs'.start route) steps = fs.walk (fs.start route) steps ∧
      ∀ l, fs.walk (fs.start route) steps = .ok l → fs'.node? l = fs.node? l := by
  obtain ⟨hstart, hcomponents⟩ := fs.route?_spec hroute
  have hway : ∀ before, before <+: steps → fs.OnWay p (target (fs.start route) before) := by
    intro before hbefore
    refine ⟨before, ?_, by rw [hstart]⟩
    rw [← hcomponents]
    exact hbefore.trans hsteps
  constructor
  · rw [h.start_eq]
    exact walk_congr fun before hbefore => h.node?_eq _ (hway before hbefore)
  · intro l hwalk
    rw [← target_of_walk hwalk]
    exact h.node?_eq _ (hway steps (List.prefix_refl steps))

/-- A path leads to the same. -/
theorem stat (h : AgreeOnWay fs fs' p) : fs'.stat p = fs.stat p := by
  unfold FileStore.stat
  rcases hroute : routeOf p with e | route
  · rfl
  · obtain ⟨hwalk, hnode⟩ := h.walk (routeOf_eq_ok_iff.1 hroute).2.2 (List.prefix_refl _)
    simp only [bind, Except.bind]
    rw [hwalk]
    rcases hled : fs.walk (fs.start route) route.steps with e | l
    · rfl
    · rw [hled] at hnode
      dsimp only
      rw [hnode l rfl]

end AgreeOnWay

/-! ## Paths in a directory -/

/-- The way of a path in a directory is that of the directory, and the place of the path. -/
theorem onWay_iff (hp : p.components = dir.components ++ [.name name]) (l : Location) :
    fs.OnWay p l ↔ fs.OnWay dir l ∨ l = fs.locationOf p := by
  have hplace := fs.locationOf_of_components hp
  unfold OnWay
  rw [hp, startOf_concat, List.filterMap_append]
  constructor
  · rintro ⟨steps, hsteps, rfl⟩
    rcases List.prefix_concat_iff.1 hsteps with rfl | hbefore
    · right
      rw [hplace, locationOf_eq]
      exact target_concat _ _ name
    · exact .inl ⟨steps, hbefore, rfl⟩
  · rintro (⟨steps, hsteps, rfl⟩ | rfl)
    · exact ⟨steps, hsteps.trans (List.prefix_append _ _), rfl⟩
    · refine ⟨_, List.prefix_refl _, ?_⟩
      rw [hplace, locationOf_eq]
      exact (target_concat _ _ name).symm

/-- The place of a file in a directory is not the root. -/
theorem locationOf_ne_root (fs : FileStore) (hp : p.components = dir.components ++ [.name name]) :
    fs.locationOf p ≠ [] := by
  rw [fs.locationOf_of_components hp]
  simp

/-- Files of different names have different places, in whatever directories. -/
theorem locationOf_ne_of_components (fs : FileStore)
    (hp : p.components = dir.components ++ [.name name]) {q dir' : Path} {name' : String}
    (hq : q.components = dir'.components ++ [.name name']) (hne : name ≠ name') :
    fs.locationOf p ≠ fs.locationOf q := by
  rw [fs.locationOf_of_components hp, fs.locationOf_of_components hq]
  intro heq
  exact hne (List.append_singleton_inj.1 heq).2

/-- The way of a path, and its end, are all directories. -/
def Opens (fs : FileStore) (dir : Path) : Prop :=
  ∀ l, fs.OnWay dir l → fs.node? l = some .directory

/-- A path of which the steps lead to a directory opens it. -/
theorem opens_of_walk {l : Location}
    (hwalk : fs.walk (fs.startOf dir.components) (dir.components.filterMap Path.Component.step?) =
      .ok l) (hnode : fs.node? l = some .directory) : fs.Opens dir := by
  rintro _ ⟨steps, hsteps, rfl⟩
  exact directory_of_walk hwalk hnode hsteps

/-- A path in a directory opens the directory when its steps lead anywhere. -/
theorem opens_of_walk_in (hp : p.components = dir.components ++ [.name name]) {route : Path.Route}
    (hroute : p.route? = some route) {l : Location}
    (hwalk : fs.walk (fs.start route) route.steps = .ok l) : fs.Opens dir := by
  obtain ⟨hstart, hsteps⟩ := fs.route?_spec hroute
  rw [hp] at hstart hsteps
  rw [startOf_concat] at hstart
  rw [List.filterMap_append] at hsteps
  rw [hstart, hsteps] at hwalk
  obtain ⟨loc, hdir, hnode, -⟩ := exists_of_walk_concat hwalk
  exact opens_of_walk hdir hnode

/-- A store that agrees on the way of an open directory opens it too. -/
theorem Opens.agree (h : fs.Opens dir) (hagree : AgreeOnWay fs fs' dir) : fs'.Opens dir := by
  intro l hl
  have hway := (onWay_congr hagree.workingDirectory_eq dir l).1 hl
  rw [hagree.node?_eq l hway]
  exact h l hway

/-- Stores that agree on the way of a path agree on that of its directory. -/
theorem AgreeOnWay.directory (h : AgreeOnWay fs fs' p)
    (hp : p.components = dir.components ++ [.name name]) : AgreeOnWay fs fs' dir :=
  ⟨h.workingDirectory_eq, fun l hl => h.node?_eq l ((onWay_iff hp l).2 (.inl hl))⟩

/-- A text for the file of a path is drafted on the way of the path. -/
theorem AgreeOnWay.draftDirectory (h : AgreeOnWay fs fs' p)
    (hp : p.components = dir.components ++ [.name name]) :
    AgreeOnWay fs fs' (draftDirectory p) := by
  have hname : p.fileName? = some name := by
    rw [Path.fileName?, hp, List.getLast?_concat]
  obtain ⟨parent, hparent⟩ := Path.exists_parent?_of_fileName? hname
  have hcomponents := Path.components_eq_of_parent? hparent hname
  refine ⟨h.workingDirectory_eq, fun l hl => h.node?_eq l ((onWay_iff hcomponents l).2 (.inl ?_))⟩
  unfold FileStore.draftDirectory at hl
  rw [hparent] at hl
  dsimp only at hl
  split at hl
  · next hempty =>
    -- The draft is in the working directory, where the path starts.
    have htext : parent.text = "" := by simpa using hempty
    obtain rfl : parent = ⟨""⟩ := congrArg Path.mk htext
    exact hl
  · exact hl

/-! ## Effects -/

/-- A store that is the same everywhere but at a place that is no directory keeps everything
else. -/
theorem keeps_of_elsewhere {loc : Location} (hworking : fs'.workingDirectory = fs.workingDirectory)
    (helsewhere : ∀ l, l ≠ loc → fs'.node? l = fs.node? l)
    (hfree : fs.node? loc ≠ some .directory) : Keeps fs fs' loc := by
  refine ⟨hworking, fun l n hn hne => ?_, fun l c hc hne => ?_⟩
  · have hl : l ≠ loc := by
      rintro rfl
      exact hfree (hne rfl ▸ hn)
    rw [helsewhere l hl, hn]
  · rw [← helsewhere l hne, hc]

/-- What an operation does to the place of a file. -/
inductive Effect where
  /-- Nothing. -/
  | kept
  /-- The file is removed. -/
  | removed
  /-- A text stands there. -/
  | replaced (text : String)

namespace Effect

variable {effect : Effect}

/-- The store after an operation had an effect on a location. -/
def on (effect : Effect) (fs : FileStore) (loc : Location) : FileStore :=
  match effect with
  | kept => fs
  | removed => { fs with nodes := fs.nodes.erase loc }
  | replaced text => fs.set loc (.file (.text text))

/-- An operation has an effect on the file of a path in a directory only when the way of the
directory is open and no directory stands at the place of the file. -/
def Fits (effect : Effect) (fs : FileStore) (p dir : Path) : Prop :=
  effect = kept ∨ fs.Opens dir ∧ fs.node? (fs.locationOf p) ≠ some .directory

/-- What an effect makes of what a location holds. -/
def result (effect : Effect) (before : Option Node) : Option Node :=
  match effect with
  | kept => before
  | removed => none
  | replaced text => some (.file (.text text))

/-- An effect changes what its location holds, and nothing else. -/
theorem find?_on (effect : Effect) (fs : FileStore) (loc l : Location) :
    (effect.on fs loc).nodes.find? l =
      if l = loc then effect.result (fs.nodes.find? l) else fs.nodes.find? l := by
  cases effect with
  | kept => exact (ite_self _).symm
  | removed => exact SortedMap.find?_erase fs.nodes l loc
  | replaced text => exact SortedMap.find?_insert fs.nodes l loc _

/-- An effect leaves every other location as it was. -/
theorem node?_on_of_ne (effect : Effect) (fs : FileStore) {loc l : Location} (h : l ≠ loc) :
    (effect.on fs loc).node? l = fs.node? l := by
  unfold node?
  rw [find?_on, if_neg h]

/-- An effect leaves no directory at its location. -/
theorem node?_on_ne_directory (effect : Effect) {loc : Location} (hroot : loc ≠ [])
    (h : fs.node? loc ≠ some .directory) : (effect.on fs loc).node? loc ≠ some .directory := by
  rw [node?_of_ne hroot] at h
  rw [node?_of_ne hroot, find?_on, if_pos rfl]
  cases effect with
  | kept => exact h
  | removed => simp [result]
  | replaced text => simp [result]

/-- An effect does not change where relative paths start. -/
theorem workingDirectory_on (effect : Effect) (fs : FileStore) (loc : Location) :
    (effect.on fs loc).workingDirectory = fs.workingDirectory := by
  cases effect <;> rfl

/-- Effects on different locations come in any order. -/
theorem on_comm (effect effect' : Effect) (fs : FileStore) {loc loc' : Location} (h : loc ≠ loc') :
    effect'.on (effect.on fs loc) loc' = effect.on (effect'.on fs loc') loc := by
  have hnodes : (effect'.on (effect.on fs loc) loc').nodes =
      (effect.on (effect'.on fs loc') loc).nodes := by
    refine SortedMap.ext_find? fun l => ?_
    rw [find?_on, find?_on, find?_on, find?_on]
    by_cases hl : l = loc
    · have hl' : l ≠ loc' := fun hl' => h (hl.symm.trans hl')
      rw [if_pos hl, if_pos hl, if_neg hl', if_neg hl']
    · rw [if_neg hl, if_neg hl]
  calc effect'.on (effect.on fs loc) loc'
      = ⟨fs.workingDirectory, (effect'.on (effect.on fs loc) loc').nodes⟩ := by
        rw [← workingDirectory_on effect fs loc, ← workingDirectory_on effect' _ loc']
    _ = ⟨fs.workingDirectory, (effect.on (effect'.on fs loc') loc).nodes⟩ := by rw [hnodes]
    _ = effect.on (effect'.on fs loc') loc := by
        rw [← workingDirectory_on effect' fs loc', ← workingDirectory_on effect _ loc]

/-- An effect on a file leaves the way of its directory as it was. -/
theorem Fits.agreeOnWay_directory (h : effect.Fits fs p dir) :
    AgreeOnWay fs (effect.on fs (fs.locationOf p)) dir := by
  refine ⟨workingDirectory_on effect fs _, fun l hl => ?_⟩
  rcases h with rfl | ⟨hopens, hfree⟩
  · rfl
  · -- Directories stand on the way, and none at the place of the file.
    have hne : l ≠ fs.locationOf p := by
      rintro rfl
      exact hfree (hopens _ hl)
    exact node?_on_of_ne effect fs hne

/-- An effect on a file leaves the way of another file in its directory as it was. -/
theorem Fits.agreeOnWay (h : effect.Fits fs p dir)
    (hp : p.components = dir.components ++ [.name name]) {q : Path} {name' : String}
    (hq : q.components = dir.components ++ [.name name']) (hne : name ≠ name') :
    AgreeOnWay fs (effect.on fs (fs.locationOf p)) q := by
  refine ⟨workingDirectory_on effect fs _, fun l hl => ?_⟩
  rcases (onWay_iff hq l).1 hl with hdir | rfl
  · exact h.agreeOnWay_directory.node?_eq l hdir
  · exact node?_on_of_ne effect fs (fs.locationOf_ne_of_components hp hq hne).symm

/-- An effect on a file keeps everything else, and adds nothing else. -/
theorem Fits.keeps (h : effect.Fits fs p dir)
    (hp : p.components = dir.components ++ [.name name]) :
    Keeps fs (effect.on fs (fs.locationOf p)) (fs.locationOf p) ∧
      Keeps (effect.on fs (fs.locationOf p)) fs (fs.locationOf p) := by
  rcases h with rfl | ⟨-, hfree⟩
  · exact ⟨.refl _ _, .refl _ _⟩
  · have hworking := workingDirectory_on effect fs (fs.locationOf p)
    have hafter := node?_on_ne_directory effect (fs.locationOf_ne_root hp) hfree
    constructor
    · exact keeps_of_elsewhere hworking (fun l hl => node?_on_of_ne effect fs hl) hfree
    · exact keeps_of_elsewhere hworking.symm (fun l hl => (node?_on_of_ne effect fs hl).symm) hafter

/-- An effect on a file leaves the files of other names alike, in any directory. -/
theorem Fits.alike (h : effect.Fits fs p dir)
    (hp : p.components = dir.components ++ [.name name]) {q dir' : Path} {name' : String}
    (hq : q.components = dir'.components ++ [.name name']) (hne : name ≠ name') :
    Alike fs (effect.on fs (fs.locationOf p)) q := by
  obtain ⟨hkeeps, hback⟩ := h.keeps hp
  exact alike_of_keeps hkeeps hback (fs.locationOf_ne_of_components hp hq hne).symm

end Effect

/-! ## Local operations -/

/-- An operation on the file of a path in a directory is local when it ends alike and has the same
effect in all stores that open the directory and agree on the way of the path. -/
def IsLocal {ε : Type} (op : FileStore → Except ε Unit × FileStore) (p dir : Path) : Prop :=
  ∀ fs fs', fs.Opens dir → AgreeOnWay fs fs' p → (op fs').1 = (op fs).1 ∧
    ∃ effect : Effect, effect.Fits fs p dir ∧ (op fs).2 = effect.on fs (fs.locationOf p) ∧
      (op fs').2 = effect.on fs' (fs.locationOf p)

/-- Two operations can be done in any order: each ends as it would end alone, and both orders lead
to the same store. -/
structure CommuteAt {ε : Type} (op op' : FileStore → Except ε Unit × FileStore) (fs : FileStore) :
    Prop where
  /-- The second operation ends after the first as it ends alone. -/
  second_eq : (op' (op fs).2).1 = (op' fs).1
  /-- The first operation ends after the second as it ends alone. -/
  first_eq : (op (op' fs).2).1 = (op fs).1
  /-- The stores are the same. -/
  files_eq : (op' (op fs).2).2 = (op (op' fs).2).2

/-- An operation leads from two stores to the same one, or ends alike in both and changes
neither. -/
def Coincides {ε : Type} (op : FileStore → Except ε Unit × FileStore) (fs fs' : FileStore) : Prop :=
  op fs = op fs' ∨ (op fs).1 = (op fs').1 ∧ (op fs).2 = fs ∧ (op fs').2 = fs'

/-- The end of an operation that leaves the store as it was when it fails. -/
def attempt {ε : Type} (fs : FileStore) : Except ε FileStore → Except ε Unit × FileStore
  | .ok fs' => (.ok (), fs')
  | .error e => (.error e, fs)

section Operations

variable {ε : Type} {op op' : FileStore → Except ε Unit × FileStore}

/-- Operations that change nothing can be done in any order. -/
theorem CommuteAt.of_unchanged (h : (op fs).2 = fs) (h' : (op' fs).2 = fs) :
    CommuteAt op op' fs :=
  ⟨by rw [h], by rw [h'], by rw [h, h', h]⟩

/-- Operations that can be done in any order in a store can be so in any other in which they
coincide with themselves there. -/
theorem CommuteAt.of_coincides (h : CommuteAt op op' fs') (hop : Coincides op fs fs')
    (hop' : Coincides op' fs fs') : CommuteAt op op' fs := by
  obtain ⟨hsecond, hfirst, hfiles⟩ := h
  rcases hop with heq | ⟨hend, hstill, hthere⟩
  · rcases hop' with heq' | ⟨hend', hstill', hthere'⟩
    · exact ⟨by rw [heq, hsecond, heq'], by rw [heq', hfirst, heq], by rw [heq, heq', hfiles]⟩
    · refine ⟨by rw [heq, hsecond, hend'], by rw [hstill'], ?_⟩
      rw [heq, hfiles, hthere', hstill', heq]
  · rcases hop' with heq' | ⟨-, hstill', -⟩
    · refine ⟨by rw [hstill], by rw [heq', hfirst, hend], ?_⟩
      rw [heq', ← hfiles, hthere, hstill, heq']
    · exact .of_unchanged hstill hstill'

end Operations

namespace IsLocal

variable {ε : Type} {op op' : FileStore → Except ε Unit × FileStore} {q : Path} {name' : String}

/-- A local operation has an effect on its own file. -/
theorem exists_effect (h : IsLocal op p dir) (hopens : fs.Opens dir) :
    ∃ effect : Effect, effect.Fits fs p dir ∧ (op fs).2 = effect.on fs (fs.locationOf p) := by
  obtain ⟨-, effect, hfits, heffect, -⟩ := h fs fs hopens (.refl fs p)
  exact ⟨effect, hfits, heffect⟩

/-- An operation that always ends in the same way and changes nothing is local. -/
theorem of_unchanged (outcome : Except ε Unit) (p dir : Path) :
    IsLocal (fun fs => (outcome, fs)) p dir :=
  fun _ _ _ _ => ⟨rfl, .kept, .inl rfl, rfl, rfl⟩

/-- An operation that says otherwise how a local one ended is local. -/
theorem map {ε' : Type} (h : IsLocal op p dir) (f : Except ε Unit → Except ε' Unit) :
    IsLocal (fun fs => (f (op fs).1, (op fs).2)) p dir := by
  intro fs fs' hopens hagree
  obtain ⟨hend, heffect⟩ := h fs fs' hopens hagree
  exact ⟨congrArg f hend, heffect⟩

/-- Local operations on files of different names in an open directory can be done in any order. -/
theorem comm (h : IsLocal op p dir) (h' : IsLocal op' q dir)
    (hp : p.components = dir.components ++ [.name name])
    (hq : q.components = dir.components ++ [.name name']) (hne : name ≠ name')
    (hopens : fs.Opens dir) : CommuteAt op op' fs := by
  obtain ⟨effect, hfits, heffect⟩ := h.exists_effect hopens
  obtain ⟨effect', hfits', heffect'⟩ := h'.exists_effect hopens
  have hagree : AgreeOnWay fs (op fs).2 q := by
    rw [heffect]
    exact hfits.agreeOnWay hp hq hne
  have hagree' : AgreeOnWay fs (op' fs).2 p := by
    rw [heffect']
    exact hfits'.agreeOnWay hq hp hne.symm
  obtain ⟨houtcome, done, -, hdone, hafter⟩ := h fs _ hopens hagree'
  obtain ⟨houtcome', done', -, hdone', hafter'⟩ := h' fs _ hopens hagree
  refine ⟨houtcome', houtcome, ?_⟩
  have hplaces : fs.locationOf p ≠ fs.locationOf q := fs.locationOf_ne_of_components hp hq hne
  calc (op' (op fs).2).2
      = done'.on (done.on fs (fs.locationOf p)) (fs.locationOf q) := by rw [hafter', hdone]
    _ = done.on (done'.on fs (fs.locationOf q)) (fs.locationOf p) :=
        Effect.on_comm done done' fs hplaces
    _ = (op (op' fs).2).2 := by rw [hafter, hdone']

end IsLocal

/-! ## Operations on files -/

/-- A file that is removed stands in an open directory. -/
theorem opens_of_removeFile (hp : p.components = dir.components ++ [.name name])
    (h : fs.removeFile p = .ok fs') : fs.Opens dir := by
  unfold removeFile at h
  obtain ⟨⟨l, n⟩, hstat, -⟩ := bind_eq_ok_iff.1 h
  obtain ⟨route, hroute, hwalk, -, -⟩ := stat_eq_ok_iff.1 hstat
  exact opens_of_walk_in hp (routeOf_eq_ok_iff.1 hroute).2.2 hwalk

/-- Removing a file is local. -/
theorem isLocal_removeFile (p dir : Path) :
    IsLocal (fun fs => attempt fs (fs.removeFile p)) p dir := by
  intro fs fs' hopens hagree
  unfold removeFile
  dsimp only
  rw [hagree.stat]
  rcases hstat : fs.stat p with e | ⟨l, n⟩
  · exact ⟨rfl, .kept, .inl rfl, rfl, rfl⟩
  · simp only [bind, Except.bind]
    cases n with
    | directory => exact ⟨rfl, .kept, .inl rfl, rfl, rfl⟩
    | file content =>
      obtain ⟨-, -, -, hnode, -⟩ := stat_eq_ok_iff.1 hstat
      rw [locationOf_of_stat hstat]
      refine ⟨rfl, .removed, .inr ⟨hopens, ?_⟩, rfl, rfl⟩
      rw [locationOf_of_stat hstat, hnode]
      simp

/-- A text can be drafted in stores that agree on the way of its directory, or in none. -/
theorem checkDraft_congr (h : AgreeOnWay fs fs' dir) : fs'.checkDraft dir = fs.checkDraft dir := by
  unfold checkDraft absoluteBytes
  rw [h.stat, h.workingDirectory_eq]

/-- Moving a text to a path ends alike in stores that agree on its way. -/
theorem moveText_congr (h : AgreeOnWay fs fs' p) (text : String) :
    (fs'.moveText p text).map (fun _ => ()) = (fs.moveText p text).map fun _ => () := by
  unfold moveText
  rcases hroute : routeOf p with e | route
  · rfl
  · have hpath := (routeOf_eq_ok_iff.1 hroute).2.2
    obtain ⟨hwalk, hnode⟩ := h.walk hpath (prefix_stepsToDirectory route)
    simp only [bind, Except.bind]
    rw [hwalk]
    rcases hled : fs.walk (fs.start route) (stepsToDirectory route) with e | l
    · rfl
    · rw [hled] at hnode
      dsimp only
      rw [hnode l rfl]
      split
      · rfl
      · rfl
      · next hdir =>
        split
        · next name hlast hplain =>
          split
          · rfl
          · next hsize =>
            -- The name ends the way of the path.
            have hfull : fs.walk (fs.start route) route.steps = .ok (l ++ [name]) := by
              rw [steps_of_plain hplain hlast]
              exact walk_concat hled hdir hsize
            rw [(h.walk hpath (List.prefix_refl _)).2 _ hfull]
            split <;> rfl
        · rfl
        · rfl

/-- Replacing the file of a path ends alike in stores that agree on the way of the path. -/
theorem replaceFile_congr (h : AgreeOnWay fs fs' p)
    (hp : p.components = dir.components ++ [.name name]) (text : String) :
    (fs'.replaceFile p text).map (fun _ => ()) = (fs.replaceFile p text).map fun _ => () := by
  unfold replaceFile
  rw [checkDraft_congr (h.draftDirectory hp)]
  rcases fs.checkDraft (draftDirectory p) with e | u
  · rfl
  · simp only [bind, Except.bind]
    split
    · rfl
    · exact moveText_congr h text

/-- Replacing the file of a path that succeeds puts the text at the place of the path, in an open
directory. -/
theorem replaceFile_effect (hp : p.components = dir.components ++ [.name name]) {text : String}
    (h : fs.replaceFile p text = .ok fs') :
    (Effect.replaced text).Fits fs p dir ∧
      fs' = (Effect.replaced text).on fs (fs.locationOf p) := by
  obtain ⟨route, loc, name', hroute, -, hwalk, hfree, rfl⟩ :=
    exists_of_moveText (moveText_of_replaceFile h)
  have hopens := opens_of_walk_in hp (routeOf_eq_ok_iff.1 hroute).2.2 hwalk
  rw [locationOf_of_walk hroute hwalk]
  refine ⟨.inr ⟨hopens, ?_⟩, rfl⟩
  rw [locationOf_of_walk hroute hwalk]
  exact hfree

/-- Replacing a file is local. -/
theorem isLocal_replaceFile (hp : p.components = dir.components ++ [.name name]) (text : String) :
    IsLocal (fun fs => attempt fs (fs.replaceFile p text)) p dir := by
  intro fs fs' _ hagree
  have hcongr := replaceFile_congr hagree hp text
  have hplace := locationOf_congr hagree.workingDirectory_eq p
  dsimp only
  rcases hresult : fs.replaceFile p text with e | written <;>
    rcases hresult' : fs'.replaceFile p text with e' | written' <;>
    rw [hresult, hresult'] at hcongr
  · obtain rfl : e' = e := Except.error.inj hcongr
    exact ⟨rfl, .kept, .inl rfl, rfl, rfl⟩
  · cases hcongr
  · cases hcongr
  · obtain ⟨hfits, rfl⟩ := replaceFile_effect hp hresult
    obtain ⟨-, rfl⟩ := replaceFile_effect hp hresult'
    rw [hplace]
    exact ⟨rfl, .replaced text, hfits, rfl, rfl⟩

end Autostart.FileStore
