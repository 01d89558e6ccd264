import Autostart.Proofs.FileStore.Reaching

/-!
# What a change touches

A change to a store touches files at some locations, and makes directories on the way of a path.
Every other file is the same before and after, and no directory goes away. What was only made on the
way of a path is no file, so a failure that leaves nothing else leaves all files.
-/

namespace Autostart.FileStore

variable {fs fs' fs'' : FileStore} {p : Path} {touched touched' : Location → Prop}

/-- A location is one that the steps of a path pass through or end at. -/
def OnWay (fs : FileStore) (p : Path) (loc : Location) : Prop :=
  ∃ steps, steps <+: p.components.filterMap Path.Component.step? ∧
    loc = target (fs.startOf p.components) steps

/-- Where the steps of a path pass depends on the working directory only. -/
theorem onWay_congr (h : fs'.workingDirectory = fs.workingDirectory) (p : Path) (loc : Location) :
    fs'.OnWay p loc ↔ fs.OnWay p loc := by
  unfold OnWay startOf
  rw [h]

/-- Two stores have the same files but at the touched locations, and the second has all directories
of the first, and perhaps more on the way of a path. -/
structure Touches (fs fs' : FileStore) (p : Path) (touched : Location → Prop) : Prop where
  /-- Relative paths start at the same place. -/
  workingDirectory_eq : fs'.workingDirectory = fs.workingDirectory
  /-- The files elsewhere are the same. -/
  file_iff : ∀ l c, ¬ touched l → (fs'.node? l = some (.file c) ↔ fs.node? l = some (.file c))
  /-- The directories are still there. -/
  directory : ∀ l, fs.node? l = some .directory → fs'.node? l = some .directory
  /-- A new directory is on the way of the path. -/
  made : ∀ l, fs'.node? l = some .directory → fs.node? l = some .directory ∨ fs.OnWay p l

namespace Touches

/-- No change touches nothing. -/
theorem refl (fs : FileStore) (p : Path) (touched : Location → Prop) : Touches fs fs p touched :=
  ⟨rfl, fun _ _ _ => Iff.rfl, fun _ h => h, fun _ h => .inl h⟩

/-- One change after another touches what both touch. -/
theorem trans (h : Touches fs fs' p touched) (h' : Touches fs' fs'' p touched) :
    Touches fs fs'' p touched := by
  refine ⟨h'.workingDirectory_eq.trans h.workingDirectory_eq,
    fun l c hl => (h'.file_iff l c hl).trans (h.file_iff l c hl),
    fun l hl => h'.directory l (h.directory l hl), fun l hl => ?_⟩
  rcases h'.made l hl with hl' | hway
  · exact h.made l hl'
  · exact .inr ((onWay_congr h.workingDirectory_eq p l).1 hway)

/-- More locations may be touched. -/
theorem mono (h : Touches fs fs' p touched) (himp : ∀ l, touched l → touched' l) :
    Touches fs fs' p touched' :=
  { h with file_iff := fun l c hl => h.file_iff l c fun ht => hl (himp l ht) }

/-- A change that touches one location keeps everything else. -/
theorem keeps {loc : Location} (h : Touches fs fs' p touched) (hloc : ∀ l, touched l → l = loc) :
    Keeps fs fs' loc := by
  refine ⟨h.workingDirectory_eq, fun l n hn hne => ?_, fun l c hc hne => ?_⟩
  · cases n with
    | directory => exact h.directory l hn
    | file c => exact (h.file_iff l c fun ht => by cases hne (hloc l ht)).2 hn
  · exact (h.file_iff l c fun ht => hne (hloc l ht)).1 hc

/-- A path that leads to a file that is not touched still leads to it. -/
theorem stat (h : Touches fs fs' p touched) {q : Path} {l : Location} {c : Content}
    (hstat : fs.stat q = .ok (l, .file c)) (hl : ¬ touched l) : fs'.stat q = .ok (l, .file c) := by
  obtain ⟨route, hroute, hwalk, hnode, hending⟩ := stat_eq_ok_iff.1 hstat
  have hstart : fs'.start route = fs.start route := by
    unfold start
    rw [h.workingDirectory_eq]
  refine stat_eq_ok_iff.2 ⟨route, hroute, ?_, (h.file_iff l c hl).2 hnode, hending⟩
  rw [hstart]
  exact walk_of_directories h.directory hwalk

/-- A change that does not touch the place of a path leaves its file. -/
theorem leaves (h : Touches fs fs' p touched) {q : Path} (hq : ¬ touched (fs.locationOf q)) :
    Leaves fs fs' q := by
  have hstat : ∀ l c, fs.stat q = .ok (l, .file c) → fs'.stat q = .ok (l, .file c) :=
    fun l c hstat => h.stat hstat (locationOf_of_stat hstat ▸ hq)
  refine ⟨h.workingDirectory_eq, fun hfile => ?_, fun s hread => ?_,
    fun c => (h.file_iff _ c hq).1⟩
  · obtain ⟨l, c, hfound⟩ := FileStore.isFile_iff.1 hfile
    exact FileStore.isFile_iff.2 ⟨l, c, hstat l c hfound⟩
  · obtain ⟨l, hfound⟩ := readText_eq_ok_iff.1 hread
    exact readText_eq_ok_iff.2 ⟨l, hstat l _ hfound⟩

/-- Where no file stands before and after nothing is touched. -/
theorem untouched {loc : Location} (h : Touches fs fs' p fun l => l = loc)
    (hbefore : ∀ c, fs.node? loc ≠ some (.file c)) (hafter : ∀ c, fs'.node? loc ≠ some (.file c)) :
    Touches fs fs' p fun _ => False := by
  refine { h with file_iff := fun l c _ => ?_ }
  by_cases hl : l = loc
  · subst hl
    exact iff_of_false (hafter c) (hbefore c)
  · exact h.file_iff l c hl

end Touches

/-! ## Files -/

/-- Setting a file where no directory stands touches its place. -/
theorem touches_set {loc : Location} (h : fs.node? loc ≠ some .directory) (content : Content)
    (p : Path) : Touches fs (fs.set loc (.file content)) p fun l => l = loc := by
  have hroot : loc ≠ [] := by
    rintro rfl
    exact h rfl
  refine ⟨rfl, fun l c hl => by rw [node?_set_of_ne hl], fun l hl => ?_, fun l hl => .inl ?_⟩
  · have hne : l ≠ loc := by
      rintro rfl
      exact h hl
    rw [node?_set_of_ne hne, hl]
  · have hne : l ≠ loc := by
      rintro rfl
      rw [node?_set_self hroot] at hl
      cases hl
    rw [← node?_set_of_ne hne, hl]

/-- Removing a file touches its place. -/
theorem touches_removeFile {q : Path} (h : fs.removeFile q = .ok fs') (p : Path) :
    Touches fs fs' p fun l => l = fs.locationOf q := by
  obtain ⟨content, hnode, hworking, hafter⟩ := removeFile_spec h
  refine ⟨hworking, fun l c hl => by rw [hafter, if_neg hl], fun l hl => ?_, fun l hl => .inl ?_⟩
  · rw [hafter, if_neg, hl]
    rintro rfl
    rw [hnode] at hl
    cases hl
  · rw [hafter] at hl
    split at hl
    · cases hl
    · exact hl

/-- A text that replaces a file touches its place. -/
theorem touches_replaceFile {q : Path} {s : String} (h : fs.replaceFile q s = .ok fs') (p : Path) :
    Touches fs fs' p fun l => l = fs.locationOf q := by
  obtain ⟨route, dir, name, hroute, -, hwalk, hfree, rfl⟩ :=
    exists_of_moveText (moveText_of_replaceFile h)
  rw [locationOf_of_walk hroute hwalk]
  exact touches_set hfree _ p

/-- Copying a file touches the place of the copy. -/
theorem touches_copyFile {source q : Path} (h : fs.copyFile source q = .ok fs') (p : Path) :
    Touches fs fs' p fun l => l = fs.locationOf q := by
  obtain ⟨content, hfree, rfl, -⟩ := exists_of_copyFile h
  exact touches_set hfree content p

/-! ## Directories -/

/-- A directory is made at the end of its steps, where nothing stands. -/
theorem exists_of_makeDirectory {start : Location} {steps : List Path.Step} {ending : Path.Ending}
    (h : fs.makeDirectory start steps ending = .ok fs') :
    ∃ loc, fs.walk start steps = .ok loc ∧ fs.node? loc = none ∧ fs' = fs.set loc .directory := by
  unfold makeDirectory at h
  obtain ⟨loc, hwalk, hmade⟩ := bind_eq_ok_iff.1 h
  split at hmade
  · cases hmade
  · cases hmade
  · next hnone =>
    split at hmade
    · cases hmade
    · exact ⟨loc, hwalk, hnone, (Except.ok.inj hmade).symm⟩

/-- Making a directory at the end of some steps of a path touches no file. -/
theorem touches_makeDirectory {steps : List Path.Step} {ending : Path.Ending}
    (h : fs.makeDirectory (fs.startOf p.components) steps ending = .ok fs')
    (hsteps : steps <+: p.components.filterMap Path.Component.step?) :
    Touches fs fs' p fun _ => False := by
  obtain ⟨loc, hwalk, hnone, rfl⟩ := exists_of_makeDirectory h
  have hroot : loc ≠ [] := by
    rintro rfl
    cases hnone
  refine ⟨rfl, fun l c _ => ?_, fun l hl => ?_, fun l hl => ?_⟩
  · by_cases hne : l = loc
    · simp [hne, node?_set_self hroot, hnone]
    · rw [node?_set_of_ne hne]
  · have hne : l ≠ loc := by
      rintro rfl
      rw [hnone] at hl
      cases hl
    rw [node?_set_of_ne hne, hl]
  · by_cases hne : l = loc
    · exact .inr ⟨steps, hsteps, hne.trans (target_of_walk hwalk).symm⟩
    · rw [node?_set_of_ne hne] at hl
      exact .inl hl

/-- Making a chain of directories along a path touches no file, whatever comes of it. -/
theorem touches_makeChain {start : Location} (hstart : start = fs.startOf p.components)
    (reversed : List Path.Step) (ending : Path.Ending)
    (hsteps : reversed.reverse <+: p.components.filterMap Path.Component.step?) :
    Touches fs (fs.makeChain start reversed ending).2 p fun _ => False := by
  subst hstart
  -- The steps are taken back one by one, and what is left still leads along the path.
  induction reversed generalizing ending with
  | nil =>
    unfold makeChain
    split
    · next hmade => exact touches_makeDirectory hmade hsteps
    · exact .refl fs p _
  | cons last before ih =>
    unfold makeChain
    dsimp only
    split
    · next hmade => exact touches_makeDirectory hmade hsteps
    · rw [List.reverse_cons] at hsteps
      have hbefore := ih .plain ((List.prefix_append _ _).trans hsteps)
      split
      · next heq =>
        rw [heq] at hbefore
        exact hbefore
      · next fs' heq =>
        rw [heq] at hbefore
        have hstart : fs'.startOf p.components = fs.startOf p.components := by
          unfold startOf
          rw [hbefore.workingDirectory_eq]
        split
        · next hmade =>
          rw [← hstart, List.reverse_cons] at hmade
          exact hbefore.trans (touches_makeDirectory hmade hsteps)
        · exact hbefore
    · exact .refl fs p _

/-- Making the directories of a path touches no file, whatever comes of it. -/
theorem touches_makeDirectories (fs : FileStore) (p : Path) :
    Touches fs (fs.makeDirectories p).2 p fun _ => False := by
  unfold makeDirectories
  split
  · exact .refl fs p _
  · split
    · exact .refl fs p _
    · next route hroute =>
      obtain ⟨hstart, hsteps⟩ := fs.route?_spec (routeOf_eq_ok_iff.1 hroute).2.2
      have hback := (List.reverse_reverse route.steps).trans hsteps
      exact touches_makeChain hstart _ _ (hback ▸ List.prefix_refl _)

/-- Nothing is to be made when the steps of a chain lead to a directory. -/
theorem makeChain_of_walk {start l : Location} {reversed : List Path.Step}
    (hwalk : fs.walk start reversed.reverse = .ok l) (hnode : fs.node? l = some .directory)
    (ending : Path.Ending) : fs.makeChain start reversed ending = (.ok (), fs) := by
  have hmade : fs.makeDirectory start reversed.reverse ending = .error .alreadyExists := by
    unfold makeDirectory
    rw [hwalk]
    simp only [bind, Except.bind, hnode]
  have hthere : fs.isDirectoryFrom start reversed.reverse = true := by
    unfold isDirectoryFrom
    rw [hwalk]
    simp [hnode]
  cases reversed with
  | nil =>
    unfold makeChain
    rw [List.reverse_nil] at hmade hthere
    simp only [hmade, hthere, if_true]
  | cons last before =>
    unfold makeChain
    simp only [hmade, hthere, if_true]

/-- Nothing is to be made when the path leads to a directory. -/
theorem makeDirectories_of_stat {l : Location} (h : fs.stat p = .ok (l, .directory)) :
    fs.makeDirectories p = (.ok (), fs) := by
  obtain ⟨route, hroute, hwalk, hnode, -⟩ := stat_eq_ok_iff.1 h
  unfold makeDirectories
  rw [hroute]
  split
  · rfl
  · refine makeChain_of_walk ?_ hnode route.ending
    rw [List.reverse_reverse]
    exact hwalk

/-! ## Paths that lead to their places -/

/-- A path leads to its place, whatever stands there: the directories on the way are there, and it
ends like the path of a file. -/
def Leads (fs : FileStore) (p : Path) : Prop :=
  ∃ route, routeOf p = .ok route ∧ route.ending = .plain ∧
    fs.walk (fs.start route) route.steps = .ok (fs.locationOf p)

/-- The path of a file leads to its place. -/
theorem leads_of_isFile (h : fs.isFile p = true) : fs.Leads p := by
  obtain ⟨l, c, hstat⟩ := FileStore.isFile_iff.1 h
  obtain ⟨route, hroute, hwalk, -, hending⟩ := stat_eq_ok_iff.1 hstat
  refine ⟨route, hroute, hending.resolve_left (by simp), ?_⟩
  rw [locationOf_of_stat hstat]
  exact hwalk

/-- A path still leads to its place after a change, since no directory goes away. -/
theorem Leads.touches (h : fs.Leads p) {q : Path} (htouches : Touches fs fs' q touched) :
    fs'.Leads p := by
  obtain ⟨route, hroute, hplain, hwalk⟩ := h
  have hstart : fs'.start route = fs.start route := by
    unfold start
    rw [htouches.workingDirectory_eq]
  refine ⟨route, hroute, hplain, ?_⟩
  rw [hstart, locationOf_congr htouches.workingDirectory_eq]
  exact walk_of_directories htouches.directory hwalk

/-- A file whose place is reached by a path is not missing for any spelling of the path. -/
theorem Leads.removeFile_ne_notFound (h : fs.Leads p) {c : Content}
    (hnode : fs.node? (fs.locationOf p) = some (.file c)) {name : String}
    (hname : p.fileName? = some name) {q : Path} (hsame : p.same q = true) :
    fs.removeFile q ≠ .error .notFound := by
  obtain ⟨route, hroute, hplain, hwalk⟩ := h
  have hcomponents := (Path.same_iff p q).1 hsame
  have htext : q.text ≠ "" := by
    intro hempty
    obtain rfl : q = ⟨""⟩ := congrArg Path.mk hempty
    rw [Path.fileName?, hcomponents] at hname
    cases hname
  unfold removeFile stat
  rcases hroute' : routeOf q with e | route'
  · -- Only a path without a text has no route for want of a file.
    unfold routeOf at hroute'
    obtain ⟨found, hfound⟩ := exists_route? htext
    simp only [bind, Except.bind]
    intro hmissing
    obtain rfl : e = .notFound := Except.error.inj hmissing
    rw [hfound] at hroute'
    split at hroute'
    · cases hroute'
    · split at hroute'
      · cases hroute'
      · cases hroute'
  · obtain ⟨hstart, hsteps⟩ := fs.route?_spec (routeOf_eq_ok_iff.1 hroute).2.2
    obtain ⟨hstart', hsteps'⟩ := fs.route?_spec (routeOf_eq_ok_iff.1 hroute').2.2
    have hwalk' : fs.walk (fs.start route') route'.steps = .ok (fs.locationOf p) := by
      rw [hstart', hsteps', ← hcomponents, ← hstart, ← hsteps]
      exact hwalk
    by_cases hplain' : route'.ending = .plain
    · simp [bind, Except.bind, hwalk', hnode, hplain']
    · simp [bind, Except.bind, hwalk', hnode, hplain']

end Autostart.FileStore
