import Autostart.Proofs.FileStore.Keeping
import Autostart.Proofs.FileStore.Listing
import Autostart.Proofs.FileStore.Locating

/-!
# Files in directories

A path that is joined from a directory and a file name leads to a file only when the directory is
there, and then the directory lists the name. So what a directory holds can be asked path by path. A
change at one place leaves the files of all paths to other places alike.
-/

namespace Autostart.FileStore

variable {fs fs' : FileStore}

/-! ## Files in a directory -/

/-- What a joined path leads to stands in the directory that it is joined from. -/
theorem exists_of_stat_join {dir : Path} (hdir : dir.text ≠ "") {name : String}
    (hname : Path.IsFileName name) {l : Location} {n : Node}
    (h : fs.stat (dir.join name) = .ok (l, n)) :
    ∃ loc, fs.stat dir = .ok (loc, .directory) ∧ l = loc ++ [name] := by
  obtain ⟨route, hroute, hwalk, -, -⟩ := stat_eq_ok_iff.1 h
  obtain ⟨hnull, hsize, hroute⟩ := routeOf_eq_ok_iff.1 hroute
  obtain ⟨dirRoute, hdirRoute⟩ := exists_route? hdir
  -- The route of the joined path is that of the directory with one more step.
  obtain ⟨hstart, hsteps⟩ := fs.route?_spec hroute
  obtain ⟨hdirStart, hdirSteps⟩ := fs.route?_spec hdirRoute
  rw [Path.components_join dir hname] at hstart hsteps
  rw [startOf_concat, ← hdirStart] at hstart
  rw [List.filterMap_append, ← hdirSteps] at hsteps
  rw [hstart, hsteps] at hwalk
  obtain ⟨loc, hdirWalk, hnode, rfl⟩ := exists_of_walk_concat hwalk
  obtain ⟨rest, htext⟩ := Path.exists_text_join dir hname
  refine ⟨loc, stat_eq_ok_iff.2 ⟨dirRoute, ?_, hdirWalk, hnode, .inl rfl⟩, rfl⟩
  rw [htext] at hnull hsize
  refine routeOf_eq_ok_iff.2 ⟨?_, ?_, hdirRoute⟩
  · rw [String.toList_append] at hnull
    simp only [List.contains_eq_mem, List.mem_append, decide_eq_false_iff_not, not_or] at hnull ⊢
    exact hnull.1
  · rw [String.utf8ByteSize_append] at hsize
    omega

/-- A path leads to a file when it leads to a place that holds one. -/
theorem isFile_iff {p : Path} :
    fs.isFile p = true ↔ ∃ l content, fs.stat p = .ok (l, .file content) := by
  unfold isFile
  split
  · next heq => simp [heq]
  · next hother => simpa using hother

/-- A path leads to a directory when it leads to a place that holds one. -/
theorem isDirectory_iff {p : Path} :
    fs.isDirectory p = true ↔ ∃ l, fs.stat p = .ok (l, .directory) := by
  unfold isDirectory
  split
  · next heq => simp [heq]
  · next hother => simpa using hother

/-- What stands directly below a location has one of the names below it. -/
theorem mem_namesBelow {loc : Location} {name : String} (hname : Path.IsFileName name) {n : Node}
    (h : fs.node? (loc ++ [name]) = some n) : name ∈ fs.namesBelow loc := by
  unfold namesBelow
  refine List.mem_filterMap.2 ⟨loc ++ [name], ?_, ?_⟩
  · rw [node?_of_ne (by simp)] at h
    rw [SortedMap.mem_keys_iff, h]
    rfl
  · rw [List.dropLast_concat, if_pos rfl, List.getLast?_concat]
    exact Option.mem_filter_iff.2 ⟨rfl, hname.1⟩

/-- A directory lists the names of its files. -/
theorem mem_namesIn_of_isFile {dir : Path} (hdir : dir.text ≠ "") {name : String}
    (hname : Path.IsFileName name) (h : fs.isFile (dir.join name) = true) :
    name ∈ fs.namesIn dir := by
  obtain ⟨l, content, hstat⟩ := isFile_iff.1 h
  obtain ⟨loc, hdirStat, rfl⟩ := exists_of_stat_join hdir hname hstat
  obtain ⟨-, -, -, hnode, -⟩ := stat_eq_ok_iff.1 hstat
  unfold namesIn
  rw [hdirStat]
  exact mem_namesBelow hname hnode

/-! ## Copies -/

/-- A file is copied to the place of its target, where no directory stands, and the target leads to
the copy. -/
theorem exists_of_copyFile {source target : Path} (h : fs.copyFile source target = .ok fs') :
    ∃ content, fs.node? (fs.locationOf target) ≠ some .directory ∧
      fs' = fs.set (fs.locationOf target) (.file content) ∧ fs'.isFile target = true := by
  unfold copyFile at h
  obtain ⟨⟨sourceLoc, n⟩, -, hrest⟩ := bind_eq_ok_iff.1 h
  cases n with
  | directory => cases hrest
  | file content =>
    obtain ⟨route, hroute, hrest⟩ := bind_eq_ok_iff.1 hrest
    obtain ⟨loc, hwalk, hcopy⟩ := bind_eq_ok_iff.1 hrest
    rw [locationOf_of_walk hroute hwalk]
    -- The target leads to the copy by the steps that led to its place before.
    have hcopied : ∀ content, fs.node? loc ≠ some .directory → route.ending = .plain →
        (fs.set loc (.file content)).isFile target = true := by
      intro content hfree hplain
      have hroot : loc ≠ [] := by
        rintro rfl
        exact hfree rfl
      refine FileStore.isFile_iff.2 ⟨loc, content, stat_eq_ok_iff.2 ⟨route, hroute, ?_,
        node?_set_self hroot fs _, .inr hplain⟩⟩
      exact (keeps_set hfree (.file content)).walk hwalk
    dsimp only at hcopy
    -- A copy is only made where no directory stands.
    split at hcopy
    · cases hcopy
    · next hnode hplain =>
      obtain rfl := Except.ok.inj hcopy
      exact ⟨_, by simp [hnode], rfl, hcopied _ (by simp [hnode]) hplain⟩
    · cases hcopy
    · next hnode hplain =>
      obtain rfl := Except.ok.inj hcopy
      exact ⟨_, by simp [hnode], rfl, hcopied _ (by simp [hnode]) hplain⟩
    · cases hcopy

/-- A copy is made over a file only when the target leads to it. -/
theorem existsAt_of_copyFile {source target : Path} (h : fs.copyFile source target = .ok fs')
    {c : Content} (hc : fs.node? (fs.locationOf target) = some (.file c)) :
    fs.existsAt target = true := by
  obtain ⟨content, hfree, rfl, hfile⟩ := exists_of_copyFile h
  obtain ⟨l, c', hstat⟩ := FileStore.isFile_iff.1 hfile
  obtain ⟨route, hroute, hwalk, -, hending⟩ := stat_eq_ok_iff.1 hstat
  have hkeeps := keeps_of_set hfree content
  have hback : fs.walk (fs.start route) route.steps = .ok l := hkeeps.walk hwalk
  rw [locationOf_of_walk hroute hback] at hc
  have hplain : route.ending = .plain := hending.resolve_left (by simp)
  have hthere := stat_eq_ok_iff.2 ⟨route, hroute, hback, hc, .inr hplain⟩
  unfold existsAt
  rw [hthere]

/-! ## Changes elsewhere -/

/-- Two stores say the same about the file of a path: whether there is one, and its text. -/
structure Alike (fs fs' : FileStore) (p : Path) : Prop where
  /-- The path leads to a file in both stores, or in none. -/
  isFile_iff : fs'.isFile p = true ↔ fs.isFile p = true
  /-- The file has the same text. -/
  readText_iff : ∀ s, fs'.readText p = .ok s ↔ fs.readText p = .ok s

/-- A store is alike itself. -/
theorem Alike.refl (fs : FileStore) (p : Path) : Alike fs fs p :=
  ⟨Iff.rfl, fun _ => Iff.rfl⟩

/-- What two stores say alike they say alike in any order. -/
theorem Alike.symm {p : Path} (h : Alike fs fs' p) : Alike fs' fs p :=
  ⟨h.isFile_iff.symm, fun s => (h.readText_iff s).symm⟩

/-- What a third store says like a second one it says like the first. -/
theorem Alike.trans {fs'' : FileStore} {p : Path} (h : Alike fs fs' p) (h' : Alike fs' fs'' p) :
    Alike fs fs'' p :=
  ⟨h'.isFile_iff.trans h.isFile_iff, fun s => (h'.readText_iff s).trans (h.readText_iff s)⟩

/-- A file at another place than the change is kept. -/
theorem Keeps.isFile {loc : Location} (h : Keeps fs fs' loc) {p : Path}
    (hfile : fs.isFile p = true) (hne : fs.locationOf p ≠ loc) : fs'.isFile p = true := by
  obtain ⟨l, content, hstat⟩ := FileStore.isFile_iff.1 hfile
  refine FileStore.isFile_iff.2 ⟨l, content, h.stat hstat fun heq => ?_⟩
  exact absurd ((locationOf_of_stat hstat).trans heq) hne

/-- Stores that differ in the file at one place only are alike about every other. -/
theorem alike_of_keeps {loc : Location} (h : Keeps fs fs' loc) (h' : Keeps fs' fs loc) {p : Path}
    (hne : fs.locationOf p ≠ loc) : Alike fs fs' p := by
  have hne' : fs'.locationOf p ≠ loc := by
    rw [locationOf_congr h.workingDirectory_eq]
    exact hne
  exact ⟨⟨fun hfile => h'.isFile hfile hne', fun hfile => h.isFile hfile hne⟩,
    fun s => ⟨fun hread => h'.readText hread hne', fun hread => h.readText hread hne⟩⟩

/-- Paths of the same components that lead to files read the same. -/
theorem readText_of_same {p q : Path} (hsame : p.same q = true) (hp : fs.isFile p = true)
    (hq : fs.isFile q = true) : fs.readText p = fs.readText q := by
  obtain ⟨l, content, hpstat⟩ := FileStore.isFile_iff.1 hp
  obtain ⟨l', content', hqstat⟩ := FileStore.isFile_iff.1 hq
  have hl : l = l' := by
    rw [← locationOf_of_stat hpstat, ← locationOf_of_stat hqstat, locationOf_eq, locationOf_eq,
      (Path.same_iff p q).1 hsame]
  obtain ⟨-, -, -, hpnode, -⟩ := stat_eq_ok_iff.1 hpstat
  obtain ⟨-, -, -, hqnode, -⟩ := stat_eq_ok_iff.1 hqstat
  rw [hl, hqnode] at hpnode
  obtain rfl : content' = content := Node.file.inj (Option.some.inj hpnode)
  unfold readText
  rw [hpstat, hqstat, hl]

/-- A path of the components of another leads where this one does, when it is one that the system
takes and ends plainly. -/
theorem stat_of_same {p q : Path} (hsame : p.same q = true) {l : Location} {n : Node}
    (h : fs.stat p = .ok (l, n)) {route : Path.Route} (hroute : routeOf q = .ok route)
    (hplain : route.ending = .plain) : fs.stat q = .ok (l, n) := by
  obtain ⟨route', hroute', hwalk, hnode, -⟩ := stat_eq_ok_iff.1 h
  obtain ⟨hstart, hsteps⟩ := fs.route?_spec (routeOf_eq_ok_iff.1 hroute).2.2
  obtain ⟨hstart', hsteps'⟩ := fs.route?_spec (routeOf_eq_ok_iff.1 hroute').2.2
  have hcomponents := (Path.same_iff p q).1 hsame
  refine stat_eq_ok_iff.2 ⟨route, hroute, ?_, hnode, .inr hplain⟩
  rw [hstart, hsteps, ← hcomponents, ← hstart', ← hsteps']
  exact hwalk

/-- A path of the components of another that leads to a text reads the same when it can be read in
any store. -/
theorem readText_of_readable {p q : Path} (hsame : p.same q = true) {s : String}
    (hp : fs.readText p = .ok s) {t : String} (hq : fs'.readText q = .ok t) :
    fs.readText q = .ok s := by
  obtain ⟨l, hpstat⟩ := readText_eq_ok_iff.1 hp
  obtain ⟨l', hqstat⟩ := readText_eq_ok_iff.1 hq
  obtain ⟨route, hroute, -, -, hending⟩ := stat_eq_ok_iff.1 hqstat
  have hplain : route.ending = .plain := hending.resolve_left (by simp)
  exact readText_eq_ok_iff.2 ⟨l, stat_of_same hsame hpstat hroute hplain⟩

/-- A store leaves the file of a path as it is in another: it is still there with its text, and no
other file takes its place. -/
structure Leaves (fs fs' : FileStore) (p : Path) : Prop where
  /-- Relative paths start at the same place. -/
  workingDirectory_eq : fs'.workingDirectory = fs.workingDirectory
  /-- The file is still there. -/
  isFile : fs.isFile p = true → fs'.isFile p = true
  /-- The file keeps its text. -/
  readText : ∀ s, fs.readText p = .ok s → fs'.readText p = .ok s
  /-- A file at the place of the path was there before. -/
  node?_of_file : ∀ c, fs'.node? (fs.locationOf p) = some (.file c) →
    fs.node? (fs.locationOf p) = some (.file c)

/-- A store leaves its own files. -/
theorem Leaves.refl (fs : FileStore) (p : Path) : Leaves fs fs p :=
  ⟨rfl, id, fun _ => id, fun _ => id⟩

/-- What one change after another leaves both leave. -/
theorem Leaves.trans {fs'' : FileStore} {p : Path} (h : Leaves fs fs' p) (h' : Leaves fs' fs'' p) :
    Leaves fs fs'' p := by
  refine ⟨h'.workingDirectory_eq.trans h.workingDirectory_eq,
    fun hfile => h'.isFile (h.isFile hfile),
    fun s hread => h'.readText s (h.readText s hread), fun c hc => h.node?_of_file c ?_⟩
  rw [← locationOf_congr h.workingDirectory_eq] at hc ⊢
  exact h'.node?_of_file c hc

/-- A change leaves the files at all other places. -/
theorem Keeps.leaves {loc : Location} (h : Keeps fs fs' loc) {p : Path}
    (hne : fs.locationOf p ≠ loc) : Leaves fs fs' p :=
  ⟨h.workingDirectory_eq, fun hfile => h.isFile hfile hne, fun _ hread => h.readText hread hne,
    fun c hc => h.node?_of_file _ c hc hne⟩

/-- Stores of which one leaves a file of the other are alike about its path, when the path leads to
the file that stands at its place, if there is one. -/
theorem Leaves.alike {p : Path} (h : Leaves fs fs' p)
    (hreached : ∀ c, fs.node? (fs.locationOf p) = some (.file c) → fs.isFile p = true) :
    Alike fs fs' p := by
  have hback : ∀ l c, fs'.stat p = .ok (l, .file c) → fs.stat p = .ok (l, .file c) := by
    intro l c hstat
    obtain ⟨-, -, -, hnode, -⟩ := stat_eq_ok_iff.1 hstat
    have hl := locationOf_of_stat hstat
    rw [locationOf_congr h.workingDirectory_eq] at hl
    rw [← hl] at hnode
    have hnode' := h.node?_of_file c hnode
    obtain ⟨l₀, c₀, hstat₀⟩ := FileStore.isFile_iff.1 (hreached c hnode')
    obtain ⟨-, -, -, hnode₀, -⟩ := stat_eq_ok_iff.1 hstat₀
    rw [← locationOf_of_stat hstat₀, hnode'] at hnode₀
    rw [hstat₀, ← hl, locationOf_of_stat hstat₀]
    exact congrArg (fun n => Except.ok (l₀, n)) (Option.some.inj hnode₀).symm
  refine ⟨⟨fun hfile => ?_, h.isFile⟩, fun s => ⟨fun hread => ?_, h.readText s⟩⟩
  · obtain ⟨l, c, hstat⟩ := FileStore.isFile_iff.1 hfile
    exact FileStore.isFile_iff.2 ⟨l, c, hback l c hstat⟩
  · obtain ⟨l, hstat⟩ := readText_eq_ok_iff.1 hread
    exact readText_eq_ok_iff.2 ⟨l, hback l _ hstat⟩

end Autostart.FileStore
