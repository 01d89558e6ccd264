import Autostart.Proofs.FileStore.Walking

/-!
# What changes to a store keep

A change to a store concerns one place, at which no directory stands, and keeps everything else that
was there; no file appears at any other place. So every path that led somewhere else still leads
there, and its file reads the same. A text that was put in the place of a file is what the path of
the file reads from then on.
-/

namespace Autostart.FileStore

/-- A store keeps all that another holds, but for what is no directory at one place, and has no file
more at any other. -/
structure Keeps (fs fs' : FileStore) (loc : Location) : Prop where
  /-- Relative paths start at the same place. -/
  workingDirectory_eq : fs'.workingDirectory = fs.workingDirectory
  /-- What stands elsewhere, and every directory, is still there. -/
  node?_eq : ∀ l n, fs.node? l = some n → (l = loc → n = .directory) → fs'.node? l = some n
  /-- A file that stands elsewhere was there before. -/
  node?_of_file : ∀ l c, fs'.node? l = some (.file c) → l ≠ loc → fs.node? l = some (.file c)

namespace Keeps

variable {fs fs' fs'' : FileStore} {loc : Location}

/-- A store keeps what it holds. -/
theorem refl (fs : FileStore) (loc : Location) : Keeps fs fs loc :=
  ⟨rfl, fun _ _ h _ => h, fun _ _ h _ => h⟩

/-- What is kept by one change after another is kept by both. -/
theorem trans (h : Keeps fs fs' loc) (h' : Keeps fs' fs'' loc) : Keeps fs fs'' loc :=
  ⟨h'.workingDirectory_eq.trans h.workingDirectory_eq,
    fun l n hn hne => h'.node?_eq l n (h.node?_eq l n hn hne) hne,
    fun l c hc hne => h.node?_of_file l c (h'.node?_of_file l c hc hne) hne⟩

/-- Steps that lead to a place still lead there. -/
theorem walk (h : Keeps fs fs' loc) {start l : Location} {steps : List Path.Step}
    (hwalk : fs.walk start steps = .ok l) : fs'.walk start steps = .ok l :=
  walk_of_directories (fun l hl => h.node?_eq l .directory hl fun _ => rfl) hwalk

end Keeps

/-- What a path leads to, step by step. -/
theorem stat_eq_ok_iff {fs : FileStore} {p : Path} {l : Location} {n : Node} :
    fs.stat p = .ok (l, n) ↔ ∃ route, routeOf p = .ok route ∧
      fs.walk (fs.start route) route.steps = .ok l ∧ fs.node? l = some n ∧
      (n = .directory ∨ route.ending = .plain) := by
  unfold stat
  constructor
  · intro h
    obtain ⟨route, hroute, hrest⟩ := bind_eq_ok_iff.1 h
    obtain ⟨loc, hwalk, hnode⟩ := bind_eq_ok_iff.1 hrest
    split at hnode
    · cases hnode
    · next content hfile =>
      split at hnode
      · next hplain =>
        cases hnode
        exact ⟨route, hroute, hwalk, hfile, .inr hplain⟩
      · cases hnode
    · next hdirectory =>
      cases hnode
      exact ⟨route, hroute, hwalk, hdirectory, .inl rfl⟩
  · -- Only a file minds how the path ends.
    rintro ⟨route, hroute, hwalk, hnode, hending⟩
    refine bind_eq_ok_iff.2 ⟨route, hroute, bind_eq_ok_iff.2 ⟨l, hwalk, ?_⟩⟩
    rw [hnode]
    cases n with
    | directory => rfl
    | file content => exact if_pos (hending.resolve_left (by simp))

/-- What a path leads to is kept unless it is a file at the place of the change. -/
theorem Keeps.stat {fs fs' : FileStore} {loc : Location} (h : Keeps fs fs' loc) {p : Path}
    {l : Location} {n : Node} (hstat : fs.stat p = .ok (l, n)) (hne : l = loc → n = .directory) :
    fs'.stat p = .ok (l, n) := by
  obtain ⟨route, hroute, hwalk, hnode, hending⟩ := stat_eq_ok_iff.1 hstat
  have hstart : fs'.start route = fs.start route := by
    unfold start
    rw [h.workingDirectory_eq]
  refine stat_eq_ok_iff.2 ⟨route, hroute, ?_, h.node?_eq l n hnode hne, hending⟩
  rw [hstart]
  exact h.walk hwalk

/-- The text of a file is that of what its path leads to. -/
theorem readText_eq_ok_iff {fs : FileStore} {p : Path} {s : String} :
    fs.readText p = .ok s ↔ ∃ l, fs.stat p = .ok (l, .file (.text s)) := by
  unfold readText
  rw [bind_eq_ok_iff]
  constructor
  · rintro ⟨⟨l, n⟩, hstat, hread⟩
    rcases n with ⟨text | bytes⟩ | _
    · obtain rfl := Except.ok.inj hread
      exact ⟨l, hstat⟩
    · cases hread
    · cases hread
  · rintro ⟨l, hstat⟩
    exact ⟨_, hstat, rfl⟩

/-- A path leads to its own place, if anywhere. -/
theorem locationOf_of_stat {fs : FileStore} {p : Path} {l : Location} {n : Node}
    (h : fs.stat p = .ok (l, n)) : fs.locationOf p = l := by
  obtain ⟨route, hroute, hwalk, -⟩ := stat_eq_ok_iff.1 h
  exact locationOf_of_walk hroute hwalk

/-- Where a path leads to depends on the working directory only. -/
theorem locationOf_congr {fs fs' : FileStore} (h : fs'.workingDirectory = fs.workingDirectory)
    (p : Path) : fs'.locationOf p = fs.locationOf p := by
  unfold locationOf start
  rw [h]

/-- The text of a file at another place than the change is kept. -/
theorem Keeps.readText {fs fs' : FileStore} {loc : Location} (h : Keeps fs fs' loc) {p : Path}
    {s : String} (hread : fs.readText p = .ok s) (hne : fs.locationOf p ≠ loc) :
    fs'.readText p = .ok s := by
  obtain ⟨l, hstat⟩ := readText_eq_ok_iff.1 hread
  refine readText_eq_ok_iff.2 ⟨l, h.stat hstat fun heq => ?_⟩
  exact absurd ((locationOf_of_stat hstat).trans heq) hne

/-! ## Elementary changes -/

/-- Setting a node where no directory stands keeps everything else. -/
theorem keeps_set {fs : FileStore} {loc : Location} (h : fs.node? loc ≠ some .directory)
    (node : Node) : Keeps fs (fs.set loc node) loc := by
  refine ⟨rfl, fun l n hn hne => ?_, fun l c hc hne => ?_⟩
  · have hl : l ≠ loc := by
      rintro rfl
      exact h ((hne rfl) ▸ hn)
    rw [node?_set_of_ne hl, hn]
  · rw [← hc, node?_set_of_ne hne]

/-- A store keeps everything of one that has another file at a place. -/
theorem keeps_of_set {fs : FileStore} {loc : Location} (h : fs.node? loc ≠ some .directory)
    (content : Content) : Keeps (fs.set loc (.file content)) fs loc := by
  have hroot : loc ≠ [] := by
    rintro rfl
    exact h rfl
  refine ⟨rfl, fun l n hn hne => ?_, fun l c hc hne => ?_⟩
  · have hl : l ≠ loc := by
      rintro rfl
      rw [node?_set_self hroot, hne rfl] at hn
      cases hn
    rw [← hn, node?_set_of_ne hl]
  · rw [node?_set_of_ne hne, hc]

/-- A file whose text is set reads as this text. -/
theorem readText_set {fs : FileStore} {p : Path} {s : String} (h : fs.readText p = .ok s)
    (s' : String) : (fs.set (fs.locationOf p) (.file (.text s'))).readText p = .ok s' := by
  obtain ⟨l, hstat⟩ := readText_eq_ok_iff.1 h
  obtain ⟨route, hroute, hwalk, hnode, hending⟩ := stat_eq_ok_iff.1 hstat
  have hplain : route.ending = .plain := hending.resolve_left (by simp)
  have hkeeps : Keeps fs (fs.set l (.file (.text s'))) l := keeps_set (by simp [hnode]) _
  have hroot : l ≠ [] := by
    rintro rfl
    cases hnode
  rw [locationOf_of_stat hstat]
  exact readText_eq_ok_iff.2 ⟨l, stat_eq_ok_iff.2 ⟨route, hroute, hkeeps.walk hwalk,
    node?_set_self hroot fs _, .inr hplain⟩⟩

/-- Removing a file takes away what stands at its location. -/
theorem removeFile_spec {fs fs' : FileStore} {p : Path} (h : fs.removeFile p = .ok fs') :
    ∃ content, fs.node? (fs.locationOf p) = some (.file content) ∧
      fs'.workingDirectory = fs.workingDirectory ∧
      ∀ l, fs'.node? l = if l = fs.locationOf p then none else fs.node? l := by
  unfold removeFile at h
  obtain ⟨⟨loc, n⟩, hstat, hremoved⟩ := bind_eq_ok_iff.1 h
  cases n with
  | directory => cases hremoved
  | file content =>
    obtain rfl := Except.ok.inj hremoved
    obtain ⟨-, -, -, hnode, -⟩ := stat_eq_ok_iff.1 hstat
    rw [locationOf_of_stat hstat]
    refine ⟨content, hnode, rfl, fun l => ?_⟩
    -- The root is a directory, so it is not what was removed.
    have hroot : loc ≠ [] := by
      rintro rfl
      cases hnode
    by_cases hl : l = []
    · rw [if_neg (hl ▸ hroot.symm), hl]
      rfl
    · simp [node?_of_ne hl]

/-- Removing a file keeps everything else. -/
theorem keeps_removeFile {fs fs' : FileStore} {p : Path} (h : fs.removeFile p = .ok fs') :
    Keeps fs fs' (fs.locationOf p) := by
  obtain ⟨content, hnode, hworking, hafter⟩ := removeFile_spec h
  refine ⟨hworking, fun l n hn hne => ?_, fun l c hc hne => ?_⟩
  · have hl : l ≠ fs.locationOf p := by
      rintro rfl
      rw [hnode, hne rfl] at hn
      cases hn
    rw [hafter, if_neg hl, hn]
  · rw [hafter, if_neg hne] at hc
    exact hc

/-- A store keeps everything of one that lacks a file. -/
theorem keeps_of_removeFile {fs fs' : FileStore} {p : Path} (h : fs.removeFile p = .ok fs') :
    Keeps fs' fs (fs.locationOf p) := by
  obtain ⟨-, -, hworking, hafter⟩ := removeFile_spec h
  refine ⟨hworking.symm, fun l n hn _ => ?_, fun l c hc hne => ?_⟩
  · rw [hafter] at hn
    split at hn
    · cases hn
    · exact hn
  · rw [hafter, if_neg hne, hc]

/-! ## Texts put in the place of files -/

/-- A text is moved to a name in a directory, where no directory stands. -/
theorem exists_of_moveText {fs fs' : FileStore} {p : Path} {s : String}
    (h : fs.moveText p s = .ok fs') :
    ∃ route dir name, routeOf p = .ok route ∧ route.ending = .plain ∧
      fs.walk (fs.start route) route.steps = .ok (dir ++ [name]) ∧
      fs.node? (dir ++ [name]) ≠ some .directory ∧
      fs' = fs.set (dir ++ [name]) (.file (.text s)) := by
  unfold moveText at h
  obtain ⟨route, hroute, hrest⟩ := bind_eq_ok_iff.1 h
  obtain ⟨dir, hwalk, hmoved⟩ := bind_eq_ok_iff.1 hrest
  split at hmoved
  · cases hmoved
  · cases hmoved
  · next hdir =>
    split at hmoved
    · next name hlast hending =>
      split at hmoved
      · cases hmoved
      · next hsize =>
        split at hmoved
        · cases hmoved
        · next hfree =>
          obtain rfl := Except.ok.inj hmoved
          refine ⟨route, dir, name, hroute, hending, ?_, hfree, rfl⟩
          rw [steps_of_plain hending hlast]
          exact walk_concat hwalk hdir hsize
    · cases hmoved
    · cases hmoved

/-- A text that was moved to a path stands there, everything else is kept, and the path leads to
it. -/
theorem moveText_spec {fs fs' : FileStore} {p : Path} {s : String}
    (h : fs.moveText p s = .ok fs') :
    Keeps fs fs' (fs.locationOf p) ∧ fs'.readText p = .ok s := by
  obtain ⟨route, dir, name, hroute, hending, hwalk, hfree, rfl⟩ := exists_of_moveText h
  have hkeeps := keeps_set hfree (.file (.text s))
  have hstat : (fs.set (dir ++ [name]) (.file (.text s))).stat p =
      .ok (dir ++ [name], .file (.text s)) := by
    refine stat_eq_ok_iff.2 ⟨route, hroute, hkeeps.walk hwalk, ?_, .inr hending⟩
    exact node?_set_self (by simp) fs _
  have hlocation : fs.locationOf p = dir ++ [name] :=
    (locationOf_congr hkeeps.workingDirectory_eq p).symm.trans (locationOf_of_stat hstat)
  rw [hlocation]
  exact ⟨hkeeps, readText_eq_ok_iff.2 ⟨_, hstat⟩⟩

/-- A text replaces a file by being moved to its place. -/
theorem moveText_of_replaceFile {fs fs' : FileStore} {p : Path} {s : String}
    (h : fs.replaceFile p s = .ok fs') : fs.moveText p s = .ok fs' := by
  unfold replaceFile at h
  obtain ⟨-, -, hrest⟩ := bind_eq_ok_iff.1 h
  dsimp only at hrest
  split at hrest
  · cases hrest
  · exact hrest

/-- A text that replaced a file stands there, everything else is kept, and the path leads to it. -/
theorem replaceFile_spec {fs fs' : FileStore} {p : Path} {s : String}
    (h : fs.replaceFile p s = .ok fs') :
    Keeps fs fs' (fs.locationOf p) ∧ fs'.readText p = .ok s :=
  moveText_spec (moveText_of_replaceFile h)

end Autostart.FileStore
