import Autostart.Proofs.Path.Components
import Autostart.SearchPath
import Mathlib.Order.Bounds.Defs

/-!
# The ranks of paths

The rank of a path is the least rank whose directory holds the path, and the path of a file name at
a rank is held by the directory of this rank. Joining works on the texts of paths, while parents,
file names and comparisons work on their components. That the two agree for every spelling makes the
ranks and the paths of a search path inverse to each other.
-/

namespace Autostart.SearchPath

/-- A path is, component for component, the path of a file name in the directory of a rank. -/
def Places (s : SearchPath) (rank : Nat) (name : String) (p : Path) : Prop :=
  ∃ q, s.pathAt? rank name = some q ∧ p.same q = true

/-- Only the ranks of the search path place a path. -/
theorem Places.rank_lt {s : SearchPath} {rank : Nat} {name : String} {p : Path}
    (h : s.Places rank name p) : rank < s.size := by
  obtain ⟨q, hq, -⟩ := h
  obtain ⟨dir, hdir, -⟩ := exists_of_pathAt? hq
  exact lt_size_of_directoryAt? hdir

/-- The path of a file name in the directory of a rank is placed there. -/
theorem places_of_pathAt? {s : SearchPath} {rank : Nat} {name : String} {p : Path}
    (h : s.pathAt? rank name = some p) : s.Places rank name p :=
  ⟨p, h, (Path.same_iff p p).2 rfl⟩

/-- A path of the components of a file name in the directory of a rank is placed there. -/
theorem places_of_same {s : SearchPath} {rank : Nat} {name : String} {dir p : Path}
    (hdir : s.directoryAt? rank = some dir) (hsame : p.same (dir.join name) = true) :
    s.Places rank name p :=
  ⟨dir.join name, pathAt?_of_directoryAt? hdir name, hsame⟩

/-- A rank places the same paths as any path that it places. -/
theorem Places.congr {s : SearchPath} {rank : Nat} {name : String} {p q : Path}
    (h : s.Places rank name p) : s.Places rank name q ↔ q.same p = true := by
  obtain ⟨target, htarget, hp⟩ := h
  rw [Path.same_iff] at hp ⊢
  constructor
  · rintro ⟨target', htarget', hq⟩
    obtain rfl := Option.some.inj (htarget.symm.trans htarget')
    rw [hp, (Path.same_iff q target).1 hq]
  · intro hq
    exact ⟨target, htarget, (Path.same_iff q target).2 (hq.trans hp)⟩

/-- A path that a rank places has the components of the directory and the file name. -/
theorem Places.components_eq {s : SearchPath} {rank : Nat} {name : String} {p : Path}
    (h : s.Places rank name p) (hname : Path.IsFileName name) :
    ∃ dir, s.directoryAt? rank = some dir ∧ p.components = dir.components ++ [.name name] := by
  obtain ⟨q, hq, hsame⟩ := h
  obtain ⟨dir, hdir, rfl⟩ := exists_of_pathAt? hq
  exact ⟨dir, hdir, ((Path.same_iff p _).1 hsame).trans (Path.components_join dir hname)⟩

/-- The path of a file name in the directory of the user is placed at the rank of the user. -/
theorem places_userPath (s : SearchPath) (name : String) :
    s.Places userRank name (s.userPath name) :=
  places_of_pathAt? rfl

/-- The ranks whose directory is, component for component, the given one. -/
def ranksOf (s : SearchPath) (dir : Path) : Set Nat :=
  {rank | ∃ dir', s.directoryAt? rank = some dir' ∧ dir'.same dir = true}

/-- The rank of a path is the least one of the directory that holds it. -/
theorem rankOf?_eq_some_iff {s : SearchPath} {p : Path} {rank : Nat} :
    s.rankOf? p = some rank ↔
      ∃ parent, p.parent? = some parent ∧ IsLeast (s.ranksOf parent) rank := by
  have hfirst : ∀ parent, (s.directories.findIdx? fun dir => dir.same parent) = some rank ↔
      IsLeast (s.ranksOf parent) rank := by
    intro parent
    rw [List.findIdx?_eq_some_iff_getElem]
    constructor
    · rintro ⟨hlt, hsame, hearlier⟩
      refine ⟨⟨_, List.getElem?_eq_getElem hlt, hsame⟩, ?_⟩
      rintro other ⟨dir, hdir, hother⟩
      obtain ⟨hlt', rfl⟩ := List.getElem?_eq_some_iff.1 hdir
      exact Nat.le_of_not_lt fun hless => hearlier other hless hother
    · rintro ⟨⟨dir, hdir, hsame⟩, hleast⟩
      obtain ⟨hlt, rfl⟩ := List.getElem?_eq_some_iff.1 hdir
      refine ⟨hlt, hsame, fun other hless hother => ?_⟩
      have hle := hleast ⟨_, List.getElem?_eq_getElem (by omega), hother⟩
      omega
  unfold rankOf?
  cases p.parent? with
  | none => simp
  | some parent => simp [hfirst]

/-- The rank of a path places it under its file name. -/
theorem places_of_rankOf? {s : SearchPath} {p : Path} {rank : Nat} {name : String}
    (hrank : s.rankOf? p = some rank) (hname : p.fileName? = some name) :
    s.Places rank name p := by
  obtain ⟨parent, hparent, ⟨dir, hdir, hsame⟩, -⟩ := rankOf?_eq_some_iff.1 hrank
  refine places_of_same hdir ?_
  rw [Path.same_iff, Path.components_join _ (Path.isFileName_of_fileName? hname),
    Path.components_eq_of_parent? hparent hname, (Path.same_iff _ _).1 hsame]

/-- The rank that places a path is the rank of the path when no directory of a lower rank is the
same. -/
theorem rankOf?_of_first {s : SearchPath} {rank : Nat} {name : String} {p : Path}
    (h : s.Places rank name p) (hname : p.fileName? = some name)
    (hfirst : ∀ j dir dir', j < rank → s.directoryAt? j = some dir →
      s.directoryAt? rank = some dir' → dir.same dir' = false) : s.rankOf? p = some rank := by
  obtain ⟨parent, hparent⟩ := Path.exists_parent?_of_fileName? hname
  obtain ⟨dir, hdir, hcomponents⟩ := h.components_eq (Path.isFileName_of_fileName? hname)
  rw [Path.components_eq_of_parent? hparent hname] at hcomponents
  have hsame : dir.components = parent.components := (List.append_inj_left' hcomponents rfl).symm
  refine rankOf?_eq_some_iff.2 ⟨parent, hparent, ⟨dir, hdir, (Path.same_iff _ _).2 hsame⟩, ?_⟩
  rintro j ⟨dir', hdir', hsame'⟩
  -- An earlier directory would be the same as the one of the rank.
  refine Nat.le_of_not_lt fun hless => ?_
  have hother := hfirst j dir' dir hless hdir' hdir
  rw [(Path.same_iff _ _).2 (((Path.same_iff _ _).1 hsame').trans hsame.symm)] at hother
  cases hother

/-- On a search path of different directories the rank that places a path is the rank of the
path. -/
theorem rankOf?_of_places {s : SearchPath}
    (hdistinct : s.directories.Pairwise fun dir dir' => dir.same dir' = false) {rank : Nat}
    {name : String} {p : Path} (h : s.Places rank name p) (hname : p.fileName? = some name) :
    s.rankOf? p = some rank :=
  rankOf?_of_first h hname fun _ _ _ hlt hdir hdir' => rel_of_directoryAt? hdistinct hlt hdir hdir'

/-- The rank of a path in the directory of the user is that of the user. -/
theorem rankOf?_of_user {s : SearchPath} {name : String} {p : Path}
    (h : s.Places userRank name p) (hname : p.fileName? = some name) :
    s.rankOf? p = some userRank :=
  rankOf?_of_first h hname fun j _ _ hj => absurd hj (Nat.not_lt_zero j)

/-- On a search path of different directories, paths of one name are the same when their ranks
are. -/
theorem Places.same_iff {s : SearchPath}
    (hdistinct : s.directories.Pairwise fun dir dir' => dir.same dir' = false) {rank rank' : Nat}
    {name : String} (hname : Path.IsFileName name) {p q : Path} (h : s.Places rank name p)
    (h' : s.Places rank' name q) : p.same q = true ↔ rank = rank' := by
  constructor
  · intro hsame
    have hplaces : s.Places rank' name p := h'.congr.2 hsame
    obtain ⟨dir, -, hcomponents⟩ := h.components_eq hname
    have hfileName : p.fileName? = some name := by
      rw [Path.fileName?, hcomponents, List.getLast?_concat]
    have hrank := rankOf?_of_places hdistinct h hfileName
    rw [rankOf?_of_places hdistinct hplaces hfileName] at hrank
    exact (Option.some.inj hrank).symm
  · rintro rfl
    exact h'.congr.1 h

/-! ## Ranks and paths -/

/-- Directories with the same components have the same ranks. -/
theorem ranksOf_congr (s : SearchPath) {dir dir' : Path} (h : dir.components = dir'.components) :
    s.ranksOf dir = s.ranksOf dir' := by
  unfold ranksOf
  simp only [Path.same_iff, h]

/-- A path in a directory of the search path has a rank. -/
theorem exists_rankOf?_eq {s : SearchPath} {p parent : Path} {rank : Nat}
    (hparent : p.parent? = some parent) (hrank : rank ∈ s.ranksOf parent) :
    ∃ first, s.rankOf? p = some first := by
  obtain ⟨dir, hdir, hsame⟩ := hrank
  refine Option.ne_none_iff_exists'.1 fun hnone => ?_
  unfold rankOf? at hnone
  rw [hparent] at hnone
  have hother := List.findIdx?_eq_none_iff.1 hnone dir (List.mem_of_getElem? hdir)
  rw [hsame] at hother
  cases hother

/-- The rank of a path joined from a directory of the search path and a plain name is the least one
of this directory. -/
theorem exists_rankOf?_join {s : SearchPath} {rank : Nat} {dir : Path}
    (hdir : s.directoryAt? rank = some dir) {rest name : String}
    (h : (Path.mk rest).components = [.name name]) :
    ∃ first, s.rankOf? (dir.join rest) = some first ∧ IsLeast (s.ranksOf dir) first := by
  obtain ⟨parent, hparent, hcomponents⟩ := Path.exists_parent?_join dir h
  have hranks := s.ranksOf_congr hcomponents
  have hrank : rank ∈ s.ranksOf dir := ⟨dir, hdir, (Path.same_iff dir dir).2 rfl⟩
  obtain ⟨first, hfirst⟩ := exists_rankOf?_eq hparent (hranks ▸ hrank)
  obtain ⟨parent', hparent', hleast⟩ := rankOf?_eq_some_iff.1 hfirst
  obtain rfl := Option.some.inj (hparent.symm.trans hparent')
  exact ⟨first, hfirst, hranks ▸ hleast⟩

/-- A path joined from the directory of a rank and a plain name is placed at this rank under this
name. -/
theorem places_join {s : SearchPath} {rank : Nat} {dir : Path}
    (hdir : s.directoryAt? rank = some dir) {rest name : String}
    (h : (Path.mk rest).components = [.name name]) : s.Places rank name (dir.join rest) := by
  have hname : Path.IsFileName name :=
    Path.isFileName_of_fileName? (Path.fileName?_join_of_name dir h)
  refine places_of_same hdir ?_
  rw [Path.same_iff, Path.components_join_of_name dir h, Path.components_join dir hname]

/-- Ranks and paths are inverse to each other. The path of a plain name at a rank has the least rank
with the same directory, which is this rank when the directories are different, and a path that has
a rank and a file name is, component for component, the path of this name at this rank. The ranks
after a rank are those above it, in ascending order. -/
theorem ranks_invert_paths (s : SearchPath) :
    (∀ rank < s.size, ∀ rest name, (Path.mk rest).components = [.name name] →
      ∃ dir p first, s.directoryAt? rank = some dir ∧ s.pathAt? rank rest = some p ∧
        s.rankOf? p = some first ∧ IsLeast (s.ranksOf dir) first ∧
        (s.directories.Pairwise (fun dir dir' => dir.same dir' = false) → first = rank)) ∧
      (∀ p rank name, s.rankOf? p = some rank → p.fileName? = some name →
        ∃ q, s.pathAt? rank name = some q ∧ p.same q = true) ∧
      ∀ rank < s.size, (s.systemRanksAfter rank).Pairwise (· < ·) ∧
        ∀ next, next ∈ s.systemRanksAfter rank ↔ rank < next ∧ next < s.size := by
  refine ⟨fun rank hrank rest name hrest => ?_, fun p rank name => places_of_rankOf?,
    fun rank _ => ⟨pairwise_systemRanksAfter s rank, fun _ => mem_systemRanksAfter⟩⟩
  obtain ⟨dir, hdir⟩ := exists_directoryAt? hrank
  obtain ⟨first, hfirst, hleast⟩ := exists_rankOf?_join hdir hrest
  refine ⟨dir, dir.join rest, first, hdir, pathAt?_of_directoryAt? hdir rest, hfirst, hleast,
    fun hdistinct => ?_⟩
  have hown : s.rankOf? (dir.join rest) = some rank :=
    rankOf?_of_places hdistinct (places_join hdir hrest) (Path.fileName?_join_of_name dir hrest)
  exact Option.some.inj (hfirst.symm.trans hown)

/-- A search path with a directory in two spellings: that of the user is the last one of the
system. -/
def respelledUser : SearchPath :=
  ⟨⟨"etc/."⟩, [⟨""⟩, ⟨"/"⟩, ⟨"etc//"⟩]⟩

/-- A search path of different directories with similar spellings. -/
def similarDirectories : SearchPath :=
  ⟨⟨"./etc"⟩, [⟨"etc/."⟩, ⟨"etc/.."⟩, ⟨"/"⟩]⟩

/-- However the directories and the files are spelled, ranks and paths are inverse to each other: a
file of the last directory has the rank of the user when this is the same directory, a file of a
directory that is listed once has its rank, and a file of the root is placed at the rank of the
root. -/
theorem ranks_invert_paths_spellings :
    (∃ p, respelledUser.pathAt? 3 "a.desktop/" = some p ∧ respelledUser.rankOf? p = some 0) ∧
      (∃ p, similarDirectories.pathAt? 2 "a.desktop" = some p ∧
        similarDirectories.rankOf? p = some 2) ∧
      (∃ q, similarDirectories.pathAt? 3 "a.desktop" = some q ∧
        (Path.mk "//a.desktop/.").same q = true) ∧
      ∀ next, next ∈ similarDirectories.systemRanksAfter 1 ↔ 1 < next ∧ next < 4 := by
  refine ⟨?_, ?_, ?_, ?_⟩
  · obtain ⟨dir, p, first, hdir, hp, hfirst, hleast, -⟩ :=
      (ranks_invert_paths respelledUser).1 3 (by decide) "a.desktop/" "a.desktop" (by rfl)
    obtain rfl : Path.mk "etc//" = dir := Option.some.inj hdir
    have huser : 0 ∈ respelledUser.ranksOf ⟨"etc//"⟩ := ⟨⟨"etc/."⟩, rfl, by rfl⟩
    obtain rfl : first = 0 := Nat.le_zero.1 (hleast.2 huser)
    exact ⟨p, hp, hfirst⟩
  · obtain ⟨-, p, first, -, hp, hfirst, -, hown⟩ :=
      (ranks_invert_paths similarDirectories).1 2 (by decide) "a.desktop" "a.desktop" (by rfl)
    obtain rfl : first = 2 := hown (by decide)
    exact ⟨p, hp, hfirst⟩
  · exact (ranks_invert_paths similarDirectories).2.1 ⟨"//a.desktop/."⟩ 3 "a.desktop" (by rfl)
      (by rfl)
  · exact ((ranks_invert_paths similarDirectories).2.2 1 (by decide)).2

end Autostart.SearchPath
