import Autostart.Path

/-!
# The directories of launchers

Launchers are looked for in the directory of the user and in the directories of the system, in this
order. The place of a directory in the order is its rank: the user has rank 0 and the system the
ranks from 1 on. A launcher of a lower rank goes before one of a higher rank with the same file
name.
-/

namespace Autostart

/-- The directories in which launchers are looked for. -/
structure SearchPath where
  /-- The directory of the user. -/
  userDirectory : Path
  /-- The directories of the system, in order. -/
  systemDirectories : List Path
deriving DecidableEq, Repr

namespace SearchPath

/-- The rank of the directory of the user. -/
def userRank : Nat := 0

/-- The directories in order of their ranks. -/
def directories (s : SearchPath) : List Path :=
  s.userDirectory :: s.systemDirectories

/-- The number of directories. -/
def size (s : SearchPath) : Nat :=
  s.directories.length

/-- The directory of a rank. -/
def directoryAt? (s : SearchPath) (rank : Nat) : Option Path :=
  s.directories[rank]?

/-- The path of a file in the directory of a rank. -/
def pathAt? (s : SearchPath) (rank : Nat) (filename : String) : Option Path :=
  (s.directoryAt? rank).map (·.join filename)

/-- The path of a file in the directory of the user. -/
def userPath (s : SearchPath) (filename : String) : Path :=
  s.userDirectory.join filename

/-- The rank of the first directory that holds a path directly. -/
def rankOf? (s : SearchPath) (p : Path) : Option Nat :=
  match p.parent? with
  | none => none
  | some parent => s.directories.findIdx? fun dir => dir.same parent

/-- The ranks and directories, in order. -/
def ranked (s : SearchPath) : List (Nat × Path) :=
  s.directories.zipIdx.map fun (dir, rank) => (rank, dir)

/-- The ranks of the system after a rank, in order. -/
def systemRanksAfter (s : SearchPath) (rank : Nat) : List Nat :=
  List.range' (rank + 1) (s.size - (rank + 1))

/-- Only the ranks of the search path have a directory. -/
theorem lt_size_of_directoryAt? {s : SearchPath} {rank : Nat} {dir : Path}
    (h : s.directoryAt? rank = some dir) : rank < s.size :=
  (List.getElem?_eq_some_iff.1 h).1

/-- A rank of the search path has a directory. -/
theorem exists_directoryAt? {s : SearchPath} {rank : Nat} (h : rank < s.size) :
    ∃ dir, s.directoryAt? rank = some dir :=
  ⟨_, List.getElem?_eq_getElem h⟩

/-- What holds of any two directories in their order holds of those of two ranks. -/
theorem rel_of_directoryAt? {s : SearchPath} {R : Path → Path → Prop}
    (h : s.directories.Pairwise R) {rank rank' : Nat} (hlt : rank < rank') {dir dir' : Path}
    (hdir : s.directoryAt? rank = some dir) (hdir' : s.directoryAt? rank' = some dir') :
    R dir dir' := by
  obtain ⟨hrank, rfl⟩ := List.getElem?_eq_some_iff.1 hdir
  obtain ⟨hrank', rfl⟩ := List.getElem?_eq_some_iff.1 hdir'
  exact List.pairwise_iff_getElem.1 h rank rank' hrank hrank' hlt

/-- The path of a file at a rank is joined from the directory of the rank. -/
theorem pathAt?_of_directoryAt? {s : SearchPath} {rank : Nat} {dir : Path}
    (h : s.directoryAt? rank = some dir) (filename : String) :
    s.pathAt? rank filename = some (dir.join filename) := by
  rw [pathAt?, h, Option.map_some]

/-- A file has a path at a rank only when the rank has a directory. -/
theorem exists_of_pathAt? {s : SearchPath} {rank : Nat} {filename : String} {p : Path}
    (h : s.pathAt? rank filename = some p) :
    ∃ dir, s.directoryAt? rank = some dir ∧ dir.join filename = p :=
  Option.map_eq_some_iff.1 h

/-- The ranks after a rank are those above it that have a directory. -/
theorem mem_systemRanksAfter {s : SearchPath} {rank next : Nat} :
    next ∈ s.systemRanksAfter rank ↔ rank < next ∧ next < s.size := by
  unfold systemRanksAfter
  rw [List.mem_range'_1]
  omega

/-- The ranks after a rank ascend. -/
theorem pairwise_systemRanksAfter (s : SearchPath) (rank : Nat) :
    (s.systemRanksAfter rank).Pairwise (· < ·) :=
  List.pairwise_lt_range'

end SearchPath

end Autostart
