import Autostart.Registry.Basic

/-!
# Precedence of definitions

How the files of the search path become launchers. The definition of the lowest rank speaks for a
file name, and the lowest rank of the system that defines it too is kept beside it. A launcher with
changes that are not saved keeps what it holds, and one report of a change is ignored after each
write of the registry itself.
-/

namespace Autostart

/-- What became of the file of a launcher. -/
inductive Reading where
  /-- A launcher was made from it. -/
  | loaded
  /-- It changes nothing that is shown. -/
  | skipped
deriving DecidableEq, Repr

/-- The end of the name of a launcher's file. -/
def Entry.suffix : String := ".desktop"

/-- Whether a file name is one of a launcher: it has the suffix, and something before it. -/
def Entry.isFilename (name : String) : Bool :=
  (Text.stripSuffix? Entry.suffix name).any fun stem => !stem.isEmpty

/-- The launcher with the shadow that a definition of a rank casts: ranks of the system only. -/
def Entry.shadowedBy (e : Entry) (rank : Nat) : Entry :=
  if SearchPath.userRank < rank then
    { e with shadow? := some (match e.shadow? with
        | some shadow => min shadow rank
        | none => rank) }
  else e

namespace Registry

/-- Makes the launcher of a file name from a file of a rank, when it can be read and may run on this
desktop. -/
def readEntry (r : Registry) (path : Path) (filename : String) (rank : Nat) :
    Except Error Reading × Registry :=
  match Document.load r.files path with
  | .error _ => (.ok .skipped, r)
  | .ok document =>
    if !Entry.isLaunchable document r.settings.desktops then (.ok .skipped, r)
    else
      let previous? := r.find? filename
      let recorded? := previous?.bind Entry.shadow?
      if SearchPath.userRank < rank && recorded?.any (· < rank) then
        (.error (.rankOrder (filename ++ " loaded from rank " ++ toString rank ++
          " after system rank " ++ toString (recorded?.getD 0) ++ " was recorded")), r)
      else
        let shadow? := if SearchPath.userRank < rank then some rank else recorded?
        let entry :=
          { Entry.ofDocument filename path document r.settings.locale? rank with shadow? }
        let event := if previous?.isSome then Event.changed filename else Event.added filename
        (.ok .loaded, (r.set filename entry).tell event)

/-- Takes account of a file of a rank under a file name. -/
def loadEntry (r : Registry) (path : Path) (filename : String) (rank : Nat) :
    Except Error Reading × Registry :=
  match r.find? filename with
  | none => r.readEntry path filename rank
  | some e =>
    if e.rank? = some rank ∧ e.ownWrite then
      (.ok .skipped, r.set filename { e with ownWrite := false })
    else if e.rank?.any (· < rank) || e.isPending then
      (.ok .skipped, r.set filename (e.shadowedBy rank))
    else r.readEntry path filename rank

/-- Takes account of a file of a rank, and gives the launcher that was made from it. -/
def load (r : Registry) (path : Path) (rank : Nat) : Option Entry × Registry :=
  match path.fileName? with
  | none => (none, r)
  | some filename =>
    match r.loadEntry path filename rank with
    | (.ok .loaded, r) => (r.find? filename, r)
    | (_, r) => (none, r)

/-- Takes account of a file in a directory, if it is one of a launcher. -/
def scanFile (dir : Path) (rank : Nat) (r : Registry) (name : String) : Registry :=
  let path := dir.join name
  if Entry.isFilename name && r.files.isFile path then (r.load path rank).2 else r

/-- Takes account of every file in a directory, in the order of their names. -/
def scanDirectory (r : Registry) (place : Nat × Path) : Registry :=
  (r.files.namesIn place.2).foldl (scanFile place.2 place.1) r

/-- Takes account of every file of the search path, in the order of ranks. -/
def scan (r : Registry) : Registry :=
  r.searchPath.ranked.foldl scanDirectory r

/-- Takes account of a report that a file was made or changed, and gives the launcher that was made
from it. -/
def fileChanged (r : Registry) (path : Path) : Option Entry × Registry :=
  if path.fileName?.any Entry.isFilename then
    match r.searchPath.rankOf? path with
    | some rank => r.load path rank
    | none => (none, r)
  else (none, r)

/-- The ranks of the system after a rank that have a file of a name, with the file. -/
def definitionsAfter (r : Registry) (rank : Nat) (filename : String) : List (Nat × Path) :=
  (r.searchPath.systemRanksAfter rank).filterMap fun next =>
    match r.searchPath.pathAt? next filename with
    | some path => if r.files.isFile path then some (next, path) else none
    | none => none

/-- Loads the first of some files that a launcher can be made from. -/
def loadFirst (r : Registry) : List (Nat × Path) → Bool × Registry
  | [] => (false, r)
  | (rank, path) :: rest =>
    match r.load path rank with
    | (some _, r) => (true, r)
    | (none, r) => r.loadFirst rest

/-- Takes account of a report that a file was removed. The next definition takes over from a source
that is gone, and without one the launcher is dropped. -/
def fileRemoved (r : Registry) (path : Path) : Registry :=
  match r.searchPath.rankOf? path, path.fileName? with
  | some rank, some filename =>
    match r.find? filename with
    | none => r
    | some e =>
      if e.isPending then r
      else if !e.source.same path then
        if e.shadow? = some rank then
          r.set filename
            { e with shadow? := (r.definitionsAfter rank filename).head?.map (·.1) }
        else r
      else
        let detached := r.set filename { e with rank? := none, shadow? := none }
        match detached.loadFirst (r.definitionsAfter rank filename) with
        | (true, r) => r
        | (false, r) => (r.drop filename).tell (.removed filename)
  | _, _ => r

end Registry

end Autostart
