import Autostart.Registry.Editing

/-!
# Deferred saves

A save stores the changed fields of a launcher in the document of its base, and writes the result to
the file of the user. When the launcher says what the file of the system below it says, the file of
the user is removed instead. A save that fails keeps the changes, so a later one can write them.
-/

namespace Autostart

/-- What a save did. -/
inductive Saved where
  /-- It wrote the file of the user. -/
  | written
  /-- It removed the file of the user in favour of that of the system. -/
  | shadowRemoved
  /-- There was nothing to save. -/
  | idle
deriving DecidableEq, Repr

namespace Registry

/-- The file of the system below a launcher, with its rank, when it says what the launcher holds. -/
def twin? (r : Registry) (e : Entry) : Option (Nat × Path) :=
  match e.shadow? with
  | none => none
  | some shadow =>
    match r.searchPath.pathAt? shadow e.filename with
    | none => none
    | some path =>
      match Document.load r.files path with
      | .ok document =>
        if e.agreesWith document r.settings.locale? then some (shadow, path) else none
      | .error _ => none

/-- The launcher as the file of the system defines it. -/
def backToSystem (e : Entry) (rank : Nat) (path : Path) : Entry :=
  { e with
    source := path
    rank? := some rank
    ownWrite := false
    dirty := .none
    base? := none }

/-- The files without the file of the user for a launcher whose file of the system says the same. -/
def withoutOverride (fs : FileStore) (e : Entry) (path : Path) : Except Error FileStore :=
  if e.rank? = some SearchPath.userRank && !e.source.same path then
    match withoutFile fs e.source with
    | .ok fs => .ok fs
    | .error cause => .error (.write e.source cause.message)
  else .ok fs

/-- The document to write for a launcher. It starts anew when the base cannot be read. -/
def merged (r : Registry) (e : Entry) : Document :=
  let base :=
    match Document.load r.files (e.base?.getD e.source) with
    | .ok document => document
    | .error _ => Document.application
  e.mergeInto base r.settings.locale?

/-- The files with a document written to the file of the user. The directories on the way are made,
and stay when the document cannot be written. -/
def writeUser (r : Registry) (target : Path) (document : Document) :
    Except Error Unit × FileStore :=
  let dir := r.searchPath.userDirectory
  match r.files.makeDirectories dir with
  | (.error cause, files) => (.error (.write dir cause.message), files)
  | (.ok (), files) =>
    match document.save files target with
    | .ok files => (.ok (), files)
    | .error e => (.error e, files)

/-- The launcher after its changes were written. -/
def saved (e : Entry) : Entry :=
  { e with ownWrite := true, dirty := .none, base? := none }

/-- Saves the changes of a launcher now. Its save is not due any more, whatever comes of this. -/
def flush (r : Registry) (filename : String) : Except Error Saved × Registry :=
  match r.find? filename with
  | none => (.error (.unknownEntry filename), r)
  | some e =>
    if !e.isPending then (.ok .idle, r)
    else
      let e := { e with due? := none }
      let r := r.set filename e
      match r.twin? e with
      | some (rank, path) =>
        match withoutOverride r.files e path with
        | .ok files =>
          (.ok .shadowRemoved, { r with files }.set filename (backToSystem e rank path))
        | .error error => (.error error, r)
      | none =>
        match r.writeUser e.source (r.merged e) with
        | (.ok (), files) => (.ok .written, { r with files }.set filename (saved e))
        | (.error error, files) => (.error error, { r with files })

/-- Saves the changes of some launchers one after the other, and gives the saves that failed. -/
def flushEach (r : Registry) : List String → List (String × Error) × Registry
  | [] => ([], r)
  | filename :: rest =>
    match r.flush filename with
    | (.ok _, r) => r.flushEach rest
    | (.error e, r) =>
      let (failures, r) := r.flushEach rest
      ((filename, e) :: failures, r)

/-- The file names of the launchers that pass a test, in ascending order. -/
def namesWhere (r : Registry) (test : Entry → Bool) : List String :=
  (r.entries.toList.filter fun (_, e) => test e).map (·.1)

/-- Runs the saves that are due, and gives those that failed. -/
def runDueSaves (r : Registry) : List (String × Error) × Registry :=
  r.flushEach (r.namesWhere fun e => e.due?.any (· ≤ r.now))

/-- Saves the changes of a launcher, and drops it unless that fails. -/
def close (r : Registry) (filename : String) : Except Error Unit × Registry :=
  match r.find? filename with
  | none => (.error (.unknownEntry filename), r)
  | some e =>
    if e.isPending then
      match r.flush filename with
      | (.ok _, r) => (.ok (), r.drop filename)
      | (.error error, r) => (.error error, r)
    else (.ok (), r.drop filename)

/-- Saves all changes, drops every launcher, and gives the saves that failed. -/
def shutdown (r : Registry) : List (String × Error) × Registry :=
  let (failures, r) := r.flushEach (r.namesWhere Entry.isPending)
  (failures, { r with entries := SortedMap.empty })

end Registry

end Autostart
