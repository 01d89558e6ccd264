import Autostart.CommandWords
import Autostart.Registry.Editing
import Autostart.Registry.Precedence
import Autostart.Url.Basic

/-!
# New launchers

Launchers made from a command line, and launchers brought in from a file or a URL. Both get the
first file name that neither the registry nor the directory of the user has in use.
-/

namespace Autostart

/-- What a new launcher should be. -/
structure Request where
  /-- Its command line. -/
  exec : String
  /-- Its name. -/
  name? : Option String
  /-- Its comment. -/
  comment? : Option String
  /-- Its start delay in seconds. -/
  delay : Nat
  /-- The file name to start the search from, in place of the program's. -/
  basename? : Option String
deriving DecidableEq, Repr

/-- Where a launcher is brought in from. -/
structure Source where
  /-- The path of the file. -/
  path : Path
  /-- The name of the file, when it has one that is a text. -/
  filename? : Option String
  /-- Whether the path is a text as it stands, so that a file can have it. -/
  exact : Bool
deriving DecidableEq, Repr

namespace Source

/-- The source at a path. -/
def ofPath (path : Path) : Source :=
  ⟨path, path.fileName?, true⟩

/-- The source at a path of bytes. What is no text in it is shown as replacement characters. -/
def ofBytes (bytes : List UInt8) : Source :=
  match Utf8.decode? bytes with
  | some s => ofPath ⟨s⟩
  | none =>
    let name := (bytes.reverse.dropWhile (· = 0x2F)).takeWhile (· ≠ 0x2F)
    let path := Path.mk (Utf8.lossy bytes)
    ⟨path, if (Utf8.decode? name.reverse).isSome then path.fileName? else none, false⟩

/-- The source that a text names: a URL of a file when it has the mark of a URL, and else a path. -/
def ofText (s : String) : Except Error Source :=
  if Chars.hasPart "://".toList s.toList then
    match Url.parse s with
    | .error fault => .error (.url fault)
    | .ok url =>
      match url.filePath? with
      | some bytes => .ok (ofBytes bytes)
      | none => .error (.copy s "" ("unsupported URL scheme '" ++ url.scheme ++ "'"))
  else .ok (ofPath ⟨s⟩)

end Source

namespace Registry

/-- The stem of the file names for a base: without one suffix. -/
def stemOf (base : String) : String :=
  (Text.stripSuffix? Entry.suffix base).getD base

/-- The file name of a number for a stem. -/
def candidate (stem : String) (n : Nat) : String :=
  if n = 0 then stem ++ Entry.suffix else stem ++ "-" ++ toString n ++ Entry.suffix

/-- Whether a file name is in use: the registry knows it, or the directory of the user holds it. -/
def isTaken (r : Registry) (filename : String) : Bool :=
  r.entries.contains filename || r.files.existsAt (r.searchPath.userPath filename)

/-- The first free file name for a stem among `tries` ones from the number `n` on. -/
def firstFree (r : Registry) (stem : String) (n : Nat) : (tries : Nat) → Option String
  | 0 => none
  | tries + 1 =>
    if r.isTaken (candidate stem n) then r.firstFree stem (n + 1) tries
    else some (candidate stem n)

/-- The first free file name for a base. -/
def freeName (r : Registry) (base : String) : Except Error String :=
  let stem := stemOf base
  match r.firstFree stem 0 r.settings.maxNameAttempts with
  | some filename => .ok filename
  | none => .error (.namesExhausted stem r.settings.maxNameAttempts)

/-- The base of the file name of a new launcher: the last part of the name that was asked for, or
else that of the program. -/
def baseName (request : Request) (words : List String) : Except Error String :=
  let asked := (request.basename?.filter fun name => !Text.isBlank name).bind fun name =>
    (Path.mk name).fileName?
  match asked with
  | some name => .ok name
  | none =>
    match words.head?.bind fun program => (Path.mk program).fileName? with
    | some name => .ok name
    | none => .error (.invalidCommand request.exec "no program name")

/-- Makes a launcher from a command line, and gives its file name. It is written by its first
save. -/
def create (r : Registry) (request : Request) : Except Error String × Registry :=
  if Text.isBlank request.exec then
    (.error (.invalidCommand request.exec "command line is empty"), r)
  else
    match CommandWords.split request.exec with
    | .error fault => (.error (.invalidCommand request.exec fault.message), r)
    | .ok words =>
      match baseName request words with
      | .error e => (.error e, r)
      | .ok base =>
        match r.freeName base with
        | .error e => (.error e, r)
        | .ok filename =>
          let entry := Entry.ofCommand filename (r.searchPath.userPath filename) request.name?
            request.comment? request.exec request.delay
          (.ok filename,
            (r.set filename (entry.schedule r.searchPath r.dueTime)).tell (.added filename))

/-- The files without one, if it was there and can be removed. -/
def cleanedUp (fs : FileStore) (path : Path) : FileStore :=
  match fs.removeFile path with
  | .ok fs => fs
  | .error _ => fs

/-- The files with a source copied to a path. A path that is no text leads to no file. -/
def copySource (fs : FileStore) (source : Source) (target : Path) : Except OsError FileStore :=
  if source.exact then fs.copyFile source.path target
  else
    match fs.stat source.path with
    | .ok _ => .error .notFound
    | .error e => .error e

/-- Copies a source to a path in the directory of the user, which is made when it is missing. -/
def bring (fs : FileStore) (source : Source) (dir target : Path) :
    Except OsError Unit × FileStore :=
  match fs.makeDirectories dir with
  | (.error e, fs) => (.error e, fs)
  | (.ok (), fs) =>
    match copySource fs source target with
    | .ok fs => (.ok (), fs)
    | .error e => (.error e, cleanedUp fs target)

/-- The registry with a launcher switched on, if it was switched off. -/
def switchOn (r : Registry) (filename : String) (e : Entry) : Registry :=
  if e.hidden then
    r.commit filename { e with hidden := false, dirty := e.dirty.insert .hidden }
  else r

/-- Copies the file of a launcher into the directory of the user and loads it, switched on, and
gives its file name. -/
def copyFrom (r : Registry) (text : String) : Except Error String × Registry :=
  match Source.ofText text with
  | .error e => (.error e, r)
  | .ok source =>
    match source.filename? with
    | none => (.error (.copy source.path.text "" "source has no file name"), r)
    | some base =>
      match r.freeName base with
      | .error e => (.error e, r)
      | .ok filename =>
        let target := r.searchPath.userPath filename
        let failure (message : String) : Except Error String :=
          .error (.copy source.path.text target.text message)
        match bring r.files source r.searchPath.userDirectory target with
        | (.error e, files) => (failure e.message, { r with files })
        | (.ok (), files) =>
          match { r with files }.load target SearchPath.userRank with
          | (some e, r) => (.ok filename, r.switchOn filename e)
          | (none, r) =>
            (failure "not a launchable desktop entry",
              { r with files := cleanedUp r.files target })

end Registry

end Autostart
