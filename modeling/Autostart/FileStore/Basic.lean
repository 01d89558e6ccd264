import Autostart.FileStore.OsError
import Autostart.Path
import Autostart.SortedMap

/-!
# A store of files

The files and directories that the program sees, as a value: a map from locations to nodes, and the
location at which relative paths start. A location is the list of names from the root, so it has one
form, while many paths lead to it. A store holds files and directories only: there are no symbolic
links, so what a path names in a directory is what stands below this directory. `FileStore.walk`
follows a route: every step but the last must stand in a directory. The questions of this module
change nothing.
-/

namespace Autostart

/-- The content of a file: a text, or bytes that are not the encoding of one. -/
inductive Content where
  /-- A text. -/
  | text (s : String)
  /-- Bytes that encode no text. -/
  | binary (bytes : List UInt8)
deriving DecidableEq, Repr, Inhabited

/-- The content that some bytes are. -/
def Content.ofBytes (bytes : ByteArray) : Content :=
  match String.fromUTF8? bytes with
  | some s => .text s
  | none => .binary bytes.toList

/-- What a location can hold. -/
inductive Node where
  /-- A file. -/
  | file (content : Content)
  /-- A directory. -/
  | directory
deriving DecidableEq, Repr, Inhabited

/-- The names on the way from the root. -/
abbrev Location := List String

/-- Files and directories by their locations. -/
structure FileStore where
  /-- Where relative paths start. -/
  workingDirectory : Location
  /-- What the locations below the root hold. -/
  nodes : SortedMap Location Node

namespace FileStore

/-- What a location holds. The root is always a directory. -/
def node? (fs : FileStore) (loc : Location) : Option Node :=
  if loc = [] then some .directory else fs.nodes.find? loc

/-- The longest name that a directory takes, in bytes. -/
def maxNameBytes : Nat := 255

/-- The location that some steps lead to. A step is taken from a directory only, and the location
that it leads to need not hold anything. -/
def walk (fs : FileStore) (loc : Location) : List Path.Step → Except OsError Location
  | [] => .ok loc
  | step :: rest =>
    match fs.node? loc with
    | none => .error .notFound
    | some (.file _) => .error .notDirectory
    | some .directory =>
      match step with
      | .up => fs.walk loc.dropLast rest
      | .into name =>
        if maxNameBytes < name.utf8ByteSize then .error .nameTooLong
        else fs.walk (loc ++ [name]) rest

/-- Where a route starts. -/
def start (fs : FileStore) (route : Path.Route) : Location :=
  if route.absolute then [] else fs.workingDirectory

/-- The longest path that can be followed, in bytes. -/
def maxPathBytes : Nat := 4095

/-- The route of a path that names a place at all. -/
def routeOf (p : Path) : Except OsError Path.Route :=
  if p.text.toList.contains '\x00' then .error .nullInName
  else if maxPathBytes < p.text.utf8ByteSize then .error .nameTooLong
  else
    match p.route? with
    | none => .error .notFound
    | some route => .ok route

/-- The location that a path leads to, and what it holds. -/
def stat (fs : FileStore) (p : Path) : Except OsError (Location × Node) := do
  let route ← routeOf p
  let loc ← fs.walk (fs.start route) route.steps
  match fs.node? loc with
  | none => .error .notFound
  | some (.file content) =>
    if route.ending = .plain then .ok (loc, .file content) else .error .notDirectory
  | some .directory => .ok (loc, .directory)

/-- Whether a path leads to something. -/
def existsAt (fs : FileStore) (p : Path) : Bool :=
  match fs.stat p with
  | .ok _ => true
  | .error _ => false

/-- Whether a path leads to a file. -/
def isFile (fs : FileStore) (p : Path) : Bool :=
  match fs.stat p with
  | .ok (_, .file _) => true
  | _ => false

/-- Whether a path leads to a directory. -/
def isDirectory (fs : FileStore) (p : Path) : Bool :=
  match fs.stat p with
  | .ok (_, .directory) => true
  | _ => false

/-- The text of the file that a path leads to. -/
def readText (fs : FileStore) (p : Path) : Except OsError String := do
  match ← fs.stat p with
  | (_, .file (.text s)) => .ok s
  | (_, .file (.binary _)) => .error .notText
  | (_, .directory) => .error .isDirectory

/-- The names directly below a location, in ascending order. A name with a slash could not be told
from a path, and no directory lists one. -/
def namesBelow (fs : FileStore) (loc : Location) : List String :=
  fs.nodes.keys.filterMap fun key =>
    if key.dropLast = loc then key.getLast?.filter Path.isPlainName else none

/-- The names in the directory that a path leads to, in ascending order. -/
def namesIn (fs : FileStore) (p : Path) : List String :=
  match fs.stat p with
  | .ok (loc, .directory) => fs.namesBelow loc
  | _ => []

/-- Everything below a location, with the locations as seen from there. -/
def below (fs : FileStore) (loc : Location) : List (Location × Node) :=
  fs.nodes.toList.filterMap fun (key, node) =>
    if loc.isPrefixOf key && key ≠ loc then some (key.drop loc.length, node) else none

end FileStore

end Autostart
