import Autostart.FileStore.Basic

/-!
# Changes to a store of files

Writing, copying and removing files, and making directories. An operation that fails leaves the
store as it was, except that making a chain of directories keeps the part that it made. A text is
written to its place in one step, so no half-written file is ever seen.
-/

namespace Autostart

namespace FileStore

/-- The store with a node at a location. -/
def set (fs : FileStore) (loc : Location) (node : Node) : FileStore :=
  { fs with nodes := fs.nodes.insert loc node }

/-- The store without what is at a location, and below it. -/
def dropTree (fs : FileStore) (loc : Location) : FileStore :=
  { fs with nodes := fs.nodes.filterKeys fun key => !loc.isPrefixOf key }

/-- The store without the file that a path leads to. -/
def removeFile (fs : FileStore) (p : Path) : Except OsError FileStore := do
  match ← fs.stat p with
  | (loc, .file _) => .ok { fs with nodes := fs.nodes.erase loc }
  | (_, .directory) => .error .isDirectory

/-- The store with a directory at the end of some steps from a location. -/
def makeDirectory (fs : FileStore) (base : Location) (steps : List Path.Step)
    (ending : Path.Ending) : Except OsError FileStore := do
  let loc ← fs.walk base steps
  match fs.node? loc with
  | some (.file _) => .error (if ending = .dot then .notDirectory else .alreadyExists)
  | some .directory => .error .alreadyExists
  | none => if ending = .dot then .error .notFound else .ok (fs.set loc .directory)

/-- Whether some steps from a location lead to a directory. -/
def isDirectoryFrom (fs : FileStore) (base : Location) (steps : List Path.Step) : Bool :=
  match fs.walk base steps with
  | .ok loc => fs.node? loc = some .directory
  | .error _ => false

/-- The store with the directories of a chain of steps, the last step given first. A directory that
is already there will do. -/
def makeChain (fs : FileStore) (base : Location) :
    List Path.Step → Path.Ending → Except OsError Unit × FileStore
  | [], ending =>
    match fs.makeDirectory base [] ending with
    | .ok fs' => (.ok (), fs')
    | .error e => (if fs.isDirectoryFrom base [] then .ok () else .error e, fs)
  | last :: before, ending =>
    let steps := (last :: before).reverse
    match fs.makeDirectory base steps ending with
    | .ok fs' => (.ok (), fs')
    | .error .notFound =>
      match fs.makeChain base before .plain with
      | (.error e, fs') => (.error e, fs')
      | (.ok (), fs') =>
        match fs'.makeDirectory base steps ending with
        | .ok fs'' => (.ok (), fs'')
        | .error e => (if fs'.isDirectoryFrom base steps then .ok () else .error e, fs')
    | .error e => (if fs.isDirectoryFrom base steps then .ok () else .error e, fs)

/-- The store with the directory of a path and those on the way to it. The empty path asks for
nothing. -/
def makeDirectories (fs : FileStore) (p : Path) : Except OsError Unit × FileStore :=
  if p.text.isEmpty then (.ok (), fs)
  else
    match routeOf p with
    | .error e => (.error e, fs)
    | .ok route => fs.makeChain (fs.start route) route.steps.reverse route.ending

/-- The steps to the directory in which the last name of a route stands. A dot at the end stands in
the place that the steps lead to. -/
def stepsToDirectory (route : Path.Route) : List Path.Step :=
  if route.ending = .dot then route.steps else route.steps.dropLast

/-- The bytes of the name that a text has until it takes its place, with the slash before it. -/
def draftNameBytes : Nat := 11

/-- The bytes of a path as seen from the root. -/
def absoluteBytes (fs : FileStore) (p : Path) : Nat :=
  if p.isAbsolute then p.text.utf8ByteSize
  else 1 + ("/".intercalate (fs.workingDirectory ++ [p.text])).utf8ByteSize

/-- Why no text can be drafted in a directory, if none can. -/
def checkDraft (fs : FileStore) (dir : Path) : Except OsError Unit := do
  if dir.text.toList.contains '\x00' then throw .nullInName
  if maxPathBytes < fs.absoluteBytes dir + draftNameBytes then throw .nameTooLong
  match ← fs.stat dir with
  | (_, .directory) => return ()
  | (_, .file _) => throw .notDirectory

/-- The store with a text moved to the place that a path leads to. -/
def moveText (fs : FileStore) (p : Path) (s : String) : Except OsError FileStore := do
  let route ← routeOf p
  let dir ← fs.walk (fs.start route) (stepsToDirectory route)
  match fs.node? dir with
  | none => .error .notFound
  | some (.file _) => .error .notDirectory
  | some .directory =>
    match route.steps.getLast?, route.ending with
    | some (.into name), .plain =>
      if maxNameBytes < name.utf8ByteSize then .error .nameTooLong
      else if fs.node? (dir ++ [name]) = some .directory then .error .isDirectory
      else .ok (fs.set (dir ++ [name]) (.file (.text s)))
    | some (.into name), .slash =>
      .error (if maxNameBytes < name.utf8ByteSize then .nameTooLong else .notDirectory)
    | _, _ => .error .busy

/-- The directory in which the text for a path is drafted: the one that holds the path, or else the
working directory. -/
def draftDirectory (p : Path) : Path :=
  match p.parent? with
  | none => ⟨"."⟩
  | some dir => if dir.text.isEmpty then ⟨"."⟩ else dir

/-- The store with a text as the file that a path leads to, in place of any earlier file. The text
is drafted in the directory that holds the path, which must exist, and then moved. -/
def replaceFile (fs : FileStore) (p : Path) (s : String) : Except OsError FileStore := do
  fs.checkDraft (draftDirectory p)
  if p.text.toList.contains '\x00' then throw .invalidArgument
  fs.moveText p s

/-- The store with the file of one path copied to another. The target is emptied before it is
filled, so a file that is copied to itself ends up empty. -/
def copyFile (fs : FileStore) (source target : Path) : Except OsError FileStore := do
  match ← fs.stat source with
  | (_, .directory) => .error .notRegular
  | (sourceLoc, .file content) =>
    let route ← routeOf target
    let loc ← fs.walk (fs.start route) route.steps
    let content := if loc = sourceLoc then .text "" else content
    match fs.node? loc, route.ending with
    | some .directory, _ => .error .isDirectory
    | some (.file _), .plain => .ok (fs.set loc (.file content))
    | some (.file _), _ => .error .notDirectory
    | none, .plain => .ok (fs.set loc (.file content))
    | none, _ => .error .isDirectory

/-- The location that some steps lead to when every directory on the way exists. -/
def target (loc : Location) : List Path.Step → Location
  | [] => loc
  | .up :: rest => target loc.dropLast rest
  | .into name :: rest => target (loc ++ [name]) rest

/-- The location that a path leads to when every directory on the way exists. -/
def locationOf (fs : FileStore) (p : Path) : Location :=
  match p.route? with
  | none => fs.workingDirectory
  | some route => target (fs.start route) route.steps

/-- The store with directories at a location and above it, where nothing was. -/
def ensureDirectories (fs : FileStore) (loc : Location) : FileStore :=
  (List.range loc.length).foldl (fun fs n =>
    let dir := loc.take (n + 1)
    if (fs.node? dir).isNone then fs.set dir .directory else fs) fs

/-- The store after another program put a node at a path, with the directories that it needs. A
directory that is already there keeps what it holds. -/
def put (fs : FileStore) (p : Path) (node : Node) : FileStore :=
  let loc := fs.locationOf p
  let fs := fs.ensureDirectories loc.dropLast
  match node with
  | .directory => fs.ensureDirectories loc
  | .file content => fs.set loc (.file content)

/-- The store after another program removed what is at a path, and whether there was something. -/
def remove (fs : FileStore) (p : Path) : Bool × FileStore :=
  let loc := fs.locationOf p
  ((fs.node? loc).isSome, fs.dropTree loc)

/-- The store that holds nothing but the way to its working directory. -/
def atDirectory (loc : Location) : FileStore :=
  FileStore.ensureDirectories ⟨loc, SortedMap.empty⟩ loc

end FileStore

end Autostart
