import Autostart.CommandLine.Run

/-!
# The program

The outermost layer: it reads the variables and the files that a run can ask for, runs the command
on them as values, brings the changes to the disk, and prints what the run printed. It decides
nothing.
-/

namespace Autostart.Disk

/-- The variables of the environment that a run can ask for. -/
def variableNames : List String := [
  "HOME", "XDG_CONFIG_HOME", "XDG_CONFIG_DIRS", "XDG_CURRENT_DESKTOP", "LC_ALL", "LC_MESSAGES",
  "LANG", "AUTOSTART_SYNC_CONFIG", "AUTOSTART_USER_DIR", "AUTOSTART_SYSTEM_DIRS"]

/-- The absolute path of a location. -/
def pathText (loc : Location) : String :=
  "/" ++ "/".intercalate loc

/-- The bytes of a content. -/
def bytesOf : Content → ByteArray
  | .text s => s.toUTF8
  | .binary bytes => ByteArray.mk bytes.toArray

/-- The locations that the steps of a path lead to, one after the other. -/
def locationsOn (fs : FileStore) (p : Path) : List Location :=
  match p.route? with
  | none => []
  | some route =>
    (List.range (route.steps.length + 1)).map fun n =>
      FileStore.target (fs.start route) (route.steps.take n)

/-- The environment. -/
def environment : IO Environment := do
  let pairs ← variableNames.filterMapM fun name => do
    return (← IO.getEnv name).map fun value => (name, value)
  return fun name => (pairs.find? fun pair => pair.1 = name).map (·.2)

/-- What stands at a location. -/
def node? (loc : Location) : IO (Option Node) := do
  let path := System.mkFilePath [pathText loc]
  try
    match (← path.metadata).type with
    | .dir => return some .directory
    | .file => return some (.file (Content.ofBytes (← IO.FS.readBinFile path)))
    | _ => return none
  catch _ => return none

/-- The store with what stands at a location and above it. -/
def withLocation (fs : FileStore) (loc : Location) : IO FileStore :=
  (List.range loc.length).foldlM (fun fs n => do
    let loc := loc.take (n + 1)
    if (fs.node? loc).isSome then return fs
    match ← node? loc with
    | some node => return fs.set loc node
    | none => return fs) fs

/-- The store with what stands on the way of a path. -/
def withPath (fs : FileStore) (p : Path) : IO FileStore :=
  (locationsOn fs p).foldlM withLocation fs

/-- The store with what stands on the way of a path and directly below its end. -/
def withDirectory (fs : FileStore) (p : Path) : IO FileStore := do
  let fs ← withPath fs p
  match fs.stat p with
  | .ok (loc, .directory) =>
    let entries ← try (System.mkFilePath [pathText loc]).readDir catch _ => pure #[]
    entries.foldlM (fun fs entry => withLocation fs (loc ++ [entry.fileName])) fs
  | _ => return fs

/-- The files that an invocation can ask for. -/
def filesFor (env : Environment) (fs : FileStore) (invocation : CommandLine.Invocation) :
    IO FileStore := do
  let fs ← invocation.shared.config?.toList.foldlM withPath fs
  match CommandLine.settingsOf env fs invocation.shared with
  | .error _ => return fs
  | .ok settings =>
    let fs ← settings.searchPath.directories.foldlM withDirectory fs
    match invocation.command with
    | .bringIn source =>
      match Source.ofText source with
      | .ok source => withPath fs source.path
      | .error _ => return fs
    | _ => return fs

/-- Puts a node at a location. A file gets its content in one step. -/
def put (loc : Location) : Node → IO Unit
  | .directory => IO.FS.createDir (pathText loc)
  | .file content => do
    let unfinished := pathText loc ++ ".unfinished"
    IO.FS.writeBinFile unfinished (bytesOf content)
    IO.FS.rename unfinished (pathText loc)

/-- Makes the disk, which is as `before` says, as `after` says. -/
def bringTo (before after : FileStore) : IO Unit := do
  for (loc, node) in after.nodes.toList do
    if before.node? loc ≠ some node then put loc node
  for (loc, node) in before.nodes.toList do
    if node ≠ .directory && (after.node? loc).isNone then IO.FS.removeFile (pathText loc)

/-- Runs the program with some arguments, and gives its exit code. -/
def run (args : List String) : IO UInt32 := do
  let env ← environment
  let here := (Text.splitAll '/' (← IO.currentDir).toString).filter fun name => !name.isEmpty
  let start ← withLocation ⟨here, SortedMap.empty⟩ here
  let files ← match CommandLine.Invocation.read env args with
    | .ok invocation => filesFor env start invocation
    | .error _ => pure start
  let outcome := CommandLine.run env files args
  try bringTo files outcome.files
  catch e =>
    IO.eprintln ("Error: " ++ toString e)
    return 1
  IO.print outcome.out
  IO.eprint outcome.err
  return UInt32.ofNat outcome.code

end Autostart.Disk

/-- The program. -/
def main (args : List String) : IO UInt32 :=
  Autostart.Disk.run args
