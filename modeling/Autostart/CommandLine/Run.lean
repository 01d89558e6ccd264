import Autostart.CommandLine.Invocation
import Autostart.Registry.Saving

/-!
# Running commands

What a command prints and what it does to the files. Every command scans the directories first, and
one that edits saves everything before it ends. A failure is printed with its causes, and the
program ends with code 1; wrong arguments end it with code 2.
-/

namespace Autostart.CommandLine

/-- A failure, with its causes from the nearest on. -/
structure Failure where
  /-- The text of the failure. -/
  message : String
  /-- The texts of the causes. -/
  causes : List String
deriving DecidableEq, Repr

/-- The failure that an error is. -/
def Failure.of (e : Error) : Failure :=
  ⟨e.message, e.causes⟩

/-- What a run leaves behind. -/
structure Outcome where
  /-- The exit code. -/
  code : Nat
  /-- What was printed. -/
  out : String
  /-- What was printed as an error. -/
  err : String
  /-- The files. -/
  files : FileStore

/-- A line of output. -/
def line (s : String) : String :=
  s ++ "\n"

/-- A text whose lines after the first are indented. -/
def indented (indent s : String) : String :=
  ("\n" ++ indent).intercalate (Text.splitAll '\n' s)

/-- The causes of a failure, with their numbers when there are several. -/
def causeLines (causes : List String) : String :=
  match causes with
  | [] => ""
  | [cause] => "\nCaused by:\n" ++ line ("    " ++ indented "    " cause)
  | causes =>
    "\nCaused by:\n" ++ String.join (causes.zipIdx.map fun (cause, n) =>
      line ("    " ++ toString n ++ ": " ++ indented "       " cause))

/-- The report of a failure. -/
def Failure.report (f : Failure) : String :=
  line ("Error: " ++ f.message) ++ causeLines f.causes

/-- The outcome of a run that failed. -/
def Outcome.failed (files : FileStore) (out err : String) (f : Failure) : Outcome :=
  ⟨1, out, err ++ f.report, files⟩

/-- The settings of an invocation. -/
def settingsOf (env : Environment) (files : FileStore) (shared : Shared) :
    Except Failure Settings :=
  let overrides? : Except Failure (Option Overrides) :=
    match shared.config? with
    | none => .ok none
    | some path =>
      match Overrides.load files path with
      | .ok overrides => .ok (some overrides)
      | .error e =>
        .error ⟨"Failed to load settings from " ++ path.text, e.message :: e.causes⟩
  match overrides? with
  | .error f => .error f
  | .ok overrides? => (shared.settings env overrides?).mapError Failure.of

/-- The text of a rank that may be absent. -/
def rankText : Option Nat → String
  | some rank => toString rank
  | none => "-"

/-- The line of a launcher in a list. -/
def entryLine (long : Bool) (e : Entry) : String :=
  let mark := if e.hidden then "[ ]" else "[x]"
  let short := mark ++ " " ++ e.filename ++ "  " ++ e.name?.getD ""
  if long then
    short ++ "  rank=" ++ rankText e.rank? ++ " shadow=" ++ rankText e.shadow? ++ "  exec=" ++
      e.exec?.getD ""
  else short

/-- Saves everything and ends the run, after some output and with more output when all is well. -/
def finish (r : Registry) (out finalOut : String) : Outcome :=
  match r.shutdown with
  | ([], r) => ⟨0, out ++ finalOut, "", r.files⟩
  | (failures, r) =>
    let err := String.join (failures.map fun (filename, e) =>
      line ("Failed to save " ++ filename ++ ": " ++ e.message))
    .failed r.files out err ⟨toString failures.length ++ " change(s) could not be saved", []⟩

/-- Switches a launcher off or on, and says so when it was that way. -/
def runToggle (r : Registry) (filename : String) (hidden : Bool) : Outcome :=
  match r.setHidden filename hidden with
  | (.error e, r) => .failed r.files "" "" (.of e)
  | (.ok true, r) => finish r "" ""
  | (.ok false, r) =>
    let state := if hidden then "disabled" else "enabled"
    finish r (line (filename ++ " is already " ++ state)) ""

/-- Runs a command on a registry that scanned the directories. -/
def runCommand (r : Registry) : Command → Outcome
  | .list all long =>
    let shown := r.listed.filter fun e => all || !e.noDisplay
    ⟨0, String.join (shown.map fun e => line (entryLine long e)), "", r.files⟩
  | .add request =>
    match r.create request with
    | (.error e, r) => .failed r.files "" "" (.of e)
    | (.ok filename, r) => finish r "" (line filename)
  | .edit filename name? comment? exec? delay? =>
    match r.find? filename with
    | none => .failed r.files "" "" (.of (.unknownEntry filename))
    | some e =>
      match r.update filename (name?.or e.name?) (comment?.or e.comment?) (exec?.or e.exec?)
        (delay?.getD e.delay) with
      | (.error error, r) => .failed r.files "" "" (.of error)
      | (.ok true, r) => finish r "" ""
      | (.ok false, r) => finish r (line (filename ++ " is unchanged")) ""
  | .enable filename => runToggle r filename false
  | .disable filename => runToggle r filename true
  | .remove filename =>
    match r.delete filename with
    | (.error e, r) => .failed r.files "" "" (.of e)
    | (.ok (), r) =>
      if (r.find? filename).isSome then
        finish r (line (filename ++ " is provided by the system; hiding it")) ""
      else finish r "" ""
  | .bringIn source =>
    match r.copyFrom source with
    | (.error e, r) => .failed r.files "" "" (.of e)
    | (.ok filename, r) => finish r "" (line filename)

/-- The name and the version of the program. -/
def versionText : String := "autostart-sync 0.1.0"

/-- How the program is used. -/
def usageText : String :=
  "Usage: autostart-sync [OPTIONS] <list|add|edit|enable|disable|remove|import> [ARGUMENTS]"

/-- Runs the program with some arguments in an environment. -/
def run (env : Environment) (files : FileStore) (args : List String) : Outcome :=
  match Invocation.read env args with
  | .error .usage => ⟨2, "", line usageText, files⟩
  | .error .version => ⟨0, line versionText, "", files⟩
  | .error .help => ⟨0, line usageText, "", files⟩
  | .ok invocation =>
    match settingsOf env files invocation.shared with
    | .error f => .failed files "" "" f
    | .ok settings => runCommand (Registry.fresh settings files 0).scan invocation.command

end Autostart.CommandLine
