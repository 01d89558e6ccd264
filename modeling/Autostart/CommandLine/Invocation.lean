import Autostart.CommandLine.Arguments
import Autostart.Registry.Arrivals
import Autostart.Settings.File

/-!
# Invocations

What the arguments of the program ask for: a command, and the options that all commands share. Those
can stand before the command or after it, and the ones after it count. For some of them a variable
of the environment speaks when they are not given.
-/

namespace Autostart.CommandLine

/-- What the program is asked to do. -/
inductive Command where
  /-- To list the launchers: all of them or not, and with details or not. -/
  | list (all long : Bool)
  /-- To make a launcher. -/
  | add (request : Request)
  /-- To change a launcher. What is not given stays. -/
  | edit (filename : String) (name? comment? exec? : Option String) (delay? : Option Nat)
  /-- To switch a launcher on. -/
  | enable (filename : String)
  /-- To switch a launcher off. -/
  | disable (filename : String)
  /-- To delete a launcher. -/
  | remove (filename : String)
  /-- To bring a launcher in. -/
  | bringIn (source : String)
deriving DecidableEq, Repr

/-- The options that all commands share. -/
structure Shared where
  /-- The settings file. -/
  config? : Option Path
  /-- The directory of the user. -/
  userDirectory? : Option Path
  /-- The directories of the system. -/
  systemDirectories? : Option (List Path)
  /-- The names of the desktop. -/
  desktops? : Option (List String)
deriving DecidableEq, Repr

/-- A command with the options that all commands share. -/
structure Invocation where
  /-- The options. -/
  shared : Shared
  /-- The command. -/
  command : Command
deriving DecidableEq, Repr

/-- The options that all commands share. -/
def sharedOptions : List OptionSpec := [
  ⟨"log-level", none, .one .text⟩,
  ⟨"config", none, .one .path⟩,
  ⟨"user-dir", none, .one .path⟩,
  ⟨"system-dir", none, .many .path⟩,
  ⟨"desktop", none, .many .text⟩]

/-- The option that asks for help. -/
def helpOption : OptionSpec := ⟨"help", some 'h', .nothing⟩

/-- The options of a launcher's fields. -/
def fieldOptions : List OptionSpec := [
  ⟨"exec", some 'e', .one .text⟩,
  ⟨"name", some 'n', .one .text⟩,
  ⟨"comment", some 'c', .one .text⟩,
  ⟨"delay", some 'd', .one .number⟩]

/-- The commands, with their own options and the number of their plain arguments. -/
def commands : List (String × List OptionSpec × Nat) := [
  ("list", [⟨"all", some 'a', .nothing⟩, ⟨"long", some 'l', .nothing⟩], 0),
  ("add", fieldOptions ++ [⟨"filename", none, .one .text⟩], 0),
  ("edit", fieldOptions, 1),
  ("enable", [], 1),
  ("disable", [], 1),
  ("remove", [], 1),
  ("import", [], 1)]

/-- What the program itself takes. -/
def programLevel : Level :=
  ⟨sharedOptions ++ [helpOption, ⟨"version", some 'V', .nothing⟩], 0,
    "help" :: commands.map (·.1)⟩

/-- The command that the arguments after its name ask for. -/
def commandOf (name : String) (g : Given) : Except Stop Command :=
  let delay? := (g.value? "delay").bind number?
  match name, g.plain with
  | "list", [] => .ok (.list (g.has "all") (g.has "long"))
  | "add", [] =>
    match g.value? "exec" with
    | some exec =>
      .ok (.add ⟨exec, g.value? "name", g.value? "comment", delay?.getD 0, g.value? "filename"⟩)
    | none => .error .usage
  | "edit", [filename] =>
    .ok (.edit filename (g.value? "name") (g.value? "comment") (g.value? "exec") delay?)
  | "enable", [filename] => .ok (.enable filename)
  | "disable", [filename] => .ok (.disable filename)
  | "remove", [filename] => .ok (.remove filename)
  | "import", [source] => .ok (.bringIn source)
  | _, _ => .error .usage

/-- The values of an option that a variable of the environment gives it. -/
def fromVariable (env : Environment) (name long : String) : Except Stop (Option (List String)) :=
  match env name, sharedOptions.find? fun spec => spec.long = long with
  | some value, some spec => (Given.valuesOf spec.takes value).map some
  | _, _ => .ok none

/-- The values of an option: those after the command, or else those before it, or else those of its
variable. The variable must be right unless the option is given in both places. -/
def sharedValues (env : Environment) (before after : Given) (name long : String) :
    Except Stop (Option (List String)) :=
  match after.values? long, before.values? long with
  | some values, some _ => .ok (some values)
  | some values, none | none, some values =>
    match fromVariable env name long with
    | .ok _ => .ok (some values)
    | .error stop => .error stop
  | none, none => fromVariable env name long

/-- The options that all commands share, as they are given before and after the command. -/
def sharedOf (env : Environment) (before after : Given) : Except Stop Shared := do
  let config? ← sharedValues env before after "AUTOSTART_SYNC_CONFIG" "config"
  let userDirectory? ← sharedValues env before after "AUTOSTART_USER_DIR" "user-dir"
  let systemDirectories? ← sharedValues env before after "AUTOSTART_SYSTEM_DIRS" "system-dir"
  let desktops? ← sharedValues env before after "XDG_CURRENT_DESKTOP" "desktop"
  return ⟨(config?.bind List.head?).map Path.mk, (userDirectory?.bind List.head?).map Path.mk,
    systemDirectories?.map fun dirs => dirs.map Path.mk, desktops?⟩

/-- What the arguments after the name `help` ask for: help on the program or on one command. -/
def helpOn : List String → Stop
  | [] => .help
  | [name] => if programLevel.subcommands.contains name then .help else .usage
  | _ => .usage

/-- What a list of arguments asks for in an environment. -/
def Invocation.read (env : Environment) (args : List String) : Except Stop Invocation := do
  let before ← Given.read programLevel args
  match before.subcommand? with
  | none => throw .usage
  | some (name, rest) =>
    match commands.find? fun (name', _) => name' = name with
    | none => throw (helpOn rest)
    | some (_, options, places) =>
      let after ← Given.read ⟨sharedOptions ++ helpOption :: options, places, []⟩ rest
      let command ← commandOf name after
      let shared ← sharedOf env before after
      return ⟨shared, command⟩

/-- The settings that a command runs with: the environment first, then the settings file, then the
options. -/
def Shared.settings (s : Shared) (env : Environment) (overrides? : Option Overrides) :
    Except Error Settings :=
  let options : Overrides :=
    { Overrides.none with
      userDirectory? := s.userDirectory?
      systemDirectories? := s.systemDirectories?
      desktops? := s.desktops? }
  match overrides? with
  | none => (Settings.ofEnvironment env).apply options
  | some overrides =>
    match (Settings.ofEnvironment env).apply overrides with
    | .ok settings => settings.apply options
    | .error e => .error e

end Autostart.CommandLine
