import Autostart.Error
import Autostart.Locale
import Autostart.SearchPath

/-!
# Settings

What the registry is told before it starts: the directories, the names of the desktop, the locale,
the delay of saves and the number of file names to try. The environment gives settings for
everything, and overrides replace the ones that they mention.
-/

namespace Autostart

/-- What the registry is told before it starts. -/
structure Settings where
  /-- Where launchers are looked for. -/
  searchPath : SearchPath
  /-- The names of the running desktop. -/
  desktops : List String
  /-- The locale of localized texts. -/
  locale? : Option Locale
  /-- The time from an edit to its save, in milliseconds. -/
  saveDelay : Nat
  /-- How many file names are tried for a new launcher. -/
  maxNameAttempts : Nat
deriving DecidableEq, Repr

/-- Settings that replace others, each one optional. -/
structure Overrides where
  /-- The directory of the user. -/
  userDirectory? : Option Path
  /-- The directories of the system. -/
  systemDirectories? : Option (List Path)
  /-- The names of the running desktop. -/
  desktops? : Option (List String)
  /-- The identifier of the locale of localized texts. -/
  locale? : Option String
  /-- The time from an edit to its save, in seconds. -/
  saveDelaySeconds? : Option Nat
  /-- How many file names are tried for a new launcher. -/
  maxNameAttempts? : Option Nat
deriving DecidableEq, Repr

/-- Overrides that replace nothing. -/
def Overrides.none : Overrides :=
  ⟨.none, .none, .none, .none, .none, .none⟩

namespace Settings

/-- The directory of launchers below a directory of settings. -/
def subdirectory : String := "autostart"

/-- The desktop when the environment names none. -/
def defaultDesktop : String := "MATE"

/-- The directory of settings of the system when the environment names none. -/
def defaultSystemDirectory : Path := ⟨"/etc/xdg"⟩

/-- The settings for given directories, with the defaults for all else. -/
def ofDirectories (searchPath : SearchPath) : Settings :=
  ⟨searchPath, [defaultDesktop], none, 2000, 10000⟩

/-- The directory of settings of the user: the one that the environment names by an absolute path,
or else the usual one in the home directory. The environment alone says which directory is home.
When it names none, no list of accounts is asked, and the working directory stands in. -/
def userSettingsDirectory (env : Environment) : Path :=
  match (env "XDG_CONFIG_HOME").filter fun dir => (Path.mk dir).isAbsolute with
  | some dir => ⟨dir⟩
  | none =>
    match (env "HOME").filter fun home => !home.isEmpty with
    | some home => (Path.mk home).join ".config"
    | none => ⟨".config"⟩

/-- The directories of settings of the system. -/
def systemSettingsDirectories (env : Environment) : List Path :=
  match (env "XDG_CONFIG_DIRS").map fun dirs =>
      (Text.splitAll ':' dirs).filter fun dir => !Text.isBlank dir with
  | some (dir :: dirs) => (dir :: dirs).map Path.mk
  | _ => [defaultSystemDirectory]

/-- The names of the desktop. -/
def desktopsOf (env : Environment) : List String :=
  match (env "XDG_CURRENT_DESKTOP").map fun names =>
      ((Text.splitAll ':' names).map Text.trim).filter fun name => !name.isEmpty with
  | some (name :: names) => name :: names
  | _ => [defaultDesktop]

/-- The settings of an environment. -/
def ofEnvironment (env : Environment) : Settings :=
  { ofDirectories
      ⟨(userSettingsDirectory env).join subdirectory,
        (systemSettingsDirectories env).map (·.join subdirectory)⟩ with
    desktops := desktopsOf env
    locale? := Locale.ofEnvironment env }

/-- Settings need a name to try and a directory of the user. -/
def validate (s : Settings) : Except Error Unit :=
  if s.maxNameAttempts = 0 then
    .error (.config "max-name-attempts must be at least 1"
      (some "remove the key to use the default of 10000"))
  else if s.searchPath.userDirectory.text.isEmpty then
    .error (.config "user-dir must not be empty" none)
  else .ok ()

/-- The settings with overrides. -/
def overlay (s : Settings) (o : Overrides) : Settings :=
  { searchPath :=
      ⟨o.userDirectory?.getD s.searchPath.userDirectory,
        o.systemDirectories?.getD s.searchPath.systemDirectories⟩
    desktops := o.desktops?.getD s.desktops
    locale? := match o.locale? with
      | some identifier => Locale.parse identifier
      | none => s.locale?
    saveDelay := match o.saveDelaySeconds? with
      | some seconds => 1000 * seconds
      | none => s.saveDelay
    maxNameAttempts := o.maxNameAttempts?.getD s.maxNameAttempts }

/-- The settings with overrides, when they are valid. -/
def apply (s : Settings) (o : Overrides) : Except Error Settings :=
  let s := s.overlay o
  match s.validate with
  | .ok () => .ok s
  | .error e => .error e

end Settings

end Autostart
