import Autostart.CommandWords
import Autostart.FileStore.OsError
import Autostart.Path
import Autostart.Url.Fault

/-!
# Errors

What the library reports as an error, with the texts of the reports. A launcher that must not run on
this desktop, or a change that the library made itself, is no error.
-/

namespace Autostart

/-- An error of the library. -/
inductive Error where
  /-- A desktop entry could not be read because of one of its lines. -/
  | parse (path? : Option Path) (line : Nat) (message : String)
  /-- A file or its directory could not be written. -/
  | write (path : Path) (message : String)
  /-- Every file name that was tried is in use. -/
  | namesExhausted (base : String) (attempts : Nat)
  /-- A command line is blank or cannot be split into words. -/
  | invalidCommand (command message : String)
  /-- A file could not be brought into the directory of the user. -/
  | copy (source target message : String)
  /-- No launcher has this file name. -/
  | unknownEntry (filename : String)
  /-- A setting has a value that it must not have. -/
  | config (message : String) (hint? : Option String)
  /-- A rank came out of order. -/
  | rankOrder (message : String)
  /-- An operation on a file failed. -/
  | io (cause : OsError)
  /-- A settings file could not be read. -/
  | yaml
  /-- A source is not a URL. -/
  | url (fault : Url.Fault)
deriving DecidableEq, Repr

namespace Error

/-- The text that reports an error. -/
def message : Error → String
  | parse path? line message =>
    let place := match path? with
      | some path => " in " ++ path.text
      | none => ""
    "Desktop entry parse error" ++ place ++ ": line " ++ toString line ++ ": " ++ message
  | write path message => "Failed to write " ++ path.text ++ ": " ++ message
  | namesExhausted base attempts =>
    "No free file name for '" ++ base ++ "' after " ++ toString attempts ++ " attempts"
  | invalidCommand command message => "Invalid command line '" ++ command ++ "': " ++ message
  | copy source target message => "Copy error: " ++ source ++ " -> " ++ target ++ ": " ++ message
  | unknownEntry filename => "Unknown autostart entry: " ++ filename
  | config message hint? =>
    let hint := match hint? with
      | some hint => "\n  hint: " ++ hint
      | none => ""
    "Configuration error: " ++ message ++ hint
  | rankOrder message => "Invariant violated: " ++ message
  | io cause => "I/O error: " ++ cause.message
  | yaml => "YAML parsing error: the settings file is malformed"
  | url fault => "URL parsing error: " ++ fault.message

/-- The texts of the causes of an error, the nearest first. -/
def causes : Error → List String
  | io cause => [cause.message]
  | yaml => ["the settings file is malformed"]
  | url fault => [fault.message]
  | _ => []

end Error

end Autostart
