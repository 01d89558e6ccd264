import Autostart.Document.Parse
import Autostart.Error
import Autostart.FileStore.Change

/-!
# Documents in files

Reading the document of a file, and writing one to a file in a single step.
-/

namespace Autostart.Document

/-- The document that a text holds, or the error that reports its first wrong line. -/
def ofText (s : String) : Except Error Document :=
  match parse s with
  | .ok d => .ok d
  | .error (line, fault) => .error (.parse none line fault.message)

/-- The document of a file. -/
def load (fs : FileStore) (path : Path) : Except Error Document :=
  match fs.readText path with
  | .error e => .error (.io e)
  | .ok s =>
    match parse s with
    | .ok d => .ok d
    | .error (line, fault) => .error (.parse (some path) line fault.message)

/-- The store with a document written to a file. The directory of the file must exist. -/
def save (d : Document) (fs : FileStore) (path : Path) : Except Error FileStore :=
  match fs.replaceFile path d.text with
  | .ok fs => .ok fs
  | .error e => .error (.write path e.message)

end Autostart.Document
