import Autostart.Document.Storage
import Autostart.Entry.Basic
import Autostart.Event
import Autostart.Settings.Basic
import Autostart.SortedMap
import Autostart.Text.Lowercase

/-!
# The registry

The registry at work: what it was told, the files and the clock that it sees, the launchers that it
knows by their file names, and its observers. Every operation is a function from one such state to
the next. An edit changes a launcher in memory and makes a save due; the first edit of a launcher of
the system moves it to the directory of the user and keeps its file as the base of the save.
-/

namespace Autostart

/-- The registry at work. -/
structure Registry where
  /-- What it was told. -/
  settings : Settings
  /-- The files that it sees. -/
  files : FileStore
  /-- The time of the clock, in milliseconds. -/
  now : Nat
  /-- The launchers that it knows. -/
  entries : SortedMap String Entry
  /-- Its observers. -/
  observers : Observers

namespace Registry

/-- The registry that knows no launcher and has no observer. -/
def fresh (settings : Settings) (files : FileStore) (now : Nat) : Registry :=
  ⟨settings, files, now, SortedMap.empty, Observers.none⟩

/-- Where launchers are looked for. -/
def searchPath (r : Registry) : SearchPath :=
  r.settings.searchPath

/-- The launcher of a file name. -/
def find? (r : Registry) (filename : String) : Option Entry :=
  r.entries.find? filename

/-- The registry with a launcher. -/
def set (r : Registry) (filename : String) (e : Entry) : Registry :=
  { r with entries := r.entries.insert filename e }

/-- The registry without a launcher. -/
def drop (r : Registry) (filename : String) : Registry :=
  { r with entries := r.entries.erase filename }

/-- The registry after its observers were told of an event. -/
def tell (r : Registry) (event : Event) : Registry :=
  { r with observers := r.observers.tell event }

/-- When a save of an edit made now is due. -/
def dueTime (r : Registry) : Nat :=
  r.now + r.settings.saveDelay

/-- Whether one launcher is listed before another: by their names without regard to case, then by
their file names. -/
def listedBefore (a b : Entry) : Bool :=
  let x := Text.lowercase (a.name?.getD "")
  let y := Text.lowercase (b.name?.getD "")
  x < y || (x == y && a.filename ≤ b.filename)

/-- The launchers in the order in which they are listed. -/
def listed (r : Registry) : List Entry :=
  r.entries.values.mergeSort listedBefore

/-- The earliest time at which a save is due. -/
def nextDue? (r : Registry) : Option Nat :=
  (r.entries.values.filterMap Entry.due?).min?

/-- The registry after some time. -/
def advance (r : Registry) (milliseconds : Nat) : Registry :=
  { r with now := r.now + milliseconds }

end Registry

/-- The launcher with a save due. A launcher of the system moves to the directory of the user, and
its file becomes the base of the save unless an earlier base still waits. -/
def Entry.schedule (e : Entry) (searchPath : SearchPath) (due : Nat) : Entry :=
  if e.rank? = some SearchPath.userRank then { e with due? := some due }
  else
    { e with
      base? := some (e.base?.getD e.source)
      source := searchPath.userPath e.filename
      rank? := some SearchPath.userRank
      due? := some due }

end Autostart
