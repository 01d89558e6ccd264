import Autostart.Registry.Basic

/-!
# Edits

Changes to launchers in memory. An edit marks the fields that differ from before, where an absent
text counts as an empty one, and makes a save due. Only a launcher that nobody but the user defines
is deleted at once; any other is hidden instead.
-/

namespace Autostart.Registry

/-- The launcher with the given texts and delay in place of those that differ, which are marked. -/
def edited (e : Entry) (name? comment? exec? : Option String) (delay : Nat) : Entry :=
  let newName := !Text.agree name? e.name?
  let newComment := !Text.agree comment? e.comment?
  let newExec := !Text.agree exec? e.exec?
  { e with
    name? := if newName then name? else e.name?
    comment? := if newComment then comment? else e.comment?
    exec? := if newExec then exec? else e.exec?
    delay
    dirty := (((e.dirty.insertIf newName .name).insertIf newComment .comment).insertIf newExec
      .exec).insertIf (delay ≠ e.delay) .delay }

/-- Whether the given texts and delay differ from those of a launcher. -/
def differs (e : Entry) (name? comment? exec? : Option String) (delay : Nat) : Bool :=
  !Text.agree name? e.name? || !Text.agree comment? e.comment? || !Text.agree exec? e.exec? ||
    delay ≠ e.delay

/-- The registry after an edit turned a launcher into `e`: a save of it is due, and the observers
know. -/
def commit (r : Registry) (filename : String) (e : Entry) : Registry :=
  (r.set filename (e.schedule r.searchPath r.dueTime)).tell (.changed filename)

/-- Gives a launcher a name, a comment, a command line and a delay, and says whether that changed
anything. -/
def update (r : Registry) (filename : String) (name? comment? exec? : Option String)
    (delay : Nat) : Except Error Bool × Registry :=
  match r.find? filename with
  | none => (.error (.unknownEntry filename), r)
  | some e =>
    if differs e name? comment? exec? delay then
      (.ok true, r.commit filename (edited e name? comment? exec? delay).describeAnew)
    else (.ok false, r)

/-- Switches a launcher off or on, and says whether that changed anything. -/
def setHidden (r : Registry) (filename : String) (hidden : Bool) :
    Except Error Bool × Registry :=
  match r.find? filename with
  | none => (.error (.unknownEntry filename), r)
  | some e =>
    if e.hidden = hidden then (.ok false, r)
    else (.ok true, r.commit filename { e with hidden, dirty := e.dirty.insert .hidden })

/-- The store without a file, which may be missing already. -/
def withoutFile (fs : FileStore) (path : Path) : Except OsError FileStore :=
  match fs.removeFile path with
  | .ok fs => .ok fs
  | .error .notFound => .ok fs
  | .error e => .error e

/-- Deletes a launcher that only the user defines, with its file, and hides any other. -/
def delete (r : Registry) (filename : String) : Except Error Unit × Registry :=
  match r.find? filename with
  | none => (.error (.unknownEntry filename), r)
  | some e =>
    if e.rank? = some SearchPath.userRank ∧ e.shadow? = none then
      match withoutFile r.files e.source with
      | .error cause => (.error (.io cause), r)
      | .ok files =>
        (.ok (), ({ r with files }.drop filename).tell (.removed filename))
    else
      (.ok (), r.commit filename { e with hidden := true, dirty := e.dirty.insert .hidden })

end Autostart.Registry
