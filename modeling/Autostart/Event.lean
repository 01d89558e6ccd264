/-!
# Events

What happens to launchers, and who is told. Every event goes to every observer, in the order in
which they subscribed, before the operation that caused it returns.
-/

namespace Autostart

/-- What happened to the launcher of a file name. -/
inductive Event where
  /-- It is known from now on. -/
  | added (filename : String)
  /-- It has changed. -/
  | changed (filename : String)
  /-- It is not known any more. -/
  | removed (filename : String)
deriving DecidableEq, Repr

namespace Event

/-- The file name of the launcher. -/
def filename : Event → String
  | added filename | changed filename | removed filename => filename

/-- The text of an event. -/
def message : Event → String
  | added filename => "added " ++ filename
  | changed filename => "changed " ++ filename
  | removed filename => "removed " ++ filename

end Event

/-- The observers, and what they were told. -/
structure Observers where
  /-- The number of the next observer. -/
  next : Nat
  /-- The numbers of the observers, in the order in which they subscribed. -/
  ids : List Nat
  /-- The events delivered so far, each with the number of the observer, the earliest first. -/
  delivered : List (Nat × Event)
deriving DecidableEq, Repr

namespace Observers

/-- No observer yet. -/
def none : Observers := ⟨0, [], []⟩

/-- One more observer, and its number. -/
def subscribe (o : Observers) : Nat × Observers :=
  (o.next, { o with next := o.next + 1, ids := o.ids ++ [o.next] })

/-- The observers without the one of a number, and whether there was one. -/
def unsubscribe (o : Observers) (id : Nat) : Bool × Observers :=
  (o.ids.contains id, { o with ids := o.ids.filter (· ≠ id) })

/-- Tells every observer of an event. -/
def tell (o : Observers) (event : Event) : Observers :=
  { o with delivered := o.delivered ++ o.ids.map fun id => (id, event) }

end Observers

end Autostart
