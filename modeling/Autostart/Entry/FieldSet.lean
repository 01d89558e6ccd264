/-!
# Sets of fields

The fields of a launcher that edits change and saves write, and sets of them.
-/

namespace Autostart

/-- A field that edits change and saves write. -/
inductive Field where
  /-- Whether the launcher is switched off. -/
  | hidden
  /-- The name. -/
  | name
  /-- The comment. -/
  | comment
  /-- The command line. -/
  | exec
  /-- The start delay. -/
  | delay
deriving DecidableEq, Repr

/-- A set of fields. -/
structure FieldSet where
  /-- Whether `hidden` is in the set. -/
  hidden : Bool
  /-- Whether `name` is in the set. -/
  name : Bool
  /-- Whether `comment` is in the set. -/
  comment : Bool
  /-- Whether `exec` is in the set. -/
  exec : Bool
  /-- Whether `delay` is in the set. -/
  delay : Bool
deriving DecidableEq, Repr

/-- Every field, in the order in which they are listed. -/
def Field.all : List Field := [.hidden, .name, .comment, .exec, .delay]

namespace FieldSet

/-- The set of no field. -/
def none : FieldSet := ⟨false, false, false, false, false⟩

/-- The set of every field. -/
def all : FieldSet := ⟨true, true, true, true, true⟩

/-- Whether a field is in the set. -/
def contains (s : FieldSet) : Field → Bool
  | .hidden => s.hidden
  | .name => s.name
  | .comment => s.comment
  | .exec => s.exec
  | .delay => s.delay

/-- The set with a field. -/
def insert (s : FieldSet) : Field → FieldSet
  | .hidden => { s with hidden := true }
  | .name => { s with name := true }
  | .comment => { s with comment := true }
  | .exec => { s with exec := true }
  | .delay => { s with delay := true }

/-- The fields of the set. -/
def toList (s : FieldSet) : List Field :=
  Field.all.filter s.contains

/-- Whether no field is in the set. -/
def isEmpty (s : FieldSet) : Bool :=
  s = none

/-- The set with a field when `changed`. -/
def insertIf (s : FieldSet) (changed : Bool) (field : Field) : FieldSet :=
  if changed then s.insert field else s

/-- The fields of a set are those that it contains. -/
theorem mem_toList_iff {s : FieldSet} {f : Field} : f ∈ s.toList ↔ s.contains f := by
  cases f <;> simp [toList, Field.all]

/-- A field is in a set after an insertion when it was in it or is the one inserted. -/
theorem contains_insert (s : FieldSet) (f g : Field) :
    (s.insert f).contains g = (decide (f = g) || s.contains g) := by
  cases f <;> cases g <;> rfl

end FieldSet

end Autostart
