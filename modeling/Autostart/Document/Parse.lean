import Autostart.Document.Basic

/-!
# Reading documents

A text is read line by line. A line is blank or a comment, the header of a group, or a key with its
value, and `Document.addText` adds it to the document read so far or says what is wrong with it. The
first line that is wrong ends the reading.
-/

namespace Autostart.Document

/-- What can be wrong with a line. -/
inductive Fault where
  /-- A header without a closing bracket or without a name. -/
  | invalidHeader
  /-- A bracket inside the name of a group. -/
  | invalidGroupName
  /-- A group that was there before. -/
  | duplicateGroup (name : String)
  /-- No group, no comment and no equals sign. -/
  | noKind
  /-- A key that is empty or has brackets where it must not. -/
  | invalidKey
  /-- A key before the first group. -/
  | noGroup
deriving DecidableEq, Repr

/-- The text that reports a fault. -/
def Fault.message : Fault → String
  | invalidHeader => "Invalid group header"
  | invalidGroupName => "Invalid group name"
  | duplicateGroup name => "Duplicate group [" ++ name ++ "]"
  | noKind => "Line is not a group, comment or key-value pair"
  | invalidKey => "Invalid key name"
  | noGroup => "Key file does not start with a group"

/-- Whether a character is a square bracket. -/
def isBracket (c : Char) : Bool :=
  c = '[' || c = ']'

/-- The key and the locale suffix that a text without blanks around it names. A suffix stands in
brackets after the key. -/
def readKey (cs : List Char) : Option (String × Option String) :=
  match Chars.splitFirst '[' cs with
  | some (key, rest) =>
    let key := Chars.trimEnd key
    let locale := rest.dropLast
    if rest.getLast? ≠ some ']' ∨ locale.isEmpty ∨ locale.any isBracket ∨ key.isEmpty then none
    else some (String.ofList key, some (String.ofList locale))
  | none =>
    if cs.contains ']' ∨ cs.isEmpty then none else some (String.ofList cs, none)

/-- What a line is. -/
inductive LineKind where
  /-- Blank, or a comment. -/
  | verbatim
  /-- The header of a group. -/
  | header (name : String)
  /-- A key with its value. -/
  | entry (line : KeyLine)
deriving DecidableEq, Repr

/-- What a line is, or what is wrong with it. -/
def readLine (line : String) : Except Fault LineKind :=
  match Chars.trim line.toList with
  | [] => .ok .verbatim
  | '#' :: _ => .ok .verbatim
  | '[' :: rest =>
    let name := rest.dropLast
    if rest.getLast? ≠ some ']' ∨ name.isEmpty then .error .invalidHeader
    else if name.any isBracket then .error .invalidGroupName
    else .ok (.header (String.ofList name))
  | _ =>
    match Chars.splitFirst '=' line.toList with
    | none => .error .noKind
    | some (left, right) =>
      match readKey (Chars.trim left) with
      | none => .error .invalidKey
      | some (key, locale?) =>
        .ok (.entry ⟨key, locale?, String.ofList (Chars.trimStart right), line⟩)

/-- The groups with a line at the end of the last one, and nothing when there is no group. -/
def addToLast (line : Line) : List Group → Option (List Group)
  | [] => none
  | [g] => some [{ g with lines := g.lines ++ [line] }]
  | g :: rest => (addToLast line rest).map (g :: ·)

/-- The document with one more line at its end. -/
def addText (d : Document) (line : String) : Except Fault Document :=
  match readLine line with
  | .error fault => .error fault
  | .ok .verbatim =>
    match addToLast (.verbatim line) d.groups with
    | some groups => .ok { d with groups }
    | none => .ok { d with preamble := d.preamble ++ [line] }
  | .ok (.header name) =>
    if d.hasGroup name then .error (.duplicateGroup name)
    else .ok { d with groups := d.groups ++ [⟨name, line, []⟩] }
  | .ok (.entry keyLine) =>
    match addToLast (.entry keyLine) d.groups with
    | some groups => .ok { d with groups }
    | none => .error .noGroup

/-- The document with more lines at its end, the first of them having the number `n`. A line that is
wrong is reported with its number. -/
def addLines (d : Document) (n : Nat) : List String → Except (Nat × Fault) Document
  | [] => .ok d
  | line :: rest =>
    match d.addText line with
    | .error fault => .error (n, fault)
    | .ok d => d.addLines (n + 1) rest

/-- The document that a text holds. -/
def parse (s : String) : Except (Nat × Fault) Document :=
  empty.addLines 1 (Text.lines s)

end Autostart.Document
