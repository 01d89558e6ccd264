import Autostart.Yaml.Scalar
import Autostart.Yaml.Tag

/-!
# Tokens of YAML

The signs, names and scalars of a YAML text, in which the layout has become signs of its own: a list
or a map that is written by indentation has a sign where it starts and a sign where it ends, and a
sign stands before every key of a map. This module reads the tokens that depend on nothing before
them.
-/

namespace Autostart.Yaml

/-- A token. -/
inductive Token where
  /-- The version of YAML that a document is written in. -/
  | version (major minor : Nat)
  /-- What a handle stands for in a document. -/
  | handle (name : String) (start : Tag)
  /-- The mark of the start of a document. -/
  | documentStart
  /-- The mark of the end of a document. -/
  | documentEnd
  /-- The start of a list by indentation. -/
  | listStart
  /-- The start of a map by indentation. -/
  | mapStart
  /-- The end of a list or a map by indentation. -/
  | blockEnd
  /-- The bracket that opens a list. -/
  | openList
  /-- The bracket that closes a list. -/
  | closeList
  /-- The brace that opens a map. -/
  | openMap
  /-- The brace that closes a map. -/
  | closeMap
  /-- The dash of a list item. -/
  | dash
  /-- The comma between entries in brackets. -/
  | comma
  /-- What stands before a key. -/
  | key
  /-- The colon before a value. -/
  | colon
  /-- A number for the node that follows. -/
  | anchor (number : Nat)
  /-- The number of a node to be repeated. -/
  | alias (number : Nat)
  /-- The tag of the node that follows. -/
  | tag (tag : WrittenTag)
  /-- A scalar. -/
  | scalar (scalar : Scalar)
deriving DecidableEq, Repr

/-- The number of up to nine digits at the start of a text, and what follows it. -/
def readVersionNumber (cs : List Char) : Option (Nat × List Char) :=
  let digits := cs.takeWhile Char.isDigit
  if 9 < digits.length then none
  else (Digits.number? 10 digits).map fun n => (n, cs.dropWhile Char.isDigit)

/-- The version after the name of its directive, and what follows it. -/
def readVersion (cs : List Char) : Option (Token × List Char) := do
  let (major, rest) ← readVersionNumber (cs.dropWhile isSpace)
  match rest with
  | '.' :: rest =>
    let (minor, rest) ← readVersionNumber rest
    return (.version major minor, rest)
  | _ => none

/-- The handle and the start of a tag after the name of their directive, and what follows them. -/
def readHandle (cs : List Char) : Option (Token × List Char) := do
  match cs.dropWhile isSpace with
  | '!' :: rest =>
    let word := rest.takeWhile isWordChar
    let after := rest.dropWhile isWordChar
    let closed := after.head? = some '!'
    let rest := if closed then after.tail else after
    if !closed && !word.isEmpty then none
    else if !rest.head?.any isSpace then none
    else
      let (start, rest) ← readSuffix true (rest.dropWhile isSpace)
      if startsWithGap rest then
        return (.handle (String.ofList ('!' :: word ++ (if closed then ['!'] else []))) start, rest)
      else none
  | _ => none

/-- The directive after the percent sign that starts it, and the next line. -/
def readDirective (cs : List Char) : Option (Token × List Char) := do
  let name := String.ofList (cs.takeWhile isWordChar)
  let rest := cs.dropWhile isWordChar
  let (token, rest) ←
    if !startsWithGap rest then none
    else if name = "YAML" then readVersion rest
    else if name = "TAG" then readHandle rest
    else none
  let rest ← endOfLine? rest
  return (token, dropBreak rest)

/-- The name of an anchor or an alias after the sign that starts it, and what follows it. -/
def readName (cs : List Char) : Option (String × List Char) :=
  let word := cs.takeWhile isWordChar
  let rest := cs.dropWhile isWordChar
  if word.isEmpty then none
  else if startsWithGap rest ||
      rest.head?.any ['?', ':', ',', ']', '}', '%', '@', '\x60'].contains then
    some (String.ofList word, rest)
  else none

end Autostart.Yaml
