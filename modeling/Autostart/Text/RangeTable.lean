import Autostart.Text.Chars
import Autostart.Text.Digits

/-!
# Tables of characters

Data about ranges of characters, written as a text with one word for each range. All numbers are
hexadecimal. A word is a code point, or the first and the last one of a range with a hyphen between
them, and after a slash the distance from one to the next if that is not 1; behind a colon follow
the values of the range with commas between them.
-/

namespace Autostart

/-- A range of code points with values. -/
structure CodeRange where
  /-- The first code point. -/
  first : Nat
  /-- The last code point. -/
  last : Nat
  /-- The distance from one code point to the next. -/
  stride : Nat
  /-- The values of the first code point. -/
  values : List Nat
deriving DecidableEq, Repr

namespace CodeRange

/-- Whether a range holds a code point. -/
def holds (r : CodeRange) (n : Nat) : Bool :=
  r.first ≤ n && n ≤ r.last && (n - r.first) % r.stride = 0

/-- The text before a sign, and the text behind it, if the sign is there. -/
def cut (sign : Char) (cs : List Char) : List Char × Option (List Char) :=
  match Chars.splitFirst sign cs with
  | some (before, after) => (before, some after)
  | none => (cs, none)

/-- The range that a word writes. -/
def ofWord? (cs : List Char) : Option CodeRange := do
  let (key, values?) := cut ':' cs
  let (bounds, stride?) := cut '/' key
  let (first, last?) := cut '-' bounds
  return {
    first := ← Digits.number? 16 first
    last := ← Digits.number? 16 (last?.getD first)
    stride := ← Digits.number? 16 (stride?.getD ['1'])
    values := ← match values? with
      | none => some []
      | some text => (Chars.splitAll ',' text).mapM (Digits.number? 16) }

end CodeRange

/-- Ranges of code points with values. -/
abbrev RangeTable := List CodeRange

namespace RangeTable

/-- The table that a text writes. -/
def ofText (s : String) : RangeTable :=
  let spaced := s.toList.map fun c => if c = '\n' then ' ' else c
  (Chars.splitAll ' ' spaced).filterMap CodeRange.ofWord?

/-- The range that holds a character. -/
def find? (t : RangeTable) (c : Char) : Option CodeRange :=
  List.find? (fun r : CodeRange => r.holds c.toNat) t

/-- Whether a range holds a character. -/
def holds (t : RangeTable) (c : Char) : Bool :=
  (t.find? c).isSome

end RangeTable

end Autostart
