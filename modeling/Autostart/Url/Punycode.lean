/-!
# Punycode

The spelling of a text with the letters, digits and hyphens of ASCII. The ASCII characters of the
text come first, with a hyphen behind them. Then a number for each other character, in ascending
order, tells how many insertions of a character at a place are skipped before the one that is made.
The digits of a number have growing weights, and each tells by a threshold whether it is the last
one; the thresholds adapt to the numbers before.
-/

namespace Autostart.Url.Punycode

/-- The value of a digit: the letters count from 0, and the digits go on from there. -/
def digit? (c : Char) : Option Nat :=
  if 'a' ≤ c && c ≤ 'z' then some (c.toNat - 'a'.toNat)
  else if 'A' ≤ c && c ≤ 'Z' then some (c.toNat - 'A'.toNat)
  else if '0' ≤ c && c ≤ '9' then some (c.toNat - '0'.toNat + 26)
  else none

/-- The number of digits. -/
def base : Nat := 36

/-- The threshold of a digit, given its position times the base. -/
def threshold (position bias : Nat) : Nat :=
  if position ≤ bias then 1 else if bias + 26 ≤ position then 26 else position - bias

/-- The greatest number that is read. -/
def maxNumber : Nat := 4294967295

/-- The number at the start of a text, added to `sum`, and what follows it. -/
def readNumber (bias : Nat) : Nat → Nat → Nat → List Char → Option (Nat × List Char)
  | _, _, _, [] => none
  | position, weight, sum, c :: rest =>
    match digit? c with
    | none => none
    | some d =>
      let sum := sum + d * weight
      let t := threshold position bias
      if maxNumber < sum then none
      else if d < t then some (sum, rest)
      else if maxNumber < weight * (base - t) then none
      else readNumber bias (position + base) (weight * (base - t)) sum rest

/-- What is left of a difference after divisions down to 455, and the bias that they add. The number
bounds the divisions. -/
def shrink : Nat → Nat → Nat × Nat
  | 0, delta => (delta, 0)
  | steps + 1, delta =>
    if 455 < delta then
      let (delta, bias) := shrink steps (delta / 35)
      (delta, bias + base)
    else (delta, 0)

/-- The bias after a difference in a text that then has `length` characters. -/
def adapt (delta length : Nat) (isFirst : Bool) : Nat :=
  let delta := if isFirst then delta / 700 else delta / 2
  let (delta, bias) := shrink 32 (delta + delta / length)
  bias + base * delta / (delta + 38)

/-- The text after the insertions that a text spells, given the last character that was inserted and
the place behind it. The number bounds the insertions. -/
def insertAll : Nat → Nat → Nat → Nat → List Char → List Char → Option (List Char)
  | _, _, _, _, text, [] => some text
  | 0, _, _, _, _, _ => none
  | steps + 1, bias, code, place, text, cs =>
    match readNumber bias base 1 place cs with
    | none => none
    | some (sum, rest) =>
      let length := text.length + 1
      let code := code + sum / length
      let next := sum % length
      if code < 0xD800 || (0xDFFF < code && code < 0x110000) then
        insertAll steps (adapt (sum - place) length (place = 0)) code (next + 1)
          (text.take next ++ Char.ofNat code :: text.drop next) rest
      else none

/-- The text that a text spells. -/
def decode? (cs : List Char) : Option (List Char) :=
  let numbers := (cs.reverse.takeWhile (· ≠ '-')).reverse
  let text := cs.take (cs.length - numbers.length)
  if text = ['-'] then none else insertAll numbers.length 72 0x80 0 text.dropLast numbers

end Autostart.Url.Punycode
