/-!
# Numbers as digits

Reading the number that digits of a base up to 16 write. There must be a digit, each digit must be
below the base, and nothing else may stand among them.
-/

namespace Autostart.Digits

/-- The value of a digit. Letters of either case stand for the values from 10 on. -/
def digit? (c : Char) : Option Nat :=
  if '0' ≤ c && c ≤ '9' then some (c.toNat - '0'.toNat)
  else if 'a' ≤ c && c ≤ 'f' then some (c.toNat - 'a'.toNat + 10)
  else if 'A' ≤ c && c ≤ 'F' then some (c.toNat - 'A'.toNat + 10)
  else none

/-- The number that digits of a base write after digits that write `n`. -/
def numberAfter? (base n : Nat) : List Char → Option Nat
  | [] => some n
  | c :: rest =>
    match digit? c with
    | some d => if d < base then numberAfter? base (base * n + d) rest else none
    | none => none

/-- The number that digits of a base write. -/
def number? (base : Nat) : List Char → Option Nat
  | [] => none
  | cs => numberAfter? base 0 cs

/-- The integer that decimal digits write, perhaps after a sign. -/
def integer? : List Char → Option Int
  | '+' :: digits => (number? 10 digits).map Int.ofNat
  | '-' :: digits => (number? 10 digits).map fun n => -Int.ofNat n
  | digits => (number? 10 digits).map Int.ofNat

end Autostart.Digits
