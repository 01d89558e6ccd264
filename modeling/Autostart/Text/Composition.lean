import Autostart.Text.CompositionTable

/-!
# Composed characters

The composed normal form of a text: every character is taken apart, the marks behind a base are put
into the order of their classes, and each mark that nothing holds off goes back into its base where
a character for both exists. Marks of one class keep their order, since it shows. The syllables of
Hangul, which the tables leave out, are taken apart and composed by arithmetic.
-/

namespace Autostart.Text

/-- The class of a mark, and 0 for a base. -/
def markClass (c : Char) : Nat :=
  match CompositionTable.classes.find? c with
  | some r => r.values.headD 0
  | none => 0

/-- The parts of a composed character. -/
def parts? (c : Char) : Option (Char × Char) :=
  match CompositionTable.compositions.find? c with
  | some r =>
    match r.values with
    | [a, b] => some (Char.ofNat a, Char.ofNat b)
    | _ => none
  | none => none

/-- The character that two characters compose, by the table. -/
def composed? (a b : Char) : Option Char :=
  let isOf (r : CodeRange) : Bool := r.values == [a.toNat, b.toNat]
  (List.find? isOf CompositionTable.compositions).map fun r => Char.ofNat r.first

/-- The first Hangul syllable. -/
def syllables : Nat := 0xAC00

/-- The first of the 19 leading consonants. -/
def leads : Nat := 0x1100

/-- The first of the 21 vowels. -/
def vowels : Nat := 0x1161

/-- The place before the first of the 27 trailing consonants. -/
def trails : Nat := 0x11A7

/-- The parts of a Hangul syllable. -/
def syllableParts? (c : Char) : Option (List Char) :=
  let n := c.toNat - syllables
  if c.toNat < syllables || 11172 ≤ n then none
  else
    let lead := Char.ofNat (leads + n / 588)
    let vowel := Char.ofNat (vowels + n % 588 / 28)
    some (if n % 28 = 0 then [lead, vowel] else [lead, vowel, Char.ofNat (trails + n % 28)])

/-- The Hangul syllable that two characters compose: a lead and a vowel, or a syllable that ends in
its vowel and a trail. -/
def composedSyllable? (a b : Char) : Option Char :=
  let (a, b) := (a.toNat, b.toNat)
  if leads ≤ a && a < leads + 19 && vowels ≤ b && b < vowels + 21 then
    some (Char.ofNat (syllables + ((a - leads) * 21 + (b - vowels)) * 28))
  else if syllables ≤ a && a < syllables + 11172 && (a - syllables) % 28 = 0 &&
      trails < b && b < trails + 28 then some (Char.ofNat (a + (b - trails)))
  else none

/-- The parts of a character that has no further parts. The number bounds the steps; no character
needs more than three. -/
def takeApart : Nat → Char → List Char
  | 0, c => [c]
  | steps + 1, c =>
    match syllableParts? c, parts? c with
    | some parts, _ => parts
    | none, some (a, b) => takeApart steps a ++ [b]
    | none, none => [c]

/-- The text with a character before it, which goes behind the marks of a smaller class. -/
def insertMark (c : Char) : List Char → List Char
  | [] => [c]
  | d :: rest =>
    if markClass d ≠ 0 && markClass d < markClass c then d :: insertMark c rest else c :: d :: rest

/-- The text with the marks behind each base in the order of their classes. -/
def sortMarks : List Char → List Char
  | [] => []
  | c :: rest => insertMark c (sortMarks rest)

/-- The character that a base and a later character compose. -/
def compose? (a b : Char) : Option Char :=
  composedSyllable? a b <|> composed? a b

/-- The composed form of a base, the marks behind it, which cannot be composed with it, and what
follows. A mark of the class of the one before it is held off, and so is a base behind a mark. -/
def composeAfter (base : Char) (marks : List Char) : List Char → List Char
  | [] => base :: marks
  | c :: rest =>
    let free := match marks.getLast? with
      | none => true
      | some mark => markClass mark < markClass c
    match if free then compose? base c else none with
    | some composed => composeAfter composed marks rest
    | none =>
      if markClass c = 0 then base :: marks ++ composeAfter c [] rest
      else composeAfter base (marks ++ [c]) rest

/-- The composed form of a text. The marks before its first base stay. -/
def composeMarks (cs : List Char) : List Char :=
  match cs.dropWhile fun c => markClass c ≠ 0 with
  | [] => cs
  | base :: rest => cs.takeWhile (fun c => markClass c ≠ 0) ++ composeAfter base [] rest

/-- The composed normal form of a text. -/
def compose (cs : List Char) : List Char :=
  composeMarks (sortMarks (cs.flatMap (takeApart 3)))

end Autostart.Text
