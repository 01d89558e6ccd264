/-!
# Places in a YAML text

The classes of characters that every rule of YAML refers to, and places, which know what follows
them, their line and their column. A line ends at a line feed, at a carriage return, at both in this
order, or at one of the three line separators beyond ASCII.
-/

namespace Autostart.Yaml

/-- Whether a character is a space or a tab. -/
def isSpace (c : Char) : Bool :=
  c = ' ' || c = '\t'

/-- Whether a character is a line or paragraph separator, the breaks that a scalar keeps as they
are. -/
def isSeparator (c : Char) : Bool :=
  c.toNat = 0x2028 || c.toNat = 0x2029

/-- Whether a character ends a line. -/
def isBreak (c : Char) : Bool :=
  c = '\n' || c = '\r' || c.toNat = 0x85 || isSeparator c

/-- Whether a character is a space, a tab or the end of a line. -/
def isGap (c : Char) : Bool :=
  isSpace c || isBreak c

/-- Whether a character may stand in the name of an anchor, a directive or a handle. -/
def isWordChar (c : Char) : Bool :=
  c.isAlphanum || c = '-' || c = '_'

/-- Whether a text starts with a gap or is empty. -/
def startsWithGap : List Char → Bool
  | [] => true
  | c :: _ => isGap c

/-- Whether a text starts with the end of a line or is empty. -/
def startsWithBreak : List Char → Bool
  | [] => true
  | c :: _ => isBreak c

/-- Whether a text at the start of a line is the mark of a document's start or end. -/
def startsWithMark : List Char → Bool
  | '-' :: '-' :: '-' :: rest => startsWithGap rest
  | '.' :: '.' :: '.' :: rest => startsWithGap rest
  | _ => false

/-- Whether a character ends a line together with what follows it. A carriage return before a line
feed leaves that to the line feed. -/
def breaksBefore (c : Char) (rest : List Char) : Bool :=
  isBreak c && !(c = '\r' && rest.head? = some '\n')

/-- The line breaks of a text, as a scalar keeps them. -/
def breaksOf : List Char → List Char
  | [] => []
  | c :: rest =>
    if breaksBefore c rest then (if isSeparator c then c else '\n') :: breaksOf rest
    else breaksOf rest

/-- The text after the line break that it starts with, if it starts with one. -/
def dropBreak : List Char → List Char
  | '\r' :: '\n' :: rest => rest
  | c :: rest => if isBreak c then rest else c :: rest
  | [] => []

/-- The rest of a line. -/
def lineOf (cs : List Char) : List Char :=
  cs.takeWhile fun c => !isBreak c

/-- What follows the rest of a line, from its break on. -/
def afterLine (cs : List Char) : List Char :=
  cs.dropWhile fun c => !isBreak c

/-- What follows blanks and a comment, if the line ends there. -/
def endOfLine? (cs : List Char) : Option (List Char) :=
  let rest := cs.dropWhile isSpace
  if rest.head? = some '#' then some (afterLine rest)
  else if startsWithBreak rest then some rest
  else none

/-- A place in a text. -/
structure Place where
  /-- What follows. -/
  rest : List Char
  /-- The number of characters before it. -/
  index : Nat
  /-- The number of lines before it. -/
  line : Nat
  /-- The number of characters before it on its line. -/
  column : Nat
deriving Repr

namespace Place

/-- The place behind the next character. -/
def step (p : Place) : Place :=
  match p.rest with
  | [] => p
  | c :: rest =>
    if breaksBefore c rest then ⟨rest, p.index + 1, p.line + 1, 0⟩
    else ⟨rest, p.index + 1, p.line, p.column + 1⟩

/-- The place a number of characters further on. -/
def advance : Nat → Place → Place
  | 0, p => p
  | n + 1, p => advance n p.step

/-- The place at which a text follows, which must be an end of what follows here. -/
def upTo (rest : List Char) (p : Place) : Place :=
  p.advance (p.rest.length - rest.length)

end Place

/-- The mark of the byte order. -/
def byteOrderMark : Char :=
  Char.ofNat 0xFEFF

/-- The place of the next token, and whether a key may start there. Blanks, comments and line breaks
lie between, and a byte order mark at the start of a line. Outside brackets a key may start on every
new line, and where one may start a tab is no blank. -/
def skipGap (inFlow : Bool) : Bool → Bool → Place → List Char → Bool × Place
  | _, keyAllowed, p, [] => (keyAllowed, p)
  | inComment, keyAllowed, p, c :: rest =>
    if isBreak c then skipGap inFlow false (keyAllowed || !inFlow) p.step rest
    else if inComment then skipGap inFlow true keyAllowed p.step rest
    else if c = ' ' || (c = '\t' && (inFlow || !keyAllowed)) ||
        (c = byteOrderMark && p.column = 0) then skipGap inFlow false keyAllowed p.step rest
    else if c = '#' then skipGap inFlow true keyAllowed p.step rest
    else (keyAllowed, p)

end Autostart.Yaml
