import Autostart.Text.Composition
import Autostart.Text.Utf8
import Autostart.Url.DomainTable
import Autostart.Url.LabelTable
import Autostart.Url.Punycode

/-!
# Domain names

The name that a spelling of a domain name stands for. Its characters are mapped, so that case and
width do not count, and composed. Then each of its labels is checked: a label that starts with
`xn--` stands for the text that the rest of it spells, and no label starts with a mark or has a
character that its neighbours do not call for. A domain name with characters that are written from
right to left has labels of one direction each.
-/

namespace Autostart.Url

/-- Whether a character must not stand in a host of any kind. -/
def isForbiddenInHost (c : Char) : Bool :=
  ['\x00', '\t', '\n', '\r', ' ', '#', '/', ':', '<', '>', '?', '@', '[', '\\', ']', '^',
    '|'].contains c

/-- Whether a character must not stand in a domain name. -/
def isForbiddenInDomain (c : Char) : Bool :=
  isForbiddenInHost c || c.toNat < 0x20 || c = '%' || c.toNat = 0x7F

/-- Whether a character is one of ASCII. -/
def isAscii (c : Char) : Bool :=
  c.toNat < 0x80

namespace Domain

/-- What a character of a domain name is mapped to, if it may stand there. A range of characters
that are mapped to one character each has the first of those as its value. -/
def mapChar (c : Char) : Option (List Char) :=
  if isAscii c then some [c.toLower]
  else if DomainTable.ignored.holds c then some []
  else if DomainTable.disallowed.holds c then none
  else
    match DomainTable.mapped.find? c with
    | none => some [c]
    | some r =>
      match r.values with
      | [first] => some [Char.ofNat (first + (c.toNat - r.first))]
      | values => some (values.map Char.ofNat)

/-- Whether a character may stand in a label for itself. -/
def isValid (c : Char) : Bool :=
  mapChar c = some [c] && !isForbiddenInDomain c

/-- The composed form of a domain name with its characters mapped. -/
def normalize (cs : List Char) : Option (List Char) :=
  (cs.mapM mapChar).map fun parts => Text.compose parts.flatten

/-- The longest text that a label may spell its name with. -/
def maxSpelling : Nat := 2000

/-- The longest label with characters beyond ASCII. -/
def maxLabel : Nat := 1000

/-- The label that a spelling behind `xn--` stands for: a normal one, with characters beyond
ASCII. -/
def spelledLabel? (code : List Char) : Option (List Char) :=
  if code.isEmpty || code.getLast? = some '-' || !code.all isAscii || maxSpelling < code.length then
    none
  else
    match Punycode.decode? code with
    | none => none
    | some label => if label.all isValid && Text.compose label = label then some label else none

/-- The label that a part of a normalized domain name stands for. -/
def label? : List Char → Option (List Char)
  | 'x' :: 'n' :: '-' :: '-' :: code => spelledLabel? code
  | cs => some cs

/-! ## Joiners -/

/-- Whether a character leaves the joining of its neighbours alone. -/
def isTransparent (c : Char) : Bool :=
  LabelTable.transparent.holds c

/-- Whether a character joins the one behind it. -/
def joinsNext (c : Char) : Bool :=
  LabelTable.joinsNext.holds c || LabelTable.joinsBoth.holds c

/-- Whether a character joins the one before it. -/
def joinsPrevious (c : Char) : Bool :=
  LabelTable.joinsPrevious.holds c || LabelTable.joinsBoth.holds c

/-- Whether a character may stand between the characters before it, in reverse order, and those
behind it. A joiner stands behind a virama, and one that keeps letters apart also between two
letters that would join. -/
def isJoinerAllowed (before : List Char) (c : Char) (after : List Char) : Bool :=
  let behindVirama := before.head?.any fun d => Text.markClass d = 9
  if c.toNat = 0x200D then behindVirama
  else if c.toNat = 0x200C then
    behindVirama || (before.find? fun d => !isTransparent d).any joinsNext &&
      (after.find? fun d => !isTransparent d).any joinsPrevious
  else true

/-- Whether all joiners of a label are allowed, given the characters before them in reverse
order. -/
def areJoinersAllowed (before : List Char) : List Char → Bool
  | [] => true
  | c :: after => isJoinerAllowed before c after && areJoinersAllowed (c :: before) after

/-! ## Directions -/

/-- The direction of a character. -/
inductive Direction where
  /-- Written from left to right. -/
  | leftToRight
  /-- Written from right to left. -/
  | rightToLeft
  /-- A digit that is written as a number among characters from right to left. -/
  | arabicNumber
  /-- A digit of the other kind. -/
  | europeanNumber
  /-- Without a direction. -/
  | neutral
  /-- A mark, with the direction of the character before it. -/
  | nonspacing
deriving DecidableEq, Repr

/-- The direction of a character. -/
def Direction.of (c : Char) : Direction :=
  if isAscii c then
    if c.isAlpha then .leftToRight else if c.isDigit then .europeanNumber else .neutral
  else if LabelTable.rightToLeft.holds c then .rightToLeft
  else if LabelTable.arabicNumbers.holds c then .arabicNumber
  else if LabelTable.europeanNumbers.holds c then .europeanNumber
  else if LabelTable.nonspacing.holds c then .nonspacing
  else if LabelTable.neutral.holds c then .neutral
  else .leftToRight

/-- Whether characters with these directions make a label of one direction. The first character
tells it. The label has only characters that go with it, ends in a character of its direction or a
number, apart from marks behind that, and has not numbers of both kinds if it is written from right
to left. -/
def isOneWay (ds : List Direction) : Bool :=
  let isWithin (allowed ends : List Direction) : Bool :=
    ds.all allowed.contains && (ds.reverse.find? (· ≠ .nonspacing)).any ends.contains
  match ds.head? with
  | none => true
  | some .leftToRight =>
    isWithin [.leftToRight, .europeanNumber, .neutral, .nonspacing] [.leftToRight, .europeanNumber]
  | some .rightToLeft =>
    isWithin [.rightToLeft, .arabicNumber, .europeanNumber, .neutral, .nonspacing]
        [.rightToLeft, .arabicNumber, .europeanNumber] &&
      !(ds.contains .arabicNumber && ds.contains .europeanNumber)
  | some _ => false

/-- Whether a direction makes the labels of a domain name keep to one direction each. -/
def Direction.isRightward (d : Direction) : Bool :=
  d = .rightToLeft || d = .arabicNumber

/-- Whether each label keeps to one direction, if a character from right to left asks for that. -/
def areOneWay (labels : List (List Char)) : Bool :=
  let directions := labels.map fun label => label.map Direction.of
  !(directions.any fun ds => ds.any Direction.isRightward) || directions.all isOneWay

/-! ## Names -/

/-- Whether a label may be part of a domain name. -/
def isLabel (cs : List Char) : Bool :=
  !(cs.head?.any LabelTable.marks.holds) && areJoinersAllowed [] cs &&
    (cs.all isAscii || cs.length ≤ maxLabel)

/-- The name that a spelling of a domain name stands for, if it is one. -/
def name? (cs : List Char) : Option (List Char) :=
  match normalize cs with
  | none => none
  | some cs =>
    if cs.any isForbiddenInDomain then none
    else
      match (Chars.splitAll '.' cs).mapM label? with
      | none => none
      | some labels =>
        if labels.all isLabel && areOneWay labels then some (['.'].intercalate labels) else none

end Domain

end Autostart.Url
