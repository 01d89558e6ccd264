/-!
# Texts as lists of characters

The cutting of texts that every reader of this library shares: trimming blanks, splitting at a
separator and splitting into lines. A `String` is cut through its list of characters, so that each
function is a recursion on the data. White space is the Unicode property `White_Space`, which holds
the no-break space and the line separators and leaves out the byte order mark.
-/

namespace Autostart

namespace Chars

/-- A character is blank when it has the Unicode property `White_Space`. -/
def isBlank (c : Char) : Bool :=
  let n := c.toNat
  (9 ≤ n && n ≤ 13) || n == 0x20 || n == 0x85 || n == 0xA0 || n == 0x1680 ||
    (0x2000 ≤ n && n ≤ 0x200A) || n == 0x2028 || n == 0x2029 || n == 0x202F || n == 0x205F ||
    n == 0x3000

/-- The text without its leading blanks. -/
def trimStart (cs : List Char) : List Char :=
  cs.dropWhile isBlank

/-- The text without its trailing blanks. -/
def trimEnd (cs : List Char) : List Char :=
  (cs.reverse.dropWhile isBlank).reverse

/-- The text without its leading and trailing blanks. -/
def trim (cs : List Char) : List Char :=
  trimEnd (trimStart cs)

/-- The parts before and after the first `sep`, and nothing when there is none. -/
def splitFirst (sep : Char) : List Char → Option (List Char × List Char)
  | [] => none
  | c :: rest =>
    if c = sep then some ([], rest)
    else (splitFirst sep rest).map fun (before, after) => (c :: before, after)

/-- The pieces between the occurrences of `sep`, one more than there are occurrences. -/
def splitAll (sep : Char) : List Char → List (List Char)
  | [] => [[]]
  | c :: rest =>
    if c = sep then [] :: splitAll sep rest
    else
      match splitAll sep rest with
      | [] => [[c]]
      | piece :: pieces => (c :: piece) :: pieces

/-- A line without the carriage return at its end, if it has one. -/
def dropReturn (line : List Char) : List Char :=
  if line.getLast? = some '\r' then line.dropLast else line

/-- The lines of a text, given its pieces between line feeds. Only a line that ends in a line feed
loses a carriage return, and an empty last piece is no line. -/
def linesOfPieces : List (List Char) → List (List Char)
  | [] => []
  | [last] => if last.isEmpty then [] else [last]
  | piece :: next :: rest => dropReturn piece :: linesOfPieces (next :: rest)

/-- The lines of a text, without their ends. -/
def lines (cs : List Char) : List (List Char) :=
  linesOfPieces (splitAll '\n' cs)

/-- The text without the given end, and nothing when it ends otherwise. -/
def stripSuffix? (suffix cs : List Char) : Option (List Char) :=
  if suffix.isSuffixOf cs then some (cs.take (cs.length - suffix.length)) else none

/-- Whether `part` stands somewhere in a text. -/
def hasPart (part : List Char) : List Char → Bool
  | [] => part.isEmpty
  | c :: rest => part.isPrefixOf (c :: rest) || hasPart part rest

end Chars

namespace Text

/-- The text without its leading and trailing blanks. -/
def trim (s : String) : String :=
  String.ofList (Chars.trim s.toList)

/-- The text without its leading blanks. -/
def trimStart (s : String) : String :=
  String.ofList (Chars.trimStart s.toList)

/-- The text without its trailing blanks. -/
def trimEnd (s : String) : String :=
  String.ofList (Chars.trimEnd s.toList)

/-- A text is blank when every character of it is. -/
def isBlank (s : String) : Bool :=
  s.toList.all Chars.isBlank

/-- The parts before and after the first `sep`. -/
def splitFirst? (sep : Char) (s : String) : Option (String × String) :=
  (Chars.splitFirst sep s.toList).map fun (before, after) =>
    (String.ofList before, String.ofList after)

/-- The pieces between the occurrences of `sep`. -/
def splitAll (sep : Char) (s : String) : List String :=
  (Chars.splitAll sep s.toList).map String.ofList

/-- The lines of a text, without their ends. -/
def lines (s : String) : List String :=
  (Chars.lines s.toList).map String.ofList

/-- The text without the given end, and nothing when it ends otherwise. -/
def stripSuffix? (suffix s : String) : Option String :=
  (Chars.stripSuffix? suffix.toList s.toList).map String.ofList

/-- A text is missing when it is absent or blank. -/
def isMissing (text : Option String) : Bool :=
  text.all isBlank

/-- Two texts agree when they are the same, where an absent one counts as empty. -/
def agree (a b : Option String) : Bool :=
  a.getD "" == b.getD ""

end Text

end Autostart
