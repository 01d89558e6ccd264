import Autostart.Text.Chars

/-!
# Escaped values

The values of a key file are written on one line. Line feeds, tabs, carriage returns, backslashes
and a leading space are escaped with a backslash, and an escape that has no meaning stands for
itself. A list is written with a semicolon after each item, and a semicolon inside an item has a
backslash before it.
-/

namespace Autostart.Document

/-- How a character is written in a value, wherever it stands. -/
def escapeChar : Char → List Char
  | '\\' => ['\\', '\\']
  | '\n' => ['\\', 'n']
  | '\t' => ['\\', 't']
  | '\r' => ['\\', 'r']
  | c => [c]

/-- How a value is written: a space at its start is escaped too. -/
def escapeChars : List Char → List Char
  | ' ' :: rest => '\\' :: 's' :: rest.flatMap escapeChar
  | cs => cs.flatMap escapeChar

/-- What a backslash and the character after it stand for. -/
def unescapeChar : Char → List Char
  | 's' => [' ']
  | 'n' => ['\n']
  | 't' => ['\t']
  | 'r' => ['\r']
  | '\\' => ['\\']
  | c => ['\\', c]

/-- The value that is written this way. A backslash at the end stands for itself. -/
def unescapeChars : List Char → List Char
  | [] => []
  | '\\' :: c :: rest => unescapeChar c ++ unescapeChars rest
  | c :: rest => c :: unescapeChars rest

/-- The items of a written list, still escaped, after the part `item` of the first one. Only what
follows the last semicolon may be no item, when it is empty. -/
def itemsAfter (item : List Char) : List Char → List (List Char)
  | [] => if item.isEmpty then [] else [item]
  | '\\' :: ';' :: rest => itemsAfter (item ++ [';']) rest
  | '\\' :: c :: rest => itemsAfter (item ++ ['\\', c]) rest
  | ';' :: rest => item :: itemsAfter [] rest
  | c :: rest => itemsAfter (item ++ [c]) rest

/-- How a value is written. -/
def escape (value : String) : String :=
  String.ofList (escapeChars value.toList)

/-- The value that is written this way. -/
def unescape (raw : String) : String :=
  String.ofList (unescapeChars raw.toList)

/-- The items of the list that is written this way. -/
def items (raw : String) : List String :=
  (itemsAfter [] raw.toList).map fun item => String.ofList (unescapeChars item)

end Autostart.Document
