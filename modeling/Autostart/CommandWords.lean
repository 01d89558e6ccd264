import Autostart.Text.Chars

/-!
# Words of a command line

A command line is split into words as a shell does it, without expanding anything. Spaces, tabs and
line feeds separate words. Single quotes keep everything, double quotes let a backslash escape a
double quote, a backslash, a dollar sign, a back-tick or a line feed, a backslash outside quotes
escapes the next character, and a number sign where a word could start begins a comment up to the
end of the line. An escaped line feed is removed.
-/

namespace Autostart.CommandWords

/-- What can be wrong with a command line. -/
inductive Fault where
  /-- A single quote that is not closed. -/
  | openSingleQuote
  /-- A double quote that is not closed. -/
  | openDoubleQuote
  /-- A backslash at the end. -/
  | trailingBackslash
  /-- No word. -/
  | noWord
deriving DecidableEq, Repr

/-- The text that reports a fault. -/
def Fault.message : Fault → String
  | openSingleQuote => "unterminated single quote"
  | openDoubleQuote => "unterminated double quote"
  | trailingBackslash => "trailing backslash"
  | noWord => "command line is empty"

/-- Where in a command line a character stands. -/
inductive Mode where
  /-- Outside quotes and comments. -/
  | bare
  /-- Inside single quotes. -/
  | single
  /-- Inside double quotes. -/
  | double
  /-- Inside a comment. -/
  | comment
deriving DecidableEq, Repr

/-- Whether a character separates words. -/
def isSeparator (c : Char) : Bool :=
  c = ' ' || c = '\t' || c = '\n'

/-- Whether a backslash inside double quotes escapes a character. -/
def isEscapable (c : Char) : Bool :=
  c = '"' || c = '\\' || c = '$' || c = '\x60'

/-- The word with more characters. -/
def extend (word : Option (List Char)) (cs : List Char) : Option (List Char) :=
  some (word.getD [] ++ cs)

/-- The words of the rest of a command line, when `word` is the part of a word that was read. -/
def scan : Mode → Option (List Char) → List Char → Except Fault (List (List Char))
  | .bare, word, [] => .ok word.toList
  | .bare, word, '\\' :: rest =>
    match rest with
    | [] => .error .trailingBackslash
    | '\n' :: rest => scan .bare word rest
    | c :: rest => scan .bare (extend word [c]) rest
  | .bare, word, c :: rest =>
    if isSeparator c then (scan .bare none rest).map (word.toList ++ ·)
    else if c = '#' ∧ word = none then scan .comment none rest
    else if c = '\'' then scan .single (extend word []) rest
    else if c = '"' then scan .double (extend word []) rest
    else scan .bare (extend word [c]) rest
  | .single, _, [] => .error .openSingleQuote
  | .single, word, c :: rest =>
    if c = '\'' then scan .bare word rest else scan .single (extend word [c]) rest
  | .double, _, [] => .error .openDoubleQuote
  | .double, word, '\\' :: rest =>
    match rest with
    | [] => .error .openDoubleQuote
    | '\n' :: rest => scan .double word rest
    | c :: rest => scan .double (extend word (if isEscapable c then [c] else ['\\', c])) rest
  | .double, word, c :: rest =>
    if c = '"' then scan .bare word rest else scan .double (extend word [c]) rest
  | .comment, _, [] => .ok []
  | .comment, word, c :: rest =>
    if c = '\n' then scan .bare word rest else scan .comment word rest

/-- The words of a command line, of which there must be one. -/
def split (command : String) : Except Fault (List String) :=
  match scan .bare none command.toList with
  | .error fault => .error fault
  | .ok [] => .error .noWord
  | .ok words => .ok (words.map String.ofList)

end Autostart.CommandWords
