import Autostart.Text.Digits
import Autostart.Yaml.Place

/-!
# Scalars of YAML

The ways in which a scalar is written: plain, in single or double quotes, and as a block of lines
that is kept or folded. Where lines are folded one line break is a space, and of more breaks all but
the first are kept; the line and paragraph separators are always kept.

A plain scalar ends at a colon before a gap, at a number sign after one, and inside brackets at a
comma or a bracket. A block ends at the first line that is indented less than its first line.
-/

namespace Autostart.Yaml

/-- How a scalar is written. -/
inductive Style where
  /-- Without quotes. -/
  | plain
  /-- In quotes. -/
  | quoted
  /-- As lines that are kept. -/
  | literal
  /-- As lines that are folded. -/
  | folded
deriving DecidableEq, Repr

/-- A scalar. -/
structure Scalar where
  /-- Its text. -/
  text : String
  /-- How it is written. -/
  style : Style
deriving DecidableEq, Repr

/-- What a gap inside a scalar stands for. -/
def foldGap (gap : List Char) : List Char :=
  match breaksOf gap with
  | [] => gap
  | first :: more =>
    if first ≠ '\n' then first :: more else if more.isEmpty then [' '] else more

/-- The part of a gap after its last line break. -/
def lastLine (gap : List Char) : List Char :=
  (lineOf gap.reverse).reverse

/-- Whether a gap leads to the mark of a document. -/
def leadsToMark (gap after : List Char) : Bool :=
  gap.any isBreak && (lastLine gap).isEmpty && startsWithMark after

/-- The signs that have a meaning inside brackets. -/
def flowSigns : List Char :=
  [',', '[', ']', '{', '}']

/-- The characters that never start a plain scalar. -/
def indicators : List Char :=
  [',', '[', ']', '{', '}', '#', '&', '*', '!', '|', '>', '\'', '"', '%', '@', '\x60']

/-- Whether a text can start a plain scalar. -/
def canStartPlain (inFlow : Bool) : List Char → Bool
  | [] => false
  | c :: rest =>
    if c = '-' then !startsWithGap rest
    else if c = '?' || c = ':' then !inFlow && !startsWithGap rest
    else !isGap c && !indicators.contains c

/-- The part of a plain scalar up to the next gap, and what follows it. Inside brackets a colon
before a sign is wrong. -/
def plainRun (inFlow : Bool) : List Char → Option (List Char × List Char)
  | [] => some ([], [])
  | c :: rest =>
    if isGap c || (c = ':' && startsWithGap rest) || (inFlow && flowSigns.contains c) then
      some ([], c :: rest)
    else if inFlow && c = ':' && rest.head?.any ('?' :: flowSigns).contains then none
    else (plainRun inFlow rest).map fun (run, rest) => (c :: run, rest)

/-- Whether a line of a gap has a tab before column `least`, given the column of its start. -/
def hasTabBefore (least : Nat) : Nat → List Char → Bool
  | _, [] => false
  | column, c :: rest =>
    if isBreak c then hasTabBefore least 0 rest
    else (c = '\t' && column < least) || hasTabBefore least (column + 1) rest

/-- Whether a line of a gap after the first has a tab before column `least`. -/
def hasEarlyTab (least : Nat) (gap : List Char) : Bool :=
  hasTabBefore least 0 (dropBreak (afterLine gap))

/-- The rest of a plain scalar, whose next lines start at column `least` or later outside brackets:
the text, whether a line break follows it, and what follows after the gap. The number bounds the
steps. -/
def plainAfter (inFlow : Bool) (least : Nat) :
    Nat → List Char → List Char → Option (List Char × Bool × List Char)
  | 0, text, rest => some (text, false, rest)
  | steps + 1, text, rest =>
    let gap := rest.takeWhile isGap
    let after := rest.dropWhile isGap
    let broken := gap.any isBreak
    if hasEarlyTab least gap then none
    else if after.head? = some '#' || leadsToMark gap after ||
        (!inFlow && broken && (lastLine gap).length < least) then some (text, broken, after)
    else
      match plainRun inFlow after with
      | none => none
      | some ([], _) => some (text, broken, after)
      | some (run, rest) => plainAfter inFlow least steps (text ++ foldGap gap ++ run) rest

/-- The plain scalar at the start of a text, whether a line break follows it, and what follows after
the gap. -/
def readPlain (inFlow : Bool) (least : Nat) (cs : List Char) :
    Option (Scalar × Bool × List Char) := do
  let (run, rest) ← plainRun inFlow cs
  let (text, broken, rest) ← plainAfter inFlow least cs.length run rest
  return (⟨String.ofList text, .plain⟩, broken, rest)

/-- What a backslash and the character after it stand for in double quotes. -/
def escapedChar? : Char → Option Char
  | '0' => some '\x00'
  | 'a' => some '\x07'
  | 'b' => some '\x08'
  | 't' | '\t' => some '\t'
  | 'n' => some '\n'
  | 'v' => some '\x0b'
  | 'f' => some '\x0c'
  | 'r' => some '\r'
  | 'e' => some '\x1b'
  | ' ' => some ' '
  | '"' => some '"'
  | '/' => some '/'
  | '\\' => some '\\'
  | 'N' => some (Char.ofNat 0x85)
  | '_' => some (Char.ofNat 0xA0)
  | 'L' => some (Char.ofNat 0x2028)
  | 'P' => some (Char.ofNat 0x2029)
  | _ => none

/-- The number of hexadecimal digits after a backslash and a character. -/
def escapeDigits? : Char → Option Nat
  | 'x' => some 2
  | 'u' => some 4
  | 'U' => some 8
  | _ => none

/-- The character of a number, if it has one. -/
def charOf? (n : Nat) : Option Char :=
  if n < 0xD800 || (0xDFFF < n && n < 0x110000) then some (Char.ofNat n) else none

/-- The character that stands after a backslash in double quotes, and what follows it. -/
def readEscape : List Char → Option (Char × List Char)
  | [] => none
  | e :: rest =>
    match escapeDigits? e with
    | none => (escapedChar? e).map fun c => (c, rest)
    | some digits =>
      if rest.length < digits then none
      else
        ((Digits.number? 16 (rest.take digits)).bind charOf?).map fun c => (c, rest.drop digits)

/-- The rest of a quoted scalar up to its closing quote, and what follows it. A backslash at the end
of a line takes the break away. The number bounds the steps. -/
def quotedAfter (isDouble : Bool) : Nat → List Char → List Char → Option (List Char × List Char)
  | 0, _, _ => none
  | _ + 1, _, [] => none
  | steps + 1, text, c :: rest =>
    if isGap c then
      let gap := (c :: rest).takeWhile isGap
      let after := (c :: rest).dropWhile isGap
      if leadsToMark gap after then none
      else quotedAfter isDouble steps (text ++ foldGap gap) after
    else if isDouble then
      if c = '"' then some (text, rest)
      else if c ≠ '\\' then quotedAfter isDouble steps (text ++ [c]) rest
      else if rest.head?.any isBreak then
        let gap := rest.takeWhile isGap
        let after := rest.dropWhile isGap
        if leadsToMark gap after then none
        else quotedAfter isDouble steps (text ++ breaksOf (dropBreak gap)) after
      else
        match readEscape rest with
        | some (c, rest) => quotedAfter isDouble steps (text ++ [c]) rest
        | none => none
    else if c = '\'' then
      match rest with
      | '\'' :: rest => quotedAfter isDouble steps (text ++ ['\'']) rest
      | rest => some (text, rest)
    else quotedAfter isDouble steps (text ++ [c]) rest

/-- The scalar in quotes, given what follows the opening quote, and what follows the scalar. -/
def readQuoted (isDouble : Bool) (cs : List Char) : Option (Scalar × List Char) :=
  (quotedAfter isDouble (cs.length + 1) [] cs).map fun (text, rest) =>
    (⟨String.ofList text, .quoted⟩, rest)

/-- What happens to the line breaks at the end of a block. -/
inductive Chomping where
  /-- All go. -/
  | strip
  /-- The first stays. -/
  | clip
  /-- All stay. -/
  | keep
deriving DecidableEq, Repr

/-- The chomping that a sign asks for. -/
def Chomping.of? : Char → Option Chomping
  | '-' => some .strip
  | '+' => some .keep
  | _ => none

/-- The indentation that a digit from 1 on asks for. -/
def indentDigit? (c : Char) : Option Nat :=
  if c.isDigit && c ≠ '0' then Digits.digit? c else none

/-- The chomping and the indentation that the line of a block's sign asks for, in either order, and
the next line. An indentation that is left out counts as 0. -/
def readHeader (cs : List Char) : Option (Chomping × Nat × List Char) := do
  let (chomping, indent, rest) := match cs with
    | [] => (Chomping.clip, 0, [])
    | c :: rest =>
      match Chomping.of? c, indentDigit? c with
      | some chomping, _ =>
        match rest.head?.bind indentDigit? with
        | some n => (chomping, n, rest.tail)
        | none => (chomping, 0, rest)
      | none, some n =>
        match rest.head?.bind Chomping.of? with
        | some chomping => (chomping, n, rest.tail)
        | none => (.clip, n, rest)
      | none, none => (.clip, 0, c :: rest)
  let rest ← endOfLine? rest
  return (chomping, indent, dropBreak rest)

/-- The empty lines before a line of a block, and its indentation. -/
structure Margin where
  /-- The breaks of the empty lines. -/
  breaks : List Char
  /-- The greatest number of spaces on any of the lines. -/
  widest : Nat
  /-- The number of spaces before what follows. -/
  column : Nat
  /-- What follows the spaces. -/
  rest : List Char

/-- The margin at the start of a line, after empty lines that were read. Spaces belong to it up to
column `indent`, or all of them if that is 0, and a tab must not follow too early. The number bounds
the lines. -/
def readMargin (indent : Nat) : Nat → List Char → Nat → List Char → Option Margin
  | 0, breaks, widest, cs => some ⟨breaks, widest, 0, cs⟩
  | lines + 1, breaks, widest, cs =>
    let spaces := (cs.takeWhile (· = ' ')).length
    let column := if indent = 0 then spaces else min spaces indent
    let rest := cs.drop column
    if rest.head? = some '\t' && (indent = 0 || column < indent) then none
    else if rest.head?.any isBreak then
      let after := dropBreak rest
      let gap := rest.take (rest.length - after.length)
      readMargin indent lines (breaks ++ breaksOf gap) (max widest column) after
    else some ⟨breaks, max widest column, column, rest⟩

/-- The lines of a block from a margin on: their text, the break after the last of them, and the
margin that ends the block. Lines are folded where neither line starts with a blank. The number
bounds the lines. -/
def blockLines (isFolded : Bool) (indent : Nat) :
    Nat → List Char → List Char → Bool → Margin → Option (List Char × List Char × Margin)
  | 0, text, lineBreak, _, m => some (text, lineBreak, m)
  | lines + 1, text, lineBreak, wasBlank, m =>
    if m.column ≠ indent || m.rest.isEmpty then some (text, lineBreak, m)
    else
      let blank := m.rest.head?.any isSpace
      let joint :=
        if isFolded && lineBreak = ['\n'] && !wasBlank && !blank then
          if m.breaks.isEmpty then [' '] else []
        else lineBreak
      let after := afterLine m.rest
      let next := dropBreak after
      match readMargin indent (next.length + 1) [] 0 next with
      | none => none
      | some m' =>
        blockLines isFolded indent lines (text ++ joint ++ m.breaks ++ lineOf m.rest)
          (breaksOf (after.take (after.length - next.length))) blank m'

/-- The block scalar whose sign a text follows, and what follows the scalar. Its lines are indented
by `least` columns or more. -/
def readBlock (isFolded : Bool) (least : Nat) (cs : List Char) : Option (Scalar × List Char) := do
  let (chomping, asked, rest) ← readHeader cs
  let fixed := if asked = 0 then 0 else least - 1 + asked
  let margin ← readMargin fixed (rest.length + 1) [] 0 rest
  let indent := if fixed = 0 then max margin.widest (max least 1) else fixed
  let (text, lineBreak, margin) ← blockLines isFolded indent (rest.length + 1) [] [] false margin
  let text := text ++ (if chomping = .strip then [] else lineBreak) ++
    (if chomping = .keep then margin.breaks else [])
  return (⟨String.ofList text, if isFolded then .folded else .literal⟩, margin.rest)

end Autostart.Yaml
