import Autostart.Text.Digits
import Autostart.Yaml.Place

/-!
# Tags of YAML

A tag is written in full between angle brackets, or as a handle and a suffix. A handle stands for
the start of a tag; a document may set what its handles stand for. In a tag a percent sign and two
hexadecimal digits write a byte, and the bytes that are not ASCII must look like the encoding of
characters. A null byte ends a tag.
-/

namespace Autostart.Yaml

/-- A tag, as bytes. -/
abbrev Tag := List UInt8

namespace Tag

/-- The tag that a text names. -/
def ofString (s : String) : Tag :=
  s.toUTF8.toList

/-- The start of the tags that YAML itself defines. -/
def core : Tag :=
  ofString "tag:yaml.org,2002:"

/-- The tag of the value that is none. -/
def null : Tag :=
  core ++ ofString "null"

/-- The tag of integers. -/
def integer : Tag :=
  core ++ ofString "int"

/-- The tag that says nothing about a value. -/
def plain : Tag :=
  ofString "!"

end Tag

/-- A tag as it is written. -/
structure WrittenTag where
  /-- The handle, or nothing for a tag in full. -/
  handle : String
  /-- What follows the handle. -/
  suffix : List UInt8
deriving DecidableEq, Repr

/-- Whether a character may stand in a tag. The signs of lists may do so only in full tags. -/
def isTagChar (inFull : Bool) (c : Char) : Bool :=
  isWordChar c ||
    [';', '/', '?', ':', '@', '&', '=', '+', '$', '.', '!', '~', '*', '\'', '(', ')'].contains c ||
    (inFull && [',', '[', ']'].contains c)

/-- The number of bytes that must follow the first byte of an encoded character. -/
def bytesAfter? (b : UInt8) : Option Nat :=
  if b < 0x80 then some 0
  else if b < 0xC0 then none
  else if b < 0xE0 then some 1
  else if b < 0xF0 then some 2
  else if b < 0xF8 then some 3
  else none

/-- The byte that two hexadecimal digits write. -/
def byteOf? (high low : Char) : Option UInt8 :=
  match Digits.digit? high, Digits.digit? low with
  | some h, some l => some (UInt8.ofNat (16 * h + l))
  | _, _ => none

/-- The characters of a tag at the start of a text, as bytes, and what follows them, while a number
of bytes must still be written to complete a character. -/
def readTagText (inFull : Bool) : Nat → List Char → Option (List UInt8 × List Char)
  | awaited, '%' :: high :: low :: rest =>
    match byteOf? high low with
    | none => none
    | some b =>
      let awaited? := match awaited with
        | 0 => bytesAfter? b
        | n + 1 => if 0x80 ≤ b && b < 0xC0 then some n else none
      match awaited? with
      | none => none
      | some awaited => (readTagText inFull awaited rest).map fun (bs, rest) => (b :: bs, rest)
  | 0, c :: rest =>
    if c = '%' then none
    else if isTagChar inFull c then
      (readTagText inFull 0 rest).map fun (bs, rest) => (UInt8.ofNat c.toNat :: bs, rest)
    else some ([], c :: rest)
  | 0, [] => some ([], [])
  | _ + 1, _ => none

/-- The text of a tag that is not empty, up to a null byte, and what follows it. -/
def readSuffix (inFull : Bool) (cs : List Char) : Option (List UInt8 × List Char) :=
  match readTagText inFull 0 cs with
  | some (b :: bs, rest) => some ((b :: bs).takeWhile (· ≠ 0), rest)
  | _ => none

/-- The tag after the exclamation mark that starts it, and what follows it. -/
def readTagAfter : List Char → Option (WrittenTag × List Char)
  | '<' :: rest => do
    let (bytes, rest) ← readSuffix true rest
    match rest with
    | '>' :: rest => return (⟨"", bytes⟩, rest)
    | _ => none
  | cs => do
    let word := cs.takeWhile isWordChar
    match cs.dropWhile isWordChar with
    | '!' :: rest =>
      let (bytes, rest) ← readSuffix false rest
      return (⟨String.ofList ('!' :: word ++ ['!']), bytes⟩, rest)
    | rest =>
      let (bytes, rest) ← readTagText false 0 rest
      let suffix := (Tag.ofString (String.ofList word) ++ bytes).takeWhile (· ≠ 0)
      return (if suffix.isEmpty then ⟨"", Tag.plain⟩ else ⟨"!", suffix⟩, rest)

/-- The tag after the exclamation mark that starts it, and what follows it. A gap must follow, or
inside brackets a comma. -/
def readTag (inFlow : Bool) (cs : List Char) : Option (WrittenTag × List Char) :=
  match readTagAfter cs with
  | none => none
  | some (tag, rest) =>
    if startsWithGap rest || (inFlow && rest.head? = some ',') then some (tag, rest) else none

/-- The start of a tag for each handle, the handles of the document first. -/
abbrev Handles := List (String × Tag)

/-- What the handles stand for unless a document says otherwise. -/
def Handles.standard : Handles :=
  [("!", Tag.plain), ("!!", Tag.core)]

/-- The tag that is written, if its handle stands for something. -/
def WrittenTag.resolve (handles : Handles) (tag : WrittenTag) : Option Tag :=
  if tag.handle.isEmpty then some tag.suffix
  else (handles.lookup tag.handle).map (· ++ tag.suffix)

end Autostart.Yaml
