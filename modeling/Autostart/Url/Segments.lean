import Autostart.Text.Chars

/-!
# Paths of URLs

The segments of the path of a URL, with single and double dots resolved. A double dot drops the
segment before it, unless that one names a drive, and a dot at the end leaves an empty segment.
Percent escapes are kept, but a dot may be written as one. Line ends and tabs do not count, but for
one that follows the name of a drive.
-/

namespace Autostart.Url

/-- Whether a character has no say in a URL. -/
def isIgnored (c : Char) : Bool :=
  c = '\t' || c = '\n' || c = '\r'

/-- The characters of a text that have a say in a URL. -/
def significant (cs : List Char) : List Char :=
  cs.filter fun c => !isIgnored c

/-- What follows the given number of characters that have a say in a URL. -/
def dropSignificant : Nat → List Char → List Char
  | 0, cs => cs
  | _, [] => []
  | n + 1, c :: rest => dropSignificant (if isIgnored c then n + 1 else n) rest

/-- What a segment asks for. -/
inductive SegmentKind where
  /-- To stay. -/
  | single
  /-- To go back. -/
  | double
  /-- To go on. -/
  | plain
deriving DecidableEq, Repr

/-- What a segment asks for. -/
def segmentKind (cs : List Char) : SegmentKind :=
  let spelled := String.ofList (cs.map Char.toLower)
  if [".", "%2e"].contains spelled then .single
  else if ["..", "%2e%2e", "%2e.", ".%2e"].contains spelled then .double
  else .plain

/-- Whether a segment names a drive: a letter, and a colon or a bar. -/
def isDrive : List Char → Bool
  | [letter, sign] => letter.isAlpha && (sign = ':' || sign = '|')
  | _ => false

/-- The segments without the last one, which a drive keeps. -/
def stepBack (segments : List (List Char)) : List (List Char) :=
  match segments.getLast? with
  | some last => if isDrive last then segments else segments.dropLast
  | none => []

/-- A path that was read in part. -/
structure PartialPath where
  /-- The segments. -/
  segments : List (List Char)
  /-- Whether the first segment names a drive, which takes the place of a host. -/
  hasDrive : Bool
deriving DecidableEq, Repr

/-- The parts of a segment that starts with a drive and a colon, if a character that has no say
sets that off from the rest. -/
def splitDrive? (cs : List Char) : Option (List Char × List Char) :=
  let drive := (significant cs).take 2
  let rest := dropSignificant 2 cs
  if isDrive drive && drive.getLast? = some ':' && rest.head?.any isIgnored &&
    !(significant rest).isEmpty then some (drive, significant rest)
  else none

/-- The path with a plain segment behind it. In a file URL a drive at the start of the path is
written with a colon. -/
def PartialPath.add (isFile : Bool) (path : PartialPath) (cs : List Char) : PartialPath :=
  let segment := significant cs
  if isFile && path.segments.isEmpty then
    if isDrive segment then ⟨[segment.take 1 ++ [':']], true⟩
    else
      match splitDrive? cs with
      | some (drive, rest) => ⟨[drive, rest], path.hasDrive⟩
      | none => ⟨[segment], path.hasDrive⟩
  else ⟨path.segments ++ [segment], path.hasDrive⟩

/-- The path, after the part of it that was read. -/
def resolveAfter (isFile : Bool) (path : PartialPath) : List (List Char) → PartialPath
  | [] => path
  | cs :: rest =>
    let ending := if rest.isEmpty then [[]] else []
    match segmentKind (significant cs) with
    | .single => resolveAfter isFile { path with segments := path.segments ++ ending } rest
    | .double =>
      resolveAfter isFile { path with segments := stepBack path.segments ++ ending } rest
    | .plain => resolveAfter isFile (path.add isFile cs) rest

/-- The segments without the empty ones at the start, but never none. -/
def dropEmptyStart : List (List Char) → List (List Char)
  | [] :: next :: rest => dropEmptyStart (next :: rest)
  | segments => segments

/-- The segments of the path that a text after the first slash describes. A backslash separates
segments too where the scheme has rules of its own. -/
def readSegments (isFile isSpecial : Bool) (cs : List Char) : PartialPath :=
  let cs := if isSpecial then cs.map fun c => if c = '\\' then '/' else c else cs
  resolveAfter isFile ⟨[], false⟩ (Chars.splitAll '/' cs)

/-- The path with these segments. -/
def joinSegments (segments : List (List Char)) : List Char :=
  segments.flatMap fun segment => '/' :: segment

end Autostart.Url
