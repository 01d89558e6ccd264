import Autostart.Url.Host
import Autostart.Url.Segments

/-!
# URLs

What the program needs of a URL: its scheme, its host and its path, and the path of the file that it
names. Blanks around a URL and line ends and tabs inside it do not count. The schemes `file`,
`http`, `https`, `ws`, `wss` and `ftp` have rules of their own: they take a backslash for a slash,
and all but `file` need a host.
-/

namespace Autostart

/-- A URL, without its query and its fragment. -/
structure Url where
  /-- The scheme, in small letters. -/
  scheme : String
  /-- The host. -/
  host : Url.Host
  /-- The path, with percent escapes. It starts with a slash, or it is empty or opaque. -/
  path : List Char
deriving Repr

namespace Url

/-- The kinds of schemes. -/
inductive SchemeKind where
  /-- The scheme of files. -/
  | file
  /-- A scheme whose URLs have a host. -/
  | special
  /-- Any other scheme. -/
  | other
deriving DecidableEq, Repr

/-- The kind of a scheme. -/
def SchemeKind.of (scheme : String) : SchemeKind :=
  if scheme = "file" then .file
  else if ["http", "https", "ws", "wss", "ftp"].contains scheme then .special
  else .other

/-- The text without the blanks and control characters around it. -/
def trim (cs : List Char) : List Char :=
  let isEdge (c : Char) : Bool := c.toNat ≤ 0x20
  ((cs.dropWhile isEdge).reverse.dropWhile isEdge).reverse

/-- The scheme that a text starts with, in small letters, and what follows its colon. -/
def readScheme (cs : List Char) : Except Fault (String × List Char) :=
  let isSchemeChar (c : Char) : Bool :=
    c.isAlphanum || c = '+' || c = '-' || c = '.' || isIgnored c
  match significant (cs.takeWhile isSchemeChar), cs.dropWhile isSchemeChar with
  | first :: more, ':' :: rest =>
    if first.isAlpha then .ok (String.ofList ((first :: more).map Char.toLower), rest)
    else .error .noScheme
  | _, _ => .error .noScheme

/-- Whether a character ends the part before the path. A backslash does where the scheme has rules
of its own. -/
def endsAuthority (isSpecial : Bool) (c : Char) : Bool :=
  c = '/' || c = '?' || c = '#' || (isSpecial && c = '\\')

/-- What stands before the last at sign and after it. -/
def splitUser (cs : List Char) : Option (List Char × List Char) :=
  (Chars.splitFirst '@' cs.reverse).map fun (after, before) => (before.reverse, after.reverse)

/-- The length of the host at the start of a text: it ends at a colon outside brackets. -/
def hostLength : Bool → List Char → Nat
  | _, [] => 0
  | inBrackets, c :: rest =>
    if c = ':' && !inBrackets then 0
    else 1 + hostLength (if c = '[' then true else if c = ']' then false else inBrackets) rest

/-- Whether a text can follow the colon after a host: nothing, or a number of 16 bits. -/
def isHostNumber (cs : List Char) : Bool :=
  cs.isEmpty || (Digits.number? 10 cs).any (· ≤ 65535)

/-- The host of a URL with an authority, which stands between two slashes and the path, and the part
of the authority that belongs to the path: what follows the number of the host from a backslash on,
where that is no slash. -/
def readAuthority (isSpecial : Bool) (authority rest : List Char) :
    Except Fault (Host × List Char) := do
  let (hasUser, hostAndNumber) ←
    match splitUser authority with
    | none => pure (false, authority)
    | some (user, hostAndNumber) =>
      if user.isEmpty && hostAndNumber.isEmpty && !rest.isEmpty then throw .emptyHost
      else pure (!user.isEmpty && user ≠ [':'], hostAndNumber)
  let length := hostLength false hostAndNumber
  let name := hostAndNumber.take length
  let afterHost := hostAndNumber.drop length
  if isSpecial && name.isEmpty then throw .emptyHost
  let host ← if isSpecial then Host.ofName name else Host.ofOther name
  if host = .empty && !afterHost.isEmpty then throw .emptyHost
  let number := (afterHost.drop 1).takeWhile (· ≠ '\\')
  if !isHostNumber number then throw .invalidHostNumber
  if host = .empty && hasUser then throw .emptyHost
  return (host, (afterHost.drop 1).drop number.length)

/-- The text before the query and the fragment. -/
def beforeQuery (cs : List Char) : List Char :=
  cs.takeWhile fun c => c ≠ '?' && c ≠ '#'

/-- Whether a character separates the segments of a path where the scheme has rules of its own. -/
def isSlash (c : Char) : Bool :=
  c = '/' || c = '\\'

/-- What follows the slash that a text starts with. -/
def afterSlash? (isSpecial : Bool) : List Char → Option (List Char)
  | [] => none
  | c :: rest =>
    if isIgnored c then afterSlash? isSpecial rest
    else if c = '/' || (isSpecial && c = '\\') then some rest
    else none

/-- The text without the slash at its start, if it has one. -/
def dropSlash (isSpecial : Bool) (cs : List Char) : List Char :=
  (afterSlash? isSpecial cs).getD cs

/-- The URL of a file, given its host and what follows the slash before its path. The path starts
with one slash only, and a drive at its start takes the place of the host. -/
def ofFilePath (host : Host) (cs : List Char) : Url :=
  let path := readSegments true true (beforeQuery cs)
  ⟨"file", if path.hasDrive then .empty else host, joinSegments (dropEmptyStart path.segments)⟩

/-- The URL of a file, given what follows the two slashes after its scheme. -/
def readFileHost (cs : List Char) : Except Fault Url := do
  let name := significant (cs.takeWhile fun c => !endsAuthority true c)
  let path := dropSlash true (cs.dropWhile fun c => !endsAuthority true c)
  if isDrive name then return ofFilePath .empty cs
  if name.isEmpty then return ofFilePath .empty path
  let host ← Host.ofName name
  return ofFilePath (if host = .named "localhost" then .empty else host) path

/-- The URL of a file, given what follows its scheme. -/
def readFile (cs : List Char) : Except Fault Url :=
  match afterSlash? true cs with
  | none => .ok (ofFilePath .empty cs)
  | some rest =>
    match afterSlash? true rest with
    | none => .ok (ofFilePath .empty rest)
    | some rest => readFileHost rest

/-- The URL with an authority, given what follows the two slashes before it. -/
def readWithAuthority (scheme : String) (isSpecial : Bool) (cs : List Char) : Except Fault Url := do
  let authority := cs.takeWhile fun c => !endsAuthority isSpecial c
  let rest := cs.dropWhile fun c => !endsAuthority isSpecial c
  let (host, extra) ← readAuthority isSpecial authority rest
  let pathText := extra ++ beforeQuery rest
  if !isSpecial && pathText.isEmpty then return ⟨scheme, host, []⟩
  let path := readSegments false isSpecial (dropSlash isSpecial pathText)
  return ⟨scheme, host, joinSegments path.segments⟩

/-- The URL of a scheme without rules of its own, given what follows the scheme. -/
def readOther (scheme : String) (cs : List Char) : Except Fault Url :=
  match cs with
  | '/' :: '/' :: rest => readWithAuthority scheme false rest
  | '/' :: rest =>
    .ok ⟨scheme, .empty, joinSegments (readSegments false false (beforeQuery rest)).segments⟩
  | _ => .ok ⟨scheme, .empty, beforeQuery cs⟩

/-- The URL that a text writes. -/
def parse (s : String) : Except Fault Url := do
  let (scheme, rest) ← readScheme (trim s.toList)
  match SchemeKind.of scheme with
  | .file => readFile rest
  | .special => readWithAuthority scheme true ((significant rest).dropWhile isSlash)
  | .other => readOther scheme (significant rest)

/-- A slash for the end of a path that ends in a drive. -/
def driveEnd (path : List UInt8) : List UInt8 :=
  match path.reverse with
  | sign :: letter :: _ :: _ =>
    if (Char.ofNat letter.toNat).isAlpha && (sign = 0x3A || sign = 0x7C) then [0x2F] else []
  | _ => []

/-- The path of the file that a URL names, as bytes. Only a URL on this host names one. -/
def filePath? (url : Url) : Option (List UInt8) :=
  if url.path.head? = some '/' ∧ (url.host = .empty ∨ url.host = .named "localhost") then
    let path := decodedBytes url.path
    some (path ++ driveEnd path)
  else none

end Url

end Autostart
