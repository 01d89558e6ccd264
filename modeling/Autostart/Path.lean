import Autostart.Text.Chars

/-!
# Paths

A path is kept as the text it was written with, and is printed that way. Paths are compared by their
components: repeated slashes, inner single dots and a slash at the end do not count, while a leading
single dot and every double dot do. `Path.route` is what a file system makes of a path: where it
starts, which steps it takes, and how it ends.
-/

namespace Autostart

/-- A path, as the text it is written with. -/
structure Path where
  /-- The text of the path. -/
  text : String
deriving DecidableEq, Repr, Inhabited

namespace Path

/-- What a path is made of. -/
inductive Component where
  /-- The slash that an absolute path starts with. -/
  | root
  /-- A single dot that a relative path starts with. -/
  | current
  /-- A double dot. -/
  | parent
  /-- A plain name. -/
  | name (s : String)
deriving DecidableEq, Repr

/-- The component that the text between two slashes stands for after the start of a path. -/
def Component.ofSegment? : List Char → Option Component
  | [] => none
  | ['.'] => none
  | ['.', '.'] => some .parent
  | cs => some (.name (String.ofList cs))

/-- The components of a path, given the texts between its slashes. -/
def componentsOfSegments : List (List Char) → List Component
  | [[]] => []
  | [] :: rest => .root :: rest.filterMap Component.ofSegment?
  | ['.'] :: rest => .current :: rest.filterMap Component.ofSegment?
  | segments => segments.filterMap Component.ofSegment?

/-- The components of a path. -/
def components (p : Path) : List Component :=
  componentsOfSegments (Chars.splitAll '/' p.text.toList)

/-- Two paths are the same when their components are. -/
def same (p q : Path) : Bool :=
  p.components == q.components

/-- A path is absolute when it starts with a slash. -/
def isAbsolute (p : Path) : Bool :=
  p.text.toList.head? == some '/'

/-- `rest` as seen from `p`. An absolute `rest` stands alone. -/
def join (p : Path) (rest : String) : Path :=
  if rest.toList.head? = some '/' then ⟨rest⟩
  else if p.text.isEmpty then ⟨rest⟩
  else if p.text.toList.getLast? = some '/' then ⟨p.text ++ rest⟩
  else ⟨p.text ++ "/" ++ rest⟩

/-- Whether a text can be the name of a file: it has no slash. -/
def isPlainName (name : String) : Bool :=
  !name.toList.contains '/'

/-- The last component, when it is a plain name. -/
def fileName? (p : Path) : Option String :=
  match p.components.getLast? with
  | some (.name s) => some s
  | _ => none

/-- The texts between the slashes of a path, from the last to the first, without those at the end
that stand for nothing. The first text of the path always stays. -/
def trimSegments : List (List Char) → List (List Char)
  | last :: before :: rest =>
    if (Component.ofSegment? last).isNone then trimSegments (before :: rest)
    else last :: before :: rest
  | segments => segments

/-- The path of the directory that holds the path. The empty path and the root have none. -/
def parent? (p : Path) : Option Path :=
  match trimSegments (Chars.splitAll '/' p.text.toList).reverse with
  | [] | [[]] => none
  | [_] => some ⟨""⟩
  | _ :: before =>
    match trimSegments before with
    | [[]] => some ⟨"/"⟩
    | segments => some ⟨String.ofList (['/'].intercalate segments.reverse)⟩

/-- A step of a route. -/
inductive Step where
  /-- Go to the entry of this name. -/
  | into (name : String)
  /-- Go to the directory above. -/
  | up
deriving DecidableEq, Repr

/-- What follows the last step of a route in its text. -/
inductive Ending where
  /-- Nothing. -/
  | plain
  /-- A slash. -/
  | slash
  /-- A single dot. -/
  | dot
deriving DecidableEq, Repr

/-- The way that a path describes through a file system. -/
structure Route where
  /-- Whether the route starts at the root. -/
  absolute : Bool
  /-- The steps of the route. -/
  steps : List Step
  /-- What follows the last step. -/
  ending : Ending
deriving DecidableEq, Repr

/-- The step that the text between two slashes stands for. -/
def Step.ofSegment? : List Char → Option Step
  | [] => none
  | ['.'] => none
  | ['.', '.'] => some .up
  | cs => some (.into (String.ofList cs))

/-- The ending of a route, given the texts between the slashes of its path from the last to the
first. -/
def Ending.ofSegments : List (List Char) → Ending
  | [] :: rest => if (rest.dropWhile List.isEmpty).head? = some ['.'] then .dot else .slash
  | ['.'] :: _ => .dot
  | _ => .plain

/-- The route of a path. The empty path has none. -/
def route? (p : Path) : Option Route :=
  if p.text.isEmpty then none
  else
    let segments := Chars.splitAll '/' p.text.toList
    some ⟨p.isAbsolute, segments.filterMap Step.ofSegment?, Ending.ofSegments segments.reverse⟩

end Path

end Autostart
