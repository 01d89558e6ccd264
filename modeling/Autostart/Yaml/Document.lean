import Autostart.Yaml.Layout
import Autostart.Yaml.Node

/-!
# Documents of YAML

A text holds at most one document here. It may start with directives, which need the mark of the
document's start behind them, and any number of marks of its end may follow it.
-/

namespace Autostart.Yaml

/-- A document. -/
structure Document where
  /-- The node of the document. -/
  root : Node
deriving Repr

namespace Document

/-- The node that has a number: the last one in the text, where several have it. -/
def node? (d : Document) (number : Nat) : Option Node :=
  d.root.numbered.reverse.lookup number

/-- The node that a node stands for. -/
def target (d : Document) : Node → Option Node
  | .alias n => d.node? n
  | node => some node

end Document

/-- What the directives of a document say. -/
structure Directives where
  /-- Whether a version was given. -/
  hasVersion : Bool
  /-- The handles that were set, the last one first. -/
  handles : Handles

/-- The directives at the start of some tokens, after those that were read, and what follows them. A
version is given once, and is 1.1 or 1.2, and no handle is set twice. -/
def readDirectives (d : Directives) : List Token → Option (Directives × List Token)
  | .version major minor :: rest =>
    if d.hasVersion || major ≠ 1 || (minor ≠ 1 && minor ≠ 2) then none
    else readDirectives { d with hasVersion := true } rest
  | .handle name start :: rest =>
    if (d.handles.lookup name).isSome then none
    else readDirectives { d with handles := (name, start) :: d.handles } rest
  | ts => some (d, ts)

/-- Whether the content of a document is left out before a token. -/
def endsContent : Token → Bool
  | .version _ _ | .handle _ _ | .documentStart | .documentEnd => true
  | _ => false

/-- The node of the document at the start of some tokens, and what follows it. -/
def readRoot (ts : List Token) : Option (Node × List Token) := do
  let (directives, rest) ← readDirectives ⟨false, []⟩ ts
  let handles := directives.handles ++ Handles.standard
  let steps := 4 * ts.length + 4
  match rest with
  | .documentStart :: rest =>
    if rest.head?.all endsContent then return (.missing, rest)
    else readNode handles steps .block rest
  | rest => if rest.length < ts.length then none else readNode handles steps .block rest

/-- Whether a character may stand in a YAML text. -/
def isAllowed (c : Char) : Bool :=
  let n := c.toNat
  n = 0x09 || n = 0x0A || n = 0x0D || (0x20 ≤ n && n ≤ 0x7E) || n = 0x85 ||
    (0xA0 ≤ n && n ≤ 0xFFFD) || 0x10000 ≤ n

/-- The document of a text, where `some none` stands for a text without one. -/
def parse (s : String) : Option (Option Document) := do
  let cs := s.toList
  if !cs.all isAllowed then none
  else
    match ← tokensOf cs with
    | [] => return none
    | ts =>
      let (root, rest) ← readRoot ts
      if rest.all (· = .documentEnd) then return some ⟨root⟩ else none

end Autostart.Yaml
