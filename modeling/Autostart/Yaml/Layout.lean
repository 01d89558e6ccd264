import Autostart.Yaml.Token

/-!
# The layout of a YAML text

The tokens of a text. Outside brackets the columns of lists and maps form a stack: a column further
right opens one, and a token further left closes those that stand right of it. Whether a scalar, a
bracket or a name starts a key shows only at the colon behind it, so the place where a key may have
started is kept until then. A key that is not announced by a question mark must end on the line on
which it starts and within 1024 characters, and outside brackets what stands in the column of the
keys must be one.

An anchor gets as its number how many names were anchored before it, and an alias the last number of
its name.
-/

namespace Autostart.Yaml

/-- A place where a key may have started. -/
structure PossibleKey where
  /-- Its place. -/
  place : Place
  /-- The number of tokens before it. -/
  tokensBefore : Nat
  /-- Whether nothing but a key can stand there. -/
  isRequired : Bool

/-- What is known of a text up to a place. -/
structure Layout where
  /-- The place. -/
  place : Place
  /-- The tokens before the place, the last one first. -/
  tokens : List Token
  /-- The number of the tokens. -/
  count : Nat
  /-- The columns of the open lists and maps outside brackets, the last one first. -/
  columns : List Nat
  /-- Where a key may have started in the innermost brackets. -/
  possibleKey : Option PossibleKey
  /-- Where a key may have started around each of the open brackets, the innermost first. -/
  outerKeys : List (Option PossibleKey)
  /-- Whether a key may start at the place. -/
  keyAllowed : Bool
  /-- The number of each name that was anchored. -/
  anchors : List (String × Nat)

namespace Layout

/-- The layout at the start of a text. -/
def atStart (cs : List Char) : Layout :=
  ⟨⟨cs, 0, 0, 0⟩, [], 0, [], none, [], true, []⟩

/-- Whether the place is inside brackets. -/
def inFlow (l : Layout) : Bool :=
  !l.outerKeys.isEmpty

/-- The first column that is further right than the columns of all open lists and maps. -/
def least (l : Layout) : Nat :=
  match l.columns with
  | [] => 0
  | column :: _ => column + 1

/-- The layout after a token, and the place at which a text follows. -/
def add (l : Layout) (token : Token) (rest : List Char) : Layout :=
  { l with place := l.place.upTo rest, tokens := token :: l.tokens, count := l.count + 1 }

/-- The layout with tokens put in behind the first `n` tokens. -/
def insertAt (l : Layout) (n : Nat) (tokens : List Token) : Layout :=
  let later := l.count - n
  { l with
    tokens := l.tokens.take later ++ tokens.reverse ++ l.tokens.drop later
    count := l.count + tokens.length }

/-- The layout in which no key has started. It is wrong to give up a key that is required. -/
def dropKey (l : Layout) : Option Layout :=
  if l.possibleKey.any (·.isRequired) then none else some { l with possibleKey := none }

/-- The layout in which a key may start at the place, if keys are allowed there. -/
def markKey (l : Layout) : Option Layout :=
  if l.keyAllowed then
    let isRequired := !l.inFlow && l.columns.head? = some l.place.column
    l.dropKey.map fun l => { l with possibleKey := some ⟨l.place, l.count, isRequired⟩ }
  else some l

/-- Whether a key that started at an earlier place cannot end at the place any more. -/
def isPast (l : Layout) (key : PossibleKey) : Bool :=
  key.place.line < l.place.line || key.place.index + 1024 < l.place.index

/-- The layout without the keys that cannot end at the place any more. -/
def dropPastKeys (l : Layout) : Option Layout :=
  let past := (l.possibleKey :: l.outerKeys).filterMap fun key => key.filter l.isPast
  if past.any (·.isRequired) then none
  else
    let keep (key : Option PossibleKey) : Option PossibleKey := key.filter fun k => !l.isPast k
    some { l with possibleKey := keep l.possibleKey, outerKeys := l.outerKeys.map keep }

/-- The layout without the lists and maps whose column is not below `bound`. -/
def closeFrom (l : Layout) (bound : Nat) : Layout :=
  if l.inFlow then l
  else
    let closed := (l.columns.takeWhile (bound ≤ ·)).length
    { l with
      columns := l.columns.drop closed
      tokens := List.replicate closed .blockEnd ++ l.tokens
      count := l.count + closed }

/-- The layout with a list or a map at a column, which starts behind the first `n` tokens, unless
one is open at this column. -/
def openAt (l : Layout) (column n : Nat) (start : Token) : Layout :=
  if l.inFlow || column < l.least then l
  else { l.insertAt n [start] with columns := column :: l.columns }

/-- The layout after an opening bracket. -/
def openBracket (l : Layout) (token : Token) (rest : List Char) : Option Layout :=
  l.markKey.map fun l =>
    { l.add token rest with
      possibleKey := none, outerKeys := l.possibleKey :: l.outerKeys, keyAllowed := true }

/-- The layout after a closing bracket. -/
def closeBracket (l : Layout) (token : Token) (rest : List Char) : Option Layout :=
  l.dropKey.map fun l =>
    let l := { l.add token rest with keyAllowed := false }
    match l.outerKeys with
    | [] => l
    | key :: outer => { l with possibleKey := key, outerKeys := outer }

/-- The layout after the mark of a document or a directive, which closes all that is open. -/
def addTopLevel (l : Layout) (token : Token) (rest : List Char) : Option Layout :=
  (l.closeFrom 0).dropKey.map fun l => { l.add token rest with keyAllowed := false }

/-- The layout after a comma in brackets. -/
def addComma (l : Layout) (rest : List Char) : Option Layout :=
  l.dropKey.map fun l => { l.add .comma rest with keyAllowed := true }

/-- The layout after the dash of a list item. -/
def addDash (l : Layout) (rest : List Char) : Option Layout :=
  if !l.inFlow && !l.keyAllowed then none
  else
    (l.openAt l.place.column l.count .listStart).dropKey.map fun l =>
      { l.add .dash rest with keyAllowed := true }

/-- The layout after the question mark that announces a key. -/
def addQuestion (l : Layout) (rest : List Char) : Option Layout :=
  if !l.inFlow && !l.keyAllowed then none
  else
    (l.openAt l.place.column l.count .mapStart).dropKey.map fun l =>
      { l.add .key rest with keyAllowed := !l.inFlow }

/-- The layout after the colon before a value. -/
def addColon (l : Layout) (rest : List Char) : Option Layout :=
  match l.possibleKey with
  | some key =>
    let l := l.insertAt key.tokensBefore [.key]
    let l := l.openAt key.place.column key.tokensBefore .mapStart
    some { l.add .colon rest with possibleKey := none, keyAllowed := false }
  | none =>
    if !l.inFlow && !l.keyAllowed then none
    else
      let l := l.openAt l.place.column l.count .mapStart
      some { l.add .colon rest with keyAllowed := !l.inFlow }

/-- The layout after a token that may be a key, or may start one. -/
def addKeyPart (l : Layout) (read : Option (Token × List Char)) : Option Layout := do
  let l ← l.markKey
  let (token, rest) ← read
  return { l.add token rest with keyAllowed := false }

/-- The layout after a plain scalar. A key may start behind one that a line break follows. -/
def addPlain (l : Layout) : Option Layout := do
  let (scalar, broken, rest) ← readPlain l.inFlow l.least l.place.rest
  let l ← l.addKeyPart (some (.scalar scalar, rest))
  return { l with keyAllowed := broken }

/-- The layout after a block scalar, given what follows its sign. -/
def addBlock (l : Layout) (isFolded : Bool) (cs : List Char) : Option Layout := do
  let l ← l.dropKey
  let (scalar, rest) ← readBlock isFolded l.least cs
  return { l.add (.scalar scalar) rest with keyAllowed := true }

/-- The layout after an anchor, given what follows its sign. -/
def addAnchor (l : Layout) (cs : List Char) : Option Layout := do
  let (name, rest) ← readName cs
  let number := l.anchors.length
  let l ← l.addKeyPart (some (.anchor number, rest))
  return { l with anchors := (name, number) :: l.anchors.filter (·.1 ≠ name) }

/-- The layout after an alias, given what follows its sign. -/
def addAlias (l : Layout) (cs : List Char) : Option Layout := do
  let (name, rest) ← readName cs
  let number ← l.anchors.lookup name
  l.addKeyPart (some (.alias number, rest))

/-- The layout after the token at the place. -/
def addNext (l : Layout) : Option Layout :=
  let atLineStart := l.place.column = 0
  match l.place.rest with
  | [] => none
  | c :: rest =>
    if atLineStart && c = '%' then do
      let (token, rest) ← readDirective rest
      l.addTopLevel token rest
    else if atLineStart && startsWithMark (c :: rest) then
      l.addTopLevel (if c = '-' then .documentStart else .documentEnd) (rest.drop 2)
    else if c = '[' then l.openBracket .openList rest
    else if c = '{' then l.openBracket .openMap rest
    else if c = ']' then l.closeBracket .closeList rest
    else if c = '}' then l.closeBracket .closeMap rest
    else if c = ',' then l.addComma rest
    else if c = '-' && startsWithGap rest then l.addDash rest
    else if c = '?' && (l.inFlow || startsWithGap rest) then l.addQuestion rest
    else if c = ':' && (l.inFlow || startsWithGap rest) then l.addColon rest
    else if c = '*' then l.addAlias rest
    else if c = '&' then l.addAnchor rest
    else if c = '!' then l.addKeyPart ((readTag l.inFlow rest).map fun (t, rest) => (.tag t, rest))
    else if (c = '|' || c = '>') && !l.inFlow then l.addBlock (c = '>') rest
    else if c = '\'' || c = '"' then
      l.addKeyPart ((readQuoted (c = '"') rest).map fun (s, rest) => (.scalar s, rest))
    else if canStartPlain l.inFlow (c :: rest) then l.addPlain
    else none

/-- The tokens of a text, after those that a layout holds. The number bounds the tokens. -/
def readTokens : Nat → Layout → Option (List Token)
  | 0, _ => none
  | steps + 1, l => do
    let (keyAllowed, place) := skipGap l.inFlow false l.keyAllowed l.place l.place.rest
    let l ← { l with keyAllowed, place }.dropPastKeys
    if place.rest.isEmpty then return (← (l.closeFrom 0).dropKey).tokens.reverse
    else
      let l ← (l.closeFrom (place.column + 1)).addNext
      readTokens steps l

end Layout

/-- The tokens of a text. -/
def tokensOf (cs : List Char) : Option (List Token) :=
  Layout.readTokens (cs.length + 1) (Layout.atStart cs)

end Autostart.Yaml
