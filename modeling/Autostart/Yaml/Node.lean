import Autostart.Yaml.Token

/-!
# Nodes of YAML

The tree of a document: scalars, lists and maps, by indentation or in brackets, and aliases, which
repeat a node that has a number. A value, a key or an item that is left out is an empty plain
scalar. Between an anchor and a tag of one node any order will do.

Every step of the reading takes a token or goes down to a part that takes one, so the number of
tokens bounds the steps.
-/

namespace Autostart.Yaml

/-- What may stand before a node. -/
structure Properties where
  /-- The number of the node. -/
  anchor : Option Nat
  /-- The tag of the node. -/
  tag : Option Tag
deriving DecidableEq, Repr

/-- The properties of a node that has none. -/
def Properties.none : Properties :=
  ⟨Option.none, Option.none⟩

/-- A node. -/
inductive Node where
  /-- A scalar. -/
  | scalar (properties : Properties) (scalar : Scalar)
  /-- A list. -/
  | list (properties : Properties) (items : List Node)
  /-- A map, by its pairs in their order. -/
  | map (properties : Properties) (pairs : List (Node × Node))
  /-- The node that has a number. -/
  | alias (number : Nat)
deriving Repr

namespace Node

/-- An empty plain scalar. -/
def empty (properties : Properties) : Node :=
  .scalar properties ⟨"", .plain⟩

/-- The node that is left out. -/
def missing : Node :=
  empty .none

mutual

/-- The nodes that have a number, in the order of the text. -/
def numbered : Node → List (Nat × Node)
  | .alias _ => []
  | .scalar p s => (p.anchor.map fun n => (n, .scalar p s)).toList
  | .list p items => (p.anchor.map fun n => (n, .list p items)).toList ++ numberedItems items
  | .map p pairs => (p.anchor.map fun n => (n, .map p pairs)).toList ++ numberedPairs pairs

/-- The nodes of a list that have a number. -/
def numberedItems : List Node → List (Nat × Node)
  | [] => []
  | item :: rest => numbered item ++ numberedItems rest

/-- The nodes of a map that have a number. -/
def numberedPairs : List (Node × Node) → List (Nat × Node)
  | [] => []
  | (key, value) :: rest => numbered key ++ numbered value ++ numberedPairs rest

end

end Node

/-- A tree and the tokens behind it. -/
abbrev Read (α : Type) := Option (α × List Token)

/-- The tag of a token, in full. -/
def resolved (handles : Handles) (tag : WrittenTag) : Option (Option Tag) :=
  (tag.resolve handles).map some

/-- What stands before a node, and the node's own tokens. -/
def readProperties (handles : Handles) : List Token → Read Properties
  | .anchor n :: .tag t :: rest => (resolved handles t).map fun tag => (⟨some n, tag⟩, rest)
  | .tag t :: .anchor n :: rest => (resolved handles t).map fun tag => (⟨some n, tag⟩, rest)
  | .anchor n :: rest => some (⟨some n, none⟩, rest)
  | .tag t :: rest => (resolved handles t).map fun tag => (⟨none, tag⟩, rest)
  | rest => some (.none, rest)

/-- Whether the next token is one of some. -/
def nextIn (ends : List Token) (ts : List Token) : Bool :=
  ts.head?.any ends.contains

/-- Where a node may stand. -/
inductive Position where
  /-- In brackets. -/
  | flow
  /-- As an item of a list by indentation, or as the node of the document. -/
  | block
  /-- As a key or a value of a map by indentation, where the items of a list need no column of their
  own. -/
  | pair
deriving DecidableEq, Repr

mutual

/-- The node at the start of some tokens. -/
def readNode (handles : Handles) : Nat → Position → List Token → Read Node
  | 0, _, _ => none
  | steps + 1, position, ts =>
    match ts with
    | .alias n :: rest => some (.alias n, rest)
    | ts =>
      match readProperties handles ts with
      | none => none
      | some (p, ts) =>
        if position = .pair && nextIn [.dash] ts then
          (readLooseItems handles steps [] ts).map fun (items, rest) => (.list p items, rest)
        else
          match ts with
          | .scalar s :: rest => some (.scalar p s, rest)
          | .openList :: rest =>
            (readFlowItems handles steps [] rest).map fun (items, rest) => (.list p items, rest)
          | .openMap :: rest =>
            (readFlowPairs handles steps [] rest).map fun (pairs, rest) => (.map p pairs, rest)
          | ts =>
            match position, ts with
            | .block, .listStart :: rest | .pair, .listStart :: rest =>
              (readItems handles steps [] rest).map fun (items, rest) => (.list p items, rest)
            | .block, .mapStart :: rest | .pair, .mapStart :: rest =>
              (readPairs handles steps [] rest).map fun (pairs, rest) => (.map p pairs, rest)
            | _, ts => if p = .none then none else some (.empty p, ts)

/-- The node at the start of some tokens, which is left out where a token of some others follows. -/
def readUnless (handles : Handles) : Nat → Position → List Token → List Token → Read Node
  | 0, _, _, _ => none
  | steps + 1, position, ends, ts =>
    if nextIn ends ts then some (.missing, ts) else readNode handles steps position ts

/-- The items of a list by indentation, up to its end. -/
def readItems (handles : Handles) : Nat → List Node → List Token → Read (List Node)
  | 0, _, _ => none
  | steps + 1, items, ts =>
    match ts with
    | .blockEnd :: rest => some (items, rest)
    | .dash :: rest =>
      match readUnless handles steps .block [.dash, .blockEnd] rest with
      | none => none
      | some (item, rest) => readItems handles steps (items ++ [item]) rest
    | _ => none

/-- The items of a list in the column of the keys around it. -/
def readLooseItems (handles : Handles) : Nat → List Node → List Token → Read (List Node)
  | 0, _, _ => none
  | steps + 1, items, ts =>
    match ts with
    | .dash :: rest =>
      match readUnless handles steps .block [.dash, .key, .colon, .blockEnd] rest with
      | none => none
      | some (item, rest) => readLooseItems handles steps (items ++ [item]) rest
    | ts => some (items, ts)

/-- The pairs of a map by indentation, up to its end. -/
def readPairs (handles : Handles) :
    Nat → List (Node × Node) → List Token → Read (List (Node × Node))
  | 0, _, _ => none
  | steps + 1, pairs, ts =>
    match ts with
    | .blockEnd :: rest => some (pairs, rest)
    | .key :: rest =>
      match readUnless handles steps .pair [.key, .colon, .blockEnd] rest with
      | none => none
      | some (key, rest) =>
        match readValue handles steps .pair [.key, .colon, .blockEnd] rest with
        | none => none
        | some (value, rest) => readPairs handles steps (pairs ++ [(key, value)]) rest
    | _ => none

/-- The value after a key, which may be left out together with its colon. -/
def readValue (handles : Handles) : Nat → Position → List Token → List Token → Read Node
  | 0, _, _, _ => none
  | steps + 1, position, ends, ts =>
    match ts with
    | .colon :: rest => readUnless handles steps position ends rest
    | ts => some (.missing, ts)

/-- The items of a list in brackets, up to the closing one. A pair that is an item is a map of its
own. -/
def readFlowItems (handles : Handles) : Nat → List Node → List Token → Read (List Node)
  | 0, _, _ => none
  | steps + 1, items, ts =>
    match ts with
    | .closeList :: rest => some (items, rest)
    | ts =>
      let item : Read Node :=
        match ts with
        | .key :: rest =>
          (readFlowPair handles steps [.comma, .closeList] rest).map fun (pair, rest) =>
            (.map .none [pair], rest)
        | ts => readNode handles steps .flow ts
      match item with
      | some (item, .comma :: rest) => readFlowItems handles steps (items ++ [item]) rest
      | some (item, .closeList :: rest) => some (items ++ [item], rest)
      | _ => none

/-- The pair after the sign of its key in brackets. -/
def readFlowPair (handles : Handles) : Nat → List Token → List Token → Read (Node × Node)
  | 0, _, _ => none
  | steps + 1, ends, ts =>
    match readUnless handles steps .flow (.colon :: ends) ts with
    | none => none
    | some (key, rest) =>
      (readValue handles steps .flow ends rest).map fun (value, rest) => ((key, value), rest)

/-- The pairs of a map in brackets, up to the closing one. An entry without a colon is a key without
a value. -/
def readFlowPairs (handles : Handles) :
    Nat → List (Node × Node) → List Token → Read (List (Node × Node))
  | 0, _, _ => none
  | steps + 1, pairs, ts =>
    match ts with
    | .closeMap :: rest => some (pairs, rest)
    | ts =>
      let pair : Read (Node × Node) :=
        match ts with
        | .key :: rest => readFlowPair handles steps [.comma, .closeMap] rest
        | ts =>
          (readNode handles steps .flow ts).map fun (key, rest) => ((key, .missing), rest)
      match pair with
      | some (pair, .comma :: rest) => readFlowPairs handles steps (pairs ++ [pair]) rest
      | some (pair, .closeMap :: rest) => some (pairs ++ [pair], rest)
      | _ => none

end

end Autostart.Yaml
