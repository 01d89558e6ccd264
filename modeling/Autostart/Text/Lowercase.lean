import Autostart.Text.CaseTable

/-!
# Lower case

The full Unicode lower-case mapping of a text. Every character maps alone, to one character or, for
the capital I with a dot above, to two, except the capital sigma: at the end of a word it becomes
the final form, and elsewhere the medial one. A word ends where a cased character stands before the
sigma, and none after it, with case-ignorable characters skipped on both sides.
-/

namespace Autostart.Text

/-- Whether a table of ranges holds a code point. -/
def inRanges (table : List (Nat × Nat)) (n : Nat) : Bool :=
  table.any fun (first, last) => first ≤ n && n ≤ last

/-- The lower-case images of a character that does not depend on its neighbours. -/
def lowerChar (c : Char) : List Char :=
  let n := c.toNat
  if n < 0x80 then [c.toLower]
  else if n = 0x130 then ['i', Char.ofNat 0x307]
  else
    match CaseTable.lower.find? fun (first, last, stride, _) =>
        first ≤ n && n ≤ last && (n - first) % stride == 0 with
    | some (first, _, _, image) => [Char.ofNat (n - first + image)]
    | none => [c]

/-- Whether the first character that is not case-ignorable is cased. -/
def nextIsCased (cs : List Char) : Bool :=
  match cs.dropWhile fun c => inRanges CaseTable.ignorable c.toNat with
  | [] => false
  | c :: _ => inRanges CaseTable.cased c.toNat

/-- The lower case of a text, given the characters before it, the nearest first. -/
def lowerAfter (before : List Char) : List Char → List Char
  | [] => []
  | c :: rest =>
    let image :=
      if c = 'Σ' then [if nextIsCased before && !nextIsCased rest then 'ς' else 'σ']
      else lowerChar c
    image ++ lowerAfter (c :: before) rest

/-- The lower case of a text. -/
def lowercase (s : String) : String :=
  String.ofList (lowerAfter [] s.toList)

end Autostart.Text
