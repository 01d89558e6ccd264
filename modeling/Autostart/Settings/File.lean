import Autostart.FileStore.Basic
import Autostart.Settings.Basic
import Autostart.Text.Digits
import Autostart.Yaml.Document

/-!
# Settings files

The overrides in a YAML file: a map with known keys, none of them twice. A value that is left out or
`null` overrides nothing, a text may be any scalar, and a number is a plain integer within its
bounds. An alias counts as the node that it repeats.
-/

namespace Autostart.Overrides

open Yaml (Scalar Tag)

/-- Whether a text is a word for no value. -/
def isNullWord (text : String) : Bool :=
  ["~", "null", "Null", "NULL"].contains text

/-- Whether a scalar stands for no value. It must be plain and empty or a word for that, and under
the tag of no value nothing but such a word will do. -/
def isNull? (tag : Option Tag) (s : Scalar) : Option Bool :=
  if s.style ≠ .plain then some false
  else
    match tag with
    | Option.none => some (s.text.isEmpty || isNullWord s.text)
    | some tag =>
      if tag ≠ Tag.null then some false
      else if isNullWord s.text then some true
      else Option.none

/-- A value that may be left out. -/
def optional {α : Type} (read : Yaml.Node → Option α) : Yaml.Node → Option (Option α)
  | .scalar p s =>
    match isNull? p.tag s with
    | some true => some Option.none
    | some false => (read (.scalar p s)).map some
    | Option.none => Option.none
  | node => (read node).map some

/-- A text, as any scalar. -/
def readText : Yaml.Node → Option String
  | .scalar _ s => some s.text
  | _ => Option.none

/-- Whether a node is a plain scalar without a text, which counts as a list or a map without
entries. -/
def isEmptyNode : Yaml.Node → Bool
  | .scalar _ s => s.style = .plain && s.text.isEmpty
  | _ => false

/-- A list of texts. -/
def readTexts (d : Yaml.Document) (node : Yaml.Node) : Option (List String) :=
  match node with
  | .list _ items => items.mapM fun item => (d.target item).bind readText
  | node => if isEmptyNode node then some [] else Option.none

/-- The integer that a plain scalar writes: decimal digits without a needless zero in front, or
`0x`, `0o` or `0b` and digits of base 16, 8 or 2, perhaps after a plus sign. -/
def unsigned? (text : String) : Option Nat :=
  let digits := match text.toList with
    | '+' :: rest => rest
    | cs => cs
  match digits with
  | '0' :: 'x' :: rest => Digits.number? 16 rest
  | '0' :: 'o' :: rest => Digits.number? 8 rest
  | '0' :: 'b' :: rest => Digits.number? 2 rest
  | '0' :: _ :: _ => Option.none
  | cs => Digits.number? 10 cs

/-- Whether a scalar may be a number: a plain one, or a block of lines with the tag of integers. -/
def maySpellNumber (tag : Option Tag) (s : Scalar) : Bool :=
  s.style = .plain || (s.style = .literal && tag = some Tag.integer)

/-- A number up to a greatest one. -/
def readNumber (greatest : Nat) : Yaml.Node → Option Nat
  | .scalar p s =>
    if maySpellNumber p.tag s then (unsigned? s.text).filter (· ≤ greatest) else Option.none
  | _ => Option.none

/-- The greatest delay, in seconds: a number of 64 bits. -/
def maxSeconds : Nat := 18446744073709551615

/-- The greatest number of attempts: a number of 32 bits. -/
def maxAttempts : Nat := 4294967295

/-- The overrides with the value of a key. -/
def addPair (o : Overrides) (d : Yaml.Document) (key : String) (value : Yaml.Node) :
    Option Overrides :=
  match key with
  | "user-dir" => (optional readText value).map fun v => { o with userDirectory? := v.map Path.mk }
  | "system-dirs" =>
    (optional (readTexts d) value).map fun v =>
      { o with systemDirectories? := v.map fun dirs => dirs.map Path.mk }
  | "desktop-names" => (optional (readTexts d) value).map fun v => { o with desktops? := v }
  | "locale" => (optional readText value).map fun v => { o with locale? := v }
  | "save-delay-secs" =>
    (optional (readNumber maxSeconds) value).map fun v => { o with saveDelaySeconds? := v }
  | "max-name-attempts" =>
    (optional (readNumber maxAttempts) value).map fun v => { o with maxNameAttempts? := v }
  | _ => Option.none

/-- The overrides of the pairs of a map, none of whose keys is among those that were read. -/
def readPairs (d : Yaml.Document) (seen : List String) (o : Overrides) :
    List (Yaml.Node × Yaml.Node) → Option Overrides
  | [] => some o
  | (key, value) :: rest => do
    let key ← (d.target key).bind readText
    let value ← d.target value
    if seen.contains key then Option.none
    else readPairs d (key :: seen) (← o.addPair d key value) rest

/-- The overrides of a document. -/
def ofDocument (d : Yaml.Document) : Option Overrides :=
  match d.root with
  | .map _ pairs => readPairs d [] none pairs
  | root => if isEmptyNode root then some none else Option.none

/-- The overrides of the text of a settings file. -/
def parse (s : String) : Except Error Overrides :=
  if Text.isBlank s then .ok none
  else
    match Yaml.parse s with
    | some Option.none => .ok none
    | some (some d) =>
      match ofDocument d with
      | some o => .ok o
      | Option.none => .error .yaml
    | Option.none => .error .yaml

/-- The overrides of a settings file. -/
def load (fs : FileStore) (path : Path) : Except Error Overrides :=
  match fs.readText path with
  | .ok s => parse s
  | .error e =>
    .error (.config ("Failed to read settings file " ++ path.text ++ ": " ++ e.message)
      Option.none)

end Autostart.Overrides
