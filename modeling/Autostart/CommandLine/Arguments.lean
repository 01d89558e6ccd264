import Autostart.Text.Chars
import Autostart.Text.Digits

/-!
# Arguments

How a list of arguments is read against the options of a command. An option has a long name and
perhaps a letter, takes a value or none, and may be given once or often. A value follows in the next
argument, or after an equals sign, or right after the letter; letters without a value can be joined.
An argument that starts with a dash is never the value of an option before it, and after two dashes
nothing is an option.
-/

namespace Autostart.CommandLine

/-- What the value of an option may be. -/
inductive ValueKind where
  /-- Any text. -/
  | text
  /-- A text that is not empty. -/
  | path
  /-- A number of 32 bits. -/
  | number
deriving DecidableEq, Repr

/-- What an option takes. -/
inductive Takes where
  /-- Nothing. -/
  | nothing
  /-- One value. -/
  | one (kind : ValueKind)
  /-- Values between colons, and more of them each time the option is given. -/
  | many (kind : ValueKind)
deriving DecidableEq, Repr

/-- An option. -/
structure OptionSpec where
  /-- The name after two dashes. -/
  long : String
  /-- The letter after one dash. -/
  short? : Option Char
  /-- What it takes. -/
  takes : Takes
deriving DecidableEq, Repr

/-- Why the reading of arguments ends without a command. -/
inductive Stop where
  /-- The arguments are wrong. -/
  | usage
  /-- The version is asked for. -/
  | version
  /-- Help is asked for. -/
  | help
deriving DecidableEq, Repr

/-- The options of a command, the number of its plain arguments and its subcommands. -/
structure Level where
  /-- The options. -/
  options : List OptionSpec
  /-- How many plain arguments it takes. -/
  places : Nat
  /-- The names of its subcommands. -/
  subcommands : List String

/-- What the arguments of a command say. -/
structure Given where
  /-- The options given, with their values, in order. -/
  options : List (String × List String)
  /-- The plain arguments. -/
  plain : List String
  /-- The subcommand and its arguments. -/
  subcommand? : Option (String × List String)
deriving DecidableEq, Repr

/-- The greatest number of 32 bits. -/
def maxNumber : Int := 4294967295

/-- The number of 32 bits that a text writes. -/
def number? (s : String) : Option Nat :=
  match Digits.integer? s.toList with
  | some n => if 0 ≤ n ∧ n ≤ maxNumber then some n.toNat else none
  | none => none

/-- Whether a text is a value of a kind. -/
def ValueKind.accepts (kind : ValueKind) (s : String) : Bool :=
  match kind with
  | .text => true
  | .path => !s.isEmpty
  | .number => (number? s).isSome

namespace Given

/-- Nothing given. -/
def nothing : Given := ⟨[], [], none⟩

/-- Whether an option was given. -/
def has (g : Given) (long : String) : Bool :=
  g.options.any fun (name, _) => name == long

/-- The values of an option, when it was given. -/
def values? (g : Given) (long : String) : Option (List String) :=
  if g.has long then
    some ((g.options.filter fun (name, _) => name == long).flatMap (·.2))
  else none

/-- The value of an option that takes one, when it was given. -/
def value? (g : Given) (long : String) : Option String :=
  (g.values? long).bind List.head?

/-- The values that a text gives to an option. -/
def valuesOf (takes : Takes) (s : String) : Except Stop (List String) :=
  match takes with
  | .nothing => .error .usage
  | .one kind => if kind.accepts s then .ok [s] else .error .usage
  | .many kind =>
    let values := Text.splitAll ':' s
    if values.all kind.accepts then .ok values else .error .usage

/-- What was given, with one more option and the text of its value. -/
def withValue (g : Given) (spec : OptionSpec) (s : String) : Except Stop Given := do
  let values ← valuesOf spec.takes s
  let repeats := match spec.takes with
    | .many _ => true
    | _ => false
  if !repeats && g.has spec.long then throw .usage
  return { g with options := g.options ++ [(spec.long, values)] }

/-- What was given, with one more option that takes nothing. -/
def withFlag (g : Given) (spec : OptionSpec) : Except Stop Given :=
  if spec.long = "version" then .error .version
  else if spec.long = "help" then .error .help
  else if g.has spec.long then .error .usage
  else .ok { g with options := g.options ++ [(spec.long, [])] }

/-- What was given, after the letters of an argument, and the option that waits for its value. -/
def withLetters (level : Level) (g : Given) :
    List Char → Except Stop (Given × Option OptionSpec)
  | [] => .ok (g, none)
  | letter :: rest =>
    match level.options.find? fun spec => spec.short? = some letter with
    | none => .error .usage
    | some spec =>
      match spec.takes, rest with
      | .nothing, _ =>
        match g.withFlag spec with
        | .ok g => g.withLetters level rest
        | .error stop => .error stop
      | _, [] => .ok (g, some spec)
      | _, '=' :: value => (g.withValue spec (String.ofList value)).map (·, none)
      | _, value => (g.withValue spec (String.ofList value)).map (·, none)

/-- What was given, after an argument with two dashes in front, and the option that waits for its
value. -/
def withLong (level : Level) (g : Given) (cs : List Char) :
    Except Stop (Given × Option OptionSpec) :=
  let (name, value?) := match Chars.splitFirst '=' cs with
    | some (name, value) => (name, some (String.ofList value))
    | none => (cs, none)
  match level.options.find? fun spec => spec.long.toList = name with
  | none => .error .usage
  | some spec =>
    match spec.takes, value? with
    | .nothing, none => (g.withFlag spec).map (·, none)
    | .nothing, some _ => .error .usage
    | _, some value => (g.withValue spec value).map (·, none)
    | _, none => .ok (g, some spec)

/-- What was given, with one more plain argument. -/
def withPlain (level : Level) (g : Given) (s : String) : Except Stop Given :=
  if g.plain.length < level.places then .ok { g with plain := g.plain ++ [s] }
  else .error .usage

/-- Reads arguments, after what was given and while an option may wait for its value. -/
def readAfter (level : Level) (g : Given) (waiting? : Option OptionSpec) :
    List String → Except Stop Given
  | [] => if waiting?.isSome then .error .usage else .ok g
  | arg :: rest =>
    match waiting?, arg.toList with
    | some _, '-' :: _ :: _ => .error .usage
    | some spec, _ =>
      match g.withValue spec arg with
      | .ok g => g.readAfter level none rest
      | .error stop => .error stop
    | none, ['-', '-'] => rest.foldlM (withPlain level) g
    | none, '-' :: '-' :: name =>
      match g.withLong level name with
      | .ok (g, waiting?) => g.readAfter level waiting? rest
      | .error stop => .error stop
    | none, '-' :: letter :: letters =>
      match g.withLetters level (letter :: letters) with
      | .ok (g, waiting?) => g.readAfter level waiting? rest
      | .error stop => .error stop
    | none, _ =>
      if level.subcommands.contains arg then .ok { g with subcommand? := some (arg, rest) }
      else
        match g.withPlain level arg with
        | .ok g => g.readAfter level none rest
        | .error stop => .error stop

/-- What a list of arguments says to a command. -/
def read (level : Level) (args : List String) : Except Stop Given :=
  nothing.readAfter level none args

end Given

end Autostart.CommandLine
