import Autostart.Environment
import Autostart.Text.Chars

/-!
# Locales

A locale identifier is written `lang_COUNTRY.ENCODING@MODIFIER`, where everything but the language
is optional. The encoding plays no part in the choice of a localized text. The candidates of a
locale are the suffixes under which its texts are looked up, the most specific first, and the first
of them is the suffix under which a text is stored.
-/

namespace Autostart

/-- A locale identifier. -/
structure Locale where
  /-- The language. -/
  lang : String
  /-- The country, after an underscore. -/
  country? : Option String
  /-- The encoding, after a dot. -/
  encoding? : Option String
  /-- The modifier, after an at sign. -/
  modifier? : Option String
deriving DecidableEq, Repr

namespace Locale

/-- The text before the first `sep`, and the text after it when there is one. -/
def cut (sep : Char) (s : String) : String × Option String :=
  match Text.splitFirst? sep s with
  | some (before, after) => (before, some after)
  | none => (s, none)

/-- The locale that a text names. The empty language and the languages `C` and `POSIX` mean that
no text is localized. -/
def parse (s : String) : Option Locale :=
  let (rest, modifier?) := cut '@' (Text.trim s)
  let (rest, encoding?) := cut '.' rest
  let (lang, country?) := cut '_' rest
  if lang = "" ∨ lang = "C" ∨ lang = "POSIX" then none
  else some ⟨lang, country?, encoding?, modifier?⟩

/-- The variables that name the locale of messages, the first one that is not blank deciding. -/
def messageVariables : List String := ["LC_ALL", "LC_MESSAGES", "LANG"]

/-- The locale of messages of an environment. -/
def ofEnvironment (env : Environment) : Option Locale :=
  match (messageVariables.filterMap env).find? fun value => !Text.isBlank value with
  | some value => parse value
  | none => none

/-- An optional part with its separator in front. -/
def part (sep : String) : Option String → String
  | some s => sep ++ s
  | none => ""

/-- The identifier of a locale. -/
def identifier (l : Locale) : String :=
  l.lang ++ part "_" l.country? ++ part "." l.encoding? ++ part "@" l.modifier?

/-- The suffix under which a text for the locale is stored. -/
def suffix (l : Locale) : String :=
  l.lang ++ part "_" l.country? ++ part "@" l.modifier?

/-- The suffixes under which a text for the locale is looked up, in this order. -/
def candidates (l : Locale) : List String :=
  (match l.country?, l.modifier? with
    | some c, some m => [l.lang ++ "_" ++ c ++ "@" ++ m, l.lang ++ "_" ++ c, l.lang ++ "@" ++ m]
    | some c, none => [l.lang ++ "_" ++ c]
    | none, some m => [l.lang ++ "@" ++ m]
    | none, none => []) ++ [l.lang]

/-- The first suffix under which a text is looked up is the one under which it is stored. -/
theorem head?_candidates (l : Locale) : l.candidates.head? = some l.suffix := by
  obtain ⟨lang, country?, encoding?, modifier?⟩ := l
  cases country? <;> cases modifier? <;> simp [candidates, suffix, part, String.append_assoc]

/-- The last suffix under which a text is looked up is the language alone. -/
theorem getLast?_candidates (l : Locale) : l.candidates.getLast? = some l.lang :=
  List.getLast?_concat

end Locale

end Autostart
