import Autostart.Document.Basic
import Autostart.Document.Value
import Autostart.Locale
import Autostart.Text.Digits

/-!
# Values of the main group

Reading and storing the values of the main group by their kind: texts, localized texts, truth
values, lists and the start delay. A localized text is looked up under the candidates of a locale in
their order, and last under the key alone.
-/

namespace Autostart.Document

namespace Key

/-- The kind of a desktop entry. -/
def type : String := "Type"
/-- Whether the launcher is switched off. -/
def hidden : String := "Hidden"
/-- Whether the launcher is left out of lists. -/
def noDisplay : String := "NoDisplay"
/-- The name to show. -/
def name : String := "Name"
/-- The description to show. -/
def comment : String := "Comment"
/-- The command line to run. -/
def exec : String := "Exec"
/-- The icon to show. -/
def icon : String := "Icon"
/-- The desktops that run the launcher. -/
def onlyShowIn : String := "OnlyShowIn"
/-- The desktops that do not run the launcher. -/
def notShowIn : String := "NotShowIn"
/-- The seconds to wait after login. -/
def delay : String := "X-MATE-Autostart-Delay"

end Key

/-- Whether the main group has a key without a locale suffix. -/
def hasKey (d : Document) (key : String) : Bool :=
  (d.rawValue? key none).isSome

/-- The text of a key. -/
def text? (d : Document) (key : String) : Option String :=
  (d.rawValue? key none).map unescape

/-- The text of a key for a locale. -/
def localText? (d : Document) (key : String) (locale? : Option Locale) : Option String :=
  match locale? with
  | none => d.text? key
  | some locale =>
    match locale.candidates.findSome? fun suffix => d.rawValue? key (some suffix) with
    | some raw => some (unescape raw)
    | none => d.text? key

/-- The truth value of a key, and `default` when it has none. -/
def flag (d : Document) (key : String) (default : Bool) : Bool :=
  match (d.rawValue? key none).map Text.trim with
  | some "true" | some "1" => true
  | some "false" | some "0" => false
  | _ => default

/-- The list of a key. -/
def items? (d : Document) (key : String) : Option (List String) :=
  (d.rawValue? key none).map items

/-- The greatest integer of 64 bits with a sign. -/
def maxInteger : Int := 9223372036854775807

/-- The greatest delay, which is the greatest number of 32 bits. -/
def maxDelay : Nat := 4294967295

/-- The delay that a text writes. A negative integer counts as zero and a large one as the greatest
delay. A text that is no integer of 64 bits counts as zero. -/
def delayOf (s : String) : Nat :=
  match Digits.integer? (Text.trim s).toList with
  | some n => if n < 0 ∨ maxInteger < n then 0 else min n.toNat maxDelay
  | none => 0

/-- The start delay in seconds. -/
def delay (d : Document) : Nat :=
  match d.rawValue? Key.delay none with
  | some raw => delayOf raw
  | none => 0

/-- The document with a text stored. -/
def setText (d : Document) (key value : String) : Document :=
  d.store key none (escape value)

/-- The document with a truth value stored. -/
def setFlag (d : Document) (key : String) (value : Bool) : Document :=
  d.store key none (if value then "true" else "false")

/-- The document with a text stored for a locale. -/
def setLocalText (d : Document) (key : String) (locale? : Option Locale) (value : String) :
    Document :=
  d.store key (locale?.map Locale.suffix) (escape value)

/-- The document with a text under the key alone: when it is missing or empty there, the text that
the locale sees is stored. -/
def fillUntranslated (d : Document) (key : String) (locale? : Option Locale) : Document :=
  if ((d.text? key).getD "").isEmpty then
    match d.localText? key locale? with
    | some value => d.setText key value
    | none => d
  else d

/-- The document with a start delay stored. -/
def setDelay (d : Document) (seconds : Nat) : Document :=
  d.store Key.delay none (toString seconds)

/-- A new launcher: the main group with nothing but its type. -/
def application : Document :=
  empty.setText Key.type "Application"

end Autostart.Document
