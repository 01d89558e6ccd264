import Autostart.Document.Fields
import Autostart.Entry.FieldSet
import Autostart.Path
import Autostart.Text.Markup

/-!
# Launchers

A launcher as the registry knows it: what its file says, what is derived from that for display, and
where its file stands in the search path together with the state of its deferred save. The icon and
the description are kept beside the texts that they come from, and are made anew whenever one of
those changes.
-/

namespace Autostart

/-- An icon to show. -/
inductive Icon where
  /-- An icon in a file. -/
  | file (path : Path)
  /-- An icon of the theme, by its name. -/
  | themed (name : String)
deriving DecidableEq, Repr

/-- The icon that a text specifies. An absolute path is a file. -/
def Icon.ofSpec (spec : String) : Icon :=
  if (Path.mk spec).isAbsolute then .file ⟨spec⟩ else .themed spec

/-- A launcher. -/
structure Entry where
  /-- The name of its file, without a directory. -/
  filename : String
  /-- The path of the file that speaks for it. -/
  source : Path
  /-- Whether it is switched off. -/
  hidden : Bool
  /-- Whether it is left out of lists. -/
  noDisplay : Bool
  /-- Its name. -/
  name? : Option String
  /-- Its command line. -/
  exec? : Option String
  /-- Its comment. -/
  comment? : Option String
  /-- The text that specifies its icon. -/
  iconSpec? : Option String
  /-- Its start delay in seconds. -/
  delay : Nat
  /-- Its icon. -/
  icon? : Option Icon
  /-- The markup that describes it. -/
  description : String
  /-- The rank of its source. It has none while one definition gives way to another. -/
  rank? : Option Nat
  /-- The lowest rank of the system that defines it too, as far as is known. -/
  shadow? : Option Nat
  /-- The fields that were changed since the last save. -/
  dirty : FieldSet
  /-- The file to save the changes into, when it is not the source. -/
  base? : Option Path
  /-- Whether the next report of a change to its file is about a write of the registry. -/
  ownWrite : Bool
  /-- When the save of its changes is due, in milliseconds. -/
  due? : Option Nat
deriving DecidableEq, Repr

namespace Entry

/-- What is shown for a launcher without a name and a command line. -/
def noName : String := "No name"

/-- What is shown for a launcher without a comment. -/
def noDescription : String := "No description"

/-- The first text that is not blank, and `default` when there is none. -/
def firstOf (texts : List (Option String)) (default : String) : String :=
  match texts.find? fun text => !Text.isMissing text with
  | some (some text) => text
  | _ => default

/-- The markup that describes a launcher: its name or else its command line in bold, and its comment
on the next line. -/
def describe (name? exec? comment? : Option String) : String :=
  "<b>" ++ Text.escapeMarkup (firstOf [name?, exec?] noName) ++ "</b>\n" ++
    Text.escapeMarkup (firstOf [comment?] noDescription)

/-- The launcher with its description made anew. -/
def describeAnew (e : Entry) : Entry :=
  { e with description := describe e.name? e.exec? e.comment? }

/-- The first text unless it is blank, and else the second. -/
def nameOr (name? exec? : Option String) : Option String :=
  if Text.isMissing name? then exec? else name?

/-- The launcher of a document found at a path in the directory of a rank. -/
def ofDocument (filename : String) (path : Path) (d : Document) (locale? : Option Locale)
    (rank : Nat) : Entry :=
  let exec? := d.text? Document.Key.exec
  let name? := nameOr (d.localText? Document.Key.name locale?) exec?
  let comment? := d.localText? Document.Key.comment locale?
  let iconSpec? := d.localText? Document.Key.icon locale?
  { filename
    source := path
    hidden := d.flag Document.Key.hidden false
    noDisplay := d.flag Document.Key.noDisplay false
    name?
    exec?
    comment?
    iconSpec?
    delay := d.delay
    icon? := iconSpec?.map Icon.ofSpec
    description := describe name? exec? comment?
    rank? := some rank
    shadow? := none
    dirty := .none
    base? := none
    ownWrite := false
    due? := none }

/-- A new launcher of the user, of which no field is saved. -/
def ofCommand (filename : String) (path : Path) (name? comment? : Option String) (exec : String)
    (delay : Nat) : Entry :=
  let name? := nameOr name? (some exec)
  { filename
    source := path
    hidden := false
    noDisplay := false
    name?
    exec? := some exec
    comment?
    iconSpec? := none
    delay
    icon? := none
    description := describe name? (some exec) comment?
    rank? := some 0
    shadow? := none
    dirty := .all
    base? := none
    ownWrite := false
    due? := none }

/-- Whether a save is due or changes wait for one. -/
def isPending (e : Entry) : Bool :=
  e.due?.isSome || !e.dirty.isEmpty

/-- Whether a launcher may run on one of the desktops. -/
def isLaunchable (d : Document) (desktops : List String) : Bool :=
  let listed (items : List String) : Bool := items.any fun item => desktops.contains item
  (d.items? Document.Key.onlyShowIn).all listed &&
    (d.items? Document.Key.notShowIn).all fun items => !listed items

/-- Whether a document says what the launcher holds. -/
def agreesWith (e : Entry) (d : Document) (locale? : Option Locale) : Bool :=
  d.flag Document.Key.hidden false == e.hidden &&
    Text.agree (d.localText? Document.Key.name locale?) e.name? &&
    Text.agree (d.localText? Document.Key.comment locale?) e.comment? &&
    Text.agree (d.text? Document.Key.exec) e.exec? &&
    Text.agree (d.localText? Document.Key.icon locale?) e.iconSpec? &&
    d.delay == e.delay

/-- The document with a text of the launcher stored for a locale, and a text for everybody else. -/
def storeLocal (d : Document) (key : String) (locale? : Option Locale) (value? : Option String) :
    Document :=
  (d.setLocalText key locale? (value?.getD "")).fillUntranslated key locale?

/-- The document with a field of the launcher stored. -/
def storeField (e : Entry) (locale? : Option Locale) (d : Document) : Field → Document
  | .hidden => d.setFlag Document.Key.hidden e.hidden
  | .name => storeLocal d Document.Key.name locale? e.name?
  | .comment => storeLocal d Document.Key.comment locale? e.comment?
  | .exec => d.setText Document.Key.exec (e.exec?.getD "")
  | .delay => d.setDelay e.delay

/-- The document with the changed fields of the launcher stored, and all else as it was. -/
def mergeInto (e : Entry) (d : Document) (locale? : Option Locale) : Document :=
  e.dirty.toList.foldl (e.storeField locale?) d

end Entry

end Autostart
