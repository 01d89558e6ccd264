import Autostart.Text.Chars

/-!
# Documents

A desktop entry as a key file: lines before the first group, then groups of lines under a header.
Each line keeps the text that it was read from, so a document that nobody changed is written as it
was read. Storing a value changes the line of its key, or adds one after the last key of the group.
-/

namespace Autostart

namespace Document

/-- A line that gives a key its value, perhaps for one locale. -/
structure KeyLine where
  /-- The key. -/
  key : String
  /-- The locale suffix, for a localized value. -/
  locale? : Option String
  /-- The value as it is written. -/
  value : String
  /-- The whole line. -/
  text : String
deriving DecidableEq, Repr

/-- The line that gives a key its value, in the plainest form. -/
def KeyLine.plain (key : String) (locale? : Option String) (value : String) : KeyLine :=
  match locale? with
  | some locale => ⟨key, some locale, value, key ++ "[" ++ locale ++ "]=" ++ value⟩
  | none => ⟨key, none, value, key ++ "=" ++ value⟩

/-- A line of a group. -/
inductive Line where
  /-- A comment or a blank line. -/
  | verbatim (text : String)
  /-- A line with a key. -/
  | entry (line : KeyLine)
deriving DecidableEq, Repr

namespace Line

/-- The text of a line. -/
def text : Line → String
  | verbatim text => text
  | entry line => line.text

/-- Whether a line has a key. -/
def isEntry : Line → Bool
  | verbatim _ => false
  | entry _ => true

/-- Whether a line is blank. -/
def isBlank : Line → Bool
  | verbatim text => Text.isBlank text
  | entry _ => false

/-- The value that a line gives to a key under a locale suffix. -/
def value? (key : String) (locale? : Option String) : Line → Option String
  | verbatim _ => none
  | entry line => if line.key = key ∧ line.locale? = locale? then some line.value else none

end Line

/-- A group: its header and the lines below. -/
structure Group where
  /-- The name between the brackets. -/
  name : String
  /-- The line of the header. -/
  header : String
  /-- The lines below the header. -/
  lines : List Line
deriving DecidableEq, Repr

/-- The value that the lines give to a key under a locale suffix. The first such line counts. -/
def valueIn (key : String) (locale? : Option String) (lines : List Line) : Option String :=
  lines.findSome? (Line.value? key locale?)

/-- The lines with a value in the first line of its key, and nothing when the key has no line. A
line that holds the value already is kept as it is written. -/
def replaceValue (key : String) (locale? : Option String) (value : String) :
    List Line → Option (List Line)
  | [] => none
  | line :: rest =>
    match line.value? key locale? with
    | some old =>
      some ((if old = value then line else .entry (.plain key locale? value)) :: rest)
    | none => (replaceValue key locale? value rest).map (line :: ·)

/-- The lines with one more before the longest end of lines that pass the test. -/
def insertBeforeEnd (skip : Line → Bool) (line : Line) (lines : List Line) : List Line :=
  (lines.reverse.dropWhile skip).reverse ++ line :: (lines.reverse.takeWhile skip).reverse

/-- The lines with one more after the last key, or before the blank lines at the end when there is
no key. -/
def addLine (line : Line) (lines : List Line) : List Line :=
  if lines.any Line.isEntry then insertBeforeEnd (fun l => !l.isEntry) line lines
  else insertBeforeEnd Line.isBlank line lines

/-- The lines with a value stored. -/
def storeIn (key : String) (locale? : Option String) (value : String) (lines : List Line) :
    List Line :=
  match replaceValue key locale? value lines with
  | some lines => lines
  | none => addLine (.entry (.plain key locale? value)) lines

end Document

/-- A key file. -/
structure Document where
  /-- The comments and blank lines before the first group. -/
  preamble : List String
  /-- The groups. -/
  groups : List Document.Group
deriving DecidableEq, Repr

namespace Document

/-- The document without any line. -/
def empty : Document := ⟨[], []⟩

/-- The group that describes the launcher. -/
def mainGroup : String := "Desktop Entry"

/-- The group of a name. -/
def group? (d : Document) (name : String) : Option Group :=
  d.groups.find? fun g => g.name = name

/-- Whether there is a group of a name. -/
def hasGroup (d : Document) (name : String) : Bool :=
  (d.group? name).isSome

/-- The names of the groups, in order. -/
def groupNames (d : Document) : List String :=
  d.groups.map Group.name

/-- The lines of a group, its header first. -/
def Group.allLines (g : Group) : List String :=
  g.header :: g.lines.map Line.text

/-- The lines of a document. -/
def lines (d : Document) : List String :=
  d.preamble ++ d.groups.flatMap Group.allLines

/-- Lines as a text, each ended by a line feed. -/
def joinLines (lines : List String) : String :=
  String.join (lines.map (· ++ "\n"))

/-- The text of a document. -/
def text (d : Document) : String :=
  joinLines d.lines

/-- The value that the main group gives to a key under a locale suffix, as it is written. -/
def rawValue? (d : Document) (key : String) (locale? : Option String) : Option String :=
  (d.group? mainGroup).bind fun g => valueIn key locale? g.lines

/-- The groups with the first one of a name changed. -/
def changeGroup (name : String) (f : Group → Group) : List Group → List Group
  | [] => []
  | g :: rest => if g.name = name then f g :: rest else g :: changeGroup name f rest

/-- The document with a main group. A new one comes first, with a blank line at its end when other
groups follow. -/
def withMainGroup (d : Document) : Document :=
  if d.hasGroup mainGroup then d
  else
    let separator := if d.groups.isEmpty then [] else [Line.verbatim ""]
    { d with groups := ⟨mainGroup, "[" ++ mainGroup ++ "]", separator⟩ :: d.groups }

/-- The document with a value, as it is written, stored in the main group. -/
def store (d : Document) (key : String) (locale? : Option String) (value : String) : Document :=
  let d := d.withMainGroup
  { d with
    groups := changeGroup mainGroup (fun g => { g with lines := storeIn key locale? value g.lines })
      d.groups }

end Document

end Autostart
