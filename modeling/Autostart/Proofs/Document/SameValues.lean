import Autostart.Proofs.Document.Escaping
import Autostart.Proofs.Entry.Overwriting

/-!
# Texts that are there already

To set a text that a key has already changes nothing when the line of the key holds the text in its
escaped form, however the line is spaced. But a store compares what is written, and readers accept
more than escaped forms: a raw tab, an escape that is not known, a backslash at the end, an escaped
space inside a text. A line that holds the text in such a way is written anew, without white space
around its equals sign. Every text is read as before, but a number or a list may not be.
-/

namespace Autostart.Document

/-- Whether a value is in its escaped form is found out by escaping what it stands for. -/
instance (raw : String) : Decidable (IsEscaped raw) :=
  decidable_of_iff _ escape_unescape_eq_iff

/-! ## The line of a key -/

section Lines

variable {key : String} {locale? : Option String}

/-- A value is replaced in the first line of its key, unless the line holds it. -/
theorem replaceValue_append {front : List Line}
    (hfront : ∀ line ∈ front, line.value? key locale? = none) {line : Line} {old : String}
    (hline : line.value? key locale? = some old) (value : String) (back : List Line) :
    replaceValue key locale? value (front ++ line :: back) = some (front ++
      (if old = value then line else .entry (.plain key locale? value)) :: back) := by
  induction front with
  | nil =>
    rw [List.nil_append, replaceValue, hline]
    rfl
  | cons first rest ih =>
    rw [List.cons_append, replaceValue, hfront first List.mem_cons_self]
    dsimp only
    rw [ih fun l hl => hfront l (List.mem_cons_of_mem first hl)]
    rfl

/-- A value of the main group stands in a line of the document, and another value stored under its
key changes this line only. -/
theorem exists_line_of_rawValue? {d : Document} {raw : String}
    (h : d.rawValue? key locale? = some raw) (value : String) :
    ∃ front line back, d.lines = front ++ line.text :: back ∧
      (∃ g ∈ d.groups, .entry line ∈ g.lines) ∧ line.key = key ∧ line.locale? = locale? ∧
      line.value = raw ∧ (d.store key locale? value).lines =
        front ++ (if raw = value then line else .plain key locale? value).text :: back := by
  obtain ⟨preamble, groups⟩ := d
  obtain ⟨main, hmain, hvalue⟩ := Option.bind_eq_some_iff.1 h
  obtain ⟨before, after, rfl, hname, hfirst⟩ := exists_groups_of_group? hmain
  obtain ⟨above, first, below, hlines, hread, habove⟩ := List.findSome?_eq_some_iff.1 hvalue
  obtain ⟨line, rfl, hkey, hlocale, hraw⟩ := exists_entry_of_value? hread
  refine ⟨preamble ++ before.flatMap Group.allLines ++ main.header :: above.map Line.text, line,
    below.map Line.text ++ after.flatMap Group.allLines, ?_, ⟨main, by simp, by simp [hlines]⟩,
    hkey, hlocale, hraw, ?_⟩
  · simp [lines, Group.allLines, hlines, Line.text]
  · have hstored : storeIn key locale? value main.lines =
        above ++ .entry (if raw = value then line else .plain key locale? value) :: below := by
      unfold storeIn
      rw [hlines, replaceValue_append habove hread]
      dsimp only
      split <;> rfl
    rw [store_of_groups key locale? value preamble hname hfirst, hstored]
    simp [lines, Group.allLines, Line.text]

end Lines

/-! ## What is read from a line -/

/-- A text that is read as a key alone is the key. -/
theorem toList_of_readKey {cs : List Char} {key : String} (h : readKey cs = some (key, none)) :
    key.toList = cs := by
  unfold readKey at h
  split at h
  · dsimp only at h
    split at h <;> cases h
  · split at h
    · cases h
    · cases h
      exact String.toList_ofList

variable {line : KeyLine}

/-- A value that is read starts with no white space, so what it stands for can be stored. -/
theorem isStorable_of_isRead (h : (Line.entry line).IsRead) :
    Text.IsStorable (unescape line.value) := by
  obtain ⟨left, right, -, -, -, hvalue, -⟩ := exists_split_of_readLine h
  refine isStorable_unescape fun c hc => ?_
  rw [hvalue] at hc
  exact Chars.isBlank_of_head?_trimStart hc

/-- From the plain line of a value this value is read, without white space at its start. -/
theorem value_of_text_eq (h : (Line.entry line).IsRead) (hlocale : line.locale? = none)
    {value : String} (htext : line.text = (KeyLine.plain line.key none value).text) :
    line.value = Text.trimStart value := by
  obtain ⟨left, right, hline, hequals, hkey, hvalue, -⟩ := exists_split_of_readLine h
  rw [hlocale] at hkey
  -- The key has no equals sign, so the plain line is cut behind it too.
  have hequals' : '=' ∉ line.key.toList := fun hmem => by
    rw [toList_of_readKey hkey] at hmem
    exact hequals (Chars.mem_of_mem_trim hmem)
  have hplain : line.text.toList = line.key.toList ++ '=' :: value.toList := by
    rw [htext]
    simp [KeyLine.plain]
  obtain ⟨-, rfl⟩ := Chars.append_cons_inj hequals hequals' (hline.symm.trans hplain)
  exact String.toList_inj.1 (hvalue.trans String.toList_ofList.symm)

/-- A line is the plain one of what it holds only when this is in its escaped form. -/
theorem isEscaped_of_text_eq (h : (Line.entry line).IsRead) (hlocale : line.locale? = none)
    (htext : line.text = (KeyLine.plain line.key none (escape (unescape line.value))).text) :
    IsEscaped line.value := by
  have hvalue := value_of_text_eq h hlocale htext
  rw [trimStart_escape (isStorable_of_isRead h)] at hvalue
  rw [hvalue]
  exact isEscaped_escape _

/-! ## Setting a text that is there -/

/-- Two texts that differ in one line at most are the same only when it is the same. -/
theorem joinLines_append_cons_inj {front back : List String} {line line' : String}
    (h : joinLines (front ++ line :: back) = joinLines (front ++ line' :: back)) :
    line = line' := by
  have hchars := congrArg String.toList h
  induction front with
  | nil =>
    rw [List.nil_append, List.nil_append, Text.toList_joinLines_cons,
      Text.toList_joinLines_cons] at hchars
    exact String.toList_inj.1 (List.append_cancel_right hchars)
  | cons first rest ih =>
    rw [List.cons_append, List.cons_append, Text.toList_joinLines_cons,
      Text.toList_joinLines_cons] at hchars
    obtain ⟨-, hrest⟩ := List.cons.inj (List.append_cancel_left hchars)
    exact ih (String.toList_inj.1 hrest) hrest

/-- To set the text that a key has already leaves the text of a parsed document exactly when the
value stands in its line in the escaped form, and then the document as a whole. Otherwise the line
gives way to the plain one, and the other lines stay. Every text is read as before. -/
theorem setText_same {s : String} {d : Document} {key value : String} (hparse : parse s = .ok d)
    (hvalue : d.text? key = some value) :
    ∃ front line back, d.lines = front ++ line.text :: back ∧
      readLine line.text = .ok (.entry line) ∧ line.key = key ∧ line.locale? = none ∧
      d.rawValue? key none = some line.value ∧
      ((d.setText key value).text = d.text ↔ IsEscaped line.value) ∧
      (IsEscaped line.value → d.setText key value = d) ∧
      (¬IsEscaped line.value →
        (d.setText key value).lines = front ++ (key ++ "=" ++ escape value) :: back) ∧
      ∀ key', (d.setText key value).text? key' = d.text? key' := by
  obtain ⟨raw, hraw, rfl⟩ := Option.map_eq_some_iff.1 hvalue
  obtain ⟨front, line, back, hlines, ⟨g, hg, hmem⟩, rfl, hlocale, rfl, hstored⟩ :=
    exists_line_of_rawValue? hraw (escape (unescape raw))
  have hread : (Line.entry line).IsRead := ((isRead_of_parse hparse).1.groups g hg).lines _ hmem
  have hsame : IsEscaped line.value → d.setText line.key (unescape line.value) = d := fun h => by
    unfold setText
    rw [escape_unescape_eq_iff.2 h]
    exact store_self hraw
  have hother : ¬IsEscaped line.value → (d.setText line.key (unescape line.value)).lines =
      front ++ (line.key ++ "=" ++ escape (unescape line.value)) :: back := fun h => by
    have hne : line.value ≠ escape (unescape line.value) := fun heq =>
      h (escape_unescape_eq_iff.1 heq.symm)
    rw [if_neg hne] at hstored
    exact hstored
  refine ⟨front, line, back, hlines, hread, rfl, hlocale, hraw, ⟨fun htext => ?_, fun h => ?_⟩,
    hsame, hother, fun key' => ?_⟩
  · by_contra h
    unfold text at htext
    rw [hother h, hlines] at htext
    exact h (isEscaped_of_text_eq hread hlocale (joinLines_append_cons_inj htext).symm)
  · rw [hsame h]
  · unfold text? setText
    rw [rawValue?_store]
    split
    · next heq =>
      rw [heq.1, hraw, Option.map_some, Option.map_some, unescape_escape_eq]
    · rfl

/-- A launcher with one key, given as it is written. -/
def oneKeyLauncher (line : String) : String :=
  "[Desktop Entry]\n" ++ line ++ "\n"

/-- The document of a launcher whose name has a space, a backslash and a tab in the escaped form,
and white space around the equals sign. -/
def spacedName : Document :=
  ⟨[], [⟨"Desktop Entry", "[Desktop Entry]",
    [.entry ⟨"Name", none, "\\sA\\\\q\\t", "Name \t= \\sA\\\\q\\t"⟩]⟩]⟩

/-- The line of the name stays when the name is set again. -/
theorem setText_same_spacedName :
    parse (oneKeyLauncher "Name \t= \\sA\\\\q\\t") = .ok spacedName ∧
      spacedName.text? "Name" = some " A\\q\t" ∧
      (spacedName.setText "Name" " A\\q\t").text = spacedName.text := by
  have hparse : parse (oneKeyLauncher "Name \t= \\sA\\\\q\\t") = .ok spacedName := by rfl
  have hvalue : spacedName.text? "Name" = some " A\\q\t" := by rfl
  obtain ⟨front, line, back, -, -, -, -, hraw, hiff, -⟩ := setText_same hparse hvalue
  have hline : line.value = "\\sA\\\\q\\t" := Option.some.inj (hraw.symm.trans (by rfl))
  exact ⟨hparse, hvalue, hiff.2 (by rw [hline]; decide)⟩

/-- A raw tab, an escape that is not known, an escaped space inside a text and a backslash at its
end: a line with any of these is written anew when its text is set again. A delay with a tab behind
it is lost that way. -/
theorem setText_rewrites :
    (∀ raw ∈ ["A\tB", "A\\qB", "A\\sB", "A\\"], ∃ d value,
      parse (oneKeyLauncher ("Name=" ++ raw)) = .ok d ∧ d.text? "Name" = some value ∧
        (d.setText "Name" value).text ≠ d.text) ∧
    ∃ d, parse (oneKeyLauncher "X-MATE-Autostart-Delay=5\t") = .ok d ∧
      d.text? "X-MATE-Autostart-Delay" = some "5\t" ∧ d.delay = 5 ∧
      (d.setText "X-MATE-Autostart-Delay" "5\t").delay = 0 := by
  constructor
  · simp only [List.forall_mem_cons]
    exact ⟨⟨_, _, by rfl, by rfl, by decide⟩, ⟨_, _, by rfl, by rfl, by decide⟩,
      ⟨_, _, by rfl, by rfl, by decide⟩, ⟨_, _, by rfl, by rfl, by decide⟩, by simp⟩
  · exact ⟨_, by rfl, by rfl, by rfl, by rfl⟩

end Autostart.Document
