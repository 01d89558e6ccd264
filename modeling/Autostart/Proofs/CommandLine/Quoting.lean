import Autostart.CommandWords

/-!
# Quoted words split back

A word can be written in many ways: each of its characters may stand inside single quotes, inside
double quotes or after a backslash, and the parts of one word may be quoted differently. However the
words of a command line are written, splitting the line gives these words. The scan is followed part
by part: a part that is quoted extends the word that was read so far by what it stands for, and
leaves the scan outside quotes again, whatever comes after it.
-/

namespace Autostart.CommandWords

/-- How a character is written inside double quotes. -/
def escapeInDouble (c : Char) : List Char :=
  if isEscapable c then ['\\', c] else [c]

/-- A text writes a word with quotes and backslashes. -/
inductive WritesWord : List Char → List Char → Prop where
  /-- Single quotes keep all characters but the single quote. -/
  | single (cs : List Char) (closed : '\'' ∉ cs) : WritesWord cs ('\'' :: (cs ++ ['\'']))
  /-- Double quotes keep all characters, some of them after a backslash. -/
  | double (cs : List Char) : WritesWord cs ('"' :: (cs.flatMap escapeInDouble ++ ['"']))
  /-- A backslash keeps any character but the line feed. -/
  | escaped (c : Char) (kept : c ≠ '\n') : WritesWord [c] ['\\', c]
  /-- Parts of a word are written one after the other. -/
  | append {front back text text' : List Char} (first : WritesWord front text)
      (second : WritesWord back text') : WritesWord (front ++ back) (text ++ text')

/-- A text writes words with separators between them, and perhaps before and after them. -/
inductive WritesWords : List (List Char) → List Char → Prop where
  /-- Nothing writes no word. -/
  | nothing : WritesWords [] []
  /-- A separator may stand before a word or at the end. -/
  | separator {words : List (List Char)} {text : List Char} (c : Char)
      (separates : isSeparator c = true) (further : WritesWords words text) :
      WritesWords words (c :: text)
  /-- A word ends at a separator or at the end of the text. -/
  | word {word text rest : List Char} {words : List (List Char)} (written : WritesWord word text)
      (ends : ∀ c, rest.head? = some c → isSeparator c = true) (further : WritesWords words rest) :
      WritesWords (word :: words) (text ++ rest)

/-- A command line writes words. -/
def Writes (words : List String) (command : String) : Prop :=
  WritesWords (words.map String.toList) command.toList

/-! ## Parts of a word -/

attribute [local simp] scan

/-- A word that is extended twice is extended by both parts. -/
theorem extend_extend (word : Option (List Char)) (front back : List Char) :
    extend (extend word front) back = extend word (front ++ back) := by
  simp [extend]

/-- Single quotes are read up to the next one. -/
theorem scan_single {cs : List Char} (h : '\'' ∉ cs) (word rest : List Char) :
    scan .single (some word) (cs ++ '\'' :: rest) = scan .bare (some (word ++ cs)) rest := by
  induction cs generalizing word with
  | nil => simp
  | cons c cs ih =>
    obtain ⟨hc, hcs⟩ : '\'' ≠ c ∧ '\'' ∉ cs := by simpa using h
    rw [List.cons_append, scan, if_neg (Ne.symm hc)]
    show scan .single (some (word ++ [c])) _ = _
    rw [ih hcs, List.append_assoc, List.singleton_append]

/-- What a backslash escapes inside double quotes is no line feed. -/
theorem ne_of_isEscapable {c : Char} (h : isEscapable c = true) : c ≠ '\n' := by
  rintro rfl
  cases h

/-- A character that needs no backslash is read as it is inside double quotes. -/
theorem scan_double_of_not_escapable {c : Char} (h : isEscapable c = false)
    (word : Option (List Char)) (rest : List Char) :
    scan .double word (c :: rest) = scan .double (extend word [c]) rest := by
  have hc : (c ≠ '"' ∧ c ≠ '\\') ∧ c ≠ '$' ∧ c ≠ '\x60' := by
    simpa [isEscapable, and_assoc] using h
  rw [scan, if_neg hc.1.1]
  exact fun heq => hc.1.2 heq

/-- A character after a backslash is read as it is inside double quotes, when it needs one. -/
theorem scan_double_of_escapable {c : Char} (h : isEscapable c = true)
    (word : Option (List Char)) (rest : List Char) :
    scan .double word ('\\' :: c :: rest) = scan .double (extend word [c]) rest := by
  rw [scan, if_pos h]
  exact ne_of_isEscapable h

/-- Double quotes are read up to the next one that has no backslash before it. -/
theorem scan_double (cs word rest : List Char) :
    scan .double (some word) (cs.flatMap escapeInDouble ++ '"' :: rest) =
      scan .bare (some (word ++ cs)) rest := by
  induction cs generalizing word with
  | nil => simp
  | cons c cs ih =>
    have hstep : ∀ more, scan .double (some word) (escapeInDouble c ++ more) =
        scan .double (some (word ++ [c])) more := by
      intro more
      unfold escapeInDouble
      rcases hc : isEscapable c with _ | _
      · exact scan_double_of_not_escapable hc (some word) more
      · exact scan_double_of_escapable hc (some word) more
    rw [List.flatMap_cons, List.append_assoc, hstep, ih, List.append_assoc, List.singleton_append]

/-- A written word extends the word that was read before it. -/
theorem scan_of_writesWord {cs text : List Char} (h : WritesWord cs text)
    (word : Option (List Char)) (rest : List Char) :
    scan .bare word (text ++ rest) = scan .bare (extend word cs) rest := by
  -- Whatever was read before, and whatever follows, each part leaves the scan outside quotes.
  induction h generalizing word rest with
  | single cs closed =>
    rw [List.cons_append, List.append_assoc, List.singleton_append]
    show scan .single (some (word.getD [] ++ [])) _ = _
    rw [scan_single closed, List.append_nil]
    rfl
  | double cs =>
    rw [List.cons_append, List.append_assoc, List.singleton_append]
    show scan .double (some (word.getD [] ++ [])) _ = _
    rw [scan_double, List.append_nil]
    rfl
  | escaped c kept =>
    show scan .bare word ('\\' :: c :: rest) = _
    rw [scan]
    exact kept
  | append first second ih ih' =>
    rw [List.append_assoc, ih, ih', extend_extend]

/-! ## Words of a line -/

/-- A word may end where a separator follows. -/
theorem ends_of_isSeparator {c : Char} (h : isSeparator c = true) (rest : List Char) :
    ∀ d, (c :: rest).head? = some d → isSeparator d = true := by
  intro d hd
  exact Option.some.inj hd ▸ h

/-- A separator ends the word that was read before it. -/
theorem scan_separator {c : Char} (h : isSeparator c = true) (word : Option (List Char))
    (rest : List Char) :
    scan .bare word (c :: rest) = (scan .bare none rest).map (word.toList ++ ·) := by
  have hc : c ≠ '\\' := by
    rintro rfl
    cases h
  rw [scan, if_pos h]
  exact fun heq => hc heq

/-- Where a word ends, it is one of the words. -/
theorem scan_of_ends {rest : List Char} (ends : ∀ c, rest.head? = some c → isSeparator c = true)
    (word : List Char) :
    scan .bare (some word) rest = (scan .bare none rest).map (word :: ·) := by
  rcases rest with _ | ⟨c, rest⟩
  · rfl
  · have hc := ends c rfl
    rw [scan_separator hc, scan_separator hc]
    cases scan .bare none rest <;> rfl

/-- Written words are those of the line. -/
theorem scan_of_writesWords {words : List (List Char)} {text : List Char}
    (h : WritesWords words text) : scan .bare none text = .ok words := by
  induction h with
  | nothing => rfl
  | separator c separates further ih =>
    rw [scan_separator separates, ih]
    rfl
  | @word word text rest words written ends further ih =>
    have hword : extend none word = some word := rfl
    rw [scan_of_writesWord written, hword, scan_of_ends ends, ih]
    rfl

/-- Words can be written, each inside double quotes and with a space after it. -/
theorem exists_writes (words : List String) : ∃ command, Writes words command := by
  have hchars : ∀ words : List (List Char), ∃ text, WritesWords words text := by
    intro words
    induction words with
    | nil => exact ⟨[], .nothing⟩
    | cons word words ih =>
      obtain ⟨text, htext⟩ := ih
      have hspace : isSeparator ' ' = true := rfl
      exact ⟨_, .word (.double word) (ends_of_isSeparator hspace text) (.separator ' ' rfl htext)⟩
  obtain ⟨text, htext⟩ := hchars (words.map String.toList)
  exact ⟨String.ofList text, by rwa [Writes, String.toList_ofList]⟩

/-- Words, of which there is one at least, can be written in quotes, and however they are written,
splitting the line gives them back. -/
theorem split_of_writes {words : List String} (hne : words ≠ []) :
    (∃ command, Writes words command) ∧
      ∀ command, Writes words command → split command = .ok words := by
  refine ⟨exists_writes words, fun command h => ?_⟩
  obtain ⟨first, others, rfl⟩ := List.exists_cons_of_ne_nil hne
  unfold split
  rw [scan_of_writesWords h, List.map_cons]
  simp

/-- A command line in which the parts of a word are quoted differently, with an empty word and with
separators of each kind. -/
def mixedQuotes : String :=
  " 'a '\\'\"b'\" ''\t\"\\$ \\\\\"\\#'\n'\n"

/-- The words of a command line that mixes quotes are the quoted ones: quotes, separators, number
signs and backslashes inside them are characters like any other. -/
theorem split_mixedQuotes :
    ["a 'b'", "", "$ \\#\n"] ≠ [] ∧ Writes ["a 'b'", "", "$ \\#\n"] mixedQuotes ∧
      split mixedQuotes = .ok ["a 'b'", "", "$ \\#\n"] := by
  have hfirst : WritesWord ['a', ' ', '\'', 'b', '\'']
      ['\'', 'a', ' ', '\'', '\\', '\'', '"', 'b', '\'', '"'] :=
    .append (.append (.single ['a', ' '] (by decide)) (.escaped '\'' (by decide)))
      (.double ['b', '\''])
  have hlast : WritesWord ['$', ' ', '\\', '#', '\n']
      ['"', '\\', '$', ' ', '\\', '\\', '"', '\\', '#', '\'', '\n', '\''] :=
    .append (.append (.double ['$', ' ', '\\']) (.escaped '#' (by decide)))
      (.single ['\n'] (by decide))
  have hwrites : Writes ["a 'b'", "", "$ \\#\n"] mixedQuotes :=
    .separator ' ' rfl <| .word hfirst (ends_of_isSeparator rfl _) <|
      .separator ' ' rfl <| .word (.single [] (by simp)) (ends_of_isSeparator rfl _) <|
        .separator '\t' rfl <| .word hlast (ends_of_isSeparator rfl _) <|
          .separator '\n' rfl .nothing
  exact ⟨by simp, hwrites, (split_of_writes (by simp)).2 mixedQuotes hwrites⟩

end Autostart.CommandWords
