import Autostart.Document.Value
import Autostart.Proofs.Text.Lines

/-!
# Escaped values come back

Unescaping undoes escaping. The escaped texts have a grammar of their own, from which it follows
that they have neither line feeds nor carriage returns nor tabs, and that a text is escaped exactly
when escaping what it stands for gives it back. An escaped value stands after an equals sign as it
is unless it starts with white space that has no escape.
-/

namespace Autostart

namespace Document

/-- The escaped form of a character is read as the character. -/
theorem unescapeChars_escapeChar_append (c : Char) (rest : List Char) :
    unescapeChars (escapeChar c ++ rest) = c :: unescapeChars rest := by
  unfold escapeChar
  split
  · rfl
  · rfl
  · rfl
  · rfl
  · next hbackslash _ _ _ =>
    rw [List.singleton_append, unescapeChars]
    exact fun _ _ hc _ => hbackslash hc

/-- Escaped characters are read as the characters. -/
theorem unescapeChars_flatMap (cs : List Char) : unescapeChars (cs.flatMap escapeChar) = cs := by
  induction cs with
  | nil => rfl
  | cons c rest ih =>
    rw [List.flatMap_cons, unescapeChars_escapeChar_append, ih]

/-- An escaped value is read as the value. -/
theorem unescapeChars_escapeChars (cs : List Char) : unescapeChars (escapeChars cs) = cs := by
  unfold escapeChars
  split
  · next rest =>
    show ' ' :: unescapeChars (rest.flatMap escapeChar) = ' ' :: rest
    rw [unescapeChars_flatMap]
  · exact unescapeChars_flatMap cs

/-- An escaped text is read as the text. -/
theorem unescape_escape_eq (value : String) : unescape (escape value) = value := by
  unfold unescape escape
  rw [String.toList_ofList, unescapeChars_escapeChars, String.ofList_toList]

/-! ## Escaped texts -/

/-- Whether a character has an escape wherever it stands. -/
def hasEscape (c : Char) : Bool :=
  c = '\\' || c = '\n' || c = '\t' || c = '\r'

/-- Whether a character stands in such an escape, behind the backslash. -/
def isEscapeSign (c : Char) : Bool :=
  c = '\\' || c = 'n' || c = 't' || c = 'r'

/-- A row of written characters: each stands for itself, or belongs to an escape. -/
inductive IsEscapedRow : List Char → Prop where
  /-- There may be none. -/
  | nil : IsEscapedRow []
  /-- A character without an escape stands for itself. -/
  | plain {c : Char} {rest : List Char} (plain : hasEscape c = false)
    (further : IsEscapedRow rest) : IsEscapedRow (c :: rest)
  /-- A backslash and a sign are an escape. -/
  | escape {c : Char} {rest : List Char} (sign : isEscapeSign c = true)
    (further : IsEscapedRow rest) : IsEscapedRow ('\\' :: c :: rest)

/-- A text is escaped: a row of written characters that does not start with a space, or one behind
an escaped space. -/
inductive IsEscapedText : List Char → Prop where
  /-- No space starts the text. -/
  | row {cs : List Char} (start : cs.head? ≠ some ' ') (row : IsEscapedRow cs) : IsEscapedText cs
  /-- An escaped space starts the text. -/
  | space {rest : List Char} (row : IsEscapedRow rest) : IsEscapedText ('\\' :: 's' :: rest)

/-- A value is in its escaped form. -/
def IsEscaped (raw : String) : Prop :=
  IsEscapedText raw.toList

/-- A character has an escape, and is written with its sign, or is written as it is. -/
theorem escapeChar_cases (c : Char) :
    (∃ sign, isEscapeSign sign = true ∧ escapeChar c = ['\\', sign]) ∨
      hasEscape c = false ∧ escapeChar c = [c] := by
  unfold escapeChar
  split
  · exact .inl ⟨'\\', rfl, rfl⟩
  · exact .inl ⟨'n', rfl, rfl⟩
  · exact .inl ⟨'t', rfl, rfl⟩
  · exact .inl ⟨'r', rfl, rfl⟩
  · next hbackslash hfeed htab hreturn =>
    have hnone : ((c ≠ '\\' ∧ c ≠ '\n') ∧ c ≠ '\t') ∧ c ≠ '\r' :=
      ⟨⟨⟨hbackslash, hfeed⟩, htab⟩, hreturn⟩
    exact .inr ⟨by simpa [hasEscape] using hnone, rfl⟩

/-- Each escape is that of a character. -/
theorem exists_escapeChar_of_isEscapeSign {sign : Char} (h : isEscapeSign sign = true) :
    ∃ c, escapeChar c = ['\\', sign] := by
  simp only [isEscapeSign, Bool.or_eq_true, decide_eq_true_eq] at h
  rcases h with ((rfl | rfl) | rfl) | rfl
  · exact ⟨'\\', rfl⟩
  · exact ⟨'\n', rfl⟩
  · exact ⟨'\t', rfl⟩
  · exact ⟨'\r', rfl⟩

/-- A character without an escape is written as it is. -/
theorem escapeChar_of_not_hasEscape {c : Char} (h : hasEscape c = false) : escapeChar c = [c] := by
  simp only [hasEscape, Bool.or_eq_false_iff, decide_eq_false_iff_not] at h
  obtain ⟨⟨⟨hbackslash, hfeed⟩, htab⟩, hreturn⟩ := h
  rw [escapeChar] <;> assumption

/-- Characters are written as a row of written characters, and every such row writes some. -/
theorem isEscapedRow_iff {raw : List Char} :
    IsEscapedRow raw ↔ ∃ cs : List Char, raw = cs.flatMap escapeChar := by
  constructor
  · intro h
    induction h with
    | nil => exact ⟨[], rfl⟩
    | @plain c rest plain _ ih =>
      obtain ⟨cs, rfl⟩ := ih
      exact ⟨c :: cs, by rw [List.flatMap_cons, escapeChar_of_not_hasEscape plain]; rfl⟩
    | @escape sign rest sign' _ ih =>
      obtain ⟨cs, rfl⟩ := ih
      obtain ⟨c, hc⟩ := exists_escapeChar_of_isEscapeSign sign'
      exact ⟨c :: cs, by rw [List.flatMap_cons, hc]; rfl⟩
  · rintro ⟨cs, rfl⟩
    induction cs with
    | nil => exact .nil
    | cons c cs ih =>
      rw [List.flatMap_cons]
      rcases escapeChar_cases c with ⟨sign, hsign, hc⟩ | ⟨hplain, hc⟩
      · rw [hc]
        exact .escape hsign ih
      · rw [hc]
        exact .plain hplain ih

/-- Characters are written with a space in front exactly when a space starts them. -/
theorem head?_flatMap_escapeChar (cs : List Char) :
    (cs.flatMap escapeChar).head? = some ' ' ↔ cs.head? = some ' ' := by
  rcases cs with _ | ⟨c, rest⟩
  · rfl
  · rw [List.flatMap_cons, List.head?_cons]
    rcases escapeChar_cases c with ⟨sign, -, hc⟩ | ⟨-, hc⟩
    · -- A space has no escape inside a text.
      have hspace : c ≠ ' ' := by
        rintro rfl
        cases hc
      rw [hc]
      simp [hspace]
    · rw [hc]
      rfl

/-- Values are written as escaped texts, and every escaped text writes one. -/
theorem isEscapedText_iff {raw : List Char} :
    IsEscapedText raw ↔ ∃ cs, raw = escapeChars cs := by
  constructor
  · intro h
    cases h with
    | row start row =>
      obtain ⟨cs, rfl⟩ := isEscapedRow_iff.1 row
      refine ⟨cs, ?_⟩
      rw [Ne, head?_flatMap_escapeChar] at start
      rw [escapeChars]
      rintro rest rfl
      exact start rfl
    | space row =>
      obtain ⟨cs, rfl⟩ := isEscapedRow_iff.1 row
      exact ⟨' ' :: cs, rfl⟩
  · rintro ⟨cs, rfl⟩
    unfold escapeChars
    split
    · exact .space (isEscapedRow_iff.2 ⟨_, rfl⟩)
    · next hspace =>
      refine .row ?_ (isEscapedRow_iff.2 ⟨cs, rfl⟩)
      rw [Ne, head?_flatMap_escapeChar]
      intro hhead
      obtain ⟨rest, hrest⟩ := List.head?_eq_some_iff.1 hhead
      exact hspace rest hrest

/-- An escaped form is one. -/
theorem isEscaped_escape (value : String) : IsEscaped (escape value) := by
  unfold IsEscaped escape
  rw [String.toList_ofList]
  exact isEscapedText_iff.2 ⟨_, rfl⟩

/-- What is written this way is escaped again to the same text exactly when it was in its escaped
form. -/
theorem escape_unescape_eq_iff {raw : String} : escape (unescape raw) = raw ↔ IsEscaped raw := by
  constructor
  · intro h
    rw [← h]
    exact isEscaped_escape _
  · intro h
    obtain ⟨cs, hcs⟩ := isEscapedText_iff.1 h
    have hraw : raw = escape (String.ofList cs) := by
      rw [escape, String.toList_ofList, ← hcs, String.ofList_toList]
    rw [hraw, unescape_escape_eq]

/-- Whether a character ends a line or may be dropped at the end of one. -/
def isLineEnd (c : Char) : Bool :=
  c = '\n' || c = '\r'

/-- No character of a row of written ones ends a line or is a tab. -/
theorem IsEscapedRow.of_mem {cs : List Char} (h : IsEscapedRow cs) {x : Char} (hx : x ∈ cs) :
    isLineEnd x = false ∧ x ≠ '\t' := by
  induction h with
  | nil => cases hx
  | @plain c rest plain _ ih =>
    rcases List.mem_cons.1 hx with rfl | hx
    · simp only [hasEscape, Bool.or_eq_false_iff, decide_eq_false_iff_not] at plain
      obtain ⟨⟨⟨-, hfeed⟩, htab⟩, hreturn⟩ := plain
      exact ⟨by simp [isLineEnd, hfeed, hreturn], htab⟩
    · exact ih hx
  | @escape sign rest sign' _ ih =>
    rcases List.mem_cons.1 hx with rfl | hx
    · exact ⟨rfl, by decide⟩
    · rcases List.mem_cons.1 hx with rfl | hx
      · simp only [isEscapeSign, Bool.or_eq_true, decide_eq_true_eq] at sign'
        rcases sign' with ((rfl | rfl) | rfl) | rfl <;> exact ⟨rfl, by decide⟩
      · exact ih hx

/-- No character of an escaped text ends a line or is a tab. -/
theorem of_mem_escape {value : String} {x : Char} (h : x ∈ (escape value).toList) :
    isLineEnd x = false ∧ x ≠ '\t' := by
  have hescaped : IsEscapedText (escape value).toList := isEscaped_escape value
  generalize (escape value).toList = cs at h hescaped
  cases hescaped with
  | row start row => exact row.of_mem h
  | space row =>
    rcases List.mem_cons.1 h with rfl | h
    · exact ⟨rfl, by decide⟩
    · rcases List.mem_cons.1 h with rfl | h
      · exact ⟨rfl, by decide⟩
      · exact row.of_mem h

/-- An escaped text has no end of a line in it. -/
theorem isLineEnd_of_mem_escape {value : String} {x : Char} (h : x ∈ (escape value).toList) :
    isLineEnd x = false :=
  (of_mem_escape h).1

/-- An escaped text does not start with a space. -/
theorem head?_escape_ne (value : String) : (escape value).toList.head? ≠ some ' ' := by
  have hescaped : IsEscapedText (escape value).toList := isEscaped_escape value
  generalize (escape value).toList = cs at hescaped
  cases hescaped with
  | row start row => exact start
  | space row => simp

/-- Escaping can be undone, so different values have different escaped texts. Each of these fits on
one line: it has no line feed, carriage return or tab, and does not start with a space. -/
theorem escaping_is_invertible (value : String) :
    unescape (escape value) = value ∧ (∀ other, escape other = escape value → other = value) ∧
      (∀ c ∈ (escape value).toList, c ≠ '\n' ∧ c ≠ '\r' ∧ c ≠ '\t') ∧
      (escape value).toList.head? ≠ some ' ' ∧
      Text.lines (escape value ++ "\n") = [escape value] := by
  have hends : ∀ c ∈ (escape value).toList, c ≠ '\n' ∧ c ≠ '\r' := fun c hc => by
    simpa [isLineEnd] using isLineEnd_of_mem_escape hc
  refine ⟨unescape_escape_eq value, fun other hother => ?_, fun c hc => ?_, head?_escape_ne value,
    ?_⟩
  · calc other = unescape (escape other) := (unescape_escape_eq other).symm
      _ = unescape (escape value) := by rw [hother]
      _ = value := unescape_escape_eq value
  · exact ⟨(hends c hc).1, (hends c hc).2, (of_mem_escape hc).2⟩
  · have hline : Text.IsLine (escape value) :=
      ⟨fun hfeed => (hends _ hfeed).1 rfl,
        fun hreturn => (hends _ (List.mem_of_getLast? hreturn)).2 rfl⟩
    have hjoined : escape value ++ "\n" = joinLines [escape value] := by
      simp [joinLines]
    rw [hjoined, Text.lines_joinLines (by simpa using hline)]

end Document

/-- White space that can be written at the start of a value. -/
def Text.isEscapable (c : Char) : Bool :=
  c = ' ' || c = '\t' || c = '\n' || c = '\r'

/-- Whether a text can be read back from a key file: if it starts with white space at all, then with
a space, a tab, a line feed or a carriage return, which are written as escapes. -/
def Text.IsStorable (s : String) : Prop :=
  ∀ c, s.toList.head? = some c → Chars.isBlank c = true → Text.isEscapable c = true

namespace Document

/-- The escaped form of a text that can be stored does not start with white space. -/
theorem isBlank_of_head?_escape {value : String} (h : Text.IsStorable value) {c : Char}
    (hc : (escape value).toList.head? = some c) : Chars.isBlank c = false := by
  unfold escape at hc
  rw [String.toList_ofList] at hc
  rcases hvalue : value.toList with _ | ⟨first, rest⟩
  · rw [hvalue] at hc
    cases hc
  · rw [hvalue] at hc
    have hfirst := h first (by rw [hvalue]; rfl)
    unfold escapeChars at hc
    split at hc
    · cases hc
      decide
    · next hspace =>
      rw [List.flatMap_cons] at hc
      rcases escapeChar_cases first with ⟨sign, -, hescape⟩ | ⟨hplain, hescape⟩
      · rw [hescape] at hc
        cases hc
        decide
      · -- A character that has no escape stands for itself, so it is not white space.
        rw [hescape] at hc
        obtain rfl : first = c := by simpa using hc
        rcases hblank : Chars.isBlank first with _ | _
        · rfl
        · have hescapable := hfirst hblank
          have hspace' : first ≠ ' ' := fun heq => hspace rest (by rw [heq])
          simp only [hasEscape, Bool.or_eq_false_iff, decide_eq_false_iff_not] at hplain
          simp [Text.isEscapable, hspace', hplain] at hescapable

/-- A value that can be written keeps its start. -/
theorem trimStart_escape {value : String} (h : Text.IsStorable value) :
    Text.trimStart (escape value) = escape value := by
  unfold Text.trimStart
  rcases hcs : (escape value).toList with _ | ⟨c, rest⟩
  · rw [Chars.trimStart, List.dropWhile_nil, ← hcs, String.ofList_toList]
  · have hc := isBlank_of_head?_escape h (by rw [hcs]; rfl : _ = some c)
    rw [Chars.trimStart_cons hc, ← hcs, String.ofList_toList]

/-- A value whose escaped form does not start with white space can be stored: white space that
starts it comes from an escape. -/
theorem isStorable_unescape {raw : String}
    (h : ∀ c, raw.toList.head? = some c → Chars.isBlank c = false) :
    Text.IsStorable (unescape raw) := by
  intro c hc hblank
  unfold unescape at hc
  rw [String.toList_ofList] at hc
  generalize raw.toList = cs at h hc
  fun_cases unescapeChars cs with
  | case1 => cases hc
  | case2 escaped rest =>
    -- An escape that is not known starts with its backslash, which is not white space.
    rw [unescapeChars] at hc
    unfold unescapeChar at hc
    split at hc
    all_goals
      simp only [List.cons_append, List.nil_append, List.head?_cons, Option.some.injEq] at hc
      subst hc
      first | rfl | cases hblank
  | case3 first rest hescape =>
    rw [unescapeChars.eq_3 first rest hescape] at hc
    obtain rfl := Option.some.inj hc
    rw [h first rfl] at hblank
    cases hblank

/-- An escaped value is read as the value after an equals sign exactly when it can be stored. -/
theorem unescape_trimStart_escape_iff (value : String) :
    unescape (Text.trimStart (escape value)) = value ↔ Text.IsStorable value := by
  constructor
  · intro h
    rw [← h]
    refine isStorable_unescape fun c hc => ?_
    unfold Text.trimStart at hc
    rw [String.toList_ofList] at hc
    exact Chars.isBlank_of_head?_trimStart hc
  · intro h
    rw [trimStart_escape h, unescape_escape_eq]

end Document

end Autostart
