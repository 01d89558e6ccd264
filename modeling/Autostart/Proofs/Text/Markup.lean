import Autostart.Text.Markup

/-!
# Markup read back

A text inside markup has none of the characters that would end it there, and it can be read back:
putting in the characters for the five entities, from the left to the right, gives the text that was
written. An ampersand of the text is written as an entity itself, so no entity of the text is
mistaken for one of the markup.
-/

namespace Autostart.Text

/-- Characters of markup with the five entities replaced by what they stand for. What is no entity
is kept. -/
def resolveChars : List Char → List Char
  | '&' :: 'a' :: 'm' :: 'p' :: ';' :: rest => '&' :: resolveChars rest
  | '&' :: 'l' :: 't' :: ';' :: rest => '<' :: resolveChars rest
  | '&' :: 'g' :: 't' :: ';' :: rest => '>' :: resolveChars rest
  | '&' :: 'q' :: 'u' :: 'o' :: 't' :: ';' :: rest => '"' :: resolveChars rest
  | '&' :: 'a' :: 'p' :: 'o' :: 's' :: ';' :: rest => '\'' :: resolveChars rest
  | c :: rest => c :: resolveChars rest
  | [] => []

/-- A text of markup with the five entities replaced by what they stand for. -/
def resolveMarkup (s : String) : String :=
  String.ofList (resolveChars s.toList)

/-- The characters that would start or end a part of markup. -/
def markupSigns : List Char := ['<', '>', '"', '\'']

/-- A character that does not start an entity is kept. -/
theorem resolveChars_cons {c : Char} (h : c ≠ '&') (rest : List Char) :
    resolveChars (c :: rest) = c :: resolveChars rest := by
  rw [resolveChars]
  -- Each of the entities starts with an ampersand.
  all_goals exact fun _ heq => absurd heq h

/-- Whatever follows, a character that was written inside markup is read back. -/
theorem resolveChars_markupChar (c : Char) (rest : List Char) :
    resolveChars (markupChar c ++ rest) = c :: resolveChars rest := by
  unfold markupChar
  split
  case h_6 hamp _ _ _ _ => exact resolveChars_cons hamp rest
  all_goals rfl

/-- Characters that were written inside markup are read back. -/
theorem resolveChars_flatMap (cs : List Char) : resolveChars (cs.flatMap markupChar) = cs := by
  induction cs with
  | nil => rfl
  | cons c cs ih => rw [List.flatMap_cons, resolveChars_markupChar, ih]

/-- A text that was written inside markup is read back. -/
theorem resolveMarkup_escapeMarkup (s : String) : resolveMarkup (escapeMarkup s) = s := by
  unfold resolveMarkup escapeMarkup
  rw [String.toList_ofList, resolveChars_flatMap, String.ofList_toList]

/-- No character is written inside markup with a sign in it. -/
theorem notMem_markupChar {sign : Char} (h : sign ∈ markupSigns) (c : Char) :
    sign ∉ markupChar c := by
  have hsign : sign = '<' ∨ sign = '>' ∨ sign = '"' ∨ sign = '\'' := by
    simpa [markupSigns] using h
  unfold markupChar
  split
  case h_6 _ hlt hgt hquote hapos =>
    -- A character that is written as it is is no sign.
    intro hmem
    obtain rfl := List.mem_singleton.1 hmem
    rcases hsign with hsign | hsign | hsign | hsign
    · exact hlt hsign
    · exact hgt hsign
    · exact hquote hsign
    · exact hapos hsign
  all_goals rcases hsign with rfl | rfl | rfl | rfl <;> decide

/-- A text that is written inside markup has no sign in it. -/
theorem notMem_escapeMarkup {sign : Char} (h : sign ∈ markupSigns) (s : String) :
    sign ∉ (escapeMarkup s).toList := by
  unfold escapeMarkup
  rw [String.toList_ofList, List.mem_flatMap]
  rintro ⟨c, -, hmem⟩
  exact notMem_markupChar h c hmem

end Autostart.Text
