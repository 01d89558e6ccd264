import Autostart.Text.Chars
import Mathlib.Data.List.TakeWhile

/-!
# Trimmed texts

What is left of a text when the blanks around it are cut off. It stands in the text with blanks
before and behind it, and blanks that are put around a text make no difference to it.
-/

namespace Autostart.Chars

/-- A text that starts with a character that is not blank has no leading blanks. -/
theorem trimStart_cons {c : Char} (h : isBlank c = false) (rest : List Char) :
    trimStart (c :: rest) = c :: rest := by
  unfold trimStart
  rw [List.dropWhile_cons, h, if_neg Bool.false_ne_true]

/-- What is left of a text without its leading blanks does not start with one. -/
theorem isBlank_of_head?_trimStart {cs : List Char} {c : Char} (h : (trimStart cs).head? = some c) :
    isBlank c = false := by
  unfold trimStart at h
  have hhead := List.head?_dropWhile_not isBlank cs
  rw [h] at hhead
  exact hhead

/-- Trimming keeps a text with a character at either end that is not blank. -/
theorem trim_eq_self {cs : List Char} {first last : Char} (hfirst : cs.head? = some first)
    (hlast : cs.getLast? = some last) (hfirst' : isBlank first = false)
    (hlast' : isBlank last = false) : trim cs = cs := by
  have hstart : trimStart cs = cs := by
    rcases cs with _ | ⟨c, rest⟩
    · rfl
    · obtain rfl : c = first := by simpa using hfirst
      exact trimStart_cons hfirst' rest
  unfold trim trimEnd
  rw [hstart]
  rcases hrev : cs.reverse with _ | ⟨c, rest⟩
  · rw [List.dropWhile_nil, ← hrev, List.reverse_reverse]
  · obtain rfl : c = last := by
      have hhead : cs.reverse.head? = some last := by rw [List.head?_reverse, hlast]
      simpa [hrev] using hhead
    rw [List.dropWhile_cons, hlast', if_neg Bool.false_ne_true, ← hrev, List.reverse_reverse]

/-- Trimming keeps the first character of a text when it is not blank. -/
theorem head?_trim {c : Char} {rest : List Char} (h : isBlank c = false) :
    (trim (c :: rest)).head? = some c := by
  unfold trim trimEnd
  rw [trimStart_cons h, List.head?_reverse, List.reverse_cons, List.dropWhile_append]
  split
  · simp [h]
  · simp

/-- A text holds what is left of it once it is trimmed. -/
theorem mem_of_mem_trim {cs : List Char} {c : Char} (h : c ∈ trim cs) : c ∈ cs := by
  unfold trim trimEnd at h
  have hstart := (List.dropWhile_sublist isBlank).mem (List.mem_reverse.1 h)
  exact (List.dropWhile_sublist isBlank).mem (List.mem_reverse.1 hstart)

/-- Trimming cuts leading blanks off. -/
theorem trim_blanks_append {blanks : List Char} (h : ∀ c ∈ blanks, isBlank c = true)
    (cs : List Char) : trim (blanks ++ cs) = trim cs := by
  have hstart : trimStart (blanks ++ cs) = trimStart cs := List.dropWhile_append_of_pos h
  unfold trim
  rw [hstart]

/-- A text is blank, or has a first character that is not. -/
theorem isBlank_cases (cs : List Char) :
    (∀ c ∈ cs, isBlank c = true) ∨ ∃ blanks c rest, cs = blanks ++ c :: rest ∧
      (∀ b ∈ blanks, isBlank b = true) ∧ isBlank c = false := by
  induction cs with
  | nil => exact .inl (by simp)
  | cons c rest ih =>
    cases hc : isBlank c with
    | false => exact .inr ⟨[], c, rest, rfl, by simp, hc⟩
    | true =>
      rcases ih with hall | ⟨blanks, d, others, rfl, hblanks, hd⟩
      · exact .inl (by simpa [hc] using hall)
      · exact .inr ⟨c :: blanks, d, others, rfl, by simpa [hc] using hblanks, hd⟩

/-- Nothing is left of a trimmed text exactly when it is blank. -/
theorem trim_eq_nil_iff {cs : List Char} : trim cs = [] ↔ ∀ c ∈ cs, isBlank c = true := by
  constructor
  · intro htrim
    rcases isBlank_cases cs with hall | ⟨blanks, c, rest, rfl, hblanks, hc⟩
    · exact hall
    · have hhead : (trim (c :: rest)).head? = some c := head?_trim hc
      rw [← trim_blanks_append hblanks, htrim] at hhead
      cases hhead
  · intro hall
    have hnil := trim_blanks_append hall []
    rw [List.append_nil] at hnil
    exact hnil

/-- What is left of a trimmed text starts with a character that is not blank, and so does what is
left of every text that goes on from there. -/
theorem of_head?_trim {cs : List Char} {c : Char} (h : (trim cs).head? = some c) :
    isBlank c = false ∧ ∀ more, (trim (cs ++ more)).head? = some c := by
  rcases isBlank_cases cs with hall | ⟨blanks, d, rest, rfl, hblanks, hd⟩
  · rw [trim_eq_nil_iff.2 hall] at h
    cases h
  · rw [trim_blanks_append hblanks, head?_trim hd] at h
    obtain rfl := Option.some.inj h
    refine ⟨hd, fun more => ?_⟩
    rw [List.append_assoc, trim_blanks_append hblanks, List.cons_append, head?_trim hd]

/-- Something is left of a text that starts with a character that is not blank when its end is
trimmed. -/
theorem trimEnd_ne_nil {c : Char} (h : isBlank c = false) (rest : List Char) :
    trimEnd (c :: rest) ≠ [] := by
  have hhead : (trim (c :: rest)).head? = some c := head?_trim h
  unfold trim at hhead
  rw [trimStart_cons h] at hhead
  intro hnil
  rw [hnil] at hhead
  cases hhead

/-- Trimming cuts trailing blanks off. -/
theorem trim_append_blanks (cs : List Char) {blanks : List Char}
    (h : ∀ c ∈ blanks, isBlank c = true) : trim (cs ++ blanks) = trim cs := by
  rcases isBlank_cases cs with hall | ⟨front, c, rest, rfl, hfront, hc⟩
  · rw [trim_blanks_append hall, trim_eq_nil_iff.2 h, trim_eq_nil_iff.2 hall]
  · -- Only the end is left to trim behind a character that is not blank.
    have hback : ∀ b ∈ blanks.reverse, isBlank b = true := fun b hb =>
      h b (List.mem_reverse.1 hb)
    rw [List.append_assoc, trim_blanks_append hfront, trim_blanks_append hfront]
    unfold trim trimEnd
    rw [List.cons_append, trimStart_cons hc, trimStart_cons hc, ← List.cons_append,
      List.reverse_append, List.dropWhile_append_of_pos hback]

/-- What is left of a trimmed text stands in the text with blanks around it. -/
theorem exists_trim (cs : List Char) :
    ∃ front back, cs = front ++ (trim cs ++ back) ∧ (∀ c ∈ front, isBlank c = true) ∧
      ∀ c ∈ back, isBlank c = true := by
  refine ⟨cs.takeWhile isBlank, ((trimStart cs).reverse.takeWhile isBlank).reverse, ?_,
    fun c hc => List.mem_takeWhile_imp hc,
    fun c hc => List.mem_takeWhile_imp (List.mem_reverse.1 hc)⟩
  have hend : trim cs ++ ((trimStart cs).reverse.takeWhile isBlank).reverse = trimStart cs := by
    unfold trim trimEnd
    rw [← List.reverse_append, List.takeWhile_append_dropWhile, List.reverse_reverse]
  rw [hend]
  exact List.takeWhile_append_dropWhile.symm

/-- Trimming a trimmed text changes nothing. -/
theorem trim_trim (cs : List Char) : trim (trim cs) = trim cs := by
  obtain ⟨front, back, hcs, hfront, hback⟩ := exists_trim cs
  have htrim : trim cs = trim (front ++ (trim cs ++ back)) := congrArg trim hcs
  rw [trim_blanks_append hfront, trim_append_blanks _ hback] at htrim
  exact htrim.symm

end Autostart.Chars
