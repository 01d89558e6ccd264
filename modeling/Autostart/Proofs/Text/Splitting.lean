import Autostart.Text.Chars

/-!
# Splitting and joining texts

The pieces of a text between the occurrences of a separator are those of the standard library, so
its facts about splitting and joining carry over.
-/

namespace Autostart.Chars

/-- The pieces between the occurrences of a separator are those of `List.splitOn`. -/
theorem splitAll_eq_splitOn (sep : Char) (cs : List Char) : splitAll sep cs = cs.splitOn sep := by
  induction cs with
  | nil => rfl
  | cons c rest ih =>
    rw [List.splitOn_cons_eq_if_modifyHead]
    by_cases h : c = sep
    · simp [splitAll, h, ih]
    · simp only [splitAll, if_neg h, ih, beq_iff_eq]
      rcases hs : rest.splitOn sep with _ | ⟨piece, pieces⟩
      · exact absurd hs (List.splitOn_ne_nil sep rest)
      · rfl

/-- There is always a piece. -/
theorem splitAll_ne_nil (sep : Char) (cs : List Char) : splitAll sep cs ≠ [] := by
  rw [splitAll_eq_splitOn]
  exact List.splitOn_ne_nil sep cs

/-- The pieces of a text that is not empty are not only the empty one. -/
theorem splitAll_ne_singleton_nil (sep : Char) {cs : List Char} (h : cs ≠ []) :
    splitAll sep cs ≠ [[]] := by
  intro hsplit
  have hback : [sep].intercalate (cs.splitOn sep) = cs := List.intercalate_splitOn sep
  rw [← splitAll_eq_splitOn, hsplit] at hback
  exact h hback.symm

/-- A text without the separator is its only piece. -/
theorem splitAll_of_notMem {sep : Char} {cs : List Char} (h : sep ∉ cs) :
    splitAll sep cs = [cs] := by
  rw [splitAll_eq_splitOn, List.splitOn_eq_singleton h]

/-- The pieces of two texts with a separator between them are those of both. -/
theorem splitAll_append_cons (sep : Char) (before after : List Char) :
    splitAll sep (before ++ sep :: after) = splitAll sep before ++ splitAll sep after := by
  simp only [splitAll_eq_splitOn, List.splitOn_append_cons_self]

/-- Pieces without the separator come back from the text that joins them. -/
theorem splitAll_intercalate {sep : Char} {pieces : List (List Char)}
    (h : ∀ piece ∈ pieces, sep ∉ piece) (hne : pieces ≠ []) :
    splitAll sep ([sep].intercalate pieces) = pieces := by
  rw [splitAll_eq_splitOn, List.splitOn_intercalate sep h hne]

/-- No piece has the separator. -/
theorem notMem_of_mem_splitAll {sep : Char} {cs piece : List Char} (h : piece ∈ splitAll sep cs) :
    sep ∉ piece := by
  induction cs generalizing piece with
  | nil =>
    have hp : piece = [] := by simpa [splitAll] using h
    simp [hp]
  | cons c rest ih =>
    by_cases hc : c = sep
    · rw [splitAll, if_pos hc] at h
      rcases List.mem_cons.1 h with rfl | h
      · exact List.not_mem_nil
      · exact ih h
    · rw [splitAll, if_neg hc] at h
      rcases hs : splitAll sep rest with _ | ⟨first, others⟩
      · exact absurd hs (splitAll_ne_nil sep rest)
      · rw [hs] at h
        rcases List.mem_cons.1 h with rfl | h
        · -- The first piece of the rest grows by a character that is no separator.
          have hfirst : sep ∉ first := ih (hs ▸ List.mem_cons_self)
          simp [Ne.symm hc, hfirst]
        · exact ih (hs ▸ List.mem_cons_of_mem first h)

/-- A text is cut at its first separator. -/
theorem splitFirst_append {sep : Char} {before : List Char} (h : sep ∉ before)
    (after : List Char) : splitFirst sep (before ++ sep :: after) = some (before, after) := by
  induction before with
  | nil => simp [splitFirst]
  | cons c rest ih =>
    obtain ⟨hc, hrest⟩ : sep ≠ c ∧ sep ∉ rest := by simpa using h
    simp [splitFirst, Ne.symm hc, ih hrest]

/-- What a text is cut into makes it up, with no separator in the first part. -/
theorem eq_append_of_splitFirst {sep : Char} {cs before after : List Char}
    (h : splitFirst sep cs = some (before, after)) :
    cs = before ++ sep :: after ∧ sep ∉ before := by
  induction cs generalizing before with
  | nil => cases h
  | cons c rest ih =>
    unfold splitFirst at h
    split at h
    · next heq =>
      cases h
      exact ⟨heq ▸ rfl, List.not_mem_nil⟩
    · next hne =>
      obtain ⟨⟨front, back⟩, hrest, heq⟩ := Option.map_eq_some_iff.1 h
      cases heq
      obtain ⟨rfl, hfront⟩ := ih hrest
      exact ⟨rfl, by simp [Ne.symm hne, hfront]⟩

/-- A text is not cut exactly when it has no separator. -/
theorem splitFirst_eq_none_iff {sep : Char} {cs : List Char} :
    splitFirst sep cs = none ↔ sep ∉ cs := by
  induction cs with
  | nil => simp [splitFirst]
  | cons c rest ih =>
    by_cases hc : c = sep
    · simp [splitFirst, hc]
    · simp [splitFirst, hc, Ne.symm hc, ih]

/-- A text is cut at its first separator in one way only. -/
theorem append_cons_inj {sep : Char} {before before' after after' : List Char}
    (h : sep ∉ before) (h' : sep ∉ before')
    (heq : before ++ sep :: after = before' ++ sep :: after') :
    before = before' ∧ after = after' := by
  have hcut := splitFirst_append h after
  rw [heq, splitFirst_append h'] at hcut
  obtain ⟨hbefore, hafter⟩ := Prod.mk.inj (Option.some.inj hcut)
  exact ⟨hbefore.symm, hafter.symm⟩

end Autostart.Chars
