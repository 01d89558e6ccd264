import Autostart.Proofs.CommandLine.Quoting

/-!
# Command lines line by line

A command line may go over several lines. When the text before a line feed can be split on its own,
the line feed is no part of a quoted text and is not escaped, so it ends the word or the comment
that the text ends in, and whatever follows is split as if it stood alone.
-/

namespace Autostart.CommandWords

/-- A line feed after a text that is read to its end puts the scan back to its start. -/
theorem scan_append_line {mode : Mode} {word : Option (List Char)} {text : List Char}
    {words : List (List Char)} (h : scan mode word text = .ok words)
    (hcomment : mode = .comment → word = none) (rest : List Char) :
    scan mode word (text ++ '\n' :: rest) = (scan .bare none rest).map (words ++ ·) := by
  -- The induction is on the scan of the text. What stands at its front is read alike with the line
  -- behind it, and at its end no quote is open and no backslash waits.
  fun_induction scan mode word text generalizing words with
  | case1 word =>
    -- The text ends outside quotes, and the line feed ends its last word.
    obtain rfl := Except.ok.inj h
    exact scan_separator rfl word rest
  | case19 word =>
    -- The text ends in a comment, and the line feed ends it.
    obtain rfl := Except.ok.inj h
    rw [hcomment rfl]
    show scan .bare none rest = _
    cases scan .bare none rest <;> rfl
  | case2 | case10 | case13 | case14 => cases h
  | case5 word c text hc hsep ih =>
    -- A separator gives a word, and the words of the rest come after it.
    rcases hrest : scan .bare none text with fault | others
    · rw [hrest] at h
      cases h
    · rw [hrest] at h
      obtain rfl := Except.ok.inj h
      rw [List.cons_append, scan_separator hsep, ih hrest nofun]
      cases scan .bare none rest <;> simp [Except.map]
  | case6 word c text hc hsep hmark ih =>
    rw [List.cons_append, scan, if_neg hsep, if_pos hmark]
    · exact ih h fun _ => rfl
    · exact hc
  | case20 word text ih =>
    rw [hcomment rfl] at h ih ⊢
    exact ih h nofun
  | case21 word c text hc ih =>
    rw [List.cons_append, scan, if_neg hc]
    exact ih h hcomment
  | case3 word text ih | case7 word text _ _ _ ih | case8 word text _ _ _ _ ih
  | case11 word text ih | case15 word text ih | case17 word text _ ih => exact ih h nofun
  | case4 word c text hc ih | case16 word c text hc ih =>
    rw [List.cons_append, List.cons_append, scan]
    · exact ih h nofun
    · exact hc
  | case9 word c text hc hsep hmark hsingle hdouble ih =>
    rw [List.cons_append, scan, if_neg hsep, if_neg hmark, if_neg hsingle, if_neg hdouble]
    · exact ih h nofun
    · exact hc
  | case12 word c text hc ih =>
    rw [List.cons_append, scan, if_neg hc]
    exact ih h nofun
  | case18 word c text hc hquote ih =>
    rw [List.cons_append, scan, if_neg hquote]
    · exact ih h nofun
    · exact hc

/-- The scan of a text does not mind that there is no word. -/
theorem scan_ne_noWord (mode : Mode) (word : Option (List Char)) (text : List Char) :
    scan mode word text ≠ .error .noWord := by
  fun_induction scan mode word text
  case case1 | case2 | case10 | case13 | case14 | case19 => simp
  case case5 word c text hc hsep ih =>
    rcases hrest : scan .bare none text with fault | others
    · rw [hrest] at ih
      exact fun h => ih (congrArg Except.error (Except.error.inj h))
    · nofun
  all_goals assumption

/-- A command line splits into words when the scan of its characters gives words, and one at
least. -/
theorem split_eq_ok_iff {command : String} {words : List String} :
    split command = .ok words ↔ ∃ scanned, scan .bare none command.toList = .ok scanned ∧
      scanned ≠ [] ∧ scanned.map String.ofList = words := by
  unfold split
  rcases scan .bare none command.toList with fault | ⟨_ | ⟨first, others⟩⟩ <;> simp

/-- A command line does not split when its scan meets a fault, or gives no word. -/
theorem split_eq_error_iff {command : String} {fault : Fault} :
    split command = .error fault ↔ scan .bare none command.toList = .error fault ∨
      scan .bare none command.toList = .ok [] ∧ fault = .noWord := by
  unfold split
  rcases scan .bare none command.toList with fault' | ⟨_ | ⟨first, others⟩⟩
  · simp
  · simp [eq_comm]
  · simp

/-- When a text can be split, the text with another one on the next line splits into the words of
both. Words are what the second text may lack, and any other fault of it is one of the whole. -/
theorem split_append_line {a : String} {u : List String} (ha : split a = .ok u) (b : String) :
    (∀ v, split b = .ok v → split (a ++ "\n" ++ b) = .ok (u ++ v)) ∧
      ∀ fault, split b = .error fault →
        split (a ++ "\n" ++ b) = if fault = .noWord then .ok u else .error fault := by
  obtain ⟨before, hbefore, hne, rfl⟩ := split_eq_ok_iff.1 ha
  have hboth : scan .bare none (a ++ "\n" ++ b).toList =
      (scan .bare none b.toList).map (before ++ ·) := by
    rw [String.toList_append, String.toList_append, List.append_assoc]
    exact scan_append_line hbefore nofun b.toList
  constructor
  · intro v hb
    obtain ⟨after, hafter, -, rfl⟩ := split_eq_ok_iff.1 hb
    rw [hafter] at hboth
    exact split_eq_ok_iff.2 ⟨before ++ after, hboth, by simp [hne], List.map_append⟩
  · intro fault hb
    rcases split_eq_error_iff.1 hb with hfault | ⟨hnothing, rfl⟩
    · rw [hfault] at hboth
      have hne : fault ≠ .noWord := by
        rintro rfl
        exact scan_ne_noWord _ _ _ hfault
      rw [if_neg hne]
      exact split_eq_error_iff.2 (.inl hboth)
    · rw [hnothing] at hboth
      rw [if_pos rfl]
      exact split_eq_ok_iff.2 ⟨before, by simpa [Except.map] using hboth, hne, rfl⟩

/-- A text with quoted and escaped line feeds that ends in a comment with an open quote and a
backslash. -/
def firstLine : String := "run 'it\nis' \"a\\\nb\" c\\\n # what's \\"

/-- A text that starts with a comment and ends in an escaped line feed. -/
def secondLine : String := "#\"\n-x \\#\\\n"

/-- Quotes, escapes and comments of one text do not reach into the next line. -/
theorem split_firstLine_secondLine :
    split firstLine = .ok ["run", "it\nis", "ab", "c"] ∧ split secondLine = .ok ["-x", "#"] ∧
      split (firstLine ++ "\n" ++ secondLine) = .ok ["run", "it\nis", "ab", "c", "-x", "#"] := by
  have hfirst : split firstLine = .ok ["run", "it\nis", "ab", "c"] := rfl
  have hsecond : split secondLine = .ok ["-x", "#"] := rfl
  exact ⟨hfirst, hsecond, (split_append_line hfirst secondLine).1 _ hsecond⟩

end Autostart.CommandWords
