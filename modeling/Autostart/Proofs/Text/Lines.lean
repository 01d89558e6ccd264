import Autostart.Document.Basic
import Autostart.Proofs.Text.Splitting
import Autostart.Proofs.Text.Trimming
import Mathlib.Data.List.Basic

/-!
# Lines of texts

The lines of a text end at its line feeds, and a carriage return right before a line feed belongs to
the end of the line. Lines without a line feed come back from the text that joins them, but for a
carriage return at the end of each.
-/

namespace Autostart

/-- Whether a line can be read back: it holds no line feed and ends in no carriage return. -/
def Text.IsLine (s : String) : Prop :=
  '\n' ∉ s.toList ∧ s.toList.getLast? ≠ some '\r'

/-- A line without the carriage return at its end, if it has one. -/
def Text.dropReturn (s : String) : String :=
  String.ofList (Chars.dropReturn s.toList)

namespace Chars

/-- A text consists of lines: each but the last ends in a line feed, perhaps with a carriage return
before it, and the last one may have no end if it is not empty. -/
inductive HasLines : List Char → List (List Char) → Prop where
  /-- The empty text has no line. -/
  | empty : HasLines [] []
  /-- The last line has no end. -/
  | unended (line : List Char) (ne : line ≠ []) (feed : '\n' ∉ line) : HasLines line [line]
  /-- A line ends in a line feed alone. -/
  | feed (line rest : List Char) (ls : List (List Char)) (feed : '\n' ∉ line)
      (alone : line.getLast? ≠ some '\r') (further : HasLines rest ls) :
      HasLines (line ++ '\n' :: rest) (line :: ls)
  /-- A line ends in a carriage return and a line feed. -/
  | returnFeed (line rest : List Char) (ls : List (List Char)) (feed : '\n' ∉ line)
      (further : HasLines rest ls) : HasLines (line ++ '\r' :: '\n' :: rest) (line :: ls)

/-- A line that ends in no carriage return is not cut. -/
theorem dropReturn_of_ne {line : List Char} (h : line.getLast? ≠ some '\r') :
    dropReturn line = line :=
  if_neg h

/-- The carriage return at the end of a line is cut off. -/
theorem dropReturn_concat (line : List Char) : dropReturn (line ++ ['\r']) = line := by
  unfold dropReturn
  rw [if_pos List.getLast?_concat, List.dropLast_concat]

/-- A line ends in a carriage return that is cut off, or is not cut. -/
theorem dropReturn_cases (line : List Char) :
    (∃ front, line = front ++ ['\r'] ∧ dropReturn line = front) ∨ dropReturn line = line := by
  by_cases h : line.getLast? = some '\r'
  · obtain ⟨front, rfl⟩ := List.getLast?_eq_some_iff.1 h
    exact .inl ⟨front, rfl, dropReturn_concat front⟩
  · exact .inr (dropReturn_of_ne h)

/-- A line holds what is left of it. -/
theorem mem_of_mem_dropReturn {line : List Char} {c : Char} (h : c ∈ dropReturn line) :
    c ∈ line := by
  unfold dropReturn at h
  split at h
  · exact (List.dropLast_sublist line).mem h
  · exact h

/-- Only the end of a text can lose its carriage return. -/
theorem dropReturn_append (front : List Char) {back : List Char} (h : back ≠ []) :
    dropReturn (front ++ back) = front ++ dropReturn back := by
  unfold dropReturn
  rw [List.getLast?_append_of_ne_nil front h]
  split
  · exact List.dropLast_append_of_ne_nil h
  · rfl

/-- The first character of a text stays unless it is a carriage return. -/
theorem dropReturn_cons {c : Char} (h : c ≠ '\r') (rest : List Char) :
    dropReturn (c :: rest) = c :: dropReturn rest := by
  rcases rest with _ | ⟨c', rest⟩
  · exact dropReturn_of_ne (by simpa using h)
  · exact dropReturn_append [c] (List.cons_ne_nil c' rest)

/-- A carriage return at the end can be cut off before or after the leading blanks. -/
theorem trimStart_dropReturn (cs : List Char) :
    trimStart (dropReturn cs) = dropReturn (trimStart cs) := by
  induction cs with
  | nil => rfl
  | cons c rest ih =>
    unfold trimStart at ih ⊢
    by_cases hblank : isBlank c = true
    · rw [List.dropWhile_cons_of_pos hblank]
      rcases rest with _ | ⟨c', rest⟩
      · rcases dropReturn_cases [c] with ⟨front, hfront, hdrop⟩ | hdrop
        · obtain rfl : front = [] := by simpa using congrArg List.length hfront
          rw [hdrop]
          rfl
        · rw [hdrop, List.dropWhile_cons_of_pos hblank]
          rfl
      · have hdrop : dropReturn (c :: c' :: rest) = c :: dropReturn (c' :: rest) :=
          dropReturn_append [c] (List.cons_ne_nil c' rest)
        rw [hdrop, List.dropWhile_cons_of_pos hblank, ih]
    · -- A character that is not blank is no carriage return.
      have hreturn : c ≠ '\r' := fun heq => hblank (heq ▸ rfl)
      rw [dropReturn_cons hreturn, List.dropWhile_cons_of_neg hblank,
        List.dropWhile_cons_of_neg hblank, dropReturn_cons hreturn]

/-- A carriage return at the end is one of the trailing blanks. -/
theorem trimEnd_dropReturn (cs : List Char) : trimEnd (dropReturn cs) = trimEnd cs := by
  rcases dropReturn_cases cs with ⟨front, rfl, hdrop⟩ | hdrop
  · rw [hdrop]
    unfold trimEnd
    rw [List.reverse_append, List.reverse_singleton, List.singleton_append,
      List.dropWhile_cons_of_pos (by rfl)]
  · rw [hdrop]

/-- A carriage return at the end does not matter once the blanks around a text are cut off. -/
theorem trim_dropReturn (cs : List Char) : trim (dropReturn cs) = trim cs := by
  unfold trim
  rw [trimStart_dropReturn, trimEnd_dropReturn]

/-- A text is cut at its first separator with or without a carriage return at its end. -/
theorem splitFirst_dropReturn {sep : Char} (hsep : sep ≠ '\r') {cs before after : List Char}
    (h : splitFirst sep cs = some (before, after)) :
    splitFirst sep (dropReturn cs) = some (before, dropReturn after) := by
  obtain ⟨rfl, hbefore⟩ := eq_append_of_splitFirst h
  rw [dropReturn_append before (List.cons_ne_nil sep after), dropReturn_cons hsep,
    splitFirst_append hbefore]

/-- The lines of a piece, a line feed and a further text are the piece, without a carriage return
at its end, and the lines of this text. -/
theorem lines_append_cons {line : List Char} (hfeed : '\n' ∉ line) (rest : List Char) :
    lines (line ++ '\n' :: rest) = dropReturn line :: lines rest := by
  unfold lines
  rw [splitAll_append_cons, splitAll_of_notMem hfeed, List.singleton_append]
  rcases hpieces : splitAll '\n' rest with _ | ⟨piece, pieces⟩
  · exact absurd hpieces (splitAll_ne_nil '\n' rest)
  · rw [linesOfPieces]

/-- A text without a line feed is its only line, unless it is empty. -/
theorem lines_of_notMem {cs : List Char} (hfeed : '\n' ∉ cs) (hne : cs ≠ []) :
    lines cs = [cs] := by
  unfold lines
  rw [splitAll_of_notMem hfeed, linesOfPieces, if_neg (by simpa using hne)]

/-- A text consists of its lines. -/
theorem hasLines_lines (cs : List Char) : HasLines cs (lines cs) := by
  induction hlength : cs.length using Nat.strongRecOn generalizing cs with
  | ind n ih =>
    by_cases hfeed : '\n' ∈ cs
    · -- The first line feed ends a line, and the rest of the text is shorter.
      obtain ⟨line, rest, rfl, hline⟩ := List.eq_append_cons_of_mem hfeed
      have hrest := ih rest.length (by simp at hlength; omega) rest rfl
      rw [lines_append_cons hline]
      rcases dropReturn_cases line with ⟨front, rfl, hdrop⟩ | hdrop
      · rw [hdrop, List.append_assoc]
        exact .returnFeed front rest _ (fun hmem => hline (List.mem_append_left _ hmem)) hrest
      · rw [hdrop]
        refine .feed line rest _ hline (fun hlast => ?_) hrest
        obtain ⟨front, rfl⟩ := List.getLast?_eq_some_iff.1 hlast
        rw [dropReturn_concat] at hdrop
        simp at hdrop
    · by_cases hne : cs = []
      · rw [hne]
        exact .empty
      · rw [lines_of_notMem hfeed hne]
        exact .unended cs hne hfeed

/-- A text consists of no other lines than its own. -/
theorem HasLines.eq_lines {cs : List Char} {ls : List (List Char)} (h : HasLines cs ls) :
    ls = lines cs := by
  induction h with
  | empty => rfl
  | unended line ne feed => rw [lines_of_notMem feed ne]
  | feed line rest ls feed alone _ ih => rw [lines_append_cons feed, dropReturn_of_ne alone, ih]
  | returnFeed line rest ls feed _ ih =>
    have hfeed : '\n' ∉ line ++ ['\r'] := by simpa using feed
    have hsplit := lines_append_cons hfeed rest
    rw [List.append_assoc, List.singleton_append] at hsplit
    rw [hsplit, dropReturn_concat, ih]

/-- The first lines of a text are all lines of a front part of it. -/
theorem HasLines.exists_front {cs : List Char} {before after : List (List Char)}
    (h : HasLines cs (before ++ after)) :
    ∃ front rest, cs = front ++ rest ∧ HasLines front before := by
  generalize hls : before ++ after = ls at h
  induction h generalizing before with
  | empty =>
    obtain ⟨rfl, -⟩ := List.append_eq_nil_iff.1 hls
    exact ⟨[], [], rfl, .empty⟩
  | unended line ne feed =>
    rcases before with _ | ⟨first, before⟩
    · exact ⟨[], line, rfl, .empty⟩
    · obtain ⟨rfl, hnil⟩ := List.cons.inj hls
      obtain ⟨rfl, -⟩ := List.append_eq_nil_iff.1 hnil
      exact ⟨first, [], (List.append_nil first).symm, .unended first ne feed⟩
  | feed line rest ls feed alone further ih =>
    rcases before with _ | ⟨first, before⟩
    · exact ⟨[], _, rfl, .empty⟩
    · obtain ⟨rfl, hrest⟩ := List.cons.inj hls
      obtain ⟨front, back, rfl, hfront⟩ := ih hrest
      exact ⟨first ++ '\n' :: front, back, by simp, .feed first front before feed alone hfront⟩
  | returnFeed line rest ls feed further ih =>
    rcases before with _ | ⟨first, before⟩
    · exact ⟨[], _, rfl, .empty⟩
    · obtain ⟨rfl, hrest⟩ := List.cons.inj hls
      obtain ⟨front, back, rfl, hfront⟩ := ih hrest
      have hlines := HasLines.returnFeed first front before feed hfront
      exact ⟨first ++ '\r' :: '\n' :: front, back, by simp, hlines⟩

/-- A line holds no line feed. -/
theorem notMem_of_mem_lines {cs line : List Char} (h : line ∈ lines cs) : '\n' ∉ line := by
  have hpieces : ∀ pieces : List (List Char), (∀ p ∈ pieces, '\n' ∉ p) →
      ∀ l ∈ linesOfPieces pieces, '\n' ∉ l := by
    intro pieces hfeed
    fun_induction linesOfPieces pieces with
    | case1 => simp
    | case2 => simp
    | case3 last hlast => simpa using hfeed
    | case4 piece next rest ih =>
      intro l hl
      rcases List.mem_cons.1 hl with rfl | hl
      · exact fun hmem => hfeed piece List.mem_cons_self (mem_of_mem_dropReturn hmem)
      · exact ih (fun p hp => hfeed p (List.mem_cons_of_mem piece hp)) l hl
  exact hpieces _ (fun p hp => notMem_of_mem_splitAll hp) line h

end Chars

namespace Text

/-- A text consists of lines, given without their ends. -/
def HasLines (s : String) (ls : List String) : Prop :=
  Chars.HasLines s.toList (ls.map String.toList)

/-- A text consists of its lines and no others. -/
theorem hasLines_iff {s : String} {ls : List String} : HasLines s ls ↔ ls = Text.lines s := by
  have hback : (Text.lines s).map String.toList = Chars.lines s.toList := by
    unfold Text.lines
    rw [List.map_map]
    exact (List.map_congr_left fun _ _ => String.toList_ofList).trans (List.map_id _)
  unfold HasLines
  constructor
  · intro h
    refine List.map_injective_iff.2 (fun a b hab => String.toList_inj.1 hab) ?_
    rw [hback]
    exact h.eq_lines
  · rintro rfl
    rw [hback]
    exact Chars.hasLines_lines s.toList

/-- The first lines of a text are all lines of a front part of it. -/
theorem HasLines.exists_front {s : String} {before after : List String}
    (h : HasLines s (before ++ after)) :
    ∃ front rest, s = front ++ rest ∧ HasLines front before := by
  unfold HasLines at h
  rw [List.map_append] at h
  obtain ⟨front, rest, hs, hfront⟩ := Chars.HasLines.exists_front h
  refine ⟨String.ofList front, String.ofList rest, String.toList_inj.1 ?_, ?_⟩
  · rw [String.toList_append, String.toList_ofList, String.toList_ofList, hs]
  · unfold HasLines
    rw [String.toList_ofList]
    exact hfront

/-- No line holds a line feed. -/
theorem notMem_of_mem_lines {s line : String} (h : line ∈ Text.lines s) : '\n' ∉ line.toList := by
  obtain ⟨cs, hcs, rfl⟩ := List.mem_map.1 h
  rw [String.toList_ofList]
  exact Chars.notMem_of_mem_lines hcs

/-- A line that can be read back ends in no carriage return that is cut off. -/
theorem dropReturn_of_isLine {s : String} (h : IsLine s) : dropReturn s = s := by
  unfold dropReturn
  rw [Chars.dropReturn_of_ne h.2, String.ofList_toList]

/-- A line ends in no carriage return when none is cut off. -/
theorem getLast?_ne_of_dropReturn_eq {s : String} (h : dropReturn s = s) :
    s.toList.getLast? ≠ some '\r' := by
  intro hlast
  obtain ⟨front, hfront⟩ := List.getLast?_eq_some_iff.1 hlast
  have hchars := congrArg String.toList h
  unfold dropReturn at hchars
  rw [String.toList_ofList, hfront, Chars.dropReturn_concat] at hchars
  simp at hchars

/-- A line without a line feed has none when a carriage return is cut off. -/
theorem notMem_dropReturn {s : String} (h : '\n' ∉ s.toList) : '\n' ∉ (dropReturn s).toList := by
  unfold dropReturn
  rw [String.toList_ofList]
  exact fun hmem => h (Chars.mem_of_mem_dropReturn hmem)

/-- A text that joins lines starts with the first of them and its end. -/
theorem toList_joinLines_cons (line : String) (rest : List String) :
    (Document.joinLines (line :: rest)).toList =
      line.toList ++ '\n' :: (Document.joinLines rest).toList := by
  unfold Document.joinLines
  simp [String.toList_join]

/-- Lines without a line feed can be told from the text that joins them. -/
theorem joinLines_inj {ls ls' : List String} (h : ∀ line ∈ ls, '\n' ∉ line.toList)
    (h' : ∀ line ∈ ls', '\n' ∉ line.toList)
    (heq : Document.joinLines ls = Document.joinLines ls') : ls = ls' := by
  have hchars := congrArg String.toList heq
  induction ls generalizing ls' with
  | nil =>
    rcases ls' with _ | ⟨line', rest'⟩
    · rfl
    · rw [toList_joinLines_cons] at hchars
      simp [Document.joinLines, String.join] at hchars
  | cons line rest ih =>
    rcases ls' with _ | ⟨line', rest'⟩
    · rw [toList_joinLines_cons] at hchars
      simp [Document.joinLines, String.join] at hchars
    · -- The first line ends at the first line feed of the text.
      rw [toList_joinLines_cons, toList_joinLines_cons] at hchars
      obtain ⟨hline, hrest⟩ := Chars.append_cons_inj (h line List.mem_cons_self)
        (h' line' List.mem_cons_self) hchars
      rw [String.toList_inj.1 hline, ih (fun l hl => h l (List.mem_cons_of_mem line hl))
        (fun l hl => h' l (List.mem_cons_of_mem line' hl)) (String.toList_inj.1 hrest) hrest]

/-- Lines without a line feed are the lines of the text that joins them, but for a carriage return
at the end of each. -/
theorem lines_joinLines_of_notMem {ls : List String} (h : ∀ line ∈ ls, '\n' ∉ line.toList) :
    Text.lines (Document.joinLines ls) = ls.map dropReturn := by
  have hchars : Chars.lines (Document.joinLines ls).toList =
      ls.map fun line => Chars.dropReturn line.toList := by
    induction ls with
    | nil => rfl
    | cons line rest ih =>
      rw [toList_joinLines_cons, Chars.lines_append_cons (h line List.mem_cons_self), List.map_cons,
        ih fun l hl => h l (List.mem_cons_of_mem line hl)]
  unfold Text.lines
  rw [hchars, List.map_map]
  rfl

/-- Lines that can be read back are the lines of the text that joins them. -/
theorem lines_joinLines {ls : List String} (h : ∀ line ∈ ls, IsLine line) :
    Text.lines (Document.joinLines ls) = ls := by
  have hsame : ls.map dropReturn = ls.map id :=
    List.map_congr_left fun line hline => dropReturn_of_isLine (h line hline)
  rw [lines_joinLines_of_notMem fun line hline => (h line hline).1, hsame, List.map_id]

end Text

end Autostart
