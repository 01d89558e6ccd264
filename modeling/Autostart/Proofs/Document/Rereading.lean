import Autostart.Document.Parse
import Autostart.Proofs.Document.Storing
import Autostart.Proofs.Text.Lines
import Mathlib.Data.List.Nodup

/-!
# Documents that read back

A document is read when each part of it is what its line reads as, and no two groups have one name.
Every document that a text holds is read. A read document whose lines can be told apart comes back
from its text, so what is written to a file is what the next reader finds.
-/

namespace Autostart.Document

/-- A line is what its text reads as. -/
def Line.IsRead : Line → Prop
  | .verbatim text => readLine text = .ok .verbatim
  | .entry line => readLine line.text = .ok (.entry line)

/-- A group is what its lines read as. -/
structure Group.IsRead (g : Group) : Prop where
  /-- The header reads as that of the group. -/
  header_eq : readLine g.header = .ok (.header g.name)
  /-- The lines are what their texts read as. -/
  lines : ∀ line ∈ g.lines, line.IsRead

/-- A document is what its lines read as. -/
structure IsRead (d : Document) : Prop where
  /-- The lines before the first group are blank or comments. -/
  preamble : ∀ text ∈ d.preamble, readLine text = .ok .verbatim
  /-- The groups are what their lines read as. -/
  groups : ∀ g ∈ d.groups, g.IsRead
  /-- No two groups have one name. -/
  nodup : (d.groups.map Group.name).Nodup

/-- The document without any line is read. -/
theorem isRead_empty : empty.IsRead :=
  ⟨by simp [empty], by simp [empty], List.nodup_nil⟩

/-! ## Every document of a text is read -/

/-- A line with a key is cut at its first equals sign. The key is read from the part before it, and
the value is the part behind it without blanks at its start. -/
theorem exists_split_of_readLine {line : String} {keyLine : KeyLine}
    (h : readLine line = .ok (.entry keyLine)) :
    ∃ left right, line.toList = left ++ '=' :: right ∧ '=' ∉ left ∧
      readKey (Chars.trim left) = some (keyLine.key, keyLine.locale?) ∧
      keyLine.value.toList = Chars.trimStart right ∧ keyLine.text = line := by
  unfold readLine at h
  split at h
  · cases h
  · cases h
  · dsimp only at h
    split at h
    · cases h
    · split at h <;> cases h
  · split at h
    · cases h
    · next left right hsplit =>
      obtain ⟨hline, hequals⟩ := Chars.eq_append_of_splitFirst hsplit
      split at h
      · cases h
      · next key locale? hkey =>
        cases h
        exact ⟨left, right, hline, hequals, hkey, String.toList_ofList, rfl⟩

/-- A line with a key keeps the text that it was read from. -/
theorem text_of_readLine {line : String} {keyLine : KeyLine}
    (h : readLine line = .ok (.entry keyLine)) : keyLine.text = line := by
  obtain ⟨left, right, -, -, -, -, htext⟩ := exists_split_of_readLine h
  exact htext

/-- A line is added to the last group. -/
theorem addToLast_append (line : Line) (groups : List Group) (g : Group) :
    addToLast line (groups ++ [g]) = some (groups ++ [{ g with lines := g.lines ++ [line] }]) := by
  induction groups with
  | nil => rfl
  | cons first rest ih =>
    rcases hrest : rest ++ [g] with _ | ⟨second, others⟩
    · simp at hrest
    · rw [hrest] at ih
      rw [List.cons_append, hrest, addToLast, ih]
      · rfl
      · simp

/-- A line is added to no group only when there is none. -/
theorem addToLast_eq_none {line : Line} {groups : List Group} (h : addToLast line groups = none) :
    groups = [] := by
  rcases List.eq_nil_or_concat groups with rfl | ⟨before, g, rfl⟩
  · rfl
  · rw [List.concat_eq_append, addToLast_append] at h
    cases h

/-- A line that reads as it should can be added to the last group. -/
theorem IsRead.addToLast {d : Document} (h : d.IsRead) {line : Line} (hline : line.IsRead)
    {groups : List Group} (hgroups : addToLast line d.groups = some groups) :
    ({ d with groups } : Document).IsRead := by
  rcases List.eq_nil_or_concat d.groups with hnil | ⟨before, g, hbefore⟩
  · rw [hnil] at hgroups
    cases hgroups
  · rw [List.concat_eq_append] at hbefore
    rw [hbefore, addToLast_append] at hgroups
    obtain rfl := Option.some.inj hgroups
    refine ⟨h.preamble, fun g' hg' => ?_, ?_⟩
    · rcases List.mem_append.1 hg' with hg' | hg'
      · exact h.groups g' (hbefore ▸ List.mem_append_left _ hg')
      · obtain rfl := List.mem_singleton.1 hg'
        have hg := h.groups g (hbefore ▸ List.mem_append_right _ List.mem_cons_self)
        refine ⟨hg.header_eq, fun l hl => ?_⟩
        rcases List.mem_append.1 hl with hl | hl
        · exact hg.lines l hl
        · exact List.mem_singleton.1 hl ▸ hline
    · -- The names of the groups are the same.
      have hnodup := h.nodup
      rw [hbefore] at hnodup
      simpa using hnodup

/-- Adding a line to a read document gives one. -/
theorem IsRead.addText {d d' : Document} (h : d.IsRead) {line : String}
    (hadd : d.addText line = .ok d') : d'.IsRead := by
  unfold Document.addText at hadd
  split at hadd
  · cases hadd
  · next hline =>
    split at hadd
    · next groups hgroups =>
      cases hadd
      have hread : (Line.verbatim line).IsRead := hline
      exact h.addToLast hread hgroups
    · -- Without a group the line goes before the first one.
      cases hadd
      refine ⟨fun text htext => ?_, h.groups, h.nodup⟩
      rcases List.mem_append.1 htext with htext | htext
      · exact h.preamble text htext
      · exact List.mem_singleton.1 htext ▸ hline
  · next name hline =>
    split at hadd
    · cases hadd
    · next hfree =>
      -- The header starts a group under a name that no other has.
      cases hadd
      refine ⟨h.preamble, fun g hg => ?_, ?_⟩
      · rcases List.mem_append.1 hg with hg | hg
        · exact h.groups g hg
        · obtain rfl := List.mem_singleton.1 hg
          exact ⟨hline, by simp⟩
      · have hnew : name ∉ d.groups.map Group.name := by
          simpa [hasGroup, group?] using hfree
        rw [List.map_append]
        refine List.nodup_append.2 ⟨h.nodup, List.nodup_singleton name, fun m hm n hn => ?_⟩
        rw [List.mem_singleton.1 hn]
        exact ne_of_mem_of_not_mem hm hnew
  · next keyLine hline =>
    split at hadd
    · next groups hgroups =>
      cases hadd
      have hread : (Line.entry keyLine).IsRead := by
        show readLine keyLine.text = .ok (.entry keyLine)
        rw [text_of_readLine hline, hline]
      exact h.addToLast hread hgroups
    · cases hadd

/-- The lines of a document with a line added to its last group. -/
theorem lines_addToLast {d : Document} {line : Line} {groups : List Group}
    (h : Document.addToLast line d.groups = some groups) :
    ({ d with groups } : Document).lines = d.lines ++ [line.text] := by
  rcases List.eq_nil_or_concat d.groups with hnil | ⟨before, g, hbefore⟩
  · rw [hnil] at h
    cases h
  · rw [List.concat_eq_append] at hbefore
    rw [hbefore, addToLast_append] at h
    obtain rfl := Option.some.inj h
    unfold lines
    rw [hbefore]
    simp [Group.allLines]

/-- Adding a line adds its text. -/
theorem lines_addText {d d' : Document} {line : String} (h : d.addText line = .ok d') :
    d'.lines = d.lines ++ [line] := by
  unfold Document.addText at h
  split at h
  · cases h
  · split at h
    · next groups hgroups =>
      cases h
      exact lines_addToLast hgroups
    · next hnone =>
      cases h
      unfold lines
      rw [addToLast_eq_none hnone]
      simp
  · split at h
    · cases h
    · cases h
      simp [lines, Group.allLines]
  · next keyLine hline =>
    split at h
    · next groups hgroups =>
      cases h
      rw [lines_addToLast hgroups]
      show d.lines ++ [keyLine.text] = _
      rw [text_of_readLine hline]
    · cases h

/-- Adding lines to a read document gives one, with the texts of the lines at its end. -/
theorem IsRead.addLines {d d' : Document} (h : d.IsRead) {n : Nat} {ls : List String}
    (hadd : d.addLines n ls = .ok d') : d'.IsRead ∧ d'.lines = d.lines ++ ls := by
  induction ls generalizing d n with
  | nil =>
    cases hadd
    exact ⟨h, by simp⟩
  | cons line rest ih =>
    unfold Document.addLines at hadd
    split at hadd
    · cases hadd
    · next next hnext =>
      obtain ⟨hread, hlines⟩ := ih (h.addText hnext) hadd
      refine ⟨hread, ?_⟩
      rw [hlines, lines_addText hnext, List.append_assoc, List.singleton_append]

/-- The document of a text is read, and its lines are those of the text. -/
theorem isRead_of_parse {s : String} {d : Document} (h : parse s = .ok d) :
    d.IsRead ∧ d.lines = Text.lines s := by
  obtain ⟨hread, hlines⟩ := isRead_empty.addLines h
  exact ⟨hread, hlines.trans (List.nil_append _)⟩

/-! ## A read document comes back -/

/-- Adding lines in two parts. -/
theorem addLines_append {d d' : Document} {n : Nat} {front : List String}
    (h : d.addLines n front = .ok d') (back : List String) :
    d.addLines n (front ++ back) = d'.addLines (n + front.length) back := by
  induction front generalizing d n with
  | nil =>
    cases h
    rfl
  | cons line rest ih =>
    unfold Document.addLines at h
    rw [List.cons_append]
    split at h
    · cases h
    · next next hnext =>
      rw [Document.addLines, hnext]
      dsimp only
      rw [ih h, List.length_cons]
      congr 1
      omega

/-- The lines before the first group come back. -/
theorem addLines_preamble (preamble texts : List String)
    (h : ∀ text ∈ texts, readLine text = .ok .verbatim) (n : Nat) :
    addLines ⟨preamble, []⟩ n texts = .ok ⟨preamble ++ texts, []⟩ := by
  induction texts generalizing preamble n with
  | nil => simp [Document.addLines]
  | cons text rest ih =>
    have htext : addText ⟨preamble, []⟩ text = .ok ⟨preamble ++ [text], []⟩ := by
      unfold Document.addText
      rw [h text List.mem_cons_self]
      rfl
    rw [Document.addLines, htext]
    dsimp only
    rw [ih _ (fun t ht => h t (List.mem_cons_of_mem text ht)), List.append_assoc,
      List.singleton_append]

/-- A line that is what its text reads as is added to the last group. -/
theorem addText_text {line : Line} (h : line.IsRead) (preamble : List String)
    (groups : List Group) (g : Group) :
    addText ⟨preamble, groups ++ [g]⟩ line.text =
      .ok ⟨preamble, groups ++ [{ g with lines := g.lines ++ [line] }]⟩ := by
  cases line with
  | verbatim text =>
    have htext : readLine text = .ok .verbatim := h
    unfold Document.addText Line.text
    dsimp only
    rw [htext]
    dsimp only
    rw [addToLast_append]
  | entry keyLine =>
    have htext : readLine keyLine.text = .ok (.entry keyLine) := h
    unfold Document.addText Line.text
    dsimp only
    rw [htext]
    dsimp only
    rw [addToLast_append]

/-- The lines of a group come back. -/
theorem addLines_lines (preamble : List String) (groups : List Group) (g : Group)
    (ls : List Line) (h : ∀ line ∈ ls, line.IsRead) (n : Nat) :
    addLines ⟨preamble, groups ++ [g]⟩ n (ls.map Line.text) =
      .ok ⟨preamble, groups ++ [{ g with lines := g.lines ++ ls }]⟩ := by
  induction ls generalizing g n with
  | nil => simp [Document.addLines]
  | cons line rest ih =>
    rw [List.map_cons, Document.addLines, addText_text (h line List.mem_cons_self)]
    dsimp only
    rw [ih _ fun l hl => h l (List.mem_cons_of_mem line hl), List.append_assoc,
      List.singleton_append]

/-- A group comes back. -/
theorem addLines_group {g : Group} (h : g.IsRead) (preamble : List String) (groups : List Group)
    (hnew : g.name ∉ groups.map Group.name) (n : Nat) :
    addLines ⟨preamble, groups⟩ n g.allLines = .ok ⟨preamble, groups ++ [g]⟩ := by
  have hheader : addText ⟨preamble, groups⟩ g.header =
      .ok ⟨preamble, groups ++ [⟨g.name, g.header, []⟩]⟩ := by
    have hfree : hasGroup ⟨preamble, groups⟩ g.name = false := by
      simpa [hasGroup, group?] using hnew
    unfold Document.addText
    rw [h.header_eq]
    simp [hfree]
  unfold Group.allLines
  rw [Document.addLines, hheader]
  dsimp only
  rw [addLines_lines preamble groups _ g.lines h.lines]
  rfl

/-- Groups come back. -/
theorem addLines_groups (preamble : List String) (groups more : List Group)
    (h : ∀ g ∈ more, g.IsRead) (hnodup : ((groups ++ more).map Group.name).Nodup) (n : Nat) :
    addLines ⟨preamble, groups⟩ n (more.flatMap Group.allLines) =
      .ok ⟨preamble, groups ++ more⟩ := by
  induction more generalizing groups n with
  | nil => simp [Document.addLines]
  | cons g rest ih =>
    have hnew : g.name ∉ groups.map Group.name := by
      rw [List.map_append, List.map_cons] at hnodup
      intro hmem
      exact (List.nodup_append.1 hnodup).2.2 _ hmem _ List.mem_cons_self rfl
    rw [List.flatMap_cons,
      addLines_append (addLines_group (h g List.mem_cons_self) preamble groups hnew n)]
    rw [List.append_cons] at hnodup
    rw [ih _ (fun g' hg' => h g' (List.mem_cons_of_mem g hg')) hnodup, List.append_assoc,
      List.singleton_append]

/-- A read document comes back from its lines. -/
theorem IsRead.addLines_empty {d : Document} (h : d.IsRead) : empty.addLines 1 d.lines = .ok d := by
  unfold lines
  have hpreamble := addLines_preamble [] d.preamble h.preamble 1
  rw [List.nil_append] at hpreamble
  rw [show empty = (⟨[], []⟩ : Document) from rfl, addLines_append hpreamble,
    addLines_groups d.preamble [] d.groups h.groups h.nodup]
  rfl

/-- A read document whose lines can be told apart comes back from its text. -/
theorem IsRead.parse_text {d : Document} (h : d.IsRead)
    (hlines : ∀ line ∈ d.lines, Text.IsLine line) : parse d.text = .ok d := by
  unfold parse text
  rw [Text.lines_joinLines hlines]
  exact h.addLines_empty

end Autostart.Document
