import Autostart.Proofs.Document.Rereading
import Mathlib.Data.List.DropRight

/-!
# Documents that are written and read again

A document is written line by line, and the next reader drops a carriage return at the end of each
line. What it reads is the document as it was but for these: they belong to no header, key or
comment that would change by their loss. So a text that is read and written again differs in the
ends of its lines only, and the second reading is the first one unless a line still ended in a
carriage return.
-/

namespace Autostart.Document

/-- A line with a key as it is read again. -/
def KeyLine.reread (line : KeyLine) : KeyLine :=
  { line with
    value := Text.dropReturn (Text.trimStart line.value)
    text := Text.dropReturn line.text }

/-- A line of a group as it is read again. -/
def Line.reread : Line → Line
  | verbatim text => verbatim (Text.dropReturn text)
  | entry line => entry line.reread

/-- A group as it is read again. -/
def Group.reread (g : Group) : Group :=
  { g with header := Text.dropReturn g.header, lines := g.lines.map Line.reread }

/-- A document as it is read again after it was written. -/
def reread (d : Document) : Document :=
  ⟨d.preamble.map Text.dropReturn, d.groups.map Group.reread⟩

/-- The lines that are read again are those that were written. -/
theorem lines_reread (d : Document) : d.reread.lines = d.lines.map Text.dropReturn := by
  have hline : ∀ line : Line, line.reread.text = Text.dropReturn line.text := by
    intro line
    cases line <;> rfl
  have hgroup : ∀ g : Group, g.reread.allLines = g.allLines.map Text.dropReturn := by
    intro g
    simp [Group.allLines, Group.reread, hline]
  unfold lines reread
  simp [List.map_flatMap, List.flatMap_map, hgroup]

/-- The value that a line gives to a key when it is read again. -/
theorem value?_reread (key : String) (locale? : Option String) (line : Line) :
    line.reread.value? key locale? =
      (line.value? key locale?).map fun value => Text.dropReturn (Text.trimStart value) := by
  cases line with
  | verbatim text => rfl
  | entry line =>
    unfold Line.reread Line.value?
    dsimp only [KeyLine.reread]
    split <;> rfl

/-- The value of a key when the document is read again. -/
theorem rawValue?_reread (d : Document) (key : String) (locale? : Option String) :
    d.reread.rawValue? key locale? =
      (d.rawValue? key locale?).map fun value => Text.dropReturn (Text.trimStart value) := by
  have hgroup : d.reread.group? mainGroup = (d.group? mainGroup).map Group.reread := by
    unfold group? reread
    rw [List.find?_map]
    rfl
  unfold rawValue?
  rw [hgroup, Option.bind_map]
  rcases d.group? mainGroup with _ | g
  · rfl
  · show valueIn key locale? (g.lines.map Line.reread) = _
    have hline : Line.value? key locale? ∘ Line.reread =
        Option.map (fun value => Text.dropReturn (Text.trimStart value)) ∘
          Line.value? key locale? :=
      funext (value?_reread key locale?)
    unfold valueIn
    rw [List.findSome?_map, hline, ← List.map_findSome?]
    rfl

/-! ## Reading without carriage returns -/

/-- What a line is without the carriage return at its end. -/
def LineKind.dropReturn : LineKind → LineKind
  | .entry line =>
    .entry { line with value := Text.dropReturn line.value, text := Text.dropReturn line.text }
  | kind => kind

/-- A line reads the same without the carriage return at its end. -/
theorem readLine_dropReturn {line : String} {kind : LineKind} (h : readLine line = .ok kind) :
    readLine (Text.dropReturn line) = .ok kind.dropReturn := by
  have hline : (Text.dropReturn line).toList = Chars.dropReturn line.toList :=
    String.toList_ofList
  unfold readLine at h ⊢
  -- The carriage return is a blank at the end, so the trimmed line is the same. It matters to the
  -- last case only, where the value is cut from the line as it stands.
  rw [hline, Chars.trim_dropReturn]
  split at h
  · cases h; rfl
  · cases h; rfl
  · dsimp only at h ⊢
    split at h
    · cases h
    · next hclosed =>
      rw [if_neg hclosed]
      split at h
      · cases h
      · next hname =>
        cases h
        rw [if_neg hname]
        rfl
  · split at h
    · cases h
    · next left right hsplit =>
      rw [Chars.splitFirst_dropReturn (by decide) hsplit]
      dsimp only
      split at h
      · cases h
      · next key locale? hkey =>
        cases h
        rw [Chars.trimStart_dropReturn]
        simp [LineKind.dropReturn, Text.dropReturn]

/-- A value is read without blanks at its start. -/
theorem trimStart_of_readLine {line : String} {keyLine : KeyLine}
    (h : readLine line = .ok (.entry keyLine)) : Text.trimStart keyLine.value = keyLine.value := by
  obtain ⟨left, right, -, -, -, hvalue, -⟩ := exists_split_of_readLine h
  unfold Text.trimStart
  rw [hvalue, Chars.trimStart, Chars.trimStart, List.dropWhile_idempotent]
  exact String.toList_inj.1 (String.toList_ofList.trans hvalue.symm)

/-- The values of a read document have no blanks at their start. -/
theorem IsRead.trimStart_rawValue? {d : Document} (h : d.IsRead) {key raw : String}
    {locale? : Option String} (hraw : d.rawValue? key locale? = some raw) :
    Text.trimStart raw = raw := by
  obtain ⟨g, hg, line, hline, -, -, rfl⟩ := exists_entry_of_rawValue? hraw
  exact trimStart_of_readLine ((h.groups g hg).lines _ hline)

/-- A line that is read is read again. -/
theorem Line.IsRead.reread {line : Line} (h : line.IsRead) : line.reread.IsRead := by
  cases line with
  | verbatim text => exact readLine_dropReturn h
  | entry line =>
    -- The value was read from the line, so nothing is left to trim at its start.
    have hvalue := trimStart_of_readLine h
    have hread := readLine_dropReturn h
    show readLine (Text.dropReturn line.text) = .ok (.entry line.reread)
    rw [hread]
    unfold KeyLine.reread
    rw [hvalue]
    rfl

/-- A group that is read is read again. -/
theorem Group.IsRead.reread {g : Group} (h : g.IsRead) : g.reread.IsRead := by
  refine ⟨readLine_dropReturn h.header_eq, fun line hline => ?_⟩
  obtain ⟨line, hmem, rfl⟩ := List.mem_map.1 hline
  exact (h.lines line hmem).reread

/-- The groups keep their names when they are read again. -/
theorem map_name_reread (groups : List Group) :
    (groups.map Group.reread).map Group.name = groups.map Group.name := by
  rw [List.map_map]
  rfl

/-- A document that is read is read again. -/
theorem IsRead.reread {d : Document} (h : d.IsRead) : d.reread.IsRead := by
  refine ⟨fun text htext => ?_, fun g hg => ?_, ?_⟩
  · obtain ⟨text, hmem, rfl⟩ := List.mem_map.1 htext
    exact readLine_dropReturn (h.preamble text hmem)
  · obtain ⟨g, hmem, rfl⟩ := List.mem_map.1 hg
    exact (h.groups g hmem).reread
  · show ((d.groups.map Group.reread).map Group.name).Nodup
    rw [map_name_reread]
    exact h.nodup

/-- A document whose lines have no line feed is read again from its text, when it can be. -/
theorem parse_text_reread {d : Document} (h : d.reread.IsRead)
    (hfeed : ∀ line ∈ d.lines, '\n' ∉ line.toList) : parse d.text = .ok d.reread := by
  unfold parse text
  rw [Text.lines_joinLines_of_notMem hfeed, ← lines_reread]
  exact h.addLines_empty

/-- A document is the same when it is read again exactly when no line of it ends in a carriage
return. -/
theorem reread_eq_self_iff {d : Document} (h : d.IsRead)
    (hfeed : ∀ line ∈ d.lines, '\n' ∉ line.toList) :
    d.reread = d ↔ ∀ line ∈ d.lines, line.toList.getLast? ≠ some '\r' := by
  constructor
  · intro hsame line hline
    have hlines := lines_reread d
    rw [hsame] at hlines
    have hcut := List.map_inj_left.1 (hlines.symm.trans (List.map_id _).symm)
    exact Text.getLast?_ne_of_dropReturn_eq (hcut line hline)
  · intro hreturn
    -- Both are read from the same text.
    have hread := h.parse_text fun line hline => ⟨hfeed line hline, hreturn line hline⟩
    rw [parse_text_reread h.reread hfeed] at hread
    exact Except.ok.inj hread

/-- A text that is read is written again as its lines, each ended by a line feed. The text that was
written is read again, and gives the same document and the same text exactly when no line ends in a
carriage return. -/
theorem lossless_of_parse {s : String} {d : Document} (h : parse s = .ok d) :
    ∃ ls, (∀ ls', Text.HasLines s ls' ↔ ls' = ls) ∧ d.text = joinLines ls ∧
      ∃ d', parse d.text = .ok d' ∧
        (d' = d ↔ ∀ line ∈ ls, line.toList.getLast? ≠ some '\r') ∧
        (d'.text = d.text ↔ ∀ line ∈ ls, line.toList.getLast? ≠ some '\r') := by
  obtain ⟨hread, hlines⟩ := isRead_of_parse h
  have hfeed : ∀ line ∈ d.lines, '\n' ∉ line.toList := fun line hline =>
    Text.notMem_of_mem_lines (hlines ▸ hline)
  have hsame := reread_eq_self_iff hread hfeed
  refine ⟨d.lines, fun ls' => ?_, rfl, d.reread, parse_text_reread hread.reread hfeed, hsame,
    fun htext => ?_, fun hreturn => ?_⟩
  · rw [hlines]
    exact Text.hasLines_iff
  · -- The same text has the same lines, so no carriage return was cut off.
    have hfeed' : ∀ line ∈ d.reread.lines, '\n' ∉ line.toList := by
      rw [lines_reread]
      intro line hline
      obtain ⟨line, hmem, rfl⟩ := List.mem_map.1 hline
      exact Text.notMem_dropReturn (hfeed line hmem)
    have hlines' := Text.joinLines_inj hfeed' hfeed htext
    rw [lines_reread] at hlines'
    have hcut := List.map_inj_left.1 (hlines'.trans (List.map_id _).symm)
    exact fun line hline => Text.getLast?_ne_of_dropReturn_eq (hcut line hline)
  · rw [hsame.2 hreturn]

/-- A text of a launcher whose lines end in different ways. -/
def mixedEnds : String :=
  "# a\r\n\n[Desktop Entry]\r\nName = A\nExec=a"

/-- A text whose lines end in different ways is written with line feeds alone, and is then read and
written as it stands. -/
theorem lossless_mixedEnds :
    ∃ d, parse mixedEnds = .ok d ∧ d.text = "# a\n\n[Desktop Entry]\nName = A\nExec=a\n" ∧
      parse d.text = .ok d := by
  have hparse : parse mixedEnds = .ok ⟨["# a", ""], [⟨"Desktop Entry", "[Desktop Entry]",
      [.entry ⟨"Name", none, "A", "Name = A"⟩, .entry ⟨"Exec", none, "a", "Exec=a"⟩]⟩]⟩ := by rfl
  obtain ⟨ls, hls, -, d', hd', hsame, -⟩ := lossless_of_parse hparse
  obtain rfl : Text.lines mixedEnds = ls := (hls _).1 (Text.hasLines_iff.2 rfl)
  rw [hsame.2 (by decide)] at hd'
  exact ⟨_, hparse, rfl, hd'⟩

end Autostart.Document
