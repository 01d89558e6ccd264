import Autostart.Proofs.Document.Reloading
import Autostart.Proofs.Document.Values

/-!
# Stored texts that survive the file

A text that is stored in a document and written to a file is what the next reader finds under its
key, whatever its characters are, unless it starts with white space that has no escape: the reader
takes that for the blanks around the equals sign. A localized text is found under the suffix of its
locale when the suffix can stand between brackets, and under no other suffix. Lines that end in a
carriage return lose it on the way, which no stored text does.
-/

namespace Autostart.Document

/-- A document to start from: one that was read from a text, or a new one. -/
inductive IsStart : Document → Prop where
  /-- It was read from a text. -/
  | parsed (s : String) (d : Document) (parsed : parse s = .ok d) : IsStart d
  /-- It has no line. -/
  | empty : IsStart empty
  /-- It is that of a new launcher. -/
  | application : IsStart application

/-- The parts of a document to start from are what their lines read as, and no line has a line
feed. -/
theorem IsStart.spec {d : Document} (h : d.IsStart) :
    d.IsRead ∧ ∀ line ∈ d.lines, '\n' ∉ line.toList := by
  cases h with
  | parsed s d parsed =>
    obtain ⟨hread, hlines⟩ := isRead_of_parse parsed
    exact ⟨hread, fun line hline => Text.notMem_of_mem_lines (hlines ▸ hline)⟩
  | empty => exact ⟨stable_empty.isRead, fun line hline => (stable_empty.isLine line hline).1⟩
  | application =>
    exact ⟨stable_application.isRead, fun line hline => (stable_application.isLine line hline).1⟩

/-! ## Reading a stored text again -/

section Stores

variable {d : Document} {key : String} {locale? : Option String}

/-- A read document with a value stored is read again when the line of the value is. -/
theorem IsRead.reread_store {value : String} (h : d.IsRead)
    (hline : (Line.entry (.plain key locale? value)).reread.IsRead) :
    (d.store key locale? value).reread.IsRead := by
  have hmain := h.withMainGroup
  refine ⟨hmain.reread.preamble, fun g hg => ?_, ?_⟩
  · obtain ⟨stored, hstored, rfl⟩ := List.mem_map.1 hg
    obtain ⟨g', hg', hname, hheader, hlines⟩ := mem_groups_store hstored
    have hread := (hmain.groups g' hg').reread
    refine ⟨?_, fun line hmem => ?_⟩
    · show readLine (Text.dropReturn stored.header) = .ok (.header stored.name)
      rw [hname, hheader]
      exact hread.header_eq
    · -- A line of the group was there before, or is the one that stores the value.
      obtain ⟨written, hwritten, rfl⟩ := List.mem_map.1 hmem
      rcases hlines written hwritten with hold | rfl
      · exact ((hmain.groups g' hg').lines written hold).reread
      · exact hline
  · show (((d.store key locale? value).groups.map Group.reread).map Group.name).Nodup
    rw [map_name_reread, map_name_store]
    exact hmain.nodup

variable (hkey : IsPlainKey key) (hlocale : ∀ suffix, locale? = some suffix → IsSuffix suffix)
include hkey hlocale

/-- The line of a value reads as a line of its key, with the value as far as it is not blank at its
start. -/
theorem readLine_plain (value : String) :
    readLine (KeyLine.plain key locale? value).text =
      .ok (.entry { KeyLine.plain key locale? value with value := Text.trimStart value }) := by
  obtain ⟨left, first, htext, hfirst, hchar, hequals, -, hread⟩ :=
    KeyLine.exists_left hkey hlocale value
  rw [readLine_of_key htext hfirst hchar hequals hread]
  cases locale? <;> rfl

/-- The line of a value is read again. -/
theorem isRead_reread_plain (value : String) :
    (Line.entry (.plain key locale? value)).reread.IsRead := by
  have hread := readLine_dropReturn (readLine_plain hkey hlocale value)
  show readLine (Text.dropReturn (KeyLine.plain key locale? value).text) = _
  rw [hread]
  cases locale? <;> rfl

/-- A document to start from with a value of one line stored is read again from its text. -/
theorem parse_text_store (h : d.IsStart) {value : String} (hvalue : '\n' ∉ value.toList) :
    parse (d.store key locale? value).text = .ok (d.store key locale? value).reread := by
  obtain ⟨hread, hfeed⟩ := h.spec
  have hline : '\n' ∉ (KeyLine.plain key locale? value).text.toList := by
    obtain ⟨left, first, htext, -, -, -, hleft, -⟩ := KeyLine.exists_left hkey hlocale value
    rw [htext]
    simp [hleft, hvalue]
  have hlines := forall_lines_store (P := fun line => '\n' ∉ line.toList) hfeed
    mainHeader_spec.2.1 emptyLine_spec.2.1 hline
  exact parse_text_reread (hread.reread_store (isRead_reread_plain hkey hlocale value)) hlines

/-- A document to start from with a text stored is read again from its text, and has the stored text
without blanks at its start. -/
theorem parse_store (h : d.IsStart) (value : String) :
    ∃ d', parse (d.store key locale? (escape value)).text = .ok d' ∧
      d'.rawValue? key locale? = some (Text.trimStart (escape value)) := by
  have hends : ∀ c ∈ (escape value).toList, c ≠ '\n' ∧ c ≠ '\r' := fun c hc => by
    simpa [isLineEnd] using isLineEnd_of_mem_escape hc
  refine ⟨_, parse_text_store hkey hlocale h fun hmem => (hends _ hmem).1 rfl, ?_⟩
  -- An escaped text has no carriage return to lose.
  have hmem : ∀ c ∈ (Text.trimStart (escape value)).toList, c ∈ (escape value).toList := by
    unfold Text.trimStart Chars.trimStart
    rw [String.toList_ofList]
    exact fun c hc => (List.dropWhile_sublist _).mem hc
  have hisLine : Text.IsLine (Text.trimStart (escape value)) :=
    ⟨fun hfeed => (hends _ (hmem _ hfeed)).1 rfl,
      fun hlast => (hends _ (hmem _ (List.mem_of_getLast? hlast))).2 rfl⟩
  rw [rawValue?_reread, rawValue?_store, if_pos ⟨rfl, rfl⟩, Option.map_some,
    Text.dropReturn_of_isLine hisLine]

end Stores

/-- A value that a key has does not end in a carriage return. -/
def EndsPlainly (d : Document) (key : String) : Prop :=
  ∀ raw, d.rawValue? key none = some raw → raw.toList.getLast? ≠ some '\r'

/-- A value that does not end in a carriage return is read again as it was when another key gets a
value. -/
theorem IsRead.rawValue?_reread_store {d : Document} (h : d.IsRead) {key key' : String}
    (hne : key' ≠ key) (hplain : d.EndsPlainly key') (locale? : Option String) (value : String) :
    (d.store key locale? value).reread.rawValue? key' none = d.rawValue? key' none := by
  rw [rawValue?_reread, rawValue?_store, if_neg fun hslot => hne hslot.1]
  rcases hraw : d.rawValue? key' none with _ | raw
  · rfl
  · unfold Text.dropReturn
    rw [Option.map_some, h.trimStart_rawValue? hraw, Chars.dropReturn_of_ne (hplain raw hraw),
      String.ofList_toList]

/-! ## Suffixes that no reader finds -/

/-- A key is read with a suffix that is not empty, whose characters are characters of the key and no
brackets. -/
theorem of_readKey_some {cs : List Char} {key suffix : String}
    (h : readKey cs = some (key, some suffix)) :
    suffix.toList ≠ [] ∧ ∀ c ∈ suffix.toList, c ∈ cs ∧ c ≠ '[' ∧ c ≠ ']' := by
  unfold readKey at h
  split at h
  · next before rest hsplit =>
    obtain ⟨rfl, -⟩ := Chars.eq_append_of_splitFirst hsplit
    dsimp only at h
    split at h
    · cases h
    · next hvalid =>
      cases h
      rw [String.toList_ofList]
      simp only [not_or, Bool.not_eq_true, List.any_eq_false, List.isEmpty_eq_false_iff,
        isBracket] at hvalid
      obtain ⟨-, hne, hbrackets, -⟩ := hvalid
      refine ⟨hne, fun c hc => ⟨?_, by simpa using hbrackets c hc⟩⟩
      exact List.mem_append_right _ (List.mem_cons_of_mem _ ((List.dropLast_sublist rest).mem hc))
  · split at h <;> cases h

/-- A line that is read gives its key a value under a suffix that can stand in brackets. -/
theorem isSuffix_of_readLine {line : String} {keyLine : KeyLine} {suffix : String}
    (h : readLine line = .ok (.entry keyLine)) (hfeed : '\n' ∉ line.toList)
    (hsuffix : keyLine.locale? = some suffix) : IsSuffix suffix := by
  obtain ⟨left, right, hline, hequals, hkey, -, -⟩ := exists_split_of_readLine h
  rw [hsuffix] at hkey
  obtain ⟨hne, hchars⟩ := of_readKey_some hkey
  refine ⟨hne, fun c hc => ?_⟩
  obtain ⟨hmem, hopen, hclose⟩ := hchars c hc
  -- The suffix is a part of what stands before the first equals sign of the line.
  have hleft : c ∈ left := Chars.mem_of_mem_trim hmem
  refine ⟨hopen, hclose, fun heq => hequals (heq ▸ hleft), fun heq => hfeed ?_⟩
  rw [hline]
  exact List.mem_append_left _ (heq ▸ hleft)

/-- The suffixes of a document that was read can stand in brackets. -/
theorem isSuffix_of_parse {s : String} {d : Document} (h : parse s = .ok d)
    {key suffix raw : String} (hvalue : d.rawValue? key (some suffix) = some raw) :
    IsSuffix suffix := by
  obtain ⟨hread, hlines⟩ := isRead_of_parse h
  obtain ⟨g, hg, line, hline, -, hlocale, -⟩ := exists_entry_of_rawValue? hvalue
  refine isSuffix_of_readLine ((hread.groups g hg).lines _ hline) ?_ hlocale
  refine Text.notMem_of_mem_lines (s := s) (hlines ▸ ?_)
  refine List.mem_append_right _ (List.mem_flatMap.2 ⟨g, hg, ?_⟩)
  exact List.mem_cons_of_mem _ (List.mem_map.2 ⟨_, hline, rfl⟩)

/-! ## Stored texts come back -/

/-- What is stored in a document to start from is read again from its text, and the text of the key
is the stored one exactly when it can be stored. The same holds of a localized text when the suffix
of the locale can stand in brackets, and no reader finds a text under any other suffix. -/
theorem stored_texts_survive {d : Document} {key : String} (h : d.IsStart) (hkey : IsPlainKey key)
    (value : String) :
    (∃ d', parse (d.setText key value).text = .ok d' ∧
      (d'.text? key = some value ↔ Text.IsStorable value)) ∧
    ∀ name l, Locale.parse name = some l →
      (IsSuffix l.suffix → ∃ d', parse (d.setLocalText key (some l) value).text = .ok d' ∧
        (d'.localText? key (some l) = some value ↔ Text.IsStorable value)) ∧
      (¬IsSuffix l.suffix → ∀ d', parse (d.setLocalText key (some l) value).text = .ok d' →
        d'.rawValue? key (some l.suffix) = none) := by
  refine ⟨?_, fun name l _ => ⟨fun hsuffix => ?_, fun hsuffix d' hd' => ?_⟩⟩
  · have hlocale : ∀ suffix, (none : Option String) = some suffix → IsSuffix suffix := nofun
    obtain ⟨d', hd', hraw⟩ := parse_store hkey hlocale h value
    refine ⟨d', hd', ?_⟩
    unfold text?
    rw [hraw, Option.map_some, Option.some.injEq, unescape_trimStart_escape_iff]
  · have hlocale : ∀ suffix, some l.suffix = some suffix → IsSuffix suffix :=
      fun suffix heq => Option.some.inj heq ▸ hsuffix
    obtain ⟨d', hd', hraw⟩ := parse_store hkey hlocale h value
    refine ⟨d', hd', ?_⟩
    rw [localText?_of_rawValue? hraw, Option.some.injEq, unescape_trimStart_escape_iff]
  · -- A suffix under which something was read can stand in brackets.
    refine Option.eq_none_iff_forall_ne_some.2 fun raw hraw => hsuffix ?_
    exact isSuffix_of_parse hd' hraw

/-- A suffix can stand in brackets when it has characters and none of them separates anything. -/
theorem isSuffix_of_all {suffix : String} (hempty : suffix.toList.isEmpty = false)
    (hall : suffix.toList.all (fun c => c != '[' && c != ']' && c != '=' && c != '\n') = true) :
    IsSuffix suffix := by
  refine ⟨by simpa using hempty, fun c hc => ?_⟩
  have hchar := List.all_eq_true.1 hall c hc
  simpa [and_assoc] using hchar

/-- A text with white space, backslashes and line ends, stored in a new launcher for a locale, is
read again as it was. -/
theorem survives_spacedText :
    ∃ d' l, Locale.parse "de_DE.UTF-8@euro" = some l ∧
      parse (application.setLocalText "Name" (some l) " \t\\ [a] = b;\r\n\u00a0").text = .ok d' ∧
      d'.localText? "Name" (some l) = some " \t\\ [a] = b;\r\n\u00a0" := by
  have hlocale : Locale.parse "de_DE.UTF-8@euro" =
      some ⟨"de", some "DE", some "UTF-8", some "euro"⟩ := by rfl
  have hsuffix : IsSuffix (Locale.suffix ⟨"de", some "DE", some "UTF-8", some "euro"⟩) :=
    isSuffix_of_all rfl rfl
  have hkey : IsPlainKey "Name" := isPlainKey_of_all rfl rfl
  obtain ⟨d', hd', hvalue⟩ := ((stored_texts_survive .application hkey
    " \t\\ [a] = b;\r\n\u00a0").2 _ _ hlocale).1 hsuffix
  refine ⟨d', _, hlocale, hd', hvalue.2 fun c hc _ => ?_⟩
  obtain rfl : c = ' ' := by simpa using hc.symm
  rfl

/-- A no-break space at the start of a text is lost, and the text of a document with a text for a
locale whose name has a bracket, an equals sign or a line feed is not read at all. -/
theorem lost_storedTexts :
    (∃ d', parse (application.setText "Name" "\u00a0a").text = .ok d' ∧
      d'.text? "Name" = some "a") ∧
    ∀ name ∈ ["de[", "de]", "de=", "de\nat"], ∃ l, Locale.parse name = some l ∧
      ∃ fault, parse (application.setLocalText "Name" (some l) "a").text = .error (3, fault) := by
  refine ⟨⟨_, by rfl, by rfl⟩, fun name hname => ?_⟩
  simp only [List.mem_cons, List.not_mem_nil, or_false] at hname
  rcases hname with rfl | rfl | rfl | rfl
  · exact ⟨_, by rfl, .invalidKey, by rfl⟩
  · exact ⟨_, by rfl, .invalidKey, by rfl⟩
  · exact ⟨_, by rfl, .invalidKey, by rfl⟩
  · exact ⟨_, by rfl, .noKind, by rfl⟩

end Autostart.Document
