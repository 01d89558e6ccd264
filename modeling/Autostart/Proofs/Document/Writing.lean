import Autostart.Document.Fields
import Autostart.Proofs.Document.Escaping
import Autostart.Proofs.Document.Rereading

/-!
# Lines that stores write

The line that a store writes reads as what was stored, so a read document stays one when values are
stored in it.
-/

namespace Autostart

namespace Document

/-- A character of the keys that this library knows. -/
def isKeyChar (c : Char) : Bool :=
  c.isAlphanum || c = '-'

/-- A key of letters, digits and hyphens. -/
def IsPlainKey (key : String) : Prop :=
  key.toList ≠ [] ∧ ∀ c ∈ key.toList, isKeyChar c = true

/-- A locale suffix that can stand between the brackets after a key. -/
def IsSuffix (suffix : String) : Prop :=
  suffix.toList ≠ [] ∧ ∀ c ∈ suffix.toList, c ≠ '[' ∧ c ≠ ']' ∧ c ≠ '=' ∧ c ≠ '\n'

/-- A value that can stand after the equals sign. -/
def IsValue (value : String) : Prop :=
  Text.trimStart value = value ∧ ∀ c ∈ value.toList, isLineEnd c = false

/-- A key is plain when it has characters and all of them are those of keys. -/
theorem isPlainKey_of_all {key : String} (hempty : key.toList.isEmpty = false)
    (hall : key.toList.all isKeyChar = true) : IsPlainKey key := by
  refine ⟨fun hnil => ?_, List.all_eq_true.1 hall⟩
  rw [hnil] at hempty
  cases hempty

/-- The characters of a key are hyphens, digits and letters. -/
theorem toNat_of_isKeyChar {c : Char} (h : isKeyChar c = true) :
    c.toNat = 45 ∨ (48 ≤ c.toNat ∧ c.toNat ≤ 57) ∨ (65 ≤ c.toNat ∧ c.toNat ≤ 90) ∨
      (97 ≤ c.toNat ∧ c.toNat ≤ 122) := by
  have hcode : ((decide (c.val ≥ 65 ∧ c.val ≤ 90) ||
      decide (c.val ≥ 97) && decide (c.val ≤ 122)) ||
        decide (c.val ≥ 48) && decide (c.val ≤ 57) || decide (c = '-')) = true := h
  simp only [Bool.or_eq_true, Bool.and_eq_true, decide_eq_true_eq, ge_iff_le,
    UInt32.le_iff_toNat_le] at hcode
  rcases hcode with ((hupper | hlower) | hdigit) | rfl
  · exact .inr (.inr (.inl hupper))
  · exact .inr (.inr (.inr hlower))
  · exact .inr (.inl hdigit)
  · exact .inl rfl

/-- The characters of a key are neither blank nor any of those with a meaning of their own. -/
theorem of_isKeyChar {c : Char} (h : isKeyChar c = true) :
    Chars.isBlank c = false ∧ c ≠ '[' ∧ c ≠ ']' ∧ c ≠ '=' ∧ c ≠ '#' ∧ c ≠ '\n' := by
  have hrange := toNat_of_isKeyChar h
  have hne : ∀ x : Char, c = x → c.toNat = x.toNat := fun x hx => congrArg Char.toNat hx
  refine ⟨?_, fun heq => ?_, fun heq => ?_, fun heq => ?_, fun heq => ?_, fun heq => ?_⟩
  · simp only [Chars.isBlank, Bool.or_eq_false_iff, Bool.and_eq_false_iff,
      decide_eq_false_iff_not, beq_eq_false_iff_ne]
    omega
  · have hcode : c.toNat = 91 := hne _ heq
    omega
  · have hcode : c.toNat = 93 := hne _ heq
    omega
  · have hcode : c.toNat = 61 := hne _ heq
    omega
  · have hcode : c.toNat = 35 := hne _ heq
    omega
  · have hcode : c.toNat = 10 := hne _ heq
    omega

/-! ## Keys -/

/-- A plain key has a first and a last character, and both are characters of keys. -/
theorem IsPlainKey.ends {key : String} (h : IsPlainKey key) :
    ∃ first last, key.toList.head? = some first ∧ key.toList.getLast? = some last ∧
      isKeyChar first = true ∧ isKeyChar last = true := by
  obtain ⟨hne, hchars⟩ := h
  refine ⟨key.toList.head hne, key.toList.getLast hne, List.head?_eq_some_head hne,
    List.getLast?_eq_some_getLast hne, hchars _ (List.head_mem hne),
    hchars _ (List.getLast_mem hne)⟩

/-- Trimming keeps a plain key. -/
theorem IsPlainKey.trim_eq {key : String} (h : IsPlainKey key) :
    Chars.trim key.toList = key.toList := by
  obtain ⟨first, last, hfirst, hlast, hfirst', hlast'⟩ := h.ends
  exact Chars.trim_eq_self hfirst hlast (of_isKeyChar hfirst').1 (of_isKeyChar hlast').1

/-- A plain key reads as itself. -/
theorem readKey_plain {key : String} (h : IsPlainKey key) :
    readKey (Chars.trim key.toList) = some (key, none) := by
  have hopen : '[' ∉ key.toList := fun hmem => (of_isKeyChar (h.2 _ hmem)).2.1 rfl
  have hclose : ']' ∉ key.toList := fun hmem => (of_isKeyChar (h.2 _ hmem)).2.2.1 rfl
  rw [h.trim_eq]
  unfold readKey
  rw [Chars.splitFirst_eq_none_iff.2 hopen]
  simp [hclose, h.1]

/-- The text of a plain key with a locale suffix. -/
def keyWithSuffix (key suffix : String) : List Char :=
  key.toList ++ '[' :: (suffix.toList ++ [']'])

/-- A plain key with a locale suffix reads as both. -/
theorem readKey_suffix {key suffix : String} (h : IsPlainKey key) (hsuffix : IsSuffix suffix) :
    readKey (Chars.trim (keyWithSuffix key suffix)) = some (key, some suffix) := by
  obtain ⟨first, last, hfirst, hlast, hfirst', hlast'⟩ := h.ends
  have hopen : '[' ∉ key.toList := fun hmem => (of_isKeyChar (h.2 _ hmem)).2.1 rfl
  have htrim : Chars.trim (keyWithSuffix key suffix) = keyWithSuffix key suffix := by
    have hhead : (keyWithSuffix key suffix).head? = some first := by
      simp [keyWithSuffix, List.head?_append, hfirst]
    have hend : (keyWithSuffix key suffix).getLast? = some ']' := by
      simp [keyWithSuffix, List.getLast?_append, List.getLast?_cons]
    exact Chars.trim_eq_self hhead hend (of_isKeyChar hfirst').1 (by decide)
  -- The key in front of the bracket is trimmed at its end only, where it has nothing to trim.
  have hend : Chars.trimEnd key.toList = key.toList := by
    have hkey := h.trim_eq
    unfold Chars.trim at hkey
    rcases hcs : key.toList with _ | ⟨c, rest⟩
    · rfl
    · obtain rfl : c = first := by simpa [hcs] using hfirst
      rw [hcs, Chars.trimStart_cons (of_isKeyChar hfirst').1] at hkey
      exact hkey
  have hbrackets : (suffix.toList.any isBracket) = false := by
    rw [List.any_eq_false]
    intro c hc
    obtain ⟨h1, h2, -⟩ := hsuffix.2 c hc
    simp [isBracket, h1, h2]
  rw [htrim]
  unfold readKey keyWithSuffix
  rw [Chars.splitFirst_append hopen]
  simp only [hend, List.dropLast_concat, List.getLast?_concat, hbrackets]
  simp [hsuffix.1, h.1]

/-! ## Lines -/

/-- A line that starts with a key reads as the key and the value after the equals sign. -/
theorem readLine_of_key {line : String} {left right : List Char} {first : Char} {key : String}
    {locale? : Option String} (hline : line.toList = left ++ '=' :: right)
    (hfirst : left.head? = some first) (hchar : isKeyChar first = true) (hequals : '=' ∉ left)
    (hkey : readKey (Chars.trim left) = some (key, locale?)) :
    readLine line =
      .ok (.entry ⟨key, locale?, String.ofList (Chars.trimStart right), line⟩) := by
  obtain ⟨hblank, hopen, -, -, hcomment, -⟩ := of_isKeyChar hchar
  have htrim : ∃ rest, Chars.trim line.toList = first :: rest := by
    rcases left with _ | ⟨c, rest⟩
    · cases hfirst
    · obtain rfl : c = first := by simpa using hfirst
      rw [hline, List.cons_append]
      exact List.head?_eq_some_iff.1 (Chars.head?_trim hblank)
  obtain ⟨rest, hrest⟩ := htrim
  unfold readLine
  rw [hrest]
  split
  · next heq => cases heq
  · next heq => exact absurd (List.cons.inj heq).1 hcomment
  · next heq => exact absurd (List.cons.inj heq).1 hopen
  · -- The line is none of the other kinds, and its first equals sign ends the key.
    rw [hline, Chars.splitFirst_append hequals]
    dsimp only
    rw [hkey]

/-- A line that can be written: a plain key, a locale suffix that fits, and a value that fits. -/
structure KeyLine.IsWritable (key : String) (locale? : Option String) (value : String) : Prop where
  /-- The key has letters, digits and hyphens only. -/
  key : IsPlainKey key
  /-- The suffix can stand in brackets. -/
  locale : ∀ suffix, locale? = some suffix → IsSuffix suffix
  /-- The value can stand after the equals sign. -/
  value : IsValue value

/-- A written line is a key, perhaps with a suffix, an equals sign and the value. -/
theorem KeyLine.exists_left {key : String} {locale? : Option String} (hkey : IsPlainKey key)
    (hlocale : ∀ suffix, locale? = some suffix → IsSuffix suffix) (value : String) :
    ∃ left first, (plain key locale? value).text.toList = left ++ '=' :: value.toList ∧
      left.head? = some first ∧ isKeyChar first = true ∧ '=' ∉ left ∧ '\n' ∉ left ∧
      readKey (Chars.trim left) = some (key, locale?) := by
  obtain ⟨first, -, hfirst, -, hfirst', -⟩ := hkey.ends
  have hequals : '=' ∉ key.toList := fun hmem => (of_isKeyChar (hkey.2 _ hmem)).2.2.2.1 rfl
  have hfeed : '\n' ∉ key.toList := fun hmem => (of_isKeyChar (hkey.2 _ hmem)).2.2.2.2.2 rfl
  cases locale? with
  | none =>
    refine ⟨key.toList, first, ?_, hfirst, hfirst', hequals, hfeed, readKey_plain hkey⟩
    simp [plain]
  | some suffix =>
    have hsuffix := hlocale suffix rfl
    -- What separates keys, values and lines can stand in the suffix no more than in the key.
    have hequals' : '=' ∉ suffix.toList := fun hmem => (hsuffix.2 _ hmem).2.2.1 rfl
    have hfeed' : '\n' ∉ suffix.toList := fun hmem => (hsuffix.2 _ hmem).2.2.2 rfl
    refine ⟨keyWithSuffix key suffix, first, ?_, ?_, hfirst', ?_, ?_,
      readKey_suffix hkey hsuffix⟩
    · simp [plain, keyWithSuffix]
    · simp [keyWithSuffix, List.head?_append, hfirst]
    · simp [keyWithSuffix, hequals, hequals']
    · simp [keyWithSuffix, hfeed, hfeed']

namespace KeyLine.IsWritable

variable {key value : String} {locale? : Option String}

/-- A line without a locale suffix needs only a key and a value that fit. -/
theorem of_none (hkey : IsPlainKey key) (hvalue : IsValue value) : IsWritable key none value := by
  refine ⟨hkey, fun suffix hsuffix => ?_, hvalue⟩
  cases hsuffix

/-- A written line reads as what it was written for. -/
theorem isRead (h : IsWritable key locale? value) :
    (Line.entry (plain key locale? value)).IsRead := by
  obtain ⟨left, first, htext, hfirst, hchar, hequals, -, hkey⟩ := exists_left h.key h.locale value
  show readLine (plain key locale? value).text = _
  rw [readLine_of_key htext hfirst hchar hequals hkey]
  have hvalue : String.ofList (Chars.trimStart value.toList) = value := h.value.1
  rw [hvalue]
  cases locale? <;> rfl

/-- A written line can be told apart from others. -/
theorem isLine (h : IsWritable key locale? value) :
    Text.IsLine (plain key locale? value).text := by
  obtain ⟨left, first, htext, -, -, -, hfeed, -⟩ := exists_left h.key h.locale value
  unfold Text.IsLine
  rw [htext]
  constructor
  · have hvalue : '\n' ∉ value.toList := by
      intro hmem
      cases h.value.2 _ hmem
    simp [hfeed, hvalue]
  · -- The line ends with the value, or with the equals sign when the value is empty.
    intro hlast
    rw [List.getLast?_append, List.getLast?_cons] at hlast
    rcases hv : value.toList.getLast? with _ | c
    · rw [hv] at hlast
      cases hlast
    · rw [hv] at hlast
      have hc := h.value.2 c (List.mem_of_getLast? hv)
      obtain rfl : c = '\r' := by simpa using hlast
      cases hc

end KeyLine.IsWritable

/-! ## Stores -/

/-- The header of a new main group reads as such, and can be told apart. -/
theorem mainHeader_spec : readLine ("[" ++ mainGroup ++ "]") = .ok (.header mainGroup) ∧
    Text.IsLine ("[" ++ mainGroup ++ "]") := by
  refine ⟨by rfl, ?_, ?_⟩ <;> decide

/-- An empty line is blank, and can be told apart. -/
theorem emptyLine_spec : readLine "" = .ok .verbatim ∧ Text.IsLine "" := by
  refine ⟨by rfl, ?_, ?_⟩ <;> decide

/-- A read document is one with a main group too. -/
theorem IsRead.withMainGroup {d : Document} (h : d.IsRead) : d.withMainGroup.IsRead := by
  unfold Document.withMainGroup
  split
  · exact h
  · next hnone =>
    refine ⟨h.preamble, fun g hg => ?_, ?_⟩
    · rcases List.mem_cons.1 hg with rfl | hg
      · refine ⟨mainHeader_spec.1, fun line hline => ?_⟩
        dsimp only at hline
        split at hline
        · cases hline
        · obtain rfl := List.mem_singleton.1 hline
          exact emptyLine_spec.1
      · exact h.groups g hg
    · have hnew : mainGroup ∉ d.groups.map Group.name := by
        simpa [hasGroup, group?] using hnone
      exact List.nodup_cons.2 ⟨hnew, h.nodup⟩

section Stores

variable {d : Document} {key : String} {locale? : Option String} {value : String}

/-- A group of a document with a value stored has the name and the header that it had, and of its
lines only the plain one of the value is new. -/
theorem mem_groups_store {g : Group} (h : g ∈ (d.store key locale? value).groups) :
    ∃ g' ∈ d.withMainGroup.groups, g.name = g'.name ∧ g.header = g'.header ∧
      ∀ line ∈ g.lines, line ∈ g'.lines ∨ line = .entry (.plain key locale? value) := by
  rcases mem_of_mem_changeGroup h with hg | ⟨g', hg', rfl⟩
  · exact ⟨g, hg, rfl, rfl, fun _ => .inl⟩
  · exact ⟨g', hg', rfl, rfl, fun _ => mem_of_mem_storeIn⟩

/-- The groups of a document with a value stored have the names that they had. -/
theorem map_name_store :
    (d.store key locale? value).groups.map Group.name = d.withMainGroup.groups.map Group.name :=
  map_name_changeGroup mainGroup (fun g => { g with lines := storeIn key locale? value g.lines })
    (fun _ => rfl) d.withMainGroup.groups

/-- A read document stays one when a value that can be written is stored. -/
theorem IsRead.store (h : d.IsRead) (hline : KeyLine.IsWritable key locale? value) :
    (d.store key locale? value).IsRead := by
  have hmain := h.withMainGroup
  refine ⟨hmain.preamble, fun g hg => ?_, ?_⟩
  · obtain ⟨g', hg', hname, hheader, hlines⟩ := mem_groups_store hg
    refine ⟨?_, fun line hmem => ?_⟩
    · rw [hname, hheader]
      exact (hmain.groups g' hg').header_eq
    · rcases hlines line hmem with hmem | rfl
      · exact (hmain.groups g' hg').lines line hmem
      · exact hline.isRead
  · rw [map_name_store]
    exact hmain.nodup

variable {P : String → Prop}

/-- What holds of the lines of a document, of the header of a main group and of an empty line holds
of the lines when it has a main group. -/
theorem forall_lines_withMainGroup (h : ∀ line ∈ d.lines, P line)
    (hheader : P ("[" ++ mainGroup ++ "]")) (hempty : P "") :
    ∀ line ∈ d.withMainGroup.lines, P line := by
  unfold Document.withMainGroup
  split
  · exact h
  · intro line hmem
    unfold lines at hmem h
    rcases List.mem_append.1 hmem with hmem | hmem
    · exact h line (List.mem_append_left _ hmem)
    · rw [List.flatMap_cons] at hmem
      rcases List.mem_append.1 hmem with hmem | hmem
      · -- The new group has its header, and an empty line when others follow.
        unfold Group.allLines at hmem
        rcases List.mem_cons.1 hmem with rfl | hmem
        · exact hheader
        · dsimp only at hmem
          split at hmem
          · cases hmem
          · obtain rfl := List.mem_singleton.1 hmem
            exact hempty
      · exact h line (List.mem_append_right _ hmem)

/-- What holds besides of the plain line of a value holds of the lines when the value is stored. -/
theorem forall_lines_store (h : ∀ line ∈ d.lines, P line)
    (hheader : P ("[" ++ mainGroup ++ "]")) (hempty : P "")
    (hline : P (KeyLine.plain key locale? value).text) :
    ∀ line ∈ (d.store key locale? value).lines, P line := by
  have hmain := forall_lines_withMainGroup h hheader hempty
  intro line hmem
  unfold lines at hmem hmain
  rcases List.mem_append.1 hmem with hmem | hmem
  · exact hmain line (List.mem_append_left _ hmem)
  · obtain ⟨g, hg, hmem⟩ := List.mem_flatMap.1 hmem
    obtain ⟨g', hg', -, hsame, hlines⟩ := mem_groups_store hg
    have hgroup : ∀ l ∈ g'.allLines, P l := fun l hl =>
      hmain l (List.mem_append_right _ (List.mem_flatMap.2 ⟨g', hg', hl⟩))
    -- The header is that from before, and of the other lines only the stored one is new.
    rcases List.mem_cons.1 hmem with rfl | hmem
    · rw [hsame]
      exact hgroup _ List.mem_cons_self
    · obtain ⟨l, hl, rfl⟩ := List.mem_map.1 hmem
      rcases hlines l hl with hl | rfl
      · exact hgroup _ (List.mem_cons_of_mem _ (List.mem_map.2 ⟨l, hl, rfl⟩))
      · exact hline

/-- The lines of a document with a value stored can be told apart when those from before can and
the value can be written. -/
theorem isLine_store (h : ∀ line ∈ d.lines, Text.IsLine line)
    (hline : KeyLine.IsWritable key locale? value) :
    ∀ line ∈ (d.store key locale? value).lines, Text.IsLine line :=
  forall_lines_store h mainHeader_spec.2 emptyLine_spec.2 hline.isLine

end Stores

end Document

end Autostart
