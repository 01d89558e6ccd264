import Autostart.Proofs.Document.Writing

/-!
# The grammar of documents

A text holds a document when each of its lines fits after those before it: a remark fits anywhere, a
header when its name is new, and a line with a key when there is a header above. A key may have one
locale in brackets behind it. The reader is laxer than this grammar in one place: it lets a closing
bracket stand in a key that has a locale, which it does not in a key without one. A text that holds
no document is refused at its first line that does not fit, whatever comes after this line.
-/

namespace Autostart

namespace Document

/-! ## The grammar -/

/-- A name has characters, and none of them is a bracket. -/
def IsName (cs : List Char) : Prop :=
  cs ≠ [] ∧ '[' ∉ cs ∧ ']' ∉ cs

/-- A text names a key, perhaps with one locale in brackets behind it. -/
inductive NamesKey : List Char → Prop where
  /-- A key alone. -/
  | plain {key : List Char} (isName : IsName key) : NamesKey key
  /-- A key with a locale. -/
  | localized {key locale : List Char} (isName : IsName key) (isLocale : IsName locale) :
    NamesKey (key ++ '[' :: (locale ++ [']']))

/-- A text names a key with a locale, but for a closing bracket in the key. -/
inductive NamesStrayKey : List Char → Prop where
  /-- A key with a closing bracket, and a locale. -/
  | localized {key locale : List Char} (opening : '[' ∉ key) (closing : ']' ∈ key)
    (isLocale : IsName locale) : NamesStrayKey (key ++ '[' :: (locale ++ [']']))

/-- A text names a key for the reader, who does not look for closing brackets in a key that has a
locale. -/
def NamesLaxKey (cs : List Char) : Prop :=
  NamesKey cs ∨ NamesStrayKey cs

/-- A line is blank or a comment. -/
def IsRemark (line : String) : Prop :=
  Text.isBlank line = true ∨ ∃ comment, Chars.trim line.toList = '#' :: comment

/-- A line is the header of the group of a name. -/
def IsHeader (name line : String) : Prop :=
  IsName name.toList ∧ Chars.trim line.toList = '[' :: (name.toList ++ [']'])

/-- A line has an equals sign, and what is on its left is of a kind once it is trimmed. -/
def HasLeft (kind : List Char → Prop) (line : String) : Prop :=
  ∃ left right, line.toList = left ++ '=' :: right ∧ '=' ∉ left ∧ kind (Chars.trim left)

/-- A header is among some lines. -/
def HasHeader (earlier : List String) : Prop :=
  ∃ name, ∃ line ∈ earlier, IsHeader name line

/-- A line fits after earlier ones, given what names a key. -/
inductive FitsAfter (kind : List Char → Prop) (earlier : List String) (line : String) : Prop where
  /-- Blank lines and comments fit anywhere. -/
  | remark (isRemark : IsRemark line)
  /-- A header fits when its name is new. -/
  | header (name : String) (isHeader : IsHeader name line)
    (isNew : ∀ other ∈ earlier, ¬IsHeader name other)
  /-- A line with a key fits after a header. -/
  | key (hasKey : HasLeft kind line) (hasHeader : HasHeader earlier)

/-- Each of some lines fits after those before it, given what names a key. -/
def FollowGrammar (kind : List Char → Prop) (ls : List String) : Prop :=
  ∀ before line after, ls = before ++ line :: after → FitsAfter kind before line

/-! ## Keys -/

/-- No character is a bracket exactly when neither of the two brackets is there. -/
theorem any_isBracket_eq_false {cs : List Char} :
    cs.any isBracket = false ↔ '[' ∉ cs ∧ ']' ∉ cs := by
  simp only [List.any_eq_false, isBracket, Bool.or_eq_true, decide_eq_true_eq, not_or]
  constructor
  · intro h
    exact ⟨fun hmem => (h _ hmem).1 rfl, fun hmem => (h _ hmem).2 rfl⟩
  · rintro ⟨hopen, hclose⟩ c hc
    exact ⟨fun heq => hopen (heq ▸ hc), fun heq => hclose (heq ▸ hc)⟩

/-- A name stands before a closing bracket exactly when the checks of the reader pass. -/
theorem isName_dropLast_iff {rest : List Char} :
    (rest.getLast? = some ']' ∧ rest.dropLast ≠ [] ∧ rest.dropLast.any isBracket = false) ↔
      ∃ name, IsName name ∧ rest = name ++ [']'] := by
  rw [any_isBracket_eq_false]
  constructor
  · rintro ⟨hlast, hname⟩
    obtain ⟨name, rfl⟩ := List.getLast?_eq_some_iff.1 hlast
    rw [List.dropLast_concat] at hname
    exact ⟨name, hname, rfl⟩
  · rintro ⟨name, hname, rfl⟩
    rw [List.dropLast_concat]
    exact ⟨List.getLast?_concat, hname⟩

/-- A text without an opening bracket is read as a key when it is a name. -/
theorem exists_readKey_of_notMem {cs : List Char} (hopen : '[' ∉ cs) :
    (∃ named, readKey cs = some named) ↔ IsName cs := by
  unfold readKey
  rw [Chars.splitFirst_eq_none_iff.2 hopen]
  dsimp only
  constructor
  · rintro ⟨named, hnamed⟩
    split at hnamed
    · cases hnamed
    · next hchecks =>
      have hname : ']' ∉ cs ∧ cs ≠ [] := by simpa using hchecks
      exact ⟨hname.2, hopen, hname.1⟩
  · rintro ⟨hne, -, hclose⟩
    exact ⟨_, if_neg (by simp [hne, hclose])⟩

/-- A text with an opening bracket is read as a key when there is a key before the bracket, and a
locale with a closing bracket behind it. -/
theorem exists_readKey_append {key : List Char} (hopen : '[' ∉ key) (rest : List Char) :
    (∃ named, readKey (key ++ '[' :: rest) = some named) ↔
      Chars.trimEnd key ≠ [] ∧ ∃ locale, IsName locale ∧ rest = locale ++ [']'] := by
  rw [← isName_dropLast_iff]
  unfold readKey
  rw [Chars.splitFirst_append hopen]
  dsimp only
  constructor
  · rintro ⟨named, hnamed⟩
    split at hnamed
    · cases hnamed
    · next hchecks =>
      simp only [not_or, Decidable.not_not, List.isEmpty_iff, Bool.not_eq_true] at hchecks
      obtain ⟨hlast, hne, hbrackets, hkey⟩ := hchecks
      exact ⟨hkey, hlast, hne, hbrackets⟩
  · rintro ⟨hkey, hlast, hne, hbrackets⟩
    exact ⟨_, if_neg (by simp [hkey, hlast, hne, hbrackets])⟩

/-- A trimmed text is read as a key when it names one, or one with a closing bracket in it. -/
theorem exists_readKey_iff {cs : List Char}
    (htrimmed : ∀ c, cs.head? = some c → Chars.isBlank c = false) :
    (∃ named, readKey cs = some named) ↔ NamesLaxKey cs := by
  constructor
  · intro hread
    by_cases hmem : '[' ∈ cs
    · obtain ⟨key, rest, rfl, hopen⟩ := List.eq_append_cons_of_mem hmem
      obtain ⟨hkey, locale, hlocale, rfl⟩ := (exists_readKey_append hopen rest).1 hread
      by_cases hclose : ']' ∈ key
      · exact .inr (.localized hopen hclose hlocale)
      · have hne : key ≠ [] := fun hnil => hkey (by rw [hnil]; rfl)
        exact .inl (.localized ⟨hne, hopen, hclose⟩ hlocale)
    · exact .inl (.plain ((exists_readKey_of_notMem hmem).1 hread))
  · -- A key in front of a bracket starts with the first character of the text.
    have hlocalized : ∀ key locale, '[' ∉ key → key ≠ [] → IsName locale →
        cs = key ++ '[' :: (locale ++ [']']) → ∃ named, readKey cs = some named := by
      rintro (_ | ⟨c, rest⟩) locale hopen hne hlocale rfl
      · exact absurd rfl hne
      · have hkey := Chars.trimEnd_ne_nil (htrimmed c rfl) rest
        exact (exists_readKey_append hopen _).2 ⟨hkey, locale, hlocale, rfl⟩
    rintro (hkey | hkey)
    · cases hkey with
      | plain hname => exact (exists_readKey_of_notMem hname.2.1).2 hname
      | localized hname hlocale => exact hlocalized _ _ hname.2.1 hname.1 hlocale rfl
    · cases hkey with
      | localized hopen hclose hlocale =>
        exact hlocalized _ _ hopen (List.ne_nil_of_mem hclose) hlocale rfl

/-! ## Lines -/

/-- A key starts with a character that is no opening bracket. -/
theorem NamesLaxKey.exists_cons {cs : List Char} (h : NamesLaxKey cs) :
    ∃ c rest, cs = c :: rest ∧ c ≠ '[' := by
  have hcons : ∀ key more : List Char, key ≠ [] → '[' ∉ key →
      ∃ c rest, key ++ more = c :: rest ∧ c ≠ '[' := by
    rintro (_ | ⟨c, rest⟩) more hne hopen
    · exact absurd rfl hne
    · exact ⟨c, rest ++ more, rfl, Ne.symm (List.ne_of_not_mem_cons hopen)⟩
  rcases h with (⟨hne, hopen, -⟩ | ⟨⟨hne, hopen, -⟩, -⟩) | ⟨hopen, hclose, -⟩
  · simpa using hcons _ [] hne hopen
  · exact hcons _ _ hne hopen
  · exact hcons _ _ (List.ne_nil_of_mem hclose) hopen

/-- A line with a key starts, once it is trimmed, with a character that is no opening bracket. -/
theorem HasLeft.exists_cons {line : String} (h : HasLeft NamesLaxKey line) :
    ∃ c rest, Chars.trim line.toList = c :: rest ∧ c ≠ '[' := by
  obtain ⟨left, right, hline, -, hkey⟩ := h
  obtain ⟨c, rest, htrim, hopen⟩ := hkey.exists_cons
  have hhead : (Chars.trim left).head? = some c := by rw [htrim, List.head?_cons]
  have hline' := (Chars.of_head?_trim hhead).2 ('=' :: right)
  rw [← hline] at hline'
  obtain ⟨others, hothers⟩ := List.head?_eq_some_iff.1 hline'
  exact ⟨c, others, hothers, hopen⟩

/-- A line that is not a remark has, once it is trimmed, a first character, and no number sign. -/
theorem exists_cons_of_not_isRemark {line : String} (h : ¬IsRemark line) :
    ∃ c rest, Chars.trim line.toList = c :: rest ∧ c ≠ '#' := by
  rcases htrim : Chars.trim line.toList with _ | ⟨c, rest⟩
  · have hblank := List.all_eq_true.2 (Chars.trim_eq_nil_iff.1 htrim)
    exact absurd (.inl hblank) h
  · refine ⟨c, rest, rfl, ?_⟩
    rintro rfl
    exact h (.inr ⟨rest, htrim⟩)

/-- A remark is kept as it is. -/
theorem IsRemark.readLine {line : String} (h : IsRemark line) :
    readLine line = .ok .verbatim := by
  unfold Document.readLine
  rcases h with hblank | ⟨comment, htrim⟩
  · rw [Chars.trim_eq_nil_iff.2 (List.all_eq_true.1 hblank)]
  · rw [htrim]
    rfl

/-- A line that starts with an opening bracket is read as a header, or it is none. -/
theorem readLine_bracket {line : String} {rest : List Char}
    (htrim : Chars.trim line.toList = '[' :: rest) :
    (∃ name, IsHeader name line ∧ readLine line = .ok (.header name)) ∨
    ((∀ name, ¬IsHeader name line) ∧ ∃ fault, readLine line = .error fault) := by
  have hread : readLine line =
      if rest.getLast? ≠ some ']' ∨ rest.dropLast.isEmpty then .error .invalidHeader
      else if rest.dropLast.any isBracket then .error .invalidGroupName
      else .ok (.header (String.ofList rest.dropLast)) := by
    unfold readLine
    rw [htrim]
    rfl
  by_cases hname : ∃ name, IsName name ∧ rest = name ++ [']']
  · obtain ⟨hlast, hne, hbrackets⟩ := isName_dropLast_iff.2 hname
    obtain ⟨name, hname, hrest⟩ := hname
    refine .inl ⟨String.ofList name, ⟨by simpa using hname, by simp [htrim, hrest]⟩, ?_⟩
    rw [hread, if_neg (by simp [hlast, hne]), if_neg (Bool.eq_false_iff.1 hbrackets), hrest,
      List.dropLast_concat]
  · refine .inr ⟨fun name hheader => hname ⟨name.toList, hheader.1, ?_⟩, ?_⟩
    · exact (List.cons.inj (htrim.symm.trans hheader.2)).2
    · rw [hread]
      split
      · exact ⟨_, rfl⟩
      · split
        · exact ⟨_, rfl⟩
        · next hshape hbrackets =>
          simp only [not_or, Decidable.not_not, List.isEmpty_iff, Bool.not_eq_true] at *
          exact absurd (isName_dropLast_iff.1 ⟨hshape.1, hshape.2, hbrackets⟩) hname

/-- A line that starts with neither a number sign nor an opening bracket is read as a key with its
value, or it has no key. -/
theorem readLine_other {line : String} {c : Char} {rest : List Char}
    (htrim : Chars.trim line.toList = c :: rest) (hcomment : c ≠ '#') (hopen : c ≠ '[') :
    (HasLeft NamesLaxKey line ∧ ∃ keyLine, readLine line = .ok (.entry keyLine)) ∨
    (¬HasLeft NamesLaxKey line ∧ ∃ fault, readLine line = .error fault) := by
  have hread : readLine line = (Chars.splitFirst '=' line.toList).elim (.error .noKind) fun cut =>
      (readKey (Chars.trim cut.1)).elim (.error .invalidKey) fun named =>
        .ok (.entry ⟨named.1, named.2, String.ofList (Chars.trimStart cut.2), line⟩) := by
    unfold readLine
    rw [htrim]
    split
    · next heq => cases heq
    · next heq => exact absurd (List.cons.inj heq).1 hcomment
    · next heq => exact absurd (List.cons.inj heq).1 hopen
    · rcases Chars.splitFirst '=' line.toList with _ | ⟨left, right⟩
      · rfl
      · dsimp only [Option.elim_some]
        cases readKey (Chars.trim left) <;> rfl
  rcases hcut : Chars.splitFirst '=' line.toList with _ | ⟨left, right⟩
  · rw [hcut] at hread
    refine .inr ⟨?_, _, hread⟩
    rintro ⟨left, right, hline, -, -⟩
    exact Chars.splitFirst_eq_none_iff.1 hcut (by simp [hline])
  · obtain ⟨hline, hequals⟩ := Chars.eq_append_of_splitFirst hcut
    have hkey : _ ↔ NamesLaxKey (Chars.trim left) :=
      exists_readKey_iff fun d hd => (Chars.of_head?_trim hd).1
    rw [hcut, Option.elim_some] at hread
    rcases hnamed : readKey (Chars.trim left) with _ | named
    · rw [hnamed] at hread hkey
      refine .inr ⟨?_, _, hread⟩
      rintro ⟨left', right', hline', hequals', hkey'⟩
      -- The first equals sign of the line is the only one that can end the key.
      obtain ⟨rfl, -⟩ := Chars.append_cons_inj hequals hequals' (hline.symm.trans hline')
      obtain ⟨_, hnone⟩ := hkey.2 hkey'
      cases hnone
    · rw [hnamed] at hread hkey
      exact .inl ⟨⟨left, right, hline, hequals, hkey.1 ⟨named, rfl⟩⟩, _, hread⟩

/-- A header is read as such. -/
theorem IsHeader.readLine {name line : String} (h : IsHeader name line) :
    readLine line = .ok (.header name) := by
  rcases readLine_bracket h.2 with ⟨name', hname', hread⟩ | ⟨hnone, -⟩
  · have hchars := (List.cons.inj (hname'.2.symm.trans h.2)).2
    rw [hread, String.toList_inj.1 (List.append_cancel_right hchars)]
  · exact absurd h (hnone name)

/-- A line with a key is read as one, unless it is a comment. -/
theorem HasLeft.exists_readLine {line : String} (h : HasLeft NamesLaxKey line)
    (hremark : ¬IsRemark line) : ∃ keyLine, readLine line = .ok (.entry keyLine) := by
  obtain ⟨c, rest, htrim, hcomment⟩ := exists_cons_of_not_isRemark hremark
  obtain ⟨c', rest', htrim', hopen⟩ := h.exists_cons
  obtain ⟨rfl, -⟩ := List.cons.inj (htrim.symm.trans htrim')
  rcases readLine_other htrim hcomment hopen with ⟨-, hentry⟩ | ⟨hnone, -⟩
  · exact hentry
  · exact absurd h hnone

/-- A line is what it is read as. -/
def LineKind.Describes : LineKind → String → Prop
  | .verbatim, line => IsRemark line
  | .header name, line => IsHeader name line
  | .entry _, line => HasLeft NamesLaxKey line

/-- Lines are read as what they are. -/
theorem describes_of_readLine {line : String} {kind : LineKind} (h : readLine line = .ok kind) :
    kind.Describes line := by
  by_cases hremark : IsRemark line
  · rw [hremark.readLine] at h
    cases h
    exact hremark
  obtain ⟨c, rest, htrim, hcomment⟩ := exists_cons_of_not_isRemark hremark
  by_cases hopen : c = '['
  · subst hopen
    rcases readLine_bracket htrim with ⟨name, hheader, hread⟩ | ⟨-, fault, hread⟩
    · rw [hread] at h
      cases h
      exact hheader
    · rw [hread] at h
      cases h
  · rcases readLine_other htrim hcomment hopen with ⟨hkey, keyLine, hread⟩ | ⟨-, fault, hread⟩
    · rw [hread] at h
      cases h
      exact hkey
    · rw [hread] at h
      cases h

/-! ## Documents -/

namespace IsRead

variable {d : Document}

/-- A read document has a group of a name exactly when one of its lines is the header. -/
theorem hasGroup_iff (h : d.IsRead) (name : String) :
    d.hasGroup name = true ↔ ∃ line ∈ d.lines, IsHeader name line := by
  have hnamed : d.hasGroup name = true ↔ ∃ g ∈ d.groups, g.name = name := by
    simp [hasGroup, group?]
  rw [hnamed]
  unfold lines
  constructor
  · rintro ⟨g, hg, rfl⟩
    have hmem : g.header ∈ d.groups.flatMap Group.allLines :=
      List.mem_flatMap.2 ⟨g, hg, List.mem_cons_self⟩
    exact ⟨g.header, List.mem_append_right _ hmem, describes_of_readLine (h.groups g hg).header_eq⟩
  · rintro ⟨line, hmem, hheader⟩
    have hread := hheader.readLine
    rcases List.mem_append.1 hmem with hmem | hmem
    · rw [h.preamble line hmem] at hread
      cases hread
    · obtain ⟨g, hg, hmem⟩ := List.mem_flatMap.1 hmem
      rcases List.mem_cons.1 hmem with rfl | hmem
      · rw [(h.groups g hg).header_eq] at hread
        cases hread
        exact ⟨g, hg, rfl⟩
      · -- The lines below a header are read as remarks and keys.
        obtain ⟨l, hl, rfl⟩ := List.mem_map.1 hmem
        have hline := (h.groups g hg).lines l hl
        cases l with
        | verbatim text =>
          have htext : Document.readLine (Line.verbatim text).text = .ok .verbatim := hline
          rw [htext] at hread
          cases hread
        | entry keyLine =>
          have htext : Document.readLine (Line.entry keyLine).text = .ok (.entry keyLine) := hline
          rw [htext] at hread
          cases hread

/-- A read document has a group exactly when one of its lines is a header. -/
theorem groups_ne_nil_iff (h : d.IsRead) : d.groups ≠ [] ↔ HasHeader d.lines := by
  constructor
  · intro hne
    obtain ⟨g, hg⟩ := List.exists_mem_of_ne_nil _ hne
    have hgroup : d.hasGroup g.name = true := by
      simpa [hasGroup, group?] using ⟨g, hg, rfl⟩
    exact ⟨g.name, (h.hasGroup_iff g.name).1 hgroup⟩
  · rintro ⟨name, hheader⟩ hnil
    have hgroup := (h.hasGroup_iff name).2 hheader
    simp [hasGroup, group?, hnil] at hgroup

/-- A line can be added to a read document exactly when it fits after its lines. -/
theorem exists_addText_iff (h : d.IsRead) (line : String) :
    (∃ d', d.addText line = .ok d') ↔ FitsAfter NamesLaxKey d.lines line := by
  constructor
  · rintro ⟨d', hadd⟩
    unfold Document.addText at hadd
    split at hadd
    · cases hadd
    · next hread => exact .remark (describes_of_readLine hread)
    · next name hread =>
      split at hadd
      · cases hadd
      · next hfree =>
        refine .header name (describes_of_readLine hread) fun other hother hheader => hfree ?_
        exact (h.hasGroup_iff name).2 ⟨other, hother, hheader⟩
    · next keyLine hread =>
      refine .key (describes_of_readLine hread) (h.groups_ne_nil_iff.1 fun hnil => ?_)
      rw [hnil] at hadd
      cases hadd
  · have hremark : IsRemark line → ∃ d', d.addText line = .ok d' := fun hremark => by
      unfold Document.addText
      rw [hremark.readLine]
      dsimp only
      split <;> exact ⟨_, rfl⟩
    rintro (hline | ⟨name, hheader, hnew⟩ | ⟨hkey, hheader⟩)
    · exact hremark hline
    · have hfree : ¬d.hasGroup name = true := fun hgroup => by
        obtain ⟨other, hother, hsame⟩ := (h.hasGroup_iff name).1 hgroup
        exact hnew other hother hsame
      unfold Document.addText
      rw [hheader.readLine]
      exact ⟨_, if_neg hfree⟩
    · -- A comment can have an equals sign too.
      by_cases hline : IsRemark line
      · exact hremark hline
      · obtain ⟨keyLine, hread⟩ := hkey.exists_readLine hline
        unfold Document.addText
        rw [hread]
        dsimp only
        split
        · exact ⟨_, rfl⟩
        · next hlast => exact absurd (addToLast_eq_none hlast) (h.groups_ne_nil_iff.2 hheader)

end IsRead

/-! ## Texts -/

/-- The reading of lines fails with a line exactly when the lines before it are read, and it cannot
be added to what was read. The lines behind it do not matter. -/
theorem addLines_eq_error_iff {d : Document} {n m : Nat} {ls : List String} {fault : Fault} :
    d.addLines n ls = .error (m, fault) ↔ ∃ before line after d', ls = before ++ line :: after ∧
      m = n + before.length ∧ d.addLines n before = .ok d' ∧ d'.addText line = .error fault := by
  constructor
  · intro h
    induction ls generalizing d n with
    | nil => cases h
    | cons line rest ih =>
      rw [Document.addLines] at h
      rcases hadd : d.addText line with fault' | d'
      · rw [hadd] at h
        cases h
        exact ⟨[], line, rest, d, rfl, rfl, rfl, hadd⟩
      · rw [hadd] at h
        obtain ⟨before, line', after, d'', rfl, rfl, hbefore, hfault⟩ := ih h
        refine ⟨line :: before, line', after, d'', rfl, ?_, ?_, hfault⟩
        · rw [List.length_cons]
          omega
        · rw [Document.addLines, hadd]
          exact hbefore
  · rintro ⟨before, line, after, d', rfl, rfl, hbefore, hfault⟩
    rw [addLines_append hbefore, Document.addLines, hfault]

/-- Lines that are read are read in two parts. -/
theorem exists_addLines_front {d d' : Document} {n : Nat} {before after : List String}
    (h : d.addLines n (before ++ after) = .ok d') :
    ∃ d'', d.addLines n before = .ok d'' ∧ d''.addLines (n + before.length) after = .ok d' := by
  rcases hbefore : d.addLines n before with ⟨m, fault⟩ | d''
  · -- What is wrong in the first part is wrong in the whole.
    obtain ⟨front, line, rest, d'', rfl, hm, hfront, hfault⟩ := addLines_eq_error_iff.1 hbefore
    have hfails := addLines_eq_error_iff.2
      ⟨front, line, rest ++ after, d'', rfl, hm, hfront, hfault⟩
    rw [List.append_assoc, List.cons_append, hfails] at h
    cases h
  · rw [addLines_append hbefore] at h
    exact ⟨d'', rfl, h⟩

/-- A line can be added after lines that were read exactly when it fits after them. -/
theorem exists_addText_after {before : List String} {d : Document}
    (hbefore : empty.addLines 1 before = .ok d) (line : String) :
    (∃ d', d.addText line = .ok d') ↔ FitsAfter NamesLaxKey before line := by
  obtain ⟨hread, hlines⟩ := isRead_empty.addLines hbefore
  have hsame : d.lines = before := hlines.trans (List.nil_append before)
  rw [← hsame]
  exact hread.exists_addText_iff line

/-- Lines are read exactly when each fits after those before it. -/
theorem exists_addLines_iff (ls : List String) :
    (∃ d, empty.addLines 1 ls = .ok d) ↔ FollowGrammar NamesLaxKey ls := by
  constructor
  · rintro ⟨d, hread⟩ before line after rfl
    obtain ⟨d', hbefore, hrest⟩ := exists_addLines_front hread
    refine (exists_addText_after hbefore line).1 ?_
    rw [Document.addLines] at hrest
    rcases hadd : d'.addText line with fault | d''
    · rw [hadd] at hrest
      cases hrest
    · exact ⟨d'', rfl⟩
  · intro hfits
    rcases hread : empty.addLines 1 ls with ⟨m, fault⟩ | d
    · obtain ⟨before, line, after, d', hls, -, hbefore, hfault⟩ := addLines_eq_error_iff.1 hread
      obtain ⟨d'', hadd⟩ := (exists_addText_after hbefore line).2 (hfits before line after hls)
      rw [hfault] at hadd
      cases hadd
    · exact ⟨d, rfl⟩

/-- A text is read from its lines. -/
theorem parse_of_hasLines {s : String} {ls : List String} (h : Text.HasLines s ls) :
    parse s = empty.addLines 1 ls := by
  rw [Text.hasLines_iff.1 h, parse]

/-- A text holds a document exactly when each of its lines fits after those before it, where a key
that has a locale may have a closing bracket too. Otherwise the first line that does not fit is
blamed. The lines before it alone hold a document, and every text that starts with the same lines up
to this one is refused with the same number and the same fault. -/
theorem parse_follows_grammar {s : String} {ls : List String} (hlines : Text.HasLines s ls) :
    ((∃ d, parse s = .ok d) ↔ FollowGrammar NamesLaxKey ls) ∧
    ∀ n fault, parse s = .error (n, fault) → 0 < n ∧
      (∃ line, ls[n - 1]? = some line ∧ ¬FitsAfter NamesLaxKey (ls.take (n - 1)) line) ∧
      (∃ front rest, s = front ++ rest ∧ Text.HasLines front (ls.take (n - 1))) ∧
      (∀ front, Text.HasLines front (ls.take (n - 1)) → ∃ d, parse front = .ok d) ∧
      ∀ s' ls', Text.HasLines s' ls' → ls'.take n = ls.take n → parse s' = .error (n, fault) := by
  rw [parse_of_hasLines hlines]
  refine ⟨exists_addLines_iff ls, fun n fault hfails => ?_⟩
  obtain ⟨before, line, after, d, rfl, rfl, hbefore, hfault⟩ := addLines_eq_error_iff.1 hfails
  have hcount : 1 + before.length - 1 = before.length := by omega
  rw [hcount, List.take_left]
  refine ⟨by omega, ⟨line, by simp, fun hfits => ?_⟩, hlines.exists_front, fun front hfront => ?_,
    fun s' ls' hlines' hsame => ?_⟩
  · obtain ⟨d', hadd⟩ := (exists_addText_after hbefore line).2 hfits
    rw [hfault] at hadd
    cases hadd
  · exact ⟨d, (parse_of_hasLines hfront).trans hbefore⟩
  · have hfirst : (before ++ line :: after).take (1 + before.length) = before ++ [line] := by
      rw [List.append_cons, Nat.add_comm]
      exact List.take_left' (by simp)
    have hls' : ls' = before ++ line :: ls'.drop (1 + before.length) := by
      conv_lhs => rw [← List.take_append_drop (1 + before.length) ls', hsame, hfirst]
      simp
    rw [parse_of_hasLines hlines']
    exact addLines_eq_error_iff.2 ⟨before, line, _, d, hls', rfl, hbefore, hfault⟩

/-- Lines with two headers of one name. -/
def twoHeaders : List String :=
  ["[Desktop Entry]", "Name=A", "[Desktop Entry]", "Exec=a"]

/-- A second header of one name is blamed, whatever stands behind it. -/
theorem parse_follows_grammar_twoHeaders :
    Text.HasLines (joinLines twoHeaders) twoHeaders ∧
    parse (joinLines twoHeaders) = .error (3, .duplicateGroup "Desktop Entry") ∧
    ¬FollowGrammar NamesLaxKey twoHeaders ∧
    ∀ s' ls', Text.HasLines s' ls' → ls'.take 3 = twoHeaders.take 3 →
      parse s' = .error (3, .duplicateGroup "Desktop Entry") := by
  have hlines : Text.HasLines (joinLines twoHeaders) twoHeaders := Text.hasLines_iff.2 (by rfl)
  have hfails : parse (joinLines twoHeaders) = .error (3, .duplicateGroup "Desktop Entry") := by
    rfl
  obtain ⟨haccepts, hblames⟩ := parse_follows_grammar hlines
  obtain ⟨-, -, -, -, hprefix⟩ := hblames 3 _ hfails
  refine ⟨hlines, hfails, fun hfits => ?_, hprefix⟩
  obtain ⟨d, hd⟩ := haccepts.2 hfits
  rw [hfails] at hd
  cases hd

/-! ## Keys with a closing bracket -/

/-- A key with a closing bracket and a locale is none. -/
theorem NamesStrayKey.not_namesKey {cs : List Char} (h : NamesStrayKey cs) : ¬NamesKey cs := by
  obtain ⟨hopen, hclose, -⟩ := h
  generalize hcs : _ ++ '[' :: _ = cs
  rintro (⟨-, hopen', -⟩ | ⟨hkey, -⟩)
  · exact hopen' (by simp [← hcs])
  · obtain ⟨rfl, -⟩ := Chars.append_cons_inj hopen hkey.2.1 hcs
    exact hkey.2.2 hclose

/-- A line with a closing bracket in a key that has a locale fits nowhere unless it is a comment. -/
theorem not_fitsAfter_of_strayKey {line : String} (h : HasLeft NamesStrayKey line)
    (hremark : ¬IsRemark line) (earlier : List String) : ¬FitsAfter NamesKey earlier line := by
  obtain ⟨left, right, hline, hequals, hstray⟩ := h
  have hlax : HasLeft NamesLaxKey line := ⟨left, right, hline, hequals, .inr hstray⟩
  rintro (hremark' | ⟨name, hheader, -⟩ | ⟨⟨left', right', hline', hequals', hkey⟩, -⟩)
  · exact hremark hremark'
  · obtain ⟨c, rest, htrim, hopen⟩ := hlax.exists_cons
    exact hopen (List.cons.inj (htrim.symm.trans hheader.2)).1
  · obtain ⟨rfl, -⟩ := Chars.append_cons_inj hequals hequals' (hline.symm.trans hline')
    exact hstray.not_namesKey hkey

/-- A line with a closing bracket in a key that has a locale. -/
def strayBracket : String :=
  "a][b]=c"

/-- A text with such a line holds a document, though it does not follow the grammar. Without the
locale the key is refused. -/
theorem accepted_strayBracket :
    Text.HasLines "[Desktop Entry]\na][b]=c\n" ["[Desktop Entry]", strayBracket] ∧
    (∃ d, parse "[Desktop Entry]\na][b]=c\n" = .ok d) ∧
    ¬FollowGrammar NamesKey ["[Desktop Entry]", strayBracket] ∧
    parse "[Desktop Entry]\na]=c\n" = .error (2, .invalidKey) := by
  refine ⟨Text.hasLines_iff.2 (by rfl), ⟨_, by rfl⟩, fun hfits => ?_, by rfl⟩
  have hstray : HasLeft NamesStrayKey strayBracket := by
    have hlocale : IsName ['b'] := by simp [IsName]
    have hkey : NamesStrayKey (['a', ']'] ++ '[' :: (['b'] ++ [']'])) :=
      .localized (by simp) (by simp) hlocale
    exact ⟨['a', ']', '[', 'b', ']'], ['c'], by rfl, by decide, hkey⟩
  have hremark : ¬IsRemark strayBracket := by
    rintro (hblank | ⟨comment, hcomment⟩)
    · cases hblank
    · cases hcomment
  exact not_fitsAfter_of_strayKey hstray hremark _ (hfits ["[Desktop Entry]"] _ [] rfl)

end Document

end Autostart
