import Autostart.Document.Basic

/-!
# Stored values

A value stored in the main group is the one that its key has from then on, and every other key keeps
its value. A line of the document after a store is one from before or the plain line of the value.
-/

namespace Autostart.Document

/-! ## Lines of one group -/

/-- The plain line of a value gives it to its own key under its own locale suffix only. -/
theorem value?_plain (key key' : String) (locale? locale'? : Option String) (value : String) :
    (Line.entry (.plain key locale? value)).value? key' locale'? =
      if key' = key ∧ locale'? = locale? then some value else none := by
  have hkey : (KeyLine.plain key locale? value).key = key := by cases locale? <;> rfl
  have hlocale : (KeyLine.plain key locale? value).locale? = locale? := by cases locale? <;> rfl
  have hvalue : (KeyLine.plain key locale? value).value = value := by cases locale? <;> rfl
  unfold Line.value?
  simp only [hkey, hlocale, hvalue, eq_comm]

/-- A line that gives a value to a key is one of the key with this value. -/
theorem exists_entry_of_value? {line : Line} {key raw : String} {locale? : Option String}
    (h : line.value? key locale? = some raw) :
    ∃ keyLine, line = .entry keyLine ∧ keyLine.key = key ∧ keyLine.locale? = locale? ∧
      keyLine.value = raw := by
  cases line with
  | verbatim text => cases h
  | entry keyLine =>
    unfold Line.value? at h
    dsimp only at h
    split at h
    · next hslot => exact ⟨keyLine, rfl, hslot.1, hslot.2, Option.some.inj h⟩
    · cases h

/-- A line that gives a value to a key gives none to any other. -/
theorem value?_of_ne {line : Line} {key key' : String} {locale? locale'? : Option String}
    {value : String} (h : line.value? key locale? = some value)
    (hne : ¬(key' = key ∧ locale'? = locale?)) : line.value? key' locale'? = none := by
  cases line with
  | verbatim text => rfl
  | entry keyLine =>
    unfold Line.value? at h ⊢
    dsimp only at h ⊢
    by_cases hline : keyLine.key = key ∧ keyLine.locale? = locale?
    · obtain ⟨rfl, rfl⟩ := hline
      exact if_neg fun hline' => hne ⟨hline'.1.symm, hline'.2.symm⟩
    · rw [if_neg hline] at h
      cases h

/-- The line with a value in place of another gives it to its key, and nothing else to others. -/
theorem value?_replaced {line : Line} {key : String} {locale? : Option String} {old : String}
    (h : line.value? key locale? = some old) (value : String) (key' : String)
    (locale'? : Option String) :
    (if old = value then line else .entry (.plain key locale? value)).value? key' locale'? =
      if key' = key ∧ locale'? = locale? then some value else line.value? key' locale'? := by
  by_cases hsame : key' = key ∧ locale'? = locale?
  · rw [if_pos hsame]
    obtain ⟨rfl, rfl⟩ := hsame
    split
    · next heq => rw [h, heq]
    · rw [value?_plain, if_pos ⟨rfl, rfl⟩]
  · rw [if_neg hsame]
    split
    · rfl
    · rw [value?_plain, if_neg hsame, value?_of_ne h hsame]

/-- The first of two lists of lines that has a value for a key decides. -/
theorem valueIn_append (key : String) (locale? : Option String) (front back : List Line) :
    valueIn key locale? (front ++ back) =
      (valueIn key locale? front).or (valueIn key locale? back) := by
  unfold valueIn
  rw [List.findSome?_append]

/-- The first line decides when it has a value for a key. -/
theorem valueIn_cons (key : String) (locale? : Option String) (line : Line) (lines : List Line) :
    valueIn key locale? (line :: lines) =
      (line.value? key locale?).or (valueIn key locale? lines) := by
  unfold valueIn
  rw [List.findSome?_cons]
  cases line.value? key locale? <;> rfl

/-- A line is put between two parts of the lines. -/
theorem insertBeforeEnd_eq (skip : Line → Bool) (line : Line) (lines : List Line) :
    ∃ front back, lines = front ++ back ∧
      insertBeforeEnd skip line lines = front ++ line :: back := by
  refine ⟨(lines.reverse.dropWhile skip).reverse, (lines.reverse.takeWhile skip).reverse, ?_, rfl⟩
  rw [← List.reverse_append, List.takeWhile_append_dropWhile, List.reverse_reverse]

/-- An added line stands between two parts of the lines. -/
theorem addLine_eq (line : Line) (lines : List Line) :
    ∃ front back, lines = front ++ back ∧ addLine line lines = front ++ line :: back := by
  unfold addLine
  split
  · exact insertBeforeEnd_eq _ line lines
  · exact insertBeforeEnd_eq _ line lines

/-- A value can be replaced only when the key has one. -/
theorem valueIn_of_replaceValue_eq_none {key : String} {locale? : Option String} {value : String}
    {lines : List Line} (h : replaceValue key locale? value lines = none) :
    valueIn key locale? lines = none := by
  induction lines with
  | nil => rfl
  | cons line rest ih =>
    unfold replaceValue at h
    split at h
    · cases h
    · next hnone =>
      rw [valueIn_cons, hnone, ih (by simpa using h)]
      rfl

/-- A replaced value is the one of its key, and no other key notices. -/
theorem valueIn_of_replaceValue {key : String} {locale? : Option String} {value : String}
    {lines lines' : List Line} (h : replaceValue key locale? value lines = some lines')
    (key' : String) (locale'? : Option String) :
    valueIn key' locale'? lines' =
      if key' = key ∧ locale'? = locale? then some value else valueIn key' locale'? lines := by
  induction lines generalizing lines' with
  | nil => cases h
  | cons line rest ih =>
    unfold replaceValue at h
    split at h
    · next old hold =>
      obtain rfl := Option.some.inj h
      rw [valueIn_cons, valueIn_cons, value?_replaced hold]
      split <;> rfl
    · next hnone =>
      -- The first line has no value for the key, so the value is replaced further down.
      obtain ⟨rest', hrest, rfl⟩ := Option.map_eq_some_iff.1 h
      rw [valueIn_cons, valueIn_cons, ih hrest]
      split
      · next hsame =>
        obtain ⟨rfl, rfl⟩ := hsame
        rw [hnone]
        rfl
      · rfl

/-- A stored value is the one of its key, and no other key notices. -/
theorem valueIn_storeIn (key key' : String) (locale? locale'? : Option String) (value : String)
    (lines : List Line) :
    valueIn key' locale'? (storeIn key locale? value lines) =
      if key' = key ∧ locale'? = locale? then some value else valueIn key' locale'? lines := by
  unfold storeIn
  split
  · next lines' h => exact valueIn_of_replaceValue h key' locale'?
  · next h =>
    -- The key has no value, so none of the lines before the added one decides for it.
    have hnone := valueIn_of_replaceValue_eq_none h
    obtain ⟨front, back, rfl, hadd⟩ := addLine_eq (.entry (.plain key locale? value)) lines
    rw [hadd, valueIn_append, valueIn_cons, value?_plain, valueIn_append]
    split
    · next hsame =>
      obtain ⟨rfl, rfl⟩ := hsame
      rw [valueIn_append, Option.or_eq_none_iff] at hnone
      rw [hnone.1]
      rfl
    · rfl

/-- A line after a replacement is one from before or the plain line of the value. -/
theorem mem_of_mem_replaceValue {key : String} {locale? : Option String} {value : String}
    {lines lines' : List Line} (h : replaceValue key locale? value lines = some lines')
    {line : Line} (hline : line ∈ lines') :
    line ∈ lines ∨ line = .entry (.plain key locale? value) := by
  induction lines generalizing lines' with
  | nil => cases h
  | cons first rest ih =>
    unfold replaceValue at h
    split at h
    · obtain rfl := Option.some.inj h
      rcases List.mem_cons.1 hline with hfirst | hrest
      · split at hfirst
        · exact .inl (hfirst ▸ List.mem_cons_self)
        · exact .inr hfirst
      · exact .inl (List.mem_cons_of_mem first hrest)
    · obtain ⟨rest', hrest, rfl⟩ := Option.map_eq_some_iff.1 h
      rcases List.mem_cons.1 hline with hfirst | hmem
      · exact .inl (hfirst ▸ List.mem_cons_self)
      · exact (ih hrest hmem).imp_left (List.mem_cons_of_mem first)

/-- A line after a store is one from before or the plain line of the value. -/
theorem mem_of_mem_storeIn {key : String} {locale? : Option String} {value : String}
    {lines : List Line} {line : Line} (h : line ∈ storeIn key locale? value lines) :
    line ∈ lines ∨ line = .entry (.plain key locale? value) := by
  unfold storeIn at h
  split at h
  · next lines' hreplace => exact mem_of_mem_replaceValue hreplace h
  · obtain ⟨front, back, rfl, hadd⟩ := addLine_eq (.entry (.plain key locale? value)) lines
    rw [hadd] at h
    simp only [List.mem_append, List.mem_cons] at h ⊢
    rcases h with h | h | h
    · exact .inl (.inl h)
    · exact .inr h
    · exact .inl (.inr h)

/-! ## The main group -/

/-- Changing the first group of a name changes the group found under the name. -/
theorem find?_changeGroup (name : String) (f : Group → Group) (hname : ∀ g, (f g).name = g.name)
    (groups : List Group) :
    (changeGroup name f groups).find? (fun g => g.name = name) =
      (groups.find? fun g => g.name = name).map f := by
  induction groups with
  | nil => rfl
  | cons g rest ih =>
    unfold changeGroup
    by_cases h : g.name = name
    · simp [h, hname]
    · simp [h, ih]

/-- Changing a group keeps the names of the groups. -/
theorem map_name_changeGroup (name : String) (f : Group → Group)
    (hname : ∀ g, (f g).name = g.name) (groups : List Group) :
    (changeGroup name f groups).map Group.name = groups.map Group.name := by
  induction groups with
  | nil => rfl
  | cons g rest ih =>
    unfold changeGroup
    split
    · simp [hname]
    · simp [ih]

/-- A group after a change is one from before, perhaps changed. -/
theorem mem_of_mem_changeGroup {name : String} {f : Group → Group} {groups : List Group}
    {g : Group} (h : g ∈ changeGroup name f groups) : g ∈ groups ∨ ∃ g' ∈ groups, g = f g' := by
  induction groups with
  | nil => cases h
  | cons first rest ih =>
    unfold changeGroup at h
    split at h
    · rcases List.mem_cons.1 h with rfl | h
      · exact .inr ⟨first, List.mem_cons_self, rfl⟩
      · exact .inl (List.mem_cons_of_mem first h)
    · rcases List.mem_cons.1 h with rfl | h
      · exact .inl List.mem_cons_self
      · rcases ih h with h | ⟨g', hg', rfl⟩
        · exact .inl (List.mem_cons_of_mem first h)
        · exact .inr ⟨g', List.mem_cons_of_mem first hg', rfl⟩

/-- A document with a main group has one. -/
theorem group?_withMainGroup (d : Document) :
    ∃ g, d.withMainGroup.group? mainGroup = some g ∧
      ∀ key locale?, valueIn key locale? g.lines = d.rawValue? key locale? := by
  unfold withMainGroup
  split
  · next h =>
    obtain ⟨g, hg⟩ := Option.isSome_iff_exists.1 h
    refine ⟨g, hg, fun key locale? => ?_⟩
    unfold rawValue?
    rw [hg]
    rfl
  · next h =>
    have hnone : d.group? mainGroup = none := by simpa [hasGroup] using h
    refine ⟨_, List.find?_cons_of_pos (by simp), fun key locale? => ?_⟩
    unfold rawValue?
    rw [hnone]
    dsimp only
    split <;> rfl

/-- A stored value is the one of its key from then on, and every other key keeps its value. -/
theorem rawValue?_store (d : Document) (key key' : String) (locale? locale'? : Option String)
    (value : String) :
    (d.store key locale? value).rawValue? key' locale'? =
      if key' = key ∧ locale'? = locale? then some value else d.rawValue? key' locale'? := by
  obtain ⟨g, hg, hvalues⟩ := group?_withMainGroup d
  have hgroup : (d.store key locale? value).group? mainGroup =
      some { g with lines := storeIn key locale? value g.lines } := by
    have hfind := find?_changeGroup mainGroup
      (fun g => { g with lines := storeIn key locale? value g.lines }) (fun _ => rfl)
      d.withMainGroup.groups
    rw [group?] at hg
    rw [hg] at hfind
    exact hfind
  rw [← hvalues]
  unfold rawValue?
  rw [hgroup]
  exact valueIn_storeIn key key' locale? locale'? value g.lines

/-- A value of the main group stands in a line of its key. -/
theorem exists_entry_of_rawValue? {d : Document} {key raw : String} {locale? : Option String}
    (h : d.rawValue? key locale? = some raw) :
    ∃ g ∈ d.groups, ∃ line, .entry line ∈ g.lines ∧ line.key = key ∧ line.locale? = locale? ∧
      line.value = raw := by
  obtain ⟨g, hg, hvalue⟩ := Option.bind_eq_some_iff.1 h
  obtain ⟨line, hline, hvalue⟩ := List.exists_of_findSome?_eq_some hvalue
  obtain ⟨keyLine, rfl, hslot⟩ := exists_entry_of_value? hvalue
  exact ⟨g, List.mem_of_find?_eq_some hg, keyLine, hline, hslot⟩

end Autostart.Document
