import Autostart.Proofs.Entry.Merging
import Autostart.Proofs.Entry.Preserving
import Mathlib.Data.List.Induction
import Mathlib.Data.List.TakeWhile

/-!
# The lines that a merge writes

A merge is a list of values, each stored in a slot of its own. So the merged document can be told
line by line. In the main group the first line of a slot gives way to the line of its value, in its
place; the slots without a line get one each after the last key, in the order of the list. Without a
main group the lines stand under a header of their own in front of the groups. Nothing else changes,
and nothing moves.
-/

namespace Autostart

namespace Document

/-- The slot of a line, if it has a key. -/
def Line.slot? : Line → Option Slot
  | verbatim _ => none
  | entry line => some (line.key, line.locale?)

/-- A value for a slot of the main group, as it is written. -/
structure Write where
  /-- The slot. -/
  slot : Slot
  /-- The value. -/
  value : String
deriving DecidableEq, Repr

/-- The line of a value, in the plainest form. -/
def Write.line (w : Write) : Line :=
  .entry (.plain w.slot.1 w.slot.2 w.value)

/-- The lines with values stored one after the other. -/
def storeAllIn (writes : List Write) (lines : List Line) : List Line :=
  writes.foldl (fun lines w => storeIn w.slot.1 w.slot.2 w.value lines) lines

/-- The document with values stored one after the other. -/
def storeAll (writes : List Write) (d : Document) : Document :=
  writes.foldl (fun d w => d.store w.slot.1 w.slot.2 w.value) d

/-- No line is one of a slot. -/
def Lacks (slot : Slot) (lines : List Line) : Prop :=
  ∀ line ∈ lines, line.slot? ≠ some slot

instance (slot : Slot) (lines : List Line) : Decidable (Lacks slot lines) :=
  inferInstanceAs (Decidable (∀ line ∈ lines, line.slot? ≠ some slot))

/-- Lines are others in the same slots, each of which is as it was, or is the first one of a slot
and holds the value for it. -/
structure Replaced (writes : List Write) (lines lines' : List Line) : Prop where
  /-- The lines are of the same slots. -/
  slots_eq : lines'.map Line.slot? = lines.map Line.slot?
  /-- Only the first line of a slot gives way. -/
  line_eq : ∀ n : Nat, lines'[n]? = lines[n]? ∨
    ∃ w ∈ writes, lines.findIdx? (fun line => line.slot? = some w.slot) = some n ∧
      lines'[n]? = some w.line

/-- The place between two parts of the lines is the one for new keys: it follows the last key, or
goes before the blank lines at the end when there is no key. -/
structure IsPlaceForKeys (front back : List Line) : Prop where
  /-- No key follows. -/
  isEntry_back : ∀ line ∈ back, line.isEntry = false
  /-- The last key goes before, or there is none. -/
  front_ends : (∃ line, front.getLast? = some line ∧ line.isEntry = true) ∨
    (∀ line ∈ front, line.isEntry = false) ∧ (∀ line ∈ back, line.isBlank = true) ∧
      ∀ line, front.getLast? = some line → line.isBlank = false

/-- The lines of the values for slots without a line. -/
def newLines (writes : List Write) (lines : List Line) : List Line :=
  (writes.filter fun w => Lacks w.slot lines).map Write.line

/-- Lines are others with some values stored: before the place for new keys the first line of a slot
may have given way to that of its value, and the slots without a line have theirs at this place. -/
def LinesOverwritten (writes : List Write) (lines lines' : List Line) : Prop :=
  ∃ front back front', lines = front ++ back ∧ IsPlaceForKeys front back ∧
    Replaced writes front front' ∧ lines' = front' ++ newLines writes lines ++ back

/-- The blank line at the end of a new main group, when other groups follow. -/
def separator (groups : List Group) : List Line :=
  if groups.isEmpty then [] else [.verbatim ""]

/-- A document is another one with some values stored. -/
inductive Overwritten (writes : List Write) : Document → Document → Prop where
  /-- There is no value to store, and nothing changes. -/
  | nothing (d : Document) (none : writes = []) : Overwritten writes d d
  /-- The values are stored in the main group, and all else stays. -/
  | inPlace (preamble : List String) (before : List Group) (main : Group) (after : List Group)
      (lines : List Line) (main_eq : main.name = mainGroup)
      (first : ∀ g ∈ before, g.name ≠ mainGroup)
      (overwritten : LinesOverwritten writes main.lines lines) :
      Overwritten writes ⟨preamble, before ++ main :: after⟩
        ⟨preamble, before ++ { main with lines } :: after⟩
  /-- The values stand in a new main group in front of the groups, and all else stays. -/
  | inFront (d : Document) (none : d.hasGroup mainGroup = false) :
      Overwritten writes d
        ⟨d.preamble, ⟨mainGroup, "[" ++ mainGroup ++ "]",
          writes.map Write.line ++ separator d.groups⟩ :: d.groups⟩

/-! ## One value in the lines of a group -/

/-- A line gives a value to a key when it is one of its slot. -/
theorem value?_eq_none_iff {line : Line} {key : String} {locale? : Option String} :
    line.value? key locale? = none ↔ line.slot? ≠ some (key, locale?) := by
  cases line with
  | verbatim text => simp [Line.value?, Line.slot?]
  | entry keyLine => simp [Line.value?, Line.slot?]

/-- The line of a value is one of its slot. -/
theorem Write.slot?_line (w : Write) : w.line.slot? = some w.slot := by
  obtain ⟨⟨key, locale?⟩, value⟩ := w
  cases locale? <;> rfl

/-- Lines without keys are of no slot. -/
theorem lacks_of_isEntry {lines : List Line} (h : ∀ line ∈ lines, line.isEntry = false)
    (slot : Slot) : Lacks slot lines := by
  intro line hline
  have hkeyless := h line hline
  cases line with
  | verbatim text => simp [Line.slot?]
  | entry keyLine => cases hkeyless

/-- A slot that two parts lack is lacking in both together. -/
theorem lacks_append {slot : Slot} {front back : List Line} :
    Lacks slot (front ++ back) ↔ Lacks slot front ∧ Lacks slot back :=
  List.forall_mem_append

/-- Lines of the same slots lack the same. -/
theorem lacks_congr {lines lines' : List Line}
    (h : lines'.map Line.slot? = lines.map Line.slot?) (slot : Slot) :
    Lacks slot lines' ↔ Lacks slot lines := by
  have hmap : ∀ ls : List Line, Lacks slot ls ↔ ∀ s ∈ ls.map Line.slot?, s ≠ some slot := by
    intro ls
    simp [Lacks]
  rw [hmap, hmap, h]

/-- Without a line of its slot there is nothing to replace. -/
theorem replaceValue_of_lacks {w : Write} {lines : List Line} (h : Lacks w.slot lines) :
    replaceValue w.slot.1 w.slot.2 w.value lines = none := by
  induction lines with
  | nil => rfl
  | cons line rest ih =>
    have hline : line.value? w.slot.1 w.slot.2 = none :=
      value?_eq_none_iff.2 (h line List.mem_cons_self)
    unfold replaceValue
    rw [hline]
    dsimp only
    rw [ih fun l hl => h l (List.mem_cons_of_mem line hl)]
    rfl

/-- Where there is a line of its slot, a value is replaced, and the lines that follow the part of
this line stay. -/
theorem exists_replaceValue {w : Write} {front : List Line} (h : ¬Lacks w.slot front)
    (back : List Line) :
    ∃ front', replaceValue w.slot.1 w.slot.2 w.value (front ++ back) = some (front' ++ back) ∧
      Replaced [w] front front' := by
  induction front with
  | nil => exact absurd (fun _ hline => by cases hline) h
  | cons line rest ih =>
    rw [List.cons_append]
    unfold replaceValue
    rcases hvalue : line.value? w.slot.1 w.slot.2 with _ | old
    · -- The line is of another slot, so the value is replaced further down.
      have hslot := value?_eq_none_iff.1 hvalue
      have hrest : ¬Lacks w.slot rest := fun hlacks => h (List.forall_mem_cons.2 ⟨hslot, hlacks⟩)
      obtain ⟨rest', hreplace, hreplaced⟩ := ih hrest
      refine ⟨line :: rest', by rw [hreplace]; rfl, ?_, fun n => ?_⟩
      · rw [List.map_cons, hreplaced.slots_eq, List.map_cons]
      · cases n with
        | zero => exact .inl rfl
        | succ n =>
          rcases hreplaced.line_eq n with heq | ⟨w', hw', hfirst, heq⟩
          · exact .inl (by simpa using heq)
          · obtain rfl := List.mem_singleton.1 hw'
            refine .inr ⟨w', List.mem_singleton_self w', ?_, by simpa using heq⟩
            rw [List.findIdx?_cons, if_neg (by simpa using hslot), hfirst]
            rfl
    · have hslot : line.slot? = some w.slot := by
        by_contra hne
        rw [value?_eq_none_iff.2 hne] at hvalue
        cases hvalue
      refine ⟨(if old = w.value then line else w.line) :: rest, rfl, ?_, fun n => ?_⟩
      · rw [List.map_cons, List.map_cons]
        split
        · rfl
        · rw [w.slot?_line, hslot]
      · cases n with
        | zero =>
          by_cases hold : old = w.value
          · refine .inl ?_
            rw [if_pos hold, List.getElem?_cons_zero]
          · refine .inr ⟨w, List.mem_singleton_self w, ?_, by rw [if_neg hold]; rfl⟩
            rw [List.findIdx?_cons, if_pos (by simpa using hslot)]
        | succ n => exact .inl rfl

namespace Replaced

variable {writes : List Write} {lines lines' lines'' : List Line}

/-- Lines are themselves. -/
theorem refl (writes : List Write) (lines : List Line) : Replaced writes lines lines :=
  ⟨rfl, fun _ => .inl rfl⟩

/-- One more value may replace a line. -/
theorem concat {w : Write} (h : Replaced writes lines lines') (h' : Replaced [w] lines' lines'') :
    Replaced (writes ++ [w]) lines lines'' := by
  refine ⟨h'.slots_eq.trans h.slots_eq, fun n => ?_⟩
  -- The first line of a slot is at the same place before and after.
  have hfirst : lines'.findIdx? (fun line => line.slot? = some w.slot) =
      lines.findIdx? (fun line => line.slot? = some w.slot) := by
    have hmap : ∀ ls : List Line, ls.findIdx? (fun line => line.slot? = some w.slot) =
        (ls.map Line.slot?).findIdx? (· = some w.slot) := by
      intro ls
      rw [List.findIdx?_map]
      rfl
    rw [hmap, hmap, h.slots_eq]
  rcases h'.line_eq n with heq | ⟨w', hw', hat, heq⟩
  · rcases h.line_eq n with heq' | ⟨w', hw', hat, heq'⟩
    · exact .inl (heq.trans heq')
    · exact .inr ⟨w', List.mem_append_left [w] hw', hat, heq.trans heq'⟩
  · obtain rfl := List.mem_singleton.1 hw'
    exact .inr ⟨w', List.mem_append_right writes hw', hfirst ▸ hat, heq⟩

/-- More values than replaced a line may have done so. -/
theorem append (h : Replaced writes lines lines') (more : List Write) :
    Replaced (writes ++ more) lines lines' :=
  ⟨h.slots_eq, fun n => (h.line_eq n).imp_right fun ⟨w, hw, hat, heq⟩ =>
    ⟨w, List.mem_append_left more hw, hat, heq⟩⟩

end Replaced

/-! ## The place for new keys -/

/-- The lines before the longest end of lines that pass a test end with one that does not, and the
end is made of lines that do. -/
theorem exists_split (skip : Line → Bool) (lines : List Line) :
    ∃ front back, lines = front ++ back ∧ (∀ line ∈ back, skip line = true) ∧
      ∀ line, front.getLast? = some line → skip line = false := by
  refine ⟨(lines.reverse.dropWhile skip).reverse, (lines.reverse.takeWhile skip).reverse, ?_,
    fun line hline => ?_, fun line hline => ?_⟩
  · rw [← List.reverse_append, List.takeWhile_append_dropWhile, List.reverse_reverse]
  · exact List.mem_takeWhile_imp (List.mem_reverse.1 hline)
  · rw [List.getLast?_reverse] at hline
    have hhead := List.head?_dropWhile_not skip lines.reverse
    rw [hline] at hhead
    simpa using hhead

/-- A line goes between the parts of the longest end of lines that pass a test. -/
theorem insertBeforeEnd_append {skip : Line → Bool} {front back : List Line}
    (hback : ∀ line ∈ back, skip line = true)
    (hfront : ∀ line, front.getLast? = some line → skip line = false) (line : Line) :
    insertBeforeEnd skip line (front ++ back) = front ++ line :: back := by
  have hpass : ∀ l ∈ back.reverse, skip l = true := fun l hl => hback l (List.mem_reverse.1 hl)
  have hstop : front.reverse.takeWhile skip = [] ∧
      front.reverse.dropWhile skip = front.reverse := by
    rcases List.eq_nil_or_concat front with rfl | ⟨before, last, rfl⟩
    · exact ⟨rfl, rfl⟩
    · have hlast := hfront last (by simp)
      simp [hlast]
  unfold insertBeforeEnd
  rw [List.reverse_append, List.dropWhile_append_of_pos hpass,
    List.takeWhile_append_of_pos hpass, hstop.1, hstop.2]
  simp

/-- There is a place for new keys. -/
theorem exists_isPlaceForKeys (lines : List Line) :
    ∃ front back, lines = front ++ back ∧ IsPlaceForKeys front back := by
  by_cases hkeys : lines.any Line.isEntry = true
  · obtain ⟨front, back, hlines, hback, hfront⟩ := exists_split (fun l => !l.isEntry) lines
    have hkeyless : ∀ line ∈ back, line.isEntry = false := fun line hline => by
      simpa using hback line hline
    refine ⟨front, back, hlines, hkeyless, .inl ?_⟩
    -- Some line has a key, and it is not in the second part.
    rcases List.eq_nil_or_concat front with rfl | ⟨before, last, rfl⟩
    · obtain ⟨line, hline, hkey⟩ := List.any_eq_true.1 hkeys
      rw [hlines] at hline
      rw [hkeyless line hline] at hkey
      cases hkey
    · exact ⟨last, by simp, by simpa using hfront last (by simp)⟩
  · obtain ⟨front, back, hlines, hback, hfront⟩ := exists_split Line.isBlank lines
    have hkeyless : ∀ line ∈ front ++ back, line.isEntry = false := by
      rw [← hlines]
      simpa using hkeys
    exact ⟨front, back, hlines, fun line hline => hkeyless line (List.mem_append_right _ hline),
      .inr ⟨fun line hline => hkeyless line (List.mem_append_left _ hline), hback, hfront⟩⟩

/-- A new key goes to its place. -/
theorem IsPlaceForKeys.addLine_append {front back : List Line} (h : IsPlaceForKeys front back)
    (line : Line) : addLine line (front ++ back) = front ++ line :: back := by
  unfold addLine
  rcases h.front_ends with ⟨last, hlast, hkey⟩ | ⟨hfront, hblank, hlast⟩
  · rw [if_pos]
    · refine insertBeforeEnd_append (fun l hl => by simp [h.isEntry_back l hl])
        (fun l hl => ?_) line
      obtain rfl := Option.some.inj (hlast.symm.trans hl)
      simp [hkey]
    · exact List.any_eq_true.2 ⟨last, List.mem_append_left _ (List.mem_of_getLast? hlast), hkey⟩
  · rw [if_neg]
    · exact insertBeforeEnd_append hblank hlast line
    · simp only [List.any_eq_true, not_exists, not_and, Bool.not_eq_true]
      exact List.forall_mem_append.2 ⟨hfront, h.isEntry_back⟩

/-- The place for new keys stays the same when keys were added there or lines replaced before it. -/
theorem IsPlaceForKeys.after {front front' back : List Line} (h : IsPlaceForKeys front back)
    {writes : List Write} (hreplaced : Replaced writes front front') (added : List Write) :
    IsPlaceForKeys (front' ++ added.map Write.line) back := by
  refine ⟨h.isEntry_back, ?_⟩
  rcases List.eq_nil_or_concat added with rfl | ⟨before, last, rfl⟩
  · rw [List.map_nil, List.append_nil]
    -- Whether a line has a key can be told from its slot, and no line without a key was replaced.
    have hslot : ∀ line : Line, line.isEntry = line.slot?.isSome := by
      intro line
      cases line <;> rfl
    have hlength : front'.length = front.length := by
      simpa using congrArg List.length hreplaced.slots_eq
    rcases h.front_ends with ⟨last, hlast, hkey⟩ | ⟨hfront, hblank, hlast⟩
    · refine .inl ?_
      have hslots := congrArg List.getLast? hreplaced.slots_eq
      rw [List.getLast?_map, List.getLast?_map, hlast] at hslots
      obtain ⟨last', hlast', heq⟩ := Option.map_eq_some_iff.1 hslots
      exact ⟨last', hlast', by rw [hslot, heq, ← hslot, hkey]⟩
    · refine .inr ?_
      obtain rfl : front' = front := by
        refine List.ext_getElem? fun n => ?_
        rcases hreplaced.line_eq n with heq | ⟨w, -, hat, -⟩
        · exact heq
        · obtain ⟨hn, hfirst, -⟩ := List.findIdx?_eq_some_iff_getElem.1 hat
          exact absurd (by simpa using hfirst)
            (lacks_of_isEntry hfront w.slot front[n] (List.getElem_mem hn))
      exact ⟨hfront, hblank, hlast⟩
  · exact .inl ⟨last.line, by simp, rfl⟩

/-! ## Several values -/

/-- The slots of values after others still need their lines. -/
theorem newLines_concat (writes : List Write) (w : Write) (lines : List Line) :
    newLines (writes ++ [w]) lines =
      newLines writes lines ++ if Lacks w.slot lines then [w.line] else [] := by
  unfold newLines
  rw [List.filter_append, List.map_append]
  by_cases hlacks : Lacks w.slot lines
  · rw [if_pos hlacks, List.filter_cons_of_pos (by simpa using hlacks)]
    rfl
  · rw [if_neg hlacks, List.filter_cons_of_neg (by simpa using hlacks)]
    rfl

/-- The lines of values are of the slots of the values. -/
theorem lacks_newLines {writes : List Write} {slot : Slot}
    (h : slot ∉ writes.map Write.slot) (lines : List Line) :
    Lacks slot (newLines writes lines) := by
  intro line hline
  obtain ⟨w, hw, rfl⟩ := List.mem_map.1 hline
  rw [w.slot?_line]
  intro heq
  exact h (List.mem_map.2 ⟨w, List.mem_of_mem_filter hw, Option.some.inj heq⟩)

/-- Values for different slots overwrite the lines of a group. -/
theorem linesOverwritten_storeAllIn {writes : List Write} (h : (writes.map Write.slot).Nodup)
    (lines : List Line) : LinesOverwritten writes lines (storeAllIn writes lines) := by
  obtain ⟨front, back, rfl, hplace⟩ := exists_isPlaceForKeys lines
  -- The parts of the lines stay the same from one value to the next.
  refine ⟨front, back, ?_⟩
  suffices hparts : ∃ front', Replaced writes front front' ∧ storeAllIn writes (front ++ back) =
      front' ++ newLines writes (front ++ back) ++ back by
    obtain ⟨front', hreplaced, heq⟩ := hparts
    exact ⟨front', rfl, hplace, hreplaced, heq⟩
  induction writes using List.reverseRecOn with
  | nil => exact ⟨front, .refl [] front, by simp [storeAllIn, newLines]⟩
  | append_singleton writes w ih =>
    rw [List.map_append, List.map_singleton] at h
    have hnodup := (List.nodup_append.1 h).1
    have hnew : w.slot ∉ writes.map Write.slot := fun hmem =>
      (List.nodup_append.1 h).2.2 _ hmem _ (List.mem_singleton_self _) rfl
    obtain ⟨front', hreplaced, heq⟩ := ih hnodup
    have hstep : storeAllIn (writes ++ [w]) (front ++ back) =
        storeIn w.slot.1 w.slot.2 w.value (storeAllIn writes (front ++ back)) := by
      unfold storeAllIn
      rw [List.foldl_append]
      rfl
    have hback := lacks_of_isEntry hplace.isEntry_back w.slot
    rw [hstep, heq, newLines_concat]
    unfold storeIn
    by_cases hlacks : Lacks w.slot front
    · -- No line is of the slot, so the value gets one at the place for new keys.
      have hlacks' : Lacks w.slot (front' ++ newLines writes (front ++ back) ++ back) :=
        lacks_append.2 ⟨lacks_append.2 ⟨(lacks_congr hreplaced.slots_eq w.slot).2 hlacks,
          lacks_newLines hnew _⟩, hback⟩
      have hplace' := hplace.after hreplaced (writes.filter fun w => Lacks w.slot (front ++ back))
      refine ⟨front', hreplaced.append [w], ?_⟩
      rw [replaceValue_of_lacks hlacks', if_pos (lacks_append.2 ⟨hlacks, hback⟩)]
      dsimp only
      rw [show Line.entry (.plain w.slot.1 w.slot.2 w.value) = w.line from rfl, newLines,
        hplace'.addLine_append]
      simp
    · -- The first line of the slot gives way.
      have hlacks' : ¬Lacks w.slot front' := fun hlacks' =>
        hlacks ((lacks_congr hreplaced.slots_eq w.slot).1 hlacks')
      obtain ⟨front'', hreplace, hreplaced'⟩ :=
        exists_replaceValue hlacks' (newLines writes (front ++ back) ++ back)
      refine ⟨front'', hreplaced.concat hreplaced', ?_⟩
      rw [List.append_assoc, hreplace, if_neg fun hboth => hlacks (lacks_append.1 hboth).1]
      simp

/-- A change concerns the first group of its name. -/
theorem changeGroup_append {name : String} {before : List Group} {g : Group} (hg : g.name = name)
    (hfirst : ∀ g ∈ before, g.name ≠ name) (f : Group → Group) (after : List Group) :
    changeGroup name f (before ++ g :: after) = before ++ f g :: after := by
  induction before with
  | nil => exact if_pos hg
  | cons first rest ih =>
    rw [List.cons_append, changeGroup, if_neg (hfirst first List.mem_cons_self),
      ih fun g' hg' => hfirst g' (List.mem_cons_of_mem first hg')]
    rfl

/-- A group that is found under a name is the first one of this name. -/
theorem exists_groups_of_group? {preamble : List String} {groups : List Group} {name : String}
    {g : Group} (h : group? ⟨preamble, groups⟩ name = some g) :
    ∃ before after, groups = before ++ g :: after ∧ g.name = name ∧
      ∀ g' ∈ before, g'.name ≠ name := by
  obtain ⟨hname, before, after, hgroups, hfirst⟩ := List.find?_eq_some_iff_append.1 h
  exact ⟨before, after, hgroups, by simpa using hname, by simpa using hfirst⟩

/-- A value is stored in the first main group, and all else stays. -/
theorem store_of_groups (key : String) (locale? : Option String) (value : String)
    (preamble : List String) {before : List Group} {main : Group} (hmain : main.name = mainGroup)
    (hfirst : ∀ g ∈ before, g.name ≠ mainGroup) (after : List Group) :
    store ⟨preamble, before ++ main :: after⟩ key locale? value = ⟨preamble, before ++
      { main with lines := storeIn key locale? value main.lines } :: after⟩ := by
  have hhas : hasGroup ⟨preamble, before ++ main :: after⟩ mainGroup = true := by
    simp [hasGroup, group?, hmain]
  unfold store withMainGroup
  rw [if_pos hhas]
  dsimp only
  rw [changeGroup_append hmain hfirst]

/-- Values are stored in the main group, and all else stays. -/
theorem storeAll_of_groups (writes : List Write) (preamble : List String) {before : List Group}
    {main : Group} (hmain : main.name = mainGroup) (hfirst : ∀ g ∈ before, g.name ≠ mainGroup)
    (after : List Group) :
    storeAll writes ⟨preamble, before ++ main :: after⟩ =
      ⟨preamble, before ++ { main with lines := storeAllIn writes main.lines } :: after⟩ := by
  induction writes generalizing main with
  | nil => rfl
  | cons w rest ih =>
    rw [storeAll, List.foldl_cons, store_of_groups _ _ _ _ hmain hfirst]
    have hmain' :
        ({ main with lines := storeIn w.slot.1 w.slot.2 w.value main.lines } : Group).name =
          mainGroup := hmain
    exact ih hmain'

/-- A new main group takes the lines of all values, before its blank line. -/
theorem storeAllIn_separator {writes : List Write} (h : (writes.map Write.slot).Nodup)
    (groups : List Group) :
    storeAllIn writes (separator groups) = writes.map Write.line ++ separator groups := by
  have hblank : ∀ line ∈ separator groups, line.isEntry = false ∧ line.isBlank = true := by
    intro line hline
    unfold separator at hline
    split at hline
    · cases hline
    · obtain rfl := List.mem_singleton.1 hline
      exact ⟨rfl, rfl⟩
  obtain ⟨front, back, front', hlines, hplace, hreplaced, hafter⟩ :=
    linesOverwritten_storeAllIn h (separator groups)
  -- Nothing stands before the place for new keys, as every line is blank.
  obtain rfl : front = [] := by
    rcases List.eq_nil_or_concat front with hnil | ⟨before, last, rfl⟩
    · exact hnil
    · have hmem : last ∈ separator groups := by
        rw [hlines]
        simp
      rcases hplace.front_ends with ⟨line, hline, hkey⟩ | ⟨-, -, hend⟩
      · obtain rfl : last = line := by simpa using hline
        rw [(hblank last hmem).1] at hkey
        cases hkey
      · have hfull := hend last (by simp)
        rw [(hblank last hmem).2] at hfull
        cases hfull
  obtain rfl : front' = [] := List.map_eq_nil_iff.1 hreplaced.slots_eq
  have hnew : newLines writes (separator groups) = writes.map Write.line := by
    have hlacks : ∀ slot, Lacks slot (separator groups) :=
      lacks_of_isEntry fun line hline => (hblank line hline).1
    unfold newLines
    rw [List.filter_eq_self.2 fun w _ => by simpa using hlacks w.slot]
  rw [hafter, hnew, hlines]
  rfl

/-- Values for different slots overwrite a document. -/
theorem overwritten_storeAll {writes : List Write} (h : (writes.map Write.slot).Nodup)
    (d : Document) : Overwritten writes d (d.storeAll writes) := by
  obtain ⟨preamble, groups⟩ := d
  rcases hgroup : hasGroup ⟨preamble, groups⟩ mainGroup with _ | _
  · rcases hwrites : writes with _ | ⟨w, rest⟩
    · exact .nothing _ rfl
    · -- The first value makes the main group, and all values are stored there.
      have hwith : withMainGroup ⟨preamble, groups⟩ = ⟨preamble,
          ⟨mainGroup, "[" ++ mainGroup ++ "]", separator groups⟩ :: groups⟩ := by
        unfold withMainGroup
        rw [hgroup]
        rfl
      have hmade : storeAll (w :: rest) ⟨preamble, groups⟩ = storeAll (w :: rest) ⟨preamble,
          ⟨mainGroup, "[" ++ mainGroup ++ "]", separator groups⟩ :: groups⟩ := by
        unfold storeAll
        rw [List.foldl_cons, List.foldl_cons]
        unfold store
        rw [hwith]
        rfl
      have hname : (⟨mainGroup, "[" ++ mainGroup ++ "]", separator groups⟩ : Group).name =
          mainGroup := rfl
      have hfirst : ∀ g ∈ ([] : List Group), g.name ≠ mainGroup := fun g hg => by cases hg
      have hall := storeAll_of_groups (w :: rest) preamble hname hfirst groups
      rw [List.nil_append] at hall
      rw [hmade, hall, storeAllIn_separator (hwrites ▸ h)]
      exact .inFront ⟨preamble, groups⟩ hgroup
  · obtain ⟨main, hmain⟩ := Option.isSome_iff_exists.1 hgroup
    obtain ⟨before, after, rfl, hname, hfirst⟩ := exists_groups_of_group? hmain
    rw [storeAll_of_groups writes preamble hname hfirst after]
    exact .inPlace preamble before main after _ hname hfirst
      (linesOverwritten_storeAllIn h main.lines)

/-! ## A value that is there already -/

/-- A value that its key has already leaves the lines of a group. -/
theorem storeIn_self {key : String} {locale? : Option String} {value : String} {lines : List Line}
    (h : valueIn key locale? lines = some value) : storeIn key locale? value lines = lines := by
  have hreplace : replaceValue key locale? value lines = some lines := by
    induction lines with
    | nil => cases h
    | cons line rest ih =>
      rw [valueIn_cons] at h
      unfold replaceValue
      rcases hvalue : line.value? key locale? with _ | old
      · rw [hvalue, Option.none_or] at h
        dsimp only
        rw [ih h]
        rfl
      · rw [hvalue] at h
        dsimp only
        rw [if_pos (Option.some.inj h)]
  unfold storeIn
  rw [hreplace]

/-- A value that its key has already leaves the document. -/
theorem store_self {d : Document} {key : String} {locale? : Option String} {value : String}
    (h : d.rawValue? key locale? = some value) : d.store key locale? value = d := by
  obtain ⟨preamble, groups⟩ := d
  obtain ⟨main, hmain, hvalue⟩ := Option.bind_eq_some_iff.1 h
  obtain ⟨before, after, rfl, hname, hfirst⟩ := exists_groups_of_group? hmain
  rw [store_of_groups key locale? value preamble hname hfirst, storeIn_self hvalue]

end Document

/-! ## The values of a launcher -/

namespace Entry

open Document (Write SameAt)

/-- The values under which a text is stored for a locale. Everybody else gets it too when a document
has no text for them, or an empty one. -/
def textWrites (d : Document) (key : String) (locale? : Option Locale) (text : String) :
    List Write :=
  match locale? with
  | none => [⟨(key, none), Document.escape text⟩]
  | some l =>
    ⟨(key, some l.suffix), Document.escape text⟩ ::
      if ((d.text? key).getD "").isEmpty then [⟨(key, none), Document.escape text⟩] else []

/-- The values under which a field is stored in a document. -/
def fieldWrites (e : Entry) (d : Document) (locale? : Option Locale) : Field → List Write
  | .hidden => [⟨(Document.Key.hidden, none), if e.hidden then "true" else "false"⟩]
  | .name => textWrites d Document.Key.name locale? (e.name?.getD "")
  | .comment => textWrites d Document.Key.comment locale? (e.comment?.getD "")
  | .exec => [⟨(Document.Key.exec, none), Document.escape (e.exec?.getD "")⟩]
  | .delay => [⟨(Document.Key.delay, none), toString e.delay⟩]

/-- The values under which the changed fields are stored in a document, in order. -/
def writes (e : Entry) (d : Document) (locale? : Option Locale) : List Write :=
  e.dirty.toList.flatMap (e.fieldWrites d locale?)

variable {e : Entry} {d d' : Document} {locale? : Option Locale}

/-- A text is stored for a locale under its values. -/
theorem storeLocal_eq (d : Document) (key : String) (locale? : Option Locale)
    (value? : Option String) :
    storeLocal d key locale? value? = d.storeAll (textWrites d key locale? (value?.getD "")) := by
  unfold storeLocal Document.fillUntranslated
  rw [Document.localText?_setLocalText]
  dsimp only
  cases locale? with
  | none =>
    -- What would be filled in is the text that was just stored.
    have hraw : (d.setText key (value?.getD "")).rawValue? key none =
        some (Document.escape (value?.getD "")) := by
      unfold Document.setText
      rw [Document.rawValue?_store, if_pos ⟨rfl, rfl⟩]
    have hagain : (d.setText key (value?.getD "")).setText key (value?.getD "") =
        d.setText key (value?.getD "") := Document.store_self hraw
    split
    · exact hagain
    · rfl
  | some l =>
    have hsame : (d.setLocalText key (some l) (value?.getD "")).text? key = d.text? key := by
      unfold Document.text? Document.setLocalText
      rw [Document.rawValue?_store, if_neg (by simp)]
    unfold textWrites
    rw [hsame]
    dsimp only
    split
    · rfl
    · rfl

/-- A field is stored under its values. -/
theorem storeField_eq (e : Entry) (d : Document) (locale? : Option Locale) (f : Field) :
    e.storeField locale? d f = d.storeAll (e.fieldWrites d locale? f) := by
  cases f with
  | hidden => rfl
  | name => exact storeLocal_eq d _ locale? e.name?
  | comment => exact storeLocal_eq d _ locale? e.comment?
  | exec => rfl
  | delay => rfl

/-- The values of a field depend on those of its key only. -/
theorem fieldWrites_congr (e : Entry) (locale? : Option Locale) {f : Field}
    (h : SameAt d d' f.key) : e.fieldWrites d locale? f = e.fieldWrites d' locale? f := by
  have htext : ∀ key text, SameAt d d' key →
      textWrites d key locale? text = textWrites d' key locale? text := by
    intro key text hkey
    unfold textWrites
    rw [hkey.text?_eq]
  cases f with
  | hidden => rfl
  | name => exact htext _ _ h
  | comment => exact htext _ _ h
  | exec => rfl
  | delay => rfl

/-- Fields are stored under the values that each has for the document at the start. -/
theorem foldl_storeField_eq {fields : List Field} (h : fields.Nodup) (e : Entry) (d : Document)
    (locale? : Option Locale) :
    fields.foldl (e.storeField locale?) d =
      d.storeAll (fields.flatMap (e.fieldWrites d locale?)) := by
  induction fields generalizing d with
  | nil => rfl
  | cons f rest ih =>
    obtain ⟨hnew, hrest⟩ := List.nodup_cons.1 h
    -- The fields that follow have other keys, so the first one does not change their values.
    have hsame : rest.flatMap (e.fieldWrites (e.storeField locale? d f) locale?) =
        rest.flatMap (e.fieldWrites d locale?) := by
      refine List.flatMap_congr fun g hg => e.fieldWrites_congr locale? ?_
      exact sameAt_storeField e locale? d f (Field.key_ne (ne_of_mem_of_not_mem hg hnew))
    rw [List.foldl_cons, ih hrest, hsame, storeField_eq, List.flatMap_cons]
    unfold Document.storeAll
    rw [List.foldl_append]

/-- A merge stores the values of the changed fields. -/
theorem mergeInto_eq_storeAll (e : Entry) (d : Document) (locale? : Option Locale) :
    e.mergeInto d locale? = d.storeAll (e.writes d locale?) :=
  foldl_storeField_eq (List.Nodup.filter _ (by decide)) e d locale?

/-- The values of a field are for slots of its key, each for another one. -/
theorem fieldWrites_spec (e : Entry) (d : Document) (locale? : Option Locale) (f : Field) :
    (∀ w ∈ e.fieldWrites d locale? f, w.slot.1 = f.key) ∧
      ((e.fieldWrites d locale? f).map Write.slot).Nodup := by
  have htext : ∀ key text, (∀ w ∈ textWrites d key locale? text, w.slot.1 = key) ∧
      ((textWrites d key locale? text).map Write.slot).Nodup := by
    intro key text
    unfold textWrites
    cases locale? with
    | none => simp
    | some l =>
      dsimp only
      split
      · simp
      · simp
  cases f with
  | hidden => simp [fieldWrites, Field.key]
  | name => exact htext _ _
  | comment => exact htext _ _
  | exec => simp [fieldWrites, Field.key]
  | delay => simp [fieldWrites, Field.key]

/-- A merge stores every value in a slot of its own. -/
theorem nodup_writes (e : Entry) (d : Document) (locale? : Option Locale) :
    ((e.writes d locale?).map Write.slot).Nodup := by
  unfold writes
  rw [List.map_flatMap]
  refine List.nodup_flatMap.2 ⟨fun f _ => (e.fieldWrites_spec d locale? f).2, ?_⟩
  have hfields : e.dirty.toList.Nodup := List.Nodup.filter _ (by decide)
  refine hfields.imp fun {f g} hne slot hf hg => ?_
  obtain ⟨w, hw, rfl⟩ := List.mem_map.1 hf
  obtain ⟨w', hw', heq⟩ := List.mem_map.1 hg
  have hkey := (e.fieldWrites_spec d locale? f).1 w hw
  rw [← heq, (e.fieldWrites_spec d locale? g).1 w' hw'] at hkey
  exact Field.key_ne hne hkey.symm

/-- A merge changes the lines of a document for the values of the changed fields only. -/
theorem overwritten_mergeInto (e : Entry) (d : Document) (locale? : Option Locale) :
    Document.Overwritten (e.writes d locale?) d (e.mergeInto d locale?) := by
  rw [mergeInto_eq_storeAll]
  exact Document.overwritten_storeAll (e.nodup_writes d locale?) d

end Entry

end Autostart
