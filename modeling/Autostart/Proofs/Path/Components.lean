import Autostart.Proofs.Text.Splitting
import Autostart.Path

/-!
# Paths by their components

The components of a path that is joined from a directory and a path that starts with a plain name
are those of both, and the parent of a path with a file name has all components but that name. So
the parent of a path joined from a directory and a file name is the directory, component for
component.
-/

namespace Autostart.Path

/-- Whether a text can be the last plain component of a path. -/
def IsFileName (name : String) : Prop :=
  isPlainName name = true ∧ Component.ofSegment? name.toList = some (.name name)

/-- The component that the first text of a path stands for, if the path is not empty. -/
def firstComponent? : List Char → Option Component
  | [] => some .root
  | ['.'] => some .current
  | cs => Component.ofSegment? cs

/-- The components of a path that is not empty, given the texts between its slashes. -/
def componentsFrom : List (List Char) → List Component
  | [] => []
  | first :: rest => (firstComponent? first).toList ++ rest.filterMap Component.ofSegment?

/-- Only the empty path has other components than those of a path that is not empty. -/
theorem componentsOfSegments_eq {segments : List (List Char)} (h : segments ≠ [[]]) :
    componentsOfSegments segments = componentsFrom segments := by
  rcases segments with _ | ⟨first, rest⟩
  · rfl
  · unfold componentsOfSegments componentsFrom firstComponent?
    split
    · exact absurd (by assumption) h
    · simp_all
    · simp_all
    · simp_all [List.filterMap_cons]
      cases Component.ofSegment? first <;> rfl

/-- Further texts add their components to those of a path that is not empty. -/
theorem componentsFrom_append {segments : List (List Char)} (h : segments ≠ [])
    (more : List (List Char)) :
    componentsFrom (segments ++ more) =
      componentsFrom segments ++ more.filterMap Component.ofSegment? := by
  rcases segments with _ | ⟨first, rest⟩
  · exact absurd rfl h
  · simp [componentsFrom]

/-- One more text that stands for a component adds this component, after texts of a path that is
not empty. -/
theorem componentsFrom_concat {segments : List (List Char)} {segment : List Char} {c : Component}
    (hsegment : Component.ofSegment? segment = some c) (h : segments ≠ []) :
    componentsFrom (segments ++ [segment]) = componentsFrom segments ++ [c] := by
  rw [componentsFrom_append h, List.filterMap_cons_some hsegment, List.filterMap_nil]

/-- A text that stands for nothing adds no component. -/
theorem componentsFrom_concat_nothing {segments : List (List Char)} {segment : List Char}
    (hsegment : Component.ofSegment? segment = none) (h : segments ≠ []) :
    componentsFrom (segments ++ [segment]) = componentsFrom segments := by
  rw [componentsFrom_append h, List.filterMap_cons_none hsegment, List.filterMap_nil,
    List.append_nil]

/-- The name of a file has no slash. -/
theorem IsFileName.slash_notMem {name : String} (h : IsFileName name) : '/' ∉ name.toList := by
  have hplain := h.1
  unfold isPlainName at hplain
  simpa using hplain

/-- A text that stands for a component at all stands for the same one at the start of a path. -/
theorem firstComponent?_of_ofSegment? {segment : List Char} {c : Component}
    (h : Component.ofSegment? segment = some c) : firstComponent? segment = some c := by
  unfold firstComponent?
  split
  · cases h
  · cases h
  · exact h

/-- A first text that stands for a plain name stands for it wherever it comes in a path. -/
theorem ofSegment?_of_firstComponent? {segment : List Char} {name : String}
    (h : firstComponent? segment = some (.name name)) :
    Component.ofSegment? segment = some (.name name) := by
  unfold firstComponent? at h
  split at h
  · cases h
  · cases h
  · exact h

/-- The first text of a path stands for a component. -/
theorem firstComponent?_ne_none (segment : List Char) : firstComponent? segment ≠ none := by
  unfold firstComponent?
  split
  · exact Option.some_ne_none _
  · exact Option.some_ne_none _
  · unfold Component.ofSegment?
    split <;> simp_all

section Join

variable {rest : String} {first : List Char} {others : List (List Char)} {c : Component}
  (hrest : Chars.splitAll '/' rest.toList = first :: others)
  (hfirst : Component.ofSegment? first = some c)
include hrest hfirst

/-- A path whose first text stands for a component wherever it comes has the components of its
texts. -/
theorem components_of_first :
    (Path.mk rest).components = (first :: others).filterMap Component.ofSegment? := by
  have hne : first :: others ≠ [[]] := by
    intro hempty
    obtain ⟨rfl, -⟩ := List.cons.inj hempty
    cases hfirst
  unfold components
  rw [hrest, componentsOfSegments_eq hne, componentsFrom, firstComponent?_of_ofSegment? hfirst,
    List.filterMap_cons_some hfirst]
  rfl

/-- The texts of a directory and of such a path after it add up to the components of both. -/
theorem componentsOfSegments_append {segments : List (List Char)} (h : segments ≠ []) :
    componentsOfSegments (segments ++ first :: others) =
      componentsFrom segments ++ (Path.mk rest).components := by
  have hne : segments ++ first :: others ≠ [[]] := by
    intro hempty
    rcases List.append_eq_singleton_iff.1 hempty with ⟨hnil, -⟩ | ⟨-, hnil⟩
    · exact h hnil
    · cases hnil
  rw [componentsOfSegments_eq hne, componentsFrom_append h, components_of_first hrest hfirst]

/-- The components of a path joined from a directory and such a path are those of both. -/
theorem components_join_of_first (dir : Path) :
    (dir.join rest).components = dir.components ++ (Path.mk rest).components := by
  have hhead : rest.toList.head? ≠ some '/' := by
    intro hslash
    obtain ⟨cs, hcs⟩ := List.head?_eq_some_iff.1 hslash
    rw [hcs, Chars.splitAll, if_pos rfl] at hrest
    obtain ⟨rfl, -⟩ := List.cons.inj hrest
    cases hfirst
  unfold join
  rw [if_neg hhead]
  split
  · -- The empty path has no components, and adds no text.
    next hempty =>
    have htext : dir.text = "" := by simpa using hempty
    have hdir : dir.components = [] := by
      simp [components, htext, Chars.splitAll, componentsOfSegments]
    rw [hdir, List.nil_append]
  · next hempty =>
    have htext : dir.text.toList ≠ [] := by simpa using hempty
    split
    · -- The directory ends with a slash, after which its text has an empty last piece.
      next hlast =>
      obtain ⟨before, hbefore⟩ := List.getLast?_eq_some_iff.1 hlast
      have hdir : Chars.splitAll '/' dir.text.toList = Chars.splitAll '/' before ++ [[]] := by
        rw [hbefore, Chars.splitAll_append_cons]
        rfl
      have hjoin : Chars.splitAll '/' (dir.text ++ rest).toList =
          Chars.splitAll '/' before ++ first :: others := by
        rw [String.toList_append, hbefore, List.append_assoc, List.singleton_append,
          Chars.splitAll_append_cons, hrest]
      have hpiece := Chars.splitAll_ne_nil '/' before
      rw [components, components, hdir, hjoin, componentsOfSegments_append hrest hfirst hpiece,
        componentsOfSegments_eq (by simpa using hpiece), componentsFrom_concat_nothing rfl hpiece]
    · -- Otherwise the slash between them ends the last piece of the directory.
      next hlast =>
      have hjoin : Chars.splitAll '/' (dir.text ++ "/" ++ rest).toList =
          Chars.splitAll '/' dir.text.toList ++ first :: others := by
        rw [String.toList_append, String.toList_append, List.append_assoc]
        show Chars.splitAll '/' (dir.text.toList ++ '/' :: rest.toList) = _
        rw [Chars.splitAll_append_cons, hrest]
      rw [components, components, hjoin,
        componentsOfSegments_append hrest hfirst (Chars.splitAll_ne_nil '/' dir.text.toList),
        componentsOfSegments_eq (Chars.splitAll_ne_singleton_nil '/' htext)]

end Join

/-- The components of a path joined from a directory and a path that starts with a plain name are
those of both. -/
theorem components_join_of_name (dir : Path) {rest name : String} {more : List Component}
    (h : (Path.mk rest).components = .name name :: more) :
    (dir.join rest).components = dir.components ++ .name name :: more := by
  obtain ⟨first, others, hrest⟩ :=
    List.exists_cons_of_ne_nil (Chars.splitAll_ne_nil '/' rest.toList)
  have hfirst : Component.ofSegment? first = some (.name name) := by
    have hcomponents := h
    unfold components at hcomponents
    rw [hrest] at hcomponents
    by_cases hempty : first :: others = [[]]
    · rw [hempty] at hcomponents
      cases hcomponents
    · rw [componentsOfSegments_eq hempty, componentsFrom] at hcomponents
      obtain ⟨c, hc⟩ := Option.ne_none_iff_exists'.1 (firstComponent?_ne_none first)
      rw [hc] at hcomponents
      obtain ⟨rfl, -⟩ := List.cons.inj hcomponents
      exact ofSegment?_of_firstComponent? hc
  rw [components_join_of_first hrest hfirst dir, h]

/-- The name of a file is a path of one component. -/
theorem IsFileName.components_eq {name : String} (h : IsFileName name) :
    (Path.mk name).components = [.name name] := by
  rw [components_of_first (Chars.splitAll_of_notMem h.slash_notMem) h.2,
    List.filterMap_cons_some h.2, List.filterMap_nil]

/-- The components of a path joined from a directory and a file name are those of the directory and
the name. -/
theorem components_join (dir : Path) {name : String} (h : IsFileName name) :
    (dir.join name).components = dir.components ++ [.name name] :=
  components_join_of_name dir h.components_eq

/-- The file name of a path joined from a directory and a path of one plain name is this name. -/
theorem fileName?_join_of_name (dir : Path) {rest name : String}
    (h : (Path.mk rest).components = [.name name]) : (dir.join rest).fileName? = some name := by
  rw [fileName?, components_join_of_name dir h, List.getLast?_concat]

/-- The file name of a path joined from a directory and a file name is this name. -/
theorem fileName?_join (dir : Path) {name : String} (h : IsFileName name) :
    (dir.join name).fileName? = some name :=
  fileName?_join_of_name dir h.components_eq

/-! ## Parents -/

/-- Trimming keeps the components of a path that is not empty. -/
theorem componentsFrom_trimSegments (reversed : List (List Char)) :
    componentsFrom (trimSegments reversed).reverse = componentsFrom reversed.reverse := by
  fun_induction trimSegments reversed with
  | case1 last before rest hnothing ih =>
    have hnone : Component.ofSegment? last = none := by simpa using hnothing
    rw [ih, List.reverse_cons (a := last),
      componentsFrom_concat_nothing hnone (by simp)]
  | case2 => rfl
  | case3 => rfl

/-- Trimming leaves at least one text. -/
theorem trimSegments_ne_nil {reversed : List (List Char)} (h : reversed ≠ []) :
    trimSegments reversed ≠ [] := by
  fun_induction trimSegments reversed with
  | case1 last before rest hnothing ih => exact ih (by simp)
  | case2 => simp
  | case3 => exact h

/-- After trimming the last text stands for a component, unless it is the first one too. -/
theorem exists_of_trimSegments {reversed : List (List Char)} {last before : List Char}
    {rest : List (List Char)} (h : trimSegments reversed = last :: before :: rest) :
    ∃ c, Component.ofSegment? last = some c := by
  fun_induction trimSegments reversed with
  | case1 last' before' rest' hnothing ih => exact ih h
  | case2 last' before' rest' hsome =>
    obtain ⟨rfl, -⟩ := List.cons.inj h
    exact Option.ne_none_iff_exists'.1 (by simpa using hsome)
  | case3 segments hshort => exact absurd h (hshort last before rest)

/-- Trimming keeps texts of the path. -/
theorem mem_of_mem_trimSegments {reversed : List (List Char)} {segment : List Char}
    (h : segment ∈ trimSegments reversed) : segment ∈ reversed := by
  fun_induction trimSegments reversed with
  | case1 last before rest hnothing ih => exact List.mem_cons_of_mem last (ih h)
  | case2 => exact h
  | case3 => exact h

/-- The path with the given texts between its slashes has their components, when they are not only
one empty text. -/
theorem components_intercalate {segments : List (List Char)} (hslash : ∀ s ∈ segments, '/' ∉ s)
    (hne : segments ≠ []) (hempty : segments ≠ [[]]) :
    components ⟨String.ofList (['/'].intercalate segments)⟩ = componentsFrom segments := by
  unfold components
  rw [String.toList_ofList, Chars.splitAll_intercalate hslash hne, componentsOfSegments_eq hempty]

/-- The directory that the texts before the last one of a path lead to has their components. -/
theorem components_of_trimmed (parent : Path) {before : List (List Char)}
    (hslash : ∀ s ∈ before, '/' ∉ s) (hne : before ≠ [])
    (h : (match trimSegments before with
      | [[]] => some ⟨"/"⟩
      | segments => some ⟨String.ofList (['/'].intercalate segments.reverse)⟩) = some parent) :
    parent.components = componentsFrom before.reverse := by
  rw [← componentsFrom_trimSegments before]
  split at h
  · next htrim =>
    obtain rfl : Path.mk "/" = parent := by simpa using h
    rw [htrim]
    rfl
  · next hroot =>
    have hmem : ∀ s ∈ (trimSegments before).reverse, '/' ∉ s := fun s hs =>
      hslash s (mem_of_mem_trimSegments (List.mem_reverse.1 hs))
    have htrim := trimSegments_ne_nil hne
    obtain rfl := Option.some.inj h
    refine components_intercalate hmem (by simpa using htrim) fun hempty => ?_
    exact hroot (by simpa using congrArg List.reverse hempty)

/-- A path with a parent has one component more than it. -/
theorem exists_components_eq_of_parent? {p parent : Path} (h : p.parent? = some parent) :
    ∃ c, p.components = parent.components ++ [c] := by
  unfold parent? at h
  unfold components
  have hslash : ∀ s ∈ Chars.splitAll '/' p.text.toList, '/' ∉ s := fun s hs =>
    Chars.notMem_of_mem_splitAll hs
  have hne := Chars.splitAll_ne_nil '/' p.text.toList
  generalize Chars.splitAll '/' p.text.toList = segments at h hslash hne
  -- The empty path has no parent, so the components are those after trimming.
  have hempty : segments ≠ [[]] := by
    rintro rfl
    cases h
  rw [componentsOfSegments_eq hempty, ← List.reverse_reverse segments,
    ← componentsFrom_trimSegments]
  rcases htrim : trimSegments segments.reverse with _ | ⟨last, _ | ⟨before, rest⟩⟩
  · exact absurd htrim (trimSegments_ne_nil (by simpa using hne))
  · -- Only one text is left, and it is not the empty one of the root.
    rw [htrim] at h
    rcases last with _ | ⟨x, xs⟩
    · cases h
    · obtain rfl : Path.mk "" = parent := by simpa using h
      show ∃ c, (firstComponent? (x :: xs)).toList ++ [] = [c]
      obtain ⟨c, hc⟩ := Option.ne_none_iff_exists'.1 (firstComponent?_ne_none (x :: xs))
      exact ⟨c, by rw [hc]; rfl⟩
  · obtain ⟨c, hc⟩ := exists_of_trimSegments htrim
    rw [htrim] at h
    have hmem : ∀ s ∈ before :: rest, '/' ∉ s := fun s hs =>
      hslash s (List.mem_reverse.1
        (mem_of_mem_trimSegments (htrim ▸ List.mem_cons_of_mem last hs)))
    refine ⟨c, ?_⟩
    rw [List.reverse_cons, componentsFrom_concat hc (by simp),
      ← components_of_trimmed parent hmem (by simp) (by cases last <;> exact h)]
    rfl

/-- A path with a parent and a file name has the components of both. -/
theorem components_eq_of_parent? {p parent : Path} {name : String}
    (hparent : p.parent? = some parent) (hname : p.fileName? = some name) :
    p.components = parent.components ++ [.name name] := by
  obtain ⟨c, hc⟩ := exists_components_eq_of_parent? hparent
  unfold fileName? at hname
  rw [hc, List.getLast?_concat] at hname
  cases c with
  | name s =>
    obtain rfl : s = name := by simpa using hname
    exact hc
  | root => cases hname
  | current => cases hname
  | parent => cases hname

/-- A text that stands for a plain name is this name. -/
theorem eq_of_ofSegment?_eq_name {segment : List Char} {name : String}
    (h : Component.ofSegment? segment = some (.name name)) : segment = name.toList := by
  unfold Component.ofSegment? at h
  split at h
  · cases h
  · cases h
  · cases h
  · obtain rfl : String.ofList segment = name := by simpa using h
    rw [String.toList_ofList]

/-- A plain name among the components of a path is one of the texts between its slashes. -/
theorem isFileName_of_mem_components {p : Path} {name : String}
    (h : Component.name name ∈ p.components) : IsFileName name := by
  -- A name is never what the first text becomes only because it is the first.
  have hmem : ∃ segment ∈ Chars.splitAll '/' p.text.toList,
      Component.ofSegment? segment = some (.name name) := by
    unfold components at h
    generalize Chars.splitAll '/' p.text.toList = segments at h ⊢
    by_cases hempty : segments = [[]]
    · rw [hempty] at h
      cases h
    · rw [componentsOfSegments_eq hempty] at h
      rcases segments with _ | ⟨first, rest⟩
      · cases h
      · rcases List.mem_append.1 h with h | h
        · have hfirst : firstComponent? first = some (.name name) := by simpa using h
          exact ⟨first, List.mem_cons_self, ofSegment?_of_firstComponent? hfirst⟩
        · obtain ⟨segment, hsegment, hname⟩ := List.mem_filterMap.1 h
          exact ⟨segment, List.mem_cons_of_mem first hsegment, hname⟩
  obtain ⟨segment, hsegment, hname⟩ := hmem
  obtain rfl := eq_of_ofSegment?_eq_name hname
  refine ⟨?_, hname⟩
  have hslash := Chars.notMem_of_mem_splitAll hsegment
  unfold isPlainName
  simpa using hslash

/-- The file name of a path is the name of a file. -/
theorem isFileName_of_fileName? {p : Path} {name : String} (h : p.fileName? = some name) :
    IsFileName name := by
  unfold fileName? at h
  split at h
  · next s hs =>
    obtain rfl : s = name := by simpa using h
    exact isFileName_of_mem_components (List.mem_of_getLast? hs)
  · cases h

/-- A path with a file name has a parent. -/
theorem exists_parent?_of_fileName? {p : Path} {name : String} (h : p.fileName? = some name) :
    ∃ parent, p.parent? = some parent := by
  have hroot : trimSegments (Chars.splitAll '/' p.text.toList).reverse ≠ [[]] := by
    intro htrim
    have hcomponents := componentsFrom_trimSegments (Chars.splitAll '/' p.text.toList).reverse
    rw [htrim, List.reverse_reverse] at hcomponents
    unfold fileName? components at h
    by_cases hempty : Chars.splitAll '/' p.text.toList = [[]]
    · rw [hempty] at h
      cases h
    · rw [componentsOfSegments_eq hempty, ← hcomponents] at h
      cases h
  unfold parent?
  split
  · next htrim =>
    have hne := Chars.splitAll_ne_nil '/' p.text.toList
    exact absurd htrim (trimSegments_ne_nil (by simpa using hne))
  · next htrim => exact absurd htrim hroot
  · exact ⟨_, rfl⟩
  · split <;> exact ⟨_, rfl⟩

/-- A path that is joined from a directory and a file name has the text of the directory at the
start. -/
theorem exists_text_join (dir : Path) {name : String} (h : IsFileName name) :
    ∃ rest, (dir.join name).text = dir.text ++ rest := by
  have hhead : name.toList.head? ≠ some '/' := fun e => h.slash_notMem (List.mem_of_mem_head? e)
  unfold join
  rw [if_neg hhead]
  split
  · next hempty =>
    have htext : dir.text = "" := by simpa using hempty
    exact ⟨name, by rw [htext, String.empty_append]⟩
  · split
    · exact ⟨name, rfl⟩
    · exact ⟨"/" ++ name, String.append_assoc⟩

/-- Two paths are the same when they have the same components. -/
theorem same_iff (p q : Path) : p.same q = true ↔ p.components = q.components := by
  simp [same]

/-- A path with the components of one joined from a directory and a file name has this name. -/
theorem fileName?_of_same {p dir : Path} {name : String} (h : IsFileName name)
    (hsame : p.same (dir.join name) = true) : p.fileName? = some name := by
  have hcomponents : p.components = (dir.join name).components := (same_iff _ _).1 hsame
  rw [fileName?, hcomponents]
  exact fileName?_join dir h

/-- A path joined from a directory and a path of one plain name has a parent, which is the directory,
component for component. -/
theorem exists_parent?_join (dir : Path) {rest name : String}
    (h : (Path.mk rest).components = [.name name]) :
    ∃ parent, (dir.join rest).parent? = some parent ∧ parent.components = dir.components := by
  have hname : (dir.join rest).fileName? = some name := fileName?_join_of_name dir h
  have hcomponents : (dir.join rest).components = dir.components ++ [.name name] :=
    components_join_of_name dir h
  obtain ⟨parent, hparent⟩ := exists_parent?_of_fileName? hname
  rw [components_eq_of_parent? hparent hname] at hcomponents
  exact ⟨parent, hparent, List.append_inj_left' hcomponents rfl⟩

end Autostart.Path
