import Autostart.Proofs.FileStore.Walking
import Autostart.Proofs.Path.Ranks

/-!
# Locations by components

The location of a path is found from its components. So the location of a file ends with the name of
the file, after the location of its directory, and files of different names have different
locations.
-/

namespace Autostart

namespace Path

/-- The step that a component stands for. The root and a dot at the start stand for none. -/
def Component.step? : Component → Option Step
  | .root | .current => none
  | .parent => some .up
  | .name s => some (.into s)

/-- A text between two slashes stands for the step of its component. -/
theorem Component.bind_step? (segment : List Char) :
    (Component.ofSegment? segment).bind Component.step? = Step.ofSegment? segment := by
  unfold Component.ofSegment? Step.ofSegment?
  split <;> simp_all [Component.step?]

/-- The texts between slashes stand for the steps of their components. -/
theorem filterMap_step?_ofSegment? (segments : List (List Char)) :
    (segments.filterMap Component.ofSegment?).filterMap Component.step? =
      segments.filterMap Step.ofSegment? := by
  rw [List.filterMap_filterMap, funext Component.bind_step?]

/-- The first text of a path stands for the step of its component. -/
theorem firstComponent?_bind_step? (segment : List Char) :
    (firstComponent? segment).bind Component.step? = Step.ofSegment? segment := by
  unfold firstComponent?
  split
  · rfl
  · rfl
  · exact Component.bind_step? segment

/-- The texts of a path that is not empty stand for the steps of its components. -/
theorem filterMap_step?_componentsFrom (segments : List (List Char)) :
    (componentsFrom segments).filterMap Component.step? =
      segments.filterMap Step.ofSegment? := by
  cases segments with
  | nil => rfl
  | cons first rest =>
    unfold componentsFrom
    rw [List.filterMap_append, filterMap_step?_ofSegment?, List.filterMap_cons,
      ← firstComponent?_bind_step? first]
    cases firstComponent? first with
    | none => rfl
    | some c => cases hstep : c.step? <;> simp [hstep]

/-- A text starts with a slash when the first of its pieces is empty and not the only one. -/
theorem head?_eq_slash_iff {cs : List Char} (h : cs ≠ []) :
    cs.head? = some '/' ↔ (Chars.splitAll '/' cs).head? = some [] := by
  cases cs with
  | nil => exact absurd rfl h
  | cons c rest =>
    unfold Chars.splitAll
    split
    · next hc => simp [hc]
    · next hc =>
      have hsplit := Chars.splitAll_ne_nil '/' rest
      split
      · next hnil => exact absurd hnil hsplit
      · simp [hc]

/-- A text between two slashes does not stand for the root. -/
theorem Component.ofSegment?_ne_root (segment : List Char) :
    Component.ofSegment? segment ≠ some .root := by
  unfold Component.ofSegment?
  split <;> simp

/-- Only an empty first text stands for the root. -/
theorem firstComponent?_eq_root_iff (segment : List Char) :
    firstComponent? segment = some .root ↔ segment = [] := by
  unfold firstComponent?
  split
  · simp
  · simp
  · next hne _ => exact iff_of_false (Component.ofSegment?_ne_root segment) hne

/-- A path starts with the root when its first text is empty. -/
theorem head?_componentsFrom_eq_root_iff (segments : List (List Char)) :
    (componentsFrom segments).head? = some .root ↔ segments.head? = some [] := by
  cases segments with
  | nil => simp [componentsFrom]
  | cons first rest =>
    show ((firstComponent? first).toList ++ rest.filterMap Component.ofSegment?).head? = _ ↔ _
    rw [List.head?_cons, Option.some.injEq, ← firstComponent?_eq_root_iff]
    cases firstComponent? first with
    | some c => simp
    | none =>
      -- The first component comes from a later text, which does not stand for the root.
      refine iff_of_false (fun hhead => ?_) (by simp)
      have hmem : Component.root ∈ rest.filterMap Component.ofSegment? :=
        List.mem_of_mem_head? (by simpa using hhead)
      obtain ⟨segment, -, hsegment⟩ := List.mem_filterMap.1 hmem
      exact Component.ofSegment?_ne_root segment hsegment

end Path

namespace FileStore

variable (fs : FileStore)

/-- Where a path with some components starts. -/
def startOf (components : List Path.Component) : Location :=
  if components.head? = some .root then [] else fs.workingDirectory

/-- A route starts where the components of its path say, and takes the steps that they stand
for. -/
theorem route?_spec {p : Path} {route : Path.Route} (h : p.route? = some route) :
    fs.start route = fs.startOf p.components ∧
      route.steps = p.components.filterMap Path.Component.step? := by
  unfold Path.route? at h
  split at h
  · cases h
  · next hempty =>
    obtain rfl := Option.some.inj h
    have hne : p.text.toList ≠ [] := by simpa using hempty
    have habsolute : p.isAbsolute = true ↔
        (Path.componentsFrom (Chars.splitAll '/' p.text.toList)).head? = some .root := by
      rw [Path.head?_componentsFrom_eq_root_iff, ← Path.head?_eq_slash_iff hne]
      unfold Path.isAbsolute
      exact beq_iff_eq
    unfold startOf Path.components
    rw [Path.componentsOfSegments_eq (Chars.splitAll_ne_singleton_nil '/' hne),
      Path.filterMap_step?_componentsFrom]
    simp only [start, habsolute, and_self]

/-- The location of a path is found from its components. -/
theorem locationOf_eq (p : Path) :
    fs.locationOf p =
      target (fs.startOf p.components) (p.components.filterMap Path.Component.step?) := by
  unfold locationOf
  split
  · next hnone =>
    -- Only the empty path has no route.
    have hempty : p.text = "" := by
      unfold Path.route? at hnone
      simpa using hnone
    simp [startOf, Path.components, hempty, Chars.splitAll, Path.componentsOfSegments, target]
  · next route hroute =>
    obtain ⟨hstart, hsteps⟩ := fs.route?_spec hroute
    rw [hstart, hsteps]

/-- A path in a directory starts where the directory does. -/
theorem startOf_concat (components : List Path.Component) (name : String) :
    fs.startOf (components ++ [.name name]) = fs.startOf components := by
  unfold startOf
  cases components with
  | nil => simp
  | cons c rest => rfl

/-- The location of a path in a directory is the name in the location of the directory. -/
theorem locationOf_of_components {p dir : Path} {name : String}
    (h : p.components = dir.components ++ [.name name]) :
    fs.locationOf p = fs.locationOf dir ++ [name] := by
  rw [locationOf_eq, locationOf_eq, h, startOf_concat, List.filterMap_append]
  exact target_concat _ _ name

/-- The location of a name joined to a directory is the name in the location of the directory. -/
theorem locationOf_join (dir : Path) {name : String} (hname : Path.IsFileName name) :
    fs.locationOf (dir.join name) = fs.locationOf dir ++ [name] :=
  fs.locationOf_of_components (Path.components_join dir hname)

/-- The location of a path that a rank places is the name in the location of its directory. -/
theorem locationOf_of_places {s : SearchPath} {rank : Nat} {name : String}
    (hname : Path.IsFileName name) {p : Path} (h : s.Places rank name p) :
    ∃ dir, s.directoryAt? rank = some dir ∧ fs.locationOf p = fs.locationOf dir ++ [name] := by
  obtain ⟨dir, hdir, hcomponents⟩ := h.components_eq hname
  exact ⟨dir, hdir, fs.locationOf_of_components hcomponents⟩

/-- Files of different names have different locations. -/
theorem locationOf_ne_of_places {s : SearchPath} {rank rank' : Nat} {name name' : String}
    (hname : Path.IsFileName name) (hname' : Path.IsFileName name') {p p' : Path}
    (h : s.Places rank name p) (h' : s.Places rank' name' p') (hne : name ≠ name') :
    fs.locationOf p ≠ fs.locationOf p' := by
  obtain ⟨dir, -, hp⟩ := fs.locationOf_of_places hname h
  obtain ⟨dir', -, hp'⟩ := fs.locationOf_of_places hname' h'
  rw [hp, hp']
  intro heq
  exact hne (List.append_singleton_inj.1 heq).2

/-- A search path is apart when none of its directories is that of the user under another
spelling. -/
def IsApart (s : SearchPath) : Prop :=
  ∀ dir ∈ s.directories, dir.same s.userDirectory = false →
    fs.locationOf dir ≠ fs.locationOf s.userDirectory

variable {fs}

/-- On a search path that is apart, a file that is not that of the user by its components has
another location. -/
theorem IsApart.locationOf_ne {s : SearchPath} (h : fs.IsApart s) {rank : Nat} {name : String}
    (hname : Path.IsFileName name) {p q : Path} (hp : s.Places rank name p)
    (hq : s.Places SearchPath.userRank name q) (hother : q.same p = false) :
    fs.locationOf p ≠ fs.locationOf q := by
  obtain ⟨dir, hdir, hpcomponents⟩ := hp.components_eq hname
  obtain ⟨user, huser, hqcomponents⟩ := hq.components_eq hname
  obtain rfl : s.userDirectory = user := Option.some.inj huser
  have hdirother : dir.same s.userDirectory = false := by
    rcases hsame : dir.same s.userDirectory with _ | _
    · rfl
    · have hcomponents : q.components = p.components := by
        rw [hpcomponents, hqcomponents, (Path.same_iff _ _).1 hsame]
      rw [(Path.same_iff q p).2 hcomponents] at hother
      cases hother
  rw [fs.locationOf_of_components hpcomponents, fs.locationOf_of_components hqcomponents]
  intro heq
  exact h dir (List.mem_of_getElem? hdir) hdirother (List.append_singleton_inj.1 heq).1

end FileStore

end Autostart
