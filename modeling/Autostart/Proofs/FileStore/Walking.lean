import Autostart.FileStore.Lemmas

/-!
# Walks

Steps from a location are taken one after the other. What a single step needs is said once: it is
taken from a directory, and not to a name that is too long. Everything else about steps that lead
somewhere, or nowhere, follows from that by induction on the steps. The steps of a path are those of
its route.
-/

namespace Autostart.FileStore

variable {fs fs' : FileStore} {start l dir : Location} {step : Path.Step} {steps : List Path.Step}
  {name : String}

/-! ## One step -/

/-- Whether a step is to a name that no directory takes. -/
def isTooLong : Path.Step → Bool
  | .up => false
  | .into name => maxNameBytes < name.utf8ByteSize

/-- A step before others leads to where these start. -/
theorem target_cons (start : Location) (step : Path.Step) (rest : List Path.Step) :
    target start (step :: rest) = target (target start [step]) rest := by
  cases step <;> rfl

/-- A step is taken from a directory, and not to a name that is too long. -/
theorem walk_cons (fs : FileStore) (start : Location) (step : Path.Step) (rest : List Path.Step) :
    fs.walk start (step :: rest) =
      match fs.node? start with
      | none => .error .notFound
      | some (.file _) => .error .notDirectory
      | some .directory =>
        if isTooLong step then .error .nameTooLong else fs.walk (target start [step]) rest := by
  cases step <;> rcases hstart : fs.node? start with _ | ⟨c⟩ | _ <;>
    simp [walk, isTooLong, target, hstart]

/-- Steps lead somewhere when the first one can be taken and the others lead there. -/
theorem walk_cons_eq_ok_iff {rest : List Path.Step} :
    fs.walk start (step :: rest) = .ok l ↔ fs.node? start = some .directory ∧
      isTooLong step = false ∧ fs.walk (target start [step]) rest = .ok l := by
  rw [walk_cons]
  rcases fs.node? start with _ | ⟨c⟩ | _
  · simp
  · simp
  · cases isTooLong step <;> simp

/-! ## Steps after others -/

/-- Steps after others lead on from where these lead. -/
theorem target_append (start : Location) (before rest : List Path.Step) :
    target start (before ++ rest) = target (target start before) rest := by
  induction before generalizing start with
  | nil => rfl
  | cons step before ih => rw [List.cons_append, target_cons, ih, ← target_cons]

/-- A step to a name after others leads to the name in the place where they lead. -/
theorem target_concat (loc : Location) (steps : List Path.Step) (name : String) :
    target loc (steps ++ [.into name]) = target loc steps ++ [name] :=
  target_append loc steps [.into name]

/-- Steps after others are taken from where these lead. -/
theorem walk_append (fs : FileStore) (start : Location) (before rest : List Path.Step) :
    fs.walk start (before ++ rest) = fs.walk start before >>= fun l => fs.walk l rest := by
  induction before generalizing start with
  | nil => rfl
  | cons step before ih =>
    rw [List.cons_append, walk_cons, walk_cons]
    split
    · rfl
    · rfl
    · split
      · rfl
      · exact ih _

/-- Steps after others lead somewhere when they do so from where the others lead. -/
theorem walk_append_eq_ok_iff {before rest : List Path.Step} :
    fs.walk start (before ++ rest) = .ok l ↔
      ∃ led, fs.walk start before = .ok led ∧ fs.walk led rest = .ok l := by
  rw [walk_append, bind_eq_ok_iff]

/-- Steps to a name below a directory lead to the name in it. -/
theorem walk_concat (hwalk : fs.walk start steps = .ok dir) (hdir : fs.node? dir = some .directory)
    (hsize : ¬ maxNameBytes < name.utf8ByteSize) :
    fs.walk start (steps ++ [.into name]) = .ok (dir ++ [name]) :=
  walk_append_eq_ok_iff.2
    ⟨dir, hwalk, walk_cons_eq_ok_iff.2 ⟨hdir, decide_eq_false hsize, rfl⟩⟩

/-- Steps that end with a name lead to the name in a directory. -/
theorem exists_of_walk_concat (h : fs.walk start (steps ++ [.into name]) = .ok l) :
    ∃ dir, fs.walk start steps = .ok dir ∧ fs.node? dir = some .directory ∧ l = dir ++ [name] := by
  obtain ⟨dir, hwalk, hstep⟩ := walk_append_eq_ok_iff.1 h
  obtain ⟨hdir, -, hlast⟩ := walk_cons_eq_ok_iff.1 hstep
  exact ⟨dir, hwalk, hdir, (Except.ok.inj hlast).symm⟩

/-! ## Walks through directories -/

/-- Steps lead to the place where they lead when every directory on the way exists. -/
theorem target_of_walk (h : fs.walk start steps = .ok l) : target start steps = l := by
  induction steps generalizing start with
  | nil => exact Except.ok.inj h
  | cons step rest ih =>
    rw [target_cons]
    exact ih (walk_cons_eq_ok_iff.1 h).2.2

/-- Steps that lead to a place still lead there in a store with all the directories. -/
theorem walk_of_directories
    (h : ∀ l, fs.node? l = some .directory → fs'.node? l = some .directory)
    (hwalk : fs.walk start steps = .ok l) : fs'.walk start steps = .ok l := by
  induction steps generalizing start with
  | nil => exact hwalk
  | cons step rest ih =>
    obtain ⟨hstart, hsize, hrest⟩ := walk_cons_eq_ok_iff.1 hwalk
    exact walk_cons_eq_ok_iff.2 ⟨h start hstart, hsize, ih hrest⟩

/-- What holds wherever some steps pass holds wherever those after the first one pass. -/
theorem passes_tail {P : Location → Prop} {rest : List Path.Step}
    (h : ∀ before, before <+: step :: rest → P (target start before)) :
    ∀ before, before <+: rest → P (target (target start [step]) before) := by
  intro before hbefore
  rw [← target_cons]
  exact h (step :: before) (List.cons_prefix_cons.2 ⟨rfl, hbefore⟩)

/-- Steps lead to the same in stores that hold the same wherever the steps pass. -/
theorem walk_congr (h : ∀ before, before <+: steps →
    fs'.node? (target start before) = fs.node? (target start before)) :
    fs'.walk start steps = fs.walk start steps := by
  induction steps generalizing start with
  | nil => rfl
  | cons step rest ih =>
    have hstart : fs'.node? start = fs.node? start := h [] List.nil_prefix
    rw [walk_cons, walk_cons, hstart, ih (passes_tail (P := fun l => fs'.node? l = fs.node? l) h)]

/-- Steps that lead to a directory pass through directories. -/
theorem directory_of_walk (hwalk : fs.walk start steps = .ok l)
    (hnode : fs.node? l = some .directory) {before : List Path.Step} (hbefore : before <+: steps) :
    fs.node? (target start before) = some .directory := by
  obtain ⟨rest, rfl⟩ := hbefore
  obtain ⟨led, hled, hrest⟩ := walk_append_eq_ok_iff.1 hwalk
  rw [target_of_walk hled]
  cases rest with
  | nil =>
    obtain rfl : led = l := Except.ok.inj hrest
    exact hnode
  | cons step rest => exact (walk_cons_eq_ok_iff.1 hrest).1

/-- Steps through directories lead to their end, unless a name is too long. -/
theorem walk_through (h : ∀ before, before <+: steps → fs.node? (target start before) =
    some .directory) : fs.walk start steps = .ok (target start steps) ∨
      fs.walk start steps = .error .nameTooLong := by
  induction steps generalizing start with
  | nil => exact .inl rfl
  | cons step rest ih =>
    have hstart : fs.node? start = some .directory := h [] List.nil_prefix
    rw [walk_cons, hstart, target_cons start step rest]
    dsimp only
    split
    · exact .inr rfl
    · exact ih (passes_tail (P := fun l => fs.node? l = some .directory) h)

/-- Where no file stands in the way, steps that lead somewhere in another store lead there, or
something is missing. -/
theorem walk_of_no_file (hwalk : fs'.walk start steps = .ok l)
    (hway : ∀ before, before <+: steps → ∀ c, fs.node? (target start before) ≠ some (.file c)) :
    fs.walk start steps = .ok l ∨ fs.walk start steps = .error .notFound := by
  induction steps generalizing start with
  | nil => exact .inl hwalk
  | cons step rest ih =>
    obtain ⟨-, hsize, hrest⟩ := walk_cons_eq_ok_iff.1 hwalk
    rw [walk_cons]
    rcases hstart : fs.node? start with _ | ⟨c⟩ | _
    · exact .inr rfl
    · exact absurd hstart (hway [] List.nil_prefix c)
    · dsimp only
      rw [if_neg (by simp [hsize])]
      exact ih hrest (passes_tail (P := fun l => ∀ c, fs.node? l ≠ some (.file c)) hway)

/-! ## Routes -/

/-- A path has a route when it is a text that the system takes, and not empty. -/
theorem routeOf_eq_ok_iff {p : Path} {route : Path.Route} :
    routeOf p = .ok route ↔ p.text.toList.contains '\x00' = false ∧
      p.text.utf8ByteSize ≤ maxPathBytes ∧ p.route? = some route := by
  unfold routeOf
  rcases p.text.toList.contains '\x00' with _ | _
  · rw [if_neg Bool.false_ne_true]
    split
    · next hsize => simp [Nat.not_le.2 hsize]
    · next hsize =>
      split
      · next hroute => simp [hroute]
      · next found hfound => simp [hfound, Nat.not_lt.1 hsize]
  · simp

/-- Only the empty path has no route. -/
theorem exists_route? {p : Path} (h : p.text ≠ "") : ∃ route, p.route? = some route := by
  unfold Path.route?
  rw [if_neg (by simpa using h)]
  exact ⟨_, rfl⟩

/-- A route leads to the place of its path. -/
theorem locationOf_of_walk {p : Path} {route : Path.Route} (hroute : routeOf p = .ok route)
    (hwalk : fs.walk (fs.start route) route.steps = .ok l) : fs.locationOf p = l := by
  obtain ⟨-, -, hpath⟩ := routeOf_eq_ok_iff.1 hroute
  unfold locationOf
  rw [hpath]
  exact target_of_walk hwalk

/-- The steps to the directory of a route are steps of the route. -/
theorem prefix_stepsToDirectory (route : Path.Route) :
    stepsToDirectory route <+: route.steps := by
  unfold stepsToDirectory
  split
  · exact List.prefix_refl _
  · exact List.dropLast_prefix _

/-- A route that ends plainly with a name goes to its directory and then to the name. -/
theorem steps_of_plain {route : Path.Route} {name : String} (hending : route.ending = .plain)
    (hlast : route.steps.getLast? = some (.into name)) :
    route.steps = stepsToDirectory route ++ [.into name] := by
  unfold stepsToDirectory
  rw [hending, if_neg (by decide)]
  obtain ⟨before, hbefore⟩ := List.getLast?_eq_some_iff.1 hlast
  rw [hbefore, List.dropLast_concat]

end Autostart.FileStore
