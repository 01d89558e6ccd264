import Autostart.Proofs.FileStore.Locality

/-!
# Making the directory of a file

Before a file is written its directory is made, with all that is missing on the way. Nothing is made
where all of the way is there. Otherwise no path to a file in the directory led anywhere before, and
in a tree of files the new directory is empty: there is nothing to remove from it, before and after.
A path that goes up may pass a directory that was missing and come to files that were always there,
so all this is about paths that do not.
-/

namespace Autostart

/-- A path is straight when it never goes up. -/
def Path.IsStraight (p : Path) : Prop :=
  Path.Component.parent ∉ p.components

/-- Whether a path is straight can be decided. -/
instance (p : Path) : Decidable p.IsStraight :=
  inferInstanceAs (Decidable (_ ∉ _))

namespace FileStore

variable {fs fs' : FileStore} {p dir : Path} {name : String} {start l : Location}
  {steps : List Path.Step}

/-! ## Open directories -/

/-- Nothing is made at the end of steps that fail for another reason than a missing directory. -/
theorem makeChain_of_walk_eq_error {reversed : List Path.Step} {e : OsError}
    (hwalk : fs.walk start reversed.reverse = .error e) (he : e ≠ .notFound)
    (ending : Path.Ending) : fs.makeChain start reversed ending = (.error e, fs) := by
  have hmade : fs.makeDirectory start reversed.reverse ending = .error e := by
    unfold makeDirectory
    rw [hwalk]
    rfl
  have hnowhere : fs.isDirectoryFrom start reversed.reverse = false := by
    unfold isDirectoryFrom
    rw [hwalk]
  cases reversed with
  | nil => cases hwalk
  | cons last before =>
    unfold makeChain
    dsimp only
    rw [hmade, hnowhere]
    -- Only a missing directory makes the chain go on.
    cases e <;> first | exact absurd rfl he | rfl

/-- Making the directories of a path whose way is open changes nothing, and ends alike in all stores
that agree on the way. -/
theorem Opens.makeDirectories (h : fs.Opens dir) : ∃ outcome, ∀ fs', AgreeOnWay fs fs' dir →
    fs'.makeDirectories dir = (outcome, fs') := by
  unfold FileStore.makeDirectories
  by_cases hempty : dir.text.isEmpty = true
  · exact ⟨.ok (), fun fs' _ => if_pos hempty⟩
  · simp only [if_neg hempty]
    rcases hroute : routeOf dir with e | route
    · exact ⟨.error e, fun fs' _ => rfl⟩
    · have hpath := (routeOf_eq_ok_iff.1 hroute).2.2
      obtain ⟨hstart, hsteps⟩ := fs.route?_spec hpath
      have hway : ∀ before, before <+: route.steps →
          fs.node? (target (fs.start route) before) = some .directory := by
        intro before hbefore
        apply h
        exact ⟨before, hsteps ▸ hbefore, by rw [hstart]⟩
      rcases walk_through hway with hwalk | hwalk
      · have hend := hway route.steps (List.prefix_refl _)
        refine ⟨.ok (), fun fs' hagree => ?_⟩
        obtain ⟨hsame, hnode⟩ := hagree.walk hpath (List.prefix_refl _)
        refine makeChain_of_walk ?_ ((hnode _ hwalk).trans hend) _
        rw [List.reverse_reverse, hsame, hwalk]
      · refine ⟨.error .nameTooLong, fun fs' hagree => ?_⟩
        obtain ⟨hsame, -⟩ := hagree.walk hpath (List.prefix_refl _)
        refine makeChain_of_walk_eq_error ?_ (by decide) _
        rw [List.reverse_reverse, hsame, hwalk]

/-! ## Directories that are made -/

/-- A directory that was made stands at its place, or one stood there before. -/
theorem isDirectoryFrom_of_makeDirectory {ending : Path.Ending}
    (h : fs.makeDirectory start steps ending = .ok fs') :
    fs'.isDirectoryFrom start steps = true := by
  obtain ⟨loc, hwalk, hnone, rfl⟩ := exists_of_makeDirectory h
  have hroot : loc ≠ [] := by
    rintro rfl
    cases hnone
  have hkeeps : Keeps fs (fs.set loc .directory) loc := keeps_set (by simp [hnone]) _
  unfold isDirectoryFrom
  rw [hkeeps.walk hwalk]
  simp [node?_set_self hroot]

/-- When making a chain of directories succeeds, its steps lead to a directory. -/
theorem isDirectoryFrom_of_makeChain {reversed : List Path.Step} {ending : Path.Ending}
    (h : fs.makeChain start reversed ending = (.ok (), fs')) :
    fs'.isDirectoryFrom start reversed.reverse = true := by
  -- The chain ends with the attempt to make its last directory, which may be there already.
  have hthere : ∀ (fs₀ : FileStore) (e : OsError),
      ((if fs₀.isDirectoryFrom start reversed.reverse then .ok () else .error e :
        Except OsError Unit), fs₀) = (.ok (), fs') →
      fs'.isDirectoryFrom start reversed.reverse = true := by
    intro fs₀ e heq
    obtain ⟨houtcome, rfl⟩ := Prod.mk.inj heq
    split at houtcome
    · assumption
    · cases houtcome
  cases reversed with
  | nil =>
    unfold makeChain at h
    split at h
    · next hmade =>
      obtain ⟨-, rfl⟩ := Prod.mk.inj h
      exact isDirectoryFrom_of_makeDirectory hmade
    · exact hthere fs _ h
  | cons last before =>
    unfold makeChain at h
    dsimp only at h
    split at h
    · next hmade =>
      obtain ⟨-, rfl⟩ := Prod.mk.inj h
      exact isDirectoryFrom_of_makeDirectory hmade
    · split at h
      · cases (Prod.mk.inj h).1
      · split at h
        · next hmade =>
          obtain ⟨-, rfl⟩ := Prod.mk.inj h
          exact isDirectoryFrom_of_makeDirectory hmade
        · exact hthere _ _ h
    · exact hthere fs _ h

/-- When directories were made for a path, the path leads to its directory. -/
theorem stat_of_makeDirectories (h : fs.makeDirectories dir = (.ok (), fs')) (hne : fs' ≠ fs) :
    ∃ l, fs'.stat dir = .ok (l, .directory) := by
  have hworking : fs'.workingDirectory = fs.workingDirectory := by
    have htouches := touches_makeDirectories fs dir
    rw [h] at htouches
    exact htouches.workingDirectory_eq
  unfold makeDirectories at h
  split at h
  · exact absurd (Prod.mk.inj h).2.symm hne
  · split at h
    · cases (Prod.mk.inj h).1
    · next route hroute =>
      have hstart : fs'.start route = fs.start route := by
        unfold start
        rw [hworking]
      have hmade := isDirectoryFrom_of_makeChain h
      unfold isDirectoryFrom at hmade
      rw [List.reverse_reverse] at hmade
      split at hmade
      · next l hwalk =>
        refine ⟨l, stat_eq_ok_iff.2 ⟨route, hroute, ?_, of_decide_eq_true hmade, .inl rfl⟩⟩
        rw [hstart]
        exact hwalk
      · cases hmade

/-- A path that leads to a directory opens it. -/
theorem opens_of_stat (h : fs.stat dir = .ok (l, .directory)) : fs.Opens dir := by
  obtain ⟨route, hroute, hwalk, hnode, -⟩ := stat_eq_ok_iff.1 h
  obtain ⟨hstart, hsteps⟩ := fs.route?_spec (routeOf_eq_ok_iff.1 hroute).2.2
  refine opens_of_walk ?_ hnode
  rw [← hstart, ← hsteps]
  exact hwalk

/-! ## Straight paths -/

/-- Steps that do not go up lead below where they start. -/
theorem exists_target_of_straight (start : Location) (h : Path.Step.up ∉ steps) :
    ∃ names : Location, target start steps = start ++ names := by
  induction steps generalizing start with
  | nil => exact ⟨[], (List.append_nil start).symm⟩
  | cons step rest ih =>
    cases step with
    | up => exact absurd List.mem_cons_self h
    | into name =>
      obtain ⟨names, hnames⟩ := ih (start ++ [name]) fun hmem =>
        h (List.mem_cons_of_mem _ hmem)
      refine ⟨name :: names, ?_⟩
      rw [target, hnames, List.append_assoc]
      rfl

/-- The steps of a straight path do not go up. -/
theorem up_notMem_of_isStraight (h : p.IsStraight) :
    Path.Step.up ∉ p.components.filterMap Path.Component.step? := by
  intro hmem
  obtain ⟨c, hc, hstep⟩ := List.mem_filterMap.1 hmem
  cases c with
  | parent => exact h hc
  | root => cases hstep
  | current => cases hstep
  | name s => cases hstep

/-- Where the steps of a straight path pass is above its place, or is its place. -/
theorem prefix_locationOf_of_onWay (hdir : dir.IsStraight) (hway : fs.OnWay dir l) :
    l <+: fs.locationOf dir := by
  obtain ⟨before, ⟨rest, hrest⟩, rfl⟩ := hway
  have hup : Path.Step.up ∉ rest := by
    intro hmem
    refine up_notMem_of_isStraight hdir ?_
    rw [← hrest]
    exact List.mem_append_right before hmem
  obtain ⟨names, hnames⟩ :=
    exists_target_of_straight (target (fs.startOf dir.components) before) hup
  refine ⟨names, ?_⟩
  rw [locationOf_eq, ← hrest, target_append, hnames]

/-! ## Trees -/

/-- The files form a tree: what stands anywhere stands in a directory. -/
def IsTree (fs : FileStore) : Prop :=
  ∀ l name n, fs.node? (l ++ [name]) = some n → fs.node? l = some .directory

/-- The files form a tree when every place that holds something is in a directory. -/
theorem isTree_iff : fs.IsTree ↔ ∀ l ∈ fs.nodes.keys, fs.node? l.dropLast = some .directory := by
  constructor
  · intro h l hl
    rcases List.eq_nil_or_concat' l with rfl | ⟨before, name, rfl⟩
    · rfl
    · obtain ⟨n, hn⟩ := Option.isSome_iff_exists.1 (SortedMap.mem_keys_iff.1 hl)
      rw [List.dropLast_concat]
      refine h before name n ?_
      rw [node?_of_ne (by simp), hn]
  · intro h l name n hnode
    have hl : l ++ [name] ∈ fs.nodes.keys := by
      rw [node?_of_ne (by simp)] at hnode
      rw [SortedMap.mem_keys_iff, hnode]
      rfl
    simpa using h (l ++ [name]) hl

/-- Whether the files form a tree can be decided. -/
instance (fs : FileStore) : Decidable fs.IsTree :=
  decidable_of_iff _ isTree_iff.symm

/-- In a tree every place above another is a directory. -/
theorem IsTree.directory_of_append (h : fs.IsTree) {rest : Location} (hrest : rest ≠ []) {n : Node}
    (hnode : fs.node? (l ++ rest) = some n) : fs.node? l = some .directory := by
  induction rest generalizing l with
  | nil => exact absurd rfl hrest
  | cons name rest ih =>
    by_cases hlast : rest = []
    · subst hlast
      exact h l name n hnode
    · refine h l name .directory (ih hlast ?_)
      rw [List.append_assoc]
      exact hnode

/-- In a tree, steps that do not go up lead to whatever stands at their end, when they lead there in
any store. -/
theorem IsTree.walk (h : fs.IsTree) (hup : Path.Step.up ∉ steps)
    (hwalk : fs'.walk start steps = .ok l) {n : Node} (hnode : fs.node? l = some n) :
    fs.walk start steps = .ok l := by
  induction steps generalizing start with
  | nil => exact hwalk
  | cons step rest ih =>
    cases step with
    | up => exact absurd List.mem_cons_self hup
    | into name =>
      have hrest : Path.Step.up ∉ rest := fun hmem => hup (List.mem_cons_of_mem _ hmem)
      obtain ⟨-, hsize, hled⟩ := walk_cons_eq_ok_iff.1 hwalk
      -- What stands at the end is below the start, so this is a directory.
      have hstart : fs.node? start = some .directory := by
        obtain ⟨names, hnames⟩ := exists_target_of_straight (start ++ [name]) hrest
        have hend : target (start ++ [name]) rest = l := target_of_walk hled
        rw [hend, List.append_assoc] at hnames
        exact h.directory_of_append (by simp) (hnames ▸ hnode)
      exact walk_cons_eq_ok_iff.2 ⟨hstart, hsize, ih hrest hled⟩

/-- In a tree a straight path opens its directory when the directory is there. -/
theorem IsTree.opens (h : fs.IsTree) (hdir : dir.IsStraight)
    (hnode : fs.node? (fs.locationOf dir) = some .directory) : fs.Opens dir := by
  intro l hway
  obtain ⟨names, hnames⟩ := prefix_locationOf_of_onWay hdir hway
  rw [← hnames] at hnode
  by_cases hend : names = []
  · rw [hend, List.append_nil] at hnode
    exact hnode
  · exact h.directory_of_append hend hnode

/-! ## Files in a directory that is made -/

/-- In a tree, making directories leaves the files of straight paths alike. -/
theorem IsTree.alike_makeDirectories (h : fs.IsTree) (hp : p.IsStraight) (dir : Path) :
    fs.Alike (fs.makeDirectories dir).2 p := by
  have htouches := touches_makeDirectories fs dir
  have hleaves := htouches.leaves (q := p) id
  have hback : ∀ l c, (fs.makeDirectories dir).2.stat p = .ok (l, .file c) →
      fs.stat p = .ok (l, .file c) := by
    intro l c hstat
    obtain ⟨route, hroute, hwalk, hnode, hending⟩ := stat_eq_ok_iff.1 hstat
    have hnode' := (htouches.file_iff l c id).1 hnode
    have hstart : (fs.makeDirectories dir).2.start route = fs.start route := by
      unfold start
      rw [htouches.workingDirectory_eq]
    have hup : Path.Step.up ∉ route.steps := by
      rw [(fs.route?_spec (routeOf_eq_ok_iff.1 hroute).2.2).2]
      exact up_notMem_of_isStraight hp
    rw [hstart] at hwalk
    exact stat_eq_ok_iff.2 ⟨route, hroute, h.walk hup hwalk hnode', hnode', hending⟩
  refine ⟨⟨fun hfile => ?_, hleaves.isFile⟩, fun s => ⟨fun hread => ?_, hleaves.readText s⟩⟩
  · obtain ⟨l, c, hstat⟩ := FileStore.isFile_iff.1 hfile
    exact FileStore.isFile_iff.2 ⟨l, c, hback l c hstat⟩
  · obtain ⟨l, hstat⟩ := readText_eq_ok_iff.1 hread
    exact readText_eq_ok_iff.2 ⟨l, hback l _ hstat⟩

/-- A path that leads somewhere by a name has one that is not too long. -/
theorem size_of_stat {n : Node} (hp : p.components = dir.components ++ [.name name])
    (h : fs.stat p = .ok (l, n)) : ¬ maxNameBytes < name.utf8ByteSize := by
  obtain ⟨route, hroute, hwalk, -, -⟩ := stat_eq_ok_iff.1 h
  rw [(fs.route?_spec (routeOf_eq_ok_iff.1 hroute).2.2).2, hp, List.filterMap_append] at hwalk
  -- The last step is the one to the name.
  obtain ⟨led, -, hlast⟩ := walk_append_eq_ok_iff.1 hwalk
  exact of_decide_eq_false (walk_cons_eq_ok_iff.1 hlast).2.1

/-- Before a directory is made no path to a name in it leads anywhere, since something is missing on
the way. -/
theorem walk_eq_notFound (htouches : Touches fs fs' dir fun _ => False)
    (hstat : fs'.stat dir = .ok (l, .directory)) (hclosed : ¬ fs.Opens dir) (name : String) :
    fs.walk (fs.startOf dir.components)
      (dir.components.filterMap Path.Component.step? ++ [.into name]) = .error .notFound := by
  obtain ⟨route, hroute, hwalk, -, -⟩ := stat_eq_ok_iff.1 hstat
  obtain ⟨hstart, hsteps⟩ := fs'.route?_spec (routeOf_eq_ok_iff.1 hroute).2.2
  have hsame : fs'.startOf dir.components = fs.startOf dir.components := by
    unfold startOf
    rw [htouches.workingDirectory_eq]
  rw [hstart, hsteps, hsame] at hwalk
  have hway : ∀ before, before <+: dir.components.filterMap Path.Component.step? → ∀ c,
      fs.node? (target (fs.startOf dir.components) before) ≠ some (.file c) := by
    intro before hbefore c hfile
    have hdirectory := opens_of_stat hstat _ ⟨before, hbefore, rfl⟩
    rw [hsame, (htouches.file_iff _ c id).2 hfile] at hdirectory
    cases hdirectory
  rw [walk_append]
  rcases walk_of_no_file hwalk hway with hled | hmissing
  · -- Only the directory itself is missing.
    have hnone : fs.node? l = none := by
      rcases hnode : fs.node? l with _ | ⟨c⟩ | _
      · rfl
      · rw [← target_of_walk hled] at hnode
        exact absurd hnode (hway _ (List.prefix_refl _) c)
      · exact absurd (opens_of_walk hled hnode) hclosed
    have hlast : fs.walk l [.into name] = .error .notFound := by
      rw [walk_cons, hnone]
    rw [hled]
    exact hlast
  · rw [hmissing]
    rfl

/-- In a tree, a straight directory that had to be made is empty. -/
theorem IsTree.node?_made (h : fs.IsTree) (hdir : dir.IsStraight)
    (htouches : Touches fs fs' dir fun _ => False) (hclosed : ¬ fs.Opens dir)
    (hp : p.components = dir.components ++ [.name name]) :
    fs'.node? (fs.locationOf p) = none := by
  have hbefore : ∀ n, fs.node? (fs.locationOf p) ≠ some n := by
    intro n hnode
    rw [fs.locationOf_of_components hp] at hnode
    exact hclosed (h.opens hdir (h _ _ _ hnode))
  rcases hnode : fs'.node? (fs.locationOf p) with _ | ⟨c⟩ | _
  · rfl
  · exact absurd ((htouches.file_iff _ c id).1 hnode) (hbefore _)
  · -- The directories that were made are not below the last of them.
    rcases htouches.made _ hnode with hthere | hway
    · exact absurd hthere (hbefore _)
    · have hlength := (prefix_locationOf_of_onWay hdir hway).length_le
      rw [fs.locationOf_of_components hp, List.length_append, List.length_singleton] at hlength
      omega

/-- In a tree, a path to a short name in a straight directory that had to be made leads nowhere,
before and after, and for the same reason. -/
theorem IsTree.stat_made (h : fs.IsTree) (hdir : dir.IsStraight)
    (hmade : fs.makeDirectories dir = (.ok (), fs')) (hne : fs' ≠ fs)
    (hp : p.components = dir.components ++ [.name name])
    (hsize : ¬ maxNameBytes < name.utf8ByteSize) :
    ∃ e, fs.stat p = .error e ∧ fs'.stat p = .error e := by
  obtain ⟨made, hstat⟩ := stat_of_makeDirectories hmade hne
  have htouches : Touches fs fs' dir fun _ => False := by
    have htouches := touches_makeDirectories fs dir
    rw [hmade] at htouches
    exact htouches
  have hclosed : ¬ fs.Opens dir := by
    intro hopens
    obtain ⟨outcome, hsame⟩ := hopens.makeDirectories
    rw [hsame fs (.refl fs dir)] at hmade
    exact hne (Prod.mk.inj hmade).2.symm
  have hplace : fs.locationOf p = made ++ [name] := by
    rw [fs.locationOf_of_components hp, ← locationOf_congr htouches.workingDirectory_eq dir,
      locationOf_of_stat hstat]
  have hempty := h.node?_made hdir htouches hclosed hp
  unfold stat
  rcases hroute : routeOf p with e | route
  · exact ⟨e, rfl, rfl⟩
  · have hpath := (routeOf_eq_ok_iff.1 hroute).2.2
    obtain ⟨hstart, hsteps⟩ := fs.route?_spec hpath
    obtain ⟨hstart', -⟩ := fs'.route?_spec hpath
    have hconcat : route.steps =
        dir.components.filterMap Path.Component.step? ++ [.into name] := by
      rw [hsteps, hp, List.filterMap_append]
      rfl
    rw [hp, startOf_concat] at hstart hstart'
    have hbefore : fs.walk (fs.start route) route.steps = .error .notFound := by
      rw [hstart, hconcat]
      exact walk_eq_notFound htouches hstat hclosed name
    have hafter : fs'.walk (fs'.start route) route.steps = .ok (made ++ [name]) := by
      obtain ⟨dirRoute, hdirRoute, hwalk, hnode, -⟩ := stat_eq_ok_iff.1 hstat
      obtain ⟨hdirStart, hdirSteps⟩ := fs'.route?_spec (routeOf_eq_ok_iff.1 hdirRoute).2.2
      rw [hdirStart, hdirSteps] at hwalk
      rw [hstart', hconcat]
      exact walk_concat hwalk hnode hsize
    refine ⟨.notFound, ?_, ?_⟩
    · simp only [bind, Except.bind, hbefore]
    · simp only [bind, Except.bind, hafter, ← hplace, hempty]

end FileStore

end Autostart
