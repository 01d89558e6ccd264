import Autostart.Proofs.Registry.Rescan
import Autostart.Proofs.Registry.SyncState
import Autostart.Proofs.Registry.Tidiness

/-!
# Reports and rescans

A registry that is told at once of every file that is made, changed or removed knows what a new
registry would find. The argument is about one file name at a time. Its launcher comes from the
copy of the lowest rank, and its shadow is the lowest rank of the system that holds a copy; a report
changes this lowest copy, the shadow, both or none, and each case is one branch of the code. Only
the path of the source may be spelled in another way, since a report spells it as it likes.
-/

namespace Autostart

/-- A launcher is the same as another but for the spelling of the path of its source. -/
def Entry.IsRespelling (e e' : Entry) : Prop :=
  e.source.same e'.source = true ∧ { e with source := e'.source } = e'

namespace Registry

/-! ## Current launchers -/

/-- What a registry should know of a file name whose copies can all be used: nothing when there is
no copy, and else the launcher of the lowest copy, under any spelling of its path, with the lowest
rank of the system as its shadow. -/
def Current (r : Registry) (name : String) : Option Entry → Prop
  | none => ∀ rank dir, ¬ r.Holds name rank dir
  | some e => ∃ rank dir path d shadow?, r.Holds name rank dir ∧ r.Reads (dir.join name) d ∧
      path.same (dir.join name) = true ∧ (∀ rank' dir', r.Holds name rank' dir' → rank ≤ rank') ∧
      e = { Entry.ofDocument name path d r.settings.locale? rank with shadow? } ∧
      Lowest (r.HeldInSystem name) shadow?

/-- What a scan merges from copies that can all be used is current. -/
theorem MergedFrom.current {r : Registry} {name : String} {known? : Option Entry}
    (h : MergedFrom r name (r.Holds name) known?) (husable : r.Usable) :
    Current r name known? := by
  rcases known? with _ | e
  · intro rank dir hheld
    obtain ⟨d, hreads⟩ := husable name rank dir hheld
    exact h rank dir d hheld hreads
  · have hshadow := h.lowest_shadow husable
    obtain ⟨rank, dir, d, shadow?, hheld, hreads, hleast, rfl, -⟩ := h
    refine ⟨rank, dir, dir.join name, d, shadow?, hheld, hreads, (Path.same_iff _ _).2 rfl,
      fun rank' dir' hheld' => ?_, rfl, hshadow⟩
    obtain ⟨d', hreads'⟩ := husable name rank' dir' hheld'
    exact hleast rank' dir' d' hheld' hreads'

namespace Current

variable {r r' : Registry} {name : String} {known? : Option Entry}

/-- What is current is what a new registry would know, but for the spelling of its source. -/
theorem isRespelling (h : Current r name known?) :
    Option.Rel Entry.IsRespelling known? (r.rescanned.find? name) := by
  rcases known? with _ | e
  · have hmerged : MergedFrom r name (r.Holds name) none := fun rank dir d hheld _ =>
      h rank dir hheld
    rw [hmerged.eq_rescanned]
    exact .none
  · obtain ⟨rank, dir, path, d, shadow?, hheld, hreads, hsame, hleast, rfl, hshadow⟩ := h
    have hmerged : MergedFrom r name (r.Holds name) (some
        { Entry.ofDocument name (dir.join name) d r.settings.locale? rank with shadow? }) := by
      refine ⟨rank, dir, d, shadow?, hheld, hreads,
        fun rank' dir' d' hheld' _ => hleast rank' dir' hheld', rfl, ?_⟩
      split
      · next hsystem =>
        -- The launcher is one of the system, so its own rank is the lowest of the system.
        have hown : Lowest (r.HeldInSystem name) (some rank) :=
          ⟨⟨hsystem, dir, hheld⟩, fun n ⟨_, dir', hheld'⟩ => hleast n dir' hheld'⟩
        exact hshadow.unique hown
      · exact hshadow
    rw [hmerged.eq_rescanned]
    exact .some ⟨hsame, rfl⟩

/-- Only the files and the settings say what is current. -/
theorem congr (h : Current r name known?) (hfiles : r'.files = r.files)
    (hsettings : r'.settings = r.settings) : Current r' name known? := by
  obtain ⟨settings, files, now, entries, observers⟩ := r
  obtain ⟨settings', files', now', entries', observers'⟩ := r'
  obtain rfl : settings' = settings := hsettings
  obtain rfl : files' = files := hfiles
  exact h

end Current

/-! ## Changes to one copy -/

/-- Between two stores no copy of a launcher on a search path differs but that of a name in the
directory of a rank. -/
def OnlyCopy (s : SearchPath) (rank : Nat) (name : String) (fs fs' : FileStore) : Prop :=
  ∀ rank' dir' name', s.directoryAt? rank' = some dir' → Path.IsFileName name' →
    rank' ≠ rank ∨ name' ≠ name → fs.Alike fs' (dir'.join name')

/-- When directories stand at different places, stores that differ in the file at one of them only
differ in one copy. -/
theorem onlyCopy_of_keeps {s : SearchPath} {fs fs' : FileStore}
    (hplaces : s.directories.Pairwise fun dir dir' => fs.locationOf dir ≠ fs.locationOf dir')
    {rank : Nat} {dir : Path} (hdir : s.directoryAt? rank = some dir) {name : String}
    (hname : Path.IsFileName name) (h : fs.Keeps fs' (fs.locationOf (dir.join name)))
    (h' : fs'.Keeps fs (fs.locationOf (dir.join name))) : OnlyCopy s rank name fs fs' := by
  intro rank' dir' name' hdir' hname' hother
  refine FileStore.alike_of_keeps h h' ?_
  rw [fs.locationOf_join dir hname, fs.locationOf_join dir' hname']
  intro heq
  obtain ⟨hplace, hsame⟩ := List.append_singleton_inj.1 heq
  have hrank : rank' ≠ rank := hother.resolve_right (not_not.2 hsame)
  rcases Nat.lt_or_gt_of_ne hrank with hbefore | hafter
  · exact SearchPath.rel_of_directoryAt? hplaces hbefore hdir' hdir hplace
  · exact SearchPath.rel_of_directoryAt? hplaces hafter hdir hdir' hplace.symm

/-- Going back from a change to one copy is a change to this copy. -/
theorem OnlyCopy.symm {s : SearchPath} {rank : Nat} {name : String} {fs fs' : FileStore}
    (h : OnlyCopy s rank name fs fs') : OnlyCopy s rank name fs' fs :=
  fun rank' dir' name' hdir hname hother => (h rank' dir' name' hdir hname hother).symm

/-- A registry sees the same copies of a name as another in the directories of all ranks but one. -/
structure SameBut (r r' : Registry) (name : String) (rank : Nat) : Prop where
  /-- The settings are the same. -/
  settings_eq : r'.settings = r.settings
  /-- The same directories hold the name. -/
  holds_iff : ∀ n dir, n ≠ rank → (r'.Holds name n dir ↔ r.Holds name n dir)
  /-- The copies read the same. -/
  reads_iff : ∀ n dir d, n ≠ rank → r.Holds name n dir →
    (r'.Reads (dir.join name) d ↔ r.Reads (dir.join name) d)

section Alike

variable {r r' : Registry} (hsettings : r'.settings = r.settings)
include hsettings

/-- Stores that differ in one copy hold the same other copies. -/
theorem OnlyCopy.holds_iff (hnonempty : ∀ dir ∈ r.searchPath.directories, dir.text ≠ "")
    {rank n : Nat} {name name' : String} (h : OnlyCopy r.searchPath rank name r.files r'.files)
    (hother : n ≠ rank ∨ name' ≠ name) (dir : Path) :
    r'.Holds name' n dir ↔ r.Holds name' n dir := by
  have hpath : r'.searchPath = r.searchPath := congrArg Settings.searchPath hsettings
  by_cases hdir : r.searchPath.directoryAt? n = some dir
  · have htext := hnonempty dir (List.mem_of_getElem? hdir)
    exact holds_iff_of_alike hsettings htext fun hname => h n dir name' hdir hname hother
  · exact iff_of_false (fun hheld => hdir (hpath ▸ hheld.1)) fun hheld => hdir hheld.1

/-- Stores that differ in one copy show the same copies of its name but for that one. -/
theorem OnlyCopy.sameBut (hnonempty : ∀ dir ∈ r.searchPath.directories, dir.text ≠ "")
    {rank : Nat} {name : String} (h : OnlyCopy r.searchPath rank name r.files r'.files) :
    SameBut r r' name rank := by
  refine ⟨hsettings, fun n dir hne => h.holds_iff hsettings hnonempty (.inl hne) dir,
    fun n dir d hne hheld => ?_⟩
  exact reads_iff_of_alike hsettings (h n dir name hheld.1 hheld.isFileName (.inl hne)) d

/-- Stores that differ in one copy leave what is current of every other name. -/
theorem Current.of_onlyCopy {name name' : String} {known? : Option Entry}
    (hcurrent : Current r name' known?)
    (hnonempty : ∀ dir ∈ r.searchPath.directories, dir.text ≠ "") {rank : Nat}
    (h : OnlyCopy r.searchPath rank name r.files r'.files) (hne : name' ≠ name) :
    Current r' name' known? := by
  have hholds : ∀ n dir, r'.Holds name' n dir ↔ r.Holds name' n dir := fun n dir =>
    h.holds_iff hsettings hnonempty (.inr hne) dir
  rcases known? with _ | e
  · exact fun n dir hheld => hcurrent n dir ((hholds n dir).1 hheld)
  · obtain ⟨n, dir, path, d, shadow?, hheld, hreads, hsame, hleast, rfl, hshadow⟩ := hcurrent
    have halike := h n dir name' hheld.1 hheld.isFileName (.inr hne)
    refine ⟨n, dir, path, d, shadow?, (hholds n dir).2 hheld,
      (reads_iff_of_alike hsettings halike d).2 hreads, hsame,
      fun n' dir' hheld' => hleast n' dir' ((hholds n' dir').1 hheld'), by rw [hsettings], ?_⟩
    refine hshadow.congr fun m => ?_
    unfold HeldInSystem
    simp only [hholds]

end Alike

/-! ## A copy that was made or changed -/

section Changed

variable {r r' : Registry} {name : String} {rank : Nat} {dir : Path}

/-- With one more copy in the system the ranks that hold the name are those before and its own. -/
theorem SameBut.heldInSystem_iff (h : SameBut r r' name rank) (hheld : r'.Holds name rank dir)
    (hsystem : SearchPath.userRank < rank) (n : Nat) :
    r'.HeldInSystem name n ↔ r.HeldInSystem name n ∨ n = rank := by
  unfold HeldInSystem
  by_cases hn : n = rank
  · exact iff_of_true (hn ▸ ⟨hsystem, dir, hheld⟩) (.inr hn)
  · simp only [h.holds_iff n _ hn, hn, or_false]

/-- A change in the directory of the user leaves the ranks of the system that hold the name. -/
theorem SameBut.heldInSystem_iff_of_user (h : SameBut r r' name rank)
    (huser : ¬ SearchPath.userRank < rank) (n : Nat) :
    r'.HeldInSystem name n ↔ r.HeldInSystem name n := by
  unfold HeldInSystem
  refine and_congr_right fun hn => ?_
  have hne : n ≠ rank := fun heq => huser (heq ▸ hn)
  simp only [h.holds_iff n _ hne]

/-- A launcher that was made from a copy below all others is current. -/
theorem SameBut.current_made (h : SameBut r r' name rank) (hheld : r'.Holds name rank dir)
    {path : Path} {d : Document} (hreads : r'.Reads (dir.join name) d)
    (hsame : path.same (dir.join name) = true)
    (hlowest : ∀ n p, r.Holds name n p → rank ≤ n)
    (hshadow : Lowest (r.HeldInSystem name) ((r'.find? name).bind Entry.shadow?)) :
    Current r' name (some (r'.made path name rank d)) := by
  have hlowest' : ∀ n p, r'.Holds name n p → rank ≤ n := by
    intro n p hheld'
    by_cases hn : n = rank
    · exact Nat.le_of_eq hn.symm
    · exact hlowest n p ((h.holds_iff n p hn).1 hheld')
  refine ⟨rank, dir, path, d, _, hheld, hreads, hsame, hlowest', rfl, ?_⟩
  split
  · next hsystem => exact ⟨⟨hsystem, dir, hheld⟩, fun n ⟨_, p, hheld'⟩ => hlowest' n p hheld'⟩
  · next huser => exact hshadow.congr fun n => (h.heldInSystem_iff_of_user huser n).symm

/-- Taking account of a copy that was made or changed makes the launcher of its name current. -/
theorem SameBut.current_loadEntry (h : SameBut r r' name rank)
    (hcurrent : Current r name (r'.find? name)) (hheld : r'.Holds name rank dir) {path : Path}
    {d : Document} (hreads : r'.Reads (dir.join name) d) (hpath : r'.Reads path d)
    (hsame : path.same (dir.join name) = true) :
    Current r' name ((r'.loadEntry path name rank).2.find? name) := by
  unfold loadEntry
  rcases hfind : r'.find? name with _ | e
  · -- The copy is the only one.
    rw [hfind] at hcurrent
    have hshadow : Lowest (r.HeldInSystem name) ((r'.find? name).bind Entry.shadow?) := by
      rw [hfind]
      rintro n ⟨-, p, hheld'⟩
      exact hcurrent n p hheld'
    have hmade := h.current_made hheld hreads hsame
      (fun n p hheld' => absurd hheld' (hcurrent n p)) hshadow
    dsimp only
    rw [readEntry_of_reads hpath fun _ n hn => by simp [hfind] at hn, find?_tell, find?_set_self]
    exact hmade
  · rw [hfind] at hcurrent
    obtain ⟨rank₁, dir₁, path₁, d₁, shadow?, hheld₁, hreads₁, hsame₁, hleast, rfl, hshadow⟩ :=
      hcurrent
    dsimp only
    rw [if_neg (by rintro ⟨-, hown⟩; cases hown)]
    by_cases hlt : rank₁ < rank
    · -- A lower copy still speaks for the name, and the copy can only be its shadow.
      have hsystem : SearchPath.userRank < rank := Nat.lt_of_le_of_lt (Nat.zero_le rank₁) hlt
      have hne : rank₁ ≠ rank := Nat.ne_of_lt hlt
      rw [if_pos (by simp [Entry.ofDocument, hlt]), find?_set_self]
      refine ⟨rank₁, dir₁, path₁, d₁, some ((shadow?.map fun shadow => min shadow rank).getD rank),
        (h.holds_iff _ _ hne).2 hheld₁, (h.reads_iff _ _ _ hne hheld₁).2 hreads₁, hsame₁, ?_, ?_,
        ?_⟩
      · intro n p hheld'
        by_cases hn : n = rank
        · exact hn ▸ Nat.le_of_lt hlt
        · exact hleast n p ((h.holds_iff n p hn).1 hheld')
      · rw [shadowedBy_eq hsystem, h.settings_eq]
      · exact (hshadow.insert rank).congr fun n => (h.heldInSystem_iff hheld hsystem n).symm
    · -- The copy speaks for the name from now on.
      have hle : rank ≤ rank₁ := Nat.not_lt.1 hlt
      have hlowest : ∀ n p, r.Holds name n p → rank ≤ n := fun n p hheld' =>
        Nat.le_trans hle (hleast n p hheld')
      have hbind : (r'.find? name).bind Entry.shadow? = shadow? := by
        rw [hfind]
        rfl
      rw [if_neg (by simp [Entry.ofDocument, Entry.isPending, FieldSet.isEmpty, hle]),
        readEntry_of_reads hpath, find?_tell, find?_set_self]
      · exact h.current_made hheld hreads hsame hlowest (hbind ▸ hshadow)
      · intro _ n hn
        rw [hbind] at hn
        subst hn
        obtain ⟨-, p, hheld'⟩ := hshadow.1
        exact hlowest n p hheld'

end Changed

/-! ## A copy that was removed -/

/-- The first of some ascending numbers is the lowest of them. -/
theorem lowest_head? {P : Nat → Prop} {numbers : List Nat} (hascending : numbers.Pairwise (· < ·))
    (hmem : ∀ n, n ∈ numbers ↔ P n) : Lowest P numbers.head? := by
  cases numbers with
  | nil => exact fun n hn => List.not_mem_nil ((hmem n).2 hn)
  | cons first rest =>
    refine ⟨(hmem first).1 List.mem_cons_self, fun n hn => ?_⟩
    rcases List.mem_cons.1 ((hmem n).2 hn) with rfl | hrest
    · exact Nat.le_refl _
    · exact Nat.le_of_lt ((List.pairwise_cons.1 hascending).1 n hrest)

/-- The next definitions of a name come in ascending order of their ranks. -/
theorem pairwise_definitionsAfter (r : Registry) (rank : Nat) (name : String) :
    (r.definitionsAfter rank name).Pairwise fun a b => a.1 < b.1 := by
  have hascending := r.searchPath.pairwise_systemRanksAfter rank
  unfold definitionsAfter
  refine List.pairwise_filterMap.2 (hascending.imp fun {n m} hlt a ha b hb => ?_)
  -- Each definition carries the rank that it was made from.
  split at ha
  · split at ha
    · split at hb
      · split at hb
        · obtain rfl := Option.some.inj ha
          obtain rfl := Option.some.inj hb
          exact hlt
        · cases hb
      · cases hb
    · cases ha
  · cases ha

section Removed

variable {r : Registry} {name : String} {rank : Nat}
  (hnonempty : ∀ dir ∈ r.searchPath.directories, dir.text ≠ "")
include hnonempty

/-- The ranks of the next definitions of a name are the later ones that hold it. -/
theorem mem_definitionsAfter_iff (hlauncher : Entry.isFilename name = true)
    (hname : Path.IsFileName name) (n : Nat) :
    n ∈ (r.definitionsAfter rank name).map (·.1) ↔ rank < n ∧ ∃ dir, r.Holds name n dir := by
  constructor
  · intro hmem
    obtain ⟨place, hplace, rfl⟩ := List.mem_map.1 hmem
    obtain ⟨hlt, hpath, hfile⟩ := mem_definitionsAfter.1 hplace
    obtain ⟨dir, hdir, hjoin⟩ := SearchPath.exists_of_pathAt? hpath
    have htext := hnonempty dir (List.mem_of_getElem? hdir)
    exact ⟨hlt, dir, (holds_iff htext).2 ⟨hdir, hlauncher, hname, hjoin ▸ hfile⟩⟩
  · rintro ⟨hlt, dir, hheld⟩
    have hpath : r.searchPath.pathAt? n name = some (dir.join name) :=
      SearchPath.pathAt?_of_directoryAt? hheld.1 name
    exact List.mem_map.2
      ⟨(n, dir.join name), mem_definitionsAfter.2 ⟨hlt, hpath, hheld.2.2.2⟩, rfl⟩

/-- The first of the next definitions has the lowest rank of those that hold the name. -/
theorem lowest_definitionsAfter (hlauncher : Entry.isFilename name = true)
    (hname : Path.IsFileName name) :
    Lowest (fun n => rank < n ∧ ∃ dir, r.Holds name n dir)
      ((r.definitionsAfter rank name).head?.map (·.1)) := by
  have hascending : ((r.definitionsAfter rank name).map (·.1)).Pairwise (· < ·) :=
    List.pairwise_map.2 (pairwise_definitionsAfter r rank name)
  rw [← List.head?_map]
  exact lowest_head? hascending (mem_definitionsAfter_iff hnonempty hlauncher hname)

/-- A launcher whose copy is gone is made anew from the next one, or dropped when there is none, and
is current in both cases. -/
theorem current_detached (hlauncher : Entry.isFilename name = true) (hname : Path.IsFileName name)
    (husable : r.Usable) (hlater : ∀ n dir, r.Holds name n dir → rank < n) {detached : Entry}
    (hrank : detached.rank? = none) (hsettled : detached.isPending = false)
    (hshadow : detached.shadow? = none) :
    Current r name
      ((match (r.set name detached).loadFirst (r.definitionsAfter rank name) with
        | (true, r) => r
        | (false, r) => (r.drop name).tell (.removed name)).find? name) := by
  have hlowest : Lowest (fun n => rank < n ∧ ∃ dir, r.Holds name n dir)
      ((r.definitionsAfter rank name).head?.map (·.1)) :=
    lowest_definitionsAfter hnonempty hlauncher hname
  rcases hplaces : r.definitionsAfter rank name with _ | ⟨place, rest⟩
  · -- No copy is left.
    rw [hplaces] at hlowest
    have hnone : Current r name none := fun n dir hheld =>
      hlowest n ⟨hlater n dir hheld, dir, hheld⟩
    unfold loadFirst
    simpa using hnone
  · rw [hplaces] at hlowest
    obtain ⟨⟨-, dir, hheld⟩, hleast⟩ := hlowest
    obtain ⟨hsystem, hpath⟩ := definitionsAfter_spec
      (hplaces ▸ List.mem_cons_self : place ∈ r.definitionsAfter rank name)
    obtain ⟨dir', hdir', hjoin⟩ := SearchPath.exists_of_pathAt? hpath
    obtain rfl : dir = dir' := Option.some.inj (hheld.1.symm.trans hdir')
    obtain ⟨d, hreads⟩ := husable name place.1 dir hheld
    have hplaceName : place.2.fileName? = some name := hjoin ▸ Path.fileName?_join dir hname
    have hfind : (r.set name detached).find? name = some detached := by simp
    have hplaceReads : (r.set name detached).Reads place.2 d := hjoin ▸ hreads
    have hall : ∀ n p, r.Holds name n p → place.1 ≤ n := fun n p hheld' =>
      hleast n ⟨hlater n p hheld', p, hheld'⟩
    rw [loadFirst_of_reads hfind hrank hsettled hshadow hplaceName hplaceReads]
    dsimp only
    rw [find?_tell, find?_set_self]
    have hlowestShadow : Lowest (r.HeldInSystem name) (some place.1) := by
      refine ⟨⟨hsystem, dir, hheld⟩, fun n hn => ?_⟩
      obtain ⟨-, p, hheld'⟩ := hn
      exact hall n p hheld'
    refine ⟨place.1, dir, place.2, d, some place.1, hheld, hreads, ?_, hall, ?_, hlowestShadow⟩
    · rw [← hjoin]
      exact (Path.same_iff _ _).2 rfl
    · unfold made
      rw [if_pos hsystem]
      rfl

omit hnonempty in
/-- The copies that are left when one is gone are others that were there before. -/
theorem SameBut.holds_of_gone {r₀ : Registry} (h : SameBut r₀ r name rank)
    (hgone : ∀ dir, ¬ r.Holds name rank dir) {n : Nat} {dir : Path} (hheld : r.Holds name n dir) :
    n ≠ rank ∧ r₀.Holds name n dir := by
  have hother : n ≠ rank := by
    rintro rfl
    exact hgone dir hheld
  exact ⟨hother, (h.holds_iff n dir hother).1 hheld⟩

/-- When a copy is gone, the lowest rank of the system that holds the name is that of the next
definition, if the copy was the lowest one, and else the one before. -/
theorem SameBut.lowest_unshadowed {r₀ : Registry} (h : SameBut r₀ r name rank)
    {shadow? : Option Nat} (hshadow : Lowest (r₀.HeldInSystem name) shadow?)
    (hgone : ∀ dir, ¬ r.Holds name rank dir) :
    Lowest (r.HeldInSystem name)
      (if shadow? = some rank then (r.definitionsAfter rank name).head?.map (·.1)
        else shadow?) := by
  have hsub : ∀ n p, r.Holds name n p → n ≠ rank ∧ r₀.Holds name n p := fun _ _ =>
    h.holds_of_gone hgone
  split
  · next hgoes =>
    -- The copy was the lowest one of the system, so the next one is among the later ones.
    subst hgoes
    obtain ⟨⟨hsystem, dir, hheld⟩, hmin⟩ := hshadow
    have hlowest : Lowest (fun n => rank < n ∧ ∃ dir, r.Holds name n dir)
        ((r.definitionsAfter rank name).head?.map (·.1)) :=
      lowest_definitionsAfter hnonempty hheld.2.1 hheld.isFileName
    refine hlowest.congr fun n => ?_
    constructor
    · rintro ⟨hlt, p, hheld'⟩
      exact ⟨Nat.lt_trans hsystem hlt, p, hheld'⟩
    · rintro ⟨hn, p, hheld'⟩
      obtain ⟨hne', hheld₀⟩ := hsub n p hheld'
      have hle := hmin n ⟨hn, p, hheld₀⟩
      exact ⟨by omega, p, hheld'⟩
  · next hstays =>
    rcases shadow? with _ | shadow
    · rintro n ⟨hn, p, hheld⟩
      exact hshadow n ⟨hn, p, (hsub n p hheld).2⟩
    · obtain ⟨⟨hsystem, p, hheld⟩, hmin⟩ := hshadow
      have hne' : shadow ≠ rank := fun heq => hstays (congrArg some heq)
      exact ⟨⟨hsystem, p, (h.holds_iff _ _ hne').2 hheld⟩, fun n ⟨hn, q, hheld'⟩ =>
        hmin n ⟨hn, q, (hsub n q hheld').2⟩⟩

/-- When a copy is gone that does not speak for its name, the launcher is current with the shadow
that the next definition casts, if the copy was its shadow. -/
theorem SameBut.current_unshadowed {r₀ : Registry} (h : SameBut r₀ r name rank) {e : Entry}
    (hcurrent : Current r₀ name (some e)) (hother : e.rank? ≠ some rank)
    (hgone : ∀ dir, ¬ r.Holds name rank dir) :
    Current r name (some { e with
      shadow? :=
        if e.shadow? = some rank then (r.definitionsAfter rank name).head?.map (·.1)
        else e.shadow? }) := by
  obtain ⟨rank₁, dir₁, path₁, d₁, shadow?, hheld₁, hreads₁, hsame₁, hleast, rfl, hshadow⟩ :=
    hcurrent
  have hne : rank₁ ≠ rank := fun heq => hother (congrArg some heq)
  exact ⟨rank₁, dir₁, path₁, d₁, _, (h.holds_iff _ _ hne).2 hheld₁,
    (h.reads_iff _ _ _ hne hheld₁).2 hreads₁, hsame₁,
    fun n p hheld => hleast n p (h.holds_of_gone hgone hheld).2, by rw [h.settings_eq],
    h.lowest_unshadowed hnonempty hshadow hgone⟩

/-- A report that a copy was removed makes the launcher of its name current. -/
theorem SameBut.current_fileRemoved {r₀ : Registry} (h : SameBut r₀ r name rank)
    (hdistinct : r.searchPath.directories.Pairwise fun dir dir' => dir.same dir' = false)
    (husable : r.Usable) (hcurrent : Current r₀ name (r.find? name)) {path : Path}
    (hplaces : r.searchPath.Places rank name path) (hname : Path.IsFileName name)
    (hgone : ∀ dir, ¬ r.Holds name rank dir) :
    Current r name ((r.fileRemoved path).find? name) := by
  obtain ⟨dir, -, hcomponents⟩ := hplaces.components_eq hname
  have hfileName : path.fileName? = some name := by
    rw [Path.fileName?, hcomponents, List.getLast?_concat]
  unfold fileRemoved
  rw [SearchPath.rankOf?_of_places hdistinct hplaces hfileName, hfileName]
  dsimp only
  rcases hfind : r.find? name with _ | e
  · rw [hfind] at hcurrent
    dsimp only
    rw [hfind]
    exact fun n p hheld => hcurrent n p (h.holds_of_gone hgone hheld).2
  · rw [hfind] at hcurrent
    have hunshadowed : e.rank? ≠ some rank → _ := fun hother =>
      h.current_unshadowed hnonempty hcurrent hother hgone
    obtain ⟨rank₁, dir₁, path₁, d₁, shadow?, hheld₁, -, hsame₁, hleast, rfl, -⟩ := hcurrent
    have hplaces₁ : r.searchPath.Places rank₁ name path₁ := by
      unfold searchPath
      rw [h.settings_eq]
      exact hheld₁.places.congr.2 hsame₁
    have hsource := hplaces₁.same_iff hdistinct hname hplaces
    dsimp only
    rw [if_neg (by simp [Entry.ofDocument, Entry.isPending, FieldSet.isEmpty])]
    split
    · next hother =>
      -- The source is still there, so at most the shadow is gone.
      have hne : rank₁ ≠ rank := fun heq => by
        have hother' : path₁.same path = false := by simpa [Entry.ofDocument] using hother
        rw [hsource.2 heq] at hother'
        cases hother'
      have hcurrent' := hunshadowed fun heq => hne (Option.some.inj heq)
      split
      · next hgoes =>
        rw [if_pos hgoes] at hcurrent'
        rw [find?_set_self]
        exact hcurrent'
      · next hstays =>
        rw [if_neg hstays] at hcurrent'
        rw [hfind]
        exact hcurrent'
    · next hgoes =>
      have hrank : rank₁ = rank := hsource.1 (by simpa [Entry.ofDocument] using hgoes)
      refine current_detached hnonempty hheld₁.2.1 hname husable (fun n p hheld => ?_) rfl ?_ rfl
      · obtain ⟨hne, hheld₀⟩ := h.holds_of_gone hgone hheld
        have hle := hleast n p hheld₀
        omega
      · simp [Entry.ofDocument, Entry.isPending, FieldSet.isEmpty]

end Removed

/-! ## Runs of reports -/

/-- The registries that start with a scan and are told at once of every single file that is made,
changed or removed in a directory of the search path, when all files of launchers can be used at all
times. A report may spell the path of the file in any way that leads to it. -/
inductive Reported (settings : Settings) : Registry → Prop where
  /-- A registry that knows no launcher scans the directories. -/
  | scanned (files : FileStore) (now : Nat) (observers : Observers)
      (usable : (Registry.mk settings files now SortedMap.empty observers).Usable) :
      Reported settings (Registry.mk settings files now SortedMap.empty observers).scan
  /-- A file is made or changed, and reported as changed. -/
  | changed (r : Registry) (files : FileStore) (rank : Nat) (name : String) (dir path : Path)
      (reported : Reported settings r) (place : settings.searchPath.directoryAt? rank = some dir)
      (named : Path.IsFileName name) (same : path.same (dir.join name) = true)
      (only : OnlyCopy settings.searchPath rank name r.files files)
      (there : files.isFile (dir.join name) = true) (reached : files.isFile path = true)
      (usable : ({ r with files } : Registry).Usable) :
      Reported settings (({ r with files } : Registry).fileChanged path).2
  /-- A file is removed, and reported as removed. -/
  | removed (r : Registry) (files : FileStore) (rank : Nat) (name : String) (dir path : Path)
      (reported : Reported settings r) (place : settings.searchPath.directoryAt? rank = some dir)
      (named : Path.IsFileName name) (same : path.same (dir.join name) = true)
      (only : OnlyCopy settings.searchPath rank name r.files files)
      (gone : files.isFile (dir.join name) = false)
      (usable : ({ r with files } : Registry).Usable) :
      Reported settings (({ r with files } : Registry).fileRemoved path)

/-- A registry with these settings sees only files that can be used, and knows of each name what is
current. -/
structure UpToDate (settings : Settings) (r : Registry) : Prop where
  /-- The settings are these. -/
  settings_eq : r.settings = settings
  /-- All files can be used. -/
  usable : r.Usable
  /-- Every launcher is current. -/
  current : ∀ name, Current r name (r.find? name)

namespace UpToDate

variable {settings : Settings} {r : Registry}

/-- A registry that knows no launcher is up to date after a scan. -/
theorem scan (hempty : ∀ name, r.find? name = none) (husable : r.Usable) :
    UpToDate r.settings r.scan := by
  have hscanned := scanned_scan hempty
  have hholds := holds_congr hscanned.files_eq hscanned.settings_eq
  have hreads := reads_congr hscanned.files_eq hscanned.settings_eq
  refine ⟨hscanned.settings_eq, fun name rank dir hheld => ?_, fun name => ?_⟩
  · obtain ⟨d, hd⟩ := husable name rank dir ((hholds name rank dir).1 hheld)
    exact ⟨d, (hreads _ d).2 hd⟩
  · exact ((hscanned.mergedFrom name).current husable).congr hscanned.files_eq hscanned.settings_eq

section Reports

variable {r₁ : Registry} {rank : Nat} {name : String} {dir path : Path}
  (hdistinct : settings.searchPath.directories.Pairwise fun dir dir' => dir.same dir' = false)
  (hnonempty : ∀ dir ∈ settings.searchPath.directories, dir.text ≠ "")
  (h : UpToDate settings r) (hsettings : r₁.settings = r.settings)
  (hentries : r₁.entries = r.entries) (husable : r₁.Usable)
  (honly : OnlyCopy settings.searchPath rank name r.files r₁.files)
  (hplace : settings.searchPath.directoryAt? rank = some dir) (hname : Path.IsFileName name)
  (hsame : path.same (dir.join name) = true)
include hnonempty h hsettings hentries husable honly hname hsame

/-- A registry that sees changed files is up to date after a report when it knows what is current of
the reported name, and of the others what it knew before. -/
theorem of_frame {r' : Registry} (hframe : r'.files = r₁.files ∧ r'.settings = r₁.settings ∧
      ∀ name', path.fileName? ≠ some name' → r'.find? name' = r₁.find? name')
    (hown : Current r₁ name (r'.find? name)) : UpToDate settings r' := by
  obtain ⟨hfiles, hsettings', hothers⟩ := hframe
  have hpath : r.searchPath = settings.searchPath := congrArg Settings.searchPath h.settings_eq
  rw [← hpath] at hnonempty honly
  refine ⟨hsettings'.trans (hsettings.trans h.settings_eq), fun name' rank' dir' hheld => ?_,
    fun name' => ?_⟩
  · obtain ⟨d, hd⟩ := husable name' rank' dir' ((holds_congr hfiles hsettings' _ _ _).1 hheld)
    exact ⟨d, (reads_congr hfiles hsettings' _ d).2 hd⟩
  · have hcurrent : Current r₁ name' (r'.find? name') := by
      by_cases hne : name' = name
      · rw [hne]
        exact hown
      · have hfileName : path.fileName? ≠ some name' := by
          rw [Path.fileName?_of_same hname hsame]
          exact fun heq => hne (Option.some.inj heq).symm
        rw [hothers name' hfileName, find?, hentries]
        exact (h.current name').of_onlyCopy hsettings hnonempty honly hne
    exact hcurrent.congr hfiles hsettings'

include hdistinct hplace

/-- A report of a file that was made or changed leaves a registry up to date. -/
theorem fileChanged (hthere : r₁.files.isFile (dir.join name) = true)
    (hreached : r₁.files.isFile path = true) :
    UpToDate settings (r₁.fileChanged path).2 := by
  refine h.of_frame hnonempty hsettings hentries husable honly hname hsame
    (fileChanged_frame r₁ path) ?_
  have hpath : r.searchPath = settings.searchPath := congrArg Settings.searchPath h.settings_eq
  have hpath₁ : r₁.searchPath = settings.searchPath :=
    (congrArg Settings.searchPath hsettings).trans hpath
  have hfileName : path.fileName? = some name := Path.fileName?_of_same hname hsame
  have hplaces : settings.searchPath.Places rank name path :=
    SearchPath.places_of_same hplace hsame
  have hcurrent : Current r name (r₁.find? name) := by
    rw [find?, hentries]
    exact h.current name
  unfold Registry.fileChanged
  rw [hfileName, Option.any_some]
  by_cases hlauncher : Entry.isFilename name = true
  · have hheld : r₁.Holds name rank dir := by
      refine (holds_iff (hnonempty dir (List.mem_of_getElem? hplace))).2 ⟨?_, hlauncher, hname,
        hthere⟩
      rw [hpath₁]
      exact hplace
    obtain ⟨d, hreads⟩ := husable name rank dir hheld
    have hreads' : r₁.Reads path d := by
      refine ⟨?_, hreads.2⟩
      rw [Document.load_eq_ok_iff, FileStore.readText_of_same hsame hreached hthere]
      exact Document.load_eq_ok_iff.1 hreads.1
    have hbut : SameBut r r₁ name rank := by
      rw [← hpath] at hnonempty honly
      exact honly.sameBut hsettings hnonempty
    rw [if_pos hlauncher, hpath₁, SearchPath.rankOf?_of_places hdistinct hplaces hfileName]
    dsimp only
    rw [load_snd hfileName]
    exact hbut.current_loadEntry hcurrent hheld hreads hreads' hsame
  · -- A file of another kind has no launcher, before and after.
    rw [if_neg hlauncher]
    rcases hfind : r₁.find? name with _ | e
    · exact fun n p hheld => hlauncher hheld.2.1
    · rw [hfind] at hcurrent
      obtain ⟨n, p, -, -, -, hheld, -⟩ := hcurrent
      exact absurd hheld.2.1 hlauncher

/-- A report of a file that was removed leaves a registry up to date. -/
theorem fileRemoved (hgone : r₁.files.isFile (dir.join name) = false) :
    UpToDate settings (r₁.fileRemoved path) := by
  refine h.of_frame hnonempty hsettings hentries husable honly hname hsame
    (fileRemoved_frame r₁ path) ?_
  have hpath : r.searchPath = settings.searchPath := congrArg Settings.searchPath h.settings_eq
  have hpath₁ : r₁.searchPath = settings.searchPath :=
    (congrArg Settings.searchPath hsettings).trans hpath
  have hplaces : settings.searchPath.Places rank name path :=
    SearchPath.places_of_same hplace hsame
  have hcurrent : Current r name (r₁.find? name) := by
    rw [find?, hentries]
    exact h.current name
  have hbut : SameBut r r₁ name rank := by
    rw [← hpath] at hnonempty honly
    exact honly.sameBut hsettings hnonempty
  rw [← hpath₁] at hnonempty hdistinct hplaces hplace
  refine hbut.current_fileRemoved hnonempty hdistinct husable hcurrent hplaces hname
    fun dir' hheld => ?_
  obtain rfl := Option.some.inj (hplace.symm.trans hheld.1)
  have hfile := hheld.2.2.2
  rw [hgone] at hfile
  cases hfile

end Reports

end UpToDate

/-- When the directories are different and none is the empty path, a registry that started with a
scan and was told at once of every file that was made, changed or removed knows what a new registry
would find in the current files: the same launchers with the same ranks, shadows and fields, from
sources of the same components, all without changes. -/
theorem reports_agree_with_rescan {settings : Settings}
    (hdistinct : settings.searchPath.directories.Pairwise fun dir dir' => dir.same dir' = false)
    (hnonempty : ∀ dir ∈ settings.searchPath.directories, dir.text ≠ "") {r : Registry}
    (h : Reported settings r) (name : String) :
    Option.Rel Entry.IsRespelling (r.find? name) (r.rescanned.find? name) ∧
      ∀ e, r.find? name = some e →
        e.dirty = .none ∧ e.base? = none ∧ e.ownWrite = false ∧ e.due? = none := by
  have hcurrent : UpToDate settings r := by
    induction h with
    | scanned files now observers usable => exact UpToDate.scan (fun _ => rfl) usable
    | changed r files rank name dir path _ place named same only there reached usable ih =>
      exact ih.fileChanged hdistinct hnonempty rfl rfl usable only place named same there reached
    | removed r files rank name dir path _ place named same only gone usable ih =>
      exact ih.fileRemoved hdistinct hnonempty rfl rfl usable only place named same gone
  refine ⟨(hcurrent.current name).isRespelling, fun e he => ?_⟩
  have hown := hcurrent.current name
  rw [he] at hown
  obtain ⟨rank, dir, path, d, shadow?, -, -, -, -, rfl, -⟩ := hown
  exact ⟨rfl, rfl, rfl, rfl⟩

/-! ## Runs on few files -/

/-- Files with one launcher, which the system defines, and an empty directory of the user. -/
def oneInheritedLauncher : FileStore :=
  oneSystemLauncher.put ⟨"user"⟩ .directory

/-- The same files after the user got a copy of the launcher. -/
def oneCopiedLauncher : FileStore :=
  oneInheritedLauncher.set ["user", "a.desktop"]
    (.file (.text "[Desktop Entry]\nName=B\nExec=b\n"))

/-- A registry that scanned the files and was told of the copy of the user. -/
def copied : Registry :=
  (({ (Registry.mk oneSystemDirectory oneInheritedLauncher 0 SortedMap.empty Observers.none).scan
      with files := oneCopiedLauncher } : Registry).fileChanged ⟨"user/a.desktop"⟩).2

/-- The same registry after it was told that the copy was removed again. -/
def copiedAndRemoved : Registry :=
  ({ copied with files := oneInheritedLauncher } : Registry).fileRemoved ⟨"user//a.desktop"⟩

/-- The run that makes and removes a copy of the user is one of reports. -/
theorem reported_copiedAndRemoved : Reported oneSystemDirectory copiedAndRemoved := by
  have hplaces : oneSystemDirectory.searchPath.directories.Pairwise fun dir dir' =>
      oneInheritedLauncher.locationOf dir ≠ oneInheritedLauncher.locationOf dir' := by
    decide
  have hname : Path.IsFileName "a.desktop" := ⟨by decide, rfl⟩
  have hdir : oneSystemDirectory.searchPath.directoryAt? 0 = some ⟨"user"⟩ := rfl
  have hfree : oneInheritedLauncher.node? ["user", "a.desktop"] ≠ some .directory := by decide
  have honly : OnlyCopy oneSystemDirectory.searchPath 0 "a.desktop" oneInheritedLauncher
      oneCopiedLauncher :=
    onlyCopy_of_keeps hplaces hdir hname (FileStore.keeps_set hfree _)
      (FileStore.keeps_of_set hfree _)
  have hscanned : Reported oneSystemDirectory (Registry.mk oneSystemDirectory oneInheritedLauncher
      0 SortedMap.empty Observers.none).scan :=
    .scanned oneInheritedLauncher 0 Observers.none (usable_of_canUseAll rfl)
  have hcopied : Reported oneSystemDirectory copied :=
    .changed _ oneCopiedLauncher 0 "a.desktop" ⟨"user"⟩ ⟨"user/a.desktop"⟩ hscanned hdir hname
      (by decide) honly rfl rfl (usable_of_canUseAll rfl)
  have hfiles : copied.files = oneCopiedLauncher := (fileChanged_frame _ _).1
  exact .removed copied oneInheritedLauncher 0 "a.desktop" ⟨"user"⟩ ⟨"user//a.desktop"⟩ hcopied
    hdir hname (by decide) (hfiles.symm ▸ honly.symm) rfl (usable_of_canUseAll rfl)

/-- When the copy of the user was removed again, the registry knows the launcher of the system that
a new registry would find. -/
theorem respelling_copiedAndRemoved :
    ∃ e e', copiedAndRemoved.find? "a.desktop" = some e ∧ e.name? = some "A" ∧
      e.rank? = some 1 ∧ copiedAndRemoved.rescanned.find? "a.desktop" = some e' ∧
      e.IsRespelling e' := by
  obtain ⟨hrel, -⟩ := reports_agree_with_rescan (by decide) (by decide) reported_copiedAndRemoved
    "a.desktop"
  have hrank : (copiedAndRemoved.find? "a.desktop").bind Entry.rank? = some 1 := rfl
  have hname : (copiedAndRemoved.find? "a.desktop").bind Entry.name? = some "A" := rfl
  generalize hfind : copiedAndRemoved.find? "a.desktop" = known? at hrel hrank hname
  generalize hrescanned : copiedAndRemoved.rescanned.find? "a.desktop" = known?' at hrel
  cases hrel with
  | none => cases hrank
  | some hsame => exact ⟨_, _, rfl, hname, hrank, rfl, hsame⟩

/-- The settings of a user with two directories of the system, of which one is the empty path. -/
def oneEmptyDirectory : Settings :=
  .ofDirectories ⟨⟨"user"⟩, [⟨"system"⟩, ⟨""⟩]⟩

/-- Files with one launcher, in the working directory, and an empty directory of the system. -/
def oneStrayLauncher : FileStore :=
  ((FileStore.atDirectory []).put ⟨"system"⟩ .directory).put ⟨"a.desktop"⟩
    (.file (.text "[Desktop Entry]\nName=B\nExec=b\n"))

/-- The same files while the system defines the launcher. -/
def oneDefinedLauncher : FileStore :=
  oneStrayLauncher.set ["system", "a.desktop"] (.file (.text "[Desktop Entry]\nName=A\nExec=a\n"))

/-- A registry that scanned the files and was told that the file of the system was removed. -/
def strayFallback : Registry :=
  ({ (Registry.mk oneEmptyDirectory oneDefinedLauncher 0 SortedMap.empty Observers.none).scan
      with files := oneStrayLauncher } : Registry).fileRemoved ⟨"system/a.desktop"⟩

/-- A directory with the empty path lists no file, so a scan finds none there, but a file of the
working directory takes over from a file that was removed. -/
theorem stray_strayFallback :
    (oneEmptyDirectory.searchPath.directories.Pairwise fun dir dir' => dir.same dir' = false) ∧
      (oneEmptyDirectory.searchPath.directories.Pairwise fun dir dir' =>
        oneDefinedLauncher.locationOf dir ≠ oneDefinedLauncher.locationOf dir') ∧
      Reported oneEmptyDirectory strayFallback ∧
      (∃ e, strayFallback.find? "a.desktop" = some e ∧ e.source = ⟨"a.desktop"⟩ ∧
        e.rank? = some 2) ∧
      strayFallback.rescanned.find? "a.desktop" = none ∧
      ¬ Option.Rel Entry.IsRespelling (strayFallback.find? "a.desktop")
        (strayFallback.rescanned.find? "a.desktop") := by
  have hplaces : oneEmptyDirectory.searchPath.directories.Pairwise fun dir dir' =>
      oneDefinedLauncher.locationOf dir ≠ oneDefinedLauncher.locationOf dir' := by
    decide
  have hplaces' : oneEmptyDirectory.searchPath.directories.Pairwise fun dir dir' =>
      oneStrayLauncher.locationOf dir ≠ oneStrayLauncher.locationOf dir' := by
    decide
  have hname : Path.IsFileName "a.desktop" := ⟨by decide, rfl⟩
  have hdir : oneEmptyDirectory.searchPath.directoryAt? 1 = some ⟨"system"⟩ := rfl
  have hfree : oneStrayLauncher.node? ["system", "a.desktop"] ≠ some .directory := by decide
  have honly : OnlyCopy oneEmptyDirectory.searchPath 1 "a.desktop" oneStrayLauncher
      oneDefinedLauncher :=
    onlyCopy_of_keeps hplaces' hdir hname (FileStore.keeps_set hfree _)
      (FileStore.keeps_of_set hfree _)
  have hreported : Reported oneEmptyDirectory strayFallback :=
    .removed _ oneStrayLauncher 1 "a.desktop" ⟨"system"⟩ ⟨"system/a.desktop"⟩
      (.scanned oneDefinedLauncher 0 Observers.none (usable_of_canUseAll rfl)) hdir hname
      (by decide) honly.symm rfl (usable_of_canUseAll rfl)
  have hsource : (strayFallback.find? "a.desktop").map Entry.source = some ⟨"a.desktop"⟩ := rfl
  have hrank : (strayFallback.find? "a.desktop").bind Entry.rank? = some 2 := rfl
  have hnone : strayFallback.rescanned.find? "a.desktop" = none := rfl
  refine ⟨by decide, hplaces, hreported, ?_, hnone, ?_⟩
  · obtain ⟨e, he, hsource'⟩ := Option.map_eq_some_iff.1 hsource
    rw [he] at hrank
    exact ⟨e, he, hsource', hrank⟩
  · intro hrel
    rw [hnone] at hrel
    generalize strayFallback.find? "a.desktop" = known? at hrel hrank
    cases hrel
    cases hrank

end Registry

end Autostart
