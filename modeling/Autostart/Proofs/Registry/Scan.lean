import Autostart.Proofs.FileStore.Listing
import Autostart.Proofs.Registry.Loading
import Autostart.Proofs.Registry.Naming

/-!
# A scan is a merge by rank

A scan of a registry that knows no launcher makes the launcher of each file name from the copy of
the lowest rank that can be read and may run, and keeps the lowest rank of the system that holds the
name at all. The scan visits the files in an order in which the ranks of one name ascend, so what it
knows of a name after a part of the way is the merge of the copies that it has seen.
-/

namespace Autostart.Registry

/-! ## The files of a search path -/

/-- The directory of a rank directly holds a file under the name of a launcher. -/
def Holds (r : Registry) (name : String) (rank : Nat) (dir : Path) : Prop :=
  r.searchPath.directoryAt? rank = some dir ∧ Entry.isFilename name = true ∧
    name ∈ r.files.namesIn dir ∧ r.files.isFile (dir.join name) = true

/-- A file that a scan comes across. -/
structure Sighting where
  /-- The rank of its directory. -/
  rank : Nat
  /-- Its directory. -/
  dir : Path
  /-- Its name. -/
  name : String

/-- The registry after it took account of a file that it came across. -/
def see (r : Registry) (s : Sighting) : Registry :=
  (r.load (s.dir.join s.name) s.rank).2

/-- The files in a directory that a scan takes account of, in order. -/
def sightingsIn (r : Registry) (place : Nat × Path) : List Sighting :=
  ((r.files.namesIn place.2).filter fun name =>
    Entry.isFilename name && r.files.isFile (place.2.join name)).map fun name =>
      ⟨place.1, place.2, name⟩

/-- The files that a scan takes account of, in order. -/
def sightings (r : Registry) : List Sighting :=
  r.searchPath.ranked.flatMap r.sightingsIn

/-- The ranks of a search path stand beside their directories. -/
theorem mem_ranked_iff (s : SearchPath) (rank : Nat) (dir : Path) :
    (rank, dir) ∈ s.ranked ↔ s.directoryAt? rank = some dir := by
  simp [SearchPath.ranked, SearchPath.directoryAt?, List.mem_zipIdx_iff_getElem?]

/-- A scan takes account of exactly the files that the directories hold. -/
theorem mem_sightings_iff (r : Registry) (s : Sighting) :
    s ∈ r.sightings ↔ r.Holds s.name s.rank s.dir := by
  obtain ⟨rank, dir, name⟩ := s
  unfold sightings sightingsIn Holds
  simp only [List.mem_flatMap, List.mem_map, List.mem_filter, Bool.and_eq_true, Prod.exists,
    mem_ranked_iff, Sighting.mk.injEq]
  constructor
  · rintro ⟨_, _, hdir, _, ⟨hmem, hname, hfile⟩, rfl, rfl, rfl⟩
    exact ⟨hdir, hname, hmem, hfile⟩
  · rintro ⟨hdir, hname, hmem, hfile⟩
    exact ⟨rank, dir, hdir, name, ⟨hmem, hname, hfile⟩, rfl, rfl, rfl⟩

/-- The ranks ascend along a search path. -/
theorem pairwise_ranked (s : SearchPath) : s.ranked.Pairwise fun a b => a.1 < b.1 := by
  unfold SearchPath.ranked
  rw [List.pairwise_map, List.pairwise_iff_getElem]
  intro i j hi hj hij
  simpa using hij

/-- The files of one name come in ascending order of their ranks. -/
theorem pairwise_sightings (r : Registry) :
    r.sightings.Pairwise fun s t => s.name = t.name → s.rank < t.rank := by
  unfold sightings
  refine List.pairwise_flatMap.2 ⟨fun place _ => ?_, ?_⟩
  · -- One directory holds each name once.
    unfold sightingsIn
    rw [List.pairwise_map]
    refine List.Pairwise.filter _ ?_
    have hnodup := FileStore.nodup_namesIn r.files place.2
    exact (List.nodup_iff_pairwise_ne.1 hnodup).imp fun hne heq => absurd heq hne
  · refine (pairwise_ranked r.searchPath).imp fun hlt s hs t ht _ => ?_
    obtain ⟨_, _, rfl⟩ := List.mem_map.1 hs
    obtain ⟨_, _, rfl⟩ := List.mem_map.1 ht
    exact hlt

/-- A file that the directory of a rank holds is placed there. -/
theorem Holds.places {r : Registry} {name : String} {rank : Nat} {dir : Path}
    (h : r.Holds name rank dir) : r.searchPath.Places rank name (dir.join name) :=
  SearchPath.places_of_pathAt? (SearchPath.pathAt?_of_directoryAt? h.1 name)

/-- A file that a directory holds has the name of a file. -/
theorem Holds.isFileName {r : Registry} {name : String} {rank : Nat} {dir : Path}
    (h : r.Holds name rank dir) : Path.IsFileName name := by
  obtain ⟨-, hname, hmem, -⟩ := h
  exact Entry.isFileName_of_isFilename hname (FileStore.isPlainName_of_mem_namesIn hmem)

/-- Seeing a file that a directory holds loads it under its name. -/
theorem see_eq_loadEntry (r : Registry) {s : Sighting} {r₀ : Registry}
    (h : r₀.Holds s.name s.rank s.dir) :
    r.see s = (r.loadEntry (s.dir.join s.name) s.name s.rank).2 :=
  load_snd (Path.fileName?_join s.dir h.isFileName) r s.rank

/-- Seeing a file that a directory holds is a step of loading. -/
theorem see_step (r : Registry) {s : Sighting} {r₀ : Registry}
    (h : r₀.Holds s.name s.rank s.dir) :
    LoadStep r (s.dir.join s.name) s.name s.rank (r.see s) := by
  rw [see_eq_loadEntry r h]
  exact loadEntry_step r _ _ _

/-- Seeing files that the directories hold changes neither the files nor the settings. -/
theorem foldl_see_frame (r₀ : Registry) (seen : List Sighting)
    (h : ∀ s ∈ seen, r₀.Holds s.name s.rank s.dir) (r : Registry) :
    (seen.foldl see r).files = r.files ∧ (seen.foldl see r).settings = r.settings := by
  induction seen generalizing r with
  | nil => exact ⟨rfl, rfl⟩
  | cons s rest ih =>
    have hstep := see_step r (h s List.mem_cons_self)
    obtain ⟨hfiles, hsettings⟩ := ih (fun t ht => h t (List.mem_cons_of_mem s ht)) (r.see s)
    exact ⟨hfiles.trans hstep.files_eq, hsettings.trans hstep.settings_eq⟩

/-- Scanning some names of a directory is seeing those that are files of launchers. -/
theorem foldl_scanFile (r₀ : Registry) {place : Nat × Path}
    (hplace : r₀.searchPath.directoryAt? place.1 = some place.2) (names : List String)
    (hnames : ∀ name ∈ names, name ∈ r₀.files.namesIn place.2) (r : Registry)
    (hfiles : r.files = r₀.files) :
    names.foldl (scanFile place.2 place.1) r =
      ((names.filter fun name =>
        Entry.isFilename name && r₀.files.isFile (place.2.join name)).map fun name =>
          Sighting.mk place.1 place.2 name).foldl see r := by
  -- The files stay those of `r₀` along the way, so the same names are files throughout.
  induction names generalizing r with
  | nil => rfl
  | cons name rest ih =>
    have hrest : ∀ n ∈ rest, n ∈ r₀.files.namesIn place.2 := fun n hn =>
      hnames n (List.mem_cons_of_mem name hn)
    have hfirst : scanFile place.2 place.1 r name =
        if Entry.isFilename name && r₀.files.isFile (place.2.join name) then
          r.see ⟨place.1, place.2, name⟩ else r := by
      unfold scanFile
      rw [hfiles]
      rfl
    rw [List.foldl_cons, List.filter_cons, hfirst]
    split
    · next hcopy =>
      obtain ⟨hname, hfile⟩ : Entry.isFilename name = true ∧ _ := by simpa using hcopy
      have hheld : r₀.Holds name place.1 place.2 :=
        ⟨hplace, hname, hnames name List.mem_cons_self, hfile⟩
      have hstep := see_step r (s := ⟨place.1, place.2, name⟩) hheld
      exact ih hrest _ (hstep.files_eq.trans hfiles)
    · exact ih hrest r hfiles

/-- A scan sees the files of the search path one after the other. -/
theorem scan_eq_foldl_see (r : Registry) : r.scan = r.sightings.foldl see r := by
  have hplaces : ∀ places : List (Nat × Path), (∀ p ∈ places, p ∈ r.searchPath.ranked) →
      ∀ r' : Registry, r'.files = r.files →
        places.foldl scanDirectory r' = (places.flatMap r.sightingsIn).foldl see r' := by
    intro places hmem
    induction places with
    | nil => intro r' _; rfl
    | cons place rest ih =>
      intro r' hfiles
      have hdir := (mem_ranked_iff r.searchPath place.1 place.2).1 (hmem place List.mem_cons_self)
      have hscan : r'.scanDirectory place = (r.sightingsIn place).foldl see r' := by
        unfold scanDirectory sightingsIn
        rw [hfiles]
        exact foldl_scanFile r hdir _ (fun _ h => h) r' hfiles
      have hheld : ∀ s ∈ r.sightingsIn place, r.Holds s.name s.rank s.dir := fun s hs =>
        (mem_sightings_iff r s).1
          (List.mem_flatMap.2 ⟨place, hmem place List.mem_cons_self, hs⟩)
      rw [List.foldl_cons, List.flatMap_cons, List.foldl_append, hscan]
      refine ih (fun p hp => hmem p (List.mem_cons_of_mem place hp)) _ ?_
      rw [(foldl_see_frame r _ hheld r').1, hfiles]
  exact hplaces _ (fun _ h => h) r rfl

/-- What loading the files of the search path preserves, a scan preserves. -/
theorem scan_invariant {P : Registry → Prop} {r : Registry} (h : P r)
    (step : ∀ (s : Sighting) (r' : Registry), r.Holds s.name s.rank s.dir → P r' →
      LoadStep r' (s.dir.join s.name) s.name s.rank (r'.see s) → P (r'.see s)) : P r.scan := by
  have hall : ∀ seen : List Sighting, (∀ s ∈ seen, r.Holds s.name s.rank s.dir) →
      ∀ r' : Registry, P r' → P (seen.foldl see r') := by
    intro seen hheld
    induction seen with
    | nil => intro r' h'; exact h'
    | cons s rest ih =>
      intro r' h'
      have hs := hheld s List.mem_cons_self
      exact ih (fun t ht => hheld t (List.mem_cons_of_mem s ht)) _
        (step s r' hs h' (see_step r' hs))
  rw [scan_eq_foldl_see]
  exact hall r.sightings (fun s hs => (mem_sightings_iff r s).1 hs) r h

/-! ## The merge -/

/-- The lowest number with a property, or none when no number has it. -/
def Lowest (P : Nat → Prop) : Option Nat → Prop
  | some n => P n ∧ ∀ m, P m → n ≤ m
  | none => ∀ n, ¬ P n

/-- What a registry should know of a file name whose copies have the given ranks and directories:
nothing when no copy can be used, and else the launcher of the copy of the lowest rank that can be,
with the shadow of the system. -/
def MergedFrom (r : Registry) (name : String) (held : Nat → Path → Prop) : Option Entry → Prop
  | none => ∀ rank dir d, held rank dir → ¬ r.Reads (dir.join name) d
  | some e => ∃ rank dir d shadow?, held rank dir ∧ r.Reads (dir.join name) d ∧
      (∀ rank' dir' d', held rank' dir' → r.Reads (dir'.join name) d' → rank ≤ rank') ∧
      e = { Entry.ofDocument name (dir.join name) d r.settings.locale? rank with shadow? } ∧
      (if SearchPath.userRank < rank then shadow? = some rank
        else Lowest (fun n => SearchPath.userRank < n ∧ ∃ dir, held n dir) shadow?)

/-- The merge is about which copies are held, however that is said. -/
theorem MergedFrom.congr {r : Registry} {name : String} {held held' : Nat → Path → Prop}
    {known? : Option Entry} (hheld : ∀ rank dir, held rank dir ↔ held' rank dir)
    (h : MergedFrom r name held known?) : MergedFrom r name held' known? := by
  obtain rfl : held = held' := by
    funext rank dir
    exact propext (hheld rank dir)
  exact h

/-- A merged launcher has no changes and waits for no report of an own write. -/
theorem MergedFrom.settled {r : Registry} {name : String} {held : Nat → Path → Prop} {e : Entry}
    (h : MergedFrom r name held (some e)) : e.isPending = false ∧ e.ownWrite = false := by
  obtain ⟨rank, dir, d, shadow?, -, -, -, rfl, -⟩ := h
  exact ⟨rfl, rfl⟩

/-- The first copy of a name that can be used makes its launcher. -/
theorem MergedFrom.first {r₀ r : Registry} {name : String} {held : Nat → Path → Prop} {rank : Nat}
    {dir : Path} {d : Document} (hsettings : r.settings = r₀.settings)
    (hnone : r.find? name = none) (habove : ∀ n p, held n p → n < rank)
    (hreads : r₀.Reads (dir.join name) d) (h : MergedFrom r₀ name held none) :
    MergedFrom r₀ name (fun n p => held n p ∨ n = rank ∧ p = dir)
      (some (r.made (dir.join name) name rank d)) := by
  refine ⟨rank, dir, d, if SearchPath.userRank < rank then some rank else none,
    .inr ⟨rfl, rfl⟩, hreads, ?_, ?_, ?_⟩
  · rintro n p d' (hheld | ⟨rfl, rfl⟩) hreads'
    · exact absurd hreads' (h n p d' hheld)
    · exact Nat.le_refl _
  · unfold made
    rw [hsettings, hnone]
    rfl
  · split
    · rfl
    · next hrank =>
      -- No rank lies below that of the user, so there is no copy in the system yet.
      rintro n ⟨hn, p, hheld | ⟨rfl, -⟩⟩
      · have := habove n p hheld
        omega
      · exact hrank hn

/-- A copy of a name that cannot be used leaves a name without launcher as it is. -/
theorem MergedFrom.unusable {r₀ : Registry} {name : String} {held : Nat → Path → Prop}
    {rank : Nat} {dir : Path} (hreads : ∀ d, ¬ r₀.Reads (dir.join name) d)
    (h : MergedFrom r₀ name held none) :
    MergedFrom r₀ name (fun n p => held n p ∨ n = rank ∧ p = dir) none := by
  rintro n p d (hheld | ⟨rfl, rfl⟩)
  · exact h n p d hheld
  · exact hreads d

/-- A copy after the one that speaks for a name can only be its shadow. -/
theorem MergedFrom.outranked {r₀ : Registry} {name : String} {held : Nat → Path → Prop} {e : Entry}
    {rank : Nat} {dir : Path} (habove : ∀ n p, held n p → n < rank)
    (h : MergedFrom r₀ name held (some e)) :
    MergedFrom r₀ name (fun n p => held n p ∨ n = rank ∧ p = dir) (some (e.shadowedBy rank)) := by
  obtain ⟨rank₁, dir₁, d, shadow?, hheld, hreads, hleast, rfl, hshadow⟩ := h
  have hlt := habove rank₁ dir₁ hheld
  have hrank : SearchPath.userRank < rank := Nat.lt_of_le_of_lt (Nat.zero_le rank₁) hlt
  refine ⟨rank₁, dir₁, d, some ((shadow?.map fun shadow => min shadow rank).getD rank),
    .inl hheld, hreads, ?_, shadowedBy_eq hrank _, ?_⟩
  · rintro n p d' (hheld' | ⟨rfl, -⟩) hreads'
    · exact hleast n p d' hheld' hreads'
    · exact Nat.le_of_lt hlt
  · split
    · next hsystem =>
      -- In the system the shadow is the rank of the launcher, which is lower.
      rw [if_pos hsystem] at hshadow
      rw [hshadow]
      exact congrArg some (Nat.min_eq_left (Nat.le_of_lt hlt))
    · next huser =>
      rw [if_neg huser] at hshadow
      rcases shadow? with _ | shadow
      · -- The copy is the first one of the system.
        refine ⟨⟨hrank, dir, .inr ⟨rfl, rfl⟩⟩, ?_⟩
        rintro n ⟨hn, p, hheld' | ⟨rfl, -⟩⟩
        · exact absurd ⟨hn, p, hheld'⟩ (hshadow n)
        · exact Nat.le_refl _
      · obtain ⟨⟨hpos, p, hheld'⟩, hmin⟩ := hshadow
        have hle : shadow ≤ rank := Nat.le_of_lt (habove shadow p hheld')
        show Lowest _ (some (min shadow rank))
        rw [Nat.min_eq_left hle]
        refine ⟨⟨hpos, p, .inl hheld'⟩, ?_⟩
        rintro n ⟨hn, q, hheld'' | ⟨rfl, -⟩⟩
        · exact hmin n ⟨hn, q, hheld''⟩
        · exact hle

/-! ## The first scan -/

/-- The observers were told of each launcher of a registry once since it was `r₀`, and of nothing
else. -/
def ToldOfEach (r₀ r : Registry) : Prop :=
  ∃ names : List String, names.Nodup ∧ (∀ name, name ∈ names ↔ (r.find? name).isSome) ∧
    r.observers = names.foldl (fun o name => o.tell (.added name)) r₀.observers

/-- What holds while the registry `r₀`, which knows no launcher, is scanned, after the files `seen`:
every name is merged from the copies seen, and the observers were told once of each launcher. -/
structure Scanned (r₀ : Registry) (seen : List Sighting) (r : Registry) : Prop where
  /-- The files are the same. -/
  files_eq : r.files = r₀.files
  /-- The settings are the same. -/
  settings_eq : r.settings = r₀.settings
  /-- Every name is merged from the copies seen. -/
  merged : ∀ name,
    MergedFrom r₀ name (fun rank dir => Sighting.mk rank dir name ∈ seen) (r.find? name)
  /-- The observers were told of each launcher once, and of nothing else. -/
  told : ToldOfEach r₀ r

/-- A document is read under the same files and settings. -/
theorem reads_congr {r r' : Registry} (hfiles : r'.files = r.files)
    (hsettings : r'.settings = r.settings) (path : Path) (d : Document) :
    r'.Reads path d ↔ r.Reads path d := by
  unfold Reads
  rw [hfiles, hsettings]

/-- After one more load the merge has to be right at its own name only. -/
theorem Scanned.extend {r₀ r r' : Registry} {seen : List Sighting} {s : Sighting}
    (h : Scanned r₀ seen r) (hstep : LoadStep r (s.dir.join s.name) s.name s.rank r')
    (hname : MergedFrom r₀ s.name
      (fun n p => Sighting.mk n p s.name ∈ seen ∨ n = s.rank ∧ p = s.dir) (r'.find? s.name))
    (htold : ToldOfEach r₀ r') : Scanned r₀ (seen ++ [s]) r' := by
  refine ⟨hstep.files_eq.trans h.files_eq, hstep.settings_eq.trans h.settings_eq, ?_, htold⟩
  intro name
  obtain ⟨rank, dir, name'⟩ := s
  by_cases hne : name = name'
  · rw [hne]
    refine hname.congr fun n p => ?_
    simp
  · rw [hstep.find?_of_ne hne]
    refine (h.merged name).congr fun n p => ?_
    simp [hne]

/-- The first copy of a name that can be used is told of. -/
theorem ToldOfEach.first {r₀ r : Registry} {name : String} (e : Entry)
    (hnone : r.find? name = none) (h : ToldOfEach r₀ r) :
    ToldOfEach r₀ ((r.set name e).tell (.added name)) := by
  obtain ⟨names, hnodup, hnames, hobservers⟩ := h
  -- The name had no launcher, so the observers were not told of it before.
  have hnew : name ∉ names := by
    intro hmem
    have hsome := (hnames name).1 hmem
    rw [hnone] at hsome
    cases hsome
  refine ⟨names ++ [name], ?_, ?_, ?_⟩
  · refine List.nodup_append.2 ⟨hnodup, List.nodup_singleton name, fun m hm n hn => ?_⟩
    rw [List.mem_singleton.1 hn]
    exact ne_of_mem_of_not_mem hm hnew
  · intro name'
    rw [find?_tell, find?_set]
    by_cases hne : name' = name
    · simp [hne]
    · simp [hne, hnames name']
  · rw [List.foldl_append, ← hobservers]
    rfl

/-- A scan preserves its invariant when it sees the next file. -/
theorem Scanned.see {r₀ r : Registry} {seen : List Sighting} {s : Sighting}
    (hheld : r₀.Holds s.name s.rank s.dir)
    (habove : ∀ t ∈ seen, t.name = s.name → t.rank < s.rank) (h : Scanned r₀ seen r) :
    Scanned r₀ (seen ++ [s]) (r.see s) := by
  have hstep := see_step r hheld
  have hload := see_eq_loadEntry r hheld
  have hlower : ∀ n p, Sighting.mk n p s.name ∈ seen → n < s.rank := fun n p hmem =>
    habove _ hmem rfl
  have hmerged := h.merged s.name
  unfold loadEntry at hload
  rcases hfind : r.find? s.name with _ | e
  · rw [hfind] at hload hmerged
    by_cases hreads : ∃ d, r.Reads (s.dir.join s.name) d
    · -- The first copy that can be used makes the launcher.
      obtain ⟨d, hd⟩ := hreads
      have hsee : r.see s = (r.set s.name (r.made (s.dir.join s.name) s.name s.rank d)).tell
          (.added s.name) := by
        rw [hload]
        dsimp only
        rw [readEntry_of_reads hd (fun _ n hn => by simp [hfind] at hn), hfind]
        rfl
      have hd₀ := (reads_congr h.files_eq h.settings_eq _ _).1 hd
      refine h.extend hstep ?_ (hsee ▸ h.told.first _ hfind)
      rw [hsee, find?_tell, find?_set_self]
      exact hmerged.first h.settings_eq hfind hlower hd₀
    · have hnot : ∀ d, ¬ r.Reads (s.dir.join s.name) d := fun d hd => hreads ⟨d, hd⟩
      have hsee : r.see s = r := hload.trans (readEntry_of_not_reads hnot s.name s.rank)
      refine h.extend hstep ?_ (hsee.symm ▸ h.told)
      rw [hsee, hfind]
      exact hmerged.unusable fun d hd => hnot d ((reads_congr h.files_eq h.settings_eq _ _).2 hd)
  · rw [hfind] at hload hmerged
    -- The launcher comes from a copy that was seen before, so from a lower rank.
    have hbefore : e.rank?.any (· < s.rank) = true := by
      obtain ⟨rank, dir, d, shadow?, hseen, -, -, rfl, -⟩ := hmerged
      simpa [Entry.ofDocument] using hlower rank dir hseen
    have hsee : r.see s = r.set s.name (e.shadowedBy s.rank) := by
      rw [hload]
      simp [hmerged.settled.2, hbefore]
    refine h.extend hstep ?_ ?_
    · rw [hsee, find?_set_self]
      exact hmerged.outranked hlower
    · rw [hsee]
      obtain ⟨names, hnodup, hnames, hobservers⟩ := h.told
      refine ⟨names, hnodup, fun name => ?_, hobservers⟩
      rw [find?_set]
      split
      · next heq => rw [hnames, heq, hfind]; rfl
      · exact hnames name

/-- A scan preserves its invariant along the files that it sees. -/
theorem Scanned.foldl {r₀ r : Registry} {seen rest : List Sighting}
    (hheld : ∀ s ∈ rest, r₀.Holds s.name s.rank s.dir)
    (horder : (seen ++ rest).Pairwise fun s t => s.name = t.name → s.rank < t.rank)
    (h : Scanned r₀ seen r) : Scanned r₀ (seen ++ rest) (rest.foldl Registry.see r) := by
  induction rest generalizing seen r with
  | nil => simpa using h
  | cons s rest ih =>
    have habove : ∀ t ∈ seen, t.name = s.name → t.rank < s.rank := fun t ht =>
      (List.pairwise_append.1 horder).2.2 t ht s List.mem_cons_self
    have hnext := h.see (hheld s List.mem_cons_self) habove
    rw [List.append_cons] at horder ⊢
    exact ih (fun t ht => hheld t (List.mem_cons_of_mem s ht)) horder hnext

/-- A scan of a registry that knows no launcher merges all files of the search path. -/
theorem scanned_scan {r : Registry} (hempty : ∀ name, r.find? name = none) :
    Scanned r r.sightings r.scan := by
  have hstart : Scanned r [] r := by
    refine ⟨rfl, rfl, fun name => ?_, [], List.nodup_nil, fun name => ?_, rfl⟩
    · rw [hempty name]
      intro rank dir d hmem
      cases hmem
    · rw [hempty name]
      simp
  rw [scan_eq_foldl_see]
  exact hstart.foldl (fun s hs => (mem_sightings_iff r s).1 hs) (pairwise_sightings r)

/-- After a scan every name is merged from the copies that the directories hold. -/
theorem Scanned.mergedFrom {r₀ r : Registry} (h : Scanned r₀ r₀.sightings r) (name : String) :
    MergedFrom r₀ name (r₀.Holds name) (r.find? name) :=
  (h.merged name).congr fun rank dir => mem_sightings_iff r₀ ⟨rank, dir, name⟩

/-! ## Another scan -/

/-- A copy above the one that speaks for a name is no lower shadow than the one recorded. -/
theorem MergedFrom.shadowedBy_eq_self {r : Registry} {name : String} {held : Nat → Path → Prop}
    {e : Entry} {rank : Nat} {dir : Path} (hheld : held rank dir)
    (hbefore : e.rank?.any (· < rank) = true)
    (h : MergedFrom r name held (some e)) : e.shadowedBy rank = e := by
  obtain ⟨rank₁, dir₁, d, shadow?, -, -, -, rfl, hshadow⟩ := h
  have hlt : rank₁ < rank := by simpa [Entry.ofDocument] using hbefore
  have hrank : SearchPath.userRank < rank := Nat.lt_of_le_of_lt (Nat.zero_le rank₁) hlt
  have hsame : some ((shadow?.map fun shadow => min shadow rank).getD rank) = shadow? := by
    split at hshadow
    · rw [hshadow]
      exact congrArg some (Nat.min_eq_left (Nat.le_of_lt hlt))
    · rcases shadow? with _ | shadow
      · exact absurd ⟨hrank, dir, hheld⟩ (hshadow rank)
      · exact congrArg some (Nat.min_eq_left (hshadow.2 rank ⟨hrank, dir, hheld⟩))
  rw [shadowedBy_eq hrank]
  dsimp only
  rw [hsame]

/-- The copy that speaks for a name makes the launcher that it made before. -/
theorem MergedFrom.made_eq_self {r₀ r : Registry} {name : String} {e : Entry} {rank : Nat}
    {dir : Path} {d : Document} (hsettings : r.settings = r₀.settings)
    (hfind : r.find? name = some e) (hheld : r₀.Holds name rank dir)
    (hreads : r₀.Reads (dir.join name) d) (hbefore : ¬ e.rank?.any (· < rank) = true)
    (h : MergedFrom r₀ name (r₀.Holds name) (some e)) :
    (SearchPath.userRank < rank → e.shadow? = some rank) ∧
      r.made (dir.join name) name rank d = e := by
  obtain ⟨rank₁, dir₁, d₁, shadow?, hheld₁, hreads₁, hleast, he, hshadow⟩ := h
  -- The copy has the lowest rank that can be used, and so has the one that made the launcher.
  have hle : rank₁ ≤ rank := hleast rank dir d hheld hreads
  have hge : rank ≤ rank₁ := by simpa [he, Entry.ofDocument] using hbefore
  obtain rfl : rank₁ = rank := Nat.le_antisymm hle hge
  obtain rfl : dir₁ = dir := Option.some.inj (hheld₁.1.symm.trans hheld.1)
  obtain rfl : d₁ = d := hreads₁.unique hreads
  refine ⟨fun hrank => ?_, ?_⟩
  · rw [if_pos hrank] at hshadow
    rw [he, hshadow]
  · unfold made
    rw [hsettings, hfind, he]
    split at hshadow
    · next hrank => rw [if_pos hrank, hshadow]
    · next hrank => rw [if_neg hrank]; rfl

/-- Seeing a copy again changes no launcher once every name is merged from all copies. -/
theorem see_entries {r₀ r : Registry} {s : Sighting} (hfiles : r.files = r₀.files)
    (hsettings : r.settings = r₀.settings) (hheld : r₀.Holds s.name s.rank s.dir)
    (h : MergedFrom r₀ s.name (r₀.Holds s.name) (r.find? s.name)) :
    (r.see s).entries = r.entries := by
  have hload := see_eq_loadEntry r hheld
  unfold loadEntry at hload
  rcases hfind : r.find? s.name with _ | e
  · -- No copy of the name can be used.
    rw [hfind] at hload h
    have hnot : ∀ d, ¬ r.Reads (s.dir.join s.name) d := fun d hd =>
      h s.rank s.dir d hheld ((reads_congr hfiles hsettings _ _).1 hd)
    rw [hload.trans (readEntry_of_not_reads hnot s.name s.rank)]
  · -- Nothing is pending and no own write is awaited, so only the ranks decide.
    rw [hfind] at hload h
    simp only [h.settled.1, h.settled.2, Bool.false_eq_true, and_false, if_false,
      Bool.or_false] at hload
    by_cases hbefore : e.rank?.any (· < s.rank) = true
    · rw [if_pos hbefore, h.shadowedBy_eq_self hheld hbefore] at hload
      rw [hload]
      exact set_entries_of_find? hfind
    · rw [if_neg hbefore] at hload
      by_cases hreads : ∃ d, r.Reads (s.dir.join s.name) d
      · obtain ⟨d, hd⟩ := hreads
        have hd₀ := (reads_congr hfiles hsettings _ _).1 hd
        obtain ⟨hshadow, hmade⟩ := h.made_eq_self hsettings hfind hheld hd₀ hbefore
        have horder : SearchPath.userRank < s.rank →
            ∀ n, (r.find? s.name).bind Entry.shadow? = some n → s.rank ≤ n := by
          intro hrank n hn
          rw [hfind] at hn
          have hn' : e.shadow? = some n := hn
          rw [hshadow hrank] at hn'
          exact Nat.le_of_eq (Option.some.inj hn')
        rw [hload, readEntry_of_reads hd horder, hmade]
        exact set_entries_of_find? hfind
      · have hnot : ∀ d, ¬ r.Reads (s.dir.join s.name) d := fun d hd => hreads ⟨d, hd⟩
        rw [hload, readEntry_of_not_reads hnot]

/-- Seeing copies again changes no launcher once every name is merged from all copies. -/
theorem foldl_see_entries {r₀ r : Registry} {rest : List Sighting}
    (hfiles : r.files = r₀.files) (hsettings : r.settings = r₀.settings)
    (hheld : ∀ s ∈ rest, r₀.Holds s.name s.rank s.dir)
    (h : ∀ name, MergedFrom r₀ name (r₀.Holds name) (r.find? name)) :
    (rest.foldl see r).entries = r.entries := by
  induction rest generalizing r with
  | nil => rfl
  | cons s rest ih =>
    have hs := hheld s List.mem_cons_self
    have hstep := see_step r hs
    have hentries := see_entries hfiles hsettings hs (h s.name)
    rw [List.foldl_cons, ← hentries]
    refine ih (hstep.files_eq.trans hfiles) (hstep.settings_eq.trans hsettings)
      (fun t ht => hheld t (List.mem_cons_of_mem s ht)) fun name => ?_
    unfold find?
    rw [hentries]
    exact h name

/-- A scan after a scan changes no launcher. -/
theorem scan_scan_entries {r : Registry} (hempty : ∀ name, r.find? name = none) :
    r.scan.scan.entries = r.scan.entries := by
  have hscanned := scanned_scan hempty
  rw [scan_eq_foldl_see r.scan]
  refine foldl_see_entries hscanned.files_eq hscanned.settings_eq (fun s hs => ?_)
    hscanned.mergedFrom
  have hheld := (mem_sightings_iff r.scan s).1 hs
  unfold Holds searchPath at hheld
  rw [hscanned.files_eq, hscanned.settings_eq] at hheld
  exact hheld

/-- A name with a launcher is one with a copy that can be used. -/
theorem MergedFrom.isSome_iff {r : Registry} {name : String} {held : Nat → Path → Prop}
    {known? : Option Entry} (h : MergedFrom r name held known?) :
    known?.isSome = true ↔ ∃ rank dir d, held rank dir ∧ r.Reads (dir.join name) d := by
  rcases known? with _ | e
  · constructor
    · intro hsome
      cases hsome
    · rintro ⟨rank, dir, d, hheld, hreads⟩
      exact absurd hreads (h rank dir d hheld)
  · obtain ⟨rank, dir, d, -, hheld, hreads, -⟩ := h
    exact ⟨fun _ => ⟨rank, dir, d, hheld, hreads⟩, fun _ => rfl⟩

/-- A scan of a registry that knows no launcher is the merge of the search path by rank. A name gets
a launcher exactly when some directory holds a copy that can be read and may run. The launcher is
that of the lowest such rank, without changes and with no save due, and its shadow is its own rank
in the system and else the lowest rank of the system that holds the name at all. The observers are
told of each launcher once and of nothing else, and another scan changes no launcher. -/
theorem scan_merges_by_rank (settings : Settings) (files : FileStore) (now : Nat)
    (observers : Observers) :
    let r : Registry := ⟨settings, files, now, SortedMap.empty, observers⟩
    (∀ name, (r.scan.find? name).isSome = true ↔
      ∃ rank dir d, r.Holds name rank dir ∧ r.Reads (dir.join name) d) ∧
    (∀ name e, r.scan.find? name = some e →
      (∃ rank dir d shadow?, r.Holds name rank dir ∧ r.Reads (dir.join name) d ∧
        (∀ rank' dir' d', r.Holds name rank' dir' → r.Reads (dir'.join name) d' →
          rank ≤ rank') ∧
        e = { Entry.ofDocument name (dir.join name) d settings.locale? rank with shadow? } ∧
        (if SearchPath.userRank < rank then shadow? = some rank
          else Lowest (fun n => SearchPath.userRank < n ∧ ∃ dir, r.Holds name n dir) shadow?)) ∧
      e.dirty = .none ∧ e.base? = none ∧ e.ownWrite = false ∧ e.due? = none) ∧
    ToldOfEach r r.scan ∧
    r.scan.scan.entries = r.scan.entries := by
  intro r
  have hempty : ∀ name, r.find? name = none := fun _ => rfl
  have hscanned := scanned_scan hempty
  refine ⟨fun name => (hscanned.mergedFrom name).isSome_iff, fun name e he => ?_, hscanned.told,
    scan_scan_entries hempty⟩
  have hmerged := hscanned.mergedFrom name
  rw [he] at hmerged
  refine ⟨hmerged, ?_⟩
  obtain ⟨rank, dir, d, shadow?, -, -, -, rfl, -⟩ := hmerged
  exact ⟨rfl, rfl, rfl, rfl⟩

end Autostart.Registry
