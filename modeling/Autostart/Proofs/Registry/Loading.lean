import Autostart.Proofs.Path.Ranks
import Autostart.Registry.Precedence
import Autostart.SortedMap.Lemmas

/-!
# What loading a file does

Loading a file touches the launcher of its file name only, and neither the files nor the settings.
It does one of four things: nothing at all, taking back the mark of an own write, casting a shadow,
or making the launcher anew.
-/

namespace Autostart.Registry

/-! ## Launchers of a changed registry -/

/-- A file name has the launcher that was set for it last. -/
@[simp]
theorem find?_set (r : Registry) (name name' : String) (e : Entry) :
    (r.set name' e).find? name = if name = name' then some e else r.find? name := by
  simp [set, find?]

/-- A launcher that was set is found. -/
theorem find?_set_self (r : Registry) (name : String) (e : Entry) :
    (r.set name e).find? name = some e := by
  rw [find?_set, if_pos rfl]

/-- A dropped file name has no launcher. -/
@[simp]
theorem find?_drop (r : Registry) (name name' : String) :
    (r.drop name').find? name = if name = name' then none else r.find? name := by
  simp [drop, find?]

/-- Telling the observers changes no launcher. -/
@[simp]
theorem find?_tell (r : Registry) (event : Event) (name : String) :
    (r.tell event).find? name = r.find? name :=
  rfl

/-- Setting a launcher that is there already changes no launcher. -/
theorem set_entries_of_find? {r : Registry} {name : String} {e : Entry}
    (h : r.find? name = some e) : (r.set name e).entries = r.entries := by
  refine SortedMap.ext_find? fun name' => ?_
  show (r.set name e).find? name' = r.find? name'
  rw [find?_set]
  split
  · next heq => rw [heq, h]
  · rfl

/-- Setting a launcher again replaces it. -/
theorem set_set (r : Registry) (name : String) (e e' : Entry) :
    (r.set name e).set name e' = r.set name e' := by
  have hentries : (r.entries.insert name e).insert name e' = r.entries.insert name e' := by
    refine SortedMap.ext_find? fun name' => ?_
    simp only [SortedMap.find?_insert]
    split <;> rfl
  unfold set
  dsimp only
  rw [hentries]

/-- Launchers of different file names can be set in any order. -/
theorem set_comm (r : Registry) {name name' : String} (hne : name ≠ name') (e e' : Entry) :
    (r.set name e).set name' e' = (r.set name' e').set name e := by
  have hentries : (r.entries.insert name e).insert name' e' =
      (r.entries.insert name' e').insert name e := by
    refine SortedMap.ext_find? fun key => ?_
    simp only [SortedMap.find?_insert]
    split
    · next heq => rw [if_neg fun h => hne (h.symm.trans heq)]
    · rfl
  unfold set
  dsimp only
  rw [hentries]

/-- Dropping a launcher that was just set drops it. -/
theorem drop_set (r : Registry) (name : String) (e : Entry) :
    (r.set name e).drop name = r.drop name := by
  have hentries : (r.entries.insert name e).erase name = r.entries.erase name := by
    refine SortedMap.ext_find? fun name' => ?_
    simp only [SortedMap.find?_insert, SortedMap.find?_erase]
    split <;> rfl
  unfold set drop
  dsimp only
  rw [hentries]

/-! ## Loading -/

/-- A definition of the system casts the lower of its rank and the earlier shadow. -/
theorem shadowedBy_eq {rank : Nat} (h : SearchPath.userRank < rank) (e : Entry) :
    e.shadowedBy rank =
      { e with shadow? := some ((e.shadow?.map fun shadow => min shadow rank).getD rank) } := by
  unfold Entry.shadowedBy
  rw [if_pos h]
  rcases e.shadow? with _ | shadow <;> rfl

/-- The launcher that a document of a file makes. Its shadow is its own rank in the system, and what
was recorded before at the rank of the user. -/
def made (r : Registry) (path : Path) (name : String) (rank : Nat) (d : Document) : Entry :=
  { Entry.ofDocument name path d r.settings.locale? rank with
    shadow? :=
      if SearchPath.userRank < rank then some rank else (r.find? name).bind Entry.shadow? }

/-- A document can be read from a file, and may run on this desktop. -/
def Reads (r : Registry) (path : Path) (d : Document) : Prop :=
  Document.load r.files path = .ok d ∧ Entry.isLaunchable d r.settings.desktops = true

/-- A file has at most one document. -/
theorem Reads.unique {r : Registry} {path : Path} {d d' : Document} (h : r.Reads path d)
    (h' : r.Reads path d') : d = d' :=
  Except.ok.inj (h.1.symm.trans h'.1)

/-- What becomes of the registry when a file of a rank is loaded under a file name. -/
inductive LoadStep (r : Registry) (path : Path) (name : String) (rank : Nat) : Registry → Prop where
  /-- Nothing. -/
  | nothing : LoadStep r path name rank r
  /-- The report of an own write is taken. -/
  | ownWrite (e : Entry) (find : r.find? name = some e) (same : e.rank? = some rank)
      (own : e.ownWrite = true) :
      LoadStep r path name rank (r.set name { e with ownWrite := false })
  /-- A launcher that goes before the file, or has changes, gets its shadow. -/
  | shadow (e : Entry) (find : r.find? name = some e)
      (before : e.rank?.any (· < rank) = true ∨ e.isPending = true) :
      LoadStep r path name rank (r.set name (e.shadowedBy rank))
  /-- The launcher is made anew, in place of one without changes if there was one. -/
  | loaded (d : Document) (event : Event) (reads : r.Reads path d)
      (settled : ∀ e, r.find? name = some e → e.isPending = false) :
      LoadStep r path name rank ((r.set name (r.made path name rank d)).tell event)

/-- Making a launcher from a file changes nothing, or makes it from the document of the file. -/
theorem readEntry_cases (r : Registry) (path : Path) (name : String) (rank : Nat) :
    (∃ result, result ≠ .ok .loaded ∧ r.readEntry path name rank = (result, r)) ∨
      ∃ d event, r.Reads path d ∧ r.readEntry path name rank =
        (.ok .loaded, (r.set name (r.made path name rank d)).tell event) := by
  unfold readEntry
  split
  · exact .inl ⟨_, by simp, rfl⟩
  · next d hload =>
    split
    · exact .inl ⟨_, by simp, rfl⟩
    · next hlaunch =>
      dsimp only
      split
      · exact .inl ⟨_, by simp, rfl⟩
      · exact .inr ⟨d, _, ⟨hload, by simpa using hlaunch⟩, rfl⟩

/-- Making a launcher from a file is a step of loading when no changes are lost. -/
theorem readEntry_step {r : Registry} {path : Path} {name : String} {rank : Nat}
    (settled : ∀ e, r.find? name = some e → e.isPending = false) :
    LoadStep r path name rank (r.readEntry path name rank).2 := by
  rcases readEntry_cases r path name rank with ⟨result, -, heq⟩ | ⟨d, event, hreads, heq⟩
  · rw [heq]
    exact .nothing
  · rw [heq]
    exact .loaded d event hreads settled

/-- A file that no document can be read from, or that may not run, changes nothing. -/
theorem readEntry_of_not_reads {r : Registry} {path : Path} (h : ∀ d, ¬ r.Reads path d)
    (name : String) (rank : Nat) : (r.readEntry path name rank).2 = r := by
  unfold readEntry
  split
  · rfl
  · next d hload =>
    have hlaunch : Entry.isLaunchable d r.settings.desktops = false := by
      rcases hl : Entry.isLaunchable d r.settings.desktops with _ | _
      · rfl
      · exact absurd ⟨hload, hl⟩ (h d)
    simp [hlaunch]

/-- A file makes a launcher when it can be read, may run, and no lower rank of the system is
recorded. -/
theorem readEntry_eq_loaded {r : Registry} {path : Path} {d : Document} (h : r.Reads path d)
    {name : String} {rank : Nat} (horder : SearchPath.userRank < rank →
      ∀ n, (r.find? name).bind Entry.shadow? = some n → rank ≤ n) :
    r.readEntry path name rank = (.ok .loaded, (r.set name (r.made path name rank d)).tell
      (if (r.find? name).isSome then .changed name else .added name)) := by
  have hfree : ¬(SearchPath.userRank < rank ∧
      ((r.find? name).bind Entry.shadow?).any (· < rank) = true) := by
    rintro ⟨hrank, hany⟩
    rcases hshadow : (r.find? name).bind Entry.shadow? with _ | n
    · rw [hshadow] at hany
      cases hany
    · rw [hshadow] at hany
      have hlt : n < rank := by simpa using hany
      exact absurd (horder hrank n hshadow) (Nat.not_le.2 hlt)
  unfold readEntry
  rw [h.1]
  simp only [h.2, Bool.not_true, Bool.false_eq_true, if_false, Bool.and_eq_true,
    decide_eq_true_eq, if_neg hfree]
  rfl

/-- The registry that a file which makes a launcher leaves. -/
theorem readEntry_of_reads {r : Registry} {path : Path} {d : Document} (h : r.Reads path d)
    {name : String} {rank : Nat} (horder : SearchPath.userRank < rank →
      ∀ n, (r.find? name).bind Entry.shadow? = some n → rank ≤ n) :
    (r.readEntry path name rank).2 = (r.set name (r.made path name rank d)).tell
      (if (r.find? name).isSome then .changed name else .added name) :=
  congrArg Prod.snd (readEntry_eq_loaded h horder)

/-- Loading a file under a file name does one of four things. -/
theorem loadEntry_step (r : Registry) (path : Path) (name : String) (rank : Nat) :
    LoadStep r path name rank (r.loadEntry path name rank).2 := by
  unfold loadEntry
  split
  · next hnone => exact readEntry_step fun e he => by rw [hnone] at he; cases he
  · next e hfind =>
    split
    · next hown => exact .ownWrite e hfind hown.1 hown.2
    · split
      · next hbefore => exact .shadow e hfind (by simpa using hbefore)
      · next hbefore =>
        have hsettled : e.isPending = false := by
          rcases hp : e.isPending with _ | _
          · rfl
          · simp [hp] at hbefore
        refine readEntry_step fun e' he' => ?_
        obtain rfl := Option.some.inj (hfind.symm.trans he')
        exact hsettled

/-- Loading a path without a file name does nothing. -/
theorem load_of_fileName?_eq_none {path : Path} (h : path.fileName? = none) (r : Registry)
    (rank : Nat) : r.load path rank = (none, r) := by
  unfold load
  rw [h]

/-- Loading a file with a file name leaves the registry that loading it under the name leaves. -/
theorem load_snd {path : Path} {name : String} (h : path.fileName? = some name) (r : Registry)
    (rank : Nat) : (r.load path rank).2 = (r.loadEntry path name rank).2 := by
  unfold load
  rw [h]
  rcases hload : r.loadEntry path name rank with ⟨result, r'⟩
  -- The result decides only which launcher is given.
  simp only [hload]
  rcases result with error | reading
  · rfl
  · cases reading <;> rfl

/-- A load gives the launcher that the registry knows afterwards. -/
theorem find?_of_load {r r' : Registry} {path : Path} {name : String} {rank : Nat} {e : Entry}
    (hname : path.fileName? = some name) (h : r.load path rank = (some e, r')) :
    r'.find? name = some e := by
  unfold load at h
  rw [hname] at h
  dsimp only at h
  split at h
  · obtain ⟨hfind, rfl⟩ := Prod.mk.inj h
    exact hfind
  · cases h

/-- A load under a free name that gives no launcher leaves the registry as it is. -/
theorem load_of_free {r r' : Registry} {path : Path} {name : String} {rank : Nat}
    (hname : path.fileName? = some name) (hfree : r.find? name = none)
    (h : r.load path rank = (none, r')) : r' = r := by
  have hentry : r.loadEntry path name rank = r.readEntry path name rank := by
    unfold loadEntry
    rw [hfree]
  unfold load at h
  rw [hname] at h
  dsimp only at h
  rw [hentry] at h
  rcases readEntry_cases r path name rank with ⟨result, hresult, heq⟩ | ⟨d, event, -, heq⟩
  · rw [heq] at h
    split at h
    · next hloaded => exact absurd (Prod.mk.inj hloaded).1 hresult
    · next hother =>
      obtain ⟨-, rfl⟩ := Prod.mk.inj h
      exact (Prod.mk.inj hother).2.symm
  · rw [heq] at h
    dsimp only at h
    rw [find?_tell, find?_set_self] at h
    cases (Prod.mk.inj h).1

/-- A file that was loaded under a file name made the launcher anew. -/
theorem loaded_of_loadEntry {r r' : Registry} {path : Path} {name : String} {rank : Nat}
    (h : r.loadEntry path name rank = (.ok .loaded, r')) :
    ∃ d event, r.Reads path d ∧ r' = (r.set name (r.made path name rank d)).tell event := by
  -- Taking a report and casting a shadow load nothing, so the file was read.
  have hread : r.readEntry path name rank = (.ok .loaded, r') := by
    unfold loadEntry at h
    split at h
    · exact h
    · split at h
      · cases h
      · split at h
        · cases h
        · exact h
  rcases readEntry_cases r path name rank with ⟨result, hresult, heq⟩ | ⟨d, event, hreads, heq⟩
  · rw [hread] at heq
    exact absurd (Prod.mk.inj heq).1.symm hresult
  · rw [hread] at heq
    exact ⟨d, event, hreads, (Prod.mk.inj heq).2⟩

/-- A load that gives a launcher made it anew from the document of the file. -/
theorem loaded_of_load {r r' : Registry} {path : Path} {rank : Nat} {e : Entry}
    (h : r.load path rank = (some e, r')) :
    ∃ name d event, path.fileName? = some name ∧ r.Reads path d ∧ e = r.made path name rank d ∧
      r' = (r.set name (r.made path name rank d)).tell event := by
  rcases hname : path.fileName? with _ | name
  · rw [load_of_fileName?_eq_none hname] at h
    cases h
  · have hfind := find?_of_load hname h
    have hentry : r.loadEntry path name rank = (.ok .loaded, r') := by
      unfold load at h
      rw [hname] at h
      dsimp only at h
      split at h
      · next heq =>
        obtain ⟨-, rfl⟩ := Prod.mk.inj h
        exact heq
      · cases h
    obtain ⟨d, event, hreads, rfl⟩ := loaded_of_loadEntry hentry
    refine ⟨name, d, event, rfl, hreads, ?_, rfl⟩
    rw [find?_tell, find?_set_self] at hfind
    exact (Option.some.inj hfind).symm

/-- A load sees the same files before and after. -/
theorem LoadStep.files_eq {r r' : Registry} {path : Path} {name : String} {rank : Nat}
    (h : LoadStep r path name rank r') : r'.files = r.files := by
  cases h <;> rfl

/-- A load leaves the settings alone. -/
theorem LoadStep.settings_eq {r r' : Registry} {path : Path} {name : String} {rank : Nat}
    (h : LoadStep r path name rank r') : r'.settings = r.settings := by
  cases h <;> rfl

/-- A load changes no launcher of another file name. -/
theorem LoadStep.find?_of_ne {r r' : Registry} {path : Path} {name name' : String} {rank : Nat}
    (h : LoadStep r path name rank r') (hne : name' ≠ name) : r'.find? name' = r.find? name' := by
  cases h <;> simp [hne]

/-- Loading a file sees the same files before and after. -/
theorem files_load (r : Registry) (path : Path) (rank : Nat) :
    (r.load path rank).2.files = r.files := by
  rcases hname : path.fileName? with _ | name
  · rw [load_of_fileName?_eq_none hname]
  · rw [load_snd hname]
    exact (loadEntry_step r path name rank).files_eq

/-- A report of a change concerns the launcher of the reported file only. -/
theorem fileChanged_frame (r : Registry) (path : Path) :
    (r.fileChanged path).2.files = r.files ∧ (r.fileChanged path).2.settings = r.settings ∧
      ∀ name, path.fileName? ≠ some name → (r.fileChanged path).2.find? name = r.find? name := by
  unfold fileChanged
  split
  · split
    · next rank hrank =>
      rcases hname : path.fileName? with _ | name
      · rw [load_of_fileName?_eq_none hname]
        exact ⟨rfl, rfl, fun _ _ => rfl⟩
      · have hstep := loadEntry_step r path name rank
        rw [load_snd hname]
        exact ⟨hstep.files_eq, hstep.settings_eq, fun name' hne =>
          hstep.find?_of_ne fun heq => hne (congrArg some heq.symm)⟩
    · exact ⟨rfl, rfl, fun _ _ => rfl⟩
  · exact ⟨rfl, rfl, fun _ _ => rfl⟩

/-! ## Removed files -/

/-- The next definitions of a file name are the files of the name at the ranks after a rank. -/
theorem mem_definitionsAfter {r : Registry} {rank : Nat} {name : String} {place : Nat × Path} :
    place ∈ r.definitionsAfter rank name ↔ rank < place.1 ∧
      r.searchPath.pathAt? place.1 name = some place.2 ∧ r.files.isFile place.2 = true := by
  unfold definitionsAfter
  rw [List.mem_filterMap]
  constructor
  · rintro ⟨next, hnext, hplace⟩
    split at hplace
    · next path hpath =>
      split at hplace
      · next hfile =>
        obtain rfl := Option.some.inj hplace
        exact ⟨(SearchPath.mem_systemRanksAfter.1 hnext).1, hpath, hfile⟩
      · cases hplace
    · cases hplace
  · rintro ⟨hlt, hpath, hfile⟩
    obtain ⟨dir, hdir, -⟩ := SearchPath.exists_of_pathAt? hpath
    have hsize := SearchPath.lt_size_of_directoryAt? hdir
    refine ⟨place.1, SearchPath.mem_systemRanksAfter.2 ⟨hlt, hsize⟩, ?_⟩
    rw [hpath]
    exact if_pos hfile

/-- The next definitions of a file name belong to the system, and are the paths of the name at their
ranks. -/
theorem definitionsAfter_spec {r : Registry} {rank : Nat} {name : String} {place : Nat × Path}
    (h : place ∈ r.definitionsAfter rank name) :
    SearchPath.userRank < place.1 ∧ r.searchPath.pathAt? place.1 name = some place.2 := by
  obtain ⟨hlt, hpath, -⟩ := mem_definitionsAfter.1 h
  exact ⟨Nat.zero_lt_of_lt hlt, hpath⟩

/-- The next definitions of a file name have this name. -/
theorem fileName?_definitionsAfter {r : Registry} {rank : Nat} {name : String}
    (hname : Path.IsFileName name) {place : Nat × Path}
    (h : place ∈ r.definitionsAfter rank name) : place.2.fileName? = some name := by
  obtain ⟨dir, -, heq⟩ := SearchPath.exists_of_pathAt? (definitionsAfter_spec h).2
  rw [← heq]
  exact Path.fileName?_join dir hname

/-- Loading the first of some files under the name of a launcher without rank and changes takes the
launcher back from one of them, or leaves the registry as it is. -/
theorem loadFirst_cases {r : Registry} {name : String} {detached : Entry}
    (hfind : r.find? name = some detached) (hrank : detached.rank? = none)
    (hsettled : detached.isPending = false) (places : List (Nat × Path))
    (hname : ∀ place ∈ places, place.2.fileName? = some name) :
    r.loadFirst places = (false, r) ∨
      ∃ place ∈ places, ∃ d event, r.Reads place.2 d ∧ r.loadFirst places =
        (true, (r.set name (r.made place.2 name place.1 d)).tell event) := by
  induction places with
  | nil => exact .inl rfl
  | cons place rest ih =>
    -- Without a rank the launcher is outranked by no file, so each file is read.
    have hrest := ih fun p hp => hname p (List.mem_cons_of_mem place hp)
    have hentry : r.loadEntry place.2 name place.1 = r.readEntry place.2 name place.1 := by
      unfold loadEntry
      rw [hfind]
      simp [hrank, hsettled]
    have hskip : r.loadFirst rest = (false, r) ∨
        ∃ place' ∈ place :: rest, ∃ d event, r.Reads place'.2 d ∧ r.loadFirst rest =
          (true, (r.set name (r.made place'.2 name place'.1 d)).tell event) := by
      refine hrest.imp_right ?_
      rintro ⟨place', hmem, hloaded⟩
      exact ⟨place', List.mem_cons_of_mem place hmem, hloaded⟩
    unfold loadFirst load
    rw [hname place List.mem_cons_self]
    dsimp only
    rw [hentry]
    rcases readEntry_cases r place.2 name place.1 with
      ⟨result, hresult, heq⟩ | ⟨d, event, hreads, heq⟩
    · rw [heq]
      rcases result with error | reading
      · exact hskip
      · cases reading with
        | loaded => exact absurd rfl hresult
        | skipped => exact hskip
    · rw [heq]
      refine .inr ⟨place, List.mem_cons_self, d, event, hreads, ?_⟩
      simp

/-- The first of some files makes the launcher anew, for one without rank, shadow and changes, when
it can be read and may run. -/
theorem loadFirst_of_reads {r : Registry} {name : String} {detached : Entry}
    (hfind : r.find? name = some detached) (hrank : detached.rank? = none)
    (hsettled : detached.isPending = false) (hshadow : detached.shadow? = none) {place : Nat × Path}
    (hname : place.2.fileName? = some name) {d : Document} (hreads : r.Reads place.2 d)
    (rest : List (Nat × Path)) :
    r.loadFirst (place :: rest) =
      (true, (r.set name (r.made place.2 name place.1 d)).tell (.changed name)) := by
  have horder : SearchPath.userRank < place.1 →
      ∀ n, (r.find? name).bind Entry.shadow? = some n → place.1 ≤ n := by
    intro _ n hn
    rw [hfind] at hn
    simp [hshadow] at hn
  have hentry : r.loadEntry place.2 name place.1 = r.readEntry place.2 name place.1 := by
    unfold loadEntry
    rw [hfind]
    simp [hrank, hsettled]
  unfold loadFirst load
  rw [hname]
  dsimp only
  rw [hentry, readEntry_eq_loaded hreads horder, hfind]
  simp

/-- What becomes of the registry when a file is reported as removed. -/
inductive RemovalStep (r : Registry) (path : Path) : Registry → Prop where
  /-- Nothing. -/
  | nothing : RemovalStep r path r
  /-- The shadow of a launcher with another source goes up. -/
  | unshadowed (rank : Nat) (name : String) (e : Entry) (shadow? : Option Nat)
      (rank_eq : r.searchPath.rankOf? path = some rank) (name_eq : path.fileName? = some name)
      (find : r.find? name = some e) (other : e.source.same path = false)
      (shadow_eq : e.shadow? = some rank) :
      RemovalStep r path (r.set name { e with shadow? })
  /-- The next definition takes over from a source that is gone. -/
  | replaced (name : String) (e : Entry) (rank : Nat) (next : Path) (d : Document) (event : Event)
      (name_eq : path.fileName? = some name) (find : r.find? name = some e)
      (settled : e.isPending = false) (system : SearchPath.userRank < rank)
      (next_eq : r.searchPath.pathAt? rank name = some next) (reads : r.Reads next d) :
      RemovalStep r path ((r.set name (r.made next name rank d)).tell event)
  /-- A launcher whose source is gone is dropped. -/
  | dropped (name : String) (name_eq : path.fileName? = some name) :
      RemovalStep r path ((r.drop name).tell (.removed name))

/-- A launcher whose source is gone gives way to the next definition, or is dropped. -/
theorem detached_step {r : Registry} {path : Path} {name : String} {e : Entry} (rank : Nat)
    (hname : path.fileName? = some name) (hfind : r.find? name = some e)
    (hsettled : e.isPending = false) :
    RemovalStep r path
      (match (r.set name { e with rank? := none, shadow? := none }).loadFirst
          (r.definitionsAfter rank name) with
        | (true, r) => r
        | (false, r) => (r.drop name).tell (.removed name)) := by
  generalize hdetached : { e with rank? := none, shadow? := none } = detached
  have hrank' : detached.rank? = none := by rw [← hdetached]
  have hsettled' : detached.isPending = false := by
    rw [← hdetached]
    exact hsettled
  have hfind' : (r.set name detached).find? name = some detached := by simp
  have hnames : ∀ place ∈ r.definitionsAfter rank name, place.2.fileName? = some name :=
    fun _ => fileName?_definitionsAfter (Path.isFileName_of_fileName? hname)
  rcases loadFirst_cases hfind' hrank' hsettled' _ hnames with
    heq | ⟨place, hplace, d, event, hreads, heq⟩
  · rw [heq]
    dsimp only
    rw [drop_set]
    exact .dropped name hname
  · obtain ⟨hsystem, hpath⟩ := definitionsAfter_spec hplace
    -- In the system the shadow is the rank, whatever was recorded before.
    have hmade : (r.set name detached).made place.2 name place.1 d =
        r.made place.2 name place.1 d := by
      unfold made
      rw [if_pos hsystem, if_pos hsystem]
      rfl
    rw [heq]
    dsimp only
    rw [set_set, hmade]
    exact .replaced name e place.1 place.2 d event hname hfind hsettled hsystem hpath hreads

/-- A report of a removal does one of four things. -/
theorem fileRemoved_step (r : Registry) (path : Path) :
    RemovalStep r path (r.fileRemoved path) := by
  unfold fileRemoved
  split
  · next rank name hrank hname =>
    split
    · exact .nothing
    · next e hfind =>
      split
      · exact .nothing
      · next hpending =>
        split
        · next hother =>
          split
          · next hshadow =>
            exact .unshadowed rank name e _ hrank hname hfind (by simpa using hother) hshadow
          · exact .nothing
        · exact detached_step rank hname hfind (by simpa using hpending)
  · exact .nothing

/-- A report of a removal concerns the launcher of the reported file only. -/
theorem fileRemoved_frame (r : Registry) (path : Path) :
    (r.fileRemoved path).files = r.files ∧ (r.fileRemoved path).settings = r.settings ∧
      ∀ name, path.fileName? ≠ some name → (r.fileRemoved path).find? name = r.find? name := by
  have hstep := fileRemoved_step r path
  generalize r.fileRemoved path = r' at hstep
  cases hstep with
  | nothing => exact ⟨rfl, rfl, fun _ _ => rfl⟩
  | unshadowed rank name e shadow? rank_eq name_eq find other shadow_eq =>
    refine ⟨rfl, rfl, fun name' hne => ?_⟩
    rw [name_eq] at hne
    rw [find?_set, if_neg fun heq => hne (congrArg some heq.symm)]
  | replaced name e rank next d event name_eq find settled system next_eq reads =>
    refine ⟨rfl, rfl, fun name' hne => ?_⟩
    rw [name_eq] at hne
    rw [find?_tell, find?_set, if_neg fun heq => hne (congrArg some heq.symm)]
  | dropped name name_eq =>
    refine ⟨rfl, rfl, fun name' hne => ?_⟩
    rw [name_eq] at hne
    rw [find?_tell, find?_drop, if_neg fun heq => hne (congrArg some heq.symm)]

end Autostart.Registry
