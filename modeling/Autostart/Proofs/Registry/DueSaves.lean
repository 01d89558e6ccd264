import Autostart.Proofs.Registry.Confinement

/-!
# Saves that are due

Running the due saves is saving some launchers one after the other, each as it stood before: a save
touches its own launcher and the file of its source only. However a save ends, it is not due any
more, so once the due saves were run no save is due before its time comes. What is said here holds
of every registry, whatever led to it.
-/

namespace Autostart.Registry

/-- When the save of the launcher of a file name is due. -/
def dueOf? (r : Registry) (name : String) : Option Nat :=
  (r.find? name).bind Entry.due?

/-- The save of the launcher of a file name is due by now. -/
def IsDue (r : Registry) (name : String) : Prop :=
  ∃ due, r.dueOf? name = some due ∧ due ≤ r.now

/-- The launchers whose saves are run are those with a save that is due. -/
theorem mem_dueNames_iff {r : Registry} {name : String} :
    name ∈ r.namesWhere (fun e => e.due?.any (· ≤ r.now)) ↔ r.IsDue name := by
  rw [mem_namesWhere_iff]
  unfold IsDue dueOf?
  constructor
  · rintro ⟨e, hfind, hany⟩
    obtain ⟨due, hdue, hle⟩ := (Option.any_eq_true _ _).1 hany
    exact ⟨due, by rw [hfind]; exact hdue, of_decide_eq_true hle⟩
  · rintro ⟨due, hdue, hle⟩
    obtain ⟨e, hfind, hdue⟩ := Option.bind_eq_some_iff.1 hdue
    exact ⟨e, hfind, by simpa [hdue] using hle⟩

variable {r r' : Registry}

/-! ## One save -/

/-- A save changes neither the clock nor the settings. -/
theorem flush_frame (r : Registry) (name : String) :
    (r.flush name).2.now = r.now ∧ (r.flush name).2.settings = r.settings := by
  rcases hresult : r.flush name with ⟨outcome, r'⟩
  cases flush_step hresult <;> exact ⟨rfl, rfl⟩

/-- However a save ends, it is not due any more, and those of other launchers are due as before. -/
theorem dueOf?_flush (r : Registry) (name name' : String) :
    (r.flush name).2.dueOf? name' = if name' = name then none else r.dueOf? name' := by
  unfold dueOf?
  by_cases hne : name' = name
  · subst hne
    rw [if_pos rfl]
    rcases hresult : r.flush name' with ⟨outcome, r'⟩
    cases flush_step hresult with
    | unknown find => rw [find]; rfl
    | idle e find settled =>
      rw [find]
      rcases hdue : e.due? with _ | due
      · exact hdue
      · simp [Entry.isPending, hdue] at settled
    | back | written | failed => rw [find?_set_self]; rfl
  · rw [if_neg hne, find?_flush_of_ne (Ne.symm hne)]

/-- A save touches the file of the source of its launcher only. -/
theorem touches_flush (r : Registry) (name : String) :
    r.files.Touches (r.flush name).2.files r.searchPath.userDirectory fun l =>
      ∃ e, r.find? name = some e ∧ l = r.files.locationOf e.source := by
  rcases hresult : r.flush name with ⟨outcome, r'⟩
  cases flush_step hresult with
  | unknown => exact .refl _ _ _
  | idle => exact .refl _ _ _
  | back e rank path files find _ _ removed =>
    rcases Backed.withoutOverride_spec removed with rfl | ⟨-, hremoved⟩
    · exact .refl _ _ _
    · exact (touches_withoutFile hremoved _).mono fun l hl => ⟨e, find, hl⟩
  | written e files find _ write =>
    exact (touches_of_writeUser write).1.mono fun l hl => ⟨e, find, hl⟩
  | failed e error files _ _ touches => exact touches.mono fun _ => False.elim

/-- A launcher that waits for its save does not find that there is nothing to save. -/
theorem flush_ne_idle {name : String} {e : Entry} (hfind : r.find? name = some e)
    (hpending : e.isPending = true) : (r.flush name).1 ≠ .ok .idle := by
  rcases hresult : r.flush name with ⟨outcome, r'⟩
  rintro rfl
  cases flush_step hresult with
  | idle e' find settled =>
    obtain rfl := Option.some.inj (hfind.symm.trans find)
    rw [hpending] at settled
    cases settled

/-! ## Saves one after the other -/

/-- A record of saves: the file names, each with how its save ended. -/
abbrev SaveLog : Type :=
  List (String × Except Error Saved)

/-- The file names of a record, in the order of the saves. -/
def SaveLog.names (log : SaveLog) : List String :=
  log.map Prod.fst

/-- The failures of a record, in the order of the saves. -/
def SaveLog.failures (log : SaveLog) : List (String × Error) :=
  log.filterMap fun (name, outcome) =>
    match outcome with
    | .ok _ => none
    | .error e => some (name, e)

/-- Saves one after the other lead from a registry to another, and this is the record of them. -/
inductive Saves : Registry → SaveLog → Registry → Prop where
  /-- Nothing is saved. -/
  | nil (r : Registry) : Saves r [] r
  /-- A launcher is saved, and then others. -/
  | cons {r r' r'' : Registry} {name : String} {outcome : Except Error Saved} {rest : SaveLog}
      (first : r.flush name = (outcome, r')) (others : Saves r' rest r'') :
      Saves r ((name, outcome) :: rest) r''

/-- Saving some launchers one after the other gives the failures of its record. -/
theorem saves_flushEach (r : Registry) (names : List String) :
    ∃ log : SaveLog, Saves r log (r.flushEach names).2 ∧ log.names = names ∧
      (r.flushEach names).1 = log.failures := by
  -- The record is that of the first save, followed by that of the others.
  induction names generalizing r with
  | nil => exact ⟨[], .nil r, rfl, rfl⟩
  | cons name rest ih =>
    unfold flushEach
    split
    · next saved r' hflush =>
      obtain ⟨log, hsaves, hnames, hfailures⟩ := ih r'
      exact ⟨(name, .ok saved) :: log, .cons hflush hsaves, congrArg (name :: ·) hnames, hfailures⟩
    · next e r' hflush =>
      obtain ⟨log, hsaves, hnames, hfailures⟩ := ih r'
      exact ⟨(name, .error e) :: log, .cons hflush hsaves, congrArg (name :: ·) hnames,
        congrArg ((name, e) :: ·) hfailures⟩

namespace Saves

variable {log : SaveLog}

/-- Saves do not change the clock. -/
theorem now_eq (h : Saves r log r') : r'.now = r.now := by
  induction h with
  | nil => rfl
  | @cons r r₁ _ name _ _ first _ ih =>
    have hfirst := (flush_frame r name).1
    rw [first] at hfirst
    exact ih.trans hfirst

/-- Saves change no launcher that is not saved. -/
theorem find?_eq (h : Saves r log r') {name : String} (hname : name ∉ log.names) :
    r'.find? name = r.find? name := by
  induction h with
  | nil => rfl
  | @cons r r₁ _ saved _ _ first _ ih =>
    obtain ⟨hne, hrest⟩ := not_or.1 (mt List.mem_cons.2 hname)
    have hfirst := find?_flush_of_ne (r := r) (Ne.symm hne)
    rw [first] at hfirst
    rw [ih hrest, hfirst]

/-- No save is due for a launcher that was saved, and that of any other is due as before. -/
theorem dueOf?_eq (h : Saves r log r') (name : String) :
    r'.dueOf? name = if name ∈ log.names then none else r.dueOf? name := by
  induction h with
  | nil => rfl
  | @cons r r₁ _ saved outcome rest first _ ih =>
    have hfirst : r₁.dueOf? name = if name = saved then none else r.dueOf? name := by
      rw [← dueOf?_flush, first]
    have hmem : name ∈ SaveLog.names ((saved, outcome) :: rest) ↔
        name = saved ∨ name ∈ rest.names := List.mem_cons
    rw [ih, hfirst]
    -- A launcher that was saved first has no save due, whether it is saved again or not.
    by_cases hsaved : name = saved
    · rw [if_pos hsaved, if_pos (hmem.2 (.inl hsaved)), ite_self]
    · simp only [hmem, hsaved, if_false, false_or]

/-- Each launcher is saved as it was before the first save, when none is saved twice. -/
theorem exists_flush (h : Saves r log r') (hnodup : log.names.Nodup) {name : String}
    {outcome : Except Error Saved} (hmem : (name, outcome) ∈ log) :
    ∃ r₁ : Registry, r₁.find? name = r.find? name ∧ (r₁.flush name).1 = outcome := by
  induction h with
  | nil => cases hmem
  | @cons r r₁ _ saved _ rest first _ ih =>
    obtain ⟨hfresh, hrest⟩ := List.nodup_cons.1 hnodup
    have hnames : ∀ {outcome}, (name, outcome) ∈ rest → name ∈ rest.names := List.mem_map_of_mem
    -- A launcher that is saved later is another one, which the first save leaves as it is.
    rcases List.mem_cons.1 hmem with heq | hmem
    · cases heq
      exact ⟨r, rfl, congrArg Prod.fst first⟩
    · obtain ⟨r₂, hfind, houtcome⟩ := ih hrest hmem
      have hne : saved ≠ name := fun heq => hfresh (heq ▸ hnames hmem)
      have hfirst := find?_flush_of_ne (r := r) hne
      rw [first] at hfirst
      exact ⟨r₂, hfind.trans hfirst, houtcome⟩

/-- Saves touch the files of the sources of their launchers only, when none is saved twice. -/
theorem touches (h : Saves r log r') (hnodup : log.names.Nodup) :
    r.files.Touches r'.files r.searchPath.userDirectory fun l =>
      ∃ name ∈ log.names, ∃ e, r.find? name = some e ∧ l = r.files.locationOf e.source := by
  induction h with
  | nil => exact .refl _ _ _
  | @cons r r₁ _ saved _ rest first _ ih =>
    obtain ⟨hfresh, hrest⟩ := List.nodup_cons.1 hnodup
    have hfirst := touches_flush r saved
    have hframe := (flush_frame r saved).2
    rw [first] at hfirst hframe
    have hothers := ih hrest
    have hsearch : r₁.searchPath = r.searchPath := congrArg Settings.searchPath hframe
    rw [hsearch] at hothers
    refine (hfirst.mono ?_).trans (hothers.mono ?_)
    · rintro l ⟨e, hfind, hl⟩
      exact ⟨saved, List.mem_cons_self, e, hfind, hl⟩
    · -- The launchers of the later saves are those from before the first one.
      rintro l ⟨name, hname, e, hfind, hl⟩
      have hne : saved ≠ name := fun heq => hfresh (heq ▸ hname)
      have hsame := find?_flush_of_ne (r := r) hne
      rw [first] at hsame
      rw [FileStore.locationOf_congr hfirst.workingDirectory_eq] at hl
      exact ⟨name, List.mem_cons_of_mem saved hname, e, hsame.symm.trans hfind, hl⟩

end Saves

/-! ## The due saves -/

/-- The due saves of a registry were run, and this is the record of them. -/
structure RunsDueSaves (r : Registry) (log : SaveLog) : Prop where
  /-- The saves of the record were made, one after the other. -/
  saves : Saves r log r.runDueSaves.2
  /-- They were made in the order of the file names, none of them twice. -/
  ordered : log.names.Pairwise (· < ·)
  /-- They are those that were due. -/
  due_iff : ∀ name, name ∈ log.names ↔ r.IsDue name
  /-- Each found something to save. -/
  tried : ∀ name outcome, (name, outcome) ∈ log → outcome ≠ .ok .idle
  /-- The failures among them are given. -/
  failures_eq : r.runDueSaves.1 = log.failures
  /-- Every other launcher is left as it is. -/
  others : ∀ name, ¬r.IsDue name → r.runDueSaves.2.find? name = r.find? name
  /-- Every file but those of the sources of the saved launchers is left as it is. -/
  touches : r.files.Touches r.runDueSaves.2.files r.searchPath.userDirectory fun l =>
    ∃ name, r.IsDue name ∧ ∃ e, r.find? name = some e ∧ l = r.files.locationOf e.source
  /-- The time stays. -/
  now_eq : r.runDueSaves.2.now = r.now
  /-- The next save is due later, if there is one. -/
  later : ∀ due, r.runDueSaves.2.nextDue? = some due → r.now < due

/-- The next save to be due is that of a launcher. -/
theorem exists_of_nextDue? {due : Nat} (h : r.nextDue? = some due) :
    ∃ name, r.dueOf? name = some due := by
  obtain ⟨e, he, hdue⟩ := List.mem_filterMap.1 (List.min?_mem h)
  obtain ⟨⟨name, e⟩, hmem, rfl⟩ := List.mem_map.1 he
  refine ⟨name, ?_⟩
  unfold dueOf? find?
  rw [SortedMap.mem_toList_iff.1 hmem]
  exact hdue

/-- The due saves are run, however they end. -/
theorem exists_runsDueSaves (r : Registry) : ∃ log, RunsDueSaves r log := by
  obtain ⟨log, hsaves, hnames, hfailures⟩ :=
    saves_flushEach r (r.namesWhere fun e => e.due?.any (· ≤ r.now))
  have hdue : ∀ name, name ∈ log.names ↔ r.IsDue name := fun name => by
    rw [hnames, mem_dueNames_iff]
  have hnodup : log.names.Nodup := hnames ▸ nodup_namesWhere r _
  refine ⟨log, hsaves, hnames ▸ pairwise_namesWhere r _, hdue, fun name outcome hmem => ?_,
    hfailures, fun name hname => hsaves.find?_eq fun hmem => hname ((hdue name).1 hmem), ?_,
    hsaves.now_eq, fun due hnext => ?_⟩
  · -- A launcher with a save due waits for it, also when its turn comes.
    obtain ⟨r₁, hsame, rfl⟩ := hsaves.exists_flush hnodup hmem
    obtain ⟨due, hdue, -⟩ := (hdue name).1 (List.mem_map_of_mem hmem)
    obtain ⟨e, hfind, hdue⟩ := Option.bind_eq_some_iff.1 hdue
    exact flush_ne_idle (hsame.trans hfind) (by simp [Entry.isPending, hdue])
  · refine (hsaves.touches hnodup).mono ?_
    rintro l ⟨name, hname, e, hfind, hl⟩
    exact ⟨name, (hdue name).1 hname, e, hfind, hl⟩
  · obtain ⟨name, hname⟩ := exists_of_nextDue? hnext
    have hafter : some due = if name ∈ log.names then none else r.dueOf? name :=
      hname.symm.trans (hsaves.dueOf?_eq name)
    split at hafter
    · cases hafter
    · next hnot =>
      by_contra hle
      exact hnot ((hdue name).2 ⟨due, hafter.symm, Nat.not_lt.1 hle⟩)

end Autostart.Registry
