import Autostart.Proofs.Registry.DueSaves

/-!
# Saves that wait for the last edit

An edit makes a save due after a while, and each further edit of the same launcher puts the save
off, so a burst of edits is written once. An action arms the save of a launcher when it edits the
launcher so that something changes, makes it, or brings it in switched off and switches it on. At
every point of a run, the saves that wait are due that while after the last action that armed them,
whatever was done to other launchers in between, and no file of the user is written by a deferred
save before.
-/

namespace Autostart.Registry

/-- Whether an action arms the save of the launcher of a file name: it changes something about the
launcher, makes it, or brings it in from a file that says it is switched off. -/
def arms (r : Registry) (name : String) : Action → Bool
  | .update edited name? comment? exec? delay =>
    edited = name && (r.update edited name? comment? exec? delay).1.toOption = some true
  | .setHidden switched hidden =>
    switched = name && (r.setHidden switched hidden).1.toOption = some true
  | .create request => (r.create request).1.toOption = some name
  | .copyFrom text =>
    (r.copyFrom text).1.toOption = some name &&
      match Document.load (r.copyFrom text).2.files (r.searchPath.userPath name) with
      | .ok d => d.flag Document.Key.hidden false
      | .error _ => false
  | _ => false

/-- When the save of each launcher was armed last in a run, given when that was before. -/
def armedLast (last : String → Option Nat) (r : Registry) : List Action → String → Option Nat
  | [] => last
  | a :: rest =>
    armedLast (fun name => if r.arms name a then some r.now else last name) (r.perform a) rest

/-! ## What actions do to the times of saves -/

/-- The save of a launcher is due as before, if at all. -/
def DueAsBefore (r r' : Registry) (name : String) : Prop :=
  ∀ due, r'.dueOf? name = some due → r.dueOf? name = some due

variable {r r' r'' : Registry} {name : String}

/-- A save that is due as before after two actions is so after both. -/
theorem DueAsBefore.trans (h : DueAsBefore r r' name) (h' : DueAsBefore r' r'' name) :
    DueAsBefore r r'' name :=
  fun due hdue => h due (h' due hdue)

/-- The save of a launcher that stays as it is is due as before. -/
theorem DueAsBefore.of_find? (h : r'.find? name = r.find? name) : DueAsBefore r r' name := by
  intro due hdue
  unfold dueOf? at hdue ⊢
  rwa [← h]

/-- A launcher that is set with its save due as before, or not at all. -/
theorem DueAsBefore.set {set : String} {e : Entry}
    (h : e.due? = none ∨ e.due? = r.dueOf? set) : DueAsBefore r (r.set set e) name := by
  intro due hdue
  unfold dueOf? at hdue
  rw [find?_set] at hdue
  split at hdue
  · next heq =>
    have hdue' : e.due? = some due := hdue
    rcases h with hnone | hsame
    · rw [hnone] at hdue'
      cases hdue'
    · rw [heq, ← hsame, hdue']
  · exact hdue

/-- Dropping launchers puts no save off. -/
theorem DueAsBefore.drop (dropped : String) : DueAsBefore r (r.drop dropped) name := by
  intro due hdue
  unfold dueOf? at hdue
  rw [find?_drop] at hdue
  split at hdue
  · cases hdue
  · exact hdue

/-- Loading a file puts no save off. -/
theorem dueAsBefore_load (path : Path) (rank : Nat) :
    DueAsBefore r (r.load path rank).2 name := by
  rcases hname : path.fileName? with _ | loaded
  · rw [load_of_fileName?_eq_none hname]
    exact .of_find? rfl
  · rw [load_snd hname]
    have hstep := loadEntry_step r path loaded rank
    generalize (r.loadEntry path loaded rank).2 = r' at hstep
    cases hstep with
    | nothing => exact .of_find? rfl
    | ownWrite e find =>
      refine .set (.inr ?_)
      unfold dueOf?
      rw [find]
      rfl
    | shadow e find =>
      refine .set (.inr ?_)
      unfold dueOf? Entry.shadowedBy
      rw [find]
      split <;> rfl
    | loaded d event =>
      exact DueAsBefore.set (r := r) (.inl rfl)

/-- Loading a file that was put there just before puts no save off. -/
theorem dueAsBefore_copy {files : FileStore} {path : Path} {rank : Nat} {result : Option Entry}
    {loaded : Registry} (load : ({ r with files } : Registry).load path rank = (result, loaded)) :
    DueAsBefore r loaded name := by
  have hload : DueAsBefore { r with files } (({ r with files } : Registry).load path rank).2 name :=
    dueAsBefore_load path rank
  rw [load] at hload
  exact hload

/-- A scan puts no save off. -/
theorem dueAsBefore_scan : DueAsBefore r r.scan name :=
  scan_invariant (P := fun r' => DueAsBefore r r' name) (.of_find? rfl) fun s _ _ h _ =>
    h.trans (dueAsBefore_load (s.dir.join s.name) s.rank)

/-- A report of a change puts no save off. -/
theorem dueAsBefore_fileChanged (path : Path) :
    DueAsBefore r (r.fileChanged path).2 name := by
  unfold fileChanged
  split
  · split
    · exact dueAsBefore_load path _
    · exact .of_find? rfl
  · exact .of_find? rfl

/-- A report of a removal puts no save off. -/
theorem dueAsBefore_fileRemoved (path : Path) :
    DueAsBefore r (r.fileRemoved path) name := by
  have hstep := fileRemoved_step r path
  generalize r.fileRemoved path = r' at hstep
  cases hstep with
  | nothing => exact .of_find? rfl
  | unshadowed rank key e shadow? _ _ find =>
    refine .set (.inr ?_)
    unfold dueOf?
    rw [find]
    rfl
  | replaced => exact DueAsBefore.set (r := r) (.inl rfl)
  | dropped => exact DueAsBefore.drop (r := r) _

/-- A save puts no save off. -/
theorem dueAsBefore_flush (saved : String) : DueAsBefore r (r.flush saved).2 name := by
  intro due hdue
  rw [dueOf?_flush] at hdue
  split at hdue
  · cases hdue
  · exact hdue

/-- Saves one after the other put no save off. -/
theorem dueAsBefore_flushEach (names : List String) :
    DueAsBefore r (r.flushEach names).2 name :=
  flushEach_invariant (P := fun r' => DueAsBefore r r' name) (.of_find? rfl)
    (fun _ saved h => h.trans (dueAsBefore_flush saved)) names

/-- Closing a launcher puts no save off. -/
theorem dueAsBefore_close (closed : String) : DueAsBefore r (r.close closed).2 name := by
  rcases close_cases r closed with heq | heq | heq | heq
  · rw [heq]
    exact .of_find? rfl
  · rw [heq]
    exact dueAsBefore_flush closed
  · rw [heq]
    exact .drop closed
  · rw [heq]
    exact (dueAsBefore_flush closed).trans (.drop closed)

/-- After an edit the save of the launcher is due a while from now, and those of others as
before. -/
theorem dueOf?_commit (edited : String) (e : Entry) :
    (r.commit edited e).dueOf? name = if name = edited then some r.dueTime else r.dueOf? name := by
  unfold dueOf? commit
  rw [find?_tell, find?_set]
  split
  · unfold Entry.schedule
    split <;> rfl
  · rfl

/-- A launcher that is brought in gets its save when it is switched on. -/
theorem dueOf?_switchOn (brought : String) (e : Entry) :
    (r.switchOn brought e).dueOf? name =
      if name = brought ∧ e.hidden = true then some r.dueTime else r.dueOf? name := by
  unfold switchOn
  split
  · next hoff => simp only [dueOf?_commit, hoff, and_true]
  · next hon => rw [if_neg fun h => hon h.2]

/-- What an action may do to the time of a save: it arms the save, which is due a while from now,
or leaves it due as before, if at all. -/
def Times (r : Registry) (name : String) (a : Action) (r' : Registry) : Prop :=
  r.arms name a = true ∧ r'.dueOf? name = some r.dueTime ∨
    r.arms name a = false ∧ DueAsBefore r r' name

/-- An edit arms the save of its launcher. -/
theorem times_commit {a : Action} {edited : String} (e : Entry)
    (harms : r.arms name a = decide (edited = name)) : Times r name a (r.commit edited e) := by
  by_cases hname : edited = name
  · refine .inl ⟨harms.trans (decide_eq_true hname), ?_⟩
    rw [dueOf?_commit, if_pos hname.symm]
  · refine .inr ⟨harms.trans (decide_eq_false hname), fun due hdue => ?_⟩
    rwa [dueOf?_commit, if_neg (Ne.symm hname)] at hdue

/-- Giving a launcher other texts or another delay arms its save when that changes anything. -/
theorem times_update (edited : String) (name? comment? exec? : Option String) (delay : Nat) :
    Times r name (.update edited name? comment? exec? delay)
      (r.update edited name? comment? exec? delay).2 := by
  have harms : r.arms name (.update edited name? comment? exec? delay) =
      (edited = name &&
        (r.update edited name? comment? exec? delay).1.toOption = some true : Bool) := rfl
  rcases hresult : r.update edited name? comment? exec? delay with ⟨outcome, r'⟩
  rw [hresult] at harms
  cases update_step hresult with
  | unknown => exact .inr ⟨by simpa [Except.toOption] using harms, .of_find? rfl⟩
  | same => exact .inr ⟨by simpa [Except.toOption] using harms, .of_find? rfl⟩
  -- The outcome says that something was changed, which is when the save is armed.
  | edited e => exact times_commit _ (by simpa [Except.toOption] using harms)

/-- Switching a launcher off or on arms its save when it was the other way. -/
theorem times_setHidden (switched : String) (hidden : Bool) :
    Times r name (.setHidden switched hidden) (r.setHidden switched hidden).2 := by
  have harms : r.arms name (.setHidden switched hidden) =
      (switched = name && (r.setHidden switched hidden).1.toOption = some true : Bool) := rfl
  rcases hresult : r.setHidden switched hidden with ⟨outcome, r'⟩
  rw [hresult] at harms
  cases setHidden_step hresult with
  | unknown => exact .inr ⟨by simpa [Except.toOption] using harms, .of_find? rfl⟩
  | same => exact .inr ⟨by simpa [Except.toOption] using harms, .of_find? rfl⟩
  | switched e => exact times_commit _ (by simpa [Except.toOption] using harms)

/-- Making a launcher arms its save. -/
theorem times_create (request : Request) :
    Times r name (.create request) (r.create request).2 := by
  have harms : r.arms name (.create request) =
      ((r.create request).1.toOption = some name : Bool) := rfl
  rcases hresult : r.create request with ⟨outcome, r'⟩
  rw [hresult] at harms
  cases create_step hresult with
  | refused => exact .inr ⟨by simpa [Except.toOption] using harms, .of_find? rfl⟩
  | made made =>
    -- The new launcher is set as by an edit, and the observers are told otherwise.
    have harms' : r.arms name (.create request) = decide (made = name) := by
      simpa [Except.toOption] using harms
    exact times_commit (Entry.ofCommand made (r.searchPath.userPath made) request.name?
      request.comment? request.exec request.delay) harms'

/-- The file of a launcher that is brought in is not written when the launcher is switched on, so it
still says whether the launcher was switched off. -/
theorem exists_document_of_copy {files : FileStore} {path : Path} {rank : Nat} {e : Entry}
    {loaded : Registry} (load : ({ r with files } : Registry).load path rank = (some e, loaded))
    (made : String) :
    ∃ d, Document.load (loaded.switchOn made e).files path = .ok d ∧
      d.flag Document.Key.hidden false = e.hidden ∧ loaded.dueTime = r.dueTime := by
  obtain ⟨key, d, event, -, ⟨hread, -⟩, he, hmade⟩ := loaded_of_load load
  refine ⟨d, ?_, by rw [he]; rfl, by rw [hmade]; rfl⟩
  rw [files_switchOn, hmade]
  exact hread

/-- Bringing in a launcher arms its save when it is switched off, and so switched on. -/
theorem times_copyFrom (text : String) :
    Times r name (.copyFrom text) (r.copyFrom text).2 := by
  have harms : r.arms name (.copyFrom text) = ((r.copyFrom text).1.toOption = some name &&
      match Document.load (r.copyFrom text).2.files (r.searchPath.userPath name) with
      | .ok d => d.flag Document.Key.hidden false
      | .error _ => false : Bool) := rfl
  rcases hresult : r.copyFrom text with ⟨outcome, r'⟩
  rw [hresult] at harms
  cases copyFrom_step hresult with
  | refused => exact .inr ⟨by simpa [Except.toOption] using harms, .of_find? rfl⟩
  | failed => exact .inr ⟨by simpa [Except.toOption] using harms, .of_find? rfl⟩
  | useless error made files loaded _ _ _ load =>
    refine .inr ⟨by simpa [Except.toOption] using harms, ?_⟩
    have hloaded : DueAsBefore r loaded name := dueAsBefore_copy load
    exact hloaded
  | loaded made files loaded e isFileName free brought load =>
    have hloaded : DueAsBefore r loaded name := dueAsBefore_copy load
    obtain ⟨d, hdocument, hhidden, hdue⟩ := exists_document_of_copy load made
    have hafter : (loaded.switchOn made e).dueOf? name =
        if name = made ∧ e.hidden = true then some loaded.dueTime else loaded.dueOf? name :=
      dueOf?_switchOn made e
    dsimp only at harms ⊢
    by_cases hname : name = made
    · subst hname
      have harms' : r.arms name (.copyFrom text) = e.hidden := by
        rw [harms, hdocument, ← hhidden]
        simp [Except.toOption]
      cases hoff : e.hidden with
      | true => exact .inl ⟨harms'.trans hoff, by rw [hafter, if_pos ⟨rfl, hoff⟩, hdue]⟩
      | false =>
        refine .inr ⟨harms'.trans hoff, fun due hdue => hloaded due ?_⟩
        rwa [hafter, if_neg (by simp [hoff])] at hdue
    · refine .inr ⟨by simpa [Except.toOption, Ne.symm hname] using harms, fun due hdue => ?_⟩
      rw [hafter, if_neg fun h => hname h.1] at hdue
      exact hloaded due hdue

/-- An action that arms a save makes it due a while from now, and any other action leaves it due as
before, if at all. Deleting a launcher may switch it off instead, and is left out. -/
theorem times_perform {a : Action} (ha : ∀ deleted, a ≠ .delete deleted) :
    Times r name a (r.perform a) := by
  cases a with
  | scan => exact .inr ⟨rfl, dueAsBefore_scan⟩
  | load path rank => exact .inr ⟨rfl, dueAsBefore_load path rank⟩
  | fileChanged path => exact .inr ⟨rfl, dueAsBefore_fileChanged path⟩
  | fileRemoved path => exact .inr ⟨rfl, dueAsBefore_fileRemoved path⟩
  | update edited name? comment? exec? delay => exact times_update edited name? comment? exec? delay
  | setHidden switched hidden => exact times_setHidden switched hidden
  | delete deleted => exact absurd rfl (ha deleted)
  | create request => exact times_create request
  | copyFrom text => exact times_copyFrom text
  | flush saved => exact .inr ⟨rfl, dueAsBefore_flush saved⟩
  | runDueSaves => exact .inr ⟨rfl, dueAsBefore_flushEach _⟩
  | close closed => exact .inr ⟨rfl, dueAsBefore_close closed⟩
  | shutdown => exact .inr ⟨rfl, fun due hdue => by cases hdue⟩
  | advance milliseconds => exact .inr ⟨rfl, .of_find? rfl⟩
  | subscribe => exact .inr ⟨rfl, .of_find? rfl⟩
  | unsubscribe id => exact .inr ⟨rfl, .of_find? rfl⟩
  | outside files => exact .inr ⟨rfl, .of_find? rfl⟩

/-! ## Runs -/

/-- In a run every save that waits is due a while after it was armed last, if that was so at its
start. -/
theorem dueOf?_foldl {last : String → Option Nat} {actions : List Action}
    (hactions : ∀ a ∈ actions, ∀ deleted, a ≠ .delete deleted)
    (h : ∀ name due, r.dueOf? name = some due →
      ∃ t, last name = some t ∧ due = t + r.settings.saveDelay) :
    ∀ name due, (actions.foldl perform r).dueOf? name = some due →
      ∃ t, armedLast last r actions name = some t ∧ due = t + r.settings.saveDelay := by
  induction actions generalizing r last with
  | nil => exact h
  | cons a rest ih =>
    have hsettings : (r.perform a).settings = r.settings := (evolves_perform a r).settings_eq
    rw [← hsettings]
    -- What is known of the times holds again after the first action, with its time as the last one
    -- of the launchers whose saves it arms.
    refine ih (fun b hb => hactions b (List.mem_cons_of_mem a hb)) fun name due hdue => ?_
    have htimes : Times r name a (r.perform a) := times_perform (hactions a List.mem_cons_self)
    rcases htimes with ⟨harms, harmed⟩ | ⟨hnot, hbefore⟩
    · refine ⟨r.now, if_pos harms, ?_⟩
      rw [hsettings]
      exact Option.some.inj (hdue.symm.trans harmed)
    · rw [if_neg (by simp [hnot]), hsettings]
      exact h name due (hbefore due hdue)

/-- A file stands at a location before or after, and not with the same content. -/
def FileDiffers (fs fs' : FileStore) (l : Location) : Prop :=
  ∃ c, ¬(fs'.node? l = some (.file c) ↔ fs.node? l = some (.file c))

/-- Running the due saves writes or removes the file of a user only for a launcher of this name
whose save is due. -/
theorem isDue_of_fileDiffers {allowed : Action → Prop} {settings : Settings}
    (h : Reachable allowed settings r) (hname : Path.IsFileName name)
    (hdiffers : FileDiffers r.files r.runDueSaves.2.files
      (r.files.locationOf (r.searchPath.userPath name))) : r.IsDue name := by
  obtain ⟨log, hlog⟩ := exists_runsDueSaves r
  obtain ⟨c, hc⟩ := hdiffers
  by_contra hnot
  refine hc (hlog.touches.file_iff _ c ?_)
  rintro ⟨key, hdue, e, hfind, hlocation⟩
  -- Sources have the names of their launchers, so no other one is saved to this place.
  have hsource := (h.filedUnder hfind).source_eq
  obtain ⟨parent, hparent⟩ := Path.exists_parent?_of_fileName? hsource
  rw [r.files.locationOf_of_components (Path.components_eq_of_parent? hparent hsource)] at hlocation
  have hplace : r.files.locationOf (r.searchPath.userPath name) =
      r.files.locationOf r.searchPath.userDirectory ++ [name] := r.files.locationOf_join _ hname
  rw [hplace] at hlocation
  obtain rfl : name = key := (List.append_singleton_inj.1 hlocation).2
  exact hnot hdue

/-- Running the due saves saves the launchers whose saves are due, each once, in the order of their
names, and gives the failures among them; it leaves every other launcher and file as it is, and no
save is due any more afterwards, whatever failed. On every run without a deletion, each save that
waits is due a while after it was armed last, every action that arms it puts it off by that while
from then on, and neither is a launcher saved by the due saves nor its file of the user written or
removed by them before. -/
theorem saves_run_when_due :
    (∀ r : Registry, ∃ log, RunsDueSaves r log) ∧
    ∀ (settings : Settings) (files : FileStore) (now : Nat) (actions : List Action),
      (∀ a ∈ actions, ∀ deleted, a ≠ .delete deleted) →
      let r := actions.foldl perform (fresh settings files now)
      let last := armedLast (fun _ => none) (fresh settings files now) actions
      (∀ name due, r.dueOf? name = some due →
        ∃ t, last name = some t ∧ due = t + settings.saveDelay) ∧
      (∀ a, (∀ deleted, a ≠ .delete deleted) → ∀ name, r.arms name a = true →
        (r.perform a).dueOf? name = some (r.now + settings.saveDelay)) ∧
      (∀ name, r.IsDue name → ∃ t, last name = some t ∧ t + settings.saveDelay ≤ r.now) ∧
      ∀ name, Path.IsFileName name →
        FileDiffers r.files (r.perform .runDueSaves).files
          (r.files.locationOf (r.searchPath.userPath name)) →
        ∃ t, last name = some t ∧ t + settings.saveDelay ≤ r.now := by
  refine ⟨exists_runsDueSaves, fun settings files now actions hactions => ?_⟩
  intro r last
  have hreachable : Reachable (fun _ => True) settings r :=
    (Reachable.fresh files now).foldl fun _ _ => trivial
  have htimes : ∀ name due, r.dueOf? name = some due →
      ∃ t, last name = some t ∧ due = t + settings.saveDelay :=
    dueOf?_foldl hactions fun name due hdue => by cases hdue
  have hdue : ∀ name, r.IsDue name →
      ∃ t, last name = some t ∧ t + settings.saveDelay ≤ r.now := by
    rintro name ⟨due, hdue, hle⟩
    obtain ⟨t, hlast, rfl⟩ := htimes name due hdue
    exact ⟨t, hlast, hle⟩
  refine ⟨htimes, fun a ha name harms => ?_, hdue,
    fun name hname hdiffers => hdue name (isDue_of_fileDiffers hreachable hname hdiffers)⟩
  have hstep : Times r name a (r.perform a) := times_perform ha
  rcases hstep with ⟨-, harmed⟩ | ⟨hnot, -⟩
  · rw [harmed, ← hreachable.settings_eq]
    rfl
  · rw [harms] at hnot
    cases hnot

/-- A run in which the launcher of the user is edited, and once more before it is saved. -/
def editedTwice : List Action :=
  [.scan, .update "a.desktop" (some "B") none (some "a") 0, .advance 1500,
    .setHidden "a.desktop" true, .advance 1000]

/-- The second edit of a launcher puts its save off, so that running the due saves leaves its file
as it is at the time at which the first edit would have been saved. -/
theorem putOff_editedTwice :
    let r := editedTwice.foldl perform (fresh userDirectoryOnly oneUserLauncher 0)
    r.now = 2500 ∧ r.dueOf? "a.desktop" = some (1500 + 2000) ∧
      (∃ log, RunsDueSaves r log ∧ "a.desktop" ∉ log.names) ∧
      ¬FileDiffers r.files (r.perform .runDueSaves).files ["user", "a.desktop"] := by
  intro r
  obtain ⟨hall, hruns⟩ := saves_run_when_due
  obtain ⟨-, -, hdue, hfile⟩ := hruns userDirectoryOnly oneUserLauncher 0 editedTwice
    (by simp [editedTwice])
  have hlast : armedLast (fun _ => none) (fresh userDirectoryOnly oneUserLauncher 0) editedTwice
      "a.desktop" = some 1500 := by rfl
  have hearly : ¬∃ t, some 1500 = some t ∧ t + userDirectoryOnly.saveDelay ≤ r.now := by
    rintro ⟨t, ht, hle⟩
    cases ht
    exact absurd hle (by decide)
  obtain ⟨log, hlog⟩ := hall r
  refine ⟨rfl, rfl, ⟨log, hlog, fun hmem => hearly ?_⟩, fun hdiffers => hearly ?_⟩
  · rw [← hlast]
    exact hdue "a.desktop" ((hlog.due_iff _).1 hmem)
  · rw [← hlast]
    exact hfile "a.desktop" (Path.isFileName_of_length rfl (by decide)) hdiffers

end Autostart.Registry
