import Autostart.Proofs.Registry.Shielding
import Mathlib.Data.List.Sort

/-!
# Operations that fail

An operation that reports an error leaves the registry as it was: every launcher with all that it
records, the observers, and every file. What it may leave behind are directories on the way to that
of the user, and a save that failed is not due any more. Its changes still wait, so saving the
launcher again comes to what the first attempt would have come to on the files as they are then.
-/

namespace Autostart.Registry

/-- An operation reports an error. -/
def Fails (r : Registry) : Action → Prop
  | .update key name? comment? exec? delay =>
    ∃ error, (r.update key name? comment? exec? delay).1 = .error error
  | .setHidden key hidden => ∃ error, (r.setHidden key hidden).1 = .error error
  | .delete key => ∃ error, (r.delete key).1 = .error error
  | .create request => ∃ error, (r.create request).1 = .error error
  | .copyFrom text => ∃ error, (r.copyFrom text).1 = .error error
  | .flush key => ∃ error, (r.flush key).1 = .error error
  | .close key => ∃ error, (r.close key).1 = .error error
  | _ => False

/-- The registry without a due save of a launcher. -/
def unscheduled (r : Registry) (key : String) : Registry :=
  match r.find? key with
  | some e => r.set key (undue e)
  | none => r

/-- What an operation that fails leaves, but for the files. -/
def leftBy (r : Registry) : Action → Registry
  | .flush key | .close key => r.unscheduled key
  | _ => r

/-- The path of the directory of the user leads there when a file stands in it. -/
def SeesUserFiles (r : Registry) : Prop :=
  ∀ name c, r.files.node? (r.files.locationOf r.searchPath.userDirectory ++ [name]) =
      some (.file c) → r.files.isDirectory r.searchPath.userDirectory = true

variable {r r' : Registry}

/-! ## One operation -/

/-- A launcher that cannot be brought in leaves the registry, and touches no file. -/
theorem copyFrom_of_error {text : String} {error : Error}
    (h : r.copyFrom text = (.error error, r')) (hsees : r.SeesUserFiles) :
    ∃ files, r' = { r with files } ∧
      r.files.Touches files r.searchPath.userDirectory fun _ => False := by
  have hlocation : ∀ name, Path.IsFileName name → r.files.locationOf (r.searchPath.userPath name) =
      r.files.locationOf r.searchPath.userDirectory ++ [name] := fun _ => r.files.locationOf_join _
  -- A free name is one whose path leads nowhere, or no file stands at its place.
  have hfree : ∀ name, Path.IsFileName name → r.isTaken name = false →
      (∀ c, r.files.node? (r.files.locationOf (r.searchPath.userPath name)) ≠ some (.file c)) ∨
        r.files.isDirectory r.searchPath.userDirectory = true ∧
          r.files.existsAt (r.searchPath.userPath name) = false := by
    intro name hname hfree
    rcases hdir : r.files.isDirectory r.searchPath.userDirectory with _ | _
    · refine .inl fun c hc => ?_
      rw [hlocation name hname] at hc
      rw [hsees name c hc] at hdir
      cases hdir
    · exact .inr ⟨rfl, (Bool.or_eq_false_iff.1 hfree).2⟩
  cases copyFrom_step h with
  | refused => exact ⟨r.files, rfl, .refl _ _ _⟩
  | failed _ name files isFileName free brought =>
    exact ⟨files, rfl, untouched_of_bring_eq_error brought (hfree name isFileName free)⟩
  | useless _ name files r' isFileName free brought load =>
    -- The load left the registry, so what is left are the files without the copy.
    have hfind : ({ r with files } : Registry).find? name = none := find?_of_isTaken (r := r) free
    obtain rfl := load_of_free (Path.fileName?_join _ isFileName) hfind load
    refine ⟨cleanedUp files (r.searchPath.userPath name), rfl, ?_⟩
    refine (touches_cleanedUp_of_bring brought).untouched ?_ (node?_cleanedUp_of_bring brought)
    rcases hfree name isFileName free with hnone | ⟨hdir, hmissing⟩
    · exact hnone
    · exact node?_of_bring brought hdir hmissing

/-- A save that fails leaves the registry without the due save, and touches no file. -/
theorem flush_of_error {key : String} {error : Error} (h : r.flush key = (.error error, r')) :
    ∃ files, r' = { r.unscheduled key with files } ∧
      r.files.Touches files r.searchPath.userDirectory fun _ => False := by
  unfold unscheduled
  cases flush_step h with
  | unknown find =>
    rw [find]
    exact ⟨r.files, rfl, .refl _ _ _⟩
  | failed e _ files find pending touches =>
    rw [find]
    exact ⟨files, rfl, touches⟩

/-- A launcher is not closed when its save fails. -/
theorem close_of_error {key : String} {error : Error} (h : r.close key = (.error error, r')) :
    r.flush key = (.error error, r') := by
  unfold close at h
  split at h
  · next hfind =>
    obtain ⟨herror, rfl⟩ := Prod.mk.inj h
    obtain rfl := Except.error.inj herror
    unfold flush
    rw [hfind]
  · split at h
    · split at h
      · cases (Prod.mk.inj h).1
      · next heq =>
        obtain ⟨herror, rfl⟩ := Prod.mk.inj h
        obtain rfl := Except.error.inj herror
        exact heq
    · cases (Prod.mk.inj h).1

/-- An operation that reports an error gives it with what it leaves. -/
theorem eq_of_fails {α : Type} {result : Except Error α × Registry}
    (h : ∃ error, result.1 = .error error) : ∃ error, result = (.error error, result.2) := by
  obtain ⟨error, herror⟩ := h
  exact ⟨error, Prod.ext herror rfl⟩

/-- An update that fails leaves everything. -/
theorem update_of_error {key : String} {name? comment? exec? : Option String} {delay : Nat}
    {error : Error} (h : r.update key name? comment? exec? delay = (.error error, r')) :
    r' = r := by
  cases update_step h
  rfl

/-- Switching a launcher off or on leaves everything when it fails. -/
theorem setHidden_of_error {key : String} {hidden : Bool} {error : Error}
    (h : r.setHidden key hidden = (.error error, r')) : r' = r := by
  cases setHidden_step h
  rfl

/-- A deletion that fails leaves everything. -/
theorem delete_of_error {key : String} {error : Error} (h : r.delete key = (.error error, r')) :
    r' = r := by
  cases delete_step h <;> rfl

/-- Making a launcher leaves everything when it fails. -/
theorem create_of_error {request : Request} {error : Error}
    (h : r.create request = (.error error, r')) : r' = r := by
  cases create_step h
  rfl

/-- An operation that fails leaves the registry, and touches no file. -/
theorem perform_of_fails {a : Action} (h : r.Fails a)
    (hsees : ∀ text, a = .copyFrom text → r.SeesUserFiles) :
    ∃ files, r.perform a = { r.leftBy a with files } ∧
      r.files.Touches files r.searchPath.userDirectory fun _ => False := by
  have hsame : r.perform a = r → r.leftBy a = r → ∃ files, r.perform a = { r.leftBy a with files } ∧
      r.files.Touches files r.searchPath.userDirectory fun _ => False := by
    intro hperform hleft
    rw [hperform, hleft]
    exact ⟨r.files, rfl, .refl _ _ _⟩
  cases a with
  | update key name? comment? exec? delay =>
    obtain ⟨error, hresult⟩ := eq_of_fails h
    exact hsame (update_of_error hresult) rfl
  | setHidden key hidden =>
    obtain ⟨error, hresult⟩ := eq_of_fails h
    exact hsame (setHidden_of_error hresult) rfl
  | delete key =>
    obtain ⟨error, hresult⟩ := eq_of_fails h
    exact hsame (delete_of_error hresult) rfl
  | create request =>
    obtain ⟨error, hresult⟩ := eq_of_fails h
    exact hsame (create_of_error hresult) rfl
  | copyFrom text =>
    obtain ⟨error, hresult⟩ := eq_of_fails h
    exact copyFrom_of_error hresult (hsees text rfl)
  | flush key =>
    obtain ⟨error, hresult⟩ := eq_of_fails h
    exact flush_of_error hresult
  | close key =>
    obtain ⟨error, hresult⟩ := eq_of_fails h
    exact flush_of_error (close_of_error hresult)
  | _ => exact h.elim

/-! ## Trying again -/

/-- Two registries differ at most in that the save of one launcher with changes is not due any more
in the second. -/
def SameChanges (key : String) (r r' : Registry) : Prop :=
  r' = r ∨ ∃ e, r.find? key = some e ∧ e.dirty ≠ .none ∧ r' = r.set key (undue e)

namespace SameChanges

variable {key : String}

/-- A launcher without a due save waits with its changes. -/
theorem unscheduled (r : Registry) {key : String}
    (hdue : ∀ e, r.find? key = some e → e.due?.isSome = true → e.dirty ≠ .none) :
    SameChanges key r (r.unscheduled key) := by
  unfold Registry.unscheduled
  split
  · next e hfind =>
    by_cases hdirty : e.dirty = .none
    · -- Without changes nothing is due, so nothing differs.
      have hnone : e.due? = none := Option.not_isSome_iff_eq_none.1 fun h => hdue e hfind h hdirty
      have hundue : undue e = e := by
        unfold undue
        rw [← hnone]
      refine .inl ?_
      rw [hundue]
      unfold set
      rw [show r.entries.insert key e = r.entries from set_entries_of_find? hfind]
    · exact .inr ⟨e, hfind, hdirty, rfl⟩
  · exact .inl rfl

/-- The files and the time may be any others. -/
theorem congr (h : SameChanges key r r') (files : FileStore) (now : Nat) :
    SameChanges key { r with files, now } { r' with files, now } := by
  rcases h with rfl | ⟨e, hfind, hdirty, rfl⟩
  · exact .inl rfl
  · exact .inr ⟨e, hfind, hdirty, rfl⟩

/-- A launcher with changes is saved alike whether or not its save was due. -/
theorem flush_self (h : SameChanges key r r') : r'.flush key = r.flush key := by
  rcases h with rfl | ⟨e, hfind, hdirty, rfl⟩
  · rfl
  · have hpending : e.isPending = true := isPending_of_dirty hdirty
    have hpending' : (undue e).isPending = true := isPending_of_dirty hdirty
    unfold flush
    rw [find?_set_self, hfind]
    dsimp only
    -- The save starts with taking the due save away, so the first launcher loses it too.
    rw [hpending, hpending', set_set]
    rfl

/-- Another launcher is saved alike, and the first one waits as before. -/
theorem flush_of_ne {e : Entry} {name : String} (hne : name ≠ key) :
    (r.set key e).flush name = ((r.flush name).1, (r.flush name).2.set key e) := by
  unfold flush
  rw [find?_set, if_neg hne]
  rcases hfind : r.find? name with _ | other
  · rfl
  · dsimp only
    rcases other.isPending with _ | _
    · rfl
    · -- What is compared and written does not depend on the other launchers.
      have hcomm : ∀ x, (r.set key e).set name x = (r.set name x).set key e := fun x =>
        set_comm r (Ne.symm hne) e x
      have htwin : ∀ x, ((r.set name x).set key e).twin? x = (r.set name x).twin? x := fun _ => rfl
      have hwrite : ∀ x, ((r.set name x).set key e).writeUser x.source
          (((r.set name x).set key e).merged x) =
          (r.set name x).writeUser x.source ((r.set name x).merged x) := fun _ => rfl
      have hfiles : ∀ x, ((r.set name x).set key e).files = (r.set name x).files := fun _ => rfl
      simp only [Bool.not_true, Bool.false_eq_true, if_false, hcomm, htwin, hwrite, hfiles]
      have hagain : ∀ files x y, ({ (r.set name x).set key e with files } : Registry).set name y =
          (({ r.set name x with files } : Registry).set name y).set key e := fun files x y =>
        set_comm { r.set name x with files } (Ne.symm hne) e y
      split
      · split
        · rw [hagain]
        · rfl
      · split
        · rw [hagain]
        · rfl

/-- A save comes to the same, and leaves registries that differ as before. -/
theorem flush (h : SameChanges key r r') (name : String) :
    (r'.flush name).1 = (r.flush name).1 ∧ SameChanges key (r.flush name).2 (r'.flush name).2 := by
  by_cases hname : name = key
  · subst hname
    rw [h.flush_self]
    exact ⟨rfl, .inl rfl⟩
  · rcases h with rfl | ⟨e, hfind, hdirty, rfl⟩
    · exact ⟨rfl, .inl rfl⟩
    · -- The difference is about the launcher that is not saved, and stays.
      rw [flush_of_ne hname]
      refine ⟨rfl, .inr ⟨e, ?_, hdirty, rfl⟩⟩
      exact (find?_flush_of_ne hname).trans hfind

/-- Saves one after the other come to the same. -/
theorem flushEach (h : SameChanges key r r') (names : List String) :
    (r'.flushEach names).1 = (r.flushEach names).1 ∧
      SameChanges key (r.flushEach names).2 (r'.flushEach names).2 := by
  induction names generalizing r r' with
  | nil => exact ⟨rfl, h⟩
  | cons name rest ih =>
    obtain ⟨houtcome, hnext⟩ := h.flush name
    obtain ⟨hfailures, hend⟩ := ih hnext
    rcases hfirst : r.flush name with ⟨outcome, r₁⟩
    rcases hfirst' : r'.flush name with ⟨outcome', r₁'⟩
    rw [hfirst, hfirst'] at houtcome hfailures hend
    obtain rfl : outcome' = outcome := houtcome
    unfold Registry.flushEach
    rw [hfirst, hfirst']
    -- Both go on with the same outcome, which is among the failures of both or of none.
    cases outcome' with
    | ok saved => exact ⟨hfailures, hend⟩
    | error error => exact ⟨congrArg (fun failures => (name, error) :: failures) hfailures, hend⟩

/-- The same launchers wait for a save. -/
theorem namesWhere_eq (h : SameChanges key r r') :
    r'.namesWhere Entry.isPending = r.namesWhere Entry.isPending := by
  rcases h with rfl | ⟨e, hfind, hdirty, rfl⟩
  · rfl
  · -- Both lists are in ascending order, and have the same names.
    have hirrefl : Std.Irrefl (α := String) (· < ·) := ⟨String.lt_irrefl⟩
    have hantisymm : Std.Antisymm (α := String) (· < ·) :=
      ⟨fun _ _ hlt hgt => absurd hgt (String.lt_asymm hlt)⟩
    refine (pairwise_namesWhere _ _).eq_of_mem_iff (pairwise_namesWhere _ _) fun name => ?_
    rw [mem_namesWhere_iff, mem_namesWhere_iff, find?_set]
    by_cases hname : name = key
    · have hpending : e.isPending = true := isPending_of_dirty hdirty
      have hpending' : (undue e).isPending = true := isPending_of_dirty hdirty
      rw [if_pos hname, hname, hfind]
      simp [hpending, hpending']
    · rw [if_neg hname]

/-- A launcher with changes is closed alike whether or not its save was due. -/
theorem close (h : SameChanges key r r') : r'.close key = r.close key := by
  have hflush := h.flush_self
  rcases h with rfl | ⟨e, hfind, hdirty, rfl⟩
  · rfl
  · have hpending : e.isPending = true := isPending_of_dirty hdirty
    have hpending' : (undue e).isPending = true := isPending_of_dirty hdirty
    unfold Registry.close
    rw [find?_set_self, hfind, hflush]
    dsimp only
    rw [hpending, hpending']
    rfl

/-- A shutdown comes to the same. -/
theorem shutdown (h : SameChanges key r r') : r'.shutdown = r.shutdown := by
  obtain ⟨hfailures, hend⟩ := h.flushEach (r.namesWhere Entry.isPending)
  unfold Registry.shutdown
  rw [h.namesWhere_eq]
  dsimp only
  rw [hfailures]
  -- What differs is a launcher, and none is left.
  rcases hend with heq | ⟨e, -, -, heq⟩
  · rw [heq]
  · rw [heq]
    rfl

end SameChanges

/-- What an operation that fails leaves has the same changes as the registry before. -/
theorem sameChanges_leftBy {settings : Settings} (h : Reachable Action.IsPlaced settings r)
    {a : Action} {key : String} (ha : a = .flush key ∨ a = .close key) :
    SameChanges key r (r.leftBy a) := by
  have hunscheduled : SameChanges key r (r.unscheduled key) :=
    .unscheduled r fun e hfind => ((h.inSync fun _ ha => ha).sound key e hfind).dirty_of_due
  rcases ha with rfl | rfl
  · exact hunscheduled
  · exact hunscheduled

/-- An operation that reports an error at any point of a run leaves the registry with all its
launchers and observers, but for the due save that was tried, and touches no file. Only directories
on the way to that of the user may be new. Whatever the files are by the time of another try, a save
or a shutdown then comes to the same, with the same files, launchers and events, as it would have
come to at the failed attempt. A launcher that is brought in has to find the directory of the user,
when files stand in it. -/
theorem fails_atomically {settings : Settings} {r : Registry}
    (h : Reachable Action.IsPlaced settings r) {a : Action} (hfails : r.Fails a)
    (hsees : ∀ text, a = .copyFrom text → r.SeesUserFiles) :
    (∃ files, r.perform a = { r.leftBy a with files } ∧
        r.files.Touches files r.searchPath.userDirectory fun _ => False) ∧
      ∀ key, a = .flush key ∨ a = .close key → ∀ files now,
        ({ r.perform a with files, now } : Registry).flush key =
            ({ r with files, now } : Registry).flush key ∧
          ({ r.perform a with files, now } : Registry).close key =
            ({ r with files, now } : Registry).close key ∧
          ({ r.perform a with files, now } : Registry).shutdown =
            ({ r with files, now } : Registry).shutdown := by
  obtain ⟨left, hperform, htouches⟩ := perform_of_fails hfails hsees
  refine ⟨⟨left, hperform, htouches⟩, fun key ha files now => ?_⟩
  have hsame := (sameChanges_leftBy h ha).congr files now
  rw [hperform]
  exact ⟨hsame.flush_self, hsame.close, hsame.shutdown⟩

/-- A launcher that was switched off waits with its changes when a file is in the way of its save,
and is saved after all once the file is gone. A launcher that is nowhere is not brought in, and the
files stay. -/
theorem saved_afterFailure :
    (∃ error, ((switchedOff.perform (.outside oneBlockedLauncher)).flush "a.desktop").1 =
        .error error ∧
      (({ (switchedOff.perform (.outside oneBlockedLauncher)).perform (.flush "a.desktop") with
        files := oneSystemLauncher, now := 0 } : Registry).flush "a.desktop").1 = .ok .written ∧
      (({ (switchedOff.perform (.outside oneBlockedLauncher)).perform (.flush "a.desktop") with
        files := oneSystemLauncher, now := 0 } : Registry).flush "a.desktop").2.files.readText
          ⟨"user/a.desktop"⟩ = .ok "[Desktop Entry]\nName=A\nExec=a\nHidden=true\n") ∧
      ∃ files, (fresh userDirectoryOnly oneUserLauncher 0).perform
          (.copyFrom "missing/a.desktop") =
            { fresh userDirectoryOnly oneUserLauncher 0 with files } ∧
        oneUserLauncher.Touches files ⟨"user"⟩ fun _ => False := by
  constructor
  · have hreachable : Reachable Action.IsPlaced oneSystemDirectory
        (switchedOff.perform (.outside oneBlockedLauncher)) :=
      .step _ _ (.step _ _ (.step _ _ (.fresh oneSystemLauncher 0) trivial) trivial) trivial
    have herror : ((switchedOff.perform (.outside oneBlockedLauncher)).flush "a.desktop").1 =
        .error (.write ⟨"user"⟩ "File exists (os error 17)") := by rfl
    obtain ⟨-, hagain⟩ := fails_atomically (a := .flush "a.desktop") hreachable ⟨_, herror⟩
      fun text h => by cases h
    obtain ⟨hflush, -, -⟩ := hagain "a.desktop" (.inl rfl) oneSystemLauncher 0
    refine ⟨_, herror, ?_, ?_⟩
    · rw [hflush]
      rfl
    · rw [hflush]
      rfl
  · have herror : ((fresh userDirectoryOnly oneUserLauncher 0).copyFrom "missing/a.desktop").1 =
        .error (.copy "missing/a.desktop" "user/a-1.desktop"
          "No such file or directory (os error 2)") := by rfl
    have hsees : (fresh userDirectoryOnly oneUserLauncher 0).SeesUserFiles := fun _ _ _ => rfl
    exact (fails_atomically (a := .copyFrom "missing/a.desktop")
      (.fresh oneUserLauncher 0) ⟨_, herror⟩ fun _ _ => hsees).1

/-- The settings of a user whose directory is reached through one that is missing. -/
def detourToUser : Settings :=
  .ofDirectories ⟨⟨"detour/../user"⟩, []⟩

/-- A file of the user does not count as there while the detour to it is missing. So its name is
free for a launcher that is to be brought in, whose directories are made, and when there is nothing
to bring in, the file of the user is removed as if it were what a copy left behind. -/
theorem lost_failedCopy :
    (∃ error, ((fresh detourToUser oneUserLauncher 0).copyFrom "missing/a.desktop").1 =
        .error error) ∧
      oneUserLauncher.readText ⟨"user/a.desktop"⟩ = .ok "[Desktop Entry]\nName=A\nExec=a\n" ∧
      ((fresh detourToUser oneUserLauncher 0).copyFrom "missing/a.desktop").2.files.readText
        ⟨"user/a.desktop"⟩ = .error .notFound := by
  refine ⟨⟨.copy "missing/a.desktop" "detour/../user/a.desktop"
    "No such file or directory (os error 2)", ?_⟩, ?_, ?_⟩
  · rfl
  · rfl
  · rfl

end Autostart.Registry
