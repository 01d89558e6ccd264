import Autostart.Proofs.Registry.UserFiles

/-!
# Shadows are ranks of the system

The shadow of a launcher is a rank of the system at every point of a run, whatever is loaded at
which rank: a file casts a shadow only at such a rank, and the next definition after one that is
gone has a higher rank. Edits and saves keep the shadow that was recorded.
-/

namespace Autostart.Registry

variable {r r' : Registry} {name : String} {rank : Nat} {path : Path}

/-- The shadow of the launcher of a name, if there is one. -/
def shadowOf? (r : Registry) (name : String) : Option Nat :=
  (r.find? name).bind Entry.shadow?

/-- The shadow of a known launcher. -/
theorem shadowOf?_of_find? {e : Entry} (h : r.find? name = some e) :
    r.shadowOf? name = e.shadow? := by
  unfold shadowOf?
  rw [h]
  rfl

/-- Setting a launcher to one with the same shadow keeps all shadows. -/
theorem shadowOf?_set {e e' : Entry} (hfind : r.find? name = some e)
    (hshadow : e'.shadow? = e.shadow?) (files : FileStore) (key : String) :
    (({ r with files } : Registry).set name e').shadowOf? key = r.shadowOf? key := by
  unfold shadowOf?
  rw [find?_set]
  split
  · next heq =>
    rw [heq, hfind]
    exact hshadow
  · rfl

/-- An edit in memory keeps all shadows. -/
theorem shadowOf?_commit {e changed : Entry} (hfind : r.find? name = some e)
    (hshadow : changed.shadow? = e.shadow?) (key : String) :
    (r.commit name changed).shadowOf? key = r.shadowOf? key :=
  shadowOf?_set hfind ((SinceScan.shadow?_schedule changed _ _).trans hshadow) r.files key

/-- An update keeps all shadows. -/
theorem shadowOf?_update (r : Registry) (name : String) (name? comment? exec? : Option String)
    (delay : Nat) (key : String) :
    (r.update name name? comment? exec? delay).2.shadowOf? key = r.shadowOf? key := by
  rcases hresult : r.update name name? comment? exec? delay with ⟨outcome, r'⟩
  cases update_step hresult with
  | unknown => rfl
  | same => rfl
  | edited e find =>
    have hshadow : (edited e name? comment? exec? delay).describeAnew.shadow? = e.shadow? := rfl
    exact shadowOf?_commit find hshadow key

/-- Switching a launcher off or on keeps all shadows. -/
theorem shadowOf?_setHidden (r : Registry) (name : String) (hidden : Bool) (key : String) :
    (r.setHidden name hidden).2.shadowOf? key = r.shadowOf? key := by
  rcases hresult : r.setHidden name hidden with ⟨outcome, r'⟩
  cases setHidden_step hresult with
  | unknown => rfl
  | same => rfl
  | switched e find =>
    have hshadow : (switched e hidden).shadow? = e.shadow? := rfl
    exact shadowOf?_commit find hshadow key

/-- A save keeps all shadows. -/
theorem shadowOf?_flush (r : Registry) (name key : String) :
    (r.flush name).2.shadowOf? key = r.shadowOf? key := by
  rcases hresult : r.flush name with ⟨outcome, r'⟩
  cases flush_step hresult with
  | unknown => rfl
  | idle => rfl
  | back e rank path files find =>
    have hshadow : (backToSystem (undue e) rank path).shadow? = e.shadow? := rfl
    exact shadowOf?_set find hshadow files key
  | written e files find =>
    have hshadow : (saved (undue e)).shadow? = e.shadow? := rfl
    exact shadowOf?_set find hshadow files key
  | failed e error files find =>
    have hshadow : (undue e).shadow? = e.shadow? := rfl
    exact shadowOf?_set find hshadow files key

/-- Every shadow that a registry knows is a rank of the system. -/
def ShadowsInSystem (r : Registry) : Prop :=
  ∀ key n, r.shadowOf? key = some n → SearchPath.userRank < n

namespace ShadowsInSystem

/-- A registry that has the shadows of another has ranks of the system when this one has. -/
theorem congr (h : ShadowsInSystem r) (hshadow : ∀ key, r'.shadowOf? key = r.shadowOf? key) :
    ShadowsInSystem r' := fun key n hn =>
  h key n ((hshadow key).symm.trans hn)

/-- A launcher can be set whose shadow is a rank of the system. -/
theorem set (h : ShadowsInSystem r) (files : FileStore) (key : String) {e : Entry}
    (he : ∀ n, e.shadow? = some n → SearchPath.userRank < n) :
    ShadowsInSystem (({ r with files } : Registry).set key e) := by
  intro key' n hn
  unfold shadowOf? at hn
  rw [find?_set] at hn
  split at hn
  · exact he n hn
  · exact h key' n hn

/-- A launcher can be dropped. -/
theorem drop (h : ShadowsInSystem r) (key : String) : ShadowsInSystem (r.drop key) := by
  intro key' n hn
  unfold shadowOf? at hn
  rw [find?_drop] at hn
  split at hn
  · cases hn
  · exact h key' n hn

/-- The shadow of a known launcher is a rank of the system. -/
theorem of_find? (h : ShadowsInSystem r) {e : Entry} (hfind : r.find? name = some e) :
    ∀ n, e.shadow? = some n → SearchPath.userRank < n := fun n hn =>
  h name n ((shadowOf?_of_find? hfind).trans hn)

/-- A launcher that is made from a file has its own rank in the system for a shadow, or the one of
before. -/
theorem made (h : ShadowsInSystem r) (path : Path) (name : String) (rank : Nat) (d : Document) :
    ∀ n, (r.made path name rank d).shadow? = some n → SearchPath.userRank < n := by
  intro n hn
  unfold Registry.made at hn
  dsimp only at hn
  split at hn
  · next hsystem =>
    obtain rfl := Option.some.inj hn
    exact hsystem
  · exact h name n hn

/-- A load keeps the shadows in the system. -/
theorem loadStep (h : ShadowsInSystem r) (hstep : LoadStep r path name rank r') :
    ShadowsInSystem r' := by
  cases hstep with
  | nothing => exact h
  | ownWrite e find => exact h.set r.files name fun n hn => h.of_find? find n hn
  | shadow e find =>
    refine h.set r.files name fun n hn => ?_
    by_cases hsystem : SearchPath.userRank < rank
    · rw [shadowedBy_eq hsystem] at hn
      -- The lower one of two ranks of the system is one of the system.
      obtain rfl := Option.some.inj hn
      rcases hshadow : e.shadow? with _ | shadow
      · exact hsystem
      · exact Nat.lt_min.2 ⟨h.of_find? find shadow hshadow, hsystem⟩
    · unfold Entry.shadowedBy at hn
      rw [if_neg hsystem] at hn
      exact h.of_find? find n hn
  | loaded d => exact h.set r.files name (h.made path name rank d)

/-- A load of any file at any rank keeps the shadows in the system. -/
theorem load (h : ShadowsInSystem r) (path : Path) (rank : Nat) :
    ShadowsInSystem (r.load path rank).2 := by
  rcases hname : path.fileName? with _ | name
  · rw [load_of_fileName?_eq_none hname]
    exact h
  · rw [load_snd hname]
    exact h.loadStep (loadEntry_step r path name rank)

/-- A report of a change keeps the shadows in the system. -/
theorem fileChanged (h : ShadowsInSystem r) (path : Path) :
    ShadowsInSystem (r.fileChanged path).2 := by
  unfold Registry.fileChanged
  split
  · split
    · exact h.load path _
    · exact h
  · exact h

/-- The next definition that takes over from a source that is gone keeps the shadows in the
system. -/
theorem detached (h : ShadowsInSystem r) (hname : Path.IsFileName name) {detached : Entry}
    (hrank : detached.rank? = none) (hsettled : detached.isPending = false)
    (hshadow : detached.shadow? = none) :
    ShadowsInSystem
      (match (r.set name detached).loadFirst (r.definitionsAfter rank name) with
        | (true, r) => r
        | (false, r) => (r.drop name).tell (.removed name)) := by
  have hfind : (r.set name detached).find? name = some detached := by simp
  have hset : ShadowsInSystem (r.set name detached) := h.set r.files name fun n hn => by
    rw [hshadow] at hn
    cases hn
  rcases loadFirst_cases hfind hrank hsettled _ fun _ => fileName?_definitionsAfter hname with
    heq | ⟨place, -, d, event, -, heq⟩
  · rw [heq]
    exact hset.drop name
  · rw [heq]
    exact hset.set _ name (hset.made place.2 name place.1 d)

/-- A report of a removal keeps the shadows in the system. -/
theorem fileRemoved (h : ShadowsInSystem r) (path : Path) :
    ShadowsInSystem (r.fileRemoved path) := by
  unfold Registry.fileRemoved
  split
  · next rank name hrank hname =>
    split
    · exact h
    · next e hfind =>
      split
      · exact h
      · next hpending =>
        split
        · split
          · -- The next definition has a rank after another one.
            refine h.set r.files name fun n hn => ?_
            obtain ⟨place, hplace, rfl⟩ := Option.map_eq_some_iff.1 hn
            exact (definitionsAfter_spec (List.mem_of_mem_head? hplace)).1
          · exact h
        · have hsettled : e.isPending = false := by simpa using hpending
          exact h.detached (Path.isFileName_of_fileName? hname) rfl hsettled rfl
  · exact h

/-- An edit in memory keeps the shadows in the system. -/
theorem commit (h : ShadowsInSystem r) {e changed : Entry} (hfind : r.find? name = some e)
    (hshadow : changed.shadow? = e.shadow?) : ShadowsInSystem (r.commit name changed) :=
  h.congr (shadowOf?_commit hfind hshadow)

/-- Saves one after the other keep the shadows in the system. -/
theorem flushEach (h : ShadowsInSystem r) (names : List String) :
    ShadowsInSystem (r.flushEach names).2 :=
  flushEach_invariant h (fun r' name h' => h'.congr (shadowOf?_flush r' name)) names

/-- Bringing in a launcher keeps the shadows in the system. -/
theorem copyFrom (h : ShadowsInSystem r) (text : String) :
    ShadowsInSystem (r.copyFrom text).2 := by
  have hfiles : ∀ files, ShadowsInSystem { r with files } := fun _ => h
  rcases hresult : r.copyFrom text with ⟨outcome, r'⟩
  cases copyFrom_step hresult with
  | refused => exact h
  | failed error name files => exact h
  | loaded name files r' e isFileName free brought load =>
    have hafter := (hfiles files).load (r.searchPath.userPath name) SearchPath.userRank
    rw [load] at hafter
    have hfind := find?_of_load (Path.fileName?_join _ isFileName) load
    rcases switchOn_cases r' name e with heq | heq
    · rw [heq]
      exact hafter
    · rw [heq]
      have hshadow : (switched e false).shadow? = e.shadow? := rfl
      exact hafter.commit hfind hshadow
  | useless error name files r' isFileName free brought load =>
    have hafter := (hfiles files).load (r.searchPath.userPath name) SearchPath.userRank
    rw [load] at hafter
    exact hafter

/-- Every action keeps the shadows in the system. -/
theorem perform (h : ShadowsInSystem r) (a : Action) : ShadowsInSystem (r.perform a) := by
  cases a with
  | scan => exact scan_invariant h fun _ _ _ h' hstep => h'.loadStep hstep
  | load path rank => exact h.load path rank
  | fileChanged path => exact h.fileChanged path
  | fileRemoved path => exact h.fileRemoved path
  | update name name? comment? exec? delay =>
    exact h.congr (shadowOf?_update r name name? comment? exec? delay)
  | setHidden name hidden => exact h.congr (shadowOf?_setHidden r name hidden)
  | delete name =>
    rcases hresult : r.delete name with ⟨outcome, r'⟩
    rw [Registry.perform, hresult]
    cases delete_step hresult with
    | unknown => exact h
    | failed => exact h
    | removed => exact h.drop name
    | switched e find =>
      have hshadow : (switched e true).shadow? = e.shadow? := rfl
      exact h.commit find hshadow
  | create request =>
    rcases hresult : r.create request with ⟨outcome, r'⟩
    rw [Registry.perform, hresult]
    cases create_step hresult with
    | refused => exact h
    | made name =>
      refine h.set r.files name fun n hn => ?_
      rw [SinceScan.shadow?_schedule] at hn
      cases hn
  | copyFrom text => exact h.copyFrom text
  | flush name => exact h.congr (shadowOf?_flush r name)
  | runDueSaves => exact h.flushEach _
  | close name =>
    have hflush : ShadowsInSystem (r.flush name).2 := h.congr (shadowOf?_flush r name)
    rw [Registry.perform]
    rcases close_cases r name with heq | heq | heq | heq
    · rw [heq]
      exact h
    · rw [heq]
      exact hflush
    · rw [heq]
      exact h.drop name
    · rw [heq]
      exact hflush.drop name
  | shutdown => exact fun key n hn => by cases hn
  | advance milliseconds => exact h
  | subscribe => exact h
  | unsubscribe id => exact h
  | outside files => exact h

end ShadowsInSystem

/-- At every point of a run the shadow of a launcher is a rank of the system. -/
theorem Reachable.system_of_shadow {allowed : Action → Prop} {settings : Settings}
    (h : Reachable allowed settings r) {e : Entry} (hfind : r.find? name = some e) {n : Nat}
    (hshadow : e.shadow? = some n) : SearchPath.userRank < n :=
  (h.invariant (fun _ _ _ _ hn => by cases hn) fun _ a _ hr => hr.perform a :
    ShadowsInSystem r).of_find? hfind n hshadow

end Autostart.Registry
