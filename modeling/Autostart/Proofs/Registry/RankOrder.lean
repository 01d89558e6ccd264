import Autostart.Proofs.Registry.ShadowRanks

/-!
# The order of ranks and shadows

Files may be loaded at any rank, so a shadow need not be the rank of the launcher that the system
defines. What every action keeps is an order: a launcher has a rank, its shadow is no lower than its
rank, and a launcher with changes has the rank of the user. The order makes the check of a load
against the recorded shadow one that never fails. A file is read for a known launcher only when the
rank of that one is no lower than the file's, and then its shadow is not either; and while one
definition gives way to another the launcher has no shadow to be compared with.
-/

namespace Autostart

/-- The rank of a launcher goes before its shadow, and only the user has changes. -/
structure Entry.Ordered (e : Entry) : Prop where
  /-- There is a rank, and no shadow below it. -/
  ranked : ∃ rank, e.rank? = some rank ∧ ∀ shadow, e.shadow? = some shadow → rank ≤ shadow
  /-- Changes are made at the rank of the user. -/
  user_of_pending : e.isPending = true → e.rank? = some SearchPath.userRank

namespace Entry.Ordered

variable {e : Entry} {rank : Nat}

/-- No shadow is below the rank of the user. -/
theorem of_user (h : e.rank? = some SearchPath.userRank) : e.Ordered where
  ranked := ⟨SearchPath.userRank, h, fun shadow _ => Nat.zero_le shadow⟩
  user_of_pending := fun _ => h

/-- A launcher without changes is in order when its rank is no higher than its shadow. -/
theorem of_settled (hsettled : e.isPending = false) (hrank : e.rank? = some rank)
    (hle : ∀ shadow, e.shadow? = some shadow → rank ≤ shadow) : e.Ordered where
  ranked := ⟨rank, hrank, hle⟩
  user_of_pending := by
    intro hpending
    rw [hsettled] at hpending
    cases hpending

/-- A launcher with a save due is in order, whatever it was before. -/
theorem schedule (e : Entry) (searchPath : SearchPath) (due : Nat) :
    (e.schedule searchPath due).Ordered := by
  apply of_user
  unfold Entry.schedule
  split
  · next huser => exact huser
  · rfl

/-- The mark of an own write has no part in the order. -/
theorem withOwnWrite (h : e.Ordered) (ownWrite : Bool) : ({ e with ownWrite } : Entry).Ordered :=
  ⟨h.ranked, h.user_of_pending⟩

/-- A launcher whose save is not due any more is in order. -/
theorem undue (h : e.Ordered) : (Registry.undue e).Ordered where
  ranked := h.ranked
  user_of_pending := by
    intro hpending
    apply h.user_of_pending
    have hdirty : (!e.dirty.isEmpty) = true := hpending
    unfold Entry.isPending
    rw [hdirty, Bool.or_true]

/-- A launcher is in order after its changes were written. -/
theorem saved (h : e.Ordered) : (Registry.saved (Registry.undue e)).Ordered := by
  obtain ⟨rank, hrank, hle⟩ := h.ranked
  exact of_settled rfl hrank hle

/-- A launcher that gives way to the file of its shadow is in order. -/
theorem backToSystem (hshadow : e.shadow? = some rank) (path : Path) :
    (Registry.backToSystem (Registry.undue e) rank path).Ordered := by
  refine of_settled rfl rfl fun shadow hshadow' => ?_
  have heq : some rank = some shadow := hshadow.symm.trans hshadow'
  exact Nat.le_of_eq (Option.some.inj heq)

/-- A shadow cast on a launcher that goes before the file, or has changes, is no lower than its
rank. -/
theorem shadowedBy (h : e.Ordered)
    (before : e.rank?.any (· < rank) = true ∨ e.isPending = true) :
    (e.shadowedBy rank).Ordered := by
  by_cases hsystem : SearchPath.userRank < rank
  · obtain ⟨own, hown, hle⟩ := h.ranked
    have hbelow : own ≤ rank := by
      rcases before with hbefore | hpending
      · have hlt : own < rank := by simpa [hown] using hbefore
        omega
      · have huser := h.user_of_pending hpending
        rw [hown] at huser
        obtain rfl := Option.some.inj huser
        omega
    rw [Registry.shadowedBy_eq hsystem]
    refine ⟨⟨own, hown, fun shadow hshadow => ?_⟩, h.user_of_pending⟩
    -- The new shadow is the lower one of the earlier shadow and the rank of the file.
    obtain rfl := Option.some.inj hshadow
    rcases hearlier : e.shadow? with _ | earlier
    · exact hbelow
    · exact Nat.le_min.2 ⟨hle earlier hearlier, hbelow⟩
  · unfold Entry.shadowedBy
    rw [if_neg hsystem]
    exact h

end Entry.Ordered

namespace Registry

variable {r r' : Registry} {name : String} {rank : Nat} {path : Path}

/-- A launcher that is made from a file is in order. -/
theorem ordered_made (r : Registry) (path : Path) (name : String) (rank : Nat) (d : Document) :
    (r.made path name rank d).Ordered := by
  refine .of_settled rfl rfl fun shadow hshadow => ?_
  unfold made at hshadow
  dsimp only at hshadow
  split at hshadow
  · exact Nat.le_of_eq (Option.some.inj hshadow)
  · next huser =>
    unfold SearchPath.userRank at huser
    omega

/-- The launchers that a registry knows are in order. -/
def RanksInOrder (r : Registry) : Prop :=
  ∀ key e, r.find? key = some e → e.Ordered

namespace RanksInOrder

/-- A launcher in order can be set. -/
theorem set (h : RanksInOrder r) (files : FileStore) (key : String) {e : Entry} (he : e.Ordered) :
    RanksInOrder (({ r with files } : Registry).set key e) := by
  intro key' e' hfind
  rw [find?_set] at hfind
  split at hfind
  · obtain rfl := Option.some.inj hfind
    exact he
  · exact h key' e' hfind

/-- A launcher can be dropped. -/
theorem drop (h : RanksInOrder r) (key : String) : RanksInOrder (r.drop key) := by
  intro key' e' hfind
  rw [find?_drop] at hfind
  split at hfind
  · cases hfind
  · exact h key' e' hfind

/-- An edit in memory keeps the order, whatever it does. -/
theorem commit (h : RanksInOrder r) (key : String) (changed : Entry) :
    RanksInOrder (r.commit key changed) :=
  h.set r.files key (.schedule changed r.searchPath r.dueTime)

/-- A load keeps the order. -/
theorem loadStep (h : RanksInOrder r) (hstep : LoadStep r path name rank r') :
    RanksInOrder r' := by
  cases hstep with
  | nothing => exact h
  | ownWrite e find => exact h.set r.files name ((h name e find).withOwnWrite false)
  | shadow e find before => exact h.set r.files name ((h name e find).shadowedBy before)
  | loaded d => exact h.set r.files name (ordered_made r path name rank d)

/-- A load of any file at any rank keeps the order. -/
theorem load (h : RanksInOrder r) (path : Path) (rank : Nat) :
    RanksInOrder (r.load path rank).2 := by
  rcases hname : path.fileName? with _ | name
  · rw [load_of_fileName?_eq_none hname]
    exact h
  · rw [load_snd hname]
    exact h.loadStep (loadEntry_step r path name rank)

/-- Seeing files one after the other keeps the order. -/
theorem foldl_see (h : RanksInOrder r) (seen : List Sighting) :
    RanksInOrder (seen.foldl see r) := by
  induction seen generalizing r with
  | nil => exact h
  | cons s rest ih => exact ih (h.load (s.dir.join s.name) s.rank)

/-- A report of a change keeps the order. -/
theorem fileChanged (h : RanksInOrder r) (path : Path) : RanksInOrder (r.fileChanged path).2 := by
  unfold Registry.fileChanged
  split
  · split
    · exact h.load path _
    · exact h
  · exact h

/-- The next definition that takes over from a source that is gone keeps the order, although the
launcher has no rank while it is looked for. -/
theorem detached (h : RanksInOrder r) (hname : Path.IsFileName name) {detached : Entry}
    (hrank : detached.rank? = none) (hsettled : detached.isPending = false) :
    RanksInOrder
      (match (r.set name detached).loadFirst (r.definitionsAfter rank name) with
        | (true, r) => r
        | (false, r) => (r.drop name).tell (.removed name)) := by
  have hfind : (r.set name detached).find? name = some detached := by simp
  rcases loadFirst_cases hfind hrank hsettled _ fun _ => fileName?_definitionsAfter hname with
    heq | ⟨place, -, d, event, -, heq⟩
  · rw [heq]
    dsimp only
    rw [drop_set]
    exact h.drop name
  · rw [heq]
    dsimp only
    rw [set_set]
    exact h.set r.files name (ordered_made _ place.2 name place.1 d)

/-- A report of a removal keeps the order. The next definition that holds a file is a later one, so
a shadow only goes up, and one that takes over brings its own rank. -/
theorem fileRemoved (h : RanksInOrder r) (path : Path) : RanksInOrder (r.fileRemoved path) := by
  unfold Registry.fileRemoved
  split
  · next rank name hrank hname =>
    split
    · exact h
    · next e hfind =>
      split
      · exact h
      · next hpending =>
        have hsettled : e.isPending = false := by simpa using hpending
        split
        · split
          · next hshadow =>
            obtain ⟨own, hown, hle⟩ := (h name e hfind).ranked
            have hbelow : own ≤ rank := hle rank hshadow
            apply h.set r.files name
            refine .of_settled hsettled hown fun shadow hnext => ?_
            obtain ⟨place, hplace, rfl⟩ := Option.map_eq_some_iff.1 hnext
            have hlater := (mem_definitionsAfter.1 (List.mem_of_mem_head? hplace)).1
            omega
          · exact h
        · exact h.detached (Path.isFileName_of_fileName? hname) rfl hsettled
  · exact h

/-- A save keeps the order. A launcher that gives way to the system gets the rank of its shadow. -/
theorem flush (h : RanksInOrder r) (name : String) : RanksInOrder (r.flush name).2 := by
  rcases hresult : r.flush name with ⟨outcome, r'⟩
  cases flush_step hresult with
  | unknown => exact h
  | idle => exact h
  | back e rank path files find pending twin =>
    have hshadow : e.shadow? = some rank := (twin?_spec twin).1
    exact h.set files name (.backToSystem hshadow path)
  | written e files find => exact h.set files name (h name e find).saved
  | failed e error files find => exact h.set files name (h name e find).undue

/-- Saves one after the other keep the order. -/
theorem flushEach (h : RanksInOrder r) (names : List String) :
    RanksInOrder (r.flushEach names).2 :=
  flushEach_invariant h (fun _ name h' => h'.flush name) names

/-- Bringing in a launcher keeps the order. -/
theorem copyFrom (h : RanksInOrder r) (text : String) : RanksInOrder (r.copyFrom text).2 := by
  have hload : ∀ files path, RanksInOrder (({ r with files } : Registry).load path
      SearchPath.userRank).2 := by
    intro files path
    have hfiles : RanksInOrder { r with files } := h
    exact hfiles.load path SearchPath.userRank
  rcases hresult : r.copyFrom text with ⟨outcome, r'⟩
  cases copyFrom_step hresult with
  | refused => exact h
  | failed => exact h
  | loaded name files r' e isFileName free brought load =>
    have hafter := hload files (r.searchPath.userPath name)
    rw [load] at hafter
    rcases switchOn_cases r' name e with heq | heq
    · rw [heq]
      exact hafter
    · rw [heq]
      exact hafter.commit name (switched e false)
  | useless error name files r' isFileName free brought load =>
    have hafter := hload files (r.searchPath.userPath name)
    rw [load] at hafter
    exact hafter

/-- Every action keeps the order. -/
theorem perform (h : RanksInOrder r) (a : Action) : RanksInOrder (r.perform a) := by
  cases a with
  | scan => exact scan_invariant h fun _ _ _ h' hstep => h'.loadStep hstep
  | load path rank => exact h.load path rank
  | fileChanged path => exact h.fileChanged path
  | fileRemoved path => exact h.fileRemoved path
  | update name name? comment? exec? delay =>
    rcases hresult : r.update name name? comment? exec? delay with ⟨outcome, r'⟩
    rw [Registry.perform, hresult]
    cases update_step hresult with
    | unknown => exact h
    | same => exact h
    | edited e => exact h.commit name _
  | setHidden name hidden =>
    rcases hresult : r.setHidden name hidden with ⟨outcome, r'⟩
    rw [Registry.perform, hresult]
    cases setHidden_step hresult with
    | unknown => exact h
    | same => exact h
    | switched e => exact h.commit name (switched e hidden)
  | delete name =>
    rcases hresult : r.delete name with ⟨outcome, r'⟩
    rw [Registry.perform, hresult]
    cases delete_step hresult with
    | unknown => exact h
    | failed => exact h
    | removed => exact h.drop name
    | switched e => exact h.commit name (switched e true)
  | create request =>
    rcases hresult : r.create request with ⟨outcome, r'⟩
    rw [Registry.perform, hresult]
    cases create_step hresult with
    | refused => exact h
    | made name => exact h.set r.files name (.schedule _ r.searchPath r.dueTime)
  | copyFrom text => exact h.copyFrom text
  | flush name => exact h.flush name
  | runDueSaves => exact h.flushEach _
  | close name =>
    rw [Registry.perform]
    rcases close_cases r name with heq | heq | heq | heq
    · rw [heq]
      exact h
    · rw [heq]
      exact h.flush name
    · rw [heq]
      exact h.drop name
    · rw [heq]
      exact (h.flush name).drop name
  | shutdown => exact fun key e hfind => by cases hfind
  | advance milliseconds => exact h
  | subscribe => exact h
  | unsubscribe id => exact h
  | outside files => exact h

end RanksInOrder

/-- At every point of a run the ranks and shadows are in order. -/
theorem Reachable.ranksInOrder {allowed : Action → Prop} {settings : Settings}
    (h : Reachable allowed settings r) : RanksInOrder r :=
  h.invariant (fun _ _ _ _ hfind => by cases hfind) fun _ a _ hr => hr.perform a

/-! ## The check of a load -/

/-- Reading a file does not fail when no shadow is recorded below its rank. -/
theorem readEntry_ok (horder : ∀ shadow, (r.find? name).bind Entry.shadow? = some shadow →
    rank ≤ shadow) (path : Path) : ∃ reading, (r.readEntry path name rank).1 = .ok reading := by
  unfold readEntry
  split
  · exact ⟨_, rfl⟩
  · split
    · exact ⟨_, rfl⟩
    · dsimp only
      split
      · next hbelow =>
        -- The only failure is a shadow below the rank.
        obtain ⟨-, shadow, hshadow, hlt⟩ :
            _ ∧ ∃ shadow, (r.find? name).bind Entry.shadow? = some shadow ∧ shadow < rank := by
          simpa [Option.any_eq_true] using hbelow
        have hle := horder shadow hshadow
        omega
      · exact ⟨_, rfl⟩

/-- A load does not fail when a launcher with a shadow has a rank that is no higher. -/
theorem loadEntry_ok (hranked : ∀ e shadow, r.find? name = some e → e.shadow? = some shadow →
    ∃ own, e.rank? = some own ∧ own ≤ shadow) (path : Path) (rank : Nat) :
    ∃ reading, (r.loadEntry path name rank).1 = .ok reading := by
  unfold loadEntry
  split
  · next hnone =>
    refine readEntry_ok (fun shadow hshadow => ?_) path
    rw [hnone] at hshadow
    cases hshadow
  · next e hfind =>
    split
    · exact ⟨_, rfl⟩
    · split
      · exact ⟨_, rfl⟩
      · next hbefore =>
        refine readEntry_ok (fun shadow hshadow => ?_) path
        rw [hfind] at hshadow
        obtain ⟨own, hown, hle⟩ := hranked e shadow hfind hshadow
        -- The launcher does not go before the file, so its shadow does not either.
        have habove : rank ≤ own := by
          rw [hown] at hbefore
          simp only [Option.any_some, Bool.or_eq_true, decide_eq_true_eq, not_or] at hbefore
          omega
        omega

/-- A load does not fail in a registry in order. -/
theorem RanksInOrder.loadEntry_ok (h : RanksInOrder r) (path : Path) (name : String) (rank : Nat) :
    ∃ reading, (r.loadEntry path name rank).1 = .ok reading := by
  refine Registry.loadEntry_ok (fun e shadow hfind hshadow => ?_) path rank
  obtain ⟨own, hown, hle⟩ := (h name e hfind).ranked
  exact ⟨own, hown, hle shadow hshadow⟩

/-- The files that a registry takes account of while it performs an action, each with the registry
of that moment, the file name and the rank. -/
inductive LoadsDuring (r : Registry) : Action → Registry → Path → String → Nat → Prop where
  /-- A load takes account of its file. -/
  | load (path : Path) (name : String) (rank : Nat) (name_eq : path.fileName? = some name) :
      LoadsDuring r (.load path rank) r path name rank
  /-- A report of a change takes account of a file of a launcher in a directory. -/
  | fileChanged (path : Path) (name : String) (rank : Nat) (name_eq : path.fileName? = some name)
      (isFilename : Entry.isFilename name = true)
      (rank_eq : r.searchPath.rankOf? path = some rank) :
      LoadsDuring r (.fileChanged path) r path name rank
  /-- A scan takes account of each file that it comes across, after those before it. -/
  | scan (seen rest : List Sighting) (s : Sighting) (sightings : r.sightings = seen ++ s :: rest) :
      LoadsDuring r .scan (seen.foldl see r) (s.dir.join s.name) s.name s.rank
  /-- A report of a removal takes account of the next definition while the launcher has no rank and
  no shadow, after those that no launcher could be made from. -/
  | fileRemoved (path : Path) (name : String) (rank : Nat) (e : Entry)
      (skipped rest : List (Nat × Path)) (next : Nat × Path)
      (rank_eq : r.searchPath.rankOf? path = some rank) (name_eq : path.fileName? = some name)
      (find : r.find? name = some e) (settled : e.isPending = false)
      (same : e.source.same path = true)
      (definitions : r.definitionsAfter rank name = skipped ++ next :: rest)
      (useless : ((r.set name { e with rank? := none, shadow? := none }).loadFirst skipped).1 =
        false) :
      LoadsDuring r (.fileRemoved path)
        ((r.set name { e with rank? := none, shadow? := none }).loadFirst skipped).2
        next.2 name next.1
  /-- A launcher that is brought in is copied to a free name, and the copy taken account of. -/
  | copyFrom (text name : String) (files : FileStore) (source : Source)
      (free : r.isTaken name = false)
      (brought : bring r.files source r.searchPath.userDirectory (r.searchPath.userPath name) =
        (.ok (), files)) :
      LoadsDuring r (.copyFrom text) { r with files } (r.searchPath.userPath name) name
        SearchPath.userRank

/-- No load fails during an action of a registry in order. -/
theorem LoadsDuring.loadEntry_ok {a : Action} (hloads : LoadsDuring r a r' path name rank)
    (h : RanksInOrder r) : ∃ reading, (r'.loadEntry path name rank).1 = .ok reading := by
  cases hloads with
  | load => exact h.loadEntry_ok path name rank
  | fileChanged => exact h.loadEntry_ok path name rank
  | scan seen rest s => exact (h.foldl_see seen).loadEntry_ok _ s.name s.rank
  | fileRemoved path name rank e skipped rest next rank_eq name_eq find settled same definitions
      useless =>
    generalize hdetached : ({ e with rank? := none, shadow? := none } : Entry) = detached
      at useless ⊢
    have hrank : detached.rank? = none := by rw [← hdetached]
    have hshadow : detached.shadow? = none := by rw [← hdetached]
    have hsettled : detached.isPending = false := by
      rw [← hdetached]
      exact settled
    have hfind : (r.set name detached).find? name = some detached := by simp
    have hnames : ∀ place ∈ skipped, place.2.fileName? = some name := by
      intro place hplace
      have hdefines : place ∈ r.definitionsAfter rank name := by
        rw [definitions]
        exact List.mem_append_left _ hplace
      exact fileName?_definitionsAfter (Path.isFileName_of_fileName? name_eq) hdefines
    -- Files that are skipped leave the launcher without a shadow.
    rcases loadFirst_cases hfind hrank hsettled skipped hnames with heq | ⟨_, _, _, _, _, heq⟩
    · rw [heq]
      refine Registry.loadEntry_ok (fun e' shadow hfind' hshadow' => ?_) _ _
      obtain rfl := Option.some.inj (hfind.symm.trans hfind')
      rw [hshadow] at hshadow'
      cases hshadow'
    · rw [heq] at useless
      cases useless
  | copyFrom text name files =>
    have hfiles : RanksInOrder { r with files } := h
    exact hfiles.loadEntry_ok _ name SearchPath.userRank

/-- The check of a load against the recorded shadow never fails. At every point of a run of any
actions, with loads of any path at any rank and any changes that other programs make to the files,
every launcher has a rank, and a shadow is a rank of the system that is no lower than that; and
whatever action follows, each file that is taken account of on the way is read or skipped. -/
theorem rankCheck_passes {allowed : Action → Prop} {settings : Settings}
    (h : Reachable allowed settings r) :
    (∀ key e, r.find? key = some e → ∃ rank, e.rank? = some rank ∧
      ∀ shadow, e.shadow? = some shadow → 1 ≤ shadow ∧ rank ≤ shadow) ∧
    ∀ a r' path name rank, LoadsDuring r a r' path name rank →
      ∃ reading, (r'.loadEntry path name rank).1 = .ok reading := by
  refine ⟨fun key e hfind => ?_, fun a r' path name rank hloads => ?_⟩
  · obtain ⟨rank, hrank, hle⟩ := (h.ranksInOrder key e hfind).ranked
    refine ⟨rank, hrank, fun shadow hshadow => ⟨?_, hle shadow hshadow⟩⟩
    exact h.system_of_shadow hfind hshadow
  · exact hloads.loadEntry_ok h.ranksInOrder

/-- A launcher of the system that is loaded at a rank that no directory has, switched off, and
loaded again at a lower rank. -/
def loadedOutOfOrder : Registry :=
  [.load ⟨"system/a.desktop"⟩ 7, .setHidden "a.desktop" true, .load ⟨"system/a.desktop"⟩ 3].foldl
    perform (fresh oneSystemDirectory oneSystemLauncher 0)

/-- The launcher that was loaded out of order is one of the user with the lower rank for a shadow,
and the next load at a rank above both is no failure. -/
theorem rankCheck_passes_loadedOutOfOrder :
    (∃ e, loadedOutOfOrder.find? "a.desktop" = some e ∧ e.rank? = some SearchPath.userRank ∧
      e.shadow? = some 3 ∧ ∀ shadow, e.shadow? = some shadow → 1 ≤ shadow) ∧
    ∃ reading, (loadedOutOfOrder.loadEntry ⟨"system/a.desktop"⟩ "a.desktop" 5).1 =
      .ok reading := by
  have hreachable : Reachable (fun _ => True) oneSystemDirectory loadedOutOfOrder :=
    (Reachable.fresh oneSystemLauncher 0).foldl fun _ _ => trivial
  obtain ⟨hordered, hpasses⟩ := rankCheck_passes hreachable
  have hstate : (loadedOutOfOrder.find? "a.desktop").map (fun e => (e.rank?, e.shadow?)) =
      some (some SearchPath.userRank, some 3) := rfl
  obtain ⟨e, hfind, hfields⟩ := Option.map_eq_some_iff.1 hstate
  obtain ⟨huser, hshadow⟩ := Prod.mk.inj hfields
  constructor
  · obtain ⟨rank, -, habove⟩ := hordered "a.desktop" e hfind
    exact ⟨e, hfind, huser, hshadow, fun shadow hs => (habove shadow hs).1⟩
  · have hname : Path.fileName? ⟨"system/a.desktop"⟩ = some "a.desktop" := by decide
    exact hpasses _ _ _ _ _ (.load ⟨"system/a.desktop"⟩ "a.desktop" 5 hname)

end Registry

end Autostart
