import Autostart.Proofs.Registry.Editing
import Autostart.Proofs.Registry.Flushing
import Autostart.Proofs.Registry.Run
import Autostart.Proofs.Registry.Scan
import Mathlib.Data.Finset.Basic
import Mathlib.Data.Finset.Dedup

/-!
# Events as a mirror of the registry

An observer can keep the set of the known file names by the events alone: each event fits the set
at its place, and after every operation the set is that of the registry. Whatever becomes of what is
shown of a launcher, an event of the operation names its file. So an operation comes with the news
that it announces, and what single operations announce adds up along a run. Closing launchers is
left out: they are dropped without an event.
-/

namespace Autostart

namespace Event

/-- The known file names after an event, to one who knew them before. -/
def replay (known : Finset String) : Event → Finset String
  | added filename => insert filename known
  | changed _ => known
  | removed filename => known.erase filename

/-- Whether an event can happen when these file names are known: a new launcher has another name,
and one that changes or goes has one of them. -/
def Fits (known : Finset String) : Event → Prop
  | added filename => filename ∉ known
  | changed filename | removed filename => filename ∈ known

/-- Events that fit one after the other, each when those before it were replayed. -/
inductive AllFit : Finset String → List Event → Prop where
  /-- There is no event. -/
  | nil (known : Finset String) : AllFit known []
  /-- The first event fits, and the others fit after it. -/
  | cons {known : Finset String} {event : Event} {rest : List Event} (first : event.Fits known)
      (others : AllFit (event.replay known) rest) : AllFit known (event :: rest)

/-- Further events fit when they fit after those before. -/
theorem AllFit.append {known : Finset String} {events more : List Event} (h : AllFit known events)
    (hmore : AllFit (events.foldl replay known) more) : AllFit known (events ++ more) := by
  induction h with
  | nil => exact hmore
  | cons first _ ih => exact .cons first (ih hmore)

/-- An event fits after those before it. -/
theorem AllFit.fits {known : Finset String} {before after : List Event} {event : Event}
    (h : AllFit known (before ++ event :: after)) : event.Fits (before.foldl replay known) := by
  induction before generalizing known with
  | nil =>
    cases h with
    | cons first _ => exact first
  | cons _ _ ih =>
    cases h with
    | cons _ others => exact ih others

end Event

/-! ## What observers receive -/

namespace Observers

/-- The events that an observer was told of, the earliest first. -/
def received (o : Observers) (id : Nat) : List Event :=
  (o.delivered.filter fun delivery => delivery.1 = id).map Prod.snd

/-- The observers have different numbers, below that of the next. -/
structure IsNumbered (o : Observers) : Prop where
  /-- No two have one number. -/
  nodup : o.ids.Nodup
  /-- The next one has a greater number. -/
  lt_next : ∀ id ∈ o.ids, id < o.next

/-- Telling of events changes no number. -/
theorem numbers_foldl_tell (o : Observers) (events : List Event) :
    (events.foldl tell o).ids = o.ids ∧ (events.foldl tell o).next = o.next := by
  induction events generalizing o with
  | nil => exact ⟨rfl, rfl⟩
  | cons event rest ih => exact ih (o.tell event)

/-- Observers that are numbered stay so when one subscribes. -/
theorem IsNumbered.subscribe {o : Observers} (h : o.IsNumbered) : o.subscribe.2.IsNumbered := by
  refine ⟨?_, fun id hid => ?_⟩
  · refine List.nodup_append.2 ⟨h.nodup, List.nodup_singleton _, fun a ha b hb => ?_⟩
    rw [List.mem_singleton.1 hb]
    exact Nat.ne_of_lt (h.lt_next a ha)
  · rcases List.mem_append.1 hid with hid | hid
    · exact Nat.lt_succ_of_lt (h.lt_next id hid)
    · rw [List.mem_singleton.1 hid]
      exact Nat.lt_succ_self _

/-- Observers that are numbered stay so when one unsubscribes. -/
theorem IsNumbered.unsubscribe {o : Observers} (h : o.IsNumbered) (id : Nat) :
    (o.unsubscribe id).2.IsNumbered :=
  ⟨h.nodup.filter _, fun id' hid' => h.lt_next id' (List.mem_of_mem_filter hid')⟩

/-- Observers that are numbered stay so when they are told of events. -/
theorem IsNumbered.foldl_tell {o : Observers} (h : o.IsNumbered) (events : List Event) :
    (events.foldl tell o).IsNumbered := by
  obtain ⟨hids, hnext⟩ := numbers_foldl_tell o events
  exact ⟨hids ▸ h.nodup, fun id hid => hnext ▸ h.lt_next id (hids ▸ hid)⟩

/-- Each observer receives an event once, and nobody else receives it. -/
theorem received_tell {o : Observers} (h : o.ids.Nodup) (event : Event) (id : Nat) :
    (o.tell event).received id = o.received id ++ if id ∈ o.ids then [event] else [] := by
  have hdelivered : ((o.ids.map fun i => (i, event)).filter fun delivery => delivery.1 = id).map
      Prod.snd = List.replicate (o.ids.count id) event := by
    rw [List.filter_map, List.map_map, List.count_eq_length_filter]
    refine List.eq_replicate_iff.2 ⟨?_, fun x hx => ?_⟩
    · rw [List.length_map]
      congr 1
    · obtain ⟨i, -, rfl⟩ := List.mem_map.1 hx
      rfl
  unfold received tell
  dsimp only
  rw [List.filter_append, List.map_append, hdelivered]
  congr 1
  -- The number of an observer occurs once among those who are told.
  split
  · next hid => rw [List.count_eq_one_of_mem h hid, List.replicate_one]
  · next hid => rw [List.count_eq_zero_of_not_mem hid, List.replicate_zero]

/-- Each observer receives all events in their order, and nobody else receives any. -/
theorem received_foldl_tell {o : Observers} (h : o.ids.Nodup) (events : List Event) (id : Nat) :
    (events.foldl tell o).received id = o.received id ++ if id ∈ o.ids then events else [] := by
  induction events generalizing o with
  | nil => simp
  | cons event rest ih =>
    rw [List.foldl_cons, ih (o := o.tell event) h, received_tell h]
    show _ ++ (if id ∈ o.ids then rest else []) = _
    split <;> simp

end Observers

/-! ## What is shown of launchers -/

/-- What is shown of a launcher. -/
structure Entry.Shown where
  /-- Whether it is switched off. -/
  hidden : Bool
  /-- Whether it is left out of lists. -/
  noDisplay : Bool
  /-- Its name. -/
  name? : Option String
  /-- Its command line. -/
  exec? : Option String
  /-- Its comment. -/
  comment? : Option String
  /-- Its icon. -/
  icon? : Option Icon
  /-- Its start delay in seconds. -/
  delay : Nat
deriving DecidableEq, Repr

/-- What is shown of the launcher. -/
def Entry.shown (e : Entry) : Shown :=
  ⟨e.hidden, e.noDisplay, e.name?, e.exec?, e.comment?, e.icon?, e.delay⟩

namespace Registry

/-- The known file names. -/
def known (r : Registry) : Finset String :=
  r.entries.keys.toFinset

/-- What is shown of the launcher of a file name, if it is known. -/
def shown? (r : Registry) (name : String) : Option Entry.Shown :=
  (r.find? name).map Entry.shown

/-- The known file names are those of launchers. -/
theorem mem_known_iff {r : Registry} {name : String} :
    name ∈ r.known ↔ (r.find? name).isSome = true := by
  unfold known
  rw [List.mem_toFinset, SortedMap.mem_keys_iff]
  rfl

/-- What a registry announces on the way to another: its observers are told of the news, each of
which fits at its place and together lead to the names known in the end, and they name every
launcher that is shown differently. -/
structure Announces (r : Registry) (news : List Event) (r' : Registry) : Prop where
  /-- The observers are told of the news. -/
  observers_eq : r'.observers = news.foldl Observers.tell r.observers
  /-- The news fit one after the other. -/
  fit : Event.AllFit r.known news
  /-- The news lead to the names that are known in the end. -/
  known_eq : news.foldl Event.replay r.known = r'.known
  /-- A launcher that is shown differently is named. -/
  named : ∀ name, r'.shown? name ≠ r.shown? name → ∃ event ∈ news, event.filename = name

/-- What a registry announces on the way to a second one and then to a third. -/
theorem Announces.trans {r r' r'' : Registry} {news news' : List Event} (h : Announces r news r')
    (h' : Announces r' news' r'') : Announces r (news ++ news') r'' := by
  refine ⟨?_, h.fit.append (h.known_eq ▸ h'.fit), ?_, fun name hname => ?_⟩
  · rw [List.foldl_append, ← h.observers_eq, h'.observers_eq]
  · rw [List.foldl_append, h.known_eq, h'.known_eq]
  · -- The launcher is shown differently after the first way or after the second.
    by_cases hfirst : r'.shown? name = r.shown? name
    · obtain ⟨event, hevent, heq⟩ := h'.named name (hfirst ▸ hname)
      exact ⟨event, List.mem_append_right news hevent, heq⟩
    · obtain ⟨event, hevent, heq⟩ := h.named name hfirst
      exact ⟨event, List.mem_append_left news' hevent, heq⟩

/-- Nothing is announced when every launcher is shown as before. -/
theorem announces_nothing {r r' : Registry} (hobservers : r'.observers = r.observers)
    (h : ∀ name, r'.shown? name = r.shown? name) : Announces r [] r' := by
  refine ⟨hobservers, .nil _, ?_, fun name hname => absurd (h name) hname⟩
  ext name
  have hsome := congrArg Option.isSome (h name)
  simp only [shown?, Option.isSome_map] at hsome
  rw [List.foldl_nil, mem_known_iff, mem_known_iff, hsome]

/-- Nothing is announced of a registry that stays as it is. -/
theorem Announces.refl (r : Registry) : Announces r [] r :=
  announces_nothing rfl fun _ => rfl

/-- Nothing is announced when only the files change. -/
theorem announces_files (r : Registry) (files : FileStore) : Announces r [] { r with files } :=
  announces_nothing rfl fun _ => rfl

variable {r r' : Registry}

/-- Nothing is announced when a launcher is shown as before. -/
theorem announces_set {name : String} {e e' : Entry} (hfind : r.find? name = some e)
    (h : e'.shown = e.shown) : Announces r [] (r.set name e') := by
  refine announces_nothing rfl fun name' => ?_
  unfold shown?
  rw [find?_set]
  split
  · next heq => rw [heq, hfind, Option.map_some, Option.map_some, h]
  · rfl

/-- The event of a launcher that is made or changed. -/
def eventOf (r : Registry) (name : String) : Event :=
  if (r.find? name).isSome then .changed name else .added name

/-- A launcher is made or changed, and the observers are told which. -/
theorem announces_eventOf (name : String) (e : Entry) :
    Announces r [r.eventOf name] ((r.set name e).tell (r.eventOf name)) := by
  refine ⟨rfl, .cons ?_ (.nil _), ?_, fun name' hname' => ⟨_, List.mem_singleton_self _, ?_⟩⟩
  · unfold eventOf
    split
    · next hsome => exact mem_known_iff.2 hsome
    · next hnone => exact fun hmem => hnone (mem_known_iff.1 hmem)
  · ext name'
    rw [List.foldl_cons, List.foldl_nil, mem_known_iff, find?_tell, find?_set]
    unfold eventOf
    split
    · next hsome =>
      show name' ∈ r.known ↔ _
      rw [mem_known_iff]
      split
      · next heq => rw [heq, hsome]; rfl
      · rfl
    · show name' ∈ insert name r.known ↔ _
      rw [Finset.mem_insert, mem_known_iff]
      split
      · next heq => simp [heq]
      · next hne => simp [hne]
  · have hfilename : (r.eventOf name).filename = name := by
      unfold eventOf
      split <;> rfl
    rw [hfilename]
    by_contra hne
    refine hname' ?_
    unfold shown?
    rw [find?_tell, find?_set, if_neg (Ne.symm hne)]

/-- A launcher is dropped, and the observers are told. -/
theorem announces_removed {name : String} (h : (r.find? name).isSome = true) :
    Announces r [.removed name] ((r.drop name).tell (.removed name)) := by
  refine ⟨rfl, .cons (mem_known_iff.2 h) (.nil _), ?_,
    fun name' hname' => ⟨_, List.mem_singleton_self _, ?_⟩⟩
  · ext name'
    show name' ∈ r.known.erase name ↔ _
    rw [Finset.mem_erase, mem_known_iff, mem_known_iff, find?_tell, find?_drop]
    split
    · next heq => simp [heq]
    · next hne => simp [hne]
  · show name = name'
    by_contra hne
    refine hname' ?_
    unfold shown?
    rw [find?_tell, find?_drop, if_neg (Ne.symm hne)]

/-- An edit of a known launcher is announced as a change. -/
theorem announces_commit {name : String} (h : (r.find? name).isSome = true) (e : Entry) :
    Announces r [.changed name] (r.commit name e) := by
  have hevent : r.eventOf name = .changed name := if_pos h
  have hset := announces_eventOf (r := r) name (e.schedule r.searchPath r.dueTime)
  rw [hevent] at hset
  exact hset

/-! ## What operations announce -/

/-- What making a launcher from a file announces. -/
theorem announces_readEntry (path : Path) (name : String) (rank : Nat) :
    ∃ news, Announces r news (r.readEntry path name rank).2 := by
  unfold readEntry
  split
  · exact ⟨_, .refl r⟩
  · split
    · exact ⟨_, .refl r⟩
    · dsimp only
      split
      · exact ⟨_, .refl r⟩
      · exact ⟨_, announces_eventOf name _⟩

/-- What loading a file under a file name announces. -/
theorem announces_loadEntry (path : Path) (name : String) (rank : Nat) :
    ∃ news, Announces r news (r.loadEntry path name rank).2 := by
  unfold loadEntry
  split
  · exact announces_readEntry path name rank
  · next e hfind =>
    split
    · exact ⟨_, announces_set hfind rfl⟩
    · split
      · refine ⟨_, announces_set hfind ?_⟩
        unfold Entry.shadowedBy
        split <;> rfl
      · exact announces_readEntry path name rank

/-- What loading a file announces. -/
theorem announces_load (path : Path) (rank : Nat) :
    ∃ news, Announces r news (r.load path rank).2 := by
  rcases hname : path.fileName? with _ | name
  · rw [load_of_fileName?_eq_none hname]
    exact ⟨_, .refl r⟩
  · rw [load_snd hname]
    exact announces_loadEntry path name rank

/-- What a scan announces. -/
theorem announces_scan : ∃ news, Announces r news r.scan := by
  refine scan_invariant (P := fun r' => ∃ news, Announces r news r') ⟨_, .refl r⟩ ?_
  rintro s r' - ⟨news, h⟩ -
  obtain ⟨more, hmore⟩ := announces_load (r := r') (s.dir.join s.name) s.rank
  exact ⟨_, h.trans hmore⟩

/-- What a report of a change announces. -/
theorem announces_fileChanged (path : Path) :
    ∃ news, Announces r news (r.fileChanged path).2 := by
  unfold fileChanged
  split
  · split
    · exact announces_load path _
    · exact ⟨_, .refl r⟩
  · exact ⟨_, .refl r⟩

/-- Loading a file forgets no launcher. -/
theorem isSome_find?_load {name : String} (h : (r.find? name).isSome = true) (path : Path)
    (rank : Nat) : ((r.load path rank).2.find? name).isSome = true := by
  rcases hname : path.fileName? with _ | loaded
  · rw [load_of_fileName?_eq_none hname]
    exact h
  · rw [load_snd hname]
    have hstep := loadEntry_step r path loaded rank
    generalize (r.loadEntry path loaded rank).2 = r' at hstep
    -- The launcher of the file is set if anything is done to it, and the others stay.
    by_cases hne : name = loaded
    · cases hstep with
      | nothing => exact h
      | _ => simp [hne]
    · rw [hstep.find?_of_ne hne]
      exact h

/-- What loading the first of some files announces, and no launcher is forgotten. -/
theorem announces_loadFirst {name : String} (h : (r.find? name).isSome = true)
    (places : List (Nat × Path)) :
    (∃ news, Announces r news (r.loadFirst places).2) ∧
      ((r.loadFirst places).2.find? name).isSome = true := by
  induction places generalizing r with
  | nil => exact ⟨⟨_, .refl r⟩, h⟩
  | cons place rest ih =>
    obtain ⟨news, hload⟩ := announces_load (r := r) place.2 place.1
    have hknown := isSome_find?_load h place.2 place.1
    unfold loadFirst
    split
    · next heq =>
      rw [heq] at hload hknown
      exact ⟨⟨news, hload⟩, hknown⟩
    · next heq =>
      rw [heq] at hload hknown
      obtain ⟨⟨more, hmore⟩, hlater⟩ := ih hknown
      exact ⟨⟨_, hload.trans hmore⟩, hlater⟩

/-- What a report of a removal announces. -/
theorem announces_fileRemoved (path : Path) :
    ∃ news, Announces r news (r.fileRemoved path) := by
  unfold fileRemoved
  split
  · next rank name _ _ =>
    split
    · exact ⟨_, .refl r⟩
    · next e hfind =>
      split
      · exact ⟨_, .refl r⟩
      · split
        · split
          · exact ⟨_, announces_set hfind rfl⟩
          · exact ⟨_, .refl r⟩
        · -- The launcher without rank is shown as before, and stays known until it is dropped.
          have hdetached : Announces r [] (r.set name { e with rank? := none, shadow? := none }) :=
            announces_set hfind rfl
          have hknown : ((r.set name { e with rank? := none, shadow? := none }).find?
              name).isSome = true := by simp
          obtain ⟨⟨news, hfirst⟩, hlater⟩ :=
            announces_loadFirst hknown (r.definitionsAfter rank name)
          dsimp only
          split
          · next heq =>
            rw [heq] at hfirst
            exact ⟨_, hdetached.trans hfirst⟩
          · next heq =>
            rw [heq] at hfirst hlater
            exact ⟨_, (hdetached.trans hfirst).trans (announces_removed hlater)⟩
  · exact ⟨_, .refl r⟩

/-- What giving a launcher other texts and another delay announces. -/
theorem announces_update (name : String) (name? comment? exec? : Option String) (delay : Nat) :
    ∃ news, Announces r news (r.update name name? comment? exec? delay).2 := by
  rcases hresult : r.update name name? comment? exec? delay with ⟨outcome, r'⟩
  cases update_step hresult with
  | unknown => exact ⟨_, .refl r⟩
  | same => exact ⟨_, .refl r⟩
  | edited e find => exact ⟨_, announces_commit (by rw [find]; rfl) _⟩

/-- What switching a launcher off or on announces. -/
theorem announces_setHidden (name : String) (hidden : Bool) :
    ∃ news, Announces r news (r.setHidden name hidden).2 := by
  rcases hresult : r.setHidden name hidden with ⟨outcome, r'⟩
  cases setHidden_step hresult with
  | unknown => exact ⟨_, .refl r⟩
  | same => exact ⟨_, .refl r⟩
  | switched e find => exact ⟨_, announces_commit (by rw [find]; rfl) _⟩

/-- What deleting a launcher announces. -/
theorem announces_delete (name : String) : ∃ news, Announces r news (r.delete name).2 := by
  rcases hresult : r.delete name with ⟨outcome, r'⟩
  cases delete_step hresult with
  | unknown => exact ⟨_, .refl r⟩
  | failed => exact ⟨_, .refl r⟩
  | removed e files find =>
    have hknown : (({ r with files } : Registry).find? name).isSome = true := by
      show (r.find? name).isSome = true
      rw [find]
      rfl
    exact ⟨_, (announces_files r files).trans (announces_removed hknown)⟩
  | switched e find => exact ⟨_, announces_commit (by rw [find]; rfl) _⟩

/-- What making a launcher announces. -/
theorem announces_create (request : Request) :
    ∃ news, Announces r news (r.create request).2 := by
  rcases hresult : r.create request with ⟨outcome, r'⟩
  cases create_step hresult with
  | refused => exact ⟨_, .refl r⟩
  | made name _ free =>
    have hevent : r.eventOf name = .added name := by
      unfold eventOf
      rw [find?_of_isTaken free]
      rfl
    have hset := announces_eventOf (r := r) name ((Entry.ofCommand name (r.searchPath.userPath name)
      request.name? request.comment? request.exec request.delay).schedule r.searchPath r.dueTime)
    rw [hevent] at hset
    exact ⟨_, hset⟩

/-- What bringing in a launcher announces. -/
theorem announces_copyFrom (text : String) : ∃ news, Announces r news (r.copyFrom text).2 := by
  rcases hresult : r.copyFrom text with ⟨outcome, r'⟩
  cases copyFrom_step hresult with
  | refused => exact ⟨_, .refl r⟩
  | failed => exact ⟨_, announces_files r _⟩
  | loaded name files loaded e isFileName free brought load =>
    obtain ⟨news, hload⟩ := announces_load (r := { r with files }) (r.searchPath.userPath name)
      SearchPath.userRank
    rw [load] at hload
    have hloaded := (announces_files r files).trans hload
    rcases switchOn_cases loaded name e with heq | heq
    · rw [heq]
      exact ⟨_, hloaded⟩
    · have hfind := find?_of_load (Path.fileName?_join _ isFileName) load
      rw [heq]
      exact ⟨_, hloaded.trans (announces_commit (by rw [hfind]; rfl) _)⟩
  | useless error name files loaded _ _ _ load =>
    obtain ⟨news, hload⟩ := announces_load (r := { r with files }) (r.searchPath.userPath name)
      SearchPath.userRank
    rw [load] at hload
    exact ⟨_, ((announces_files r files).trans hload).trans (announces_files _ _)⟩

/-- A save announces nothing. -/
theorem announces_flush (name : String) : Announces r [] (r.flush name).2 := by
  have hset : ∀ (files : FileStore) {e e' : Entry}, r.find? name = some e → e'.shown = e.shown →
      Announces r [] (({ r with files } : Registry).set name e') := by
    intro files e e' hfind hshown
    exact (announces_files r files).trans (announces_set (r := { r with files }) hfind hshown)
  rcases hresult : r.flush name with ⟨outcome, r'⟩
  cases flush_step hresult with
  | unknown => exact .refl r
  | idle => exact .refl r
  | back e rank path files find => exact hset files find rfl
  | written e files find => exact hset files find rfl
  | failed e error files find => exact hset files find rfl

/-- Saves one after the other announce nothing. -/
theorem announces_flushEach (names : List String) : Announces r [] (r.flushEach names).2 :=
  flushEach_invariant (.refl r) (fun _ name h => h.trans (announces_flush name)) names

/-- An action is one whose effect is announced: it drops no launcher without an event. -/
def Action.isAnnounced : Action → Bool
  | .close _ | .shutdown => false
  | _ => true

/-- What an action announces, unless observers come or go by it. -/
theorem announces_perform {a : Action} (h : a.isAnnounced = true) :
    (∃ news, Announces r news (r.perform a)) ∨ a = .subscribe ∨ ∃ id, a = .unsubscribe id := by
  cases a with
  | scan => exact .inl announces_scan
  | load path rank => exact .inl (announces_load path rank)
  | fileChanged path => exact .inl (announces_fileChanged path)
  | fileRemoved path => exact .inl (announces_fileRemoved path)
  | update name name? comment? exec? delay =>
    exact .inl (announces_update name name? comment? exec? delay)
  | setHidden name hidden => exact .inl (announces_setHidden name hidden)
  | delete name => exact .inl (announces_delete name)
  | create request => exact .inl (announces_create request)
  | copyFrom text => exact .inl (announces_copyFrom text)
  | flush name => exact .inl ⟨_, announces_flush name⟩
  | runDueSaves => exact .inl ⟨_, announces_flushEach _⟩
  | close name => cases h
  | shutdown => cases h
  | advance milliseconds => exact .inl ⟨_, announces_nothing rfl fun _ => rfl⟩
  | subscribe => exact .inr (.inl rfl)
  | unsubscribe id => exact .inr (.inr ⟨id, rfl⟩)
  | outside files => exact .inl ⟨_, announces_files r files⟩

/-! ## What a run announces -/

/-- Closing launchers tells the observers nothing. -/
theorem observers_close (r : Registry) (name : String) :
    (r.close name).2.observers = r.observers := by
  have hflush : (r.flush name).2.observers = r.observers := (announces_flush name).observers_eq
  rcases close_cases r name with heq | heq | heq | heq
  · rw [heq]
  · rw [heq, hflush]
  · rw [heq]
    rfl
  · rw [heq]
    exact hflush

/-- Observers that are numbered stay so whatever happens. -/
theorem isNumbered_perform (h : r.observers.IsNumbered) (a : Action) :
    (r.perform a).observers.IsNumbered := by
  by_cases hannounced : a.isAnnounced = true
  · rcases announces_perform (r := r) hannounced with ⟨news, hnews⟩ | rfl | ⟨id, rfl⟩
    · rw [hnews.observers_eq]
      exact h.foldl_tell news
    · exact h.subscribe
    · exact h.unsubscribe id
  · cases a with
    | close name =>
      show (r.close name).2.observers.IsNumbered
      rw [observers_close]
      exact h
    | shutdown =>
      show (r.flushEach (r.namesWhere Entry.isPending)).2.observers.IsNumbered
      rw [(announces_flushEach _).observers_eq]
      exact h
    | _ => exact absurd rfl hannounced

/-- The observers of a run are numbered. -/
theorem Reachable.isNumbered {allowed : Action → Prop} {settings : Settings}
    (h : Reachable allowed settings r) : r.observers.IsNumbered :=
  h.invariant (P := fun r => r.observers.IsNumbered)
    (fun _ _ => ⟨List.nodup_nil, fun _ hid => absurd hid List.not_mem_nil⟩)
    fun _ a _ h => isNumbered_perform h a

/-- What an action announces reaches each observer that is there before the action, unless it
unsubscribes by the action, when it stays and there is nothing to announce. -/
theorem exists_news (hnumbered : r.observers.IsNumbered) {a : Action} (h : a.isAnnounced = true) :
    ∃ news, Event.AllFit r.known news ∧ news.foldl Event.replay r.known = (r.perform a).known ∧
      (∀ id, (r.perform a).observers.received id =
        r.observers.received id ++ if id ∈ r.observers.ids then news else []) ∧
      (∀ id ∈ r.observers.ids, a ≠ .unsubscribe id → id ∈ (r.perform a).observers.ids) ∧
      ∀ name, (r.perform a).shown? name ≠ r.shown? name →
        ∃ event ∈ news, event.filename = name := by
  -- Observers come and go without an event, so what was received stays.
  have hsame : ∀ o : Observers, o.delivered = r.observers.delivered → ∀ id, o.received id =
      r.observers.received id ++ if id ∈ r.observers.ids then [] else [] := by
    intro o hdelivered id
    rw [ite_self, List.append_nil]
    unfold Observers.received
    rw [hdelivered]
  rcases announces_perform (r := r) h with ⟨news, hnews⟩ | rfl | ⟨gone, rfl⟩
  · refine ⟨news, hnews.fit, hnews.known_eq, fun id => ?_, fun id hid _ => ?_, hnews.named⟩
    · rw [hnews.observers_eq, Observers.received_foldl_tell hnumbered.nodup]
    · rw [hnews.observers_eq, (Observers.numbers_foldl_tell _ _).1]
      exact hid
  · exact ⟨[], .nil _, rfl, hsame _ rfl, fun id hid _ => List.mem_append_left _ hid,
      fun name hname => absurd rfl hname⟩
  · refine ⟨[], .nil _, rfl, hsame _ rfl, fun id hid hne => ?_,
      fun name hname => absurd rfl hname⟩
    exact List.mem_filter.2 ⟨hid, decide_eq_true fun heq => hne (congrArg _ heq.symm)⟩

/-- What a run announces reaches each observer that is there all the time. -/
theorem exists_stream (hnumbered : r.observers.IsNumbered) {actions : List Action}
    (h : ∀ a ∈ actions, a.isAnnounced = true) :
    ∃ stream, Event.AllFit r.known stream ∧
      stream.foldl Event.replay r.known = (actions.foldl perform r).known ∧
      ∀ id ∈ r.observers.ids, Action.unsubscribe id ∉ actions →
        (actions.foldl perform r).observers.received id = r.observers.received id ++ stream := by
  induction actions generalizing r with
  | nil => exact ⟨[], .nil _, rfl, fun id _ _ => (List.append_nil _).symm⟩
  | cons a rest ih =>
    obtain ⟨news, hfit, hknown, hreceived, hstay, -⟩ :=
      exists_news hnumbered (h a List.mem_cons_self)
    obtain ⟨stream, hfit', hknown', hreceived'⟩ := ih (isNumbered_perform hnumbered a)
      fun b hb => h b (List.mem_cons_of_mem a hb)
    rw [← hknown] at hfit' hknown'
    refine ⟨news ++ stream, hfit.append hfit', ?_, fun id hid hthere => ?_⟩
    · rw [List.foldl_append, hknown']
      rfl
    · -- Who is not gone by the first action is there for the others.
      obtain ⟨hfirst, hrest⟩ := not_or.1 (mt List.mem_cons.2 hthere)
      rw [List.foldl_cons, hreceived' id (hstay id hid (Ne.symm hfirst)) hrest, hreceived id,
        if_pos hid, List.append_assoc]

/-- On every run from a registry that knows no launcher, in which none is closed, all observers
that are there all the time receive the same events in the same order. Replayed from no name at all
they give the names that are known, each event fits the names known at its place, and whenever an
action changes whether a launcher is known or what is shown of it, an event of this very action
names it. -/
theorem events_mirror {settings : Settings} {start : Registry}
    (hstart : Reachable (fun _ => True) settings start) (hempty : start.known = ∅)
    {actions : List Action} (h : ∀ a ∈ actions, a.isAnnounced = true) :
    ∃ stream,
      (∀ id ∈ start.observers.ids, Action.unsubscribe id ∉ actions →
        (actions.foldl perform start).observers.received id =
          start.observers.received id ++ stream) ∧
      stream.foldl Event.replay ∅ = (actions.foldl perform start).known ∧
      (∀ before event after, stream = before ++ event :: after →
        event.Fits (before.foldl Event.replay ∅)) ∧
      ∀ a : Action, a.isAnnounced = true → ∃ news,
        (∀ id, ((actions.foldl perform start).perform a).observers.received id =
          (actions.foldl perform start).observers.received id ++
            if id ∈ (actions.foldl perform start).observers.ids then news else []) ∧
        ∀ name, ((actions.foldl perform start).perform a).shown? name ≠
            (actions.foldl perform start).shown? name →
          ∃ event ∈ news, event.filename = name := by
  obtain ⟨stream, hfit, hknown, hreceived⟩ := exists_stream hstart.isNumbered h
  rw [hempty] at hfit hknown
  refine ⟨stream, hreceived, hknown, fun before event after heq => (heq ▸ hfit).fits,
    fun a ha => ?_⟩
  have hend : Reachable (fun _ => True) settings (actions.foldl perform start) :=
    hstart.foldl fun _ _ => trivial
  obtain ⟨news, -, -, hnews, -, hnamed⟩ := exists_news hend.isNumbered ha
  exact ⟨news, hnews, hnamed⟩

/-- A user with a launcher, and two observers. -/
def twoObservers : Registry :=
  [Action.subscribe, .subscribe].foldl perform (fresh userDirectoryOnly oneUserLauncher 0)

/-- The registry of two observers when the launcher was found and switched off. -/
def twoObserversLater : Registry :=
  [Action.scan, .setHidden "a.desktop" true].foldl perform twoObservers

/-- Both of two observers are told that the launcher of the user is found and switched off, which
gives them its name, and then of its end when it is deleted. -/
theorem mirrored_twoObservers :
    ∃ stream news, stream = [.added "a.desktop", .changed "a.desktop"] ∧
      (∀ id ∈ [0, 1], twoObserversLater.observers.received id = stream) ∧
      stream.foldl Event.replay ∅ = twoObserversLater.known ∧
      (∀ id ∈ [0, 1], (twoObserversLater.perform (.delete "a.desktop")).observers.received id =
        stream ++ news) ∧
      ∃ event ∈ news, event.filename = "a.desktop" := by
  have hstart : Reachable (fun _ => True) userDirectoryOnly twoObservers :=
    (Reachable.fresh oneUserLauncher 0).foldl fun _ _ => trivial
  have hactions : ∀ a ∈ [Action.scan, .setHidden "a.desktop" true], a.isAnnounced = true := by
    decide
  obtain ⟨stream, hstream, hknown, -, hstep⟩ := events_mirror hstart rfl hactions
  obtain ⟨news, hnews, hnamed⟩ := hstep (.delete "a.desktop") rfl
  have hreceived : ∀ id ∈ [0, 1], twoObserversLater.observers.received id = stream := by
    intro id hid
    have hfirst : twoObservers.observers.received id = [] := rfl
    have hlater := hstream id hid (by simp)
    rw [hfirst] at hlater
    exact hlater
  refine ⟨stream, news, ?_, hreceived, hknown, fun id hid => ?_, hnamed "a.desktop" (by decide)⟩
  · rw [← hreceived 0 (by decide)]
    rfl
  · have hthere : id ∈ ([Action.scan, .setHidden "a.desktop" true].foldl perform
        twoObservers).observers.ids := hid
    have hlater := hnews id
    rw [if_pos hthere] at hlater
    rw [← hreceived id hid]
    exact hlater

end Registry

end Autostart
