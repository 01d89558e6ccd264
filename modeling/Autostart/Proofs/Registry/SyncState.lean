import Autostart.Proofs.Registry.Editing
import Autostart.Proofs.Registry.Flushing
import Autostart.Proofs.Registry.Run
import Autostart.Proofs.Registry.Scan

/-!
# The state of synchronization

What a launcher records of its file and of its deferred save fits together at every point of a run.
The clauses support each other: a save is due only for changes, changes stand only in the directory
of the user, and the base of a save is a file of the system. A single operation passes through a
launcher without rank, when a definition is gone and the next one takes over.
-/

namespace Autostart

/-- What a launcher under a file name records of its file and its save fits together. -/
structure Entry.Sound (s : SearchPath) (key : String) (e : Entry) : Prop where
  /-- It is kept under its own file name. -/
  filename_eq : e.filename = key
  /-- Its rank is one of the search path and places its source. -/
  placed : ∃ rank, e.rank? = some rank ∧ rank < s.size ∧ s.Places rank key e.source
  /-- In the system it is its own shadow. -/
  shadow_eq : ∀ rank, e.rank? = some rank → 1 ≤ rank → e.shadow? = some rank
  /-- A save is due only for changes. -/
  dirty_of_due : e.due?.isSome = true → e.dirty ≠ .none
  /-- Changes stand in the directory of the user. -/
  user_of_dirty : e.dirty ≠ .none → e.rank? = some SearchPath.userRank
  /-- The base of a save is for changes, and is a file of the system. -/
  base_spec : ∀ p, e.base? = some p → e.dirty ≠ .none ∧ ∃ rank, 1 ≤ rank ∧ s.Places rank key p
  /-- The report of an own write is one of a file of the user. -/
  user_of_ownWrite : e.ownWrite = true → e.rank? = some SearchPath.userRank

namespace Entry.Sound

variable {s : SearchPath} {key : String} {e : Entry}

/-- A launcher that waits for a save has changes. -/
theorem dirty_of_pending (h : e.Sound s key) (hpending : e.isPending = true) : e.dirty ≠ .none := by
  rcases hdue : e.due?.isSome with _ | _
  · intro hdirty
    simp [isPending, hdue, hdirty, FieldSet.isEmpty] at hpending
  · exact h.dirty_of_due hdue

end Entry.Sound

namespace Registry

/-- An action is one that loads files only where the search path places them. -/
def Action.IsPlaced : Action → Prop
  | .load _ _ => False
  | _ => True

/-- A registry with these settings keeps only launchers that fit together. -/
structure InSync (settings : Settings) (r : Registry) : Prop where
  /-- The settings are these. -/
  settings_eq : r.settings = settings
  /-- Every launcher fits together. -/
  sound : ∀ key e, r.find? key = some e → e.Sound settings.searchPath key

namespace InSync

variable {settings : Settings} {r : Registry}

/-- A registry that knows no launcher is in sync. -/
theorem fresh (settings : Settings) (files : FileStore) (now : Nat) :
    InSync settings (Registry.fresh settings files now) :=
  ⟨rfl, fun _ _ h => by cases h⟩

/-- Only settings and launchers matter. -/
theorem of_find? {r' : Registry} (h : InSync settings r) (hsettings : r'.settings = r.settings)
    (hfind : ∀ key, r'.find? key = r.find? key) : InSync settings r' := by
  refine ⟨hsettings.trans h.settings_eq, fun key e he => ?_⟩
  rw [hfind] at he
  exact h.sound key e he

/-- A launcher that fits together can be set. -/
theorem set (h : InSync settings r) {key : String} {e : Entry}
    (he : e.Sound settings.searchPath key) : InSync settings (r.set key e) := by
  refine ⟨h.settings_eq, fun key' e' he' => ?_⟩
  rw [find?_set] at he'
  split at he'
  · next heq =>
    obtain rfl := Option.some.inj he'
    exact heq ▸ he
  · exact h.sound key' e' he'

/-- A launcher can be dropped. -/
theorem drop (h : InSync settings r) (key : String) : InSync settings (r.drop key) := by
  refine ⟨h.settings_eq, fun key' e' he' => ?_⟩
  rw [find?_drop] at he'
  split at he'
  · cases he'
  · exact h.sound key' e' he'

/-- Observers can be told. -/
theorem tell (h : InSync settings r) (event : Event) : InSync settings (r.tell event) :=
  h.of_find? rfl fun _ => rfl

/-- The files can be any others. -/
theorem withFiles (h : InSync settings r) (files : FileStore) :
    InSync settings { r with files } :=
  h.of_find? rfl fun _ => rfl

/-! ## Loading -/

/-- A launcher made from a file that its rank places fits together. -/
theorem sound_made (r : Registry) {s : SearchPath} {path : Path} {key : String} {rank : Nat}
    (hplaces : s.Places rank key path) (d : Document) :
    (r.made path key rank d).Sound s key where
  filename_eq := rfl
  placed := ⟨rank, rfl, hplaces.rank_lt, hplaces⟩
  shadow_eq := by
    intro rank' hrank hsystem
    obtain rfl : rank = rank' := Option.some.inj hrank
    exact if_pos hsystem
  dirty_of_due := fun h => by cases h
  user_of_dirty := fun h => absurd rfl h
  base_spec := fun p h => by cases h
  user_of_ownWrite := fun h => by cases h

/-- A shadow above a launcher, or of one with changes, fits together with it. -/
theorem sound_shadowedBy {s : SearchPath} {key : String} {e : Entry} (h : e.Sound s key)
    {rank : Nat} (hbefore : e.rank?.any (· < rank) = true ∨ e.isPending = true) :
    (e.shadowedBy rank).Sound s key := by
  by_cases hrank : SearchPath.userRank < rank
  · rw [shadowedBy_eq hrank]
    refine { h with shadow_eq := fun own hown hsystem => ?_ }
    have hown' : e.rank? = some own := hown
    have hshadow := h.shadow_eq own hown' hsystem
    rcases hbefore with hlt | hpending
    · have hle : own ≤ rank := by
        have : own < rank := by simpa [hown'] using hlt
        omega
      simp [hshadow, Nat.min_eq_left hle]
    · -- A launcher with changes stands at the rank of the user.
      have huser := h.user_of_dirty (h.dirty_of_pending hpending)
      rw [hown'] at huser
      obtain rfl : own = SearchPath.userRank := Option.some.inj huser
      cases hsystem
  · unfold Entry.shadowedBy
    rw [if_neg hrank]
    exact h

/-- Loading a file that its rank places keeps a registry in sync. -/
theorem loadStep {r' : Registry} (h : InSync settings r) {path : Path} {key : String} {rank : Nat}
    (hplaces : settings.searchPath.Places rank key path) (hstep : LoadStep r path key rank r') :
    InSync settings r' := by
  cases hstep with
  | nothing => exact h
  | ownWrite e find same own =>
    exact h.set { h.sound key e find with user_of_ownWrite := fun hown => by cases hown }
  | shadow e find before => exact h.set (sound_shadowedBy (h.sound key e find) before)
  | loaded d event reads settled => exact (h.set (sound_made r hplaces d)).tell event

/-- Loading a file that its rank places under its file name keeps a registry in sync. -/
theorem load (h : InSync settings r) {path : Path} {rank : Nat}
    (hplaces : ∀ key, path.fileName? = some key → settings.searchPath.Places rank key path) :
    InSync settings (r.load path rank).2 := by
  rcases hname : path.fileName? with _ | key
  · rw [load_of_fileName?_eq_none hname]
    exact h
  · rw [load_snd hname]
    exact h.loadStep (hplaces key hname) (loadEntry_step r path key rank)

/-- A scan keeps a registry in sync. -/
theorem scan (h : InSync settings r) : InSync settings r.scan := by
  refine scan_invariant h fun s r' hs h' hstep => ?_
  have hplaces : settings.searchPath.Places s.rank s.name (s.dir.join s.name) := by
    rw [← h.settings_eq]
    exact hs.places
  exact h'.loadStep hplaces hstep

/-- A report of a change keeps a registry in sync. -/
theorem fileChanged (h : InSync settings r) (path : Path) :
    InSync settings (r.fileChanged path).2 := by
  unfold Registry.fileChanged
  split
  · split
    · next rank hrank =>
      refine h.load fun key hkey => SearchPath.places_of_rankOf? ?_ hkey
      rw [← h.settings_eq]
      exact hrank
    · exact h
  · exact h

/-- A report of a removal keeps a registry in sync. -/
theorem fileRemoved (h : InSync settings r) (path : Path) :
    InSync settings (r.fileRemoved path) := by
  have hstep := fileRemoved_step r path
  generalize r.fileRemoved path = r' at hstep
  cases hstep with
  | nothing => exact h
  | unshadowed rank key e shadow? rank_eq name_eq find other shadow_eq =>
    have hsound := h.sound key e find
    refine h.set { hsound with shadow_eq := fun own hown hsystem => ?_ }
    -- A launcher of the system has its own file as its shadow, and this is another file.
    have hown' : e.rank? = some own := hown
    have hself := hsound.shadow_eq own hown' hsystem
    rw [shadow_eq] at hself
    obtain rfl := Option.some.inj hself
    obtain ⟨rank', hrank', -, hplaced⟩ := hsound.placed
    obtain rfl := Option.some.inj (hown'.symm.trans hrank')
    have hplaces : settings.searchPath.Places rank key path := by
      refine SearchPath.places_of_rankOf? ?_ name_eq
      rw [← h.settings_eq]
      exact rank_eq
    have hsame := hplaces.congr.1 hplaced
    rw [other] at hsame
    cases hsame
  | replaced key e rank next d event name_eq find settled system next_eq reads =>
    have hplaces : settings.searchPath.Places rank key next := by
      refine SearchPath.places_of_pathAt? ?_
      rw [← h.settings_eq]
      exact next_eq
    exact (h.set (sound_made r hplaces d)).tell event
  | dropped key name_eq => exact (h.drop key).tell _

/-! ## Edits -/

/-- A launcher with changes fits together when a save of it is due. -/
theorem sound_schedule {s : SearchPath} {key : String} {e changed : Entry} (h : e.Sound s key)
    (hdirty : changed.dirty ≠ .none) (hfilename : changed.filename = e.filename)
    (hsource : changed.source = e.source) (hrank : changed.rank? = e.rank?)
    (hshadow : changed.shadow? = e.shadow?) (hbase : changed.base? = e.base?) (due : Nat) :
    (changed.schedule s due).Sound s key := by
  have hkey : changed.filename = key := hfilename.trans h.filename_eq
  have hbase' : ∀ p, changed.base? = some p → ∃ rank, 1 ≤ rank ∧ s.Places rank key p := by
    intro p hp
    exact (h.base_spec p (hbase ▸ hp)).2
  unfold Entry.schedule
  split
  · next huser =>
    exact
      { filename_eq := hkey
        placed := by
          obtain ⟨rank, hr, hlt, hplaced⟩ := h.placed
          exact ⟨rank, hrank.trans hr, hlt, hsource ▸ hplaced⟩
        shadow_eq := fun rank hr hsystem =>
          hshadow.trans (h.shadow_eq rank (hrank.symm.trans hr) hsystem)
        dirty_of_due := fun _ => hdirty
        user_of_dirty := fun _ => huser
        base_spec := fun p hp => ⟨hdirty, hbase' p hp⟩
        user_of_ownWrite := fun _ => huser }
  · next hsystem =>
    -- The launcher comes from the system, and its file becomes the base.
    obtain ⟨rank, hr, hlt, hplaced⟩ := h.placed
    have hpos : 1 ≤ rank := by
      rcases Nat.eq_zero_or_pos rank with rfl | hpos
      · exact absurd (hrank.trans hr) hsystem
      · exact hpos
    exact
      { filename_eq := hkey
        placed := by
          refine ⟨SearchPath.userRank, rfl, (SearchPath.places_userPath s key).rank_lt, ?_⟩
          show s.Places SearchPath.userRank key (s.userPath changed.filename)
          rw [hkey]
          exact SearchPath.places_userPath s key
        shadow_eq := fun rank' hr' hsystem' => by
          obtain rfl : SearchPath.userRank = rank' := Option.some.inj hr'
          cases hsystem'
        dirty_of_due := fun _ => hdirty
        user_of_dirty := fun _ => rfl
        base_spec := fun p hp => by
          refine ⟨hdirty, ?_⟩
          obtain rfl : changed.base?.getD changed.source = p := Option.some.inj hp
          rcases hb : changed.base? with _ | q
          · exact ⟨rank, hpos, hsource ▸ hplaced⟩
          · exact hbase' q hb
        user_of_ownWrite := fun _ => rfl }

/-- An edit that leaves changes keeps a registry in sync. -/
theorem commit (h : InSync settings r) {key : String} {e changed : Entry}
    (hfind : r.find? key = some e) (hdirty : changed.dirty ≠ .none)
    (hfilename : changed.filename = e.filename) (hsource : changed.source = e.source)
    (hrank : changed.rank? = e.rank?) (hshadow : changed.shadow? = e.shadow?)
    (hbase : changed.base? = e.base?) : InSync settings (r.commit key changed) := by
  have hsound := sound_schedule (h.sound key e hfind) hdirty hfilename hsource hrank hshadow hbase
    r.dueTime
  unfold Registry.commit searchPath
  rw [h.settings_eq]
  exact (h.set hsound).tell _

/-- A set with one more field is not empty. -/
theorem insert_ne_none (s : FieldSet) (f : Field) : s.insert f ≠ .none := by
  intro h
  have hmem := FieldSet.contains_insert s f f
  rw [h] at hmem
  cases f <;> simp [FieldSet.contains, FieldSet.none] at hmem

/-- A set is empty after a possible insertion only when nothing was inserted into the empty set. -/
theorem of_insertIf_eq_none {s : FieldSet} {changed : Bool} {f : Field}
    (h : s.insertIf changed f = .none) : changed = false ∧ s = .none := by
  rcases changed with _ | _
  · exact ⟨rfl, h⟩
  · exact absurd h (insert_ne_none s f)

/-- Changes that differ from before leave some field changed. -/
theorem dirty_edited_ne_none {e : Entry} {name? comment? exec? : Option String} {delay : Nat}
    (h : differs e name? comment? exec? delay = true) :
    (edited e name? comment? exec? delay).dirty ≠ .none := by
  intro hnone
  obtain ⟨hdelay, hnone⟩ := of_insertIf_eq_none hnone
  obtain ⟨hexec, hnone⟩ := of_insertIf_eq_none hnone
  obtain ⟨hcomment, hnone⟩ := of_insertIf_eq_none hnone
  obtain ⟨hname, -⟩ := of_insertIf_eq_none hnone
  unfold differs at h
  rw [hname, hcomment, hexec, hdelay] at h
  cases h

/-- An update keeps a registry in sync. -/
theorem update (h : InSync settings r) (key : String) (name? comment? exec? : Option String)
    (delay : Nat) : InSync settings (r.update key name? comment? exec? delay).2 := by
  rcases hresult : r.update key name? comment? exec? delay with ⟨outcome, r'⟩
  cases update_step hresult with
  | unknown => exact h
  | same => exact h
  | edited e find differs =>
    exact h.commit find (dirty_edited_ne_none differs) rfl rfl rfl rfl rfl

/-- Switching a launcher off or on keeps a registry in sync. -/
theorem setHidden (h : InSync settings r) (key : String) (hidden : Bool) :
    InSync settings (r.setHidden key hidden).2 := by
  rcases hresult : r.setHidden key hidden with ⟨outcome, r'⟩
  cases setHidden_step hresult with
  | unknown => exact h
  | same => exact h
  | switched e find =>
    exact h.commit find (insert_ne_none e.dirty .hidden) rfl rfl rfl rfl rfl

/-- Deleting a launcher keeps a registry in sync. -/
theorem delete (h : InSync settings r) (key : String) : InSync settings (r.delete key).2 := by
  rcases hresult : r.delete key with ⟨outcome, r'⟩
  cases delete_step hresult with
  | unknown => exact h
  | failed => exact h
  | removed e files find own removed =>
    exact ((h.withFiles files).drop key).tell _
  | switched e find =>
    exact h.commit find (insert_ne_none e.dirty .hidden) rfl rfl rfl rfl rfl

/-! ## New launchers -/

/-- The set of all fields is not empty. -/
theorem all_ne_none : FieldSet.all ≠ .none := by
  decide

/-- A new launcher of the user fits together when its first save is due. -/
theorem sound_ofCommand (s : SearchPath) (key : String) (name? comment? : Option String)
    (exec : String) (delay due : Nat) :
    ((Entry.ofCommand key (s.userPath key) name? comment? exec delay).schedule s due).Sound s
      key where
  filename_eq := rfl
  placed := ⟨SearchPath.userRank, rfl, (SearchPath.places_userPath s key).rank_lt,
    SearchPath.places_userPath s key⟩
  shadow_eq := fun rank hr hsystem => by
    obtain rfl : SearchPath.userRank = rank := Option.some.inj hr
    cases hsystem
  dirty_of_due := fun _ => all_ne_none
  user_of_dirty := fun _ => rfl
  base_spec := fun p hp => by cases hp
  user_of_ownWrite := fun _ => rfl

/-- Making a launcher keeps a registry in sync. -/
theorem create (h : InSync settings r) (request : Request) :
    InSync settings (r.create request).2 := by
  rcases hresult : r.create request with ⟨outcome, r'⟩
  cases create_step hresult with
  | refused => exact h
  | made name =>
    unfold searchPath
    rw [h.settings_eq]
    exact (h.set (sound_ofCommand _ _ _ _ _ _ _)).tell _

/-- Bringing in a launcher keeps a registry in sync. -/
theorem copyFrom (h : InSync settings r) (text : String) :
    InSync settings (r.copyFrom text).2 := by
  -- The copy stands in the directory of the user under its own name, and is loaded there.
  have hload : ∀ name files, Path.IsFileName name → InSync settings
      (({ r with files } : Registry).load (r.searchPath.userPath name) SearchPath.userRank).2 := by
    intro name files hname
    refine (h.withFiles files).load fun key hkey => ?_
    obtain rfl : name = key := Option.some.inj ((Path.fileName?_join _ hname).symm.trans hkey)
    unfold searchPath
    rw [h.settings_eq]
    exact SearchPath.places_userPath settings.searchPath name
  rcases hresult : r.copyFrom text with ⟨outcome, r'⟩
  cases copyFrom_step hresult with
  | refused => exact h
  | failed error name files => exact h.withFiles files
  | loaded name files r' e isFileName free brought load =>
    have hafter := hload name files isFileName
    rw [load] at hafter
    have hfind := find?_of_load (Path.fileName?_join _ isFileName) load
    rcases switchOn_cases r' name e with heq | heq
    · rw [heq]
      exact hafter
    · rw [heq]
      exact hafter.commit hfind (insert_ne_none e.dirty .hidden) rfl rfl rfl rfl rfl
  | useless error name files r' isFileName free brought load =>
    have hafter := hload name files isFileName
    rw [load] at hafter
    exact hafter.withFiles _

/-! ## Saves -/

/-- A launcher that gave way to the file of the system fits together. -/
theorem sound_backToSystem {s : SearchPath} {key : String} {e : Entry} (h : e.Sound s key)
    {rank : Nat} {path : Path} (hdue : e.due? = none) (hshadow : e.shadow? = some rank)
    (hplaces : s.Places rank key path) : (backToSystem e rank path).Sound s key where
  filename_eq := h.filename_eq
  placed := ⟨rank, rfl, hplaces.rank_lt, hplaces⟩
  shadow_eq := fun rank' hr _ => by
    obtain rfl : rank = rank' := Option.some.inj hr
    exact hshadow
  dirty_of_due := fun h' => by
    rw [show (backToSystem e rank path).due? = none from hdue] at h'
    cases h'
  user_of_dirty := fun h' => absurd rfl h'
  base_spec := fun p hp => by cases hp
  user_of_ownWrite := fun h' => by cases h'

/-- A launcher whose changes were written fits together. -/
theorem sound_saved {s : SearchPath} {key : String} {e : Entry} (h : e.Sound s key)
    (hdue : e.due? = none) (hdirty : e.dirty ≠ .none) : (saved e).Sound s key where
  filename_eq := h.filename_eq
  placed := h.placed
  shadow_eq := h.shadow_eq
  dirty_of_due := fun h' => by
    rw [show (saved e).due? = none from hdue] at h'
    cases h'
  user_of_dirty := fun h' => absurd rfl h'
  base_spec := fun p hp => by cases hp
  user_of_ownWrite := fun _ => h.user_of_dirty hdirty

/-- A launcher whose save is not due any more fits together. -/
theorem sound_undue {s : SearchPath} {key : String} {e : Entry} (h : e.Sound s key) :
    (undue e).Sound s key :=
  { h with dirty_of_due := fun hdue => by cases hdue }

/-- A save keeps a registry in sync, whatever comes of it. -/
theorem flush (h : InSync settings r) (key : String) : InSync settings (r.flush key).2 := by
  rcases hresult : r.flush key with ⟨outcome, r'⟩
  cases flush_step hresult with
  | unknown => exact h
  | idle => exact h
  | back e rank path files find pending twin removed =>
    have hsound := h.sound key e find
    obtain ⟨hshadow, hpath, -⟩ := twin?_spec twin
    have hplaces : settings.searchPath.Places rank key path := by
      refine SearchPath.places_of_pathAt? ?_
      rw [← h.settings_eq, ← hsound.filename_eq]
      exact hpath
    exact (h.withFiles files).set (sound_backToSystem (sound_undue hsound) rfl hshadow hplaces)
  | written e files find pending write =>
    have hsound := h.sound key e find
    exact (h.withFiles files).set
      (sound_saved (sound_undue hsound) rfl (hsound.dirty_of_pending pending))
  | failed e error files find =>
    exact (h.withFiles files).set (sound_undue (h.sound key e find))

/-- Saves one after the other keep a registry in sync. -/
theorem flushEach (h : InSync settings r) (names : List String) :
    InSync settings (r.flushEach names).2 :=
  flushEach_invariant h (fun _ key h' => h'.flush key) names

/-- Closing a launcher keeps a registry in sync. -/
theorem close (h : InSync settings r) (key : String) : InSync settings (r.close key).2 := by
  rcases close_cases r key with heq | heq | heq | heq
  · rw [heq]
    exact h
  · rw [heq]
    exact h.flush key
  · rw [heq]
    exact h.drop key
  · rw [heq]
    exact (h.flush key).drop key

/-- A registry that drops every launcher is in sync. -/
theorem shutdown (h : InSync settings r) : InSync settings r.shutdown.2 :=
  ⟨(h.flushEach _).settings_eq, fun key e he => by cases he⟩

/-! ## Runs -/

/-- Every action but a load of any file at any rank keeps a registry in sync. -/
theorem perform (h : InSync settings r) (a : Action) (ok : a.IsPlaced) :
    InSync settings (r.perform a) := by
  cases a with
  | scan => exact h.scan
  | load path rank => exact ok.elim
  | fileChanged path => exact h.fileChanged path
  | fileRemoved path => exact h.fileRemoved path
  | update key name? comment? exec? delay => exact h.update key name? comment? exec? delay
  | setHidden key hidden => exact h.setHidden key hidden
  | delete key => exact h.delete key
  | create request => exact h.create request
  | copyFrom text => exact h.copyFrom text
  | flush key => exact h.flush key
  | runDueSaves => exact h.flushEach _
  | close key => exact h.close key
  | shutdown => exact h.shutdown
  | advance milliseconds => exact h.of_find? rfl fun _ => rfl
  | subscribe => exact h.of_find? rfl fun _ => rfl
  | unsubscribe id => exact h.of_find? rfl fun _ => rfl
  | outside files => exact h.withFiles files

end InSync

/-- Every run that loads files only where the search path places them keeps in sync. -/
theorem Reachable.inSync {allowed : Action → Prop} {settings : Settings} {r : Registry}
    (h : Reachable allowed settings r) (hallowed : ∀ a, allowed a → a.IsPlaced) :
    InSync settings r :=
  h.invariant (InSync.fresh settings) fun _ a ok hr => hr.perform a (hallowed a ok)

/-- At every point of a run, whatever other programs do to the files, a launcher is kept under its
own file name, its rank places its source, in the system it is its own shadow, a save is due only
for changes, changes and reports of own writes stand in the directory of the user, and the base of
a save is a file of the system that waits for changes. -/
theorem sound_of_reachable {settings : Settings} {r : Registry}
    (h : Reachable Action.IsPlaced settings r) {key : String} {e : Entry}
    (hfind : r.find? key = some e) : e.Sound settings.searchPath key :=
  (h.inSync fun _ ok => ok).sound key e hfind

/-- The settings of a user with one directory of the system. -/
def oneSystemDirectory : Settings :=
  .ofDirectories ⟨⟨"user"⟩, [⟨"system"⟩]⟩

/-- Files with one launcher, which the system defines. -/
def oneSystemLauncher : FileStore :=
  (FileStore.atDirectory []).put ⟨"system/a.desktop"⟩
    (.file (.text "[Desktop Entry]\nName=A\nExec=a\n"))

/-- A run on one launcher of the system, which is switched off. -/
def switchedOff : Registry :=
  ((fresh oneSystemDirectory oneSystemLauncher 0).perform .scan).perform
    (.setHidden "a.desktop" true)

/-- A launcher of the system that was switched off waits in the directory of the user for its save,
with its old file as the base. -/
theorem sound_switchedOff :
    ∃ e, switchedOff.find? "a.desktop" = some e ∧ e.source = ⟨"user/a.desktop"⟩ ∧
      e.base? = some ⟨"system/a.desktop"⟩ ∧ e.due? = some 2000 ∧
      e.Sound oneSystemDirectory.searchPath "a.desktop" := by
  have hreachable : Reachable Action.IsPlaced oneSystemDirectory switchedOff :=
    .step _ _ (.step _ _ (.fresh oneSystemLauncher 0) trivial) trivial
  exact ⟨_, rfl, rfl, rfl, rfl, sound_of_reachable hreachable rfl⟩

end Registry

end Autostart
