import Autostart.Proofs.Registry.Editing
import Autostart.Proofs.Registry.Flushing
import Autostart.Proofs.Registry.Run
import Autostart.Proofs.Registry.Scan
import Mathlib.Logic.Relation

/-!
# What actions do to a launcher

Whatever an action does to the launcher of a file name, it does in a few small changes: it makes the
launcher anew from a document, edits it, takes a note on it, ends a save, or drops it. A property of
launchers that every change keeps holds of every launcher at every point of a run.
-/

namespace Autostart.Registry

/-- One thing that an action does to the launcher of a file name. -/
inductive Change (settings : Settings) (a : Action) (key : String) :
    Option Entry → Option Entry → Prop where
  /-- It is dropped. -/
  | dropped (before? : Option Entry) : Change settings a key before? none
  /-- It is made anew from a document, when nothing waits to be saved. -/
  | made (before? : Option Entry) (path : Path) (d : Document) (rank : Nat) (shadow? : Option Nat)
      (isFileName : Path.IsFileName key)
      (settled : ∀ e, before? = some e → e.isPending = false)
      (named : path.fileName? = some key) :
      Change settings a key before?
        (some { Entry.ofDocument key path d settings.locale? rank with shadow? })
  /-- It is made from a command line. -/
  | command (before? : Option Entry) (request : Request) (path : Path) (due : Nat)
      (isFileName : Path.IsFileName key) (action : a = .create request)
      (named : path.fileName? = some key) :
      Change settings a key before?
        (some ((Entry.ofCommand key path request.name? request.comment? request.exec
          request.delay).schedule settings.searchPath due))
  /-- It is given other texts or another delay. -/
  | edited (e : Entry) (name? comment? exec? : Option String) (delay due : Nat)
      (action : a = .update key name? comment? exec? delay)
      (differs : differs e name? comment? exec? delay = true) :
      Change settings a key (some e)
        (some ((edited e name? comment? exec? delay).describeAnew.schedule settings.searchPath
          due))
  /-- It is switched off or on. -/
  | switched (e : Entry) (hidden : Bool) (due : Nat) :
      Change settings a key (some e)
        (some ({ e with hidden, dirty := e.dirty.insert .hidden }.schedule settings.searchPath
          due))
  /-- Its shadow is noted. -/
  | shadowed (e : Entry) (shadow? : Option Nat) :
      Change settings a key (some e) (some { e with shadow? })
  /-- The report of an own write is taken. -/
  | reported (e : Entry) : Change settings a key (some e) (some { e with ownWrite := false })
  /-- Its save is not due any more. -/
  | undue (e : Entry) : Change settings a key (some e) (some (undue e))
  /-- Its changes were written. -/
  | saved (e : Entry) : Change settings a key (some e) (some (saved e))
  /-- It gave way to a file of the system. -/
  | back (e : Entry) (rank : Nat) (path : Path)
      (place : settings.searchPath.pathAt? rank e.filename = some path) :
      Change settings a key (some e) (some (backToSystem e rank path))

/-- A registry goes on by changes of an action, under the same settings. -/
structure Evolves (a : Action) (r r' : Registry) : Prop where
  /-- The settings stay. -/
  settings_eq : r'.settings = r.settings
  /-- Every launcher goes through changes of the action. -/
  changes : ∀ key,
    Relation.ReflTransGen (Change r.settings a key) (r.find? key) (r'.find? key)

namespace Evolves

variable {a : Action} {r r' r'' : Registry}

/-- A registry that keeps its launchers and its settings goes on by no change. -/
theorem of_find? (hsettings : r'.settings = r.settings) (h : ∀ key, r'.find? key = r.find? key) :
    Evolves a r r' := by
  refine ⟨hsettings, fun key => ?_⟩
  rw [h key]

/-- A registry goes on by no change. -/
theorem refl (a : Action) (r : Registry) : Evolves a r r :=
  of_find? rfl fun _ => rfl

/-- A registry goes on by changes after changes. -/
theorem trans (h : Evolves a r r') (h' : Evolves a r' r'') : Evolves a r r'' := by
  refine ⟨h'.settings_eq.trans h.settings_eq, fun key => (h.changes key).trans ?_⟩
  rw [← h.settings_eq]
  exact h'.changes key

/-- A registry goes on by one change of one launcher. -/
theorem set {key : String} {e : Entry} (h : Change r.settings a key (r.find? key) (some e)) :
    Evolves a r (r.set key e) := by
  refine ⟨rfl, fun key' => ?_⟩
  rw [find?_set]
  split
  · next heq =>
    rw [heq]
    exact .single h
  · exact .refl

/-- A registry goes on by dropping a launcher. -/
theorem drop (a : Action) (r : Registry) (key : String) : Evolves a r (r.drop key) := by
  refine ⟨rfl, fun key' => ?_⟩
  rw [find?_drop]
  split
  · exact .single (.dropped _)
  · exact .refl

/-- Telling the observers is no change. -/
theorem tell (h : Evolves a r r') (event : Event) : Evolves a r (r'.tell event) :=
  h.trans (of_find? rfl fun _ => rfl)

/-- Other files are no change. -/
theorem withFiles (h : Evolves a r r') (files : FileStore) : Evolves a r { r' with files } :=
  h.trans (of_find? rfl fun _ => rfl)

end Evolves

/-! ## Loading -/

variable (a : Action) (r : Registry)

/-- Loading a file changes the launcher of its name. -/
theorem evolves_loadStep {r r' : Registry} {path : Path} {key : String} {rank : Nat}
    (hkey : path.fileName? = some key) (h : LoadStep r path key rank r') : Evolves a r r' := by
  cases h with
  | nothing => exact .refl a r
  | ownWrite e find same own =>
    refine .set ?_
    rw [find]
    exact .reported e
  | shadow e find before =>
    refine .set ?_
    rw [find]
    by_cases hrank : SearchPath.userRank < rank
    · rw [shadowedBy_eq hrank]
      exact .shadowed e _
    · have hsame : e.shadowedBy rank = { e with shadow? := e.shadow? } := if_neg hrank
      rw [hsame]
      exact .shadowed e _
  | loaded d event reads settled =>
    have hisFileName := Path.isFileName_of_fileName? hkey
    exact (Evolves.set (.made _ path d rank _ hisFileName settled hkey)).tell event

/-- Loading a file changes at most the launcher of its name. -/
theorem evolves_load (path : Path) (rank : Nat) : Evolves a r (r.load path rank).2 := by
  rcases hname : path.fileName? with _ | key
  · rw [load_of_fileName?_eq_none hname]
    exact .refl a r
  · rw [load_snd hname]
    exact evolves_loadStep a hname (loadEntry_step r path key rank)

/-- A scan changes launchers by loading files. -/
theorem evolves_scan : Evolves a r r.scan :=
  scan_invariant (.refl a r) fun _ r' _ h _ => h.trans (evolves_load a r' _ _)

/-- A report of a change loads the file. -/
theorem evolves_fileChanged (path : Path) : Evolves a r (r.fileChanged path).2 := by
  unfold fileChanged
  split
  · split
    · exact evolves_load a r path _
    · exact .refl a r
  · exact .refl a r

/-- A report of a removal changes at most one launcher. -/
theorem evolves_fileRemoved (path : Path) : Evolves a r (r.fileRemoved path) := by
  have hstep := fileRemoved_step r path
  generalize r.fileRemoved path = r' at hstep
  cases hstep with
  | nothing => exact .refl a r
  | unshadowed rank key e shadow? rank_eq name_eq find other shadow_eq =>
    refine .set ?_
    rw [find]
    exact .shadowed e shadow?
  | replaced key e rank next d event name_eq find settled system next_eq reads =>
    have hkey := Path.isFileName_of_fileName? name_eq
    obtain ⟨dir, -, hnext⟩ := SearchPath.exists_of_pathAt? next_eq
    have hnamed : next.fileName? = some key := hnext ▸ Path.fileName?_join dir hkey
    refine (Evolves.set (.made _ next d rank _ hkey (fun e' he' => ?_) hnamed)).tell event
    obtain rfl := Option.some.inj (find.symm.trans he')
    exact settled
  | dropped key name_eq => exact (Evolves.drop a r key).tell _

/-! ## Edits and new launchers -/

/-- An edit in memory changes one launcher. -/
theorem evolves_commit {key : String} {changed : Entry}
    (h : ∀ due, Change r.settings a key (r.find? key)
      (some (changed.schedule r.searchPath due))) : Evolves a r (r.commit key changed) :=
  (Evolves.set (h _)).tell _

/-- An update edits the launcher. -/
theorem evolves_update (key : String) (name? comment? exec? : Option String) (delay : Nat) :
    Evolves (.update key name? comment? exec? delay) r
      (r.update key name? comment? exec? delay).2 := by
  rcases hresult : r.update key name? comment? exec? delay with ⟨outcome, r'⟩
  cases update_step hresult with
  | unknown => exact .refl _ _
  | same => exact .refl _ _
  | edited e find differs =>
    refine evolves_commit _ r fun due => ?_
    rw [find]
    exact .edited e name? comment? exec? delay due rfl differs

/-- Switching a launcher off or on changes it. -/
theorem evolves_setHidden (key : String) (hidden : Bool) :
    Evolves a r (r.setHidden key hidden).2 := by
  rcases hresult : r.setHidden key hidden with ⟨outcome, r'⟩
  cases setHidden_step hresult with
  | unknown => exact .refl a _
  | same => exact .refl a _
  | switched e find =>
    refine evolves_commit a r fun due => ?_
    rw [find]
    exact .switched e hidden due

/-- Deleting a launcher drops it or switches it off. -/
theorem evolves_delete (key : String) : Evolves a r (r.delete key).2 := by
  rcases hresult : r.delete key with ⟨outcome, r'⟩
  cases delete_step hresult with
  | unknown => exact .refl a _
  | failed => exact .refl a _
  | removed e files find own removed =>
    exact (((Evolves.refl a r).withFiles files).trans (.drop a _ key)).tell _
  | switched e find =>
    refine evolves_commit a r fun due => ?_
    rw [find]
    exact .switched e true due

/-- Making a launcher sets it from a command line. -/
theorem evolves_create (request : Request) :
    Evolves (.create request) r (r.create request).2 := by
  rcases hresult : r.create request with ⟨outcome, r'⟩
  cases create_step hresult with
  | refused => exact .refl _ _
  | made name isFileName =>
    exact (Evolves.set (.command _ request _ _ isFileName rfl
      (Path.fileName?_join _ isFileName))).tell _

/-- Bringing in a launcher loads it and may switch it on. -/
theorem evolves_copyFrom (text : String) : Evolves a r (r.copyFrom text).2 := by
  -- The copy is loaded like any other file.
  have hload : ∀ name files, Evolves a r
      (({ r with files } : Registry).load (r.searchPath.userPath name) SearchPath.userRank).2 :=
    fun name files => ((Evolves.refl a r).withFiles files).trans
      (evolves_load a _ (r.searchPath.userPath name) SearchPath.userRank)
  rcases hresult : r.copyFrom text with ⟨outcome, r'⟩
  cases copyFrom_step hresult with
  | refused => exact .refl a _
  | failed error name files => exact (Evolves.refl a r).withFiles files
  | loaded name files r' e isFileName free brought load =>
    have hafter := hload name files
    rw [load] at hafter
    have hfind := find?_of_load (Path.fileName?_join _ isFileName) load
    rcases switchOn_cases r' name e with heq | heq
    · rw [heq]
      exact hafter
    · rw [heq]
      refine hafter.trans (evolves_commit a r' fun due => ?_)
      rw [hfind]
      exact .switched e false due
  | useless error name files r' isFileName free brought load =>
    have hafter := hload name files
    rw [load] at hafter
    exact hafter.withFiles _

/-! ## Saves -/

/-- A save ends the save of one launcher. -/
theorem evolves_flush (key : String) : Evolves a r (r.flush key).2 := by
  rcases hresult : r.flush key with ⟨outcome, r'⟩
  -- However a save ends, the launcher is first one whose save is not due any more.
  have htwo : ∀ (e e' : Entry) (files : FileStore), r.find? key = some e →
      Change r.settings a key (some (undue e)) (some e') →
      Evolves a r (({ r with files } : Registry).set key e') := by
    intro e e' files hfind hchange
    have hundue : Evolves a r (r.set key (undue e)) := by
      refine .set ?_
      rw [hfind]
      exact .undue e
    have hend : Evolves a (r.set key (undue e)) ((r.set key (undue e)).set key e') := by
      refine .set ?_
      rw [find?_set_self]
      exact hchange
    rw [set_set] at hend
    exact (hundue.trans hend).withFiles files
  cases flush_step hresult with
  | unknown => exact .refl a _
  | idle => exact .refl a _
  | back e rank path files find pending twin removed =>
    exact htwo e _ files find (.back (undue e) rank path (twin?_spec twin).2.1)
  | written e files find pending write => exact htwo e _ files find (.saved (undue e))
  | failed e error files find => exact htwo e _ files find (.undue (undue e))

/-- Saves one after the other end saves. -/
theorem evolves_flushEach (keys : List String) : Evolves a r (r.flushEach keys).2 :=
  flushEach_invariant (.refl a r) (fun r' key h => h.trans (evolves_flush a r' key)) keys

/-- Closing a launcher saves and drops it. -/
theorem evolves_close (key : String) : Evolves a r (r.close key).2 := by
  rcases close_cases r key with heq | heq | heq | heq
  · rw [heq]
    exact .refl a r
  · rw [heq]
    exact evolves_flush a r key
  · rw [heq]
    exact .drop a r key
  · rw [heq]
    exact (evolves_flush a r key).trans (.drop a _ key)

/-- A shutdown saves and drops every launcher. -/
theorem evolves_shutdown : Evolves a r r.shutdown.2 :=
  ⟨(evolves_flushEach a r (r.namesWhere Entry.isPending)).settings_eq, fun _ =>
    .single (.dropped _)⟩

/-! ## Runs -/

/-- Every action changes launchers in the ways listed above only. -/
theorem evolves_perform : Evolves a r (r.perform a) := by
  cases a with
  | scan => exact evolves_scan _ r
  | load path rank => exact evolves_load _ r path rank
  | fileChanged path => exact evolves_fileChanged _ r path
  | fileRemoved path => exact evolves_fileRemoved _ r path
  | update key name? comment? exec? delay => exact evolves_update r key name? comment? exec? delay
  | setHidden key hidden => exact evolves_setHidden _ r key hidden
  | delete key => exact evolves_delete _ r key
  | create request => exact evolves_create r request
  | copyFrom text => exact evolves_copyFrom _ r text
  | flush key => exact evolves_flush _ r key
  | runDueSaves => exact evolves_flushEach _ r _
  | close key => exact evolves_close _ r key
  | shutdown => exact evolves_shutdown _ r
  | advance milliseconds => exact .of_find? rfl fun _ => rfl
  | subscribe => exact .of_find? rfl fun _ => rfl
  | unsubscribe id => exact .of_find? rfl fun _ => rfl
  | outside files => exact .of_find? rfl fun _ => rfl

/-- A run keeps the settings that it starts with. -/
theorem Reachable.settings_eq {allowed : Action → Prop} {settings : Settings} {r : Registry}
    (h : Reachable allowed settings r) : r.settings = settings :=
  h.invariant (fun _ _ => rfl) fun r a _ hr => (evolves_perform a r).settings_eq.trans hr

/-- What every change of an allowed action keeps holds of every launcher of a run. -/
theorem Reachable.entry_invariant {allowed : Action → Prop} {settings : Settings}
    {P : String → Entry → Prop}
    (step : ∀ a key before? after?, allowed a → Change settings a key before? after? →
      (∀ e, before? = some e → P key e) → ∀ e, after? = some e → P key e)
    {r : Registry} (h : Reachable allowed settings r) {key : String} {e : Entry}
    (hfind : r.find? key = some e) : P key e := by
  induction h generalizing key e with
  | fresh files now => cases hfind
  | step before a reachable ok ih =>
    have hchanges := (evolves_perform a before).changes key
    rw [reachable.settings_eq] at hchanges
    -- An action is a chain of changes, and each link of it keeps the property.
    have hall : ∀ after?, Relation.ReflTransGen (Change settings a key) (before.find? key) after? →
        ∀ e, after? = some e → P key e := by
      intro after? hchain
      induction hchain with
      | refl => exact fun e he => ih he
      | tail _ hchange ihchain => exact step a key _ _ ok hchange ihchain
    exact hall _ hchanges e hfind

/-- In every run launchers are kept under names of files. -/
theorem Reachable.isFileName {allowed : Action → Prop} {settings : Settings} {r : Registry}
    (h : Reachable allowed settings r) {key : String} {e : Entry} (hfind : r.find? key = some e) :
    Path.IsFileName key := by
  refine h.entry_invariant (P := fun key _ => Path.IsFileName key) ?_ hfind
  intro a key before? after? _ hchange hbefore e he
  cases hchange with
  | dropped => cases he
  | made before? path d rank shadow? isFileName settled => exact isFileName
  | command before? request path due isFileName action => exact isFileName
  | edited e => exact hbefore e rfl
  | switched e => exact hbefore e rfl
  | shadowed e => exact hbefore e rfl
  | reported e => exact hbefore e rfl
  | undue e => exact hbefore e rfl
  | saved e => exact hbefore e rfl
  | back e => exact hbefore e rfl

/-- A launcher is kept under its file name, and its source is a file of this name. -/
structure FiledUnder (key : String) (e : Entry) : Prop where
  /-- The name is that of a file. -/
  isFileName : Path.IsFileName key
  /-- The launcher has the name. -/
  filename_eq : e.filename = key
  /-- The source has the name. -/
  source_eq : e.source.fileName? = some key

/-- Only its own file name and that of its source matter to how a launcher is kept. -/
theorem FiledUnder.congr {key : String} {e e' : Entry} (h : FiledUnder key e)
    (hfilename : e'.filename = e.filename) (hsource : e'.source = e.source) : FiledUnder key e' :=
  ⟨h.isFileName, hfilename.trans h.filename_eq, hsource ▸ h.source_eq⟩

/-- A launcher with a save due is kept as before. -/
theorem FiledUnder.schedule {key : String} {e : Entry} (h : FiledUnder key e) (s : SearchPath)
    (due : Nat) : FiledUnder key (e.schedule s due) := by
  unfold Entry.schedule
  split
  · exact h.congr rfl rfl
  · refine ⟨h.isFileName, h.filename_eq, ?_⟩
    show (s.userPath e.filename).fileName? = some key
    rw [h.filename_eq]
    exact Path.fileName?_join _ h.isFileName

/-- In every run launchers are kept under their file names, which are those of their sources. -/
theorem Reachable.filedUnder {allowed : Action → Prop} {settings : Settings} {r : Registry}
    (h : Reachable allowed settings r) {key : String} {e : Entry} (hfind : r.find? key = some e) :
    FiledUnder key e := by
  refine h.entry_invariant (P := FiledUnder) ?_ hfind
  intro a key before? after? _ hchange hbefore e he
  cases hchange with
  | dropped => cases he
  | made before? path d rank shadow? isFileName settled named =>
    cases he
    exact ⟨isFileName, rfl, named⟩
  | command before? request path due isFileName action named =>
    cases he
    refine FiledUnder.schedule ?_ _ _
    exact ⟨isFileName, rfl, named⟩
  | edited e =>
    cases he
    refine FiledUnder.schedule ?_ _ _
    exact (hbefore e rfl).congr rfl rfl
  | switched e =>
    cases he
    refine FiledUnder.schedule ?_ _ _
    exact (hbefore e rfl).congr rfl rfl
  | back e rank path place =>
    cases he
    have hfiled := hbefore e rfl
    obtain ⟨dir, -, hpath⟩ := SearchPath.exists_of_pathAt? place
    refine ⟨hfiled.isFileName, hfiled.filename_eq, ?_⟩
    show path.fileName? = some key
    rw [← hpath, hfiled.filename_eq]
    exact Path.fileName?_join dir hfiled.isFileName
  | shadowed e | reported e | undue e | saved e =>
    cases he
    exact (hbefore e rfl).congr rfl rfl

end Autostart.Registry
