import Autostart.Proofs.Registry.Backing
import Autostart.Proofs.Registry.Rescan

/-!
# Files that a registry writes and removes

Whatever is edited, deleted or saved, a registry that was made by a scan touches the files directly
in the directory of the user only, and makes directories. So the copies of the system stay what they
were at the scan, and the shadow that a launcher got there remains the lowest rank of the system
that holds its name.
-/

namespace Autostart.Registry

/-! ## Files outside the directory of the user -/

/-- A store leaves every file that is not directly in the directory of the user. -/
structure LeavesOthers (s : SearchPath) (fs fs' : FileStore) : Prop where
  /-- Relative paths start at the same place. -/
  workingDirectory_eq : fs'.workingDirectory = fs.workingDirectory
  /-- The files elsewhere are left. -/
  leaves : ∀ p, (∀ name, fs.locationOf p ≠ fs.locationOf s.userDirectory ++ [name]) →
    fs.Leaves fs' p

namespace LeavesOthers

variable {s : SearchPath} {fs fs' fs'' : FileStore}

/-- A store leaves its own files. -/
theorem refl (s : SearchPath) (fs : FileStore) : LeavesOthers s fs fs :=
  ⟨rfl, fun p _ => .refl fs p⟩

/-- What one change after another leaves both leave. -/
theorem trans (h : LeavesOthers s fs fs') (h' : LeavesOthers s fs' fs'') :
    LeavesOthers s fs fs'' := by
  refine ⟨h'.workingDirectory_eq.trans h.workingDirectory_eq, fun p hp =>
    (h.leaves p hp).trans (h'.leaves p fun name => ?_)⟩
  rw [FileStore.locationOf_congr h.workingDirectory_eq,
    FileStore.locationOf_congr h.workingDirectory_eq]
  exact hp name

/-- A change to one file in the directory of the user leaves the files elsewhere. -/
theorem of_keeps {name : String}
    (h : fs.Keeps fs' (fs.locationOf s.userDirectory ++ [name])) : LeavesOthers s fs fs' :=
  ⟨h.workingDirectory_eq, fun _ hp => h.leaves (hp name)⟩

end LeavesOthers

/-- The file of a launcher with changes stands in the directory of the user. -/
theorem locationOf_source (fs : FileStore) {s : SearchPath} {key : String} {e : Entry}
    (h : e.Sound s key) (hkey : Path.IsFileName key) (huser : e.rank? = some SearchPath.userRank) :
    fs.locationOf e.source = fs.locationOf s.userDirectory ++ [key] := by
  obtain ⟨rank, hrank, -, hplaces⟩ := h.placed
  obtain rfl := Option.some.inj (hrank.symm.trans huser)
  obtain ⟨dir, hdir, hsource⟩ := fs.locationOf_of_places hkey hplaces
  obtain rfl : s.userDirectory = dir := Option.some.inj hdir
  exact hsource

/-- What a registry does without looking at the files of launchers again, while no other program
changes them. -/
def Action.IsEdit : Action → Prop
  | .scan | .load _ _ | .fileChanged _ | .fileRemoved _ | .outside _ => False
  | _ => True

/-- An edit loads no file. -/
theorem Action.IsEdit.isPlaced {a : Action} (h : a.IsEdit) : a.IsPlaced := by
  cases a <;> first | exact h.elim | trivial

/-- A registry has only been edited since a scan of the given files: it leaves the files of the
system, a shadow is the one that the scan found, and a launcher of the user comes from the path of
the user. -/
structure SinceScan (settings : Settings) (files : FileStore) (r : Registry) : Prop where
  /-- Some run leads to the registry. -/
  reachable : Reachable Action.IsPlaced settings r
  /-- The files of the system are left. -/
  leaves : LeavesOthers settings.searchPath files r.files
  /-- The shadow of a launcher is the lowest rank of the system that held its name. -/
  shadow : ∀ key e rank, r.find? key = some e → e.shadow? = some rank →
    Lowest ((Registry.fresh settings files 0).HeldInSystem key) (some rank)
  /-- A launcher of the user comes from the path of the user. -/
  source : ∀ key e, r.find? key = some e → e.rank? = some SearchPath.userRank →
    e.source = settings.searchPath.userPath key

namespace SinceScan

variable {settings : Settings} {files : FileStore} {r r' : Registry}

/-- The search path is that of the settings. -/
theorem searchPath_eq (h : SinceScan settings files r) : r.searchPath = settings.searchPath :=
  congrArg Settings.searchPath h.reachable.settings_eq

/-- What a launcher records fits together. -/
theorem sound (h : SinceScan settings files r) {key : String} {e : Entry}
    (hfind : r.find? key = some e) : e.Sound settings.searchPath key :=
  (h.reachable.inSync fun _ ok => ok).sound key e hfind

/-- A scan of files that can all be used is a start. -/
theorem scan (settings : Settings) (files : FileStore) (now : Nat)
    (husable : (Registry.fresh settings files now).Usable) :
    SinceScan settings files ((Registry.fresh settings files now).perform .scan) := by
  have hscanned := scanned_scan (r := Registry.fresh settings files now) fun _ => rfl
  have hmerged : ∀ key e, (Registry.fresh settings files now).scan.find? key = some e →
      MergedFrom (Registry.fresh settings files now) key
        ((Registry.fresh settings files now).Holds key) (some e) := fun key e he =>
    he ▸ hscanned.mergedFrom key
  refine ⟨.step _ _ (.fresh files now) trivial, ?_, fun key e rank he hrank => ?_,
    fun key e he huser => ?_⟩
  · show LeavesOthers _ files (Registry.fresh settings files now).scan.files
    rw [hscanned.files_eq]
    exact .refl _ _
  · exact hrank ▸ (hmerged key e he).lowest_shadow husable
  · obtain ⟨rank, dir, d, shadow?, hheld, -, -, rfl, -⟩ := hmerged key e he
    obtain rfl : rank = SearchPath.userRank := Option.some.inj huser
    obtain rfl : settings.searchPath.userDirectory = dir := Option.some.inj hheld.1
    rfl

/-! ## Steps -/

/-- A registry goes on when it leaves the files of the system, and each of its launchers has no
shadow or that of before, and the path of the user at the rank of the user. -/
theorem of_step (h : SinceScan settings files r)
    (hreachable : Reachable Action.IsPlaced settings r')
    (hleaves : LeavesOthers settings.searchPath r.files r'.files)
    (hshadow : ∀ key e', r'.find? key = some e' →
      e'.shadow? = none ∨ ∃ e, r.find? key = some e ∧ e'.shadow? = e.shadow?)
    (hsource : ∀ key e', r'.find? key = some e' → e'.rank? = some SearchPath.userRank →
      e'.source = settings.searchPath.userPath key) :
    SinceScan settings files r' := by
  refine ⟨hreachable, h.leaves.trans hleaves, fun key e' rank he' hrank => ?_, hsource⟩
  rcases hshadow key e' he' with hnone | ⟨e, he, hsame⟩
  · rw [hnone] at hrank
    cases hrank
  · exact h.shadow key e rank he (hsame ▸ hrank)

/-- A registry goes on when it knows no more launchers, and leaves the files of the system. -/
theorem of_find? (h : SinceScan settings files r)
    (hreachable : Reachable Action.IsPlaced settings r')
    (hleaves : LeavesOthers settings.searchPath r.files r'.files)
    (hfind : ∀ key e, r'.find? key = some e → r.find? key = some e) :
    SinceScan settings files r' :=
  h.of_step hreachable hleaves (fun key e he => .inr ⟨e, hfind key e he, rfl⟩)
    fun key e he => h.source key e (hfind key e he)

/-- A registry goes on when one launcher is set to one without a shadow or with that of before. -/
theorem set (h : SinceScan settings files r) (key : String) {e' : Entry}
    (hshadow : e'.shadow? = none ∨ ∃ e, r.find? key = some e ∧ e'.shadow? = e.shadow?)
    (hsource : e'.rank? = some SearchPath.userRank → e'.source = settings.searchPath.userPath key)
    (hreachable : Reachable Action.IsPlaced settings r')
    (hleaves : LeavesOthers settings.searchPath r.files r'.files)
    (hset : ∀ key', r'.find? key' = (r.set key e').find? key') : SinceScan settings files r' := by
  refine h.of_step hreachable hleaves (fun key' e'' he'' => ?_) fun key' e'' he'' => ?_
  · rw [hset, find?_set] at he''
    split at he''
    · next heq =>
      obtain rfl := Option.some.inj he''
      exact heq ▸ hshadow
    · exact .inr ⟨e'', he'', rfl⟩
  · rw [hset, find?_set] at he''
    split at he''
    · next heq =>
      obtain rfl := Option.some.inj he''
      exact heq ▸ hsource
    · exact h.source key' e'' he''

/-- A launcher with a due save comes from the path of the user, when it already did so at the rank
of the user. -/
theorem source_schedule {e : Entry} {s : SearchPath}
    (h : e.rank? = some SearchPath.userRank → e.source = s.userPath e.filename) (due : Nat) :
    (e.schedule s due).source = s.userPath e.filename := by
  unfold Entry.schedule
  split
  · next huser => exact h huser
  · rfl

/-- A launcher with a due save has the shadow of before. -/
theorem shadow?_schedule (e : Entry) (s : SearchPath) (due : Nat) :
    (e.schedule s due).shadow? = e.shadow? := by
  unfold Entry.schedule
  split <;> rfl

/-- A registry goes on with an edit in memory. -/
theorem commit (h : SinceScan settings files r) {key : String} {e changed : Entry}
    (hfind : r.find? key = some e) (hfilename : changed.filename = e.filename)
    (hshadow : changed.shadow? = e.shadow?) (hrank : changed.rank? = e.rank?)
    (hsource : changed.source = e.source)
    (hreachable : Reachable Action.IsPlaced settings (r.commit key changed)) :
    SinceScan settings files (r.commit key changed) := by
  have hkey : changed.filename = key := hfilename.trans (h.sound hfind).filename_eq
  have hshadow' := (shadow?_schedule changed r.searchPath r.dueTime).trans hshadow
  refine h.set key (.inr ⟨e, hfind, hshadow'⟩) (fun _ => ?_) hreachable (.refl _ _) fun _ => rfl
  have huser : changed.rank? = some SearchPath.userRank →
      changed.source = r.searchPath.userPath changed.filename := by
    intro huser
    rw [hsource, hkey, h.searchPath_eq]
    exact h.source key e hfind (hrank ▸ huser)
  rw [source_schedule huser, hkey, h.searchPath_eq]

/-- A registry goes on with an update. -/
theorem update (h : SinceScan settings files r) (key : String)
    (name? comment? exec? : Option String) (delay : Nat) :
    SinceScan settings files (r.update key name? comment? exec? delay).2 := by
  have hreachable : Reachable Action.IsPlaced settings
      (r.update key name? comment? exec? delay).2 :=
    .step r (.update key name? comment? exec? delay) h.reachable trivial
  rcases hresult : r.update key name? comment? exec? delay with ⟨outcome, r'⟩
  rw [hresult] at hreachable
  cases update_step hresult with
  | unknown => exact h
  | same => exact h
  | edited e find => exact h.commit find rfl rfl rfl rfl hreachable

/-- A registry goes on with a launcher switched off or on. -/
theorem setHidden (h : SinceScan settings files r) (key : String) (hidden : Bool) :
    SinceScan settings files (r.setHidden key hidden).2 := by
  have hreachable : Reachable Action.IsPlaced settings (r.setHidden key hidden).2 :=
    .step r (.setHidden key hidden) h.reachable trivial
  rcases hresult : r.setHidden key hidden with ⟨outcome, r'⟩
  rw [hresult] at hreachable
  cases setHidden_step hresult with
  | unknown => exact h
  | same => exact h
  | switched e find => exact h.commit find rfl rfl rfl rfl hreachable

/-- Removing the file of a launcher of the user leaves the files elsewhere. -/
theorem leavesOthers_withoutFile (h : SinceScan settings files r) {key : String} {e : Entry}
    (hfind : r.find? key = some e) (huser : e.rank? = some SearchPath.userRank)
    {files' : FileStore} (hremoved : withoutFile r.files e.source = .ok files') :
    LeavesOthers settings.searchPath r.files files' := by
  have hlocation := locationOf_source r.files (h.sound hfind) (h.reachable.isFileName hfind) huser
  have hkeeps := (withoutFile_spec hremoved).1
  rw [hlocation] at hkeeps
  exact .of_keeps hkeeps

/-- A registry goes on with a deletion. -/
theorem delete (h : SinceScan settings files r) (key : String) :
    SinceScan settings files (r.delete key).2 := by
  have hreachable : Reachable Action.IsPlaced settings (r.delete key).2 :=
    .step r (.delete key) h.reachable trivial
  rcases hresult : r.delete key with ⟨outcome, r'⟩
  rw [hresult] at hreachable
  cases delete_step hresult with
  | unknown => exact h
  | failed => exact h
  | removed e files' find own removed =>
    refine h.of_find? hreachable (h.leavesOthers_withoutFile find own.1 removed)
      fun key' e' he' => ?_
    rw [find?_tell, find?_drop] at he'
    split at he'
    · cases he'
    · exact he'
  | switched e find => exact h.commit find rfl rfl rfl rfl hreachable

/-- A registry goes on with a launcher that is made from a command line. -/
theorem create (h : SinceScan settings files r) (request : Request) :
    SinceScan settings files (r.create request).2 := by
  have hreachable : Reachable Action.IsPlaced settings (r.create request).2 :=
    .step r (.create request) h.reachable trivial
  rcases hresult : r.create request with ⟨outcome, r'⟩
  rw [hresult] at hreachable
  cases create_step hresult with
  | refused => exact h
  | made name =>
    refine h.set name (.inl ?_) (fun _ => ?_) hreachable (.refl _ _) fun _ => rfl
    · rw [shadow?_schedule]
      rfl
    · rw [← h.searchPath_eq]
      exact source_schedule (fun _ => rfl) _

/-- Loading a file of the user under a free name sets at most a launcher without a shadow, which
comes from the path of the user. -/
theorem find?_load_of_free {r : Registry} {name : String} {path : Path}
    (hfree : r.find? name = none) (hname : path.fileName? = some name) :
    (r.load path SearchPath.userRank).2.files = r.files ∧
      ((∀ key, (r.load path SearchPath.userRank).2.find? key = r.find? key) ∨
        ∃ e, e.shadow? = none ∧ e.source = path ∧ e.rank? = some SearchPath.userRank ∧
          ∀ key, (r.load path SearchPath.userRank).2.find? key = (r.set name e).find? key) := by
  have hstep := loadEntry_step r path name SearchPath.userRank
  rw [← load_snd hname] at hstep
  refine ⟨hstep.files_eq, ?_⟩
  generalize (r.load path SearchPath.userRank).2 = r' at hstep
  cases hstep with
  | nothing => exact .inl fun _ => rfl
  | ownWrite e find =>
    rw [hfree] at find
    cases find
  | shadow e find =>
    rw [hfree] at find
    cases find
  | loaded d event reads settled =>
    refine .inr ⟨r.made path name SearchPath.userRank d, ?_, rfl, rfl, fun _ => rfl⟩
    show (r.find? name).bind Entry.shadow? = none
    rw [hfree]
    rfl

/-- A launcher of the user without a shadow is one still when it was switched on. -/
theorem find?_switchOn {r : Registry} {name : String} {e : Entry}
    (hfind : r.find? name = some e) (huser : e.rank? = some SearchPath.userRank) :
    (r.switchOn name e).files = r.files ∧
      ∃ e', e'.shadow? = e.shadow? ∧ e'.source = e.source ∧
        ∀ key, (r.switchOn name e).find? key = (r.set name e').find? key := by
  rcases switchOn_cases r name e with heq | heq
  · rw [heq]
    refine ⟨rfl, e, rfl, rfl, fun key => ?_⟩
    rw [find?_set]
    split
    · next hkey => rw [hkey, hfind]
    · rfl
  · -- The launcher stands at the rank of the user already, so only its save becomes due.
    rw [heq]
    refine ⟨rfl, (switched e false).schedule r.searchPath r.dueTime, shadow?_schedule _ _ _, ?_,
      fun _ => rfl⟩
    have huser' : (switched e false).rank? = some SearchPath.userRank := huser
    unfold Entry.schedule
    rw [if_pos huser']
    rfl

/-- A registry goes on with a launcher that is brought in. -/
theorem copyFrom (h : SinceScan settings files r) (text : String) :
    SinceScan settings files (r.copyFrom text).2 := by
  have hreachable : Reachable Action.IsPlaced settings (r.copyFrom text).2 :=
    .step r (.copyFrom text) h.reachable trivial
  have hlocation : ∀ name, Path.IsFileName name → r.files.locationOf (r.searchPath.userPath name) =
      r.files.locationOf settings.searchPath.userDirectory ++ [name] := by
    intro name hname
    rw [h.searchPath_eq]
    exact r.files.locationOf_join _ hname
  rcases hresult : r.copyFrom text with ⟨outcome, r'⟩
  rw [hresult] at hreachable
  cases copyFrom_step hresult with
  | refused => exact h
  | failed error name files isFileName free brought =>
    exact h.of_find? hreachable (.of_keeps (hlocation name isFileName ▸ keeps_of_bring brought))
      fun _ _ he => he
  | loaded name files r' e isFileName free brought load =>
    have hfileName : (r.searchPath.userPath name).fileName? = some name :=
      Path.fileName?_join _ isFileName
    have hfree := find?_of_isTaken free
    obtain ⟨hfiles, hload⟩ := find?_load_of_free (r := { r with files }) hfree hfileName
    rw [load] at hload hfiles
    have hfind := find?_of_load hfileName load
    rcases hload with hsame | ⟨made, hshadow, hsource, huser, hset⟩
    · -- A load that gives a launcher has set one.
      rw [hsame name] at hfind
      cases hfree.symm.trans hfind
    · obtain rfl : made = e := by
        rw [hset, find?_set_self] at hfind
        exact Option.some.inj hfind
      obtain ⟨hfiles', e', hshadow', hsource', hset'⟩ := find?_switchOn hfind huser
      refine h.set name (.inl (hshadow'.trans hshadow)) (fun _ => ?_) hreachable ?_ fun key => ?_
      · rw [hsource', hsource, h.searchPath_eq]
      · rw [hfiles', hfiles]
        exact .of_keeps (hlocation name isFileName ▸ keeps_of_bring brought)
      · rw [hset', find?_set, find?_set, hset, find?_set]
        split <;> rfl
  | useless error name files r' isFileName free brought load =>
    have hfileName : (r.searchPath.userPath name).fileName? = some name :=
      Path.fileName?_join _ isFileName
    have hfree := find?_of_isTaken free
    obtain ⟨hfiles, hload⟩ := find?_load_of_free (r := { r with files }) hfree hfileName
    rw [load] at hload hfiles
    have hclean := (touches_cleanedUp_of_bring brought).keeps fun _ hl => hl
    have hleaves : LeavesOthers settings.searchPath r.files
        (cleanedUp r'.files (r.searchPath.userPath name)) := by
      rw [hfiles]
      exact .of_keeps (hlocation name isFileName ▸ hclean)
    rcases hload with hsame | ⟨made, hshadow, hsource, -, hset⟩
    · exact h.of_find? hreachable hleaves fun key e he => (hsame key).symm.trans he
    · exact h.set name (.inl hshadow) (fun _ => h.searchPath_eq ▸ hsource) hreachable hleaves hset

/-! ## Saves -/

/-- A registry goes on with a save. -/
theorem flush (h : SinceScan settings files r) (key : String) :
    SinceScan settings files (r.flush key).2 := by
  have hreachable : Reachable Action.IsPlaced settings (r.flush key).2 :=
    .step r (.flush key) h.reachable trivial
  rcases hresult : r.flush key with ⟨outcome, r'⟩
  rw [hresult] at hreachable
  cases flush_step hresult with
  | unknown => exact h
  | idle => exact h
  | back e rank path files' find pending twin removed =>
    have hshadow := (twin?_spec twin).1
    have hsame : (backToSystem (undue e) rank path).shadow? = e.shadow? := rfl
    refine h.set key (.inr ⟨e, find, hsame⟩) (fun huser => ?_) hreachable ?_ fun _ => rfl
    · -- The shadow is a rank of the system, so the launcher does not come from the user any more.
      obtain rfl : rank = SearchPath.userRank := Option.some.inj huser
      exact absurd (h.shadow key e _ find hshadow).1.1 (Nat.lt_irrefl _)
    · unfold withoutOverride at removed
      split at removed
      · next huser =>
        rw [Bool.and_eq_true] at huser
        split at removed
        · next hremoved =>
          obtain rfl := Except.ok.inj removed
          exact h.leavesOthers_withoutFile find (of_decide_eq_true huser.1) hremoved
        · cases removed
      · obtain rfl := Except.ok.inj removed
        exact .refl _ _
  | written e files' find pending write =>
    have huser := (h.sound find).user_of_dirty ((h.sound find).dirty_of_pending pending)
    have hsame : (saved (undue e)).shadow? = e.shadow? := rfl
    refine h.set key (.inr ⟨e, find, hsame⟩) (h.source key e find) hreachable ?_ fun _ => rfl
    have hkeeps := (writeUser_eq_ok write).1
    rw [locationOf_source r.files (h.sound find) (h.reachable.isFileName find) huser] at hkeeps
    exact .of_keeps hkeeps
  | failed e error files' find pending touches =>
    have hsame : (undue e).shadow? = e.shadow? := rfl
    have hkeeps : r.files.Keeps files'
        (r.files.locationOf settings.searchPath.userDirectory ++ [key]) :=
      touches.keeps fun _ => False.elim
    exact h.set key (.inr ⟨e, find, hsame⟩) (h.source key e find) hreachable (.of_keeps hkeeps)
      fun _ => rfl

/-- A registry goes on with a launcher that is saved and dropped. -/
theorem close (h : SinceScan settings files r) (key : String) :
    SinceScan settings files (r.close key).2 := by
  have hreachable : Reachable Action.IsPlaced settings (r.close key).2 :=
    .step r (.close key) h.reachable trivial
  -- What is dropped is only left out.
  have hdrop : ∀ {r' : Registry}, SinceScan settings files r' →
      Reachable Action.IsPlaced settings (r'.drop key) → SinceScan settings files (r'.drop key) :=
    fun h' hreachable' => h'.of_find? hreachable' (.refl _ _) fun key' e he => by
      rw [find?_drop] at he
      split at he
      · cases he
      · exact he
  rcases close_cases r key with heq | heq | heq | heq
  · rw [heq]
    exact h
  · rw [heq]
    exact h.flush key
  · rw [heq] at hreachable ⊢
    exact hdrop h hreachable
  · rw [heq] at hreachable ⊢
    exact hdrop (h.flush key) hreachable

/-- A registry goes on with every edit. -/
theorem perform (h : SinceScan settings files r) {a : Action} (ha : a.IsEdit) :
    SinceScan settings files (r.perform a) := by
  have hreachable := Reachable.step r a h.reachable ha.isPlaced
  have hkept : (∀ key, (r.perform a).find? key = r.find? key) →
      (r.perform a).files = r.files → SinceScan settings files (r.perform a) := by
    intro hfind hfiles
    refine h.of_find? hreachable ?_ fun key e he => hfind key ▸ he
    rw [hfiles]
    exact .refl _ _
  have hflushes : ∀ keys, SinceScan settings files (r.flushEach keys).2 := fun keys =>
    flushEach_invariant h (fun _ key h' => h'.flush key) keys
  cases a with
  | scan => exact ha.elim
  | load path rank => exact ha.elim
  | fileChanged path => exact ha.elim
  | fileRemoved path => exact ha.elim
  | update key name? comment? exec? delay => exact h.update key name? comment? exec? delay
  | setHidden key hidden => exact h.setHidden key hidden
  | delete key => exact h.delete key
  | create request => exact h.create request
  | copyFrom text => exact h.copyFrom text
  | flush key => exact h.flush key
  | runDueSaves => exact hflushes _
  | close key => exact h.close key
  | shutdown => exact (hflushes _).of_find? hreachable (.refl _ _) fun key e he => by cases he
  | advance milliseconds => exact hkept (fun _ => rfl) rfl
  | subscribe => exact hkept (fun _ => rfl) rfl
  | unsubscribe id => exact hkept (fun _ => rfl) rfl
  | outside files => exact ha.elim

/-- A registry goes on with any list of edits. -/
theorem foldl (h : SinceScan settings files r) {edits : List Action}
    (hedits : ∀ a ∈ edits, a.IsEdit) :
    SinceScan settings files (edits.foldl Registry.perform r) := by
  induction edits generalizing r with
  | nil => exact h
  | cons a rest ih =>
    exact ih (h.perform (hedits a List.mem_cons_self)) fun b hb =>
      hedits b (List.mem_cons_of_mem a hb)

end SinceScan

end Autostart.Registry
