import Autostart.Proofs.Registry.Confinement
import Autostart.Proofs.Registry.ShadowRanks
import Autostart.Proofs.Registry.ShadowRemoval

/-!
# Reports of own writes

A watcher of the files reports the writes of the registry itself too, at any time after them. The
registry marks the launcher of such a write, and takes the next report at its rank for that of the
write. So a report that comes after a write, with no other one of the same name between, is taken
silently, whatever was edited and saved in the meantime. A report is silent as well while changes
wait, and when the file is gone again. What is left is a launcher that was written twice before the
first report: the second one makes it anew.
-/

namespace Autostart.Registry

variable {settings : Settings} {r r' : Registry} {name name' : String} {p p' : Path}

/-! ## Written files -/

/-- The file of the user of a name was written at a path: the path leads to its place, and if a file
still stands there, the launcher comes from the directory of the user. -/
structure Traced (r : Registry) (name : String) (p : Path) : Prop where
  /-- The name is one of a file. -/
  isFileName : Path.IsFileName name
  /-- The path is one of the name in the directory of the user. -/
  places : r.searchPath.Places SearchPath.userRank name p
  /-- The path leads to its place. -/
  leads : r.files.Leads p
  /-- A file at the place is that of the launcher. -/
  user : ∀ c, r.files.node? (r.files.locationOf p) = some (.file c) →
    ∃ e, r.find? name = some e ∧ e.rank? = some SearchPath.userRank

/-- A launcher of the user ignores the next report about its file: it expects one of an own write,
or has changes that wait for a save. -/
def Ignores (r : Registry) (name : String) : Prop :=
  ∀ e, r.find? name = some e → e.rank? = some SearchPath.userRank →
    e.ownWrite = true ∨ e.isPending = true

namespace Traced

/-- The path has the name. -/
theorem fileName?_eq (h : Traced r name p) : p.fileName? = some name := by
  obtain ⟨dir, -, hcomponents⟩ := h.places.components_eq h.isFileName
  rw [Path.fileName?, hcomponents, List.getLast?_concat]

/-- The path stands directly in the directory of the user. -/
theorem locationOf_eq (h : Traced r name p) :
    r.files.locationOf p = r.files.locationOf r.searchPath.userDirectory ++ [name] := by
  obtain ⟨dir, hdir, hlocation⟩ := r.files.locationOf_of_places h.isFileName h.places
  obtain rfl : r.searchPath.userDirectory = dir := Option.some.inj hdir
  exact hlocation

/-- A written file stays traced when a file at its place is that of the launcher after a change. -/
theorem of_touches (h : Traced r name p) (hsettings : r'.settings = r.settings) {q : Path}
    {touched : Location → Prop} (htouches : r.files.Touches r'.files q touched)
    (huser : ∀ c, r'.files.node? (r.files.locationOf p) = some (.file c) →
      ∃ e, r'.find? name = some e ∧ e.rank? = some SearchPath.userRank) : Traced r' name p := by
  refine ⟨h.isFileName, ?_, h.leads.touches htouches, fun c hc => huser c ?_⟩
  · unfold searchPath
    rw [hsettings]
    exact h.places
  · rw [FileStore.locationOf_congr htouches.workingDirectory_eq] at hc
    exact hc

/-- A written file stays traced when other files are touched, and its launcher still comes from the
directory of the user if it did so. -/
theorem of_untouched (h : Traced r name p) (hsettings : r'.settings = r.settings) {q : Path}
    {touched : Location → Prop} (htouches : r.files.Touches r'.files q touched)
    (huntouched : ¬ touched (r.files.locationOf p))
    (huser : ∀ e, r.find? name = some e → e.rank? = some SearchPath.userRank →
      ∃ e', r'.find? name = some e' ∧ e'.rank? = some SearchPath.userRank) : Traced r' name p := by
  refine h.of_touches hsettings htouches fun c hc => ?_
  obtain ⟨e, hfind, hrank⟩ := h.user c ((htouches.file_iff _ c huntouched).1 hc)
  exact huser e hfind hrank

/-- A written file stays traced when one launcher is set to one of the user. -/
theorem set (h : Traced r name p) (key : String) {e : Entry}
    (hrank : e.rank? = some SearchPath.userRank) : Traced (r.set key e) name p := by
  refine h.of_untouched rfl (.refl _ p fun _ => False) id fun e' hfind hrank' => ?_
  rw [find?_set]
  split
  · exact ⟨e, rfl, hrank⟩
  · exact ⟨e', hfind, hrank'⟩

/-- Taking the file of a launcher away leaves none at the place of a path that leads there. -/
theorem gone_of_withoutFile (h : Traced r name p) {q : Path}
    (hplaces : r.searchPath.Places SearchPath.userRank name q) {files : FileStore}
    (hremoved : withoutFile r.files q = .ok files) (c : Content) :
    files.node? (r.files.locationOf p) ≠ some (.file c) := by
  have hsame : p.same q = true := hplaces.congr.1 h.places
  have hlocation : r.files.locationOf q = r.files.locationOf p := by
    rw [r.files.locationOf_eq, r.files.locationOf_eq, (Path.same_iff p q).1 hsame]
  unfold withoutFile at hremoved
  split at hremoved
  · next hresult =>
    obtain rfl := Except.ok.inj hremoved
    obtain ⟨-, -, -, hafter⟩ := FileStore.removeFile_spec hresult
    rw [hafter, if_pos hlocation.symm]
    exact fun heq => by cases heq
  · next hmissing =>
    -- A file at the place would be found, however the path to it is spelled.
    obtain rfl := Except.ok.inj hremoved
    exact fun hnode => h.leads.removeFile_ne_notFound hnode h.fileName?_eq hsame hmissing
  · cases hremoved

end Traced

/-! ## Silent reports -/

/-- A report of a name changed nothing but the mark of an own write of its launcher, and made no
launcher. -/
def TakenSilently (r : Registry) (name : String) (result : Option Entry × Registry) : Prop :=
  result = (none, r) ∨
    ∃ e, r.find? name = some e ∧ result = (none, r.set name { e with ownWrite := false })

/-- Setting a launcher that is there already is no change. -/
theorem set_of_find? {e : Entry} (h : r.find? name = some e) : r.set name e = r := by
  have hentries : (r.set name e).entries = r.entries := set_entries_of_find? h
  obtain ⟨settings, files, now, entries, observers⟩ := r
  exact congrArg (fun entries => Registry.mk settings files now entries observers) hentries

/-- A report about a written file loads it at the rank of the user, if it is one of a launcher. -/
theorem Traced.fileChanged_eq (h : Traced r name p) :
    r.fileChanged p = if Entry.isFilename name = true then r.load p SearchPath.userRank
      else (none, r) := by
  unfold Registry.fileChanged
  rw [h.fileName?_eq, Option.any_some, SearchPath.rankOf?_of_user h.places h.fileName?_eq]

/-- No launcher is made from a file that cannot be used. -/
theorem load_of_not_reads {rank : Nat} (hname : p.fileName? = some name)
    (hunread : ∀ d, ¬ r.Reads p d)
    (hentry : r.loadEntry p name rank = r.readEntry p name rank) : r.load p rank = (none, r) := by
  unfold load
  rw [hname]
  dsimp only
  rw [hentry]
  rcases readEntry_cases r p name rank with ⟨result, hresult, heq⟩ | ⟨d, event, hreads, -⟩
  · rw [heq]
    split
    · next hloaded => exact absurd (Prod.mk.inj hloaded).1 hresult
    · next hother => rw [(Prod.mk.inj hother).2]
  · exact absurd hreads (hunread d)

/-- A report about a written file is taken silently by a launcher that ignores it. -/
theorem Traced.takenSilently (h : Traced r name p) (hignores : r.Ignores name)
    (hsound : ∀ e, r.find? name = some e → e.Sound r.searchPath name) :
    TakenSilently r name (r.fileChanged p) := by
  have hunread : (∀ e, r.find? name = some e → e.rank? ≠ some SearchPath.userRank) →
      ∀ d, ¬ r.Reads p d := by
    intro hsystem d hreads
    obtain ⟨s, hnode, -⟩ := Document.node?_of_load hreads.1
    obtain ⟨e, hfind, hrank⟩ := h.user _ hnode
    exact hsystem e hfind hrank
  rw [h.fileChanged_eq]
  split
  swap
  · exact .inl rfl
  · rcases hfind : r.find? name with _ | e
    · -- The launcher was deleted, with its file.
      refine .inl (load_of_not_reads h.fileName?_eq (hunread fun e he => ?_) ?_)
      · rw [hfind] at he
        cases he
      · unfold loadEntry
        rw [hfind]
    · obtain ⟨rank, hrank, -⟩ := (hsound e hfind).placed
      by_cases huser : rank = SearchPath.userRank
      · subst huser
        unfold load
        rw [h.fileName?_eq]
        by_cases hown : e.ownWrite = true
        · -- The report is taken for that of the own write.
          refine .inr ⟨e, hfind, ?_⟩
          have hentry : r.loadEntry p name SearchPath.userRank =
              (.ok .skipped, r.set name { e with ownWrite := false }) := by
            unfold loadEntry
            rw [hfind]
            dsimp only
            rw [if_pos ⟨hrank, hown⟩]
          dsimp only
          rw [hentry]
        · -- The changes that wait are kept, and a file of the user casts no shadow.
          have hpending := (hignores e hfind hrank).resolve_left hown
          have hentry : r.loadEntry p name SearchPath.userRank = (.ok .skipped, r) := by
            have hsame : e.shadowedBy SearchPath.userRank = e := if_neg (Nat.lt_irrefl _)
            unfold loadEntry
            rw [hfind]
            dsimp only
            rw [if_neg fun hboth => hown hboth.2, if_pos (by simp [hpending]), hsame,
              set_of_find? hfind]
          refine .inl ?_
          dsimp only
          rw [hentry]
      · -- The launcher gave way to the system, and its file was taken away.
        have hsystem : e.rank? ≠ some SearchPath.userRank := fun heq =>
          huser (Option.some.inj (hrank.symm.trans heq))
        refine .inl (load_of_not_reads h.fileName?_eq (hunread fun e' he' => ?_) ?_)
        · obtain rfl := Option.some.inj (hfind.symm.trans he')
          exact hsystem
        · have hclean : e.dirty = .none := by
            by_contra hdirty
            exact hsystem ((hsound e hfind).user_of_dirty hdirty)
          have hsettled : e.isPending = false := by
            refine Bool.eq_false_iff.2 fun hpending => ?_
            exact (hsound e hfind).dirty_of_pending hpending hclean
          unfold loadEntry
          rw [hfind]
          dsimp only
          rw [if_neg fun hboth => hsystem hboth.1]
          simp [hrank, hsettled, SearchPath.userRank]

/-! ## What concerns one launcher -/

/-- A launcher whose save is due is one of the user that waits. -/
theorem schedule_waits (e : Entry) (s : SearchPath) (due : Nat) :
    (e.schedule s due).rank? = some SearchPath.userRank ∧ (e.schedule s due).isPending = true := by
  unfold Entry.schedule
  split
  · next huser => exact ⟨huser, rfl⟩
  · exact ⟨rfl, rfl⟩

/-- What became of a registry concerns one launcher: no other one is changed, no file is touched but
its own in the directory of the user, and it comes from there as long as the file of it that was
written stands. -/
structure Concerns (r : Registry) (key : String) (r' : Registry) : Prop where
  /-- The settings are the same. -/
  settings_eq : r'.settings = r.settings
  /-- No other file is touched. -/
  touches : r.files.Touches r'.files r.searchPath.userDirectory fun l =>
    l = r.files.locationOf r.searchPath.userDirectory ++ [key]
  /-- The other launchers are the same. -/
  find?_of_ne : ∀ name, name ≠ key → r'.find? name = r.find? name
  /-- Where its file was written and stands it is one of the user. -/
  user : ∀ p, Traced r key p → ∀ c, r'.files.node? (r.files.locationOf p) = some (.file c) →
    ∃ e, r'.find? key = some e ∧ e.rank? = some SearchPath.userRank

namespace Concerns

variable {key : String}

/-- What leaves launchers and files as they are concerns any launcher. -/
theorem of_same (key : String) (hsettings : r'.settings = r.settings) (hfiles : r'.files = r.files)
    (hfind : ∀ name, r'.find? name = r.find? name) : Concerns r key r' := by
  refine ⟨hsettings, ?_, fun name _ => hfind name, fun p hp c hc => ?_⟩
  · rw [hfiles]
    exact .refl _ _ _
  · rw [hfiles] at hc
    rw [hfind]
    exact hp.user c hc

/-- Telling the observers of it makes no difference. -/
theorem tell (h : Concerns r key r') (event : Event) : Concerns r key (r'.tell event) :=
  ⟨h.settings_eq, h.touches, h.find?_of_ne, h.user⟩

/-- Setting a launcher to one of the user concerns it, with its own file. -/
theorem of_set {files : FileStore} {e : Entry}
    (htouches : r.files.Touches files r.searchPath.userDirectory fun l =>
      l = r.files.locationOf r.searchPath.userDirectory ++ [key])
    (huser : e.rank? = some SearchPath.userRank) :
    Concerns r key ({ r with files }.set key e) := by
  refine ⟨rfl, htouches, fun name hne => ?_, fun p hp c hc => ⟨e, ?_, huser⟩⟩
  · rw [find?_set, if_neg hne]
    rfl
  · rw [find?_set_self]

/-- Taking the file of a launcher of the user away concerns it. -/
theorem of_withoutFile {e : Entry} (hsound : e.Sound r.searchPath key)
    (hname : Path.IsFileName key) (huser : e.rank? = some SearchPath.userRank) {files : FileStore}
    (hremoved : withoutFile r.files e.source = .ok files) (hsettings : r'.settings = r.settings)
    (hfiles : r'.files = files) (hfind : ∀ name, name ≠ key → r'.find? name = r.find? name) :
    Concerns r key r' := by
  obtain ⟨rank, hrank, -, hplaces⟩ := hsound.placed
  obtain rfl : rank = SearchPath.userRank := Option.some.inj (hrank.symm.trans huser)
  subst hfiles
  refine ⟨hsettings, ?_, hfind, fun p hp c hc => ?_⟩
  · have htouches := touches_withoutFile hremoved r.searchPath.userDirectory
    rw [locationOf_source r.files hsound hname huser] at htouches
    exact htouches
  · exact absurd hc (hp.gone_of_withoutFile hplaces hremoved c)

end Concerns

/-- A written file stays traced by what concerns one launcher. -/
theorem Traced.concerns {key : String} (h : Traced r name p) (hconcerns : Concerns r key r') :
    Traced r' name p := by
  by_cases hname : name = key
  · subst hname
    exact h.of_touches hconcerns.settings_eq hconcerns.touches (hconcerns.user p h)
  · refine h.of_untouched hconcerns.settings_eq hconcerns.touches (fun heq => hname ?_)
      fun e hfind hrank => ⟨e, (hconcerns.find?_of_ne name hname).trans hfind, hrank⟩
    rw [h.locationOf_eq] at heq
    exact (List.append_singleton_inj.1 heq).2

/-- A launcher ignores the next report after what concerns another one. -/
theorem Ignores.concerns {key : String} (h : r.Ignores name) (hconcerns : Concerns r key r')
    (hkey : r.Ignores key → r'.Ignores key) : r'.Ignores name := by
  by_cases hname : name = key
  · subst hname
    exact hkey h
  · intro e hfind hrank
    rw [hconcerns.find?_of_ne name hname] at hfind
    exact h e hfind hrank

/-- A launcher that waits for a save ignores the next report. -/
theorem ignores_of_waits {e : Entry} (hfind : r.find? name = some e)
    (hignores : e.ownWrite = true ∨ e.isPending = true) : r.Ignores name := by
  intro e' hfind' _
  obtain rfl := Option.some.inj (hfind.symm.trans hfind')
  exact hignores

/-! ## Edits, saves and reports -/

/-- An action edits launchers, or does nothing to them: time passes, or observers come and go. -/
def Action.IsEditing : Action → Prop
  | .update _ _ _ _ _ | .setHidden _ _ | .delete _ | .create _ => True
  | .advance _ | .subscribe | .unsubscribe _ => True
  | _ => False

/-- An edit loads no file. -/
theorem Action.IsEditing.isPlaced {a : Action} (h : a.IsEditing) : a.IsPlaced := by
  cases a <;> first | exact h.elim | trivial

/-- A change of a launcher that waits for its save concerns it, and it ignores the next report. -/
theorem scheduled_concerns (r : Registry) (key : String) (e : Entry) (due : Nat) (event : Event) :
    Concerns r key ((r.set key (e.schedule r.searchPath due)).tell event) ∧
      ((r.set key (e.schedule r.searchPath due)).tell event).Ignores key := by
  obtain ⟨huser, hpending⟩ := schedule_waits e r.searchPath due
  have hset : Concerns r key (r.set key (e.schedule r.searchPath due)) :=
    .of_set (.refl _ _ _) huser
  refine ⟨hset.tell event, ignores_of_waits (e := e.schedule r.searchPath due) ?_ (.inr hpending)⟩
  rw [find?_tell, find?_set_self]

/-- When no directory of the system is that of the user, a file of the system is none of the
user. -/
theorem places_same_eq_false {s : SearchPath}
    (hother : ∀ dir ∈ s.systemDirectories, dir.same s.userDirectory = false)
    (hname : Path.IsFileName name) {rank : Nat} (hsystem : SearchPath.userRank < rank)
    (h : s.Places SearchPath.userRank name p) (h' : s.Places rank name p') :
    p.same p' = false := by
  obtain ⟨user, huser, hcomponents⟩ := h.components_eq hname
  obtain ⟨dir, hdir, hcomponents'⟩ := h'.components_eq hname
  obtain rfl : s.userDirectory = user := Option.some.inj huser
  refine Bool.eq_false_iff.2 fun hsame => ?_
  rw [Path.same_iff, hcomponents, hcomponents'] at hsame
  have heq := (Path.same_iff _ _).2 (List.append_inj_left' hsame rfl).symm
  rw [hother dir (mem_systemDirectories hdir hsystem)] at heq
  cases heq

section Steps

variable (h : Reachable Action.IsPlaced settings r)

include h

/-- A launcher of the registry fits together. -/
theorem Reachable.sound_of_find? {e : Entry} (hfind : r.find? name = some e) :
    e.Sound r.searchPath name := by
  have hsound := (h.inSync fun _ ok => ok).sound name e hfind
  rwa [← congrArg Settings.searchPath h.settings_eq] at hsound

/-- An edit concerns one launcher, which ignores the next report if it did so before. -/
theorem edit_concerns {a : Action} (ha : a.IsEditing) :
    ∃ key, Concerns r key (r.perform a) ∧ (r.Ignores key → (r.perform a).Ignores key) := by
  have hnothing : ∀ key, Concerns r key r ∧ (r.Ignores key → r.Ignores key) := fun key =>
    ⟨.of_same key rfl rfl fun _ => rfl, id⟩
  have hcommit : ∀ key changed, Concerns r key (r.commit key changed) ∧
      (r.Ignores key → (r.commit key changed).Ignores key) := fun key changed =>
    (scheduled_concerns r key changed r.dueTime (.changed key)).imp_right fun hignores _ => hignores
  cases a with
  | update key name? comment? exec? delay =>
    refine ⟨key, ?_⟩
    rcases hresult : r.update key name? comment? exec? delay with ⟨outcome, r'⟩
    rw [perform, hresult]
    cases update_step hresult with
    | unknown => exact hnothing key
    | same => exact hnothing key
    | edited => exact hcommit key _
  | setHidden key hidden =>
    refine ⟨key, ?_⟩
    rcases hresult : r.setHidden key hidden with ⟨outcome, r'⟩
    rw [perform, hresult]
    cases setHidden_step hresult with
    | unknown => exact hnothing key
    | same => exact hnothing key
    | switched => exact hcommit key _
  | delete key =>
    refine ⟨key, ?_⟩
    rcases hresult : r.delete key with ⟨outcome, r'⟩
    rw [perform, hresult]
    cases delete_step hresult with
    | unknown => exact hnothing key
    | failed => exact hnothing key
    | removed e files find own removed =>
      have hfind : ∀ name, (({ r with files } : Registry).drop key).find? name =
          if name = key then none else r.find? name :=
        fun name => find?_drop { r with files } name key
      have hdrop : Concerns r key (({ r with files } : Registry).drop key) :=
        .of_withoutFile (h.sound_of_find? find) (h.isFileName find) own.1 removed rfl rfl
          fun name hne => (hfind name).trans (if_neg hne)
      refine ⟨hdrop.tell (.removed key), fun _ e' hfind' => ?_⟩
      rw [find?_tell, hfind, if_pos rfl] at hfind'
      cases hfind'
    | switched => exact hcommit key _
  | create request =>
    rcases hresult : r.create request with ⟨outcome, r'⟩
    rw [perform, hresult]
    cases create_step hresult with
    | refused => exact ⟨"", hnothing ""⟩
    | made key =>
      exact ⟨key, (scheduled_concerns r key _ _ _).imp_right fun hignores _ => hignores⟩
  | advance milliseconds => exact ⟨"", .of_same "" rfl rfl fun _ => rfl, id⟩
  | subscribe => exact ⟨"", .of_same "" rfl rfl fun _ => rfl, id⟩
  | unsubscribe => exact ⟨"", .of_same "" rfl rfl fun _ => rfl, id⟩
  | _ => exact ha.elim

/-- A save concerns its launcher, which ignores the next report if it did so before. -/
theorem flush_concerns
    (hother : ∀ dir ∈ settings.searchPath.systemDirectories,
      dir.same settings.searchPath.userDirectory = false) (key : String) :
    Concerns r key (r.flush key).2 ∧ (r.Ignores key → (r.flush key).2.Ignores key) := by
  have hsearch : r.searchPath = settings.searchPath := congrArg Settings.searchPath h.settings_eq
  have huser : ∀ {e}, r.find? key = some e → e.isPending = true →
      e.rank? = some SearchPath.userRank := fun find pending =>
    (h.sound_of_find? find).user_of_dirty ((h.sound_of_find? find).dirty_of_pending pending)
  rcases hresult : r.flush key with ⟨outcome, r'⟩
  cases flush_step hresult with
  | unknown => exact ⟨.of_same key rfl rfl fun _ => rfl, id⟩
  | idle => exact ⟨.of_same key rfl rfl fun _ => rfl, id⟩
  | back e rank path files find pending twin removed =>
    have hsound := h.sound_of_find? find
    have hname := h.isFileName find
    obtain ⟨hshadow, hpath, -⟩ := twin?_spec twin
    have hsystem : SearchPath.userRank < rank := h.system_of_shadow find hshadow
    have hset : ∀ name, (({ r with files } : Registry).set key
        (backToSystem (undue e) rank path)).find? name =
          if name = key then some (backToSystem (undue e) rank path) else r.find? name :=
      fun name => find?_set { r with files } name key _
    -- The file of the user is another one than that of the system, so it goes away.
    obtain ⟨own, hown, -, hplaces⟩ := hsound.placed
    obtain rfl := Option.some.inj (hown.symm.trans (huser find pending))
    have hplaces' : r.searchPath.Places rank key path :=
      SearchPath.places_of_pathAt? (hsound.filename_eq ▸ hpath)
    have hapart : e.source.same path = false :=
      places_same_eq_false (hsearch ▸ hother) hname hsystem hplaces hplaces'
    have hremoved : withoutFile r.files e.source = .ok files :=
      (withoutOverride_eq_ok_iff hown hapart).1 removed
    refine ⟨.of_withoutFile hsound hname hown hremoved rfl rfl fun name hne =>
      (hset name).trans (if_neg hne), fun _ e' hfind' hrank => ?_⟩
    rw [hset, if_pos rfl] at hfind'
    obtain rfl := Option.some.inj hfind'
    exact absurd (Option.some.inj hrank) (Nat.ne_of_gt hsystem)
  | written e files find pending write =>
    have htouches := (touches_of_writeUser write).1
    rw [locationOf_source r.files (h.sound_of_find? find) (h.isFileName find)
      (huser find pending)] at htouches
    have huser' : (saved (undue e)).rank? = some SearchPath.userRank := huser (e := e) find pending
    refine ⟨.of_set htouches huser', fun _ =>
      ignores_of_waits (e := saved (undue e)) ?_ (.inl rfl)⟩
    rw [find?_set_self]
  | failed e error files find pending touches =>
    have huser' : (undue e).rank? = some SearchPath.userRank := huser (e := e) find pending
    refine ⟨.of_set (touches.mono fun _ => False.elim) huser', fun _ =>
      ignores_of_waits (e := undue e) ?_ (.inr (isPending_of_dirty ?_))⟩
    · rw [find?_set_self]
    · exact (h.sound_of_find? find).dirty_of_pending pending

/-- A save that writes leaves a written file, and its launcher ignores the next report. -/
theorem traced_of_written {key : String} {e : Entry} (hfind : r.find? key = some e)
    (hwritten : (r.flush key).1 = .ok .written) :
    Traced (r.flush key).2 key e.source ∧ (r.flush key).2.Ignores key := by
  rcases hresult : r.flush key with ⟨outcome, r'⟩
  rw [hresult] at hwritten
  obtain rfl : outcome = .ok .written := hwritten
  cases flush_step hresult with
  | written e' files find pending write =>
    obtain rfl := Option.some.inj (hfind.symm.trans find)
    have hsound := h.sound_of_find? hfind
    have huser := hsound.user_of_dirty (hsound.dirty_of_pending pending)
    obtain ⟨rank, hrank, -, hplaces⟩ := hsound.placed
    obtain rfl := Option.some.inj (hrank.symm.trans huser)
    have hset : (({ r with files } : Registry).set key (saved (undue e))).find? key =
        some (saved (undue e)) := by rw [find?_set_self]
    -- The file that was written is found at its path.
    obtain ⟨l, hstat⟩ := FileStore.readText_eq_ok_iff.1 (touches_of_writeUser write).2
    have hleads := FileStore.leads_of_isFile (FileStore.isFile_iff.2 ⟨l, _, hstat⟩)
    exact ⟨⟨h.isFileName hfind, hplaces, hleads, fun _ _ => ⟨_, hset, huser⟩⟩,
      ignores_of_waits hset (.inl rfl)⟩

end Steps

/-- What a load puts in place of a launcher of the user is one of the user. -/
theorem LoadStep.user_of_user (h : LoadStep r p name SearchPath.userRank r') {e : Entry}
    (hfind : r.find? name = some e) (huser : e.rank? = some SearchPath.userRank) :
    ∃ e', r'.find? name = some e' ∧ e'.rank? = some SearchPath.userRank := by
  cases h with
  | nothing => exact ⟨e, hfind, huser⟩
  | ownWrite e' find same =>
    exact ⟨{ e' with ownWrite := false }, by rw [find?_set_self], same⟩
  | shadow e' find =>
    obtain rfl := Option.some.inj (hfind.symm.trans find)
    have hsame : e.shadowedBy SearchPath.userRank = e := if_neg (Nat.lt_irrefl _)
    exact ⟨e, by rw [find?_set_self, hsame], huser⟩
  | loaded d => exact ⟨_, by rw [find?_tell, find?_set_self], rfl⟩

/-- A report about a written file concerns its launcher. -/
theorem Traced.fileChanged_concerns (h : Traced r name p) :
    Concerns r name (r.fileChanged p).2 := by
  obtain ⟨hfiles, hsettings, hfind⟩ := fileChanged_frame r p
  refine ⟨hsettings, ?_, fun name' hne => hfind name' ?_, fun p' hp' c hc => ?_⟩
  · rw [hfiles]
    exact .refl _ _ _
  · rw [h.fileName?_eq]
    exact fun heq => hne (Option.some.inj heq).symm
  · rw [hfiles] at hc
    obtain ⟨e, he, huser⟩ := hp'.user c hc
    rw [h.fileChanged_eq]
    split
    swap
    · exact ⟨e, he, huser⟩
    · rw [load_snd h.fileName?_eq]
      exact (loadEntry_step r p name SearchPath.userRank).user_of_user he huser

/-! ## Queues of reports -/

/-- A registry with the reports of its own writes that are on their way to it. -/
structure Queued where
  /-- The registry. -/
  registry : Registry
  /-- The paths of the files that it wrote, in the order in which they will be reported. -/
  inFlight : List Path
  /-- The names of which a file was written since the last report of the name. -/
  awaited : List String

namespace Queued

/-- Launchers are edited. -/
def edit (q : Queued) (a : Action) : Queued :=
  { q with registry := q.registry.perform a }

/-- A launcher is saved, and its file will be reported if it was written. -/
def flush (q : Queued) (filename : String) : Queued :=
  match q.registry.flush filename, q.registry.find? filename with
  | (.ok .written, r), some e => ⟨r, q.inFlight ++ [e.source], filename :: q.awaited⟩
  | (_, r), _ => { q with registry := r }

/-- The saves that are due are run. -/
def runDueSaves (q : Queued) : Queued :=
  (q.registry.namesWhere fun e => e.due?.any (· ≤ q.registry.now)).foldl flush q

/-- The next report is delivered. -/
def deliver (q : Queued) : Queued :=
  match q.inFlight with
  | [] => q
  | p :: rest =>
    ⟨(q.registry.fileChanged p).2, rest, q.awaited.filter fun name => p.fileName? ≠ some name⟩

/-- A save that is watched is a save of the registry. -/
theorem registry_flush (q : Queued) (filename : String) :
    (q.flush filename).registry = (q.registry.flush filename).2 := by
  unfold flush
  split
  · next heq _ => rw [heq]
  · next heq _ => rw [heq]

/-- A save that writes is reported once, with the path of the file that it wrote. -/
theorem inFlight_flush (q : Queued) {filename : String} {e : Entry}
    (hfind : q.registry.find? filename = some e) :
    (q.flush filename).inFlight =
      if (q.registry.flush filename).1 = .ok .written then q.inFlight ++ [e.source]
      else q.inFlight := by
  unfold flush
  split
  · next r e' heq hfind' =>
    obtain rfl := Option.some.inj (hfind.symm.trans hfind')
    rw [heq, if_pos rfl]
  · next heq hother =>
    rw [heq, if_neg (hother e hfind)]

/-- The due saves that are watched are the due saves of the registry. -/
theorem registry_runDueSaves (q : Queued) :
    q.runDueSaves.registry = q.registry.runDueSaves.2 := by
  have heach : ∀ keys (q : Queued),
      (keys.foldl flush q).registry = (q.registry.flushEach keys).2 := by
    intro keys
    induction keys with
    | nil => exact fun q => rfl
    | cons key rest ih =>
      intro q
      rw [List.foldl_cons, ih, registry_flush, flushEach]
      -- A save that failed does not keep the others from being tried.
      split
      · next heq => rw [heq]
      · next heq => rw [heq]
  exact heach _ q

end Queued

/-- A registry is watched from some point of a run on, and from there its launchers are edited and
saved and its own writes are reported, with nothing else told to it and no change of the files by
other programs. -/
inductive Watching (settings : Settings) : Queued → Prop where
  /-- From some point on the registry is watched. -/
  | start (r : Registry) (reachable : Reachable Action.IsPlaced settings r) :
      Watching settings ⟨r, [], []⟩
  /-- Launchers are edited. -/
  | edited (q : Queued) (a : Action) (watching : Watching settings q) (ok : a.IsEditing) :
      Watching settings (q.edit a)
  /-- A launcher is saved. -/
  | flushed (q : Queued) (filename : String) (watching : Watching settings q) :
      Watching settings (q.flush filename)
  /-- The saves that are due are run. -/
  | ranDueSaves (q : Queued) (watching : Watching settings q) : Watching settings q.runDueSaves
  /-- A report is delivered. -/
  | delivered (q : Queued) (watching : Watching settings q) : Watching settings q.deliver

/-- Every report on its way is one of a written file, and the launchers of the names that were
written since their last report ignore the next one. -/
structure Queued.Accounted (settings : Settings) (q : Queued) : Prop where
  /-- The registry is at some point of a run. -/
  reachable : Reachable Action.IsPlaced settings q.registry
  /-- The reports are those of written files. -/
  traced : ∀ p ∈ q.inFlight, ∃ name, q.registry.Traced name p
  /-- The launchers ignore the next report. -/
  ignores : ∀ name ∈ q.awaited, q.registry.Ignores name

namespace Queued.Accounted

variable {q : Queued}

/-- The reports stay accounted for by what concerns a launcher and lets it ignore the next one. -/
theorem concerns {key : String} (h : q.Accounted settings)
    (hreachable : Reachable Action.IsPlaced settings r') (hconcerns : Concerns q.registry key r')
    (hkey : q.registry.Ignores key → r'.Ignores key) :
    Queued.Accounted settings { q with registry := r' } := by
  refine ⟨hreachable, fun p hp => ?_, fun name hname => ?_⟩
  · obtain ⟨name, htraced⟩ := h.traced p hp
    exact ⟨name, htraced.concerns hconcerns⟩
  · exact (h.ignores name hname).concerns hconcerns hkey

/-- The reports stay accounted for when launchers are edited. -/
theorem edit (h : q.Accounted settings) {a : Action} (ha : a.IsEditing) :
    (q.edit a).Accounted settings := by
  obtain ⟨key, hconcerns, hkey⟩ := edit_concerns h.reachable ha
  exact h.concerns (.step _ a h.reachable ha.isPlaced) hconcerns hkey

/-- The reports that are left stay accounted for when one is delivered. -/
theorem deliver (h : q.Accounted settings) : q.deliver.Accounted settings := by
  unfold Queued.deliver
  split
  · exact h
  · next p rest hinFlight =>
    obtain ⟨key, htraced⟩ := h.traced p (hinFlight ▸ List.mem_cons_self)
    have hconcerns := htraced.fileChanged_concerns
    refine ⟨.step _ (.fileChanged p) h.reachable trivial, fun p' hp' => ?_, fun name hname => ?_⟩
    · obtain ⟨name, htraced'⟩ := h.traced p' (hinFlight ▸ List.mem_cons_of_mem p hp')
      exact ⟨name, htraced'.concerns hconcerns⟩
    · -- The reported name is not awaited any more.
      obtain ⟨hmem, hne⟩ := List.mem_filter.1 hname
      rw [htraced.fileName?_eq] at hne
      have hne' : name ≠ key := fun heq => by simp [heq] at hne
      intro e hfind hrank
      rw [hconcerns.find?_of_ne name hne'] at hfind
      exact h.ignores name hmem e hfind hrank

end Queued.Accounted

section Saves

variable {q : Queued}
  (hother : ∀ dir ∈ settings.searchPath.systemDirectories,
    dir.same settings.searchPath.userDirectory = false)
include hother

/-- The reports stay accounted for when a launcher is saved, and one of a file that was written is
added. -/
theorem Queued.Accounted.flush (h : q.Accounted settings) (key : String) :
    (q.flush key).Accounted settings := by
  obtain ⟨hconcerns, hkey⟩ := flush_concerns h.reachable hother key
  have hflush := h.concerns (.step _ (.flush key) h.reachable trivial) hconcerns hkey
  unfold Queued.flush
  split
  · next r e heq hfind =>
    obtain ⟨htraced, hignores⟩ := traced_of_written h.reachable hfind (congrArg Prod.fst heq)
    rw [perform] at hflush
    rw [heq] at hflush htraced hignores
    refine ⟨hflush.reachable, fun p hp => ?_, fun name hname => ?_⟩
    · rcases List.mem_append.1 hp with hp | hp
      · exact hflush.traced p hp
      · obtain rfl := List.mem_singleton.1 hp
        exact ⟨key, htraced⟩
    · rcases List.mem_cons.1 hname with rfl | hname
      · exact hignores
      · exact hflush.ignores name hname
  · next heq _ =>
    rw [perform, heq] at hflush
    exact hflush

/-- The reports stay accounted for when the saves that are due are run. -/
theorem Queued.Accounted.runDueSaves (h : q.Accounted settings) :
    q.runDueSaves.Accounted settings := by
  unfold Queued.runDueSaves
  generalize q.registry.namesWhere (fun e => e.due?.any (· ≤ q.registry.now)) = keys
  induction keys generalizing q with
  | nil => exact h
  | cons key rest ih => exact ih (h.flush hother key)

/-- The reports of the own writes of a watched registry are accounted for. -/
theorem Watching.accounted (h : Watching settings q) : q.Accounted settings := by
  induction h with
  | start r reachable =>
    exact ⟨reachable, fun p hp => absurd hp List.not_mem_nil, fun name hname =>
      absurd hname List.not_mem_nil⟩
  | edited q a _ ok ih => exact ih.edit ok
  | flushed q key _ ih => exact ih.flush hother key
  | ranDueSaves q _ ih => exact ih.runDueSaves hother
  | delivered q _ ih => exact ih.deliver

end Saves

/-- A report of an own write, whenever it is delivered, makes no launcher and changes nothing but
the mark of an own write, unless it finds a launcher of the user without changes that was not
written since the last report of its name. No directory of the system may be that of the user. -/
theorem ownWrite_takenSilently
    (hother : ∀ dir ∈ settings.searchPath.systemDirectories,
      dir.same settings.searchPath.userDirectory = false)
    {q : Queued} (h : Watching settings q) (hp : p ∈ q.inFlight) :
    ∃ name, p.fileName? = some name ∧
      ((∀ e, q.registry.find? name = some e → e.rank? = some SearchPath.userRank →
          e.isPending = false → name ∈ q.awaited) →
        TakenSilently q.registry name (q.registry.fileChanged p)) := by
  have haccounted := h.accounted hother
  obtain ⟨name, htraced⟩ := haccounted.traced p hp
  refine ⟨name, htraced.fileName?_eq, fun hawaited => htraced.takenSilently ?_
    fun e => haccounted.reachable.sound_of_find?⟩
  intro e hfind hrank
  rcases hpending : e.isPending with _ | _
  · have hmem := hawaited e hfind hrank hpending
    exact hpending ▸ haccounted.ignores name hmem e hfind hrank
  · exact .inr rfl

/-- The launcher of the user is switched off, and the change is saved, while an observer listens. -/
def writtenOnce (settings : Settings) : Queued :=
  let r := [.scan, .subscribe].foldl perform (Registry.fresh settings oneUserLauncher 0)
  (Queued.edit ⟨r, [], []⟩ (.setHidden "a.desktop" true)).flush "a.desktop"

/-- It is switched on again, and the change is saved before the first one is reported. -/
def writtenTwice : Queued :=
  ((writtenOnce userDirectoryOnly).edit (.setHidden "a.desktop" false)).flush "a.desktop"

/-- A launcher that is switched off is saved in the course of being watched. -/
theorem watching_writtenOnce (settings : Settings) : Watching settings (writtenOnce settings) := by
  have hreachable : Reachable Action.IsPlaced settings
      ([Action.scan, .subscribe].foldl perform (Registry.fresh settings oneUserLauncher 0)) :=
    .foldl (.fresh _ _) (by simp [Action.IsPlaced])
  exact .flushed _ _ (.edited _ _ (.start _ hreachable) trivial)

/-- A launcher that is switched on again is saved in the course of being watched. -/
theorem watching_writtenTwice : Watching userDirectoryOnly writtenTwice :=
  .flushed _ _ (.edited _ _ (watching_writtenOnce _) trivial)

/-- The first report of a file that was written twice is taken silently. -/
theorem takenSilently_writtenTwice :
    writtenTwice.inFlight = [⟨"user/a.desktop"⟩, ⟨"user/a.desktop"⟩] ∧
      TakenSilently writtenTwice.registry "a.desktop"
        (writtenTwice.registry.fileChanged ⟨"user/a.desktop"⟩) := by
  have hinFlight : writtenTwice.inFlight = [⟨"user/a.desktop"⟩, ⟨"user/a.desktop"⟩] := rfl
  obtain ⟨name, hname, hsilent⟩ := ownWrite_takenSilently (by decide) watching_writtenTwice
    (hinFlight ▸ List.mem_cons_self)
  obtain rfl : "a.desktop" = name := Option.some.inj hname
  exact ⟨hinFlight, hsilent fun e _ _ _ => List.mem_cons_self⟩

/-- The settings of a user whose directory is listed for the system too. -/
def doubledDirectory : Settings :=
  .ofDirectories ⟨⟨"user"⟩, [⟨"user"⟩]⟩

/-- The file of the launcher was written, and its name is changed and changed back before the
report: the file is that of the system now, and still stands. -/
def writtenThenUndone : Queued :=
  (((writtenOnce doubledDirectory).edit (.update "a.desktop" (some "B") none (some "a") 0)).edit
    (.update "a.desktop" (some "A") none (some "a") 0)).flush "a.desktop"

/-- A report is not taken silently when it is the second one of a file that was written twice before
the first one was delivered: the launcher is made anew, and the observer is told of a change. So it
is when the directory of the user is listed for the system too, and the launcher has given way to
the system. -/
theorem reloaded_writtenTwice :
    (Watching userDirectoryOnly writtenTwice.deliver ∧
      writtenTwice.deliver.inFlight = [⟨"user/a.desktop"⟩] ∧
      (writtenTwice.deliver.registry.fileChanged ⟨"user/a.desktop"⟩).1.isSome = true ∧
      writtenTwice.deliver.deliver.registry.observers.delivered =
        writtenTwice.deliver.registry.observers.delivered ++ [(0, .changed "a.desktop")]) ∧
    (Watching doubledDirectory writtenThenUndone ∧
      writtenThenUndone.inFlight = [⟨"user/a.desktop"⟩] ∧
      (writtenThenUndone.registry.fileChanged ⟨"user/a.desktop"⟩).1.isSome = true ∧
      writtenThenUndone.deliver.registry.observers.delivered =
        writtenThenUndone.registry.observers.delivered ++ [(0, .changed "a.desktop")]) := by
  have hundone : Watching doubledDirectory writtenThenUndone :=
    .flushed _ _ (.edited _ _ (.edited _ _ (watching_writtenOnce _) trivial) trivial)
  exact ⟨⟨.delivered _ watching_writtenTwice, rfl, rfl, rfl⟩, hundone, rfl, rfl, rfl⟩

end Autostart.Registry
