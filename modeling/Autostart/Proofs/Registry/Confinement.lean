import Autostart.Proofs.Registry.UserFiles

/-!
# Only the directory of the user is written

Whatever a registry does, the files that it writes and removes stand directly in the directory of
the user, and a file that it writes there has the name of the launcher that was saved or brought in.
The source of a launcher may be a file of the system, but what is saved or deleted stands at the
rank of the user, and the names of new launchers have no slash. So nothing that is asked of a
registry can make it write elsewhere.
-/

namespace Autostart.Registry

/-- What a registry does by itself, without a load of any file at any rank. -/
def Action.IsInternal : Action → Prop
  | .load _ _ | .outside _ => False
  | _ => True

/-- What a registry does by itself loads files only where the search path places them. -/
theorem Action.IsInternal.isPlaced {a : Action} (h : a.IsInternal) : a.IsPlaced := by
  cases a <;> first | exact h.elim | trivial

/-- An action saves a launcher, or brings it in. -/
def Writes (r : Registry) (e : Entry) : Action → Prop
  | .flush key | .close key => r.find? key = some e ∧ e.isPending = true
  | .runDueSaves => ∃ key, r.find? key = some e ∧ e.due?.any (· ≤ r.now) = true
  | .shutdown => ∃ key, r.find? key = some e ∧ e.isPending = true
  | .copyFrom text =>
    ∃ name, (r.copyFrom text).1 = .ok name ∧ (r.copyFrom text).2.find? name = some e
  | _ => False

/-- One of the actions that are performed one after the other saves a launcher, or brings it in. -/
def WritesDuring (e : Entry) : Registry → List Action → Prop
  | _, [] => False
  | r, a :: rest => r.Writes e a ∨ WritesDuring e (r.perform a) rest

/-- The files differ directly in the directory of the user only. A file there that is new or has
another content has one of the written names, and directories are made on the way there only. -/
structure Confined (s : SearchPath) (written : String → Prop) (fs fs' : FileStore) : Prop where
  /-- Nothing else is touched. -/
  touches : fs.Touches fs' s.userDirectory fun l =>
    ∃ name, l = fs.locationOf s.userDirectory ++ [name]
  /-- A file that was written has one of the names. -/
  named : ∀ name c, fs'.node? (fs.locationOf s.userDirectory ++ [name]) = some (.file c) →
    fs.node? (fs.locationOf s.userDirectory ++ [name]) = some (.file c) ∨ written name

namespace Confined

variable {s : SearchPath} {written written' : String → Prop} {fs fs' fs'' : FileStore}

/-- No change is confined. -/
theorem refl (s : SearchPath) (written : String → Prop) (fs : FileStore) :
    Confined s written fs fs :=
  ⟨.refl fs _ _, fun _ _ => .inl⟩

/-- More names may be written. -/
theorem mono (h : Confined s written fs fs') (himp : ∀ name, written name → written' name) :
    Confined s written' fs fs' :=
  ⟨h.touches, fun name c hc => (h.named name c hc).imp_right (himp name)⟩

/-- One confined change after another is confined. -/
theorem trans (h : Confined s written fs fs') (h' : Confined s written fs' fs'') :
    Confined s written fs fs'' := by
  -- Both changes see the directory of the user at the same place.
  have hplace : fs'.locationOf s.userDirectory = fs.locationOf s.userDirectory :=
    FileStore.locationOf_congr h.touches.workingDirectory_eq _
  obtain ⟨htouches, hnamed⟩ := h'
  rw [hplace] at htouches hnamed
  refine ⟨h.touches.trans htouches, fun name c hc => ?_⟩
  rcases hnamed name c hc with hc' | hwritten
  · exact h.named name c hc'
  · exact .inr hwritten

/-- A change that touches the file of one name is confined, when the name is written or no file
appears there. -/
theorem of_touches {key : String}
    (h : fs.Touches fs' s.userDirectory fun l => l = fs.locationOf s.userDirectory ++ [key])
    (hwritten : ∀ c, fs'.node? (fs.locationOf s.userDirectory ++ [key]) = some (.file c) →
      fs.node? (fs.locationOf s.userDirectory ++ [key]) = some (.file c) ∨ written key) :
    Confined s written fs fs' := by
  refine ⟨h.mono fun l hl => ⟨key, hl⟩, fun name c hc => ?_⟩
  by_cases hname : name = key
  · subst hname
    exact hwritten c hc
  · -- The file of another name is not touched.
    refine .inl ((h.file_iff _ c fun heq => hname ?_).1 hc)
    exact (List.append_singleton_inj.1 heq).2

/-- Making directories on the way is confined. -/
theorem of_touches_nothing (h : fs.Touches fs' s.userDirectory fun _ => False) :
    Confined s written fs fs' :=
  ⟨h.mono fun _ => False.elim, fun _ c hc => .inl ((h.file_iff _ c id).1 hc)⟩

end Confined

/-! ## Actions -/

/-- What works on the launchers only. A new or changed launcher has its file written by a save. -/
def Action.LeavesFiles : Action → Prop
  | .delete _ | .copyFrom _ | .flush _ | .runDueSaves | .close _ | .shutdown | .outside _ => False
  | _ => True

/-- An action that works on the launchers only leaves the files as they are. -/
theorem files_perform (r : Registry) {a : Action} (ha : a.LeavesFiles) :
    (r.perform a).files = r.files := by
  cases a with
  | scan =>
    exact scan_invariant (P := fun r' => r'.files = r.files) rfl fun s r' _ hr' hstep =>
      hstep.files_eq.trans hr'
  | load path rank => exact files_load r path rank
  | fileChanged path => exact (fileChanged_frame r path).1
  | fileRemoved path => exact (fileRemoved_frame r path).1
  | update key name? comment? exec? delay =>
    rcases hresult : r.update key name? comment? exec? delay with ⟨outcome, r'⟩
    rw [perform, hresult]
    cases update_step hresult <;> rfl
  | setHidden key hidden =>
    rcases hresult : r.setHidden key hidden with ⟨outcome, r'⟩
    rw [perform, hresult]
    cases setHidden_step hresult <;> rfl
  | create request =>
    rcases hresult : r.create request with ⟨outcome, r'⟩
    rw [perform, hresult]
    cases create_step hresult <;> rfl
  | advance milliseconds => rfl
  | subscribe => rfl
  | unsubscribe id => rfl
  | delete | copyFrom | flush | runDueSaves | close | shutdown | outside => exact ha.elim

section Actions

variable {settings : Settings} {r : Registry} (h : Reachable Action.IsPlaced settings r)

/-- Taking away a file touches its place. -/
theorem touches_withoutFile {fs fs' : FileStore} {p : Path} (h : withoutFile fs p = .ok fs')
    (q : Path) : fs.Touches fs' q fun l => l = fs.locationOf p := by
  unfold withoutFile at h
  split at h
  · next hremoved =>
    obtain rfl := Except.ok.inj h
    exact FileStore.touches_removeFile hremoved q
  · obtain rfl := Except.ok.inj h
    exact .refl fs _ _
  · cases h

include h

/-- Taking away the file of a launcher of the user is confined, and writes nothing. -/
theorem confined_withoutFile {key : String} {e : Entry} (hfind : r.find? key = some e)
    (huser : e.rank? = some SearchPath.userRank) {files : FileStore}
    (hremoved : withoutFile r.files e.source = .ok files) :
    Confined settings.searchPath (fun _ => False) r.files files := by
  -- The source stands directly in the directory of the user, under the name of the launcher.
  have hsound := (h.inSync fun _ ok => ok).sound key e hfind
  have hlocation := locationOf_source r.files hsound (h.isFileName hfind) huser
  have htouches := touches_withoutFile hremoved settings.searchPath.userDirectory
  have hfile := (withoutFile_spec hremoved).2
  rw [hlocation] at htouches hfile
  exact .of_touches htouches fun c hc => .inl (hfile c hc)

/-- Deleting a launcher is confined, and writes nothing. -/
theorem confined_delete (key : String) :
    Confined settings.searchPath (fun _ => False) r.files (r.delete key).2.files := by
  rcases hresult : r.delete key with ⟨outcome, r'⟩
  cases delete_step hresult with
  | unknown => exact .refl _ _ _
  | failed => exact .refl _ _ _
  | removed e files find own removed => exact confined_withoutFile h find own.1 removed
  | switched e find => exact .refl _ _ _

/-- Saving a launcher is confined, and writes its file when it has changes. -/
theorem confined_flush (key : String) :
    Confined settings.searchPath
      (fun name => ∃ e, r.find? key = some e ∧ e.isPending = true ∧ e.filename = name)
      r.files (r.flush key).2.files := by
  have hsearch : r.searchPath = settings.searchPath := congrArg Settings.searchPath h.settings_eq
  rcases hresult : r.flush key with ⟨outcome, r'⟩
  cases flush_step hresult with
  | unknown => exact .refl _ _ _
  | idle => exact .refl _ _ _
  | back e rank path files find pending twin removed =>
    rcases Backed.withoutOverride_spec removed with rfl | ⟨-, hremoved⟩
    · exact .refl _ _ _
    · -- A launcher that waits for a save has moved to the directory of the user.
      have hsound := (h.inSync fun _ ok => ok).sound key e find
      have huser := hsound.user_of_dirty (hsound.dirty_of_pending pending)
      exact (confined_withoutFile h find huser hremoved).mono fun _ => False.elim
  | written e files find pending write =>
    have hsound := (h.inSync fun _ ok => ok).sound key e find
    have huser := hsound.user_of_dirty (hsound.dirty_of_pending pending)
    have htouches := (touches_of_writeUser write).1
    rw [locationOf_source r.files hsound (h.isFileName find) huser, hsearch] at htouches
    exact .of_touches htouches fun _ _ => .inr ⟨e, find, pending, hsound.filename_eq⟩
  | failed e error files find pending touches =>
    rw [hsearch] at touches
    exact .of_touches_nothing touches

omit h in
/-- Saving launchers one after the other is confined, and writes their files. -/
theorem confined_flushEach {keys : List String} (h : Reachable Action.IsPlaced settings r) :
    Confined settings.searchPath (· ∈ keys) r.files (r.flushEach keys).2.files := by
  induction keys generalizing r with
  | nil => exact .refl _ _ _
  | cons key rest ih =>
    have hflush : Confined settings.searchPath (· ∈ key :: rest) r.files (r.flush key).2.files := by
      refine (confined_flush h key).mono ?_
      rintro name ⟨e, hfind, -, hname⟩
      have hsound := (h.inSync fun _ ok => ok).sound key e hfind
      exact List.mem_cons.2 (.inl (hname.symm.trans hsound.filename_eq))
    have hrest := (ih (.step r (.flush key) h trivial)).mono fun name hmem =>
      List.mem_cons_of_mem key hmem
    have hboth := hflush.trans hrest
    unfold flushEach
    -- A save that failed does not keep the others from being tried.
    split
    · next heq =>
      rw [perform, heq] at hboth
      exact hboth
    · next heq =>
      rw [perform, heq] at hboth
      exact hboth

/-- Bringing in a launcher is confined, and writes its file when it succeeds. -/
theorem confined_copyFrom (text : String) :
    Confined settings.searchPath
      (fun name => ∃ e, (r.copyFrom text).1 = .ok name ∧
        (r.copyFrom text).2.find? name = some e ∧ e.filename = name)
      r.files (r.copyFrom text).2.files := by
  have hnext : Reachable Action.IsPlaced settings (r.copyFrom text).2 :=
    .step r (.copyFrom text) h trivial
  have hsound := (hnext.inSync fun _ ok => ok).sound
  -- The place of a name in the directory of the user is where a file of that name is written.
  have hplace : ∀ {name}, Path.IsFileName name →
      r.files.locationOf (r.searchPath.userPath name) =
        r.files.locationOf r.searchPath.userDirectory ++ [name] := r.files.locationOf_join _
  rw [← congrArg Settings.searchPath h.settings_eq]
  rcases hresult : r.copyFrom text with ⟨outcome, r'⟩
  rw [hresult] at hsound
  cases copyFrom_step hresult with
  | refused => exact .refl _ _ _
  | failed error name files isFileName free brought =>
    have htouches := touches_of_bring brought
    rw [hplace isFileName] at htouches
    exact .of_touches htouches fun c hc => .inl (node?_of_bring_eq_error brought hc)
  | loaded name files r' e isFileName free brought load =>
    have htouches := touches_of_bring brought
    rw [hplace isFileName] at htouches
    have hload := files_load { r with files } (r.searchPath.userPath name) SearchPath.userRank
    rw [load] at hload
    have hfiles : (r'.switchOn name e).files = files := (files_switchOn r' name e).trans hload
    rw [hfiles]
    -- The copy has the name of the launcher that was loaded from it.
    have hloaded := find?_of_load (Path.fileName?_join _ isFileName) load
    obtain ⟨e', hfind⟩ := exists_find?_switchOn hloaded
    exact .of_touches htouches fun _ _ => .inr ⟨e', rfl, hfind, (hsound name e' hfind).filename_eq⟩
  | useless error name files r' isFileName free brought load =>
    have hload := files_load { r with files } (r.searchPath.userPath name) SearchPath.userRank
    rw [load] at hload
    obtain rfl : r'.files = files := hload
    -- The copy is removed from the place where it was made.
    have htouches := touches_cleanedUp_of_bring brought
    have hgone := node?_cleanedUp_of_bring brought
    rw [hplace isFileName] at htouches hgone
    exact .of_touches htouches fun c hc => absurd hc (hgone c)

/-- Closing a launcher is confined, and writes its file when it has changes. -/
theorem confined_close (key : String) :
    Confined settings.searchPath
      (fun name => ∃ e, r.find? key = some e ∧ e.isPending = true ∧ e.filename = name)
      r.files (r.close key).2.files := by
  -- What is dropped leaves no trace in the files.
  rcases close_cases r key with heq | heq | heq | heq
  · rw [heq]
    exact .refl _ _ _
  · rw [heq]
    exact confined_flush h key
  · rw [heq]
    exact .refl _ _ _
  · rw [heq]
    exact confined_flush h key

/-- Saving the launchers that pass a test is confined, and writes their files. -/
theorem confined_namesWhere (test : Entry → Bool) :
    Confined settings.searchPath
      (fun name => ∃ e, (∃ key, r.find? key = some e ∧ test e = true) ∧ e.filename = name)
      r.files (r.flushEach (r.namesWhere test)).2.files := by
  refine (confined_flushEach h).mono fun name hmem => ?_
  obtain ⟨e, hfind, htest⟩ := mem_namesWhere_iff.1 hmem
  exact ⟨e, ⟨name, hfind, htest⟩, ((h.inSync fun _ ok => ok).sound name e hfind).filename_eq⟩

/-- Every action of a registry is confined, and writes the files of the launchers that it saves or
brings in. -/
theorem confined_perform {a : Action} (ha : a.IsInternal) :
    Confined settings.searchPath (fun name => ∃ e, r.Writes e a ∧ e.filename = name)
      r.files (r.perform a).files := by
  have hleaves : a.LeavesFiles →
      Confined settings.searchPath (fun name => ∃ e, r.Writes e a ∧ e.filename = name)
        r.files (r.perform a).files := fun hleaves => files_perform r hleaves ▸ .refl _ _ _
  cases a with
  | scan => exact hleaves trivial
  | load path rank => exact ha.elim
  | fileChanged path => exact hleaves trivial
  | fileRemoved path => exact hleaves trivial
  | update key name? comment? exec? delay => exact hleaves trivial
  | setHidden key hidden => exact hleaves trivial
  | delete key => exact (confined_delete h key).mono fun _ => False.elim
  | create request => exact hleaves trivial
  | copyFrom text =>
    refine (confined_copyFrom h text).mono ?_
    rintro name ⟨e, hname, hfind, hfilename⟩
    exact ⟨e, ⟨name, hname, hfind⟩, hfilename⟩
  | flush key =>
    refine (confined_flush h key).mono ?_
    rintro name ⟨e, hfind, hpending, hfilename⟩
    exact ⟨e, ⟨hfind, hpending⟩, hfilename⟩
  | runDueSaves => exact confined_namesWhere h _
  | close key =>
    refine (confined_close h key).mono ?_
    rintro name ⟨e, hfind, hpending, hfilename⟩
    exact ⟨e, ⟨hfind, hpending⟩, hfilename⟩
  | shutdown => exact confined_namesWhere h _
  | advance milliseconds => exact hleaves trivial
  | subscribe => exact hleaves trivial
  | unsubscribe id => exact hleaves trivial
  | outside files => exact ha.elim

omit h in
/-- A run of a registry is confined, and writes the files of the launchers that its actions save or
bring in. -/
theorem confined_foldl (h : Reachable Action.IsPlaced settings r) {actions : List Action}
    (hactions : ∀ a ∈ actions, a.IsInternal) :
    Confined settings.searchPath (fun name => ∃ e, WritesDuring e r actions ∧ e.filename = name)
      r.files (actions.foldl perform r).files := by
  induction actions generalizing r with
  | nil => exact .refl _ _ _
  | cons a rest ih =>
    have ha := hactions a List.mem_cons_self
    have hrest := ih (.step r a h ha.isPlaced) fun b hb => hactions b (List.mem_cons_of_mem a hb)
    refine ((confined_perform h ha).mono ?_).trans (hrest.mono ?_)
    · rintro name ⟨e, hwrites, hname⟩
      exact ⟨e, .inl hwrites, hname⟩
    · rintro name ⟨e, hwrites, hname⟩
      exact ⟨e, .inr hwrites, hname⟩

end Actions

/-- Whatever a registry does from any point of a run on, which other programs may have disturbed
before, it touches no file that does not stand directly in the directory of the user, and makes
directories on the way there only. A file that it writes there has the file name of a launcher that
it saved or brought in. So the files in a directory of the system that is not that of the user are
still there, with what they hold. -/
theorem writes_only_userDirectory {settings : Settings} {r : Registry}
    (h : Reachable Action.IsPlaced settings r) {actions : List Action}
    (hactions : ∀ a ∈ actions, a.IsInternal) :
    Confined settings.searchPath (fun name => ∃ e, WritesDuring e r actions ∧ e.filename = name)
        r.files (actions.foldl perform r).files ∧
      ∀ dir ∈ settings.searchPath.systemDirectories,
        r.files.locationOf dir ≠ r.files.locationOf settings.searchPath.userDirectory →
        ∀ name l c, Path.IsFileName name → r.files.stat (dir.join name) = .ok (l, .file c) →
          (actions.foldl perform r).files.stat (dir.join name) = .ok (l, .file c) := by
  have hconfined := confined_foldl h hactions
  refine ⟨hconfined, fun dir _ hother name l c hname hstat => hconfined.touches.stat hstat ?_⟩
  rintro ⟨name', heq⟩
  rw [← FileStore.locationOf_of_stat hstat,
    r.files.locationOf_join dir hname] at heq
  exact hother (List.append_singleton_inj.1 heq).1

/-- A launcher of the system that was switched off is saved under its name in the directory of the
user, and its file of the system is still there. -/
theorem confined_switchedOff :
    Confined oneSystemDirectory.searchPath
        (fun name => ∃ e, WritesDuring e switchedOff [.flush "a.desktop"] ∧ e.filename = name)
        switchedOff.files (switchedOff.flush "a.desktop").2.files ∧
      (switchedOff.flush "a.desktop").2.files.readText ⟨"user/a.desktop"⟩ =
        .ok "[Desktop Entry]\nName=A\nExec=a\nHidden=true\n" ∧
      (switchedOff.flush "a.desktop").2.files.stat ⟨"system/a.desktop"⟩ =
        .ok (["system", "a.desktop"], .file (.text "[Desktop Entry]\nName=A\nExec=a\n")) := by
  have hreachable : Reachable Action.IsPlaced oneSystemDirectory switchedOff :=
    .step _ _ (.step _ _ (.fresh oneSystemLauncher 0) trivial) trivial
  have hactions : ∀ a ∈ [Action.flush "a.desktop"], a.IsInternal := by
    simp [Action.IsInternal]
  have hname : Path.IsFileName "a.desktop" := Path.isFileName_of_length rfl (by decide)
  obtain ⟨hconfined, hsystem⟩ := writes_only_userDirectory hreachable hactions
  exact ⟨hconfined, rfl, hsystem ⟨"system"⟩ (by decide) (by decide) "a.desktop" _ _ hname rfl⟩

end Autostart.Registry
