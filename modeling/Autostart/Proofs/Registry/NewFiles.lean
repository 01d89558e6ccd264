import Autostart.Proofs.Registry.Arriving
import Autostart.Proofs.Registry.FreeNames

/-!
# New launchers overwrite nothing

A launcher that is made waits for its first save under a name that was free. Until then nothing but
the registry changes the files of the user, and what it writes there are the files of other names,
so the place is still clear when the file is written at last. Neither a new launcher nor one that is
brought in overwrites a file, and none of them takes the name of another.
-/

namespace Autostart.Registry

variable {r r' : Registry} {name : String}

/-! ## First saves -/

/-- A launcher has changes that are not saved. -/
def IsUnsaved (r : Registry) (name : String) : Prop :=
  ∃ e, r.find? name = some e ∧ e.dirty ≠ .none

/-- When a launcher has changes, it is one of the user, and its path is clear for them. -/
def SavesClear (r : Registry) (name : String) : Prop :=
  ∀ e, r.find? name = some e → e.dirty ≠ .none →
    e.rank? = some SearchPath.userRank ∧ e.source = r.searchPath.userPath name ∧
      r.files.IsClear (r.searchPath.userPath name)

namespace SavesClear

/-- A launcher without changes is not saved. -/
theorem of_clean (h : ∀ e, r.find? name = some e → e.dirty = .none) : r.SavesClear name :=
  fun e hfind hdirty => absurd (h e hfind) hdirty

/-- Other files do not matter as long as the path stays clear. -/
theorem withFiles (h : r.SavesClear name) {files : FileStore}
    (hclear : r.files.IsClear (r.searchPath.userPath name) →
      files.IsClear (r.searchPath.userPath name)) :
    ({ r with files } : Registry).SavesClear name := by
  intro e hfind hdirty
  obtain ⟨hrank, hsource, hpath⟩ := h e hfind hdirty
  exact ⟨hrank, hsource, hclear hpath⟩

/-- A launcher that is set has no changes, or those of one that stood at the same place. -/
theorem set (h : r.SavesClear name) {key : String} {e' : Entry}
    (hset : key = name → e'.dirty ≠ .none → ∃ e, r.find? key = some e ∧ e.dirty ≠ .none ∧
      e'.rank? = e.rank? ∧ e'.source = e.source) : (r.set key e').SavesClear name := by
  intro found hfind hdirty
  rw [find?_set] at hfind
  split at hfind
  · next heq =>
    obtain rfl := Option.some.inj hfind
    obtain ⟨e, hbefore, hchanged, hrank, hsource⟩ := hset heq.symm hdirty
    rw [hrank, hsource]
    exact h e (heq ▸ hbefore) hchanged
  · exact h found hfind hdirty

/-- A launcher that is dropped is not saved. -/
theorem drop (h : r.SavesClear name) (key : String) : (r.drop key).SavesClear name := by
  intro e hfind hdirty
  rw [find?_drop] at hfind
  split at hfind
  · cases hfind
  · exact h e hfind hdirty

/-- An edit leaves a launcher that has changes already where it stands. -/
theorem commit (h : r.SavesClear name) (hunsaved : r.IsUnsaved name) {key : String}
    {e changed : Entry} (hfind : r.find? key = some e) (hrank : changed.rank? = e.rank?)
    (hsource : changed.source = e.source) : (r.commit key changed).SavesClear name := by
  refine SavesClear.set (r := r) h fun hkey hdirty => ?_
  subst hkey
  obtain ⟨e', hfind', hdirty'⟩ := hunsaved
  obtain rfl := Option.some.inj (hfind.symm.trans hfind')
  have huser := hrank.trans (h e hfind hdirty').1
  refine ⟨e, hfind, hdirty', ?_⟩
  unfold Entry.schedule
  rw [if_pos huser]
  exact ⟨hrank, hsource⟩

/-- Loading a file makes a launcher without changes, or leaves one with changes where it stands. -/
theorem loadStep (h : r.SavesClear name) {path : Path} {key : String} {rank : Nat}
    (hstep : LoadStep r path key rank r') : r'.SavesClear name := by
  cases hstep with
  | nothing => exact h
  | ownWrite e find => exact h.set fun _ hdirty => ⟨e, find, hdirty, rfl, rfl⟩
  | shadow e find =>
    have hsame : (e.shadowedBy rank).dirty = e.dirty ∧ (e.shadowedBy rank).rank? = e.rank? ∧
        (e.shadowedBy rank).source = e.source := by
      unfold Entry.shadowedBy
      split <;> exact ⟨rfl, rfl, rfl⟩
    exact h.set fun _ hdirty => ⟨e, find, hsame.1 ▸ hdirty, hsame.2⟩
  | loaded d => exact SavesClear.set (r := r) h fun _ hdirty => absurd rfl hdirty

/-- Loading a file changes nothing for the launcher, or makes one without changes. -/
theorem load (h : r.SavesClear name) (path : Path) (rank : Nat) :
    (r.load path rank).2.SavesClear name := by
  rcases hname : path.fileName? with _ | key
  · rw [load_of_fileName?_eq_none hname]
    exact h
  · rw [load_snd hname]
    exact h.loadStep (loadEntry_step r path key rank)

/-- A report of a change loads the file. -/
theorem fileChanged (h : r.SavesClear name) (path : Path) :
    (r.fileChanged path).2.SavesClear name := by
  unfold Registry.fileChanged
  split
  · split
    · exact h.load path _
    · exact h
  · exact h

/-- A report of a removal concerns launchers without changes, or their shadows. -/
theorem fileRemoved (h : r.SavesClear name) (path : Path) :
    (r.fileRemoved path).SavesClear name := by
  have hstep := fileRemoved_step r path
  generalize r.fileRemoved path = r' at hstep
  cases hstep with
  | nothing => exact h
  | unshadowed rank key e shadow? _ _ find =>
    exact h.set fun _ hdirty => ⟨e, find, hdirty, rfl, rfl⟩
  | replaced => exact SavesClear.set (r := r) h fun _ hdirty => absurd rfl hdirty
  | dropped key => exact SavesClear.drop (r := r) h key

/-- Where a file is taken away a path stays clear. -/
theorem withoutFile (h : r.SavesClear name) {p : Path} {files : FileStore}
    (hremoved : withoutFile r.files p = .ok files) :
    ({ r with files } : Registry).SavesClear name := by
  obtain ⟨hkeeps, hplace⟩ := withoutFile_spec hremoved
  refine h.withFiles fun hclear => hclear.of_file hkeeps.workingDirectory_eq fun c hc => ?_
  by_cases heq : r.files.locationOf (r.searchPath.userPath name) = r.files.locationOf p
  · rw [heq] at hc ⊢
    exact hplace c hc
  · exact hkeeps.node?_of_file _ c hc heq

/-- Deleting a launcher removes a file at most. -/
theorem delete (h : r.SavesClear name) (hunsaved : r.IsUnsaved name) (key : String) :
    (r.delete key).2.SavesClear name := by
  rcases hresult : r.delete key with ⟨outcome, r'⟩
  cases delete_step hresult with
  | unknown => exact h
  | failed => exact h
  | removed e files find own removed => exact (h.withoutFile removed).drop key
  | switched e find => exact h.commit hunsaved find rfl rfl

/-- Making a launcher gives it a name of its own. -/
theorem create (h : r.SavesClear name) (hunsaved : r.IsUnsaved name) (request : Request) :
    (r.create request).2.SavesClear name := by
  obtain ⟨e, hfind, hdirty⟩ := hunsaved
  obtain ⟨hrank, hsource, hclear⟩ := h e hfind hdirty
  obtain ⟨hkeeps, hfiles⟩ := keepsLaunchers_create r request
  have hsettings := (evolves_create r request).settings_eq
  intro e' hfind' _
  obtain rfl := Option.some.inj ((hkeeps name e hfind).symm.trans hfind')
  unfold searchPath
  rw [hsettings, hfiles]
  exact ⟨hrank, hsource, hclear⟩

section

variable (hname : Path.IsFileName name)
include hname

/-- Bringing in a launcher gives its file a place of its own. -/
theorem copyFrom (h : r.SavesClear name) (hunsaved : r.IsUnsaved name) (text : String) :
    (r.copyFrom text).2.SavesClear name := by
  obtain ⟨e, hfind, hdirty⟩ := hunsaved
  obtain ⟨hrank, hsource, hclear⟩ := h e hfind hdirty
  have hsettings := (evolves_copyFrom (.copyFrom text) r text).settings_eq
  intro e' hfind' _
  obtain rfl := Option.some.inj ((keepsLaunchers_copyFrom r text name e hfind).symm.trans hfind')
  unfold searchPath
  rw [hsettings]
  refine ⟨hrank, hsource, hclear.touches (touches_copyFrom r text) ?_⟩
  rintro ⟨other, hother, hfree, hplace⟩
  have hsame := (r.files.locationOf_join _ hname).symm.trans
    (hplace.trans (r.files.locationOf_join _ hother))
  obtain rfl := (List.append_singleton_inj.1 hsame).2
  rw [find?_of_isTaken hfree] at hfind
  cases hfind

variable {settings : Settings}

/-- A save writes the file of its own launcher, which has no changes then. -/
theorem flush (h : r.SavesClear name) (hreachable : Reachable (fun _ => True) settings r)
    (key : String) : (r.flush key).2.SavesClear name := by
  by_cases hkey : name = key
  · subst hkey
    rcases hresult : r.flush name with ⟨outcome, r'⟩
    cases flush_step hresult with
    | unknown => exact h
    | idle => exact h
    | back e rank path files =>
      refine .of_clean fun e' hfind => ?_
      rw [find?_set_self] at hfind
      exact Option.some.inj hfind ▸ rfl
    | written e files =>
      refine .of_clean fun e' hfind => ?_
      rw [find?_set_self] at hfind
      exact Option.some.inj hfind ▸ rfl
    | failed e error files find pending touches =>
      have hfiles := h.withFiles fun hclear => hclear.touches touches id
      exact hfiles.set fun _ hdirty => ⟨e, find, hdirty, rfl, rfl⟩
  · intro e hfind hdirty
    rw [find?_flush_of_ne (Ne.symm hkey)] at hfind
    obtain ⟨hrank, hsource, hclear⟩ := h e hfind hdirty
    unfold searchPath
    rw [(flush_frame r key).2]
    refine ⟨hrank, hsource, hclear.touches (touches_flush r key) ?_⟩
    -- The file that is written has the name of another launcher.
    rintro ⟨other, hother, hplace⟩
    obtain ⟨loc, hloc⟩ :=
      r.files.exists_locationOf_of_fileName? (hreachable.filedUnder hother).source_eq
    have hsame := (r.files.locationOf_join _ hname).symm.trans (hplace.trans hloc)
    exact hkey (List.append_singleton_inj.1 hsame).2

/-- Saves one after the other write the files of their own launchers. -/
theorem flushEach (h : r.SavesClear name) (hreachable : Reachable (fun _ => True) settings r)
    (keys : List String) : (r.flushEach keys).2.SavesClear name := by
  have hboth := flushEach_invariant
    (P := fun r' => Reachable (fun _ => True) settings r' ∧ r'.SavesClear name)
    ⟨hreachable, h⟩
    (fun r' key h' => ⟨.step r' (.flush key) h'.1 trivial, h'.2.flush hname h'.1 key⟩) keys
  exact hboth.2

/-- Closing a launcher saves it at most. -/
theorem close (h : r.SavesClear name) (hreachable : Reachable (fun _ => True) settings r)
    (key : String) : (r.close key).2.SavesClear name := by
  have hflush := h.flush hname hreachable key
  rcases close_cases r key with heq | heq | heq | heq
  · rw [heq]
    exact h
  · rw [heq]
    exact hflush
  · rw [heq]
    exact h.drop key
  · rw [heq]
    exact hflush.drop key

end

end SavesClear

/-- What other programs do leaves the files of the user as they are. -/
def LeavesUserFiles (r : Registry) : Action → Prop
  | .outside files => files.workingDirectory = r.files.workingDirectory ∧
      ∀ name c, files.node? (r.files.locationOf r.searchPath.userDirectory ++ [name]) =
          some (.file c) ↔
        r.files.node? (r.files.locationOf r.searchPath.userDirectory ++ [name]) = some (.file c)
  | _ => True

/-- No action of the registry puts anything in the way of the changes of a launcher. -/
theorem SavesClear.perform {settings : Settings} (h : r.SavesClear name)
    (hname : Path.IsFileName name) (hreachable : Reachable (fun _ => True) settings r)
    (hunsaved : r.IsUnsaved name) {a : Action} (halone : r.LeavesUserFiles a) :
    (r.perform a).SavesClear name := by
  cases a with
  | scan =>
    exact scan_invariant (P := fun r' => r'.SavesClear name) h fun _ _ _ h' hstep =>
      h'.loadStep hstep
  | load path rank => exact h.load path rank
  | fileChanged path => exact h.fileChanged path
  | fileRemoved path => exact h.fileRemoved path
  | update key name? comment? exec? delay =>
    rcases hresult : r.update key name? comment? exec? delay with ⟨outcome, r'⟩
    rw [Registry.perform, hresult]
    cases update_step hresult with
    | unknown => exact h
    | same => exact h
    | edited e find => exact h.commit hunsaved find rfl rfl
  | setHidden key hidden =>
    rcases hresult : r.setHidden key hidden with ⟨outcome, r'⟩
    rw [Registry.perform, hresult]
    cases setHidden_step hresult with
    | unknown => exact h
    | same => exact h
    | switched e find => exact h.commit hunsaved find rfl rfl
  | delete key => exact h.delete hunsaved key
  | create request => exact h.create hunsaved request
  | copyFrom text => exact h.copyFrom hname hunsaved text
  | flush key => exact h.flush hname hreachable key
  | runDueSaves => exact h.flushEach hname hreachable _
  | close key => exact h.close hname hreachable key
  | shutdown => exact .of_clean fun e hfind => by cases hfind
  | advance milliseconds => exact h
  | subscribe => exact h
  | unsubscribe id => exact h
  | outside files =>
    refine h.withFiles fun hclear => hclear.of_file halone.1 fun c hc => ?_
    have hplace := r.files.locationOf_join r.searchPath.userDirectory hname
    exact hplace ▸ (halone.2 name c).1 (hplace ▸ hc)

/-- A launcher that was made, where the registry could see the files of the user, waits for its
first save. Since then other programs have left the files of the user as they are. -/
inductive AwaitsFirstSave (settings : Settings) (name : String) : Registry → Prop where
  /-- It was just made. -/
  | made (r r' : Registry) (request : Request)
      (reachable : Reachable (fun _ => True) settings r) (sees : r.SeesUserFiles)
      (accepted : r.create request = (.ok name, r')) : AwaitsFirstSave settings name r'
  /-- It is still there and has changes after another action, so it was not saved. -/
  | step (r : Registry) (a : Action) (before : AwaitsFirstSave settings name r)
      (alone : r.LeavesUserFiles a) (unsaved : (r.perform a).IsUnsaved name) :
      AwaitsFirstSave settings name (r.perform a)

/-- What holds while a launcher that was made waits for its first save. -/
structure IsNew (settings : Settings) (name : String) (r : Registry) : Prop where
  /-- The registry is one of a run. -/
  reachable : Reachable (fun _ => True) settings r
  /-- The name is that of a file. -/
  isFileName : Path.IsFileName name
  /-- The launcher has changes. -/
  unsaved : r.IsUnsaved name
  /-- Its path is clear for them. -/
  clear : r.SavesClear name

/-- The place of a launcher that was made is clear, since its name was free. -/
theorem isNew_of_create {settings : Settings} {request : Request}
    (hreachable : Reachable (fun _ => True) settings r) (hsees : r.SeesUserFiles)
    (h : r.create request = (.ok name, r')) : IsNew settings name r' := by
  have hreachable' : Reachable (fun _ => True) settings (r.create request).2 :=
    .step r (.create request) hreachable trivial
  rw [h] at hreachable'
  cases create_step h with
  | made name isFileName free =>
    have hmissing := (Bool.or_eq_false_iff.1 free).2
    have hclear : r.files.IsClear (r.searchPath.userPath name) := by
      rcases hdir : r.files.isDirectory r.searchPath.userDirectory with _ | _
      · -- Where the directory is not seen no file stands in it.
        refine .inl fun c hc => ?_
        have hplace := r.files.locationOf_join r.searchPath.userDirectory isFileName
        rw [hsees name c (hplace ▸ hc)] at hdir
        cases hdir
      · exact FileStore.isClear_of_missing isFileName hdir hmissing
    have hfind : ∀ e : Entry, ((r.set name e).tell (.added name)).find? name = some e := by
      intro e
      rw [find?_tell, find?_set_self]
    refine ⟨hreachable', isFileName, ⟨_, hfind _, InSync.all_ne_none⟩, fun e he _ => ?_⟩
    obtain rfl := Option.some.inj ((hfind _).symm.trans he)
    exact ⟨rfl, rfl, hclear⟩

/-- A launcher that waits for its first save has a clear path. -/
theorem AwaitsFirstSave.isNew {settings : Settings} (h : AwaitsFirstSave settings name r) :
    IsNew settings name r := by
  induction h with
  | made r r' request reachable sees accepted => exact isNew_of_create reachable sees accepted
  | step r a before alone unsaved ih =>
    exact ⟨.step r a ih.reachable trivial, ih.isFileName, unsaved,
      ih.clear.perform ih.isFileName ih.reachable ih.unsaved alone⟩

/-- Where a clear path leads there is no file to take away. -/
theorem keepsFiles_withoutFile {fs fs' : FileStore} {p : Path} (hclear : fs.IsClear p)
    (h : withoutFile fs p = .ok fs') : fs.KeepsFiles fs' := by
  unfold withoutFile at h
  split at h
  · next hremoved =>
    obtain ⟨content, hnode, -, -⟩ := FileStore.removeFile_spec hremoved
    exact absurd hnode (hclear.node?_ne (FileStore.leads_of_removeFile hremoved) content)
  · obtain rfl := Except.ok.inj h
    exact fun _ _ hc => hc
  · cases h

/-- Writing a document to a clear path keeps every file. -/
theorem keepsFiles_writeUser {p : Path} {document : Document} {files : FileStore}
    (hclear : r.files.IsClear p) (h : r.writeUser p document = (.ok (), files)) :
    r.files.KeepsFiles files := by
  obtain ⟨htouches, hread⟩ := touches_of_writeUser h
  obtain ⟨l, hstat⟩ := FileStore.readText_eq_ok_iff.1 hread
  have hleads := FileStore.leads_of_isFile (FileStore.isFile_iff.2 ⟨l, _, hstat⟩)
  exact htouches.keepsFiles fun _ hl c => hl ▸ hclear.node?_ne hleads c

/-- The first save of a launcher that was made keeps every file, whatever comes of it. -/
theorem AwaitsFirstSave.keepsFiles {settings : Settings} (h : AwaitsFirstSave settings name r) :
    r.files.KeepsFiles (r.flush name).2.files := by
  obtain ⟨-, -, ⟨e, hfind, hdirty⟩, hclear⟩ := h.isNew
  have hpath : ∀ e', r.find? name = some e' → r.files.IsClear e'.source := by
    intro e' hfind'
    obtain rfl := Option.some.inj (hfind.symm.trans hfind')
    obtain ⟨-, hsource, hpath⟩ := hclear e hfind hdirty
    exact hsource ▸ hpath
  rcases hresult : r.flush name with ⟨outcome, r'⟩
  cases flush_step hresult with
  | unknown => exact fun _ _ hc => hc
  | idle => exact fun _ _ hc => hc
  | back e' rank path files find pending twin removed =>
    rcases Backed.withoutOverride_spec removed with rfl | ⟨-, hremoved⟩
    · exact fun _ _ hc => hc
    · exact keepsFiles_withoutFile (hpath e' find) hremoved
  | written e' files find pending write => exact keepsFiles_writeUser (hpath e' find) write
  | failed e' error files find pending touches => exact touches.keepsFiles fun _ => False.elim

/-- A launcher that was made still waits for its first save when others are saved. -/
theorem AwaitsFirstSave.flushEach {settings : Settings} (h : AwaitsFirstSave settings name r)
    {others : List String} (hother : name ∉ others) :
    AwaitsFirstSave settings name (r.flushEach others).2 := by
  induction others generalizing r with
  | nil => exact h
  | cons key rest ih =>
    obtain ⟨hne, hrest⟩ := not_or.1 (mt List.mem_cons.2 hother)
    have hunsaved : (r.perform (.flush key)).IsUnsaved name := by
      obtain ⟨e, hfind, hdirty⟩ := h.isNew.unsaved
      exact ⟨e, (find?_flush_of_ne (Ne.symm hne)).trans hfind, hdirty⟩
    have hrun := ih (.step r (.flush key) h trivial hunsaved) hrest
    unfold Registry.flushEach
    split
    · next heq =>
      rw [perform, heq] at hrun
      exact hrun
    · next heq =>
      rw [perform, heq] at hrun
      exact hrun

/-! ## New launchers -/

/-- The free name for a base is the first free one among the candidates for its stem, which differ
from each other, and there is none when all of them are in use. So launchers that are made one after
the other get different names that were all free before. Making a launcher, or bringing one in,
keeps every other launcher. Neither overwrites a file, as long as the registry sees the files of the
user: a launcher that is brought in has its file copied to a place without one, and so has a
launcher that was made, whenever its first save comes and whatever is saved before. -/
theorem new_launchers_get_free_names (r : Registry) :
    (∀ base name, r.freeName base = .ok name ↔
        ∃ k < r.settings.maxNameAttempts, name = candidate (stemOf base) k ∧
          r.IsFirstFree (stemOf base) 0 k) ∧
      (∀ base error, r.freeName base = .error error ↔
        error = .namesExhausted (stemOf base) r.settings.maxNameAttempts ∧
          ∀ k < r.settings.maxNameAttempts, ¬r.IsFree (candidate (stemOf base) k)) ∧
      (∀ base, base = stemOf base ++ Entry.suffix ∨
        (∀ stem, base ≠ stem ++ Entry.suffix) ∧ stemOf base = base) ∧
      (∀ stem, Function.Injective (candidate stem)) ∧
      (∀ names r', Creates r names r' → names.Nodup ∧ ∀ name ∈ names, r.IsFree name) ∧
      (∀ request, r.KeepsLaunchers (r.create request).2 ∧
        (r.create request).2.files = r.files) ∧
      (∀ text, r.KeepsLaunchers (r.copyFrom text).2 ∧
        (r.SeesUserFiles → r.files.KeepsFiles (r.copyFrom text).2.files)) ∧
      ∀ settings name, AwaitsFirstSave settings name r → ∀ others, name ∉ others →
        (r.flushEach others).2.files.KeepsFiles ((r.flushEach others).2.flush name).2.files := by
  refine ⟨fun _ _ => freeName_eq_ok_iff, fun _ _ => freeName_eq_error_iff, stemOf_spec,
    candidate_injective, fun _ _ h => h.nodup_and_isFree, keepsLaunchers_create r,
    fun text => ⟨keepsLaunchers_copyFrom r text, fun hsees => keepsFiles_copyFrom hsees text⟩, ?_⟩
  intro settings name h others hother
  exact (h.flushEach hother).keepsFiles

/-- Files with a launcher of the user and another one of the same name to be brought in. -/
def twoNamesakes : FileStore :=
  oneUserLauncher.put ⟨"in/a.desktop"⟩ (.file (.text "[Desktop Entry]\nName=B\nExec=b\n"))

/-- The request for a launcher of a program. -/
def requestOf (exec : String) : Request :=
  ⟨exec, none, none, 0, none⟩

/-- Beside a launcher of the user two others get the names with the next numbers. The one is brought
in and the other is made and saved, and the file of the first is kept. -/
theorem new_launchers_twoNamesakes :
    (∃ k < userDirectoryOnly.maxNameAttempts, "a-1.desktop" = candidate (stemOf "a.desktop") k ∧
        (fresh userDirectoryOnly twoNamesakes 0).IsFirstFree (stemOf "a.desktop") 0 k) ∧
      ((fresh userDirectoryOnly twoNamesakes 0).copyFrom "in/a.desktop").1 = .ok "a-1.desktop" ∧
      twoNamesakes.KeepsFiles
        ((fresh userDirectoryOnly twoNamesakes 0).copyFrom "in/a.desktop").2.files ∧
      (((fresh userDirectoryOnly twoNamesakes 0).create (requestOf "a")).2.flush
        "a-1.desktop").1 = .ok .written ∧
      twoNamesakes.KeepsFiles (((fresh userDirectoryOnly twoNamesakes 0).create
        (requestOf "a")).2.flush "a-1.desktop").2.files := by
  have hsees : (fresh userDirectoryOnly twoNamesakes 0).SeesUserFiles := fun _ _ _ => rfl
  obtain ⟨hfound, -, -, -, -, -, hcopy, -⟩ :=
    new_launchers_get_free_names (fresh userDirectoryOnly twoNamesakes 0)
  obtain ⟨-, -, -, -, -, -, -, hsave⟩ :=
    new_launchers_get_free_names ((fresh userDirectoryOnly twoNamesakes 0).create (requestOf "a")).2
  have hmade : AwaitsFirstSave userDirectoryOnly "a-1.desktop"
      ((fresh userDirectoryOnly twoNamesakes 0).create (requestOf "a")).2 :=
    .made _ _ (requestOf "a") (.fresh twoNamesakes 0) hsees rfl
  exact ⟨(hfound "a.desktop" "a-1.desktop").1 rfl, rfl, (hcopy "in/a.desktop").2 hsees, rfl,
    hsave _ _ hmade [] (by simp)⟩

/-- While the detour to the directory of the user is missing, a launcher of the user does not count
as there. Its name is free for one that is brought in or made, and its file is lost to the copy, or
to the first save. -/
theorem overwritten_behindDetour :
    twoNamesakes.readText ⟨"user/a.desktop"⟩ = .ok "[Desktop Entry]\nName=A\nExec=a\n" ∧
      ((fresh detourToUser twoNamesakes 0).copyFrom "in/a.desktop").1 = .ok "a.desktop" ∧
      ((fresh detourToUser twoNamesakes 0).copyFrom "in/a.desktop").2.files.readText
        ⟨"user/a.desktop"⟩ = .ok "[Desktop Entry]\nName=B\nExec=b\n" ∧
      ((fresh detourToUser twoNamesakes 0).create (requestOf "a")).1 = .ok "a.desktop" ∧
      (((fresh detourToUser twoNamesakes 0).create (requestOf "a")).2.flush
        "a.desktop").2.files.readText ⟨"user/a.desktop"⟩ =
          .ok ("[Desktop Entry]\nType=Application\nHidden=false\nName=a\nComment=\nExec=a\n" ++
            "X-MATE-Autostart-Delay=0\n") := by
  refine ⟨?_, ?_, ?_, ?_, ?_⟩
  · rfl
  · rfl
  · rfl
  · rfl
  · rfl

end Autostart.Registry
