import Autostart.Proofs.FileStore.Touching
import Autostart.Proofs.Registry.Loading
import Autostart.Proofs.Registry.Naming

/-!
# What edits do

What becomes of a registry when its user edits, deletes, makes or brings in a launcher, with the
result of the operation. An edit commits the changed launcher or leaves everything as it is. A new
launcher gets a free name, so none that the registry knows is touched. One that is brought in is
copied to its place in the directory of the user and loaded there like any other file; all other
files are kept, whatever fails on the way.
-/

namespace Autostart.Registry

variable {r r' : Registry}

/-! ## Edits of a launcher -/

/-- What becomes of the registry when a launcher is given other texts and another delay. -/
inductive UpdateStep (r : Registry) (key : String) (name? comment? exec? : Option String)
    (delay : Nat) : Except Error Bool → Registry → Prop where
  /-- The name is unknown. -/
  | unknown (find : r.find? key = none) :
      UpdateStep r key name? comment? exec? delay (.error (.unknownEntry key)) r
  /-- The launcher has them already. -/
  | same (e : Entry) (find : r.find? key = some e)
      (same : differs e name? comment? exec? delay = false) :
      UpdateStep r key name? comment? exec? delay (.ok false) r
  /-- The launcher gets them. -/
  | edited (e : Entry) (find : r.find? key = some e)
      (differs : differs e name? comment? exec? delay = true) :
      UpdateStep r key name? comment? exec? delay (.ok true)
        (r.commit key (edited e name? comment? exec? delay).describeAnew)

/-- An update is one of these steps. -/
theorem update_step {key : String} {name? comment? exec? : Option String} {delay : Nat}
    {outcome : Except Error Bool} (h : r.update key name? comment? exec? delay = (outcome, r')) :
    UpdateStep r key name? comment? exec? delay outcome r' := by
  obtain rfl : (r.update key name? comment? exec? delay).1 = outcome := congrArg Prod.fst h
  obtain rfl : (r.update key name? comment? exec? delay).2 = r' := congrArg Prod.snd h
  unfold update
  split
  · next hfind => exact .unknown hfind
  · next e hfind =>
    split
    · next hdiffers => exact .edited e hfind hdiffers
    · next hsame => exact .same e hfind (Bool.not_eq_true _ ▸ hsame)

/-- A launcher that is switched off or on. -/
def switched (e : Entry) (hidden : Bool) : Entry :=
  { e with hidden, dirty := e.dirty.insert .hidden }

/-- What becomes of the registry when a launcher is switched off or on. -/
inductive ToggleStep (r : Registry) (key : String) (hidden : Bool) :
    Except Error Bool → Registry → Prop where
  /-- The name is unknown. -/
  | unknown (find : r.find? key = none) : ToggleStep r key hidden (.error (.unknownEntry key)) r
  /-- The launcher was that way. -/
  | same (e : Entry) (find : r.find? key = some e) (same : e.hidden = hidden) :
      ToggleStep r key hidden (.ok false) r
  /-- The launcher is switched. -/
  | switched (e : Entry) (find : r.find? key = some e) (differs : e.hidden ≠ hidden) :
      ToggleStep r key hidden (.ok true) (r.commit key (switched e hidden))

/-- Switching a launcher off or on is one of these steps. -/
theorem setHidden_step {key : String} {hidden : Bool} {outcome : Except Error Bool}
    (h : r.setHidden key hidden = (outcome, r')) : ToggleStep r key hidden outcome r' := by
  obtain rfl : (r.setHidden key hidden).1 = outcome := congrArg Prod.fst h
  obtain rfl : (r.setHidden key hidden).2 = r' := congrArg Prod.snd h
  unfold setHidden
  split
  · next hfind => exact .unknown hfind
  · next e hfind =>
    split
    · next hsame => exact .same e hfind hsame
    · next hdiffers => exact .switched e hfind hdiffers

/-- What becomes of the registry when a launcher is deleted. -/
inductive DeleteStep (r : Registry) (key : String) : Except Error Unit → Registry → Prop where
  /-- The name is unknown. -/
  | unknown (find : r.find? key = none) : DeleteStep r key (.error (.unknownEntry key)) r
  /-- Only the user has the launcher, and its file cannot be removed. -/
  | failed (e : Entry) (cause : OsError) (find : r.find? key = some e)
      (own : e.rank? = some SearchPath.userRank ∧ e.shadow? = none)
      (failed : withoutFile r.files e.source = .error cause) :
      DeleteStep r key (.error (.io cause)) r
  /-- Only the user has the launcher, and its file is removed. -/
  | removed (e : Entry) (files : FileStore) (find : r.find? key = some e)
      (own : e.rank? = some SearchPath.userRank ∧ e.shadow? = none)
      (removed : withoutFile r.files e.source = .ok files) :
      DeleteStep r key (.ok ()) (({ r with files }.drop key).tell (.removed key))
  /-- The system has the launcher too, so it is switched off. -/
  | switched (e : Entry) (find : r.find? key = some e)
      (shared : ¬(e.rank? = some SearchPath.userRank ∧ e.shadow? = none)) :
      DeleteStep r key (.ok ()) (r.commit key (switched e true))

/-- Deleting a launcher is one of these steps. -/
theorem delete_step {key : String} {outcome : Except Error Unit}
    (h : r.delete key = (outcome, r')) : DeleteStep r key outcome r' := by
  obtain rfl : (r.delete key).1 = outcome := congrArg Prod.fst h
  obtain rfl : (r.delete key).2 = r' := congrArg Prod.snd h
  unfold delete
  split
  · next hfind => exact .unknown hfind
  · next e hfind =>
    split
    · next hown =>
      split
      · next cause hfailed => exact .failed e cause hfind hown hfailed
      · next files hremoved => exact .removed e files hfind hown hremoved
    · next hshared => exact .switched e hfind hshared

/-! ## New launchers -/

/-- What becomes of the registry when a launcher is made. -/
inductive CreateStep (r : Registry) (request : Request) :
    Except Error String → Registry → Prop where
  /-- The command line or the name cannot be used. -/
  | refused (error : Error) : CreateStep r request (.error error) r
  /-- The launcher waits under a free name for its first save. -/
  | made (name : String) (isFileName : Path.IsFileName name) (free : r.isTaken name = false) :
      CreateStep r request (.ok name)
        ((r.set name ((Entry.ofCommand name (r.searchPath.userPath name) request.name?
          request.comment? request.exec request.delay).schedule r.searchPath r.dueTime)).tell
            (.added name))

/-- Making a launcher is one of these steps. -/
theorem create_step {request : Request} {outcome : Except Error String}
    (h : r.create request = (outcome, r')) : CreateStep r request outcome r' := by
  obtain rfl : (r.create request).1 = outcome := congrArg Prod.fst h
  obtain rfl : (r.create request).2 = r' := congrArg Prod.snd h
  unfold create
  split
  · exact .refused _
  · split
    · exact .refused _
    · split
      · exact .refused _
      · next base hbase =>
        split
        · exact .refused _
        · next name hname =>
          exact .made name (isFileName_of_freeName (isFileName_of_baseName hbase) hname)
            (isTaken_of_freeName hname)

/-- A committed launcher waits for its save. -/
theorem find?_commit (r : Registry) (name : String) (e : Entry) :
    (r.commit name e).find? name = some (e.schedule r.searchPath r.dueTime) := by
  unfold commit
  rw [find?_tell, find?_set_self]

/-- A launcher that is brought in is left as it is or switched on. -/
theorem switchOn_cases (r : Registry) (name : String) (e : Entry) :
    r.switchOn name e = r ∨ r.switchOn name e = r.commit name (switched e false) := by
  unfold switchOn
  split
  · exact .inr rfl
  · exact .inl rfl

/-- Switching on a launcher that is brought in sees the same files before and after. -/
theorem files_switchOn (r : Registry) (name : String) (e : Entry) :
    (r.switchOn name e).files = r.files := by
  rcases switchOn_cases r name e with heq | heq
  · rw [heq]
  · rw [heq]
    rfl

/-- A launcher that is brought in is known when it was loaded. -/
theorem exists_find?_switchOn {r : Registry} {name : String} {e : Entry}
    (h : r.find? name = some e) : ∃ e', (r.switchOn name e).find? name = some e' := by
  rcases switchOn_cases r name e with heq | heq
  · rw [heq]
    exact ⟨e, h⟩
  · rw [heq]
    exact ⟨_, find?_commit r name _⟩

/-- A failed copy is removed from its own place. -/
theorem touches_cleanedUp (fs : FileStore) (target p : Path) :
    fs.Touches (cleanedUp fs target) p fun l => l = fs.locationOf target := by
  unfold cleanedUp
  split
  · next hremoved => exact FileStore.touches_removeFile hremoved p
  · exact .refl fs _ _

/-- Where a failed copy is removed no file appears. -/
theorem node?_of_cleanedUp {fs : FileStore} {target : Path} {l : Location} {c : Content}
    (h : (cleanedUp fs target).node? l = some (.file c)) : fs.node? l = some (.file c) := by
  unfold cleanedUp at h
  split at h
  · next hremoved =>
    obtain ⟨-, -, -, hafter⟩ := FileStore.removeFile_spec hremoved
    rw [hafter] at h
    split at h
    · cases h
    · exact h
  · exact h

/-- A copy of a source is a copy of its file. -/
theorem copyFile_of_copySource {fs fs' : FileStore} {source : Source} {target : Path}
    (h : copySource fs source target = .ok fs') : fs.copyFile source.path target = .ok fs' := by
  unfold copySource at h
  split at h
  · exact h
  · split at h <;> cases h

/-- Bringing in a file makes its directory, and then fails, removing what stands at its place at
most, or copies the file. -/
theorem bring_cases {fs fs' : FileStore} {source : Source} {dir target : Path}
    {outcome : Except OsError Unit} (h : bring fs source dir target = (outcome, fs')) :
    (∃ cause, outcome = .error cause ∧
        (fs' = (fs.makeDirectories dir).2 ∨ fs' = cleanedUp (fs.makeDirectories dir).2 target)) ∨
      outcome = .ok () ∧ (fs.makeDirectories dir).2.copyFile source.path target = .ok fs' := by
  unfold bring at h
  split at h
  · next cause made heq =>
    obtain ⟨rfl, rfl⟩ := Prod.mk.inj h
    exact .inl ⟨cause, rfl, .inl (congrArg Prod.snd heq).symm⟩
  · next made heq =>
    rw [heq]
    split at h
    · next copied hcopied =>
      obtain ⟨rfl, rfl⟩ := Prod.mk.inj h
      exact .inr ⟨rfl, copyFile_of_copySource hcopied⟩
    · next cause hfailed =>
      obtain ⟨rfl, rfl⟩ := Prod.mk.inj h
      exact .inl ⟨cause, rfl, .inr rfl⟩

/-- Bringing in a file touches its place. -/
theorem touches_of_bring {fs fs' : FileStore} {source : Source} {dir target : Path}
    {outcome : Except OsError Unit} (h : bring fs source dir target = (outcome, fs')) :
    fs.Touches fs' dir fun l => l = fs.locationOf target := by
  have hmade : fs.Touches (fs.makeDirectories dir).2 dir fun l => l = fs.locationOf target :=
    (fs.touches_makeDirectories dir).mono fun _ => False.elim
  have hlocation := FileStore.locationOf_congr hmade.workingDirectory_eq target
  rcases bring_cases h with ⟨cause, -, rfl | rfl⟩ | ⟨-, hcopied⟩
  · exact hmade
  · have hclean := touches_cleanedUp (fs.makeDirectories dir).2 target dir
    rw [hlocation] at hclean
    exact hmade.trans hclean
  · have hcopy := FileStore.touches_copyFile hcopied dir
    rw [hlocation] at hcopy
    exact hmade.trans hcopy

/-- Bringing in a file and removing it again touches its place. -/
theorem touches_cleanedUp_of_bring {fs fs' : FileStore} {source : Source} {dir target : Path}
    {outcome : Except OsError Unit} (h : bring fs source dir target = (outcome, fs')) :
    fs.Touches (cleanedUp fs' target) dir fun l => l = fs.locationOf target := by
  have hbrought := touches_of_bring h
  have hclean := touches_cleanedUp fs' target dir
  rw [FileStore.locationOf_congr hbrought.workingDirectory_eq] at hclean
  exact hbrought.trans hclean

/-- Bringing in a file keeps everything but what stood at its place. -/
theorem keeps_of_bring {fs fs' : FileStore} {source : Source} {dir target : Path}
    {outcome : Except OsError Unit} (h : bring fs source dir target = (outcome, fs')) :
    fs.Keeps fs' (fs.locationOf target) :=
  (touches_of_bring h).keeps fun _ hl => hl

/-- When a file cannot be brought in no file appears. -/
theorem node?_of_bring_eq_error {fs fs' : FileStore} {source : Source} {dir target : Path}
    {cause : OsError} (h : bring fs source dir target = (.error cause, fs')) {l : Location}
    {c : Content} (hc : fs'.node? l = some (.file c)) : fs.node? l = some (.file c) := by
  have hmade := fs.touches_makeDirectories dir
  rcases bring_cases h with ⟨-, -, rfl | rfl⟩ | ⟨houtcome, -⟩
  · exact (hmade.file_iff l c id).1 hc
  · exact (hmade.file_iff l c id).1 (node?_of_cleanedUp hc)
  · cases houtcome

/-- A copy that was brought in stands at its place no more once it is removed. -/
theorem node?_cleanedUp_of_bring {fs fs' : FileStore} {source : Source} {dir target : Path}
    (h : bring fs source dir target = (.ok (), fs')) (c : Content) :
    (cleanedUp fs' target).node? (fs.locationOf target) ≠ some (.file c) := by
  rcases bring_cases h with ⟨cause, houtcome, -⟩ | ⟨-, hcopied⟩
  · cases houtcome
  · -- The path leads to the copy, so the copy can be removed.
    obtain ⟨-, -, -, hfile⟩ := FileStore.exists_of_copyFile hcopied
    obtain ⟨l, content, hstat⟩ := FileStore.isFile_iff.1 hfile
    have hremoved : fs'.removeFile target = .ok { fs' with nodes := fs'.nodes.erase l } := by
      unfold FileStore.removeFile
      rw [hstat]
      rfl
    obtain ⟨-, -, -, hafter⟩ := FileStore.removeFile_spec hremoved
    unfold cleanedUp
    rw [hremoved, ← FileStore.locationOf_congr (touches_of_bring h).workingDirectory_eq]
    dsimp only
    rw [hafter, if_pos rfl]
    simp

/-- When a file cannot be brought in no file is touched, if no file stands at its place or its
directory is there and its path leads nowhere. -/
theorem untouched_of_bring_eq_error {fs fs' : FileStore} {source : Source} {dir target : Path}
    {cause : OsError} (h : bring fs source dir target = (.error cause, fs'))
    (hfree : (∀ c, fs.node? (fs.locationOf target) ≠ some (.file c)) ∨
      fs.isDirectory dir = true ∧ fs.existsAt target = false) :
    fs.Touches fs' dir fun _ => False := by
  rcases hfree with hnone | ⟨hdir, hmissing⟩
  · exact (touches_of_bring h).untouched hnone fun c hc => hnone c (node?_of_bring_eq_error h hc)
  · -- No directory is made, so the path leads nowhere when what is left there is removed.
    obtain ⟨l, hstat⟩ := FileStore.isDirectory_iff.1 hdir
    have hsame : fs' = fs ∨ fs' = cleanedUp fs target := by
      rcases bring_cases h with ⟨-, -, hfailed⟩ | ⟨houtcome, -⟩
      · rw [FileStore.makeDirectories_of_stat hstat] at hfailed
        exact hfailed
      · cases houtcome
    have hclean : cleanedUp fs target = fs := by
      unfold cleanedUp FileStore.removeFile
      unfold FileStore.existsAt at hmissing
      split at hmissing
      · cases hmissing
      · next error heq => rw [heq]; rfl
    rcases hsame with rfl | rfl
    · exact .refl fs' _ _
    · rw [hclean]
      exact .refl fs _ _

/-- A file is brought in over another only when its path leads there, or its directory has to be
made. -/
theorem node?_of_bring {fs fs' : FileStore} {source : Source} {dir target : Path}
    (h : bring fs source dir target = (.ok (), fs')) (hdir : fs.isDirectory dir = true)
    (hmissing : fs.existsAt target = false) (c : Content) :
    fs.node? (fs.locationOf target) ≠ some (.file c) := by
  intro hc
  obtain ⟨l, hstat⟩ := FileStore.isDirectory_iff.1 hdir
  rcases bring_cases h with ⟨cause, houtcome, -⟩ | ⟨-, hcopied⟩
  · cases houtcome
  · rw [FileStore.makeDirectories_of_stat hstat] at hcopied
    rw [FileStore.existsAt_of_copyFile hcopied hc] at hmissing
    cases hmissing

/-- What becomes of the registry when a launcher is brought in. -/
inductive CopyStep (r : Registry) : Except Error String → Registry → Prop where
  /-- The source or the name cannot be used. -/
  | refused (error : Error) : CopyStep r (.error error) r
  /-- The copy cannot be made. -/
  | failed (error : Error) (name : String) (files : FileStore) {source : Source} {cause : OsError}
      (isFileName : Path.IsFileName name) (free : r.isTaken name = false)
      (brought : bring r.files source r.searchPath.userDirectory (r.searchPath.userPath name) =
        (.error cause, files)) :
      CopyStep r (.error error) { r with files }
  /-- The copy is loaded under a free name, and switched on. -/
  | loaded (name : String) (files : FileStore) (r' : Registry) (e : Entry) {source : Source}
      (isFileName : Path.IsFileName name) (free : r.isTaken name = false)
      (brought : bring r.files source r.searchPath.userDirectory (r.searchPath.userPath name) =
        (.ok (), files))
      (load : { r with files }.load (r.searchPath.userPath name) SearchPath.userRank =
        (some e, r')) :
      CopyStep r (.ok name) (r'.switchOn name e)
  /-- The copy is not the file of a launcher, and is removed again. -/
  | useless (error : Error) (name : String) (files : FileStore) (r' : Registry) {source : Source}
      (isFileName : Path.IsFileName name) (free : r.isTaken name = false)
      (brought : bring r.files source r.searchPath.userDirectory (r.searchPath.userPath name) =
        (.ok (), files))
      (load : { r with files }.load (r.searchPath.userPath name) SearchPath.userRank =
        (none, r')) :
      CopyStep r (.error error)
        { r' with files := cleanedUp r'.files (r.searchPath.userPath name) }

/-- Bringing in a launcher is one of these steps. -/
theorem copyFrom_step {text : String} {outcome : Except Error String}
    (h : r.copyFrom text = (outcome, r')) : CopyStep r outcome r' := by
  obtain rfl : (r.copyFrom text).1 = outcome := congrArg Prod.fst h
  obtain rfl : (r.copyFrom text).2 = r' := congrArg Prod.snd h
  unfold copyFrom
  split
  · exact .refused _
  · next source hsource =>
    split
    · exact .refused _
    · next base hbase =>
      split
      · exact .refused _
      · next name hname =>
        -- A free name is that of a file, so the copy has a place of its own to fail at.
        have hfile := isFileName_of_freeName (isFileName_of_source hsource hbase) hname
        have hfree := isTaken_of_freeName hname
        dsimp only
        split
        · next error files hbrought => exact .failed _ name files hfile hfree hbrought
        · next files hbrought =>
          split
          · next e r' hload => exact .loaded name files r' e hfile hfree hbrought hload
          · next r' hload => exact .useless _ name files r' hfile hfree hbrought hload

end Autostart.Registry
