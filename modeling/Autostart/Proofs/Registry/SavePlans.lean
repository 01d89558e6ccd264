import Autostart.Proofs.FileStore.Making
import Autostart.Proofs.Registry.Flushing
import Autostart.Proofs.Registry.Tidiness

/-!
# Saves as plans

A save reads first and changes files after that. What it reads, the file of the system below the
launcher and the base of its changes, makes a plan: to give way to the system, or to write a
document. The plan is carried out on the file of the user, and how that ends says what becomes of
the launcher. Carried out where the directory of the user is open, a plan is local to its file;
where the directory is made first, it does what it does with the directory made, or nothing.
-/

namespace Autostart

open FileStore (AgreeOnWay CommuteAt IsLocal attempt)

/-- What a save sets out to do. -/
inductive Plan where
  /-- The launcher gives way to a file of the system. -/
  | giveWay (rank : Nat) (path : Path)
  /-- A document is written to the file of the user. -/
  | write (document : Document)

namespace Plan

/-- A plan is carried out for a launcher on some files, in the directory of the user. -/
def run (plan : Plan) (dir : Path) (e : Entry) (fs : FileStore) : Except Error Unit × FileStore :=
  match plan with
  | giveWay _ path => attempt fs (Registry.withoutOverride fs e path)
  | write document =>
    match fs.makeDirectories dir with
    | (.error cause, fs) => (.error (.write dir cause.message), fs)
    | (.ok (), fs) => attempt fs (document.save fs e.source)

/-- What a save does when its plan was carried out. -/
def saved : Plan → Saved
  | giveWay _ _ => .shadowRemoved
  | write _ => .written

/-- The launcher after its plan was carried out, or could not be. -/
def after (plan : Plan) (e : Entry) (outcome : Except Error Unit) : Entry :=
  match outcome, plan with
  | .error _, _ => e
  | .ok _, giveWay rank path => Registry.backToSystem e rank path
  | .ok _, write _ => Registry.saved e

end Plan

namespace Registry

/-- The plan of a save. -/
def planOf (r : Registry) (e : Entry) : Plan :=
  match r.twin? e with
  | some (rank, path) => .giveWay rank path
  | none => .write (r.merged e)

/-- A plan to give way is one in favour of the file of the system that says the same. -/
theorem twin?_of_planOf {r : Registry} {e : Entry} {rank : Nat} {path : Path}
    (h : r.planOf e = .giveWay rank path) : r.twin? e = some (rank, path) := by
  unfold planOf at h
  split at h
  · next htwin =>
    obtain ⟨rfl, rfl⟩ := Plan.giveWay.inj h
    exact htwin
  · cases h

/-- Writing a document to the file of the user is carrying out the plan to do so. -/
theorem writeUser_eq_run (r : Registry) (e : Entry) (document : Document) :
    r.writeUser e.source document =
      (Plan.write document).run r.searchPath.userDirectory e r.files := by
  unfold writeUser Plan.run
  dsimp only
  rcases r.files.makeDirectories r.searchPath.userDirectory with ⟨cause | u, made⟩
  · rfl
  · dsimp only
    cases document.save made e.source <;> rfl

/-- The save of a launcher with changes makes a plan and carries it out. -/
theorem flush_of_pending {r : Registry} {name : String} {e : Entry} (hfind : r.find? name = some e)
    (hpending : e.isPending = true) {plan : Plan} (hplan : r.planOf (undue e) = plan)
    {outcome : Except Error Unit} {files : FileStore}
    (hrun : plan.run r.searchPath.userDirectory (undue e) r.files = (outcome, files)) :
    r.flush name = (outcome.map fun _ => plan.saved,
      ({ r with files } : Registry).set name (plan.after (undue e) outcome)) := by
  have hset : ∀ e' : Entry, ({ r.set name (undue e) with files } : Registry).set name e' =
      ({ r with files } : Registry).set name e' :=
    fun e' => set_set { r with files } name (undue e) e'
  unfold flush
  rw [hfind]
  dsimp only
  rw [if_neg (by simp [hpending]), show ({ e with due? := none } : Entry) = undue e from rfl,
    show (r.set name (undue e)).twin? (undue e) = r.twin? (undue e) from rfl]
  unfold planOf at hplan
  split
  · next rank path htwin =>
    rw [htwin] at hplan
    subst hplan
    unfold Plan.run at hrun
    dsimp only at hrun
    rw [show (r.set name (undue e)).files = r.files from rfl]
    rcases hremoved : withoutOverride r.files (undue e) path with error | removed <;>
      rw [hremoved] at hrun <;> cases hrun
    · rfl
    · exact congrArg (Prod.mk _) (hset _)
  · next htwin =>
    rw [htwin] at hplan
    subst hplan
    have hwrite : (r.set name (undue e)).writeUser e.source
        ((r.set name (undue e)).merged (undue e)) = (outcome, files) :=
      (writeUser_eq_run r (undue e) (r.merged (undue e))).trans hrun
    rw [hwrite]
    cases outcome with
    | error e' => rfl
    | ok u => exact congrArg (Prod.mk _) (hset _)

/-! ## What is read -/

/-- Stores that are alike about a file give the same document of it, or none of them any. -/
theorem load_of_alike {fs fs' : FileStore} {p : Path} (h : fs.Alike fs' p) :
    (∃ d, Document.load fs p = .ok d ∧ Document.load fs' p = .ok d) ∨
      ∃ error error', Document.load fs p = .error error ∧ Document.load fs' p = .error error' := by
  have hload : ∀ d, Document.load fs' p = .ok d ↔ Document.load fs p = .ok d := by
    intro d
    simp only [Document.load_eq_ok_iff, h.readText_iff]
  rcases hthere : Document.load fs p with error | d
  · rcases hthere' : Document.load fs' p with error' | d'
    · exact .inr ⟨error, error', rfl, rfl⟩
    · rw [(hload d').1 hthere'] at hthere
      cases hthere
  · exact .inl ⟨d, rfl, (hload d).2 hthere⟩

/-- The plan of a save is the same in registries that differ in other things than what it reads: the
file of the system below the launcher, and the base of its changes. -/
theorem planOf_congr {r r' : Registry} {e : Entry} (hsettings : r'.settings = r.settings)
    (hshadow : ∀ rank path, e.shadow? = some rank →
      r.searchPath.pathAt? rank e.filename = some path → r.files.Alike r'.files path)
    (hbase : r.files.Alike r'.files (mergeBase e)) : r'.planOf e = r.planOf e := by
  have hsearch : r'.searchPath = r.searchPath := congrArg Settings.searchPath hsettings
  have htwin : r'.twin? e = r.twin? e := by
    unfold twin?
    rw [hsearch, hsettings]
    split
    · rfl
    · next rank hrank =>
      split
      · rfl
      · next path hpath =>
        rcases load_of_alike (hshadow rank path hrank hpath) with
          ⟨d, hload, hload'⟩ | ⟨error, error', hload, hload'⟩
        · rw [hload, hload']
        · rw [hload, hload']
  have hmerged : r'.merged e = r.merged e := by
    unfold mergeBase at hbase
    unfold merged
    rw [hsettings]
    rcases load_of_alike hbase with ⟨d, hload, hload'⟩ | ⟨error, error', hload, hload'⟩
    · rw [hload, hload']
    · rw [hload, hload']
  unfold planOf
  rw [htwin, hmerged]

end Registry

/-! ## What is changed -/

namespace Plan

variable {fs fs' : FileStore} {dir : Path} {e : Entry} {name : String}

/-- How giving way ends when the removal of a file ended in some way. A missing file will do. -/
def removalEnd (target : Path) : Except OsError Unit → Except Error Unit
  | .ok () => .ok ()
  | .error .notFound => .ok ()
  | .error cause => .error (.write target cause.message)

/-- How writing ends when the replacement of a file ended in some way. -/
def writingEnd (target : Path) : Except OsError Unit → Except Error Unit
  | .ok () => .ok ()
  | .error cause => .error (.write target cause.message)

/-- Giving way to the file of the launcher itself does nothing. To another file, it takes the file
of the user away. -/
theorem run_giveWay (rank : Nat) (path dir : Path) (huser : e.rank? = some SearchPath.userRank) :
    (giveWay rank path).run dir e = if e.source.same path then fun fs => (.ok (), fs) else
      fun fs => (removalEnd e.source (attempt fs (fs.removeFile e.source)).1,
        (attempt fs (fs.removeFile e.source)).2) := by
  funext fs
  unfold run Registry.withoutOverride
  dsimp only
  by_cases hsame : e.source.same path = true
  · rw [if_pos hsame, if_neg (by simp [hsame])]
    rfl
  · rw [if_neg hsame, if_pos (by simp [huser, hsame])]
    unfold Registry.withoutFile
    rcases fs.removeFile e.source with cause | removed
    · cases cause <;> rfl
    · rfl

/-- Writing a document is replacing the file of the user, where its directory is there or can be
made. -/
theorem run_write (document : Document) (dir : Path) (e : Entry) (fs : FileStore) :
    (write document).run dir e fs =
      match fs.makeDirectories dir with
      | (.error cause, made) => (.error (.write dir cause.message), made)
      | (.ok (), made) =>
        (writingEnd e.source (attempt made (made.replaceFile e.source document.text)).1,
          (attempt made (made.replaceFile e.source document.text)).2) := by
  unfold run
  dsimp only
  rcases fs.makeDirectories dir with ⟨cause | u, made⟩
  · rfl
  · dsimp only
    unfold Document.save
    cases made.replaceFile e.source document.text <;> rfl

/-- Where the directory of the user is open, a plan is local to the file of the user. -/
theorem isLocal_run (plan : Plan) (huser : e.rank? = some SearchPath.userRank)
    (hp : e.source.components = dir.components ++ [.name name]) :
    IsLocal (plan.run dir e) e.source dir := by
  cases plan with
  | giveWay rank path =>
    rw [run_giveWay rank path dir huser]
    split
    · exact .of_unchanged _ _ _
    · exact (FileStore.isLocal_removeFile e.source dir).map _
  | write document =>
    intro fs fs' hopens hagree
    obtain ⟨outcome, hmade⟩ := hopens.makeDirectories
    rw [run_write, run_write, hmade fs (.refl fs dir), hmade fs' (hagree.directory hp)]
    cases outcome with
    | error cause => exact ⟨rfl, .kept, .inl rfl, rfl, rfl⟩
    | ok u =>
      exact (FileStore.isLocal_replaceFile hp document.text).map _ fs fs' hopens hagree

/-- Where the directory of the user is not open and cannot be made in part, a plan changes
nothing. -/
theorem run_of_closed (plan : Plan) (huser : e.rank? = some SearchPath.userRank)
    (hp : e.source.components = dir.components ++ [.name name]) (hclosed : ¬ fs.Opens dir)
    (hmade : (fs.makeDirectories dir).2 = fs) : (plan.run dir e fs).2 = fs := by
  cases plan with
  | giveWay rank path =>
    rw [run_giveWay rank path dir huser]
    split
    · rfl
    · dsimp only
      rcases hremoved : fs.removeFile e.source with cause | removed
      · rfl
      · exact absurd (FileStore.opens_of_removeFile hp hremoved) hclosed
  | write document =>
    rw [run_write]
    rcases hresult : fs.makeDirectories dir with ⟨cause | u, made⟩
    · rw [hresult] at hmade
      exact hmade
    · rw [hresult] at hmade
      obtain rfl : made = fs := hmade
      dsimp only
      rcases hwritten : made.replaceFile e.source document.text with cause | written
      · rfl
      · -- A text is only put where the directory is open.
        obtain ⟨hkept | ⟨hopens, -⟩, -⟩ := FileStore.replaceFile_effect hp hwritten
        · cases hkept
        · exact absurd hopens hclosed

/-- In a tree, where a straight directory of the user has to be made and can be, a plan does what it
does with the directory made, or nothing before and after. -/
theorem coincides_run (plan : Plan) (huser : e.rank? = some SearchPath.userRank)
    (hp : e.source.components = dir.components ++ [.name name])
    (htree : fs.IsTree) (hdir : dir.IsStraight)
    (hmade : fs.makeDirectories dir = (.ok (), fs')) (hne : fs' ≠ fs)
    (hsize : ∀ rank path, plan = giveWay rank path →
      ¬ FileStore.maxNameBytes < name.utf8ByteSize) :
    FileStore.Coincides (plan.run dir e) fs fs' := by
  cases plan with
  | giveWay rank path =>
    rw [run_giveWay rank path dir huser]
    split
    · exact .inr ⟨rfl, rfl, rfl⟩
    · obtain ⟨cause, hstat, hstat'⟩ := htree.stat_made hdir hmade hne hp (hsize rank path rfl)
      right
      unfold FileStore.removeFile
      dsimp only
      rw [hstat, hstat']
      exact ⟨rfl, rfl, rfl⟩
  | write document =>
    -- The directory is made first, so it makes no difference whether it is there.
    obtain ⟨l, hstat⟩ := FileStore.stat_of_makeDirectories hmade hne
    left
    rw [run_write, run_write, hmade, FileStore.makeDirectories_of_stat hstat]

end Plan

end Autostart
