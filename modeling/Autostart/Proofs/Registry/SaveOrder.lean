import Autostart.Proofs.Registry.Backing
import Autostart.Proofs.Registry.DueSaves
import Autostart.Proofs.Registry.SavePlans

/-!
# The order of saves

Saves of different launchers can be made in any order. Each makes its plan from files of its own
name and carries it out on the file of the user of its own name. All of them share the directory of
the user, which the first one to write makes: so it must be made wholly or not at all, in a tree of
files, and no directory of the search path may go up to it through what is missing. One save keeps
this as it is, so the saves that are due can be run in any order, and so can those of a shutdown.
-/

namespace Autostart

open FileStore (CommuteAt Coincides)

/-- A save makes the directory of the user wholly or not at all. It makes none, or all that is
missing, where the files form a tree and no directory of the search path goes up. -/
def FileStore.MakesWhole (fs : FileStore) (s : SearchPath) : Prop :=
  (fs.makeDirectories s.userDirectory).2 = fs ∨
    (fs.makeDirectories s.userDirectory).1 = .ok () ∧ fs.IsTree ∧
      ∀ dir ∈ s.directories, dir.IsStraight

/-- A plan suits a launcher of a file name: it is for the file of the user, and gives way only to a
file that could be read, so that the name is not too long for one. -/
structure Plan.Suits (plan : Plan) (s : SearchPath) (name : String) (e : Entry) : Prop where
  /-- The launcher is one of the user. -/
  user : e.rank? = some SearchPath.userRank
  /-- Its source is the file of its name in the directory of the user. -/
  components_eq : e.source.components = s.userDirectory.components ++ [.name name]
  /-- A plan to give way is for a name of a file. -/
  size : ∀ rank path, plan = .giveWay rank path → ¬ FileStore.maxNameBytes < name.utf8ByteSize

/-! ## Plans of launchers of different names -/

namespace FileStore.MakesWhole

variable {fs made : FileStore} {s : SearchPath} {plan plan' : Plan} {e e' : Entry}
  {name name' : String}

/-- Making the directory of the user a second time changes nothing. -/
theorem made_again (h : fs.MakesWhole s) (hmade : (fs.makeDirectories s.userDirectory).2 = made) :
    (made.makeDirectories s.userDirectory).2 = made := by
  by_cases hne : made = fs
  · rw [hne] at hmade ⊢
    exact hmade
  · have hok := (h.resolve_left fun hkept => hne (hmade.symm.trans hkept)).1
    obtain ⟨l, hstat⟩ := stat_of_makeDirectories (Prod.ext hok hmade) hne
    rw [makeDirectories_of_stat hstat]

/-- A plan does what it does with the directory of the user made, or nothing before and after. -/
theorem coincides (h : fs.MakesWhole s) (hmade : (fs.makeDirectories s.userDirectory).2 = made)
    (hplan : plan.Suits s name e) : Coincides (plan.run s.userDirectory e) fs made := by
  by_cases hne : made = fs
  · rw [hne]
    exact .inl rfl
  · obtain ⟨hok, htree, hstraight⟩ := h.resolve_left fun hkept => hne (hmade.symm.trans hkept)
    exact plan.coincides_run hplan.user hplan.components_eq htree
      (hstraight _ List.mem_cons_self) (Prod.ext hok hmade) hne hplan.size

/-- Making the directory of the user leaves the files of all directories alike. -/
theorem alike_made (h : fs.MakesWhole s) (hmade : (fs.makeDirectories s.userDirectory).2 = made)
    {dir : Path} (hdir : dir ∈ s.directories) {p : Path}
    (hp : p.components = dir.components ++ [.name name]) : fs.Alike made p := by
  rw [← hmade]
  rcases h with hkept | ⟨-, htree, hstraight⟩
  · rw [hkept]
    exact .refl fs p
  · have hup : Path.Component.parent ∉ dir.components := hstraight dir hdir
    have hp' : p.IsStraight := by
      unfold Path.IsStraight
      rw [hp]
      simpa using hup
    exact htree.alike_makeDirectories hp' s.userDirectory

/-- With the directory of the user made, a plan has an effect on the file of its launcher. -/
theorem exists_effect (h : fs.MakesWhole s) (hmade : (fs.makeDirectories s.userDirectory).2 = made)
    (hplan : plan.Suits s name e) :
    ∃ effect : Effect, effect.Fits made e.source s.userDirectory ∧
      (plan.run s.userDirectory e made).2 = effect.on made (made.locationOf e.source) := by
  by_cases hopens : made.Opens s.userDirectory
  · exact (plan.isLocal_run hplan.user hplan.components_eq).exists_effect hopens
  · exact ⟨.kept, .inl rfl,
      plan.run_of_closed hplan.user hplan.components_eq hopens (h.made_again hmade)⟩

/-- The plans of launchers of different names can be carried out in any order. -/
theorem commuteAt (h : fs.MakesWhole s) (hplan : plan.Suits s name e)
    (hplan' : plan'.Suits s name' e') (hne : name ≠ name') :
    CommuteAt (plan.run s.userDirectory e) (plan'.run s.userDirectory e') fs := by
  obtain ⟨made, hmade⟩ : ∃ made, (fs.makeDirectories s.userDirectory).2 = made := ⟨_, rfl⟩
  have hagain := h.made_again hmade
  refine .of_coincides ?_ (h.coincides hmade hplan) (h.coincides hmade hplan')
  by_cases hopens : made.Opens s.userDirectory
  · exact (plan.isLocal_run hplan.user hplan.components_eq).comm
      (plan'.isLocal_run hplan'.user hplan'.components_eq) hplan.components_eq
      hplan'.components_eq hne hopens
  · -- Without the directory there is nothing that either could change.
    exact .of_unchanged (plan.run_of_closed hplan.user hplan.components_eq hopens hagain)
      (plan'.run_of_closed hplan'.user hplan'.components_eq hopens hagain)

/-- Carrying out a plan leaves the files of other names alike. -/
theorem alike_run (h : fs.MakesWhole s) (hplan : plan.Suits s name e) {dir : Path}
    (hdir : dir ∈ s.directories) {p : Path}
    (hp : p.components = dir.components ++ [.name name']) (hne : name ≠ name') :
    fs.Alike (plan.run s.userDirectory e fs).2 p := by
  rcases h.coincides rfl hplan with heq | ⟨-, hstill, -⟩
  · obtain ⟨effect, hfits, heffect⟩ := h.exists_effect rfl hplan
    rw [heq, heffect]
    exact (h.alike_made rfl hdir hp).trans (hfits.alike hplan.components_eq hp hne)
  · rw [hstill]
    exact .refl fs p

/-- After a plan was carried out, the directory of the user is made wholly or not at all. -/
theorem run (h : fs.MakesWhole s) (hplan : plan.Suits s name e) :
    (plan.run s.userDirectory e fs).2.MakesWhole s := by
  obtain ⟨made, hmade⟩ : ∃ made, (fs.makeDirectories s.userDirectory).2 = made := ⟨_, rfl⟩
  rcases h.coincides hmade hplan with heq | ⟨-, hstill, -⟩
  · -- Now that it was made, or could not be, nothing more is made.
    left
    obtain ⟨effect, hfits, heffect⟩ := h.exists_effect hmade hplan
    rw [heq, heffect]
    by_cases hopens : made.Opens s.userDirectory
    · obtain ⟨outcome, hthere⟩ := hopens.makeDirectories
      rw [hthere _ hfits.agreeOnWay_directory]
    · obtain rfl : effect = .kept := hfits.resolve_right fun hopen => hopens hopen.1
      exact h.made_again hmade
  · rw [hstill]
    exact h

end FileStore.MakesWhole

namespace Registry

/-! ## Runs that load files in place -/

/-- An action loads files only where the search path places them: in the directory of the rank that
they are loaded for. -/
def Action.LoadsInPlace (s : SearchPath) : Action → Prop
  | .load path rank => ∀ name, path.fileName? = some name → s.Places rank name path
  | _ => True

variable {settings : Settings} {r : Registry} {name name' : String}

/-- A run that loads files only where the search path places them keeps in sync. -/
theorem Reachable.inSync_of_loadsInPlace
    (h : Reachable (Action.LoadsInPlace settings.searchPath) settings r) : InSync settings r := by
  refine h.invariant (InSync.fresh settings) fun r a ok hr => ?_
  cases a with
  | load path rank => exact hr.load ok
  | _ => exact hr.perform _ trivial

/-! ## Two saves -/

/-- A launcher without changes, or none at all, is not saved. -/
theorem flush_settled (hsettled : ∀ e, r.find? name = some e → e.isPending = false) :
    ∃ outcome, ∀ r' : Registry, r'.find? name = r.find? name → r'.flush name = (outcome, r') := by
  rcases hfind : r.find? name with _ | e
  · refine ⟨.error (.unknownEntry name), fun r' hsame => ?_⟩
    unfold flush
    rw [hsame]
  · refine ⟨.ok .idle, fun r' hsame => ?_⟩
    unfold flush
    rw [hsame]
    dsimp only
    rw [if_pos (by simp [hsettled e hfind])]

/-- The saves of two launchers can be made in any order: each ends as it would end alone, and both
orders lead to the same registry. -/
structure SavesCommute (r : Registry) (name name' : String) : Prop where
  /-- The second save ends after the first as it ends alone. -/
  second_eq : ((r.flush name).2.flush name').1 = (r.flush name').1
  /-- The first save ends after the second as it ends alone. -/
  first_eq : ((r.flush name').2.flush name).1 = (r.flush name).1
  /-- The registries are the same. -/
  registry_eq : ((r.flush name).2.flush name').2 = ((r.flush name').2.flush name).2

/-- What can be done in any order can be done in the other order. -/
theorem SavesCommute.symm (h : r.SavesCommute name name') : r.SavesCommute name' name :=
  ⟨h.first_eq, h.second_eq, h.registry_eq.symm⟩

/-- A save that finds nothing to do can be made before and after any other. -/
theorem savesCommute_of_settled (hne : name ≠ name')
    (hsettled : ∀ e, r.find? name = some e → e.isPending = false) : r.SavesCommute name name' := by
  obtain ⟨outcome, hflush⟩ := flush_settled hsettled
  have hafter := hflush _ (find?_flush_of_ne (r := r) (Ne.symm hne))
  exact ⟨by rw [hflush r rfl], by rw [hafter, hflush r rfl], by rw [hafter, hflush r rfl]⟩

/-- A registry is orderly when it comes from a run that loads files only in place, and its saves
make the directory of the user wholly or not at all. -/
structure Orderly (settings : Settings) (r : Registry) : Prop where
  /-- It comes from such a run. -/
  reachable : Reachable (Action.LoadsInPlace settings.searchPath) settings r
  /-- The directory of the user is made wholly or not at all. -/
  makesWhole : r.files.MakesWhole settings.searchPath

namespace Orderly

/-- The search path is that of the settings. -/
theorem searchPath_eq (h : Orderly settings r) : r.searchPath = settings.searchPath :=
  congrArg Settings.searchPath h.reachable.settings_eq

/-- What a rank places under the name of a launcher is the file of the name in a directory. -/
theorem exists_directory (h : Orderly settings r) {e : Entry} (hfind : r.find? name = some e)
    {rank : Nat} {p : Path} (hp : settings.searchPath.Places rank name p) :
    ∃ dir ∈ settings.searchPath.directories, p.components = dir.components ++ [.name name] := by
  obtain ⟨dir, hdir, hcomponents⟩ := hp.components_eq (h.reachable.isFileName hfind)
  exact ⟨dir, List.mem_of_getElem? hdir, hcomponents⟩

/-- The plan of a save suits its launcher. -/
theorem suits (h : Orderly settings r) {e : Entry} (hfind : r.find? name = some e)
    (hpending : e.isPending = true) :
    (r.planOf (undue e)).Suits settings.searchPath name (undue e) := by
  have hsound := h.reachable.inSync_of_loadsInPlace.sound name e hfind
  have huser := hsound.user_of_dirty (hsound.dirty_of_pending hpending)
  refine ⟨huser, ?_, fun rank path hplan => ?_⟩
  · obtain ⟨rank, hrank, -, hplaced⟩ := hsound.placed
    obtain rfl : SearchPath.userRank = rank := Option.some.inj (huser.symm.trans hrank)
    obtain ⟨dir, hdir, hcomponents⟩ := hplaced.components_eq (h.reachable.isFileName hfind)
    obtain rfl : settings.searchPath.userDirectory = dir := Option.some.inj hdir
    exact hcomponents
  · -- The document of the file of the system could be read, so its name is not too long.
    obtain ⟨-, hpath, d, hload, -⟩ := twin?_spec (twin?_of_planOf hplan)
    rw [h.searchPath_eq, show (undue e).filename = name from hsound.filename_eq] at hpath
    obtain ⟨dir, -, hcomponents⟩ := h.exists_directory hfind (SearchPath.places_of_pathAt? hpath)
    obtain ⟨text, hread, -⟩ := Document.load_eq_ok_iff.1 hload
    obtain ⟨l, hstat⟩ := FileStore.readText_eq_ok_iff.1 hread
    exact FileStore.size_of_stat hcomponents hstat

/-- A plan does not change when the files of its name stay as they are. -/
theorem planOf_eq (h : Orderly settings r) {e : Entry} (hfind : r.find? name = some e)
    {r' : Registry} (hsettings : r'.settings = r.settings)
    (halike : ∀ dir ∈ settings.searchPath.directories, ∀ p : Path,
      p.components = dir.components ++ [.name name] → r.files.Alike r'.files p) :
    r'.planOf (undue e) = r.planOf (undue e) := by
  have hsound := h.reachable.inSync_of_loadsInPlace.sound name e hfind
  refine planOf_congr hsettings (fun rank path _ hpath => ?_) ?_
  · rw [h.searchPath_eq, show (undue e).filename = name from hsound.filename_eq] at hpath
    obtain ⟨dir, hdir, hcomponents⟩ := h.exists_directory hfind (SearchPath.places_of_pathAt? hpath)
    exact halike dir hdir path hcomponents
  · obtain ⟨rank, hplaces⟩ := places_mergeBase hsound
    obtain ⟨dir, hdir, hcomponents⟩ := h.exists_directory hfind hplaces
    exact halike dir hdir (mergeBase e) hcomponents

/-- The save of a launcher with changes carries out its plan on the file of the user. -/
theorem flush_eq (h : Orderly settings r) {e : Entry} (hfind : r.find? name = some e)
    (hpending : e.isPending = true) :
    r.flush name =
      let run := (r.planOf (undue e)).run settings.searchPath.userDirectory (undue e) r.files
      (run.1.map fun _ => (r.planOf (undue e)).saved,
        ({ r with files := run.2 } : Registry).set name
          ((r.planOf (undue e)).after (undue e) run.1)) := by
  refine flush_of_pending hfind hpending rfl ?_
  rw [h.searchPath_eq]

/-- A save leaves a registry orderly. -/
theorem flush (h : Orderly settings r) (name : String) : Orderly settings (r.flush name).2 := by
  refine ⟨.step r (.flush name) h.reachable trivial, ?_⟩
  by_cases hpending : ∃ e, r.find? name = some e ∧ e.isPending = true
  · obtain ⟨e, hfind, hpending⟩ := hpending
    rw [h.flush_eq hfind hpending]
    exact h.makesWhole.run (h.suits hfind hpending)
  · have hsettled : ∀ e, r.find? name = some e → e.isPending = false := fun e hfind =>
      Bool.eq_false_iff.2 fun hp => hpending ⟨e, hfind, hp⟩
    obtain ⟨outcome, hflush⟩ := flush_settled hsettled
    rw [hflush r rfl]
    exact h.makesWhole

/-- A save after that of another launcher carries out the plan that it would have carried out
before. -/
theorem flush_flush_eq (h : Orderly settings r) {e e' : Entry} (hfind : r.find? name = some e)
    (hpending : e.isPending = true) (hfind' : r.find? name' = some e')
    (hpending' : e'.isPending = true) (hne : name ≠ name') :
    (r.flush name).2.flush name' =
      let run := (r.planOf (undue e)).run settings.searchPath.userDirectory (undue e) r.files
      let run' :=
        (r.planOf (undue e')).run settings.searchPath.userDirectory (undue e') run.2
      (run'.1.map fun _ => (r.planOf (undue e')).saved,
        (({ r with files := run'.2 } : Registry).set name
          ((r.planOf (undue e)).after (undue e) run.1)).set name'
          ((r.planOf (undue e')).after (undue e') run'.1)) := by
  have hflush := h.flush_eq hfind hpending
  have hthere : (r.flush name).2.find? name' = some e' := by
    rw [find?_flush_of_ne hne, hfind']
  have hsame : (r.flush name).2.planOf (undue e') = r.planOf (undue e') := by
    refine h.planOf_eq hfind' (flush_frame r name).2 fun dir hdir p hp => ?_
    rw [hflush]
    exact h.makesWhole.alike_run (h.suits hfind hpending) hdir hp hne
  rw [(h.flush name).flush_eq hthere hpending', hsame, hflush]
  rfl

/-- Saves of different launchers can be made in any order. -/
theorem savesCommute (h : Orderly settings r) (hne : name ≠ name') :
    r.SavesCommute name name' := by
  by_cases hsettled : ∀ e, r.find? name = some e → e.isPending = false
  · exact savesCommute_of_settled hne hsettled
  · by_cases hsettled' : ∀ e, r.find? name' = some e → e.isPending = false
    · exact (savesCommute_of_settled hne.symm hsettled').symm
    · -- Both are saved, so both carry out their plans.
      simp only [not_forall, Bool.not_eq_false] at hsettled hsettled'
      obtain ⟨e, hfind, hpending⟩ := hsettled
      obtain ⟨e', hfind', hpending'⟩ := hsettled'
      obtain ⟨hsecond, hfirst, hfiles⟩ :=
        h.makesWhole.commuteAt (h.suits hfind hpending) (h.suits hfind' hpending') hne
      refine ⟨?_, ?_, ?_⟩
      · rw [h.flush_flush_eq hfind hpending hfind' hpending' hne, h.flush_eq hfind' hpending']
        dsimp only
        rw [hsecond]
      · rw [h.flush_flush_eq hfind' hpending' hfind hpending hne.symm, h.flush_eq hfind hpending]
        dsimp only
        rw [hfirst]
      · rw [h.flush_flush_eq hfind hpending hfind' hpending' hne,
          h.flush_flush_eq hfind' hpending' hfind hpending hne.symm]
        dsimp only
        rw [hsecond, hfirst, hfiles]
        exact set_comm _ hne _ _

end Orderly

/-! ## Saves one after the other -/

/-- The failure of a save, if it failed. -/
def failureOf (name : String) (outcome : Except Error Saved) : List (String × Error) :=
  SaveLog.failures [(name, outcome)]

/-- Saving some launchers is saving the first one, and then the others. -/
theorem flushEach_cons (r : Registry) (name : String) (rest : List String) :
    r.flushEach (name :: rest) =
      (failureOf name (r.flush name).1 ++ ((r.flush name).2.flushEach rest).1,
        ((r.flush name).2.flushEach rest).2) := by
  conv_lhs => unfold flushEach
  rcases r.flush name with ⟨error | saved, r'⟩ <;> rfl

/-- In whatever order some launchers are saved, the same registry comes out, and the same saves
fail. -/
theorem Orderly.flushEach_perm {names names' : List String} (hperm : names.Perm names')
    (h : Orderly settings r) : (r.flushEach names).2 = (r.flushEach names').2 ∧
      (r.flushEach names).1.Perm (r.flushEach names').1 := by
  induction hperm generalizing r with
  | nil => exact ⟨rfl, .refl _⟩
  | cons name _ ih =>
    obtain ⟨hregistry, hfailures⟩ := ih (h.flush name)
    rw [flushEach_cons, flushEach_cons]
    exact ⟨hregistry, hfailures.append_left _⟩
  | swap name name' rest =>
    by_cases hne : name = name'
    · subst hne
      exact ⟨rfl, .refl _⟩
    · -- Both saves end as they would end alone, and what comes after them starts from the same.
      obtain ⟨hsecond, hfirst, hregistry⟩ := h.savesCommute hne
      rw [flushEach_cons, flushEach_cons, flushEach_cons, flushEach_cons, hsecond, hfirst,
        hregistry]
      refine ⟨rfl, ?_⟩
      rw [← List.append_assoc, ← List.append_assoc]
      exact List.perm_append_comm.append_right _
  | trans _ _ ih ih' =>
    obtain ⟨hregistry, hfailures⟩ := ih h
    obtain ⟨hregistry', hfailures'⟩ := ih' h
    exact ⟨hregistry.trans hregistry', hfailures.trans hfailures'⟩

/-- Let files have been loaded only in place, and let saves make the directory of the user wholly or
not at all. Then the saves of two launchers can be made in any order: each ends as it ends alone,
and the same launchers and files come out. So running the saves that are due, and a shutdown, have
the same launchers, files and failures, in whatever order the launchers are saved. -/
theorem saves_in_any_order {settings : Settings} {r : Registry}
    (hreachable : Reachable (Action.LoadsInPlace settings.searchPath) settings r)
    (hwhole : r.files.MakesWhole settings.searchPath) :
    (∀ f g : String, f ≠ g →
      ((r.flush f).2.flush g).1 = (r.flush g).1 ∧ ((r.flush g).2.flush f).1 = (r.flush f).1 ∧
        ((r.flush f).2.flush g).2 = ((r.flush g).2.flush f).2) ∧
    (∀ order : List String, order.Perm (r.namesWhere fun e => e.due?.any (· ≤ r.now)) →
      (r.flushEach order).2 = r.runDueSaves.2 ∧ (r.flushEach order).1.Perm r.runDueSaves.1) ∧
    ∀ order : List String, order.Perm (r.namesWhere Entry.isPending) →
      ({ (r.flushEach order).2 with entries := SortedMap.empty } : Registry) = r.shutdown.2 ∧
        (r.flushEach order).1.Perm r.shutdown.1 := by
  have horderly : Orderly settings r := ⟨hreachable, hwhole⟩
  refine ⟨fun f g hne => ?_, fun order hperm => horderly.flushEach_perm hperm,
    fun order hperm => ?_⟩
  · obtain ⟨hsecond, hfirst, hregistry⟩ := horderly.savesCommute hne
    exact ⟨hsecond, hfirst, hregistry⟩
  · obtain ⟨hregistry, hfailures⟩ := horderly.flushEach_perm hperm
    exact ⟨congrArg (fun r' : Registry => { r' with entries := SortedMap.empty }) hregistry,
      hfailures⟩

/-- Files with two launchers in a directory. -/
def twoLaunchers (dir : String) : FileStore :=
  ((FileStore.atDirectory []).put ⟨dir ++ "/f.desktop"⟩
    (.file (.text "[Desktop Entry]\nName=F\nExec=f\n"))).put ⟨dir ++ "/g.desktop"⟩
    (.file (.text "[Desktop Entry]\nName=G\nExec=g\n"))

/-- Two launchers of the system that are switched off and due, while the user has no directory. -/
def bothDue : Registry :=
  [.scan, .setHidden "f.desktop" true, .setHidden "g.desktop" true, .advance 2000].foldl perform
    (fresh oneSystemDirectory (twoLaunchers "system") 0)

/-- Two launchers whose saves make the directory of the user are saved in any order. -/
theorem saves_in_any_order_bothDue :
    ((bothDue.flush "f.desktop").2.flush "g.desktop").2 =
        ((bothDue.flush "g.desktop").2.flush "f.desktop").2 ∧
      (bothDue.flushEach ["g.desktop", "f.desktop"]).2 = bothDue.runDueSaves.2 ∧
      bothDue.runDueSaves.2.files.readText ⟨"user/g.desktop"⟩ =
        .ok "[Desktop Entry]\nName=G\nExec=g\nHidden=true\n" := by
  have hreachable : Reachable (Action.LoadsInPlace oneSystemDirectory.searchPath)
      oneSystemDirectory bothDue := by
    refine (Reachable.fresh (twoLaunchers "system") 0).foldl fun a ha => ?_
    simp only [List.mem_cons, List.not_mem_nil, or_false] at ha
    rcases ha with rfl | rfl | rfl | rfl <;> trivial
  have hwhole : bothDue.files.MakesWhole oneSystemDirectory.searchPath := by
    refine .inr ⟨rfl, by decide +kernel, by decide⟩
  obtain ⟨hcommute, hdue, -⟩ := saves_in_any_order hreachable hwhole
  have hnames : (bothDue.namesWhere fun e => e.due?.any (· ≤ bothDue.now)) =
      ["f.desktop", "g.desktop"] := by decide +kernel
  refine ⟨(hcommute "f.desktop" "g.desktop" (by decide)).2.2, (hdue _ ?_).1, by decide +kernel⟩
  rw [hnames]
  exact .swap _ _ _

/-! ## Saves that depend on their order -/

/-- No directory of a search path is another one, or stands below another one. -/
def NoneNested (fs : FileStore) (s : SearchPath) : Prop :=
  s.directories.Pairwise fun dir dir' =>
    ¬ fs.locationOf dir <+: fs.locationOf dir' ∧ ¬ fs.locationOf dir' <+: fs.locationOf dir

/-- Whether directories are nested can be decided. -/
instance (fs : FileStore) (s : SearchPath) : Decidable (NoneNested fs s) :=
  inferInstanceAs (Decidable (List.Pairwise _ _))

/-- The settings of a user whose directory of the system is reached through the parent of the
directory of the user. -/
def throughParent : Settings :=
  .ofDirectories ⟨⟨"a/b/user"⟩, [⟨"a/b/../system"⟩]⟩

/-- Two launchers of the system are switched off, and then the parent of the directory of the user
goes away. -/
def cutOff : Registry :=
  [.scan, .setHidden "f.desktop" true, .setHidden "g.desktop" true,
    .outside (twoLaunchers "a/system")].foldl perform
    (fresh throughParent ((twoLaunchers "a/system").put ⟨"a/b"⟩ .directory) 0)

/-- A launcher is loaded from below the place of another one's file, which is free afterwards. -/
def misplaced : Registry :=
  [.scan, .load ⟨"user/g.desktop/f.desktop"⟩ SearchPath.userRank, .setHidden "f.desktop" true,
    .setHidden "g.desktop" true, .outside (twoLaunchers "system")].foldl perform
    (fresh oneSystemDirectory ((twoLaunchers "system").put ⟨"user/g.desktop/f.desktop"⟩
      (.file (.text "[Desktop Entry]\nName=F\nExec=f\n"))) 0)

/-- Without a condition on what is loaded and made, saves depend on their order, even when no
directory is nested in another. A save that makes the directory of the user lets the next one reach
its base through it. And a save that writes a file turns a missing directory into a file for a
launcher that was loaded from below. -/
theorem saves_depend_on_order :
    (Reachable (fun _ => True) throughParent cutOff ∧
      NoneNested cutOff.files throughParent.searchPath ∧
      (cutOff.find? "f.desktop").isSome ∧ (cutOff.find? "g.desktop").isSome ∧
      ((cutOff.flush "f.desktop").2.flush "g.desktop").2 ≠
        ((cutOff.flush "g.desktop").2.flush "f.desktop").2) ∧
    Reachable (fun _ => True) oneSystemDirectory misplaced ∧
      NoneNested misplaced.files oneSystemDirectory.searchPath ∧
      (misplaced.find? "f.desktop").isSome ∧ (misplaced.find? "g.desktop").isSome ∧
      ((misplaced.flush "g.desktop").2.flush "f.desktop").1 ≠ (misplaced.flush "f.desktop").1 := by
  refine ⟨⟨?_, by decide +kernel, rfl, rfl, fun heq => ?_⟩, ?_, by decide +kernel, rfl, rfl,
    by decide +kernel⟩
  · exact (Reachable.fresh _ _).foldl fun _ _ => trivial
  · -- Only the second launcher to be saved finds its base.
    have hread : ((cutOff.flush "f.desktop").2.flush "g.desktop").2.files.readText
        ⟨"a/b/user/g.desktop"⟩ ≠ ((cutOff.flush "g.desktop").2.flush "f.desktop").2.files.readText
        ⟨"a/b/user/g.desktop"⟩ := by decide +kernel
    exact hread (congrArg (fun r : Registry => r.files.readText ⟨"a/b/user/g.desktop"⟩) heq)
  · exact (Reachable.fresh _ _).foldl fun _ _ => trivial

end Registry

end Autostart
