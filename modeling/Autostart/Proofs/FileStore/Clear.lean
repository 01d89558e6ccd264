import Autostart.Proofs.FileStore.Touching

/-!
# Clear places

A place is clear for a file when no file stands there that one could be put in place of. A path that
leads nowhere from a directory that is there is clear, and it stays so as long as no file appears at
its place. The system does not take every path, so a file that no path leads to is in no danger
either.
-/

namespace Autostart

namespace FileStore

variable {fs fs' : FileStore} {p dir : Path} {name : String} {touched : Location → Prop}

/-- Every file is still there, with what it holds. -/
def KeepsFiles (fs fs' : FileStore) : Prop :=
  ∀ l c, fs.node? l = some (.file c) → fs'.node? l = some (.file c)

/-- A change where no file stands keeps every file. -/
theorem Touches.keepsFiles (h : Touches fs fs' p touched)
    (hfree : ∀ l, touched l → ∀ c, fs.node? l ≠ some (.file c)) : fs.KeepsFiles fs' :=
  fun l c hc => (h.file_iff l c fun ht => hfree l ht c hc).2 hc

/-- No file stands at the place of a path, or it is a path that leads to no place in any store. -/
def IsClear (fs : FileStore) (p : Path) : Prop :=
  (∀ c, fs.node? (fs.locationOf p) ≠ some (.file c)) ∨ ∀ fs' : FileStore, ¬fs'.Leads p

/-- A path stays clear when no file appears at its place. -/
theorem IsClear.of_file (h : fs.IsClear p)
    (hworking : fs'.workingDirectory = fs.workingDirectory)
    (hfile : ∀ c, fs'.node? (fs.locationOf p) = some (.file c) →
      fs.node? (fs.locationOf p) = some (.file c)) : fs'.IsClear p := by
  rcases h with hnone | hnowhere
  · refine .inl fun c hc => ?_
    rw [locationOf_congr hworking] at hc
    exact hnone c (hfile c hc)
  · exact .inr hnowhere

/-- A path stays clear when its place is not touched. -/
theorem IsClear.touches (h : fs.IsClear p) {q : Path} (htouches : Touches fs fs' q touched)
    (huntouched : ¬touched (fs.locationOf p)) : fs'.IsClear p :=
  h.of_file htouches.workingDirectory_eq fun c => (htouches.file_iff _ c huntouched).1

/-- No file stands at the place of a clear path that leads there. -/
theorem IsClear.node?_ne (h : fs.IsClear p) (hleads : fs'.Leads p) (c : Content) :
    fs.node? (fs.locationOf p) ≠ some (.file c) := by
  rcases h with hnone | hnowhere
  · exact hnone c
  · exact absurd hleads (hnowhere fs')

/-- The path of a file in a directory is clear when the directory is there and the path leads
nowhere. -/
theorem isClear_of_missing (hname : Path.IsFileName name) (hdir : fs.isDirectory dir = true)
    (hmissing : fs.existsAt (dir.join name) = false) : fs.IsClear (dir.join name) := by
  by_contra hclear
  obtain ⟨hfile, hsomewhere⟩ := not_or.1 hclear
  push Not at hfile hsomewhere
  obtain ⟨c, hc⟩ := hfile
  obtain ⟨fs', route, hroute, hplain, hwalk'⟩ := hsomewhere
  obtain ⟨l, hstat⟩ := isDirectory_iff.1 hdir
  obtain ⟨dirRoute, hdirRoute, hdirWalk, hdirNode, -⟩ := stat_eq_ok_iff.1 hstat
  -- The route of the path is that of the directory with a step to the name, which is not too long.
  have hcomponents := Path.components_join dir hname
  obtain ⟨hdirStart, hdirSteps⟩ := fs.route?_spec (routeOf_eq_ok_iff.1 hdirRoute).2.2
  obtain ⟨hstart, hsteps⟩ := fs.route?_spec (routeOf_eq_ok_iff.1 hroute).2.2
  rw [hcomponents, startOf_concat, ← hdirStart] at hstart
  rw [hcomponents, List.filterMap_append, ← hdirSteps] at hsteps
  have hsteps : route.steps = dirRoute.steps ++ [.into name] := hsteps
  have hsize : ¬maxNameBytes < name.utf8ByteSize := by
    rw [hsteps] at hwalk'
    obtain ⟨led, -, hlast⟩ := walk_append_eq_ok_iff.1 hwalk'
    exact of_decide_eq_false (walk_cons_eq_ok_iff.1 hlast).2.1
  have hwalk : fs.walk (fs.start route) route.steps = .ok (l ++ [name]) := by
    rw [hstart, hsteps]
    exact walk_concat hdirWalk hdirNode hsize
  rw [locationOf_of_walk hroute hwalk] at hc
  have hthere := stat_eq_ok_iff.2 ⟨route, hroute, hwalk, hc, .inr hplain⟩
  unfold existsAt at hmissing
  rw [hthere] at hmissing
  cases hmissing

/-- A path at which a file is removed leads to its place. -/
theorem leads_of_removeFile (h : fs.removeFile p = .ok fs') : fs.Leads p := by
  refine leads_of_isFile (isFile_iff.2 ?_)
  unfold removeFile at h
  obtain ⟨⟨l, n⟩, hstat, hremoved⟩ := bind_eq_ok_iff.1 h
  cases n with
  | directory => cases hremoved
  | file content => exact ⟨l, content, hstat⟩

/-- The location of a path with a file name ends with the name. -/
theorem exists_locationOf_of_fileName? (fs : FileStore) (h : p.fileName? = some name) :
    ∃ loc, fs.locationOf p = loc ++ [name] := by
  unfold Path.fileName? at h
  split at h
  · next last hlast =>
    obtain rfl := Option.some.inj h
    obtain ⟨before, hbefore⟩ := List.getLast?_eq_some_iff.1 hlast
    refine ⟨target (fs.startOf p.components) (before.filterMap Path.Component.step?), ?_⟩
    rw [locationOf_eq, hbefore, List.filterMap_append]
    exact target_concat _ _ last
  · cases h

end FileStore

end Autostart
