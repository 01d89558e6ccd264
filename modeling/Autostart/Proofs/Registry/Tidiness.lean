import Autostart.Proofs.Entry.Comparing
import Autostart.Proofs.FileStore.Reaching
import Autostart.Registry.Editing

/-!
# Tidy files

The files of a name are tidy when every document among them is fit to speak for a launcher. What
counts is what stands at their places, whether or not a path leads there yet, so making directories
on the way to another file changes nothing.
-/

namespace Autostart

namespace Document

/-- The document of a file is the one that its text reads as. -/
theorem load_eq_ok_iff {fs : FileStore} {p : Path} {d : Document} :
    load fs p = .ok d ↔ ∃ s, fs.readText p = .ok s ∧ parse s = .ok d := by
  unfold load
  rcases fs.readText p with error | s
  · simp
  · rcases hparse : parse s with fault | d'
    · simp [hparse]
    · simp [hparse]

/-- The document of a file stands at its location. -/
theorem node?_of_load {fs : FileStore} {p : Path} {d : Document} (h : load fs p = .ok d) :
    ∃ s, fs.node? (fs.locationOf p) = some (.file (.text s)) ∧ parse s = .ok d := by
  obtain ⟨s, hread, hparse⟩ := load_eq_ok_iff.1 h
  obtain ⟨l, hstat⟩ := FileStore.readText_eq_ok_iff.1 hread
  obtain ⟨-, -, -, hnode, -⟩ := FileStore.stat_eq_ok_iff.1 hstat
  rw [← FileStore.locationOf_of_stat hstat] at hnode
  exact ⟨s, hnode, hparse⟩

/-- The document of a file at another place than the change is kept. -/
theorem load_of_keeps {fs fs' : FileStore} {loc : Location} (h : fs.Keeps fs' loc) {p : Path}
    {d : Document} (hload : load fs p = .ok d) (hne : fs.locationOf p ≠ loc) :
    load fs' p = .ok d := by
  obtain ⟨s, hread, hparse⟩ := load_eq_ok_iff.1 hload
  exact load_eq_ok_iff.2 ⟨s, h.readText hread hne, hparse⟩

end Document

namespace Registry

/-- Whatever document stands at the place of a file of a name is fit to speak for a launcher. -/
def Tidy (settings : Settings) (name : String) (fs : FileStore) : Prop :=
  ∀ rank p s d, settings.searchPath.Places rank name p →
    fs.node? (fs.locationOf p) = some (.file (.text s)) → Document.parse s = .ok d →
    d.Fit settings.locale?

namespace Tidy

variable {settings : Settings} {name : String} {fs fs' : FileStore}

/-- A document of a file of the name is fit. -/
theorem fit_of_load (h : Tidy settings name fs) {rank : Nat} {p : Path}
    (hplaces : settings.searchPath.Places rank name p) {d : Document}
    (hload : Document.load fs p = .ok d) : d.Fit settings.locale? := by
  obtain ⟨s, hnode, hparse⟩ := Document.node?_of_load hload
  exact h rank p s d hplaces hnode hparse

/-- A document of a file of the name comes back from its text. -/
theorem stable_of_load (h : Tidy settings name fs) {rank : Nat} {p : Path}
    (hplaces : settings.searchPath.Places rank name p) {d : Document}
    (hload : Document.load fs p = .ok d) : d.Stable := by
  obtain ⟨s, hnode, hparse⟩ := Document.node?_of_load hload
  exact (h rank p s d hplaces hnode hparse).stable hparse

/-- Files stay tidy when nothing but a fit document appears at the place of a change. -/
theorem of_keeps (h : Tidy settings name fs) {loc : Location} (hkeeps : fs.Keeps fs' loc)
    (hfit : ∀ s d, fs'.node? loc = some (.file (.text s)) → Document.parse s = .ok d →
      d.Fit settings.locale?) : Tidy settings name fs' := by
  intro rank p s d hplaces hnode hparse
  rw [FileStore.locationOf_congr hkeeps.workingDirectory_eq] at hnode
  by_cases hloc : fs.locationOf p = loc
  · rw [hloc] at hnode
    exact hfit s d hnode hparse
  · exact h rank p s d hplaces (hkeeps.node?_of_file _ _ hnode hloc) hparse

/-- Files stay tidy when the change is at no place of a file of the name. -/
theorem of_keeps_elsewhere (h : Tidy settings name fs) {loc : Location}
    (hkeeps : fs.Keeps fs' loc)
    (hloc : ∀ rank p, settings.searchPath.Places rank name p → fs.locationOf p ≠ loc) :
    Tidy settings name fs' := by
  intro rank p s d hplaces hnode hparse
  rw [FileStore.locationOf_congr hkeeps.workingDirectory_eq] at hnode
  exact h rank p s d hplaces (hkeeps.node?_of_file _ _ hnode (hloc rank p hplaces)) hparse

end Tidy

/-- The store without a file keeps everything else, and has nothing at its place but what is no
file. -/
theorem withoutFile_spec {fs fs' : FileStore} {p : Path} (h : withoutFile fs p = .ok fs') :
    fs.Keeps fs' (fs.locationOf p) ∧
      ∀ c, fs'.node? (fs.locationOf p) = some (.file c) →
        fs.node? (fs.locationOf p) = some (.file c) := by
  unfold withoutFile at h
  split at h
  · next removed hremoved =>
    obtain rfl := Except.ok.inj h
    obtain ⟨content, -, -, hafter⟩ := FileStore.removeFile_spec hremoved
    refine ⟨FileStore.keeps_removeFile hremoved, fun c hc => ?_⟩
    rw [hafter, if_pos rfl] at hc
    cases hc
  · obtain rfl := Except.ok.inj h
    exact ⟨.refl fs _, fun c hc => hc⟩
  · cases h

/-- No path leads to a file that was taken away. -/
theorem isFile_of_withoutFile {fs fs' : FileStore} {p : Path} (h : withoutFile fs p = .ok fs') :
    fs'.isFile p = false := by
  refine Bool.eq_false_iff.2 fun hfile => ?_
  obtain ⟨l, content, hstat⟩ := FileStore.isFile_iff.1 hfile
  unfold withoutFile at h
  split at h
  · next removed hremoved =>
    obtain rfl := Except.ok.inj h
    obtain ⟨-, -, hworking, hafter⟩ := FileStore.removeFile_spec hremoved
    obtain ⟨-, -, -, hnode, -⟩ := FileStore.stat_eq_ok_iff.1 hstat
    rw [← FileStore.locationOf_of_stat hstat, FileStore.locationOf_congr hworking, hafter,
      if_pos rfl] at hnode
    cases hnode
  · next hmissing =>
    obtain rfl := Except.ok.inj h
    unfold FileStore.removeFile at hmissing
    rw [hstat] at hmissing
    cases hmissing
  · cases h

/-- What a path leads to without a file it led to before. -/
theorem stat_of_withoutFile {fs fs' : FileStore} {p q : Path} (h : withoutFile fs p = .ok fs')
    {l : Location} {c : Content} (hstat : fs'.stat q = .ok (l, .file c)) :
    fs.stat q = .ok (l, .file c) := by
  unfold withoutFile at h
  split at h
  · next removed hremoved =>
    obtain rfl := Except.ok.inj h
    refine (FileStore.keeps_of_removeFile hremoved).stat hstat fun heq => ?_
    obtain ⟨-, -, -, hafter⟩ := FileStore.removeFile_spec hremoved
    obtain ⟨-, -, -, hnode, -⟩ := FileStore.stat_eq_ok_iff.1 hstat
    rw [hafter, if_pos heq] at hnode
    cases hnode
  · obtain rfl := Except.ok.inj h
    exact hstat
  · cases h

/-- Files stay tidy without one of them. -/
theorem Tidy.withoutFile {settings : Settings} {name : String} {fs fs' : FileStore}
    (h : Tidy settings name fs) {p : Path} (hremoved : withoutFile fs p = .ok fs') :
    Tidy settings name fs' := by
  obtain ⟨hkeeps, hfile⟩ := withoutFile_spec hremoved
  intro rank q s d hplaces hnode hparse
  rw [FileStore.locationOf_congr hkeeps.workingDirectory_eq] at hnode
  -- What still stands at the place of the removed file stood there before.
  by_cases hloc : fs.locationOf q = fs.locationOf p
  · rw [hloc] at hnode
    exact h rank q s d hplaces (hloc ▸ hfile _ hnode) hparse
  · exact h rank q s d hplaces (hkeeps.node?_of_file _ _ hnode hloc) hparse

/-- Files that differ at no place from a search path that is apart leave it apart. -/
theorem isApart_congr {fs fs' : FileStore} {s : SearchPath} (h : fs.IsApart s)
    (hworking : fs'.workingDirectory = fs.workingDirectory) : fs'.IsApart s := by
  intro dir hdir hother
  rw [FileStore.locationOf_congr hworking, FileStore.locationOf_congr hworking]
  exact h dir hdir hother

end Registry

end Autostart
