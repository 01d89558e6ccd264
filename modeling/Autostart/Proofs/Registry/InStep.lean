import Autostart.Proofs.Registry.Backing

/-!
# Launchers in step with their files

A run is watched for the launcher of one name: other programs rewrite files, the registry is told of
changes, launchers are edited and saved. A save stores the changes in whatever its base says at that
time, and a report of a change that comes while changes wait, or right after an own write, loads
nothing. So the written file says of the changed fields what the launcher holds, and of everything
else what the base said. Both are the same when no change to the base was missed: after each of them
the launcher was made anew by a report.
-/

namespace Autostart.Registry

/-- What the registry itself does in a watched run. What is edited can be stored, and leaves a name
to show. -/
def Action.IsOwn : Action → Prop
  | .scan | .fileChanged _ | .setHidden _ _ | .delete _ => True
  | .flush _ | .runDueSaves | .advance _ => True
  | .update key name? comment? exec? delay =>
    Text.isMissing name? = false ∧ (Action.update key name? comment? exec? delay).IsStorable
  | _ => False

/-- What happens in a watched run: what the registry does, and changes of other programs. -/
def Action.IsWatched (a : Action) : Prop :=
  a.IsOwn ∨ ∃ files, a = .outside files

/-- What happens in a watched run loads files only where the search path places them. -/
theorem Action.IsWatched.isPlaced {a : Action} (h : a.IsWatched) : a.IsPlaced := by
  rcases h with h | ⟨files, rfl⟩
  · cases a <;> first | exact h | trivial
  · trivial

/-- What is edited in a watched run can be stored. -/
theorem Action.IsWatched.isStorable {a : Action} (h : a.IsWatched) : a.IsStorable := by
  rcases h with h | ⟨files, rfl⟩
  · cases a <;> first | exact h.2 | exact h.elim | trivial
  · trivial

/-- A launcher without changes has no changed name. -/
theorem isNamed_of_clean {e : Entry} (h : e.dirty = .none) : e.IsNamed := by
  intro hdirty
  rw [h] at hdirty
  cases hdirty

/-- A due save leaves a changed name. -/
theorem isNamed_schedule {e : Entry} (h : e.IsNamed) (s : SearchPath) (due : Nat) :
    (e.schedule s due).IsNamed := by
  obtain ⟨-, hsame, htext⟩ := e.schedule_spec s due
  have hname : (e.schedule s due).name? = e.name? := htext .name
  intro hdirty
  rw [hname]
  exact h (hsame ▸ hdirty)

/-- An edit with a name to show leaves one. -/
theorem isNamed_edited {e : Entry} (h : e.IsNamed) {name? : Option String}
    (hname : Text.isMissing name? = false) (comment? exec? : Option String) (delay : Nat) :
    (edited e name? comment? exec? delay).describeAnew.IsNamed := by
  intro hdirty
  have hdirty' : (edited e name? comment? exec? delay).dirty.contains .name = true := hdirty
  have htext : (edited e name? comment? exec? delay).name? = _ :=
    Entry.text?_edited e name? comment? exec? delay .name
  show Text.isMissing (edited e name? comment? exec? delay).name? = false
  rw [Entry.contains_edited] at hdirty'
  rw [htext]
  split
  · exact hname
  · next hsame =>
    rw [Bool.eq_false_iff.2 hsame, Bool.false_or] at hdirty'
    exact h hdirty'

/-- Changes in a watched run leave names to show. -/
theorem isNamed_of_change {settings : Settings} {a : Action} {key : String}
    {before? after? : Option Entry} (ok : a.IsWatched)
    (hchange : Change settings a key before? after?) (h : ∀ e, before? = some e → e.IsNamed) :
    ∀ e, after? = some e → e.IsNamed := by
  intro e' he'
  cases hchange with
  | dropped => cases he'
  | made =>
    cases he'
    exact isNamed_of_clean rfl
  | command before? request path due isFileName action =>
    -- No launcher is made from a command line in a watched run.
    subst action
    rcases ok with ok | ⟨files, hfiles⟩
    · exact ok.elim
    · cases hfiles
  | edited e name? comment? exec? delay due action differs =>
    cases he'
    subst action
    rcases ok with ok | ⟨files, hfiles⟩
    · exact isNamed_schedule (isNamed_edited (h e rfl) ok.1 comment? exec? delay) _ due
    · cases hfiles
  | switched e hidden due =>
    cases he'
    refine isNamed_schedule (e := { e with hidden, dirty := e.dirty.insert .hidden })
      (fun hdirty => h e rfl ?_) _ due
    have hdirty' : (e.dirty.insert .hidden).contains .name = true := hdirty
    simpa [FieldSet.contains_insert] using hdirty'
  | shadowed e =>
    cases he'
    exact h e rfl
  | reported e =>
    cases he'
    exact h e rfl
  | undue e =>
    cases he'
    exact h e rfl
  | saved e =>
    cases he'
    exact isNamed_of_clean rfl
  | back e =>
    cases he'
    exact isNamed_of_clean rfl

/-- Other programs rewrite files: the files of a name stay tidy, and what could be read still
can. -/
structure Rewrites (settings : Settings) (name : String) (fs fs' : FileStore) : Prop where
  /-- Relative paths start at the same place. -/
  workingDirectory_eq : fs'.workingDirectory = fs.workingDirectory
  /-- The files of the name are tidy. -/
  tidy : Tidy settings name fs'
  /-- What could be read still can. -/
  readable : ∀ rank p d, settings.searchPath.Places rank name p → Document.load fs p = .ok d →
    ∃ d', Document.load fs' p = .ok d'

/-- Setting the text of a file to that of a fit document is a rewrite. -/
theorem Rewrites.set {settings : Settings} {name : String} {fs : FileStore}
    (h : Tidy settings name fs) {loc : Location} {c : Content}
    (hfile : fs.node? loc = some (.file c)) {s : String} {d : Document}
    (hparse : Document.parse s = .ok d) (hfit : d.Fit settings.locale?) :
    Rewrites settings name fs (fs.set loc (.file (.text s))) := by
  have hkeeps : fs.Keeps (fs.set loc (.file (.text s))) loc :=
    FileStore.keeps_set (by simp [hfile]) _
  have hroot : loc ≠ [] := by
    rintro rfl
    cases hfile
  refine ⟨rfl, h.of_keeps hkeeps fun s' d' hnode hparse' => ?_, fun rank p d' _ hload => ?_⟩
  · rw [FileStore.node?_set_self hroot] at hnode
    obtain rfl : s = s' := by simpa using hnode
    obtain rfl := Except.ok.inj (hparse.symm.trans hparse')
    exact hfit
  · by_cases hloc : fs.locationOf p = loc
    · obtain ⟨text, hread, -⟩ := Document.load_eq_ok_iff.1 hload
      rw [← hloc]
      exact ⟨d, Document.load_eq_ok_iff.2 ⟨s, FileStore.readText_set hread s, hparse⟩⟩
    · exact ⟨d', Document.load_of_keeps hkeeps hload hloc⟩

/-- The registries that a run leads to which is watched for the launcher of a name, and whether the
launcher has `kept` up with its base: no document of the base was missed since the launcher was made
anew by a report of a change. -/
inductive Watched (settings : Settings) (name : String) : Bool → Registry → Prop where
  /-- A run starts with a registry that knows no launcher. -/
  | fresh (files : FileStore) (now : Nat) (tidy : Tidy settings name files)
      (apart : files.IsApart settings.searchPath) :
      Watched settings name true (Registry.fresh settings files now)
  /-- What the registry does keeps up. -/
  | own (kept : Bool) (r : Registry) (a : Action) (watched : Watched settings name kept r)
      (ok : a.IsOwn) : Watched settings name kept (r.perform a)
  /-- A launcher that was made anew by a report of a change has kept up. -/
  | reloaded (kept : Bool) (r : Registry) (path : Path) (e : Entry)
      (watched : Watched settings name kept r) (made : (r.fileChanged path).1 = some e)
      (filename_eq : e.filename = name) :
      Watched settings name true (r.perform (.fileChanged path))
  /-- A rewrite that leaves the document of the base keeps up. -/
  | spared (kept : Bool) (r : Registry) (files : FileStore)
      (watched : Watched settings name kept r) (rewrites : Rewrites settings name r.files files)
      (same : ∀ e, r.find? name = some e →
        Document.load files (mergeBase e) = Document.load r.files (mergeBase e)) :
      Watched settings name kept (r.perform (.outside files))
  /-- Any other rewrite does not. -/
  | rewritten (kept : Bool) (r : Registry) (files : FileStore)
      (watched : Watched settings name kept r) (rewrites : Rewrites settings name r.files files) :
      Watched settings name false (r.perform (.outside files))

namespace Watched

variable {settings : Settings} {name : String} {kept : Bool} {r : Registry}

/-- A watched run is a run. -/
theorem reachable (h : Watched settings name kept r) :
    Reachable Action.IsWatched settings r := by
  induction h with
  | fresh files now => exact .fresh files now
  | own kept r a _ ok ih => exact .step r a ih (.inl ok)
  | reloaded kept r path e _ _ _ ih => exact .step r _ ih (.inl trivial)
  | spared kept r files _ _ _ ih => exact .step r _ ih (.inr ⟨files, rfl⟩)
  | rewritten kept r files _ _ ih => exact .step r _ ih (.inr ⟨files, rfl⟩)

end Watched

section Reachable

variable {settings : Settings} {name : String} {kept : Bool} {r : Registry}

/-- A changed name in a watched run is one to show. -/
theorem Reachable.isNamed (h : Reachable Action.IsWatched settings r) {key : String} {e : Entry}
    (hfind : r.find? key = some e) : e.IsNamed :=
  h.entry_invariant (P := fun _ e => e.IsNamed)
    (fun _ _ _ _ ok hchange => isNamed_of_change ok hchange) hfind

/-- Every launcher of a watched run fits together. -/
theorem Reachable.inSync_of_isWatched (h : Reachable Action.IsWatched settings r) :
    InSync settings r :=
  h.inSync fun _ ok => ok.isPlaced

/-- A save in a watched run leaves a launcher backed. -/
theorem Backed.flush_of_reachable (h : Backed settings name kept r)
    (hlocale : Locale.IsStorable settings.locale?) (hname : Path.IsFileName name)
    (hreachable : Reachable Action.IsWatched settings r) (key : String) :
    Backed settings name kept (r.flush key).2 :=
  h.flush hlocale hreachable.inSync_of_isWatched hname
    (fun _ hfind => hreachable.isFileName hfind)
    (fun _ hfind => hreachable.storable (fun _ ok => ok.isStorable) hfind)
    (fun _ hfind => hreachable.isNamed hfind)

/-- Saves one after the other in a watched run leave a launcher backed. -/
theorem Backed.flushEach (h : Backed settings name kept r)
    (hlocale : Locale.IsStorable settings.locale?) (hname : Path.IsFileName name)
    (hreachable : Reachable Action.IsWatched settings r) (keys : List String) :
    Backed settings name kept (r.flushEach keys).2 := by
  -- Each save is one more action of the run, so the next one starts from a run too.
  have hboth := flushEach_invariant
    (P := fun r' => Reachable Action.IsWatched settings r' ∧ Backed settings name kept r')
    ⟨hreachable, h⟩ (fun r' key h' => ⟨.step r' (.flush key) h'.1 (.inl trivial),
      h'.2.flush_of_reachable hlocale hname h'.1 key⟩) keys
  exact hboth.2

/-- What the registry does in a watched run leaves a launcher backed. -/
theorem Backed.perform (h : Backed settings name kept r)
    (hlocale : Locale.IsStorable settings.locale?) (hname : Path.IsFileName name)
    (hreachable : Reachable Action.IsWatched settings r) {a : Action} (ok : a.IsOwn) :
    Backed settings name kept (r.perform a) := by
  cases a with
  | scan => exact h.scan
  | fileChanged path => exact h.fileChanged path
  | update key name? comment? exec? delay => exact h.update key name? comment? exec? delay
  | setHidden key hidden => exact h.setHidden key hidden
  | delete key =>
    exact h.delete hreachable.inSync_of_isWatched hname fun _ hfind => hreachable.isFileName hfind
  | flush key => exact h.flush_of_reachable hlocale hname hreachable key
  | runDueSaves => exact h.flushEach hlocale hname hreachable _
  | advance milliseconds => exact h.of_find? rfl rfl rfl
  | load => exact ok.elim
  | fileRemoved => exact ok.elim
  | create => exact ok.elim
  | copyFrom => exact ok.elim
  | close => exact ok.elim
  | shutdown => exact ok.elim
  | subscribe => exact ok.elim
  | unsubscribe => exact ok.elim
  | outside => exact ok.elim

/-- A report of a change that makes the launcher of the name anew leaves it with the document of its
base. -/
theorem Backed.reloaded (h : Backed settings name kept r) {path : Path} {e : Entry}
    (hmade : (r.fileChanged path).1 = some e) (hfilename : e.filename = name) :
    Backed settings name true (r.fileChanged path).2 := by
  unfold Registry.fileChanged at hmade ⊢
  split at hmade
  · next hlauncher =>
    rw [if_pos hlauncher]
    split at hmade
    · next rank hrank =>
      obtain ⟨key, d, event, hkey, hreads, rfl, hafter⟩ :=
        loaded_of_load (Prod.ext hmade rfl : r.load path rank = (some e, (r.load path rank).2))
      -- What was made has the file name of the report, and this is the watched one.
      obtain rfl : key = name := hfilename
      have hplaces : settings.searchPath.Places rank key path := by
        rw [← h.settings_eq]
        exact SearchPath.places_of_rankOf? hrank hkey
      rw [hafter]
      exact (h.made hplaces hreads).tell event
    · cases hmade
  · cases hmade

end Reachable

/-- At every point of a watched run the launcher is backed. -/
theorem Watched.backed {settings : Settings} {name : String} {kept : Bool} {r : Registry}
    (h : Watched settings name kept r) (hlocale : Locale.IsStorable settings.locale?)
    (hname : Path.IsFileName name) : Backed settings name kept r := by
  induction h with
  | fresh files now tidy apart => exact ⟨rfl, apart, tidy, fun e he => by cases he⟩
  | own kept r a watched ok ih => exact ih.perform hlocale hname watched.reachable ok
  | reloaded kept r path e watched made filename_eq ih => exact ih.reloaded made filename_eq
  | spared kept r files watched rewrites same ih =>
    refine ⟨ih.settings_eq, isApart_congr ih.apart rewrites.workingDirectory_eq, rewrites.tidy,
      fun e he => ?_⟩
    -- The document of the base is the one that the launcher followed.
    obtain ⟨d, hload, hkept⟩ := ih.backed e he
    exact ⟨d, (same e he).trans hload, hkept⟩
  | rewritten kept r files watched rewrites ih =>
    -- The base can still be read, but says anything now.
    refine ⟨ih.settings_eq, isApart_congr ih.apart rewrites.workingDirectory_eq, rewrites.tidy,
      fun e he => ?_⟩
    obtain ⟨d, hload, -⟩ := ih.backed e he
    obtain ⟨rank, hplaces⟩ :=
      places_mergeBase (watched.reachable.inSync_of_isWatched.sound name e he)
    obtain ⟨d', hload'⟩ := rewrites.readable rank _ d hplaces hload
    exact ⟨d', hload', fun hk => by cases hk⟩

/-- A launcher is compared with one whose changes were saved as with the same before. -/
theorem sameOn_saved_iff (e e' : Entry) (f : Field) :
    e'.SameOn (saved (undue e)) f ↔ e'.SameOn e f := by
  cases f <;> exact Iff.rfl

/-- When a save in a watched run writes, its base could be read, and the launcher made anew from the
written file has the changed fields of the launcher in memory, and all else of the launcher made
from the base. So it is the launcher in memory, in every field and the icon, exactly when this one
followed the base, and it always is when the launcher has kept up with its base. -/
theorem reread_of_written {settings : Settings} {name : String} {kept : Bool} {r : Registry}
    (h : Watched settings name kept r) (hlocale : Locale.IsStorable settings.locale?) {e : Entry}
    (hfind : r.find? name = some e) (hwritten : (r.flush name).1 = .ok .written) :
    ∃ base d held reread,
      Document.load r.files (mergeBase e) = .ok base ∧
      Document.load (r.flush name).2.files e.source = .ok d ∧
      (r.flush name).2.find? name = some held ∧
      reread = Entry.ofDocument name e.source d settings.locale? SearchPath.userRank ∧
      (∀ f, e.dirty.contains f = true → reread.SameOn held f) ∧
      (∀ f, e.dirty.contains f = false → reread.SameOn
        (Entry.ofDocument name e.source base settings.locale? SearchPath.userRank) f) ∧
      reread.SameIcon
        (Entry.ofDocument name e.source base settings.locale? SearchPath.userRank) ∧
      ((∀ f, reread.SameOn held f) ∧ reread.SameIcon held ↔ e.Follows base settings.locale?) ∧
      (kept = true → (∀ f, reread.SameOn held f) ∧ reread.SameIcon held) := by
  have hreachable := h.reachable
  have hname := hreachable.isFileName hfind
  have hbacked := h.backed hlocale hname
  have hstorable : e.Storable := hreachable.storable (fun _ ok => ok.isStorable) hfind
  obtain ⟨base, hload, hkept⟩ := hbacked.backed e hfind
  obtain ⟨rank, hplaces⟩ := places_mergeBase (hreachable.inSync_of_isWatched.sound name e hfind)
  have hfit := hbacked.tidy.fit_of_load hplaces hload
  have hstable := hbacked.tidy.stable_of_load hplaces hload
  have hmerged := hstorable.fit_mergeInto hlocale (hreachable.isNamed hfind) hfit hstable
  -- The written text is that of the merged document, which comes back when it is read.
  obtain ⟨files, hwrite, hafter⟩ := flush_of_written hfind hwritten
  rw [merged_of_load_eq_ok hload, hbacked.settings_eq] at hwrite
  have hreload := load_of_writeUser hwrite
    (hstorable.stable_mergeInto hstable hlocale).parse_text
  have hheld : (r.flush name).2.find? name = some (saved (undue e)) := by
    rw [hafter, find?_set, if_pos rfl]
  have hsame := Entry.same_reread_iff name e.source SearchPath.userRank hstorable.delay_le hmerged
  have hsaved : ∀ e' : Entry, (∀ f, e'.SameOn (saved (undue e)) f) ∧
      e'.SameIcon (saved (undue e)) ↔ (∀ f, e'.SameOn e f) ∧ e'.SameIcon e := fun e' =>
    and_congr (forall_congr' (sameOn_saved_iff e e')) Iff.rfl
  refine ⟨base, _, _, _, hload, hafter ▸ hreload, hheld, rfl, fun f hf => ?_, fun f hf => ?_,
    Entry.sameIcon_reread _ _ _, (hsaved _).trans hsame,
    fun hk => (hsaved _).2 (hsame.2 (hkept hk))⟩
  · rw [sameOn_saved_iff]
    exact Entry.sameOn_reread_of_dirty _ _ _ hstorable.delay_le hmerged hf
  · exact Entry.sameOn_reread_of_clean _ _ _ hfit hmerged hf

/-! ## Two runs -/

/-- The text of the launcher of the user after another program changed its command line. -/
def rewrittenText : String :=
  "[Desktop Entry]\nName=A\nExec=b\n"

/-- The files after another program changed the command line of the launcher. -/
def oneRewrittenLauncher : FileStore :=
  oneUserLauncher.set ["user", "a.desktop"] (.file (.text rewrittenText))

/-- A run in which the change of another program is loaded before the launcher is switched off. -/
def reloadedBeforeSave : Registry :=
  [.scan, .outside oneRewrittenLauncher, .fileChanged ⟨"user/a.desktop"⟩,
    .setHidden "a.desktop" true].foldl perform (fresh userDirectoryOnly oneUserLauncher 0)

/-- A run in which another program changes the command line, and the registry is told of it, when
the launcher was switched off and waits for its save. -/
def rewrittenBeforeSave : Registry :=
  [.scan, .setHidden "a.desktop" true, .outside oneRewrittenLauncher,
    .fileChanged ⟨"user/a.desktop"⟩].foldl perform (fresh userDirectoryOnly oneUserLauncher 0)

/-- The only file of the user is tidy. -/
theorem tidy_oneUserLauncher : Tidy userDirectoryOnly "a.desktop" oneUserLauncher := by
  intro rank p s d hplaces hnode hparse
  have hname : Path.IsFileName "a.desktop" := ⟨by decide, rfl⟩
  obtain ⟨dir, hdir, hp⟩ := oneUserLauncher.locationOf_of_places hname hplaces
  obtain rfl : dir = ⟨"user"⟩ := List.mem_singleton.1 (List.mem_of_getElem? hdir)
  have hlocation : oneUserLauncher.locationOf p = ["user", "a.desktop"] := hp
  rw [hlocation] at hnode
  obtain rfl : "[Desktop Entry]\nName=A\nExec=a\n" = s := by
    simpa using (Option.some.inj hnode : _)
  obtain rfl := Except.ok.inj hparse
  exact ⟨rfl, by decide⟩

/-- The changed file is one that another program may leave. -/
theorem rewrites_oneRewrittenLauncher :
    Rewrites userDirectoryOnly "a.desktop" oneUserLauncher oneRewrittenLauncher :=
  .set tidy_oneUserLauncher rfl rfl ⟨rfl, by decide⟩

/-- A run on the only file of the user is watched from its scan on. -/
theorem watched_scan :
    Watched userDirectoryOnly "a.desktop" true
      ((fresh userDirectoryOnly oneUserLauncher 0).perform .scan) := by
  refine .own _ _ .scan (.fresh oneUserLauncher 0 tidy_oneUserLauncher fun dir hdir hother => ?_)
    trivial
  obtain rfl : dir = ⟨"user"⟩ := List.mem_singleton.1 hdir
  cases hother

/-- After the change was loaded the launcher has kept up with its base. -/
theorem watched_reloadedBeforeSave :
    Watched userDirectoryOnly "a.desktop" true reloadedBeforeSave :=
  .own _ _ (.setHidden "a.desktop" true)
    (.reloaded _ _ ⟨"user/a.desktop"⟩ _
      (.rewritten _ _ oneRewrittenLauncher watched_scan rewrites_oneRewrittenLauncher) rfl rfl)
    trivial

/-- A report that comes while the launcher waits for its save does not make it keep up. -/
theorem watched_rewrittenBeforeSave :
    Watched userDirectoryOnly "a.desktop" false rewrittenBeforeSave :=
  .own _ _ (.fileChanged ⟨"user/a.desktop"⟩)
    (.rewritten _ _ oneRewrittenLauncher
      (.own _ _ (.setHidden "a.desktop" true) watched_scan trivial)
      rewrites_oneRewrittenLauncher)
    trivial

/-- When the change was loaded before, the written file holds the command line of the launcher. -/
theorem exec_reread_reloadedBeforeSave :
    ∃ held reread : Entry,
      (reloadedBeforeSave.flush "a.desktop").2.find? "a.desktop" = some held ∧
      held.hidden = true ∧ held.exec? = some "b" ∧
      reread.SameOn held .hidden ∧ reread.SameOn held .exec := by
  have hfind : reloadedBeforeSave.find? "a.desktop" = some _ := rfl
  obtain ⟨-, -, held, reread, -, -, hheld, -, -, -, -, -, hkept⟩ :=
    reread_of_written watched_reloadedBeforeSave (fun l hl => by cases hl) hfind rfl
  obtain rfl := Option.some.inj (hheld.symm.trans rfl)
  exact ⟨_, reread, rfl, rfl, rfl, (hkept rfl).1 .hidden, (hkept rfl).1 .exec⟩

/-- When the report of the change came while the launcher waited for its save, the written file
holds the command line of the other program, and the launcher in memory the old one. -/
theorem exec_stale_rewrittenBeforeSave :
    ∃ e base d held, Watched userDirectoryOnly "a.desktop" false rewrittenBeforeSave ∧
      rewrittenBeforeSave.find? "a.desktop" = some e ∧
      Document.load rewrittenBeforeSave.files (mergeBase e) = .ok base ∧ base.Fit none ∧
      Entry.isLaunchable base userDirectoryOnly.desktops = true ∧
      (rewrittenBeforeSave.flush "a.desktop").1 = .ok .written ∧
      Document.load (rewrittenBeforeSave.flush "a.desktop").2.files e.source = .ok d ∧
      (rewrittenBeforeSave.flush "a.desktop").2.find? "a.desktop" = some held ∧
      held.exec? = some "a" ∧
      (Entry.ofDocument "a.desktop" e.source d none SearchPath.userRank).exec? = some "b" ∧
      ¬ (Entry.ofDocument "a.desktop" e.source d none SearchPath.userRank).SameOn held .exec :=
  ⟨_, _, _, _, watched_rewrittenBeforeSave, rfl, rfl, ⟨rfl, by decide⟩, rfl, rfl, rfl, rfl, rfl,
    rfl, fun h => by cases h⟩

end Autostart.Registry
