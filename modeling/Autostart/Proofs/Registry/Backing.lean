import Autostart.Proofs.Registry.Storable
import Autostart.Proofs.Registry.SyncState
import Autostart.Proofs.Registry.Tidiness

/-!
# The document behind a launcher

A launcher is backed by the document of its base, which is the file that its changes will be merged
into. Whatever the registry does itself, it leaves this document in place or puts another one in its
place that backs the launcher as well: it writes and removes files of one name at a time, and files
of different names have different locations.
-/

namespace Autostart.Registry

/-- The base of a save is a file of the name of the launcher. -/
theorem places_mergeBase {s : SearchPath} {key : String} {e : Entry}
    (h : e.Sound s key) : ∃ rank, s.Places rank key (mergeBase e) := by
  unfold mergeBase
  rcases hbase : e.base? with _ | p
  · obtain ⟨rank, -, -, hplaces⟩ := h.placed
    exact ⟨rank, hplaces⟩
  · obtain ⟨-, rank, -, hplaces⟩ := h.base_spec p hbase
    exact ⟨rank, hplaces⟩

/-- The launcher of a name is backed: the files of the name are tidy, its base can be read, and,
when it is `kept`, it follows the document of its base. -/
structure Backed (settings : Settings) (name : String) (kept : Bool) (r : Registry) : Prop where
  /-- The settings are these. -/
  settings_eq : r.settings = settings
  /-- No directory of the system is that of the user under another spelling. -/
  apart : r.files.IsApart settings.searchPath
  /-- The files of the name are tidy. -/
  tidy : Tidy settings name r.files
  /-- The base of the launcher can be read. -/
  backed : ∀ e, r.find? name = some e → ∃ d, Document.load r.files (mergeBase e) = .ok d ∧
    (kept = true → e.Follows d settings.locale?)

namespace Backed

variable {settings : Settings} {name : String} {kept : Bool} {r : Registry}

/-- Only the settings, the files and the launcher of the name matter. -/
theorem of_find? {r' : Registry} (h : Backed settings name kept r)
    (hsettings : r'.settings = r.settings) (hfiles : r'.files = r.files)
    (hfind : r'.find? name = r.find? name) : Backed settings name kept r' := by
  refine ⟨hsettings.trans h.settings_eq, hfiles ▸ h.apart, hfiles ▸ h.tidy, fun e he => ?_⟩
  rw [hfiles]
  exact h.backed e (hfind ▸ he)

/-- A launcher that follows the document of its base is backed in any case. -/
theorem of_true (h : Backed settings name true r) : Backed settings name kept r := by
  refine ⟨h.settings_eq, h.apart, h.tidy, fun e he => ?_⟩
  obtain ⟨d, hload, hkept⟩ := h.backed e he
  exact ⟨d, hload, fun _ => hkept rfl⟩

/-- Observers can be told. -/
theorem tell (h : Backed settings name kept r) (event : Event) :
    Backed settings name kept (r.tell event) :=
  h.of_find? rfl rfl rfl

/-- Any launcher can be dropped. -/
theorem drop (h : Backed settings name kept r) (key : String) :
    Backed settings name kept (r.drop key) := by
  refine ⟨h.settings_eq, h.apart, h.tidy, fun e he => ?_⟩
  rw [find?_drop] at he
  split at he
  · cases he
  · exact h.backed e he

/-- A launcher can be replaced by one with the same base that follows what it follows. -/
theorem set (h : Backed settings name kept r) {key : String} {e e' : Entry}
    (hfind : r.find? key = some e) (hbase : mergeBase e' = mergeBase e)
    (hfollows : ∀ d, e.Follows d settings.locale? → e'.Follows d settings.locale?) :
    Backed settings name kept (r.set key e') := by
  refine ⟨h.settings_eq, h.apart, h.tidy, fun e'' he => ?_⟩
  rw [find?_set] at he
  split at he
  · next heq =>
    obtain rfl := Option.some.inj he
    obtain ⟨d, hload, hkept⟩ := h.backed e (heq ▸ hfind)
    exact ⟨d, hbase ▸ hload, fun hk => hfollows d (hkept hk)⟩
  · exact h.backed e'' he

/-- A change to the files at no place of a file of the name leaves its launcher backed. -/
theorem withFiles (h : Backed settings name kept r) (hsync : InSync settings r) {loc : Location}
    {files : FileStore} (hkeeps : r.files.Keeps files loc)
    (hloc : ∀ rank p, settings.searchPath.Places rank name p → r.files.locationOf p ≠ loc) :
    Backed settings name kept { r with files } := by
  refine ⟨h.settings_eq, isApart_congr h.apart hkeeps.workingDirectory_eq,
    h.tidy.of_keeps_elsewhere hkeeps hloc, fun e he => ?_⟩
  obtain ⟨d, hload, hkept⟩ := h.backed e he
  obtain ⟨rank, hplaces⟩ := places_mergeBase (hsync.sound name e he)
  exact ⟨d, Document.load_of_keeps hkeeps hload (hloc rank _ hplaces), hkept⟩

/-! ## Loading -/

/-- A launcher that was made from a file of the name follows its document. -/
theorem made (h : Backed settings name kept r) {path : Path} {rank : Nat}
    (hplaces : settings.searchPath.Places rank name path) {d : Document} (hreads : r.Reads path d) :
    Backed settings name true (r.set name (r.made path name rank d)) := by
  refine ⟨h.settings_eq, h.apart, h.tidy, fun e he => ?_⟩
  rw [find?_set_self] at he
  obtain rfl := Option.some.inj he
  have hfit := h.tidy.fit_of_load hplaces hreads.1
  have hagrees : ∀ f, (r.made path name rank d).AgreesOn d settings.locale? f := by
    intro f
    have hdocument := Entry.agreesOn_ofDocument hfit.named name path rank f
    rw [← h.settings_eq] at hdocument ⊢
    cases f <;> exact hdocument
  refine ⟨d, hreads.1, fun _ => ⟨fun f _ => hagrees f, ?_⟩⟩
  rw [← h.settings_eq]
  exact (Text.agree_iff _ _).2 rfl

/-- Loading a file leaves a launcher backed. -/
theorem loadStep {r' : Registry} (h : Backed settings name kept r) {path : Path} {key : String}
    {rank : Nat} (hplaces : settings.searchPath.Places rank key path)
    (hstep : LoadStep r path key rank r') : Backed settings name kept r' := by
  cases hstep with
  | nothing => exact h
  | ownWrite e find same own => exact h.set find rfl fun d hd => hd.records _ _ _ _ _ _
  | shadow e find before =>
    unfold Entry.shadowedBy
    split
    · exact h.set find rfl fun d hd => hd.records _ _ _ _ _ _
    · exact h.set find rfl fun d hd => hd
  | loaded d event reads settled =>
    -- The launcher made anew follows its document, whether or not the old one did.
    by_cases hkey : name = key
    · rw [← hkey] at hplaces ⊢
      exact ((h.made hplaces reads).tell event).of_true
    · exact h.of_find? rfl rfl (by simp [hkey])

/-- A scan leaves a launcher backed. -/
theorem scan (h : Backed settings name kept r) : Backed settings name kept r.scan := by
  refine scan_invariant h fun s r' hs h' hstep => ?_
  have hplaces : settings.searchPath.Places s.rank s.name (s.dir.join s.name) := by
    rw [← h.settings_eq]
    exact hs.places
  exact h'.loadStep hplaces hstep

/-- A report of a change leaves a launcher backed. -/
theorem fileChanged (h : Backed settings name kept r) (path : Path) :
    Backed settings name kept (r.fileChanged path).2 := by
  unfold Registry.fileChanged
  split
  · split
    · next rank hrank =>
      rcases hname : path.fileName? with _ | key
      · rw [load_of_fileName?_eq_none hname]
        exact h
      · have hplaces : settings.searchPath.Places rank key path := by
          rw [← h.settings_eq]
          exact SearchPath.places_of_rankOf? hrank hname
        rw [load_snd hname]
        exact h.loadStep hplaces (loadEntry_step r path key rank)
    · exact h
  · exact h

/-! ## Edits -/

/-- A due save leaves the base where it is. -/
theorem mergeBase_schedule (e : Entry) (s : SearchPath) (due : Nat) :
    mergeBase (e.schedule s due) = mergeBase e := by
  unfold Entry.schedule
  split <;> rfl

/-- An edit leaves a launcher backed when what it does not mark stays. -/
theorem commit (h : Backed settings name kept r) {key : String} {e changed : Entry}
    (hfind : r.find? key = some e) (hbase : mergeBase changed = mergeBase e)
    (hfollows : ∀ d, e.Follows d settings.locale? → changed.Follows d settings.locale?) :
    Backed settings name kept (r.commit key changed) := by
  refine (h.set hfind ((mergeBase_schedule _ _ _).trans hbase) fun d hd => ?_).tell _
  unfold Entry.schedule
  split
  · exact (hfollows d hd).records _ _ _ _ _ _
  · exact (hfollows d hd).records _ _ _ _ _ _

/-- An update leaves a launcher backed. -/
theorem update (h : Backed settings name kept r) (key : String)
    (name? comment? exec? : Option String) (delay : Nat) :
    Backed settings name kept (r.update key name? comment? exec? delay).2 := by
  rcases hresult : r.update key name? comment? exec? delay with ⟨outcome, r'⟩
  cases update_step hresult with
  | unknown => exact h
  | same => exact h
  | edited e find =>
    refine h.commit find rfl fun d hd => hd.congr (fun f hf => ?_) rfl
    have hf' : (edited e name? comment? exec? delay).dirty.contains f = false := hf
    rw [Entry.contains_edited, Bool.or_eq_false_iff] at hf'
    refine ⟨hf'.2, fun ha => ?_⟩
    exact (Entry.agreesOn_edited_iff hf'.1 d settings.locale?).2 ha

/-- A launcher that is switched off or on follows what it followed. -/
theorem follows_switched {e : Entry} {d : Document} {locale? : Option Locale}
    (h : e.Follows d locale?) (hidden : Bool) :
    (switched e hidden).Follows d locale? := by
  refine h.congr (fun f hf => ?_) rfl
  have hf' : (e.dirty.insert .hidden).contains f = false := hf
  rw [FieldSet.contains_insert, Bool.or_eq_false_iff] at hf'
  refine ⟨hf'.2, fun ha => ?_⟩
  cases f with
  | hidden => cases hf'.1
  | name => exact ha
  | comment => exact ha
  | exec => exact ha
  | delay => exact ha

/-- Switching a launcher off or on leaves it backed. -/
theorem setHidden (h : Backed settings name kept r) (key : String) (hidden : Bool) :
    Backed settings name kept (r.setHidden key hidden).2 := by
  rcases hresult : r.setHidden key hidden with ⟨outcome, r'⟩
  cases setHidden_step hresult with
  | unknown => exact h
  | same => exact h
  | switched e find => exact h.commit find rfl fun d hd => follows_switched hd hidden

/-! ## Deletion and saves -/

/-- The files of one name stand elsewhere than the source of a launcher of another name. -/
theorem locationOf_ne (hsync : InSync settings r) (hname : Path.IsFileName name) {key : String}
    (hkey : Path.IsFileName key) {e : Entry} (hfind : r.find? key = some e) (hne : name ≠ key)
    (rank : Nat) (p : Path) (hplaces : settings.searchPath.Places rank name p) :
    r.files.locationOf p ≠ r.files.locationOf e.source := by
  obtain ⟨rank', -, -, hsource⟩ := (hsync.sound key e hfind).placed
  exact r.files.locationOf_ne_of_places hname hkey hplaces hsource hne

/-- Setting a launcher of another name leaves a launcher backed. -/
theorem set_of_ne (h : Backed settings name kept r) {key : String} (hne : name ≠ key) (e : Entry) :
    Backed settings name kept (r.set key e) :=
  h.of_find? rfl rfl (by simp [hne])

/-- Deleting a launcher leaves those of other names backed, and itself where it stays. -/
theorem delete (h : Backed settings name kept r) (hsync : InSync settings r)
    (hname : Path.IsFileName name) {key : String}
    (hkey : ∀ e, r.find? key = some e → Path.IsFileName key) :
    Backed settings name kept (r.delete key).2 := by
  rcases hresult : r.delete key with ⟨outcome, r'⟩
  cases delete_step hresult with
  | unknown => exact h
  | failed => exact h
  | removed e files find own removed =>
    obtain ⟨hkeeps, -⟩ := withoutFile_spec removed
    refine tell ?_ _
    by_cases hne : name = key
    · -- The launcher of the name is gone, so only the files have to stay tidy.
      refine ⟨h.settings_eq, isApart_congr h.apart hkeeps.workingDirectory_eq,
        h.tidy.withoutFile removed, fun e' he' => ?_⟩
      rw [find?_drop, if_pos hne] at he'
      cases he'
    · have hloc := locationOf_ne hsync hname (hkey e find) find hne
      exact (h.withFiles hsync hkeeps hloc).drop key
  | switched e find => exact h.commit find rfl fun d hd => follows_switched hd true

/-- The store without the file of the user keeps everything else, and has no file more. -/
theorem withoutOverride_spec {fs files : FileStore} {e : Entry} {path : Path}
    (h : withoutOverride fs e path = .ok files) :
    files = fs ∨ e.source.same path = false ∧ withoutFile fs e.source = .ok files := by
  unfold withoutOverride at h
  split at h
  · next hother =>
    have hother' : e.rank? = some SearchPath.userRank ∧ e.source.same path = false := by
      simpa using hother
    split at h
    · next removed hremoved =>
      obtain rfl := Except.ok.inj h
      exact .inr ⟨hother'.2, hremoved⟩
    · cases h
  · exact .inl (Except.ok.inj h).symm

/-- A launcher that gives way to a file of the system is backed by this file. -/
theorem back (h : Backed settings name kept r) (hname : Path.IsFileName name) {e : Entry}
    (hsound : e.Sound settings.searchPath name) (hpending : e.isPending = true) {rank : Nat}
    {path : Path} {files : FileStore} (htwin : r.twin? (undue e) = some (rank, path))
    (hremoved : withoutOverride r.files (undue e) path = .ok files) :
    Backed settings name kept
      (({ r with files } : Registry).set name (backToSystem (undue e) rank path)) := by
  obtain ⟨-, hpath, d, hload, hagrees⟩ := twin?_spec htwin
  have hplaces : settings.searchPath.Places rank name path := by
    rw [← h.settings_eq, ← hsound.filename_eq]
    exact SearchPath.places_of_pathAt? hpath
  have hfiles : files.IsApart settings.searchPath ∧ Tidy settings name files ∧
      Document.load files path = .ok d := by
    rcases withoutOverride_spec hremoved with rfl | ⟨hother, hremoved⟩
    · exact ⟨h.apart, h.tidy, hload⟩
    · obtain ⟨hkeeps, -⟩ := withoutFile_spec hremoved
      -- The launcher has changes, so the removed file is that of the user.
      have huser := hsound.user_of_dirty (hsound.dirty_of_pending hpending)
      obtain ⟨own, hown, -, hsource⟩ := hsound.placed
      obtain rfl := Option.some.inj (hown.symm.trans huser)
      exact ⟨isApart_congr h.apart hkeeps.workingDirectory_eq, h.tidy.withoutFile hremoved,
        Document.load_of_keeps hkeeps hload (h.apart.locationOf_ne hname hplaces hsource hother)⟩
  refine ⟨h.settings_eq, hfiles.1, hfiles.2.1, fun e' he' => ?_⟩
  rw [find?_set_self] at he'
  obtain rfl := Option.some.inj he'
  rw [h.settings_eq] at hagrees
  obtain ⟨hall, hicon⟩ := Entry.follows_of_agreesWith hagrees
  refine ⟨d, hfiles.2.2, fun _ => ⟨fun f _ => ?_, hicon⟩⟩
  have hf := hall f
  cases f <;> exact hf

/-- A launcher whose changes were written is backed by the written document, and follows it when it
followed the base. -/
theorem written (h : Backed settings name kept r) (hlocale : Locale.IsStorable settings.locale?)
    {e : Entry} (hfind : r.find? name = some e) (hsound : e.Sound settings.searchPath name)
    (hstorable : e.Storable) (hnamed : e.IsNamed) {files : FileStore}
    (hwrite : r.writeUser e.source (r.merged (undue e)) = (.ok (), files)) :
    Backed settings name kept (({ r with files } : Registry).set name (saved (undue e))) := by
  obtain ⟨d, hload, hkept⟩ := h.backed e hfind
  obtain ⟨rank, hplaces⟩ := places_mergeBase hsound
  have hstable := h.tidy.stable_of_load hplaces hload
  have hfit := h.tidy.fit_of_load hplaces hload
  rw [merged_of_load_eq_ok hload, h.settings_eq] at hwrite
  have hmerged := hstorable.fit_mergeInto hlocale hnamed hfit hstable
  -- From now on the written file is the base, and says what the merged document says.
  have hreload := load_of_writeUser hwrite
    (hstorable.stable_mergeInto hstable hlocale).parse_text
  obtain ⟨hkeeps, -⟩ := writeUser_eq_ok hwrite
  obtain ⟨text, hnode, hparse⟩ := Document.node?_of_load hreload
  rw [FileStore.locationOf_congr hkeeps.workingDirectory_eq] at hnode
  have htidy : Tidy settings name files := by
    refine h.tidy.of_keeps hkeeps fun s d' hs hd' => ?_
    rw [hnode] at hs
    obtain rfl : text = s := by simpa using hs
    obtain rfl := Except.ok.inj (hparse.symm.trans hd')
    exact hmerged
  refine ⟨h.settings_eq, isApart_congr h.apart hkeeps.workingDirectory_eq, htidy,
    fun e' he' => ?_⟩
  rw [find?_set_self] at he'
  obtain rfl := Option.some.inj he'
  refine ⟨_, hreload, fun hk => ?_⟩
  obtain ⟨hall, hicon⟩ := (hkept hk).mergeInto hstorable.delay_le
  refine ⟨fun f _ => ?_, hicon⟩
  have hf := hall f
  cases f <;> exact hf

/-- A save leaves a launcher backed. -/
theorem flush (h : Backed settings name kept r) (hlocale : Locale.IsStorable settings.locale?)
    (hsync : InSync settings r) (hname : Path.IsFileName name) {key : String}
    (hkey : ∀ e, r.find? key = some e → Path.IsFileName key)
    (hstorable : ∀ e, r.find? name = some e → e.Storable)
    (hnamed : ∀ e, r.find? name = some e → e.IsNamed) :
    Backed settings name kept (r.flush key).2 := by
  rcases hresult : r.flush key with ⟨outcome, r'⟩
  cases flush_step hresult with
  | unknown => exact h
  | idle => exact h
  | back e rank path files find pending twin removed =>
    by_cases hne : name = key
    · subst hne
      exact h.back hname (hsync.sound name e find) pending twin removed
    · have hkeeps : r.files.Keeps files (r.files.locationOf e.source) := by
        rcases withoutOverride_spec removed with rfl | ⟨-, hremoved⟩
        · exact .refl _ _
        · exact (withoutFile_spec hremoved).1
      have hloc := locationOf_ne hsync hname (hkey e find) find hne
      exact (h.withFiles hsync hkeeps hloc).set_of_ne hne _
  | written e files find pending write =>
    -- A file of another name stands elsewhere, and that of the name is written as merged.
    by_cases hne : name = key
    · subst hne
      exact h.written hlocale find (hsync.sound name e find) (hstorable e find) (hnamed e find)
        write
    · have hloc := locationOf_ne hsync hname (hkey e find) find hne
      exact (h.withFiles hsync (writeUser_eq_ok write).1 hloc).set_of_ne hne _
  | failed e error files find pending touches =>
    -- Nothing was lost, and no file of the name stands at the root.
    have hloc : ∀ rank p, settings.searchPath.Places rank name p → r.files.locationOf p ≠ [] := by
      intro rank p hplaces
      obtain ⟨dir, -, hp⟩ := r.files.locationOf_of_places hname hplaces
      rw [hp]
      simp
    have hkeeps : r.files.Keeps files [] := touches.keeps fun _ => False.elim
    exact (h.withFiles hsync hkeeps hloc).set find rfl fun d hd => hd.records _ _ _ _ _ _

end Backed

end Autostart.Registry
