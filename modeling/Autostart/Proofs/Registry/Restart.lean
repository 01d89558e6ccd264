import Autostart.Proofs.Registry.Switching
import Autostart.Proofs.Registry.VanishedBase

/-!
# New launchers after a restart

A launcher that was made or brought in and then saved is found again by a new registry, in the
directory of the user, switched on and with what the old one knows of it. This takes a file name
that a scan accepts, which not every free name is: a base without a stem gives the bare suffix.
-/

namespace Autostart

/-- Whether all characters of a text are printable and of seven bits. -/
def Text.isPrintable (s : String) : Bool :=
  s.toList.all fun c => 32 ≤ c.toNat && c.toNat ≤ 126

/-- A printable text can be stored. -/
theorem Text.isStorable_of_printable {s : String} (h : isPrintable s = true) : IsStorable s := by
  intro c hc hblank
  have hcode := List.all_eq_true.1 h c (List.mem_of_head? hc)
  -- The space is the only blank among the printable characters, and it has an escape.
  have hspace : c.toNat = 32 := by
    simp only [Chars.isBlank, Bool.or_eq_true, Bool.and_eq_true, decide_eq_true_eq,
      beq_iff_eq] at hblank hcode
    omega
  obtain rfl : c = ' ' := Char.toNat_inj.1 hspace
  rfl

/-- Whether a locale suffix has letters, digits, underscores and at signs only. -/
def Locale.isPlainSuffix (suffix : String) : Bool :=
  !suffix.toList.isEmpty && suffix.toList.all fun c => c.isAlphanum || c = '_' || c = '@'

/-- A locale with a plain suffix can be stored. -/
theorem Locale.isStorable_of_plainSuffix {locale? : Option Locale}
    (h : ∀ l, locale? = some l → isPlainSuffix l.suffix = true) : IsStorable locale? := by
  intro l hl
  obtain ⟨hempty, hall⟩ := Bool.and_eq_true_iff.1 (h l hl)
  refine ⟨by simpa using hempty, fun c hc => ?_⟩
  have hchar := List.all_eq_true.1 hall c hc
  refine ⟨?_, ?_, ?_, ?_⟩
  all_goals
    rintro rfl
    exact absurd hchar (by decide)

/-- A stable document stays one when its launcher is switched off or on. -/
theorem Document.Stable.setFlag_hidden {d : Document} (h : d.Stable) (hidden : Bool) :
    (d.setFlag Key.hidden hidden).Stable :=
  h.store (.of_none (Field.isPlainKey .hidden) (isValue_flag hidden))

namespace Entry

/-- Whether a launcher may run depends on its lists of desktops only. -/
theorem isLaunchable_congr {d d' : Document}
    (honly : Document.SameAt d d' Document.Key.onlyShowIn)
    (hnot : Document.SameAt d d' Document.Key.notShowIn) (desktops : List String) :
    isLaunchable d desktops = isLaunchable d' desktops := by
  unfold isLaunchable Document.items?
  rw [honly none, hnot none]

/-- A launcher that is switched off or on may run where it did. -/
theorem isLaunchable_setFlag_hidden (d : Document) (hidden : Bool) (desktops : List String) :
    isLaunchable (d.setFlag Document.Key.hidden hidden) desktops = isLaunchable d desktops :=
  isLaunchable_congr (Document.sameAt_store d (by decide) none _)
    (Document.sameAt_store d (by decide) none _) desktops

/-- Every launcher holds the same as itself. -/
theorem sameOn_refl (e : Entry) (f : Field) : e.SameOn e f := by
  cases f with
  | hidden => rfl
  | name => exact (Text.agree_iff _ _).2 rfl
  | comment => exact (Text.agree_iff _ _).2 rfl
  | exec => exact (Text.agree_iff _ _).2 rfl
  | delay => rfl

/-- A document with another truth value for whether its launcher is switched off makes the launcher
that is switched. -/
theorem ofDocument_setFlag_hidden (filename : String) (path : Path) (d : Document) (hidden : Bool)
    (locale? : Option Locale) (rank : Nat) :
    ofDocument filename path (d.setFlag Document.Key.hidden hidden) locale? rank =
      { ofDocument filename path d locale? rank with hidden } := by
  have hsame : ∀ {key}, key ≠ Document.Key.hidden →
      Document.SameAt (d.setFlag Document.Key.hidden hidden) d key := fun hne =>
    Document.sameAt_store d hne none _
  have hhidden := Document.flag_setFlag d Document.Key.hidden hidden false
  unfold ofDocument
  rw [hhidden, (hsame (by decide)).flag_eq, (hsame (by decide)).localText?_eq,
    (hsame (by decide)).localText?_eq, (hsame (by decide)).localText?_eq,
    (hsame (by decide)).text?_eq, (hsame (by decide)).delay_eq]

end Entry

namespace Registry

/-- The launcher that a document makes as the file of the user. -/
def ofUser (r : Registry) (name : String) (d : Document) : Entry :=
  Entry.ofDocument name (r.searchPath.userPath name) d r.settings.locale? SearchPath.userRank

/-- A new registry finds a launcher that this one knows, in the directory of the user, switched on
and with the same fields and icon. -/
def Survives (r : Registry) (name : String) : Prop :=
  ∃ e found, r.find? name = some e ∧ r.rescanned.find? name = some found ∧
    found.rank? = some SearchPath.userRank ∧ found.hidden = false ∧ (∀ f, found.SameOn e f) ∧
    found.SameIcon e

/-- A launcher arrives in a registry: it is made from what can be stored, or brought in from a file
that is not switched off or has no line that ends in a carriage return. -/
inductive Arrives (r : Registry) (name : String) : Registry → Prop where
  /-- It is made from a command line. -/
  | made (request : Request) (r' : Registry) (storable : Action.IsStorable (.create request))
      (accepted : r.create request = (.ok name, r')) : Arrives r name r'
  /-- It is brought in from a file. -/
  | broughtIn (text : String) (r' : Registry) (accepted : r.copyFrom text = (.ok name, r'))
      (ending : ∀ d, Document.load r'.files (r.searchPath.userPath name) = .ok d →
        d.flag Document.Key.hidden false = true →
        ∀ line ∈ d.lines, line.toList.getLast? ≠ some '\r') : Arrives r name r'

variable {r r' : Registry} {name : String} {e : Entry} {d : Document}

/-! ## Saves of launchers of the user alone -/

/-- A launcher that only the user has is written when its save comes to anything. -/
theorem written_of_shadow_eq_none (hfind : r.find? name = some e) (hpending : e.isPending = true)
    (hshadow : e.shadow? = none) {saved : Saved} (hsaved : (r.flush name).1 = .ok saved) :
    (r.flush name).1 = .ok .written := by
  rcases hresult : r.flush name with ⟨outcome, r'⟩
  rw [hresult] at hsaved
  obtain rfl : outcome = .ok saved := hsaved
  cases flush_step hresult with
  | idle e' find settled =>
    obtain rfl := Option.some.inj (hfind.symm.trans find)
    cases hpending.symm.trans settled
  | back e' rank path files find pending twin =>
    obtain rfl := Option.some.inj (hfind.symm.trans find)
    obtain ⟨hsome, -⟩ := twin?_spec twin
    cases hshadow.symm.trans hsome
  | written => rfl

section

variable (huser : r.searchPath.userDirectory.text ≠ "") (hlauncher : Entry.isFilename name = true)
  (hname : Path.IsFileName name)
include huser hlauncher hname

/-- A launcher survives when the file of the user reads as a document that makes a launcher like
it. -/
theorem survives_of_reads (hfind : r.find? name = some e)
    (hreads : r.Reads (r.searchPath.userPath name) d)
    (hhidden : d.flag Document.Key.hidden false = false)
    (hsame : ∀ f, (r.ofUser name d).SameOn e f) (hicon : (r.ofUser name d).SameIcon e) :
    r.Survives name := by
  obtain ⟨shadow?, hfound⟩ := find?_rescanned_of_user huser hlauncher hname hreads
  refine ⟨e, _, hfind, hfound, rfl, hhidden, fun f => ?_, hicon⟩
  have hfield := hsame f
  cases f <;> exact hfield

/-- A launcher that only the user has survives its save when the merged document comes back, runs
on the desktop and makes a launcher like it. -/
theorem survives_of_saved (hfind : r.find? name = some e) (hpending : e.isPending = true)
    (hshadow : e.shadow? = none) (hsource : e.source = r.searchPath.userPath name)
    (hmerged : r.merged (undue e) = d) (hstable : d.Stable)
    (hruns : Entry.isLaunchable d r.settings.desktops = true)
    (hhidden : d.flag Document.Key.hidden false = false)
    (hsame : ∀ f, (r.ofUser name d).SameOn e f) (hicon : (r.ofUser name d).SameIcon e)
    {outcome : Saved} (hsaved : (r.flush name).1 = .ok outcome) :
    (r.flush name).2.Survives name := by
  have hwritten := written_of_shadow_eq_none hfind hpending hshadow hsaved
  obtain ⟨files, hwrite, hafter⟩ := flush_of_written hfind hwritten
  rw [hmerged, hsource] at hwrite
  have hreads : (({ r with files } : Registry).set name (saved (undue e))).Reads
      (r.searchPath.userPath name) d := ⟨load_of_writeUser hwrite hstable.parse_text, hruns⟩
  have hfind' : (({ r with files } : Registry).set name (saved (undue e))).find? name =
      some (saved (undue e)) := by rw [find?_set_self]
  -- A saved launcher differs in its records only, and no comparison looks at them.
  rw [hafter]
  refine survives_of_reads huser hlauncher hname hfind' hreads hhidden (fun f => ?_) hicon
  have hfield := hsame f
  cases f <;> exact hfield

end

/-! ## Launchers that are made -/

/-- The path of a name that is not in use reads as no document. -/
theorem load_of_isTaken (hfree : r.isTaken name = false) (d : Document) :
    Document.load r.files (r.searchPath.userPath name) ≠ .ok d := by
  intro hload
  obtain ⟨s, hread, -⟩ := Document.load_eq_ok_iff.1 hload
  obtain ⟨l, hstat⟩ := FileStore.readText_eq_ok_iff.1 hread
  -- A path that reads leads somewhere, so its name would be in use.
  have hthere := (Bool.or_eq_false_iff.1 hfree).2
  unfold FileStore.existsAt at hthere
  rw [hstat] at hthere
  cases hthere

section Command

variable {request : Request} {locale? : Option Locale} {path : Path}

/-- A document with the fields of a launcher and no others may run on every desktop. -/
theorem isLaunchable_mergeInto_application (e : Entry) (locale? : Option Locale)
    (desktops : List String) :
    Entry.isLaunchable (e.mergeInto Document.application locale?) desktops = true := by
  have hothers : ∀ key, (∀ f : Field, key ≠ f.key) →
      Document.SameAt (e.mergeInto Document.application locale?) Document.application key :=
    fun key hne => Entry.sameAt_mergeInto _ fun f _ => hne f
  rw [Entry.isLaunchable_congr (hothers _ fun f => by cases f <;> decide)
    (hothers _ fun f => by cases f <;> decide)]
  rfl

/-- The name of a launcher that is made is never blank, as its command line stands in for one that
is. -/
theorem isMissing_ofCommand (hexec : Text.isBlank request.exec = false)
    (he : e = Entry.ofCommand name path request.name? request.comment? request.exec
      request.delay) : Text.isMissing e.name? = false := by
  rw [he]
  show Text.isMissing (Entry.nameOr request.name? (some request.exec)) = false
  unfold Entry.nameOr
  split
  · exact hexec
  · next hmissing => simpa using hmissing

/-- The document of a launcher that is made agrees with it on every field, since all are stored. -/
theorem agreesOn_ofCommand (hdelay : request.delay ≤ Document.maxDelay)
    (he : e = Entry.ofCommand name path request.name? request.comment? request.exec
      request.delay) (f : Field) :
    e.AgreesOn (e.mergeInto Document.application locale?) locale? f := by
  have hdirty : e.dirty.contains f = true := by
    rw [he]
    cases f <;> rfl
  exact Entry.agreesOn_mergeInto_of_dirty _ (he ▸ hdelay) hdirty

/-- The document of a launcher that is made has no icon, and neither has the launcher. -/
theorem agreesOnIcon_ofCommand
    (he : e = Entry.ofCommand name path request.name? request.comment? request.exec
      request.delay) : e.AgreesOnIcon (e.mergeInto Document.application locale?) locale? := by
  have hnone : Document.application.localText? Document.Key.icon locale? = none :=
    Document.localText?_of_absent (fun l =>
      Document.sameAt_store Document.empty (by decide) none _ l) locale?
  rw [Entry.agreesOnIcon_mergeInto_iff]
  unfold Entry.AgreesOnIcon
  rw [hnone, he]
  rfl

/-- The document of a launcher that is made from what can be stored comes back as it is. -/
theorem stable_mergeInto_ofCommand (hstorable : Action.IsStorable (.create request))
    (hlocale : Locale.IsStorable locale?)
    (he : e = Entry.ofCommand name path request.name? request.comment? request.exec
      request.delay) : (e.mergeInto Document.application locale?).Stable := by
  obtain ⟨hdelay, hname, hcomment, hexec⟩ := hstorable
  have hfields := Entry.storable_ofCommand hdelay hname hcomment hexec name path
  exact (he ▸ hfields).stable_mergeInto Document.stable_application hlocale

/-- The document of a launcher that is made makes a launcher with the same fields. -/
theorem sameOn_ofDocument_ofCommand (hdelay : request.delay ≤ Document.maxDelay)
    (hexec : Text.isBlank request.exec = false)
    (he : e = Entry.ofCommand name path request.name? request.comment? request.exec
      request.delay) (rank : Nat) (f : Field) :
    (Entry.ofDocument name path (e.mergeInto Document.application locale?) locale? rank).SameOn e
      f := by
  have hagrees : ∀ f, e.AgreesOn (e.mergeInto Document.application locale?) locale? f :=
    agreesOn_ofCommand hdelay he
  have hnamed := Text.isMissing_of_agree (hagrees .name) (isMissing_ofCommand hexec he)
  exact (Entry.sameOn_ofDocument_iff hnamed name path rank e f).2 (hagrees f)

end Command

/-- A launcher is not made from a blank command line. -/
theorem not_blank_of_create {request : Request} (h : r.create request = (.ok name, r')) :
    Text.isBlank request.exec = false := by
  unfold create at h
  split at h
  · cases (Prod.mk.inj h).1
  · next hblank => simpa using hblank

/-- A launcher that was made survives its save. -/
theorem survives_of_create (huser : r.searchPath.userDirectory.text ≠ "")
    (hlocale : Locale.IsStorable r.settings.locale?) (hlauncher : Entry.isFilename name = true)
    {request : Request} (hstorable : Action.IsStorable (.create request))
    (h : r.create request = (.ok name, r')) {outcome : Saved}
    (hsaved : (r'.flush name).1 = .ok outcome) : (r'.flush name).2.Survives name := by
  have hexec := not_blank_of_create h
  have hdelay : request.delay ≤ Document.maxDelay := hstorable.1
  cases create_step h with
  | made name isFileName free =>
    generalize he : Entry.ofCommand name (r.searchPath.userPath name) request.name?
      request.comment? request.exec request.delay = e at hsaved ⊢
    -- The launcher stands at the rank of the user, so only its save becomes due.
    have hdue : e.schedule r.searchPath r.dueTime = { e with due? := some r.dueTime } := by
      rw [← he]
      exact if_pos rfl
    rw [hdue] at hsaved ⊢
    have hfind : ((r.set name { e with due? := some r.dueTime }).tell (.added name)).find? name =
        some { e with due? := some r.dueTime } := by rw [find?_tell, find?_set_self]
    -- No file is there yet, so the fields are stored in a new document.
    have hmerged := merged_of_load_ne_ok
      (r := (r.set name { e with due? := some r.dueTime }).tell (.added name))
      (e := { e with due? := some r.dueTime }) fun d => by
        rw [← he]
        exact load_of_isTaken free d
    have hstable := stable_mergeInto_ofCommand hstorable hlocale he.symm
    have hvisible : (e.mergeInto Document.application r.settings.locale?).flag
        Document.Key.hidden false = false :=
      (agreesOn_ofCommand hdelay he.symm .hidden).trans (he ▸ rfl)
    have hfields : ∀ f, (r.ofUser name (e.mergeInto Document.application
        r.settings.locale?)).SameOn e f :=
      sameOn_ofDocument_ofCommand hdelay hexec he.symm SearchPath.userRank
    have hicon : e.AgreesOnIcon (e.mergeInto Document.application r.settings.locale?)
        r.settings.locale? := agreesOnIcon_ofCommand he.symm
    refine survives_of_saved huser hlauncher isFileName hfind rfl (he ▸ rfl) (he ▸ rfl) hmerged
      hstable (isLaunchable_mergeInto_application e _ _) hvisible (fun f => ?_) hicon hsaved
    have hfield := hfields f
    cases f <;> exact hfield

/-! ## Launchers that are brought in -/

/-- Nothing is saved of a launcher that does not wait for a save. -/
theorem flush_of_settled (hfind : r.find? name = some e) (hsettled : e.isPending = false) :
    r.flush name = (.ok .idle, r) := by
  unfold flush
  rw [hfind]
  dsimp only
  rw [hsettled]
  rfl

/-- A launcher that is brought in is made from the document that reads at its place, and is switched
on if that says otherwise. -/
theorem loaded_of_copyFrom {text : String} (h : r.copyFrom text = (.ok name, r')) :
    Path.IsFileName name ∧ ∃ (loaded : Registry) (d : Document), loaded.settings = r.settings ∧
      loaded.Reads (loaded.searchPath.userPath name) d ∧
      loaded.find? name = some (loaded.ofUser name d) ∧
      r' = loaded.switchOn name (loaded.ofUser name d) := by
  cases copyFrom_step h with
  | loaded name files loaded e isFileName free brought load =>
    have hfileName : (r.searchPath.userPath name).fileName? = some name :=
      Path.fileName?_join _ isFileName
    have hfind := find?_of_load hfileName load
    obtain ⟨name', d, event, hname', hreads, he, hloaded⟩ := loaded_of_load load
    obtain rfl := Option.some.inj (hfileName.symm.trans hname')
    -- The name was free, so no shadow is known.
    have hnone : ({ r with files } : Registry).find? name = none := find?_of_isTaken (r := r) free
    have hmade : e = loaded.ofUser name d := by
      rw [he, hloaded]
      unfold made
      rw [hnone]
      rfl
    refine ⟨isFileName, loaded, d, ?_, ?_, hfind.trans (congrArg some hmade), ?_⟩
    · rw [hloaded]
      rfl
    · rw [hloaded]
      exact hreads
    · rw [hmade]

section

variable (huser : r.searchPath.userDirectory.text ≠ "") (hlauncher : Entry.isFilename name = true)
  (hname : Path.IsFileName name) (hreads : r.Reads (r.searchPath.userPath name) d)
include huser hlauncher hname hreads

/-- A launcher that was brought in switched on survives as it is. -/
theorem survives_of_visible (hfind : r.find? name = some (r.ofUser name d))
    (hhidden : d.flag Document.Key.hidden false = false) : (r.flush name).2.Survives name := by
  rw [flush_of_settled hfind rfl]
  exact survives_of_reads huser hlauncher hname hfind hreads hhidden (Entry.sameOn_refl _)
    ((Text.agree_iff _ _).2 rfl)

/-- A launcher that was brought in switched off survives the save of its being switched on. -/
theorem survives_of_switchedOn (hstable : d.Stable) {outcome : Saved}
    (hsaved : ((r.commit name (switched (r.ofUser name d) false)).flush name).1 = .ok outcome) :
    ((r.commit name (switched (r.ofUser name d) false)).flush name).2.Survives name := by
  -- It stands at the rank of the user and has no base, so its own file is the one to merge into.
  have hwait : AwaitsSwitch r.searchPath (r.ofUser name d) false
      ((switched (r.ofUser name d) false).schedule r.searchPath r.dueTime) :=
    awaitsSwitch_schedule rfl rfl (fun _ => rfl) false r.dueTime
  have hdue : (switched (r.ofUser name d) false).schedule r.searchPath r.dueTime =
      { switched (r.ofUser name d) false with due? := some r.dueTime } := if_pos rfl
  have hfind' : (r.commit name (switched (r.ofUser name d) false)).find? name =
      some ((switched (r.ofUser name d) false).schedule r.searchPath r.dueTime) :=
    find?_commit r name _
  generalize (switched (r.ofUser name d) false).schedule r.searchPath r.dueTime = e
    at hwait hdue hfind'
  have hpending : e.isPending = true := by
    refine isPending_of_dirty ?_
    rw [hwait.dirty_eq]
    decide
  have hload : Document.load (r.commit name (switched (r.ofUser name d) false)).files
      (mergeBase e) = .ok d := hwait.base_eq ▸ hreads.1
  have hmerged := merged_of_load_eq_ok hload
  rw [hwait.mergeInto_eq] at hmerged
  -- What is stored is one truth value, so nothing else that the document says is another.
  have hfields : (r.ofUser name (d.setFlag Document.Key.hidden false)) =
      { r.ofUser name d with hidden := false } :=
    Entry.ofDocument_setFlag_hidden name _ d false r.settings.locale? _
  refine survives_of_saved huser hlauncher hname hfind' hpending hwait.shadow_eq hwait.source_eq
    hmerged (hstable.setFlag_hidden false)
    ((Entry.isLaunchable_setFlag_hidden d false _).trans hreads.2)
    (Document.flag_setFlag d _ false false) (fun f => ?_) ?_ hsaved
  · show (r.ofUser name (d.setFlag Document.Key.hidden false)).SameOn e f
    rw [hfields, hdue]
    have hself := Entry.sameOn_refl { r.ofUser name d with hidden := false } f
    cases f <;> exact hself
  · show (r.ofUser name (d.setFlag Document.Key.hidden false)).SameIcon e
    rw [hfields, hdue]
    exact (Text.agree_iff _ _).2 rfl

end

/-- A launcher that was brought in survives its save, if it has one. -/
theorem survives_of_copyFrom (huser : r.searchPath.userDirectory.text ≠ "")
    (hlauncher : Entry.isFilename name = true) {text : String}
    (h : r.copyFrom text = (.ok name, r'))
    (hending : ∀ d, Document.load r'.files (r.searchPath.userPath name) = .ok d →
      d.flag Document.Key.hidden false = true →
      ∀ line ∈ d.lines, line.toList.getLast? ≠ some '\r')
    {outcome : Saved} (hsaved : (r'.flush name).1 = .ok outcome) :
    (r'.flush name).2.Survives name := by
  obtain ⟨hname, loaded, d, hsettings, hreads, hfind, rfl⟩ := loaded_of_copyFrom h
  have hpath : loaded.searchPath = r.searchPath := congrArg Settings.searchPath hsettings
  rw [← hpath] at huser hending
  rw [files_switchOn] at hending
  unfold switchOn at hsaved ⊢
  split at hsaved
  · -- The launcher is switched on, and this is what the save writes.
    next hoff =>
    rw [if_pos hoff]
    obtain ⟨s, -, hparse⟩ := Document.load_eq_ok_iff.1 hreads.1
    have hstable := Document.stable_of_parse hparse (hending d hreads.1 hoff)
    exact survives_of_switchedOn huser hlauncher hname hreads hstable hsaved
  · -- The file says what the launcher holds, and nothing waits for a save.
    next hon =>
    rw [if_neg hon]
    have hvisible : d.flag Document.Key.hidden false = false := Bool.eq_false_iff.2 hon
    exact survives_of_visible huser hlauncher hname hreads hfind hvisible

/-- A launcher that is made from what can be stored, or brought in from any file, and whose save, if
there is one, succeeds is found by a new registry with the same settings, at any point of a run: in
the directory of the user, switched on, and with the name, the comment, the command line, the delay
and the icon that the old registry knows. The file name has to be one that a scan accepts, and a
file that is switched off must have no line that ends in a carriage return. -/
theorem survives_restart (huser : r.searchPath.userDirectory.text ≠ "")
    (hlocale : Locale.IsStorable r.settings.locale?) (h : r.Arrives name r')
    (hlauncher : Entry.isFilename name = true) {outcome : Saved}
    (hsaved : (r'.flush name).1 = .ok outcome) : (r'.flush name).2.Survives name := by
  cases h with
  | made request _ storable accepted =>
    exact survives_of_create huser hlocale hlauncher storable accepted hsaved
  | broughtIn text _ accepted ending =>
    exact survives_of_copyFrom huser hlauncher accepted ending hsaved

/-- The settings of a user with a locale. -/
def userWithLocale : Settings :=
  { userDirectoryOnly with locale? := some ⟨"de", some "DE", none, none⟩ }

/-- A launcher to be made, with a name that starts with a space. -/
def spacedRequest : Request :=
  ⟨"a --flag", some " A; b", some "c\\n", 7, some "b.desktop"⟩

/-- Files with a launcher that is switched off, outside all directories of launchers. -/
def oneHiddenSource : FileStore :=
  (FileStore.atDirectory []).put ⟨"in/a.desktop"⟩
    (.file (.text "[Desktop Entry]\nExec=a\nIcon=i\nHidden=true\n"))

/-- The locale of the user can be stored. -/
theorem isStorable_userWithLocale : Locale.IsStorable userWithLocale.locale? :=
  Locale.isStorable_of_plainSuffix fun l hl => by
    obtain rfl := Option.some.inj hl
    rfl

/-- A launcher that was made and one that was brought in survive their saves. -/
theorem survives_madeAndBroughtIn :
    (((fresh userWithLocale (FileStore.atDirectory []) 0).create spacedRequest).1 =
        .ok "b.desktop" ∧
      (((fresh userWithLocale (FileStore.atDirectory []) 0).create spacedRequest).2.flush
        "b.desktop").2.Survives "b.desktop") ∧
      ((fresh userWithLocale oneHiddenSource 0).copyFrom "in/a.desktop").1 = .ok "a.desktop" ∧
      (((fresh userWithLocale oneHiddenSource 0).copyFrom "in/a.desktop").2.flush
        "a.desktop").2.Survives "a.desktop" := by
  constructor
  · have hname : ((fresh userWithLocale (FileStore.atDirectory []) 0).create spacedRequest).1 =
        .ok "b.desktop" := by rfl
    have hsaved : (((fresh userWithLocale (FileStore.atDirectory []) 0).create
        spacedRequest).2.flush "b.desktop").1 = .ok .written := by rfl
    have hstorable : Action.IsStorable (.create spacedRequest) :=
      ⟨by decide, Text.isStorable_of_printable rfl, Text.isStorable_of_printable rfl,
        Text.isStorable_of_printable rfl⟩
    refine ⟨hname, ?_⟩
    exact survives_restart (by decide) isStorable_userWithLocale
      (.made spacedRequest _ hstorable (Prod.ext hname rfl)) (by decide) hsaved
  · have hname : ((fresh userWithLocale oneHiddenSource 0).copyFrom "in/a.desktop").1 =
        .ok "a.desktop" := by rfl
    have hsaved : (((fresh userWithLocale oneHiddenSource 0).copyFrom "in/a.desktop").2.flush
        "a.desktop").1 = .ok .written := by rfl
    have hlines : ∀ d, Document.load ((fresh userWithLocale oneHiddenSource 0).copyFrom
        "in/a.desktop").2.files ⟨"user/a.desktop"⟩ = .ok d →
        ∀ line ∈ d.lines, line.toList.getLast? ≠ some '\r' := by
      intro d hload
      cases hload
      decide
    refine ⟨hname, ?_⟩
    exact survives_restart (by decide) isStorable_userWithLocale
      (.broughtIn "in/a.desktop" _ (Prod.ext hname rfl) fun d hload _ => hlines d hload)
      (by decide) hsaved

/-- Files with a launcher that is switched off, of which a line keeps a carriage return. -/
def oneReturnedSource : FileStore :=
  (FileStore.atDirectory []).put ⟨"in/a.desktop"⟩
    (.file (.text "[Desktop Entry]\nName=A\r\r\nExec=a\nHidden=true\n"))

/-- A name without a stem is given to a launcher, and no scan finds its file. A line that ends in a
carriage return is read back without it once the launcher that was brought in is written. -/
theorem lost_afterRestart :
    (((fresh userDirectoryOnly (FileStore.atDirectory []) 0).create
          ⟨"a", none, none, 0, some ".desktop"⟩).1 = .ok ".desktop" ∧
        (((fresh userDirectoryOnly (FileStore.atDirectory []) 0).create
          ⟨"a", none, none, 0, some ".desktop"⟩).2.flush ".desktop").1 = .ok .written ∧
        ((((fresh userDirectoryOnly (FileStore.atDirectory []) 0).create
          ⟨"a", none, none, 0, some ".desktop"⟩).2.flush ".desktop").2.rescanned.find?
            ".desktop") = none) ∧
      ((fresh userDirectoryOnly oneReturnedSource 0).copyFrom "in/a.desktop").1 =
        .ok "a.desktop" ∧
      (((fresh userDirectoryOnly oneReturnedSource 0).copyFrom "in/a.desktop").2.flush
        "a.desktop").1 = .ok .written ∧
      ((((fresh userDirectoryOnly oneReturnedSource 0).copyFrom "in/a.desktop").2.flush
        "a.desktop").2.find? "a.desktop").map Entry.name? = some (some "A\r") ∧
      ((((fresh userDirectoryOnly oneReturnedSource 0).copyFrom "in/a.desktop").2.flush
        "a.desktop").2.rescanned.find? "a.desktop").map Entry.name? = some (some "A") := by
  refine ⟨⟨?_, ?_, ?_⟩, ?_, ?_, ?_, ?_⟩
  all_goals rfl

end Registry

end Autostart
