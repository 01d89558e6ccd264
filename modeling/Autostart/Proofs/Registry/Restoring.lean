import Autostart.Proofs.Registry.ShadowRemoval

/-!
# Launchers switched off and on again

A launcher of the system that is switched off gets a file of the user, and when it is switched on
again this file is no longer needed. Each of the two switches is followed by a save. The second save
compares the launcher with the file of the system, which is as it was, so it takes the file of the
user away and leaves the launcher as the scan made it. One field stands in the way: a launcher whose
file has no name to show has its command line for a name, and the comparison takes that for a
change.
-/

namespace Autostart

/-- A document says what the launcher that it makes is called: it has a name to show, or its command
line is the same as the name, as when both are absent. -/
def Document.NamesItself (d : Document) (locale? : Option Locale) : Prop :=
  Text.isMissing (d.localText? Key.name locale?) = true →
    Text.agree (d.localText? Key.name locale?) (d.text? Key.exec) = true

/-- A text agrees with itself. -/
theorem Text.agree_self (text? : Option String) : agree text? text? = true :=
  (agree_iff text? text?).2 rfl

/-- A document agrees with the launcher that it makes exactly when it says what this is called. -/
theorem Entry.agreesWith_ofDocument_iff {d : Document} {locale? : Option Locale} (filename : String)
    (path : Path) (rank : Nat) :
    (ofDocument filename path d locale? rank).agreesWith d locale? = true ↔
      d.NamesItself locale? := by
  have hname : (ofDocument filename path d locale? rank).agreesWith d locale? =
      Text.agree (d.localText? Document.Key.name locale?)
        (nameOr (d.localText? Document.Key.name locale?) (d.text? Document.Key.exec)) := by
    unfold agreesWith ofDocument
    simp [Text.agree_self]
  rw [hname]
  unfold nameOr Document.NamesItself
  split
  · next hmissing => simp [hmissing]
  · next hnamed => simp [hnamed, Text.agree_self]

namespace Registry

variable {r : Registry} {name : String} {e : Entry} {rank : Nat} {path : Path} {d : Document}

/-! ## Steps -/

/-- Switching a launcher that is not that way changes it. -/
theorem setHidden_of_ne {hidden : Bool} (hfind : r.find? name = some e) (hne : e.hidden ≠ hidden) :
    r.setHidden name hidden = (.ok true, r.commit name (switched e hidden)) := by
  unfold setHidden
  rw [hfind]
  dsimp only
  rw [if_neg hne]
  rfl

/-- A launcher of the user waits for its save where it is. -/
theorem schedule_of_user (h : e.rank? = some SearchPath.userRank) (s : SearchPath) (due : Nat) :
    e.schedule s due = { e with due? := some due } := by
  unfold Entry.schedule
  rw [if_pos h]

/-- A launcher of the system moves to the directory of the user when it waits for its save. -/
theorem schedule_of_system (h : e.rank? = some rank) (hsystem : SearchPath.userRank < rank)
    (s : SearchPath) (due : Nat) :
    e.schedule s due =
      { e with
        base? := some (e.base?.getD e.source)
        source := s.userPath e.filename
        rank? := some SearchPath.userRank
        due? := some due } := by
  unfold Entry.schedule
  rw [if_neg]
  rw [h]
  exact fun heq => absurd (Option.some.inj heq) (Nat.ne_of_gt hsystem)

/-- The file of the system below a launcher is its twin exactly when it says what it holds. -/
theorem twin?_eq (hshadow : e.shadow? = some rank)
    (hpath : r.searchPath.pathAt? rank e.filename = some path)
    (hload : Document.load r.files path = .ok d) :
    r.twin? e = if e.agreesWith d r.settings.locale? then some (rank, path) else none := by
  unfold twin?
  rw [hshadow]
  dsimp only
  rw [hpath]
  dsimp only
  rw [hload]

/-- A save of a launcher with a twin takes the file of the user away. -/
theorem flush_of_twin {files : FileStore} (hfind : r.find? name = some e)
    (hpending : e.isPending = true) (htwin : r.twin? (undue e) = some (rank, path))
    (hremoved : withoutOverride r.files (undue e) path = .ok files) :
    r.flush name =
      (.ok .shadowRemoved, { r with files }.set name (backToSystem (undue e) rank path)) := by
  have htwin' : (r.set name (undue e)).twin? (undue e) = some (rank, path) := htwin
  unfold flush
  rw [hfind]
  dsimp only
  rw [hpending, show ({ e with due? := none } : Entry) = undue e from rfl, htwin']
  dsimp only
  rw [show (r.set name (undue e)).files = r.files from rfl, hremoved]
  simp only [Bool.not_true, Bool.false_eq_true, if_false]
  exact congrArg (Prod.mk _)
    (set_set { r with files } name (undue e) (backToSystem (undue e) rank path))

/-- The launcher is the one that a file of the system makes, with no other file before it. -/
structure OfSystem (r : Registry) (name : String) (rank : Nat) (path : Path) (d : Document)
    (e : Entry) : Prop where
  /-- The registry knows it. -/
  find : r.find? name = some e
  /-- The rank is one of the system. -/
  system : SearchPath.userRank < rank
  /-- The file is that of the rank. -/
  path_eq : r.searchPath.pathAt? rank name = some path
  /-- The file has the document. -/
  load : Document.load r.files path = .ok d
  /-- The document makes the launcher. -/
  entry_eq :
    e = { Entry.ofDocument name path d r.settings.locale? rank with shadow? := some rank }

/-- A launcher of the system that was switched off and saved: the same, with its file in the
directory of the user. -/
def overridden (e : Entry) (source : Path) : Entry :=
  { e with source, rank? := some SearchPath.userRank, hidden := true, ownWrite := true }

/-- The registry after a launcher of the system was switched off and saved. -/
structure SwitchedOff (r : Registry) (name : String) (e : Entry) (r' : Registry) : Prop where
  /-- The settings stay. -/
  settings_eq : r'.settings = r.settings
  /-- The launcher has its file in the directory of the user. -/
  find : r'.find? name = some (overridden e (r.searchPath.userPath name))
  /-- No other file changed. -/
  keeps : r.files.Keeps r'.files (r.files.locationOf (r.searchPath.userPath name))
  /-- The file of the user is there. -/
  isFile : r'.files.isFile (r.searchPath.userPath name) = true

/-- A launcher of the system that is switched off and saved without an error has a file of the
user. -/
theorem OfSystem.switchedOff (h : r.OfSystem name rank path d e) (hshown : e.hidden = false)
    (hwrites : ∀ error, ((r.setHidden name true).2.flush name).1 ≠ .error error) :
    (r.setHidden name true).1 = .ok true ∧
      ((r.setHidden name true).2.flush name).1 = .ok .written ∧
      SwitchedOff r name e ((r.setHidden name true).2.flush name).2 := by
  have hne : e.hidden ≠ true := by simp [hshown]
  have hoff := setHidden_of_ne h.find hne
  have hshadow : (switched e true).shadow? = some rank := by
    rw [h.entry_eq]
    rfl
  rw [hoff] at hwrites ⊢
  refine ⟨rfl, ?_⟩
  dsimp only at hwrites ⊢
  -- The launcher moves to the directory of the user, with its file as the base.
  obtain ⟨waiting, hwaiting⟩ : ∃ waiting : Entry, waiting = { switched e true with
      base? := some path
      source := r.searchPath.userPath name
      rank? := some SearchPath.userRank
      due? := some r.dueTime } := ⟨_, rfl⟩
  have hfind : (r.commit name (switched e true)).find? name = some waiting := by
    have hrank : (switched e true).rank? = some rank := by
      rw [h.entry_eq]
      rfl
    rw [find?_commit, schedule_of_system hrank h.system, hwaiting, h.entry_eq]
    rfl
  have hpending : waiting.isPending = true := by
    rw [hwaiting]
    rfl
  rcases hresult : (r.commit name (switched e true)).flush name with ⟨outcome, r'⟩
  rw [hresult] at hwrites
  cases flush_step hresult with
  | unknown find =>
    rw [hfind] at find
    cases find
  | idle e' find settled =>
    obtain rfl := Option.some.inj (hfind.symm.trans find)
    rw [hpending] at settled
    cases settled
  | back e' rank' path' files find pending twin removed =>
    -- The file of the system says that the launcher is switched on.
    obtain rfl := Option.some.inj (hfind.symm.trans find)
    obtain ⟨hrank', hpath', d', hload', hagrees⟩ := twin?_spec twin
    rw [hwaiting] at hrank' hpath' hagrees
    obtain rfl : rank = rank' := Option.some.inj (hshadow.symm.trans hrank')
    have hfilename : (switched e true).filename = name := by
      rw [h.entry_eq]
      rfl
    have hpath'' : r.searchPath.pathAt? rank name = some path' := hfilename ▸ hpath'
    obtain rfl : path = path' := Option.some.inj (h.path_eq.symm.trans hpath'')
    have hload'' : Document.load r.files path = .ok d' := hload'
    obtain rfl : d = d' := Except.ok.inj (h.load.symm.trans hload'')
    have hhidden : d.flag Document.Key.hidden false = true :=
      (Entry.follows_of_agreesWith hagrees).1 .hidden
    rw [h.entry_eq] at hshown
    exact absurd (hhidden.symm.trans hshown) (by decide)
  | written e' files find pending write =>
    obtain rfl := Option.some.inj (hfind.symm.trans find)
    have hsource : waiting.source = r.searchPath.userPath name := by rw [hwaiting]
    rw [hsource] at write
    obtain ⟨hkeeps, hread⟩ := writeUser_eq_ok write
    obtain ⟨l, hstat⟩ := FileStore.readText_eq_ok_iff.1 hread
    refine ⟨rfl, rfl, ?_, hkeeps, FileStore.isFile_iff.2 ⟨l, _, hstat⟩⟩
    rw [find?_set_self, hwaiting, h.entry_eq]
    rfl
  | failed e' error => exact absurd rfl (hwrites error)

/-- A launcher of the system that was switched off and saved, and waits for the save of being
switched on again. -/
def onAgainEntry (e : Entry) (source : Path) (due : Nat) : Entry :=
  { switched (overridden e source) false with due? := some due }

namespace SwitchedOff

variable {r' : Registry}

/-- A launcher that was switched off can be switched on again, and waits where it is. -/
theorem setHidden_eq (h : SwitchedOff r name e r') :
    ∃ r'', r'.setHidden name false = (.ok true, r'') ∧ r''.files = r'.files ∧
      r''.settings = r.settings ∧
      r''.find? name = some (onAgainEntry e (r.searchPath.userPath name) r'.dueTime) := by
  have hne : (overridden e (r.searchPath.userPath name)).hidden ≠ false := by
    simp [overridden]
  refine ⟨_, setHidden_of_ne h.find hne, rfl, h.settings_eq, ?_⟩
  rw [find?_commit, schedule_of_user rfl]
  rfl

variable {r'' : Registry} {due : Nat}

/-- A launcher that is switched on again has a twin exactly when its document says what it is
called. -/
theorem twin?_eq (h : SwitchedOff r name e r') (hsystem : r.OfSystem name rank path d e)
    (hshown : e.hidden = false)
    (hapart : r.files.locationOf path ≠ r.files.locationOf (r.searchPath.userPath name))
    (hfiles : r''.files = r'.files) (hsettings : r''.settings = r.settings) :
    r''.twin? (undue (onAgainEntry e (r.searchPath.userPath name) due)) =
      if e.agreesWith d r.settings.locale? then some (rank, path) else none := by
  -- The file of the system is as it was, and the launcher holds what it held before.
  have hload : Document.load r''.files path = .ok d := by
    rw [hfiles]
    exact Document.load_of_keeps h.keeps hsystem.load hapart
  have hsearch : r''.searchPath = r.searchPath := congrArg Settings.searchPath hsettings
  have hshadow : (undue (onAgainEntry e (r.searchPath.userPath name) due)).shadow? =
      some rank := by
    rw [hsystem.entry_eq]
    rfl
  have hpath : r''.searchPath.pathAt? rank
      (undue (onAgainEntry e (r.searchPath.userPath name) due)).filename = some path := by
    rw [hsearch, hsystem.entry_eq]
    exact hsystem.path_eq
  have hagrees : (undue (onAgainEntry e (r.searchPath.userPath name) due)).agreesWith d
      r''.settings.locale? = e.agreesWith d r.settings.locale? := by
    rw [hsettings]
    unfold Entry.agreesWith
    rw [hshown]
    rfl
  rw [Registry.twin?_eq hshadow hpath hload, hagrees]

/-- A launcher that was switched off and saved, and is switched on again and saved, is the one of
before, and the file of the user is gone, when its document says what it is called. Else the file of
the user stays. -/
theorem flush_spec (h : SwitchedOff r name e r') (hsystem : r.OfSystem name rank path d e)
    (hshown : e.hidden = false)
    (hapart : r.files.locationOf path ≠ r.files.locationOf (r.searchPath.userPath name))
    (hfiles : r''.files = r'.files) (hsettings : r''.settings = r.settings)
    (hfind : r''.find? name = some (onAgainEntry e (r.searchPath.userPath name) due)) :
    ((r''.flush name).1 = .ok .shadowRemoved ↔ d.NamesItself r.settings.locale?) ∧
      ((r''.flush name).1 = .ok .shadowRemoved →
        (r''.flush name).2.find? name = some e ∧
          (r''.flush name).2.files.isFile (r.searchPath.userPath name) = false) := by
  have hnames : e.agreesWith d r.settings.locale? = true ↔ d.NamesItself r.settings.locale? := by
    rw [hsystem.entry_eq]
    exact Entry.agreesWith_ofDocument_iff name path rank
  have htwin : r''.twin? (undue (onAgainEntry e (r.searchPath.userPath name) due)) = _ :=
    h.twin?_eq hsystem hshown hapart hfiles hsettings
  have hother : (r.searchPath.userPath name).same path = false := by
    refine Bool.eq_false_iff.2 fun hsame => hapart ?_
    rw [r.files.locationOf_eq, r.files.locationOf_eq, (Path.same_iff _ _).1 hsame]
  -- Giving way to the file of the system is taking that of the user away.
  have hwithout : ∀ files, withoutOverride r''.files
      (undue (onAgainEntry e (r.searchPath.userPath name) due)) path = .ok files ↔
        withoutFile r''.files (r.searchPath.userPath name) = .ok files :=
    fun files => withoutOverride_eq_ok_iff rfl hother
  refine ⟨⟨fun hremoved => ?_, fun hnamed => ?_⟩, fun hremoved => ?_⟩
  · obtain ⟨rank', path', files, -, htwin', -, -⟩ := flush_of_shadowRemoved hfind hremoved
    rw [htwin] at htwin'
    refine hnames.1 ?_
    by_contra hne
    rw [if_neg hne] at htwin'
    cases htwin'
  · rw [if_pos (hnames.2 hnamed)] at htwin
    -- The file of the user is there, so it can be removed.
    obtain ⟨l, content, hstat⟩ := FileStore.isFile_iff.1 h.isFile
    have hgone : withoutFile r''.files (r.searchPath.userPath name) =
        .ok { r''.files with nodes := r''.files.nodes.erase l } := by
      rw [hfiles]
      unfold withoutFile FileStore.removeFile
      rw [hstat]
      rfl
    rw [flush_of_twin hfind (isPending_of_dirty (InSync.insert_ne_none _ .hidden)) htwin
      ((hwithout _).2 hgone)]
  · obtain ⟨rank', path', files, -, htwin', hfiles', hend⟩ :=
      flush_of_shadowRemoved hfind hremoved
    obtain ⟨rfl, rfl⟩ : rank = rank' ∧ path = path' := by
      rw [htwin] at htwin'
      split at htwin'
      · exact Prod.mk.inj (Option.some.inj htwin')
      · cases htwin'
    rw [hend]
    constructor
    · -- Nothing is left of the two switches.
      have hback : backToSystem (undue (onAgainEntry e (r.searchPath.userPath name) due)) rank
          path = { e with hidden := false } := by
        rw [hsystem.entry_eq]
        rfl
      rw [find?_set_self, hback, ← hshown]
    · exact isFile_of_withoutFile ((hwithout files).1 hfiles')

end SwitchedOff

/-! ## From a scan -/

/-- A scan of a registry that knows no launcher makes one of the system from its file when the
directory of the user has none of its name. -/
theorem exists_ofSystem (hempty : ∀ key, r.find? key = none)
    (huser : r.files.isFile (r.searchPath.userPath name) = false)
    (hfind : r.scan.find? name = some e) :
    ∃ rank dir d, dir ∈ r.searchPath.systemDirectories ∧ Path.IsFileName name ∧
      r.scan.OfSystem name rank (dir.join name) d e := by
  have hscanned := scanned_scan hempty
  have hmerged := hscanned.mergedFrom name
  rw [hfind] at hmerged
  obtain ⟨rank, dir, d, shadow?, hheld, hreads, -, he, hshadow⟩ := hmerged
  have hsystem : SearchPath.userRank < rank := by
    rcases Nat.eq_zero_or_pos rank with rfl | hpos
    · -- The file of the user would be the one that the scan found.
      have hdir : r.searchPath.userDirectory = dir := Option.some.inj hheld.1
      have hfile := hheld.2.2.2
      rw [← hdir] at hfile
      exact absurd (huser.symm.trans hfile) (by decide)
    · exact hpos
  rw [if_pos hsystem] at hshadow
  have hsettings := hscanned.settings_eq
  refine ⟨rank, dir, d, mem_systemDirectories hheld.1 hsystem, hheld.isFileName, hfind, hsystem,
    ?_, ?_, ?_⟩
  · unfold Registry.searchPath
    rw [hsettings]
    exact SearchPath.pathAt?_of_directoryAt? hheld.1 name
  · rw [hscanned.files_eq]
    exact hreads.1
  · rw [he, hshadow, hsettings]

/-- A launcher of the system, of which the user has no file and which a scan finds switched on, is
switched off and on again with a save after each. The first save writes the file of the user, unless
it fails. The second one takes it away exactly when the document of the system says what the
launcher is called, and then the launcher is the one of before in all that it records, and the user
has no file of it. No directory of the system may stand where that of the user does. -/
theorem restored_offAndOn (hempty : ∀ key, r.find? key = none)
    (hapart : StandsApart r.searchPath r.files)
    (huser : r.files.isFile (r.searchPath.userPath name) = false)
    (hfind : r.scan.find? name = some e) (hshown : e.hidden = false)
    (hwrites : ∀ error, ((r.scan.setHidden name true).2.flush name).1 ≠ .error error) :
    ∃ d r₁ r₂ r₃, Document.load r.files e.source = .ok d ∧
      r.scan.setHidden name true = (.ok true, r₁) ∧ r₁.flush name = (.ok .written, r₂) ∧
      r₂.setHidden name false = (.ok true, r₃) ∧
      ((r₃.flush name).1 = .ok .shadowRemoved ↔ d.NamesItself r.settings.locale?) ∧
      ∀ r₄, r₃.flush name = (.ok .shadowRemoved, r₄) →
        r₄.find? name = some e ∧ r₄.files.isFile (r.searchPath.userPath name) = false := by
  have hscanned := scanned_scan hempty
  have hsearch : r.scan.searchPath = r.searchPath :=
    congrArg Settings.searchPath hscanned.settings_eq
  obtain ⟨rank, dir, d, hdir, hname, hsystem⟩ := exists_ofSystem hempty huser hfind
  obtain ⟨hoff, hwritten, hswitched⟩ := hsystem.switchedOff hshown hwrites
  obtain ⟨r₃, hon, hfiles, hsettings, hfind₃⟩ := hswitched.setHidden_eq
  have hplace : r.scan.files.locationOf (dir.join name) ≠
      r.scan.files.locationOf (r.scan.searchPath.userPath name) := by
    rw [hsearch, hscanned.files_eq]
    show _ ≠ r.files.locationOf (r.searchPath.userDirectory.join name)
    rw [r.files.locationOf_join r.searchPath.userDirectory hname]
    exact hapart.locationOf_ne hdir hname name
  obtain ⟨hiff, hrestored⟩ :=
    hswitched.flush_spec hsystem hshown hplace hfiles hsettings hfind₃
  rw [hscanned.settings_eq] at hiff
  rw [hsearch] at hrestored
  refine ⟨d, _, _, r₃, ?_, Prod.ext hoff rfl, Prod.ext hwritten rfl, hon, hiff, fun r₄ hflush => ?_⟩
  · have hsource : e.source = dir.join name := by
      rw [hsystem.entry_eq]
      rfl
    rw [hsource, ← hscanned.files_eq]
    exact hsystem.load
  · rw [hflush] at hrestored
    exact hrestored rfl

/-- The only launcher of the system is switched off and on again, and is the one of before. -/
theorem restored_oneSystemLauncher :
    ∃ e r₁ r₂ r₃ r₄,
      (fresh oneSystemDirectory oneSystemLauncher 0).scan.find? "a.desktop" = some e ∧
      (fresh oneSystemDirectory oneSystemLauncher 0).scan.setHidden "a.desktop" true =
        (.ok true, r₁) ∧
      r₁.flush "a.desktop" = (.ok .written, r₂) ∧
      r₂.setHidden "a.desktop" false = (.ok true, r₃) ∧
      r₃.flush "a.desktop" = (.ok .shadowRemoved, r₄) ∧
      r₄.find? "a.desktop" = some e ∧ r₄.files.isFile ⟨"user/a.desktop"⟩ = false := by
  have hapart : StandsApart oneSystemDirectory.searchPath oneSystemLauncher := by
    intro dir hdir
    obtain rfl : dir = ⟨"system"⟩ := List.mem_singleton.1 hdir
    decide
  obtain ⟨e, hfind, hshown, hsource⟩ : ∃ e,
      (fresh oneSystemDirectory oneSystemLauncher 0).scan.find? "a.desktop" = some e ∧
        e.hidden = false ∧ e.source = ⟨"system/a.desktop"⟩ := ⟨_, rfl, rfl, rfl⟩
  have hwrites : ∀ error, (((fresh oneSystemDirectory oneSystemLauncher 0).scan.setHidden
      "a.desktop" true).2.flush "a.desktop").1 ≠ .error error := by
    have hwritten : (((fresh oneSystemDirectory oneSystemLauncher 0).scan.setHidden
        "a.desktop" true).2.flush "a.desktop").1 = .ok .written := rfl
    intro error herror
    cases hwritten.symm.trans herror
  obtain ⟨d, r₁, r₂, r₃, hload, hoff, hwritten, hon, hiff, hrestored⟩ :=
    restored_offAndOn (r := fresh oneSystemDirectory oneSystemLauncher 0) (fun _ => rfl) hapart rfl
      hfind hshown hwrites
  have hnames : d.NamesItself none := by
    rw [hsource] at hload
    obtain rfl := Except.ok.inj hload
    intro hmissing
    cases hmissing
  have hremoved : r₃.flush "a.desktop" = (.ok .shadowRemoved, (r₃.flush "a.desktop").2) :=
    Prod.ext (hiff.2 hnames) rfl
  obtain ⟨hsame, hgone⟩ := hrestored _ hremoved
  exact ⟨e, r₁, r₂, r₃, _, hfind, hoff, hwritten, hon, hremoved, hsame, hgone⟩

/-- Files with one launcher, which the system defines and which has no name. -/
def oneUnnamedLauncher : FileStore :=
  (FileStore.atDirectory []).put ⟨"system/a.desktop"⟩ (.file (.text "[Desktop Entry]\nExec=a\n"))

/-- A launcher of the system without a name that is switched off and on again keeps its file in the
directory of the user, though nothing else was changed. -/
theorem overridden_oneUnnamedLauncher :
    StandsApart oneSystemDirectory.searchPath oneUnnamedLauncher ∧
      oneUnnamedLauncher.isFile ⟨"user/a.desktop"⟩ = false ∧
      ((switchedOffAndOn oneSystemDirectory oneUnnamedLauncher).flush "a.desktop").1 =
        .ok .written ∧
      ((switchedOffAndOn oneSystemDirectory oneUnnamedLauncher).flush
        "a.desktop").2.files.readText ⟨"user/a.desktop"⟩ =
          .ok "[Desktop Entry]\nExec=a\nHidden=false\n" ∧
      (((switchedOffAndOn oneSystemDirectory oneUnnamedLauncher).flush "a.desktop").2.find?
        "a.desktop").bind Entry.rank? = some 0 := by
  refine ⟨fun dir hdir => ?_, rfl, rfl, rfl, rfl⟩
  obtain rfl : dir = ⟨"system"⟩ := List.mem_singleton.1 hdir
  decide

end Registry

end Autostart
