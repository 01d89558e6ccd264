import Autostart.Proofs.Registry.Storable
import Autostart.Proofs.Registry.SyncState

/-!
# What an update comes to

An update compares the texts and the delay that it is given with those that a launcher holds, where
an absent text counts as empty. The launcher holds them afterwards, and exactly the fields in which
it held something else are marked for its save. An update with nothing new leaves the registry as it
is, so that the same update again has nothing to do.
-/

namespace Autostart

namespace Entry

/-- A launcher has some texts, where an absent one counts as empty, and a delay. -/
structure Has (e : Entry) (name? comment? exec? : Option String) (delay : Nat) : Prop where
  /-- It has the name. -/
  name : Text.agree name? e.name? = true
  /-- It has the comment. -/
  comment : Text.agree comment? e.comment? = true
  /-- It has the command line. -/
  exec : Text.agree exec? e.exec? = true
  /-- It has the delay. -/
  delay : e.delay = delay

/-- What an update keeps of a launcher and where its save goes: into the file of the user, with the
file that spoke for a launcher of the system as the base. -/
structure IsUpdateOf (e' e : Entry) (s : SearchPath) (due : Nat) : Prop where
  /-- It has the same file name. -/
  filename_eq : e'.filename = e.filename
  /-- It is switched off or on as before. -/
  hidden_eq : e'.hidden = e.hidden
  /-- It is in lists or left out of them as before. -/
  noDisplay_eq : e'.noDisplay = e.noDisplay
  /-- The same icon is specified. -/
  iconSpec?_eq : e'.iconSpec? = e.iconSpec?
  /-- The same icon is shown. -/
  icon?_eq : e'.icon? = e.icon?
  /-- The same rank of the system defines it too. -/
  shadow?_eq : e'.shadow? = e.shadow?
  /-- A report of an own write is awaited as before. -/
  ownWrite_eq : e'.ownWrite = e.ownWrite
  /-- Its save is due. -/
  due?_eq : e'.due? = some due
  /-- The user defines it. -/
  rank?_eq : e'.rank? = some SearchPath.userRank
  /-- A launcher of the user stays where it is. -/
  own : e.rank? = some SearchPath.userRank → e'.source = e.source ∧ e'.base? = e.base?
  /-- A launcher of the system moves to the directory of the user. -/
  promoted : e.rank? ≠ some SearchPath.userRank →
    e'.source = s.userPath e.filename ∧ e'.base? = some e.source

/-- A launcher with a save due is one of the user. -/
theorem rank?_schedule (e : Entry) (s : SearchPath) (due : Nat) :
    (e.schedule s due).rank? = some SearchPath.userRank := by
  unfold schedule
  split
  · next hrank => exact hrank
  · rfl

/-- A save that becomes due after an update goes into the file of the user. -/
theorem isUpdateOf_schedule {e : Entry}
    (hbase : e.rank? ≠ some SearchPath.userRank → e.base? = none)
    (name? comment? exec? : Option String) (delay : Nat) (s : SearchPath) (due : Nat) :
    ((Registry.edited e name? comment? exec? delay).describeAnew.schedule s due).IsUpdateOf e s
      due := by
  unfold schedule
  split
  · next hown =>
    have hown : e.rank? = some SearchPath.userRank := hown
    exact ⟨rfl, rfl, rfl, rfl, rfl, rfl, rfl, rfl, hown, fun _ => ⟨rfl, rfl⟩,
      fun hsystem => absurd hown hsystem⟩
  · next hsystem =>
    have hsystem : e.rank? ≠ some SearchPath.userRank := hsystem
    -- No earlier base is in the way of the source.
    have hsource : some (e.base?.getD e.source) = some e.source := by rw [hbase hsystem]; rfl
    exact ⟨rfl, rfl, rfl, rfl, rfl, rfl, rfl, rfl, rfl, fun hown => absurd hown hsystem,
      fun _ => ⟨rfl, hsource⟩⟩

section Edited

variable (e : Entry) (name? comment? exec? : Option String) (delay : Nat)

/-- A text that is replaced by another one unless they agree agrees with it. -/
theorem agree_replaced (text? old? : Option String) :
    Text.agree text? (if !Text.agree text? old? then text? else old?) = true := by
  rcases hagree : Text.agree text? old? with _ | _
  · exact (Text.agree_iff text? text?).2 rfl
  · exact hagree

/-- An edited launcher has what it was given, also when its save is due. -/
theorem has_edited (s : SearchPath) (due : Nat) :
    ((Registry.edited e name? comment? exec? delay).describeAnew.schedule s due).Has name?
      comment? exec? delay := by
  have hedited : (Registry.edited e name? comment? exec? delay).describeAnew.Has name? comment?
      exec? delay :=
    ⟨agree_replaced name? e.name?, agree_replaced comment? e.comment?,
      agree_replaced exec? e.exec?, rfl⟩
  unfold schedule
  split
  · exact ⟨hedited.name, hedited.comment, hedited.exec, hedited.delay⟩
  · exact ⟨hedited.name, hedited.comment, hedited.exec, hedited.delay⟩

/-- An edited launcher has the fields marked that were and those that the edit changes, also when
its save is due. -/
theorem contains_edited_schedule (s : SearchPath) (due : Nat) (f : Field) :
    ((Registry.edited e name? comment? exec? delay).describeAnew.schedule s due).dirty.contains f =
        true ↔
      e.dirty.contains f = true ∨ e.isChanged name? comment? exec? delay f = true := by
  obtain ⟨-, hdirty, -⟩ :=
    (Registry.edited e name? comment? exec? delay).describeAnew.schedule_spec s due
  rw [hdirty, or_comm, ← Bool.or_eq_true, ← contains_edited]
  exact Iff.rfl

/-- A launcher has the given texts and delay when it differs from them in no field. -/
theorem has_iff :
    e.Has name? comment? exec? delay ↔
      ∀ f, e.isChanged name? comment? exec? delay f = false := by
  refine ⟨fun h f => ?_, fun h => ⟨?_, ?_, ?_, ?_⟩⟩
  · cases f with
    | hidden => rfl
    | name => simp [isChanged, h.name]
    | comment => simp [isChanged, h.comment]
    | exec => simp [isChanged, h.exec]
    | delay => simp [isChanged, h.delay]
  · simpa [isChanged] using h .name
  · simpa [isChanged] using h .comment
  · simpa [isChanged] using h .exec
  · have hdelay : delay = e.delay := by simpa [isChanged] using h .delay
    exact hdelay.symm

/-- An edit makes a difference unless the launcher has what it is given. -/
theorem differs_eq_false_iff :
    Registry.differs e name? comment? exec? delay = false ↔
      e.Has name? comment? exec? delay := by
  unfold Registry.differs
  simp only [Bool.or_eq_false_iff, Bool.not_eq_false', decide_eq_false_iff_not, not_not, ne_eq]
  constructor
  · rintro ⟨⟨⟨hname, hcomment⟩, hexec⟩, hdelay⟩
    exact ⟨hname, hcomment, hexec, hdelay.symm⟩
  · rintro ⟨hname, hcomment, hexec, hdelay⟩
    exact ⟨⟨⟨hname, hcomment⟩, hexec⟩, hdelay.symm⟩

end Edited

end Entry

namespace Registry

variable {r : Registry} {key : String} {e : Entry}

/-- In every run a launcher that the user does not define has no base of a save. -/
theorem Reachable.base?_eq_none {allowed : Action → Prop} {settings : Settings}
    (h : Reachable allowed settings r) (hfind : r.find? key = some e) :
    e.rank? ≠ some SearchPath.userRank → e.base? = none := by
  refine h.entry_invariant
    (P := fun _ e => e.rank? ≠ some SearchPath.userRank → e.base? = none) ?_ hfind
  intro a key before? after? _ hchange hbefore e he
  cases hchange with
  | dropped => cases he
  | made before? path d rank shadow? =>
    obtain rfl := Option.some.inj he
    exact fun _ => rfl
  | command before? request path due =>
    obtain rfl := Option.some.inj he
    exact fun hsystem => absurd (Entry.rank?_schedule _ settings.searchPath due) hsystem
  | edited e' name? comment? exec? delay due =>
    obtain rfl := Option.some.inj he
    exact fun hsystem => absurd (Entry.rank?_schedule _ settings.searchPath due) hsystem
  | switched e' hidden due =>
    obtain rfl := Option.some.inj he
    exact fun hsystem => absurd (Entry.rank?_schedule _ settings.searchPath due) hsystem
  | shadowed e' | reported e' | undue e' =>
    obtain rfl := Option.some.inj he
    exact hbefore e' rfl
  | saved e' | back e' =>
    -- What was saved needs no base any more.
    obtain rfl := Option.some.inj he
    exact fun _ => rfl

/-- An update of a launcher that has what it is given changes nothing. -/
theorem update_of_has {name? comment? exec? : Option String} {delay : Nat}
    (hfind : r.find? key = some e) (hhas : e.Has name? comment? exec? delay) :
    r.update key name? comment? exec? delay = (.ok false, r) := by
  unfold update
  rw [hfind]
  exact if_neg (Bool.eq_false_iff.1 ((Entry.differs_eq_false_iff e name? comment? exec?
    delay).2 hhas))

/-- An update of a launcher that does not have what it is given edits it. -/
theorem update_of_not_has {name? comment? exec? : Option String} {delay : Nat}
    (hfind : r.find? key = some e) (hdiffers : ¬e.Has name? comment? exec? delay) :
    r.update key name? comment? exec? delay =
      (.ok true, r.commit key (edited e name? comment? exec? delay).describeAnew) := by
  rw [← Entry.differs_eq_false_iff, Bool.not_eq_false] at hdiffers
  unfold update
  rw [hfind]
  exact if_pos hdiffers

/-- At every point of a run an update of a launcher that is known succeeds. The launcher holds the
texts and the delay afterwards. The fields in which it held something else, and no others, are
marked in addition to those that were. The update says whether there are such fields: without any
the registry stays as it is, and else it differs in this launcher only, the observers are told once
that it changed, and the launcher keeps what no update gives. The same update again finds nothing to
do. -/
theorem update_exact {allowed : Action → Prop} {settings : Settings}
    (h : Reachable allowed settings r) (hfind : r.find? key = some e)
    (name? comment? exec? : Option String) (delay : Nat) :
    ∃ changed r' e', r.update key name? comment? exec? delay = (.ok changed, r') ∧
      r'.find? key = some e' ∧ e'.Has name? comment? exec? delay ∧
      (∀ f, e'.dirty.contains f = true ↔
        e.dirty.contains f = true ∨ e.isChanged name? comment? exec? delay f = true) ∧
      (changed = true ↔ ∃ f, e.isChanged name? comment? exec? delay f = true) ∧
      (changed = false → r' = r) ∧
      (changed = true → r' = (r.set key e').tell (.changed key) ∧
        e'.IsUpdateOf e r.searchPath r.dueTime) ∧
      r'.update key name? comment? exec? delay = (.ok false, r') := by
  by_cases hhas : e.Has name? comment? exec? delay
  · have hsame := (e.has_iff name? comment? exec? delay).1 hhas
    have hupdate := update_of_has hfind hhas
    refine ⟨false, r, e, hupdate, hfind, hhas, fun f => ?_, ?_, fun _ => rfl,
      fun hchanged => absurd hchanged Bool.false_ne_true, hupdate⟩
    · simp [hsame f]
    · simp [hsame]
  · have hdiffers : ∃ f, e.isChanged name? comment? exec? delay f = true := by
      rw [Entry.has_iff] at hhas
      simpa using hhas
    have hafter : (r.commit key (edited e name? comment? exec? delay).describeAnew).find? key =
        some ((edited e name? comment? exec? delay).describeAnew.schedule r.searchPath
          r.dueTime) := find?_commit r key _
    have hgiven := e.has_edited name? comment? exec? delay r.searchPath r.dueTime
    refine ⟨true, _, _, update_of_not_has hfind hhas, hafter, hgiven, ?_,
      iff_of_true rfl hdiffers, fun hsame => absurd hsame.symm Bool.false_ne_true,
      fun _ => ⟨rfl, ?_⟩, update_of_has hafter hgiven⟩
    · exact e.contains_edited_schedule name? comment? exec? delay r.searchPath r.dueTime
    · exact Entry.isUpdateOf_schedule (h.base?_eq_none hfind) name? comment? exec? delay _ _

/-- An update of a launcher of the system with an empty comment in place of none. -/
theorem update_exact_oneSystemLauncher :
    ∃ e e' r', (fresh oneSystemDirectory oneSystemLauncher 0).scan.find? "a.desktop" = some e ∧
      (fresh oneSystemDirectory oneSystemLauncher 0).scan.update "a.desktop" (some "B") (some "")
        e.exec? 0 = (.ok true, r') ∧
      r'.find? "a.desktop" = some e' ∧ e'.base? = some e.source ∧
      r'.update "a.desktop" (some "B") (some "") e.exec? 0 = (.ok false, r') := by
  have hreachable : Reachable (fun _ => True) oneSystemDirectory
      (fresh oneSystemDirectory oneSystemLauncher 0).scan :=
    .step _ .scan (.fresh oneSystemLauncher 0) trivial
  have hscan : ∃ e, (fresh oneSystemDirectory oneSystemLauncher 0).scan.find? "a.desktop" =
      some e ∧ e.name? = some "A" ∧ e.rank? = some 1 := ⟨_, rfl, rfl, rfl⟩
  obtain ⟨e, hfind, hname, hrank⟩ := hscan
  obtain ⟨changed, r', e', hupdate, hfind', -, -, hchanged, -, hrest, hagain⟩ :=
    update_exact hreachable hfind (some "B") (some "") e.exec? 0
  have hdiffers : e.isChanged (some "B") (some "") e.exec? 0 .name = true := by
    simp only [Entry.isChanged, hname]
    decide
  obtain rfl : changed = true := hchanged.2 ⟨.name, hdiffers⟩
  have hsystem : e.rank? ≠ some SearchPath.userRank := by
    rw [hrank]
    decide
  exact ⟨e, e', r', hfind, hupdate, hfind', ((hrest rfl).2.promoted hsystem).2, hagain⟩

end Registry

end Autostart
