import Autostart.Proofs.FileStore.Listing
import Autostart.Proofs.Registry.Backing

/-!
# Changes that wait for a save

A launcher with changes is shielded from everything but the operations on itself. What other
programs do to its file, and what is loaded or reported, changes at most its shadow and the mark of
an own write, and the observers hear nothing of it. The file that the changes are merged into
therefore stays the same from the first edit until a save succeeds or the launcher is dropped,
however often a save fails in between.
-/

namespace Autostart.Registry

/-! ## Launchers that wait -/

/-- A registry keeps the launcher `e` under a file name but for its shadow and the mark of an own
write, and its observers were told of other launchers only since they were told `delivered`. -/
structure Shielded (key : String) (e : Entry) (delivered : List (Nat × Event))
    (r : Registry) : Prop where
  /-- The launcher is kept. -/
  kept : ∃ shadow? ownWrite, r.find? key = some { e with shadow?, ownWrite }
  /-- No event is about the launcher. -/
  quiet : ∃ told, r.observers.delivered = delivered ++ told ∧ ∀ note ∈ told, note.2.filename ≠ key

/-- An action is no edit, no save and no removal of the launcher of a file name. -/
def Spares (r : Registry) (key : String) : Action → Prop
  | .update key' _ _ _ _ | .setHidden key' _ => key' ≠ key
  | .delete key' | .flush key' | .close key' => key' ≠ key
  | .runDueSaves => ∀ e, r.find? key = some e → e.due?.any (· ≤ r.now) = false
  | .shutdown => False
  | _ => True

/-- Taking account of a file under a file name tells the observers nothing, or of this file name. -/
theorem observers_loadEntry (r : Registry) (path : Path) (name : String) (rank : Nat) :
    (r.loadEntry path name rank).2.observers = r.observers ∨
      ∃ event : Event, event.filename = name ∧
        (r.loadEntry path name rank).2.observers = r.observers.tell event := by
  have hread : (r.readEntry path name rank).2.observers = r.observers ∨
      ∃ event : Event, event.filename = name ∧
        (r.readEntry path name rank).2.observers = r.observers.tell event := by
    unfold readEntry
    split
    · exact .inl rfl
    · split
      · exact .inl rfl
      · dsimp only
        split
        · exact .inl rfl
        · refine .inr ⟨_, ?_, rfl⟩
          split <;> rfl
  unfold loadEntry
  split
  · exact hread
  · split
    · exact .inl rfl
    · split
      · exact .inl rfl
      · exact hread

namespace Shielded

variable {key : String} {e : Entry} {delivered : List (Nat × Event)} {r : Registry}

/-- A registry shields each of its launchers from now on. -/
theorem start (h : r.find? key = some e) : Shielded key e r.observers.delivered r :=
  ⟨⟨e.shadow?, e.ownWrite, h⟩, [], (List.append_nil _).symm, fun _ hnote => by cases hnote⟩

/-- Only the launcher of the name and what the observers were told matter. -/
theorem congr {r' : Registry} (h : Shielded key e delivered r) (hfind : r'.find? key = r.find? key)
    (htold : r'.observers.delivered = r.observers.delivered) : Shielded key e delivered r' := by
  refine ⟨?_, ?_⟩
  · rw [hfind]
    exact h.kept
  · rw [htold]
    exact h.quiet

/-- The launcher can be noted anew. -/
theorem note (h : Shielded key e delivered r) (shadow? : Option Nat) (ownWrite : Bool) :
    Shielded key e delivered (r.set key { e with shadow?, ownWrite }) := by
  refine ⟨⟨shadow?, ownWrite, ?_⟩, h.quiet⟩
  rw [find?_set_self]

/-- Another launcher can be set. -/
theorem set (h : Shielded key e delivered r) {key' : String} (hne : key' ≠ key) (e' : Entry) :
    Shielded key e delivered (r.set key' e') :=
  h.congr (by simp [hne.symm]) rfl

/-- Another launcher can be dropped. -/
theorem drop (h : Shielded key e delivered r) {key' : String} (hne : key' ≠ key) :
    Shielded key e delivered (r.drop key') :=
  h.congr (by simp [hne.symm]) rfl

/-- The observers can be told of another launcher. -/
theorem tell (h : Shielded key e delivered r) {event : Event} (hne : event.filename ≠ key) :
    Shielded key e delivered (r.tell event) := by
  obtain ⟨told, hdelivered, htold⟩ := h.quiet
  refine ⟨h.kept, told ++ r.observers.ids.map fun id => (id, event), ?_, fun note hnote => ?_⟩
  · show r.observers.delivered ++ _ = _
    rw [hdelivered, List.append_assoc]
  · rcases List.mem_append.1 hnote with hold | hnew
    · exact htold note hold
    · obtain ⟨id, -, rfl⟩ := List.mem_map.1 hnew
      exact hne

/-- The files can be any others. -/
theorem withFiles (h : Shielded key e delivered r) (files : FileStore) :
    Shielded key e delivered { r with files } :=
  h.congr rfl rfl

/-! ### Loading -/

/-- Taking account of a file of the launcher notes it. -/
theorem loadEntry (h : Shielded key e delivered r) (hdirty : e.dirty ≠ .none) (path : Path)
    (name : String) (rank : Nat) :
    Shielded key e delivered (r.loadEntry path name rank).2 := by
  obtain ⟨shadow?, ownWrite, hfind⟩ := h.kept
  by_cases hname : name = key
  · subst hname
    have hstep := loadEntry_step r path name rank
    generalize (r.loadEntry path name rank).2 = r' at hstep ⊢
    cases hstep with
    | nothing => exact h
    | ownWrite e' find same own =>
      obtain rfl := Option.some.inj (hfind.symm.trans find)
      exact h.note shadow? false
    | shadow e' find before =>
      obtain rfl := Option.some.inj (hfind.symm.trans find)
      by_cases hrank : SearchPath.userRank < rank
      · rw [shadowedBy_eq hrank]
        exact h.note _ ownWrite
      · unfold Entry.shadowedBy
        rw [if_neg hrank]
        exact h.note shadow? ownWrite
    | loaded d event reads settled =>
      -- A launcher with changes is never made anew.
      have hpending := isPending_of_dirty (e := { e with shadow?, ownWrite }) hdirty
      rw [settled _ hfind] at hpending
      cases hpending
  · have hfind' := (loadEntry_step r path name rank).find?_of_ne (Ne.symm hname)
    rcases observers_loadEntry r path name rank with hsame | ⟨event, hevent, htold⟩
    · exact h.congr hfind' (congrArg Observers.delivered hsame)
    · have htell : Shielded key e delivered (r.tell event) := h.tell (hevent ▸ hname)
      exact htell.congr hfind' (congrArg Observers.delivered htold)

/-- Loading any file at any rank leaves the launcher. -/
theorem load (h : Shielded key e delivered r) (hdirty : e.dirty ≠ .none) (path : Path)
    (rank : Nat) : Shielded key e delivered (r.load path rank).2 := by
  rcases hname : path.fileName? with _ | name
  · rw [load_of_fileName?_eq_none hname]
    exact h
  · rw [load_snd hname]
    exact h.loadEntry hdirty path name rank

/-- Loading the first of some files leaves the launcher. -/
theorem loadFirst (h : Shielded key e delivered r) (hdirty : e.dirty ≠ .none)
    (places : List (Nat × Path)) : Shielded key e delivered (r.loadFirst places).2 := by
  induction places generalizing r with
  | nil => exact h
  | cons place rest ih =>
    have hload := h.load hdirty place.2 place.1
    unfold Registry.loadFirst
    split
    · next heq =>
      rw [heq] at hload
      exact hload
    · next heq =>
      rw [heq] at hload
      exact ih hload

/-- A scan leaves the launcher. -/
theorem scan (h : Shielded key e delivered r) (hdirty : e.dirty ≠ .none) :
    Shielded key e delivered r.scan := by
  rw [scan_eq_foldl_see]
  generalize r.sightings = seen
  induction seen generalizing r with
  | nil => exact h
  | cons s rest ih => exact ih (h.load hdirty _ _)

/-- A report of a change leaves the launcher. -/
theorem fileChanged (h : Shielded key e delivered r) (hdirty : e.dirty ≠ .none) (path : Path) :
    Shielded key e delivered (r.fileChanged path).2 := by
  unfold Registry.fileChanged
  split
  · split
    · exact h.load hdirty path _
    · exact h
  · exact h

/-- A report of a removal leaves the launcher. -/
theorem fileRemoved (h : Shielded key e delivered r) (hdirty : e.dirty ≠ .none) (path : Path) :
    Shielded key e delivered (r.fileRemoved path) := by
  unfold Registry.fileRemoved
  split
  · next rank name hrank hname =>
    split
    · exact h
    · next e' hfind' =>
      split
      · exact h
      · next hsettled =>
        -- The launcher that the report is about has no changes, so it is another one.
        have hne : name ≠ key := by
          rintro rfl
          obtain ⟨shadow?, ownWrite, hfind⟩ := h.kept
          obtain rfl := Option.some.inj (hfind.symm.trans hfind')
          exact hsettled (isPending_of_dirty hdirty)
        split
        · split
          · exact h.set hne _
          · exact h
        · have hfirst := (h.set hne { e' with rank? := none, shadow? := none }).loadFirst hdirty
            (r.definitionsAfter rank name)
          dsimp only
          split
          · next heq =>
            rw [heq] at hfirst
            exact hfirst
          · next heq =>
            rw [heq] at hfirst
            exact (hfirst.drop hne).tell hne
  · exact h

/-! ### Operations on other launchers -/

/-- An edit of another launcher leaves the launcher. -/
theorem commit (h : Shielded key e delivered r) {key' : String} (hne : key' ≠ key) (e' : Entry) :
    Shielded key e delivered (r.commit key' e') :=
  (h.set hne _).tell hne

/-- An update of another launcher leaves the launcher. -/
theorem update (h : Shielded key e delivered r) {key' : String} (hne : key' ≠ key)
    (name? comment? exec? : Option String) (delay : Nat) :
    Shielded key e delivered (r.update key' name? comment? exec? delay).2 := by
  rcases hresult : r.update key' name? comment? exec? delay with ⟨outcome, r'⟩
  cases update_step hresult with
  | unknown => exact h
  | same => exact h
  | edited => exact h.commit hne _

/-- Switching another launcher off or on leaves the launcher. -/
theorem setHidden (h : Shielded key e delivered r) {key' : String} (hne : key' ≠ key)
    (hidden : Bool) : Shielded key e delivered (r.setHidden key' hidden).2 := by
  rcases hresult : r.setHidden key' hidden with ⟨outcome, r'⟩
  cases setHidden_step hresult with
  | unknown => exact h
  | same => exact h
  | switched => exact h.commit hne _

/-- Deleting another launcher leaves the launcher. -/
theorem delete (h : Shielded key e delivered r) {key' : String} (hne : key' ≠ key) :
    Shielded key e delivered (r.delete key').2 := by
  rcases hresult : r.delete key' with ⟨outcome, r'⟩
  cases delete_step hresult with
  | unknown => exact h
  | failed => exact h
  | removed e' files find own removed =>
    exact ((h.withFiles files).drop hne).tell hne
  | switched => exact h.commit hne _

/-- A file name without a launcher is not that of the launcher. -/
theorem ne_of_free (h : Shielded key e delivered r) {name : String} (hfree : r.find? name = none) :
    name ≠ key := by
  rintro rfl
  obtain ⟨shadow?, ownWrite, hfind⟩ := h.kept
  rw [hfree] at hfind
  cases hfind

/-- Making another launcher leaves the launcher. -/
theorem create (h : Shielded key e delivered r) (request : Request) :
    Shielded key e delivered (r.create request).2 := by
  rcases hresult : r.create request with ⟨outcome, r'⟩
  cases create_step hresult with
  | refused => exact h
  | made name isFileName free =>
    have hne := h.ne_of_free (find?_of_isTaken free)
    exact (h.set hne _).tell hne

/-- Bringing in another launcher leaves the launcher. -/
theorem copyFrom (h : Shielded key e delivered r) (hdirty : e.dirty ≠ .none) (text : String) :
    Shielded key e delivered (r.copyFrom text).2 := by
  have hload : ∀ name files, Shielded key e delivered
      (({ r with files } : Registry).load (r.searchPath.userPath name) SearchPath.userRank).2 :=
    fun name files =>
      (h.withFiles files).load hdirty (r.searchPath.userPath name) SearchPath.userRank
  rcases hresult : r.copyFrom text with ⟨outcome, r'⟩
  cases copyFrom_step hresult with
  | refused => exact h
  | failed error name files => exact h.withFiles files
  | loaded name files r' e' isFileName free brought load =>
    have hafter := hload name files
    rw [load] at hafter
    rcases switchOn_cases r' name e' with heq | heq
    · rw [heq]
      exact hafter
    · rw [heq]
      exact hafter.commit (h.ne_of_free (find?_of_isTaken free)) _
  | useless error name files r' isFileName free brought load =>
    have hafter := hload name files
    rw [load] at hafter
    exact hafter.withFiles _

/-- Saving another launcher leaves the launcher. -/
theorem flush (h : Shielded key e delivered r) {key' : String} (hne : key' ≠ key) :
    Shielded key e delivered (r.flush key').2 := by
  rcases hresult : r.flush key' with ⟨outcome, r'⟩
  cases flush_step hresult with
  | unknown => exact h
  | idle => exact h
  | back e' rank path files find pending twin removed => exact (h.withFiles files).set hne _
  | written e' files find pending write => exact (h.withFiles files).set hne _
  | failed e' error files find => exact (h.withFiles files).set hne _

/-- Saving other launchers one after the other leaves the launcher. -/
theorem flushEach (h : Shielded key e delivered r) {names : List String} (hnames : key ∉ names) :
    Shielded key e delivered (r.flushEach names).2 := by
  induction names generalizing r with
  | nil => exact h
  | cons name rest ih =>
    obtain ⟨hne, hrest⟩ := not_or.1 (mt List.mem_cons.2 hnames)
    have hflush := h.flush (Ne.symm hne)
    unfold Registry.flushEach
    split
    · next heq =>
      rw [heq] at hflush
      exact ih hflush hrest
    · next heq =>
      rw [heq] at hflush
      exact ih hflush hrest

/-- Closing another launcher leaves the launcher. -/
theorem close (h : Shielded key e delivered r) {key' : String} (hne : key' ≠ key) :
    Shielded key e delivered (r.close key').2 := by
  rcases close_cases r key' with heq | heq | heq | heq
  · rw [heq]
    exact h
  · rw [heq]
    exact h.flush hne
  · rw [heq]
    exact h.drop hne
  · rw [heq]
    exact (h.flush hne).drop hne

/-- Every action that spares the launcher leaves it. -/
theorem perform (h : Shielded key e delivered r) (hdirty : e.dirty ≠ .none) {a : Action}
    (hspares : r.Spares key a) : Shielded key e delivered (r.perform a) := by
  cases a with
  | scan => exact h.scan hdirty
  | load path rank => exact h.load hdirty path rank
  | fileChanged path => exact h.fileChanged hdirty path
  | fileRemoved path => exact h.fileRemoved hdirty path
  | update key' name? comment? exec? delay => exact h.update hspares name? comment? exec? delay
  | setHidden key' hidden => exact h.setHidden hspares hidden
  | delete key' => exact h.delete hspares
  | create request => exact h.create request
  | copyFrom text => exact h.copyFrom hdirty text
  | flush key' => exact h.flush hspares
  | runDueSaves =>
    refine h.flushEach fun hmem => ?_
    obtain ⟨e', hfind, hdue⟩ := mem_namesWhere_iff.1 hmem
    have hwaits := hspares e' hfind
    simp only [hdue] at hwaits
    cases hwaits
  | close key' => exact h.close hspares
  | shutdown => exact hspares.elim
  | advance milliseconds => exact h.congr rfl rfl
  | subscribe => exact h.congr rfl rfl
  | unsubscribe id => exact h.congr rfl rfl
  | outside files => exact h.withFiles files

end Shielded

/-! ## The base of the save -/

/-- A launcher has changes that will be merged into the file `base`. -/
def Waits (key : String) (base : Path) (r : Registry) : Prop :=
  ∃ e, r.find? key = some e ∧ e.dirty ≠ .none ∧ mergeBase e = base

/-- An action ends the wait of a launcher for its save: a save of it succeeds, or it is dropped. -/
def Ends (r : Registry) (key : String) : Action → Prop
  | .flush key' => key' = key ∧ ∃ outcome, (r.flush key).1 = .ok outcome
  | .delete key' => key' = key ∧ (r.delete key).2.find? key = none
  | .close key' => key' = key ∧ (r.close key).1 = .ok ()
  | .runDueSaves =>
    (∃ e, r.find? key = some e ∧ e.due?.any (· ≤ r.now) = true) ∧
      ∀ error, (key, error) ∉ r.runDueSaves.1
  | .shutdown => True
  | _ => False

/-- No action of a list that is performed one after the other ends the wait of a launcher. -/
def NeverEnds (key : String) : Registry → List Action → Prop
  | _, [] => True
  | r, a :: rest => ¬ r.Ends key a ∧ NeverEnds key (r.perform a) rest

namespace Waits

variable {key : String} {base : Path} {r : Registry}

/-- A launcher that is shielded still waits. -/
theorem of_shielded {e : Entry} {delivered : List (Nat × Event)}
    (h : Shielded key e delivered r) (hdirty : e.dirty ≠ .none) (hbase : mergeBase e = base) :
    Waits key base r := by
  obtain ⟨shadow?, ownWrite, hfind⟩ := h.kept
  exact ⟨_, hfind, hdirty, hbase⟩

/-- A launcher waits after an edit that left changes, with the base that it had before. -/
theorem commit {e changed : Entry} (hdirty : changed.dirty ≠ .none)
    (hbase : mergeBase changed = mergeBase e) : Waits key (mergeBase e) (r.commit key changed) := by
  refine ⟨_, find?_commit r key changed, ?_,
    (Backed.mergeBase_schedule _ _ _).trans hbase⟩
  rw [(Entry.schedule_spec changed r.searchPath r.dueTime).2.1]
  exact hdirty

/-- A further update leaves a launcher waiting. -/
theorem update (h : Waits key base r) (name? comment? exec? : Option String) (delay : Nat) :
    Waits key base (r.update key name? comment? exec? delay).2 := by
  obtain ⟨e, hfind, -, rfl⟩ := id h
  rcases hresult : r.update key name? comment? exec? delay with ⟨outcome, r'⟩
  cases update_step hresult with
  | unknown => exact h
  | same => exact h
  | edited e' find differs =>
    obtain rfl := Option.some.inj (hfind.symm.trans find)
    exact commit (InSync.dirty_edited_ne_none differs) rfl

/-- Switching a launcher off or on leaves it waiting. -/
theorem setHidden (h : Waits key base r) (hidden : Bool) :
    Waits key base (r.setHidden key hidden).2 := by
  obtain ⟨e, hfind, -, rfl⟩ := id h
  rcases hresult : r.setHidden key hidden with ⟨outcome, r'⟩
  cases setHidden_step hresult with
  | unknown => exact h
  | same => exact h
  | switched e' find =>
    obtain rfl := Option.some.inj (hfind.symm.trans find)
    exact commit (InSync.insert_ne_none e.dirty .hidden) rfl

/-- A deletion that does not drop a launcher leaves it waiting. -/
theorem delete (h : Waits key base r) (hkept : (r.delete key).2.find? key ≠ none) :
    Waits key base (r.delete key).2 := by
  obtain ⟨e, hfind, -, rfl⟩ := id h
  rcases hresult : r.delete key with ⟨outcome, r'⟩
  rw [hresult] at hkept
  cases delete_step hresult with
  | unknown => exact h
  | failed => exact h
  | removed e' files find own removed =>
    have hgone : (({ r with files }.drop key).tell (.removed key)).find? key = none := by
      rw [find?_tell, find?_drop, if_pos rfl]
    exact absurd hgone hkept
  | switched e' find =>
    obtain rfl := Option.some.inj (hfind.symm.trans find)
    exact commit (InSync.insert_ne_none e.dirty .hidden) rfl

/-- A save that fails leaves a launcher waiting. -/
theorem flush (h : Waits key base r) {error : Error} (hfailed : (r.flush key).1 = .error error) :
    Waits key base (r.flush key).2 := by
  obtain ⟨e, hfind, hdirty, rfl⟩ := h
  rcases hresult : r.flush key with ⟨outcome, r'⟩
  rw [hresult] at hfailed
  obtain rfl : outcome = .error error := hfailed
  cases flush_step hresult with
  | unknown find =>
    rw [hfind] at find
    cases find
  | failed e' _ files find =>
    obtain rfl := Option.some.inj (hfind.symm.trans find)
    exact ⟨undue e, (find?_set _ key key _).trans (if_pos rfl), hdirty, rfl⟩

/-- Closing a launcher leaves it waiting when its save fails. -/
theorem close (h : Waits key base r) (hfailed : (r.close key).1 ≠ .ok ()) :
    Waits key base (r.close key).2 := by
  obtain ⟨e, hfind, hdirty, hbase⟩ := id h
  unfold Registry.close at hfailed ⊢
  rw [hfind] at hfailed ⊢
  simp only [isPending_of_dirty hdirty, if_true] at hfailed ⊢
  split at hfailed
  · exact absurd rfl hfailed
  · next error r' heq =>
    have hflush := h.flush (congrArg Prod.fst heq)
    rw [heq] at hflush
    exact hflush

/-- Saves one after the other leave a launcher waiting whose own save was not tried, or failed. -/
theorem flushEach (h : Waits key base r) {names : List String} (hnodup : names.Nodup)
    (hfailed : key ∈ names → ∃ error, (key, error) ∈ (r.flushEach names).1) :
    Waits key base (r.flushEach names).2 := by
  induction names generalizing r with
  | nil => exact h
  | cons name rest ih =>
    obtain ⟨hnotin, hrest⟩ := List.nodup_cons.1 hnodup
    by_cases hname : name = key
    · subst hname
      have hfailed' := hfailed List.mem_cons_self
      unfold Registry.flushEach at hfailed' ⊢
      split at hfailed'
      · -- The other saves are saves of other launchers, so none of them is the one that failed.
        obtain ⟨error, hmem⟩ := hfailed'
        exact absurd (mem_of_mem_flushEach hmem) hnotin
      · next error r' heq =>
        have hflush := h.flush (congrArg Prod.fst heq)
        rw [heq] at hflush
        exact ih hflush hrest fun hmem => absurd hmem hnotin
    · obtain ⟨e, hfind, hdirty, hbase⟩ := h
      have hnext := of_shielded ((Shielded.start hfind).flush hname) hdirty hbase
      have hfailed' : key ∈ rest → ∃ error, (key, error) ∈ ((r.flush name).2.flushEach rest).1 := by
        intro hmem
        obtain ⟨error, hin⟩ := hfailed (List.mem_cons_of_mem name hmem)
        refine ⟨error, ?_⟩
        unfold Registry.flushEach at hin
        split at hin
        · next heq =>
          rw [heq]
          exact hin
        · next heq =>
          rw [heq]
          rcases List.mem_cons.1 hin with hhead | htail
          · exact absurd (congrArg Prod.fst hhead).symm hname
          · exact htail
      have hall := ih hnext hrest hfailed'
      unfold Registry.flushEach
      split
      · next heq =>
        rw [heq] at hall
        exact hall
      · next heq =>
        rw [heq] at hall
        exact hall

/-- Every action that does not end the wait leaves the launcher waiting, with the same base. -/
theorem perform (h : Waits key base r) {a : Action} (hgoes : ¬ r.Ends key a) :
    Waits key base (r.perform a) := by
  obtain ⟨e, hfind, hdirty, hbase⟩ := id h
  have hspared : r.Spares key a → Waits key base (r.perform a) := fun hspares =>
    of_shielded ((Shielded.start hfind).perform hdirty hspares) hdirty hbase
  -- Only operations on the launcher itself are left.
  cases a with
  | scan => exact hspared trivial
  | load path rank => exact hspared trivial
  | fileChanged path => exact hspared trivial
  | fileRemoved path => exact hspared trivial
  | update key' name? comment? exec? delay =>
    by_cases hkey : key' = key
    · subst hkey
      exact h.update name? comment? exec? delay
    · exact hspared hkey
  | setHidden key' hidden =>
    by_cases hkey : key' = key
    · subst hkey
      exact h.setHidden hidden
    · exact hspared hkey
  | delete key' =>
    by_cases hkey : key' = key
    · subst hkey
      exact h.delete fun hgone => hgoes ⟨rfl, hgone⟩
    · exact hspared hkey
  | create request => exact hspared trivial
  | copyFrom text => exact hspared trivial
  | flush key' =>
    by_cases hkey : key' = key
    · subst hkey
      rcases houtcome : (r.flush key').1 with error | outcome
      · exact h.flush houtcome
      · exact absurd ⟨rfl, outcome, houtcome⟩ hgoes
    · exact hspared hkey
  | runDueSaves =>
    refine h.flushEach (nodup_namesWhere r _) fun hmem => ?_
    have hdue := mem_namesWhere_iff.1 hmem
    by_contra hnone
    exact hgoes ⟨hdue, not_exists.1 hnone⟩
  | close key' =>
    by_cases hkey : key' = key
    · subst hkey
      exact h.close fun hclosed => hgoes ⟨rfl, hclosed⟩
    · exact hspared hkey
  | shutdown => exact absurd trivial hgoes
  | advance milliseconds => exact hspared trivial
  | subscribe => exact hspared trivial
  | unsubscribe id => exact hspared trivial
  | outside files => exact hspared trivial

/-- A run that never ends the wait leaves the launcher waiting, with the same base. -/
theorem foldl (h : Waits key base r) {actions : List Action} (hgoes : NeverEnds key r actions) :
    Waits key base (actions.foldl Registry.perform r) := by
  induction actions generalizing r with
  | nil => exact h
  | cons a rest ih => exact ih (h.perform hgoes.1) hgoes.2

end Waits

/-- Whatever happens to a registry but an operation on it leaves a launcher with changes as it is
but for its shadow and the mark of an own write, and is not reported as an event of it. Until a save
of the launcher succeeds or the launcher is dropped, no run, whatever edits and failed saves it goes
through, changes the file that its changes are merged into. -/
theorem shielded_until_saved {r : Registry} {key : String} {e : Entry}
    (hfind : r.find? key = some e) (hdirty : e.dirty ≠ .none) :
    (∀ a, r.Spares key a → Shielded key e r.observers.delivered (r.perform a)) ∧
      ∀ actions, NeverEnds key r actions →
        Waits key (mergeBase e) (actions.foldl perform r) := by
  refine ⟨fun a hspares => (Shielded.start hfind).perform hdirty hspares, fun actions hgoes => ?_⟩
  have hwaits : Waits key (mergeBase e) r := ⟨e, hfind, hdirty, rfl⟩
  exact hwaits.foldl hgoes

/-- The files of one launcher of the system, with a file in the place of the directory of the
user. -/
def oneBlockedLauncher : FileStore :=
  oneSystemLauncher.put ⟨"user"⟩ (.file (.text ""))

/-- A run in which a save fails between two edits. -/
def failedBetweenEdits : List Action :=
  [.outside oneBlockedLauncher, .flush "a.desktop", .update "a.desktop" (some "B") none none 0]

/-- A launcher of the system that was switched off is not touched by a report that its file was
removed, and its file stays the base when a save fails and another edit follows. -/
theorem waits_switchedOff :
    (∃ e, switchedOff.find? "a.desktop" = some e ∧ e.dirty ≠ .none ∧
      Shielded "a.desktop" e switchedOff.observers.delivered
        (switchedOff.perform (.fileRemoved ⟨"system/a.desktop"⟩))) ∧
      Waits "a.desktop" ⟨"system/a.desktop"⟩ (failedBetweenEdits.foldl perform switchedOff) := by
  have hfails : NeverEnds "a.desktop" switchedOff failedBetweenEdits := by
    refine ⟨id, ?_, id, trivial⟩
    rintro ⟨-, outcome, houtcome⟩
    cases houtcome
  obtain ⟨e, hfind, hdirty, hbase⟩ : ∃ e, switchedOff.find? "a.desktop" = some e ∧
      e.dirty ≠ .none ∧ mergeBase e = ⟨"system/a.desktop"⟩ := ⟨_, rfl, by decide, rfl⟩
  obtain ⟨hshielded, hwaits⟩ := shielded_until_saved hfind hdirty
  have hrun := hwaits failedBetweenEdits hfails
  rw [hbase] at hrun
  exact ⟨⟨e, hfind, hdirty, hshielded _ trivial⟩, hrun⟩

end Autostart.Registry
