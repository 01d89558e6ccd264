import Autostart.Proofs.Document.Values
import Autostart.Proofs.FileStore.Touching
import Autostart.Proofs.Registry.Loading
import Autostart.Registry.Saving

/-!
# What a save does

A save of a launcher with changes ends in one of three ways: the launcher gives way to the file of
the system that says the same, its merged document is written, or the save fails and nothing is lost
but the time at which it was due.
-/

namespace Autostart.Registry

/-- A launcher whose save is not due any more. -/
def undue (e : Entry) : Entry :=
  { e with due? := none }

/-- A launcher with changes waits for a save. -/
theorem isPending_of_dirty {e : Entry} (h : e.dirty ≠ .none) : e.isPending = true := by
  have hdirty : e.dirty.isEmpty = false := by
    unfold FieldSet.isEmpty
    simpa using h
  unfold Entry.isPending
  simp [hdirty]

/-- What becomes of the registry when the changes of a launcher are saved. -/
inductive FlushStep (r : Registry) (name : String) : Except Error Saved → Registry → Prop where
  /-- The name is unknown. -/
  | unknown (find : r.find? name = none) :
      FlushStep r name (.error (.unknownEntry name)) r
  /-- There is nothing to save. -/
  | idle (e : Entry) (find : r.find? name = some e) (settled : e.isPending = false) :
      FlushStep r name (.ok .idle) r
  /-- The launcher gives way to a file of the system. -/
  | back (e : Entry) (rank : Nat) (path : Path) (files : FileStore)
      (find : r.find? name = some e) (pending : e.isPending = true)
      (twin : r.twin? (undue e) = some (rank, path))
      (removed : withoutOverride r.files (undue e) path = .ok files) :
      FlushStep r name (.ok .shadowRemoved)
        ({ r with files }.set name (backToSystem (undue e) rank path))
  /-- No file of the system says the same, and the merged document is written. -/
  | written (e : Entry) (files : FileStore) (find : r.find? name = some e)
      (pending : e.isPending = true)
      (write : r.writeUser e.source (r.merged (undue e)) = (.ok (), files))
      (twin : r.twin? (undue e) = none) :
      FlushStep r name (.ok .written) ({ r with files }.set name (saved (undue e)))
  /-- The save fails, and no file is touched. -/
  | failed (e : Entry) (error : Error) (files : FileStore) (find : r.find? name = some e)
      (pending : e.isPending = true)
      (touches : r.files.Touches files r.searchPath.userDirectory fun _ => False) :
      FlushStep r name (.error error) ({ r with files }.set name (undue e))

/-- Writing a document that fails touches no file. -/
theorem touches_of_writeUser_eq_error {r : Registry} {target : Path} {document : Document}
    {error : Error} {files : FileStore}
    (h : r.writeUser target document = (.error error, files)) :
    r.files.Touches files r.searchPath.userDirectory fun _ => False := by
  have hmade := FileStore.touches_makeDirectories r.files r.searchPath.userDirectory
  unfold writeUser at h
  dsimp only at h
  split at h
  · next heq =>
    rw [heq] at hmade
    exact (Prod.mk.inj h).2 ▸ hmade
  · next heq =>
    rw [heq] at hmade
    split at h
    · cases (Prod.mk.inj h).1
    · exact (Prod.mk.inj h).2 ▸ hmade

/-- Writing a document touches the file of the user, whose text is that of the document. -/
theorem touches_of_writeUser {r : Registry} {target : Path} {document : Document}
    {files : FileStore} (h : r.writeUser target document = (.ok (), files)) :
    r.files.Touches files r.searchPath.userDirectory (fun l => l = r.files.locationOf target) ∧
      files.readText target = .ok document.text := by
  have hmade := FileStore.touches_makeDirectories r.files r.searchPath.userDirectory
  unfold writeUser at h
  dsimp only at h
  split at h
  · cases (Prod.mk.inj h).1
  · next made heq =>
    rw [heq] at hmade
    unfold Document.save at h
    rcases hreplace : made.replaceFile target document.text with cause | written
    · rw [hreplace] at h
      cases (Prod.mk.inj h).1
    · rw [hreplace] at h
      obtain rfl : written = files := (Prod.mk.inj h).2
      -- The directories that were made on the way do not change where paths lead.
      have hwritten := FileStore.touches_replaceFile hreplace r.searchPath.userDirectory
      rw [FileStore.locationOf_congr hmade.workingDirectory_eq] at hwritten
      exact ⟨(hmade.mono fun _ => False.elim).trans hwritten,
        (FileStore.replaceFile_spec hreplace).2⟩

/-- Writing a document keeps all files but that of the user, whose text is that of the document. -/
theorem writeUser_eq_ok {r : Registry} {target : Path} {document : Document} {files : FileStore}
    (h : r.writeUser target document = (.ok (), files)) :
    r.files.Keeps files (r.files.locationOf target) ∧
      files.readText target = .ok document.text :=
  ⟨(touches_of_writeUser h).1.keeps fun _ hl => hl, (touches_of_writeUser h).2⟩

/-- A save does one of five things. -/
theorem flush_step {r r' : Registry} {name : String} {outcome : Except Error Saved}
    (h : r.flush name = (outcome, r')) : FlushStep r name outcome r' := by
  obtain rfl : (r.flush name).1 = outcome := congrArg Prod.fst h
  obtain rfl : (r.flush name).2 = r' := congrArg Prod.snd h
  unfold flush
  split
  · next hfind => exact .unknown hfind
  · next e hfind =>
    split
    · next hsettled => exact .idle e hfind (by simpa using hsettled)
    · next hpending =>
      have hpending' : e.isPending = true := by simpa using hpending
      -- The launcher is set twice, first as one whose save is not due any more.
      dsimp only
      split
      · next rank path htwin =>
        split
        · next files hremoved =>
          have hset : ({ r.set name (undue e) with files } : Registry).set name
              (backToSystem (undue e) rank path) =
              ({ r with files } : Registry).set name (backToSystem (undue e) rank path) :=
            set_set { r with files } name (undue e) (backToSystem (undue e) rank path)
          dsimp only
          rw [show ({ e with due? := none } : Entry) = undue e from rfl, hset]
          exact .back e rank path files hfind hpending' htwin hremoved
        · next error herror =>
          exact .failed e error r.files hfind hpending' (.refl r.files _ _)
      · next htwin =>
        split
        · next files heq =>
          have heq' : r.writeUser e.source (r.merged (undue e)) = (.ok (), files) := heq
          have hset : ({ r.set name (undue e) with files } : Registry).set name
              (saved (undue e)) = ({ r with files } : Registry).set name (saved (undue e)) :=
            set_set { r with files } name (undue e) (saved (undue e))
          dsimp only
          rw [show ({ e with due? := none } : Entry) = undue e from rfl, hset]
          exact .written e files hfind hpending' heq' htwin
        · next error files heq =>
          have heq' : r.writeUser e.source (r.merged (undue e)) = (.error error, files) := heq
          exact .failed e error files hfind hpending' (touches_of_writeUser_eq_error heq')

/-- Saving a launcher changes no other. -/
theorem find?_flush_of_ne {r : Registry} {name name' : String} (hne : name ≠ name') :
    (r.flush name).2.find? name' = r.find? name' := by
  have hset : ∀ files e,
      (({ r with files } : Registry).set name e).find? name' = r.find? name' := by
    intro files e
    rw [find?_set, if_neg (Ne.symm hne)]
    rfl
  rcases hresult : r.flush name with ⟨outcome, r'⟩
  cases flush_step hresult with
  | unknown => rfl
  | idle => rfl
  | back => exact hset _ _
  | written => exact hset _ _
  | failed => exact hset _ _

/-- What every save preserves, saves one after the other preserve. -/
theorem flushEach_invariant {P : Registry → Prop} {r : Registry} (h : P r)
    (step : ∀ (r' : Registry) (name : String), P r' → P (r'.flush name).2) (names : List String) :
    P (r.flushEach names).2 := by
  induction names generalizing r with
  | nil => exact h
  | cons name rest ih =>
    have hflush := step r name h
    unfold flushEach
    -- A save that failed does not keep the others from being tried.
    split
    · next heq =>
      rw [heq] at hflush
      exact ih hflush
    · next heq =>
      rw [heq] at hflush
      exact ih hflush

/-- The names of the launchers that pass a test are those that know such a launcher. -/
theorem mem_namesWhere_iff {r : Registry} {test : Entry → Bool} {name : String} :
    name ∈ r.namesWhere test ↔ ∃ e, r.find? name = some e ∧ test e = true := by
  unfold namesWhere find?
  simp [SortedMap.mem_toList_iff]

/-- The names of the launchers that pass a test are in ascending order. -/
theorem pairwise_namesWhere (r : Registry) (test : Entry → Bool) :
    (r.namesWhere test).Pairwise (· < ·) :=
  List.pairwise_map.2 (r.entries.ordered.filter _)

/-- No launcher passes a test twice. -/
theorem nodup_namesWhere (r : Registry) (test : Entry → Bool) : (r.namesWhere test).Nodup :=
  (SortedMap.nodup_keys r.entries).sublist (List.filter_sublist.map _)

/-- Only saves of the given launchers can fail. -/
theorem mem_of_mem_flushEach {r : Registry} {names : List String} {failure : String × Error}
    (h : failure ∈ (r.flushEach names).1) : failure.1 ∈ names := by
  induction names generalizing r with
  | nil => cases h
  | cons name rest ih =>
    unfold flushEach at h
    split at h
    · exact List.mem_cons_of_mem name (ih h)
    · rcases List.mem_cons.1 h with rfl | hrest
      · exact List.mem_cons_self
      · exact List.mem_cons_of_mem name (ih hrest)

/-- Closing a launcher does nothing, saves it, drops it or both. -/
theorem close_cases (r : Registry) (name : String) :
    (r.close name).2 = r ∨ (r.close name).2 = (r.flush name).2 ∨
      (r.close name).2 = r.drop name ∨ (r.close name).2 = (r.flush name).2.drop name := by
  unfold close
  split
  · exact .inl rfl
  · split
    · split
      · next heq => exact .inr (.inr (.inr (by rw [heq])))
      · next heq => exact .inr (.inl (by rw [heq]))
    · exact .inr (.inr (.inl rfl))

/-! ## Files of the system that say the same -/

/-- The file of the system that says what the launcher holds is that of the shadow. -/
theorem twin?_spec {r : Registry} {e : Entry} {rank : Nat} {path : Path}
    (h : r.twin? e = some (rank, path)) :
    e.shadow? = some rank ∧ r.searchPath.pathAt? rank e.filename = some path ∧
      ∃ d, Document.load r.files path = .ok d ∧ e.agreesWith d r.settings.locale? = true := by
  unfold twin? at h
  split at h
  · cases h
  · next shadow hshadow =>
    split at h
    · cases h
    · next target htarget =>
      split at h
      · next d hload =>
        split at h
        · next hagrees =>
          cases h
          exact ⟨hshadow, htarget, d, hload, hagrees⟩
        · cases h
      · cases h

/-- When the file of the user is another one than that of the system, giving way to the latter is
taking the former away. -/
theorem withoutOverride_eq_ok_iff {fs files : FileStore} {e : Entry} {path : Path}
    (huser : e.rank? = some SearchPath.userRank) (hother : e.source.same path = false) :
    withoutOverride fs e path = .ok files ↔ withoutFile fs e.source = .ok files := by
  unfold withoutOverride
  rw [if_pos (by simp [huser, hother])]
  split
  · next removed hremoved => rw [hremoved, Except.ok.injEq, Except.ok.injEq]
  · next cause hfailed => simp [hfailed]

/-! ## Written documents -/

/-- The file that the changes of a launcher are merged into. -/
def mergeBase (e : Entry) : Path :=
  e.base?.getD e.source

/-- The changes are stored in the document of the base. -/
theorem merged_of_load_eq_ok {r : Registry} {e : Entry} {d : Document}
    (h : Document.load r.files (mergeBase e) = .ok d) :
    r.merged (undue e) = e.mergeInto d r.settings.locale? := by
  have h' : Document.load r.files ((undue e).base?.getD (undue e).source) = .ok d := h
  unfold merged
  rw [h']
  rfl

/-- The changes are stored in a new document when the base cannot be read. -/
theorem merged_of_load_ne_ok {r : Registry} {e : Entry}
    (h : ∀ d, Document.load r.files (mergeBase e) ≠ .ok d) :
    r.merged (undue e) = e.mergeInto Document.application r.settings.locale? := by
  rcases hload : Document.load r.files (mergeBase e) with error | d
  · have hload' : Document.load r.files ((undue e).base?.getD (undue e).source) = .error error :=
      hload
    unfold merged
    rw [hload']
    rfl
  · exact absurd hload (h d)

/-- What a document that was written is read back as is what its text is read as. -/
theorem load_of_writeUser {r : Registry} {target : Path} {document read : Document}
    {files : FileStore} (h : r.writeUser target document = (.ok (), files))
    (hparse : Document.parse document.text = .ok read) :
    Document.load files target = .ok read := by
  unfold Document.load
  rw [(writeUser_eq_ok h).2]
  dsimp only
  rw [hparse]

/-- A save that writes leaves the launcher with its merged document in the file of the user. -/
theorem flush_of_written {r : Registry} {name : String} {e : Entry}
    (hfind : r.find? name = some e) (h : (r.flush name).1 = .ok .written) :
    ∃ files, r.writeUser e.source (r.merged (undue e)) = (.ok (), files) ∧
      (r.flush name).2 = ({ r with files } : Registry).set name (saved (undue e)) := by
  rcases hresult : r.flush name with ⟨outcome, r'⟩
  rw [hresult] at h
  obtain rfl : outcome = .ok .written := h
  cases flush_step hresult with
  | written e' files find pending write =>
    obtain rfl := Option.some.inj (hfind.symm.trans find)
    exact ⟨files, write, rfl⟩

/-- A save in favour of the system leaves the launcher as the file of the system defines it. -/
theorem flush_of_shadowRemoved {r : Registry} {name : String} {e : Entry}
    (hfind : r.find? name = some e) (h : (r.flush name).1 = .ok .shadowRemoved) :
    ∃ rank path files, e.isPending = true ∧ r.twin? (undue e) = some (rank, path) ∧
      withoutOverride r.files (undue e) path = .ok files ∧
      (r.flush name).2 =
        ({ r with files } : Registry).set name (backToSystem (undue e) rank path) := by
  rcases hresult : r.flush name with ⟨outcome, r'⟩
  rw [hresult] at h
  obtain rfl : outcome = .ok .shadowRemoved := h
  cases flush_step hresult with
  | back e' rank path files find pending twin removed =>
    obtain rfl := Option.some.inj (hfind.symm.trans find)
    exact ⟨rank, path, files, pending, twin, removed, rfl⟩

end Autostart.Registry
