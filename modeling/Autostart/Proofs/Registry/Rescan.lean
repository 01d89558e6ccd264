import Autostart.Proofs.Registry.Scan
import Autostart.Proofs.Registry.Tidiness

/-!
# What a new registry would know

What a new registry finds in a scan is determined by the files and the settings: there is only one
merge of the copies that the directories hold. So what a registry knows can be compared with what a
new one would know by showing that it is this merge. A directory holds a file when the path of the
file in it leads to one, unless the directory is the empty path, which is no place to list.
-/

namespace Autostart.Registry

/-- A new registry after a scan of the files that a registry sees, under its settings. -/
def rescanned (r : Registry) : Registry :=
  (Registry.fresh r.settings r.files r.now).scan

/-- A directory that is not the empty path holds exactly the launchers whose paths lead to files. -/
theorem holds_iff {r : Registry} {name : String} {rank : Nat} {dir : Path} (hdir : dir.text ≠ "") :
    r.Holds name rank dir ↔ r.searchPath.directoryAt? rank = some dir ∧
      Entry.isFilename name = true ∧ Path.IsFileName name ∧
      r.files.isFile (dir.join name) = true := by
  constructor
  · intro h
    exact ⟨h.1, h.2.1, h.isFileName, h.2.2.2⟩
  · rintro ⟨hrank, hlauncher, hname, hfile⟩
    exact ⟨hrank, hlauncher, FileStore.mem_namesIn_of_isFile hdir hname hfile, hfile⟩

/-- The empty path is no directory that holds a file. -/
theorem Holds.ne_empty {r : Registry} {name : String} {rank : Nat} {dir : Path}
    (h : r.Holds name rank dir) : dir.text ≠ "" := by
  intro hempty
  obtain rfl : dir = ⟨""⟩ := congrArg Path.mk hempty
  exact absurd h.2.2.1 List.not_mem_nil

/-- Only the files and the settings say what a directory holds. -/
theorem holds_congr {r r' : Registry} (hfiles : r'.files = r.files)
    (hsettings : r'.settings = r.settings) (name : String) (rank : Nat) (dir : Path) :
    r'.Holds name rank dir ↔ r.Holds name rank dir := by
  unfold Holds searchPath
  rw [hfiles, hsettings]

/-- There is at most one lowest number. -/
theorem Lowest.unique {P : Nat → Prop} {a? b? : Option Nat} (ha : Lowest P a?) (hb : Lowest P b?) :
    a? = b? := by
  rcases a? with _ | a <;> rcases b? with _ | b
  · rfl
  · exact absurd hb.1 (ha b)
  · exact absurd ha.1 (hb a)
  · exact congrArg some (Nat.le_antisymm (ha.2 b hb.1) (hb.2 a ha.1))

/-- The lowest number is about which numbers have the property, however that is said. -/
theorem Lowest.congr {P Q : Nat → Prop} {a? : Option Nat} (hiff : ∀ n, P n ↔ Q n)
    (h : Lowest P a?) : Lowest Q a? := by
  obtain rfl : P = Q := funext fun n => propext (hiff n)
  exact h

/-- One more number is the lowest, or the lowest one before still is. -/
theorem Lowest.insert {P : Nat → Prop} {a? : Option Nat} (h : Lowest P a?) (k : Nat) :
    Lowest (fun n => P n ∨ n = k) (some ((a?.map fun a => min a k).getD k)) := by
  rcases a? with _ | a
  · refine ⟨.inr rfl, ?_⟩
    rintro n (hn | rfl)
    · exact absurd hn (h n)
    · exact Nat.le_refl _
  · refine ⟨?_, ?_⟩
    · rcases Nat.le_total a k with hle | hle
      · exact .inl (by simpa [Nat.min_eq_left hle] using h.1)
      · exact .inr (by simp [Nat.min_eq_right hle])
    · rintro n (hn | rfl)
      · exact Nat.le_trans (Nat.min_le_left a k) (h.2 n hn)
      · exact Nat.min_le_right a n

/-- There is at most one merge of the copies that the directories hold. -/
theorem MergedFrom.unique {r : Registry} {name : String} {known? known?' : Option Entry}
    (h : MergedFrom r name (r.Holds name) known?) (h' : MergedFrom r name (r.Holds name) known?') :
    known? = known?' := by
  rcases known? with _ | e <;> rcases known?' with _ | e'
  · rfl
  · obtain ⟨rank, dir, d, -, hheld, hreads, -⟩ := h'
    exact absurd hreads (h rank dir d hheld)
  · obtain ⟨rank, dir, d, -, hheld, hreads, -⟩ := h
    exact absurd hreads (h' rank dir d hheld)
  · obtain ⟨rank, dir, d, shadow?, hheld, hreads, hleast, rfl, hshadow⟩ := h
    obtain ⟨rank', dir', d', shadow?', hheld', hreads', hleast', rfl, hshadow'⟩ := h'
    obtain rfl : rank = rank' :=
      Nat.le_antisymm (hleast _ _ _ hheld' hreads') (hleast' _ _ _ hheld hreads)
    obtain rfl : dir = dir' := Option.some.inj (hheld.1.symm.trans hheld'.1)
    obtain rfl : d = d' := hreads.unique hreads'
    have hsame : shadow? = shadow?' := by
      split at hshadow
      · next hsystem =>
        rw [if_pos hsystem] at hshadow'
        rw [hshadow, hshadow']
      · next huser =>
        rw [if_neg huser] at hshadow'
        exact hshadow.unique hshadow'
    rw [hsame]

/-- A new registry knows of each name the merge of the copies that the directories hold. -/
theorem mergedFrom_rescanned (r : Registry) (name : String) :
    MergedFrom r name (r.Holds name) (r.rescanned.find? name) :=
  (scanned_scan fun _ => rfl).mergedFrom name

/-- What is the merge of the copies that the directories hold is what a new registry knows. -/
theorem MergedFrom.eq_rescanned {r : Registry} {name : String} {known? : Option Entry}
    (h : MergedFrom r name (r.Holds name) known?) : r.rescanned.find? name = known? :=
  (mergedFrom_rescanned r name).unique h

/-- What a new registry knows of a name is the launcher of the first copy that can be used. -/
theorem find?_rescanned_of_reads {r : Registry} {name : String} {rank : Nat} {dir : Path}
    {d : Document} (hheld : r.Holds name rank dir) (hreads : r.Reads (dir.join name) d)
    (hleast : ∀ rank' dir' d', r.Holds name rank' dir' → r.Reads (dir'.join name) d' →
      rank ≤ rank') :
    ∃ shadow?, r.rescanned.find? name =
      some { Entry.ofDocument name (dir.join name) d r.settings.locale? rank with shadow? } := by
  have hmerged := mergedFrom_rescanned r name
  rcases hfind : r.rescanned.find? name with _ | e
  · rw [hfind] at hmerged
    exact absurd hreads (hmerged rank dir d hheld)
  · rw [hfind] at hmerged
    obtain ⟨rank', dir', d', shadow?, hheld', hreads', hleast', rfl, -⟩ := hmerged
    obtain rfl : rank = rank' :=
      Nat.le_antisymm (hleast _ _ _ hheld' hreads') (hleast' _ _ _ hheld hreads)
    obtain rfl : dir = dir' := Option.some.inj (hheld.1.symm.trans hheld'.1)
    obtain rfl : d = d' := hreads.unique hreads'
    exact ⟨shadow?, rfl⟩

/-- What a new registry knows of a name is the launcher of the file of the user when it can be
used. -/
theorem find?_rescanned_of_user {r : Registry} {name : String} {d : Document}
    (huser : r.searchPath.userDirectory.text ≠ "") (hlauncher : Entry.isFilename name = true)
    (hname : Path.IsFileName name) (hreads : r.Reads (r.searchPath.userPath name) d) :
    ∃ shadow?, r.rescanned.find? name =
      some { Entry.ofDocument name (r.searchPath.userPath name) d r.settings.locale?
        SearchPath.userRank with shadow? } := by
  have hfile : r.files.isFile (r.searchPath.userDirectory.join name) = true := by
    obtain ⟨s, hread, -⟩ := Document.load_eq_ok_iff.1 hreads.1
    obtain ⟨l, hstat⟩ := FileStore.readText_eq_ok_iff.1 hread
    exact FileStore.isFile_iff.2 ⟨l, _, hstat⟩
  have hheld : r.Holds name SearchPath.userRank r.searchPath.userDirectory :=
    (holds_iff huser).2 ⟨rfl, hlauncher, hname, hfile⟩
  exact find?_rescanned_of_reads hheld hreads fun _ _ _ _ _ => Nat.zero_le _

section Alike

variable {r r' : Registry} (hsettings : r'.settings = r.settings)
include hsettings

/-- A path at which two stores are alike reads the same. -/
theorem reads_iff_of_alike {path : Path} (h : r.files.Alike r'.files path) (d : Document) :
    r'.Reads path d ↔ r.Reads path d := by
  unfold Reads
  rw [hsettings, Document.load_eq_ok_iff, Document.load_eq_ok_iff]
  simp only [h.readText_iff]

/-- A directory at whose file two stores are alike holds it in both or in none. -/
theorem holds_iff_of_alike {name : String} {rank : Nat} {dir : Path} (hdir : dir.text ≠ "")
    (h : Path.IsFileName name → r.files.Alike r'.files (dir.join name)) :
    r'.Holds name rank dir ↔ r.Holds name rank dir := by
  rw [Registry.holds_iff hdir, Registry.holds_iff hdir]
  unfold searchPath
  rw [hsettings]
  refine and_congr_right fun _ => and_congr_right fun _ => and_congr_right fun hname => ?_
  exact (h hname).isFile_iff

end Alike

/-! ## Files that can all be used -/

/-- Every file of a launcher in the directories can be read, and may run on this desktop. -/
def Usable (r : Registry) : Prop :=
  ∀ name rank dir, r.Holds name rank dir → ∃ d, r.Reads (dir.join name) d

/-- A rank of the system holds a file under a name. -/
def HeldInSystem (r : Registry) (name : String) (rank : Nat) : Prop :=
  SearchPath.userRank < rank ∧ ∃ dir, r.Holds name rank dir

/-- Whether every file in the directories reads as a document that passes a test. -/
def allDocuments (r : Registry) (test : Document → Bool) : Bool :=
  r.searchPath.ranked.all fun place => (r.files.namesIn place.2).all fun name =>
    match Document.load r.files (place.2.join name) with
    | .ok d => test d
    | .error _ => false

/-- Every file of a launcher passes a test that every file passes. -/
theorem load_of_allDocuments {r : Registry} {test : Document → Bool}
    (h : r.allDocuments test = true) {name : String} {rank : Nat} {dir : Path}
    (hheld : r.Holds name rank dir) :
    ∃ d, Document.load r.files (dir.join name) = .ok d ∧ test d = true := by
  obtain ⟨hdir, -, hmem, -⟩ := hheld
  have hplace := List.all_eq_true.1 h (rank, dir) ((mem_ranked_iff _ _ _).2 hdir)
  have hname := List.all_eq_true.1 hplace name hmem
  dsimp only at hname
  split at hname
  · next d hload => exact ⟨d, hload, hname⟩
  · cases hname

/-- Whether every file in the directories can be read, and may run on this desktop. -/
def canUseAll (r : Registry) : Bool :=
  r.allDocuments fun d => Entry.isLaunchable d r.settings.desktops

/-- Every file of a launcher can be used when every file can. -/
theorem usable_of_canUseAll {r : Registry} (h : r.canUseAll = true) : r.Usable :=
  fun _ _ _ hheld => load_of_allDocuments h hheld

/-- When all files can be used, the shadow of a merged launcher is the lowest rank of the system
that holds its name. -/
theorem MergedFrom.lowest_shadow {r : Registry} {name : String} {e : Entry}
    (h : MergedFrom r name (r.Holds name) (some e)) (husable : r.Usable) :
    Lowest (r.HeldInSystem name) e.shadow? := by
  obtain ⟨rank, dir, d, shadow?, hheld, -, hleast, rfl, hshadow⟩ := h
  split at hshadow
  · next hsystem =>
    -- A launcher of the system is its own shadow, and no other copy is below it.
    have hown : Lowest (r.HeldInSystem name) (some rank) := by
      refine ⟨⟨hsystem, dir, hheld⟩, fun n ⟨_, dir', hheld'⟩ => ?_⟩
      obtain ⟨d', hreads'⟩ := husable name n dir' hheld'
      exact hleast n dir' d' hheld' hreads'
    rw [hshadow]
    exact hown
  · exact hshadow

end Autostart.Registry
