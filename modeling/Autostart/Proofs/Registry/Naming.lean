import Autostart.Proofs.Path.Components
import Autostart.Registry.Arrivals

/-!
# Names of new launchers

The file names that are tried for a new launcher are names of files whenever they start from one, so
a launcher that is made or brought in stands directly in the directory of the user.
-/

namespace Autostart

/-- A text of three or more characters without a slash is the name of a file. -/
theorem Path.isFileName_of_length {name : String} (hplain : Path.isPlainName name = true)
    (h : 3 ≤ name.toList.length) : Path.IsFileName name := by
  refine ⟨hplain, ?_⟩
  unfold Component.ofSegment?
  split
  · next heq => simp [heq] at h
  · next heq => simp [heq] at h
  · next heq => simp [heq] at h
  · rw [String.ofList_toList]

/-- The end of the name of a launcher's file has more characters than a single or double dot. -/
theorem Entry.length_suffix : Entry.suffix.toList.length = 8 :=
  rfl

/-- The name of a launcher's file is a plain name of a file. -/
theorem Entry.isFileName_of_isFilename {name : String} (h : Entry.isFilename name = true)
    (hplain : Path.isPlainName name = true) : Path.IsFileName name := by
  refine Path.isFileName_of_length hplain ?_
  have hsuffix : Entry.suffix.toList.isSuffixOf name.toList = true := by
    unfold Entry.isFilename Text.stripSuffix? Chars.stripSuffix? at h
    split at h
    · assumption
    · cases h
  have hle := (List.isSuffixOf_iff_suffix.1 hsuffix).length_le
  rw [Entry.length_suffix] at hle
  omega

namespace Registry

/-- A free name is one of the candidates for its stem. -/
theorem exists_of_firstFree {r : Registry} {stem name : String} {n tries : Nat}
    (h : r.firstFree stem n tries = some name) : ∃ k, name = candidate stem k := by
  induction tries generalizing n with
  | zero => cases h
  | succ tries ih =>
    unfold firstFree at h
    split at h
    · exact ih h
    · exact ⟨n, (Option.some.inj h).symm⟩

/-- The stem of a base has only characters of the base. -/
theorem mem_of_mem_stemOf {base : String} {c : Char} (h : c ∈ (stemOf base).toList) :
    c ∈ base.toList := by
  unfold stemOf Text.stripSuffix? Chars.stripSuffix? at h
  split at h
  · rw [Option.map_some, Option.getD_some, String.toList_ofList] at h
    exact List.mem_of_mem_take h
  · exact h

/-- No number is written with a slash. -/
theorem slash_notMem_toDigits (n : Nat) : '/' ∉ Nat.toDigits 10 n := by
  intro h
  have hdigit := Nat.isDigit_of_mem_toDigits (by decide) (by decide) h
  cases hdigit

/-- The candidates for a stem without a slash are names of files. -/
theorem isFileName_candidate {stem : String} (h : '/' ∉ stem.toList) (n : Nat) :
    Path.IsFileName (candidate stem n) := by
  have hsuffix : '/' ∉ Entry.suffix.toList := by decide
  unfold candidate
  split
  · refine Path.isFileName_of_length ?_ ?_
    · simp [Path.isPlainName, h, hsuffix]
    · rw [String.toList_append, List.length_append, Entry.length_suffix]
      omega
  · refine Path.isFileName_of_length ?_ ?_
    · have hnumber := slash_notMem_toDigits n
      simp [Path.isPlainName, h, hsuffix, hnumber]
    · rw [String.toList_append, List.length_append, Entry.length_suffix]
      omega

/-- A free name for the name of a file is the name of a file. -/
theorem isFileName_of_freeName {r : Registry} {base name : String}
    (hbase : Path.IsFileName base) (h : r.freeName base = .ok name) : Path.IsFileName name := by
  unfold freeName at h
  dsimp only at h
  split at h
  · next found hfound =>
    obtain rfl : found = name := Except.ok.inj h
    obtain ⟨k, rfl⟩ := exists_of_firstFree hfound
    exact isFileName_candidate (fun hmem => hbase.slash_notMem (mem_of_mem_stemOf hmem)) k
  · cases h

/-- A free name is not in use. -/
theorem isTaken_of_freeName {r : Registry} {base name : String} (h : r.freeName base = .ok name) :
    r.isTaken name = false := by
  have hfirst : ∀ {stem : String} {tries n : Nat}, r.firstFree stem n tries = some name →
      r.isTaken name = false := by
    intro stem tries
    induction tries with
    | zero => exact fun hnone => by cases hnone
    | succ tries ih =>
      intro n hname
      unfold firstFree at hname
      split at hname
      · exact ih hname
      · next hfree =>
        obtain rfl := Option.some.inj hname
        simpa using hfree
  unfold freeName at h
  dsimp only at h
  split at h
  · next found hfound =>
    obtain rfl : found = name := Except.ok.inj h
    exact hfirst hfound
  · cases h

/-- No launcher has a name that is not in use. -/
theorem find?_of_isTaken {r : Registry} {name : String} (h : r.isTaken name = false) :
    r.find? name = none := by
  unfold isTaken SortedMap.contains at h
  rw [Bool.or_eq_false_iff] at h
  exact Option.isNone_iff_eq_none.1 (Option.isSome_eq_false_iff.1 h.1)

/-- The base of the name of a new launcher is the name of a file. -/
theorem isFileName_of_baseName {request : Request} {words : List String} {base : String}
    (h : baseName request words = .ok base) : Path.IsFileName base := by
  unfold baseName at h
  dsimp only at h
  split at h
  · next name hname =>
    obtain rfl := Except.ok.inj h
    obtain ⟨asked, -, hasked⟩ := Option.bind_eq_some_iff.1 hname
    exact Path.isFileName_of_fileName? hasked
  · split at h
    · next name hname =>
      obtain rfl := Except.ok.inj h
      obtain ⟨program, -, hprogram⟩ := Option.bind_eq_some_iff.1 hname
      exact Path.isFileName_of_fileName? hprogram
    · cases h

/-- The name of the file at a source is the name of a file. -/
theorem isFileName_of_source {text base : String} {source : Source}
    (h : Source.ofText text = .ok source) (hbase : source.filename? = some base) :
    Path.IsFileName base := by
  -- Bytes name a file only through the path that is made of them.
  have hbytes : ∀ bytes, (Source.ofBytes bytes).filename? = some base → Path.IsFileName base := by
    intro bytes hname
    unfold Source.ofBytes at hname
    split at hname
    · exact Path.isFileName_of_fileName? hname
    · dsimp only at hname
      split at hname
      · exact Path.isFileName_of_fileName? hname
      · cases hname
  unfold Source.ofText at h
  split at h
  · split at h
    · cases h
    · split at h
      · next bytes _ =>
        obtain rfl := Except.ok.inj h
        exact hbytes bytes hbase
      · cases h
  · obtain rfl := Except.ok.inj h
    exact Path.isFileName_of_fileName? hbase

end Registry

end Autostart
