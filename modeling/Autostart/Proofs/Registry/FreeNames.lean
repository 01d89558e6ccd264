import Autostart.Proofs.Registry.Editing
import Autostart.Proofs.Text.Digits

/-!
# Free file names

The search for a free file name finds the first one among the candidates for a stem, or says that
all of them are in use. The candidates differ from each other, so launchers that are made one after
the other have different names, and none of these was in use before the first of them was made.
-/

namespace Autostart.Registry

/-- A file name is free: no launcher has it, and its path in the directory of the user leads
nowhere. -/
def IsFree (r : Registry) (name : String) : Prop :=
  r.find? name = none ∧ r.files.existsAt (r.searchPath.userPath name) = false

/-- The candidate of a number is free, and it is the first one from the candidate of `n` on. -/
structure IsFirstFree (r : Registry) (stem : String) (n k : Nat) : Prop where
  /-- It is free. -/
  free : r.IsFree (candidate stem k)
  /-- Those before it are in use. -/
  taken : ∀ j, n ≤ j → j < k → ¬r.IsFree (candidate stem j)

variable {r r' r'' : Registry} {stem name : String} {n tries : Nat}

/-- A file name is in use when it is not free. -/
theorem isTaken_iff : r.isTaken name = true ↔ ¬r.IsFree name := by
  unfold isTaken IsFree SortedMap.contains find?
  simp [Option.isSome_iff_ne_none, imp_iff_not_or]

/-! ## The search -/

/-- A search is answered with the first free candidate that it tries. -/
theorem firstFree_eq_some_iff :
    r.firstFree stem n tries = some name ↔
      ∃ k, n ≤ k ∧ k < n + tries ∧ name = candidate stem k ∧ r.IsFirstFree stem n k := by
  induction tries generalizing n with
  | zero =>
    constructor
    · exact fun h => by cases h
    · rintro ⟨k, hle, hlt, -⟩
      omega
  | succ tries ih =>
    unfold firstFree
    split
    · next htaken =>
      have htaken := isTaken_iff.1 htaken
      rw [ih]
      constructor
      · rintro ⟨k, hle, hlt, rfl, hfree, hbefore⟩
        refine ⟨k, by omega, by omega, rfl, hfree, fun j hj hjk => ?_⟩
        rcases Nat.eq_or_lt_of_le hj with rfl | hj
        · exact htaken
        · exact hbefore j hj hjk
      · rintro ⟨k, hle, hlt, rfl, hfree, hbefore⟩
        -- The candidate in use is not the one that was found.
        have hne : n ≠ k := fun heq => htaken (heq ▸ hfree)
        exact ⟨k, by omega, by omega, rfl, hfree, fun j hj => hbefore j (by omega)⟩
    · next hfree =>
      have hfree := not_not.1 (mt isTaken_iff.2 hfree)
      constructor
      · intro h
        obtain rfl := Option.some.inj h
        exact ⟨n, by omega, by omega, rfl, hfree, fun j hj hjn => by omega⟩
      · rintro ⟨k, hle, -, rfl, -, hbefore⟩
        rcases Nat.eq_or_lt_of_le hle with rfl | hlt
        · rfl
        · exact absurd hfree (hbefore n (Nat.le_refl n) hlt)

/-- A search comes to nothing when every candidate that it tries is in use. -/
theorem firstFree_eq_none_iff :
    r.firstFree stem n tries = none ↔
      ∀ k, n ≤ k → k < n + tries → ¬r.IsFree (candidate stem k) := by
  induction tries generalizing n with
  | zero => exact iff_of_true rfl fun k hle hlt => by omega
  | succ tries ih =>
    unfold firstFree
    split
    · next htaken =>
      rw [ih]
      constructor
      · intro h k hle hlt
        rcases Nat.eq_or_lt_of_le hle with rfl | hle
        · exact isTaken_iff.1 htaken
        · exact h k hle (by omega)
      · exact fun h k hle hlt => h k (by omega) (by omega)
    · next hfree =>
      have hfree := not_not.1 (mt isTaken_iff.2 hfree)
      exact iff_of_false (by simp) fun h => h n (Nat.le_refl n) (by omega) hfree

/-- The free name for a base is the first free candidate for its stem. -/
theorem freeName_eq_ok_iff {base : String} :
    r.freeName base = .ok name ↔
      ∃ k < r.settings.maxNameAttempts, name = candidate (stemOf base) k ∧
        r.IsFirstFree (stemOf base) 0 k := by
  have hfound : r.firstFree (stemOf base) 0 r.settings.maxNameAttempts = some name ↔ _ :=
    firstFree_eq_some_iff
  simp only [Nat.zero_le, true_and, Nat.zero_add] at hfound
  rw [← hfound]
  unfold freeName
  dsimp only
  split
  · next heq => simp [heq]
  · next heq => simp [heq]

/-- There is no free name for a base when every candidate for its stem is in use. -/
theorem freeName_eq_error_iff {base : String} {error : Error} :
    r.freeName base = .error error ↔
      error = .namesExhausted (stemOf base) r.settings.maxNameAttempts ∧
        ∀ k < r.settings.maxNameAttempts, ¬r.IsFree (candidate (stemOf base) k) := by
  have hnone : r.firstFree (stemOf base) 0 r.settings.maxNameAttempts = none ↔ _ :=
    firstFree_eq_none_iff
  simp only [Nat.zero_le, true_imp_iff, Nat.zero_add] at hnone
  rw [← hnone]
  unfold freeName
  dsimp only
  split
  · next heq => simp [heq]
  · next heq => simp [heq, eq_comm]

/-! ## The candidates -/

/-- The stem of a base is the base without one suffix, or the base when it has none. -/
theorem stemOf_spec (base : String) :
    base = stemOf base ++ Entry.suffix ∨
      (∀ stem, base ≠ stem ++ Entry.suffix) ∧ stemOf base = base := by
  unfold stemOf Text.stripSuffix? Chars.stripSuffix?
  split
  · next hsuffix =>
    obtain ⟨front, hfront⟩ := List.isSuffixOf_iff_suffix.1 hsuffix
    refine .inl (String.toList_inj.1 ?_)
    simp [← hfront]
  · next hother =>
    refine .inr ⟨?_, rfl⟩
    rintro stem rfl
    rw [String.toList_append] at hother
    exact hother (List.isSuffixOf_iff_suffix.2 (List.suffix_append _ _))

/-- The characters of a candidate. -/
theorem toList_candidate (stem : String) (k : Nat) :
    (candidate stem k).toList =
      stem.toList ++ (if k = 0 then [] else '-' :: Nat.toDigits 10 k) ++ Entry.suffix.toList := by
  unfold candidate
  split <;> simp

/-- The candidates of different numbers are different. -/
theorem candidate_injective (stem : String) : Function.Injective (candidate stem) := by
  intro j k h
  have hchars := congrArg String.toList h
  rw [toList_candidate, toList_candidate] at hchars
  have hnumber := List.append_cancel_left (List.append_cancel_right hchars)
  split at hnumber
  · split at hnumber
    · next hj hk => rw [hj, hk]
    · cases hnumber
  · split at hnumber
    · cases hnumber
    · exact Digits.toDigits_injective (List.cons.inj hnumber).2

/-! ## Launchers that are made in a row -/

/-- Launchers are made one after the other, and these are their names. -/
inductive Creates : Registry → List String → Registry → Prop where
  /-- None is made. -/
  | nil (r : Registry) : Creates r [] r
  /-- One is made, and then others. -/
  | cons {r r' r'' : Registry} {request : Request} {name : String} {names : List String}
      (first : r.create request = (.ok name, r')) (others : Creates r' names r'') :
      Creates r (name :: names) r''

/-- A launcher is made under a free name. Nothing else changes for the search. -/
theorem isFree_of_create {request : Request} (h : r.create request = (.ok name, r')) :
    r.IsFree name ∧ ∀ other, r'.IsFree other ↔ other ≠ name ∧ r.IsFree other := by
  cases create_step h with
  | made _ isFileName free =>
    have hfree : r.IsFree name := not_not.1 (mt isTaken_iff.2 (by simp [free]))
    refine ⟨hfree, fun other => ?_⟩
    unfold IsFree
    rw [find?_tell, find?_set]
    by_cases hother : other = name
    · simp [hother]
    · rw [if_neg hother]
      exact ⟨fun h => ⟨hother, h⟩, And.right⟩

/-- Launchers that are made in a row have different names, each of which was free before the
first. -/
theorem Creates.nodup_and_isFree {names : List String} (h : Creates r names r') :
    names.Nodup ∧ ∀ name ∈ names, r.IsFree name := by
  induction h with
  | nil => exact ⟨List.nodup_nil, fun _ hmem => by cases hmem⟩
  | @cons r r₁ _ _ first rest create _ ih =>
    obtain ⟨hnodup, hfree⟩ := ih
    obtain ⟨hfirst, hlater⟩ := isFree_of_create create
    refine ⟨List.nodup_cons.2 ⟨fun hmem => ?_, hnodup⟩, fun name hmem => ?_⟩
    · exact ((hlater first).1 (hfree first hmem)).1 rfl
    · rcases List.mem_cons.1 hmem with rfl | hmem
      · exact hfirst
      · exact ((hlater name).1 (hfree name hmem)).2

end Autostart.Registry
