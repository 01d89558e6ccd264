import Autostart.Document.Fields
import Autostart.Document.Parse
import Autostart.Proofs.Text.Digits

/-!
# Start delays saturate

A start delay is written as an integer in decimal, with as many digits as its writer likes, perhaps
after a sign and with blanks around it. It is read as zero when it is negative and as the greatest
delay when it is greater than that, so a greater integer never makes a launcher wait less. This
holds up to the greatest integer of 64 bits with a sign: the reader takes no greater one for an
integer at all, and a delay that is larger still is lost. What is no integer is read as zero.
-/

namespace Autostart.Document

/-- A value writes a delay: an integer in decimal with blanks around it. -/
def WritesDelay (raw : String) (n : Int) : Prop :=
  ∃ front number back, raw.toList = front ++ (number ++ back) ∧
    (∀ c ∈ front, Chars.isBlank c = true) ∧ (∀ c ∈ back, Chars.isBlank c = true) ∧
    Digits.WritesInteger number n

/-- The delay that an integer stands for: it is not negative, and has 32 bits. -/
def saturated (n : Int) : Nat :=
  if n < 0 then 0 else min n.toNat maxDelay

/-- A greater integer stands for no shorter delay. -/
theorem saturated_mono {n m : Int} (h : n ≤ m) : saturated n ≤ saturated m := by
  unfold saturated
  split_ifs <;> omega

/-- An integer that has more than 64 bits with a sign stands for the greatest delay. -/
theorem saturated_of_maxInteger_lt {n : Int} (h : maxInteger < n) : saturated n = maxDelay := by
  have hmax : maxInteger = 9223372036854775807 := rfl
  have hmaxDelay : maxDelay = 4294967295 := rfl
  unfold saturated
  rw [if_neg (by omega)]
  omega

/-- A delay is read exactly when a value writes one. -/
theorem integer?_trim_eq_some_iff {raw : String} {n : Int} :
    Digits.integer? (Text.trim raw).toList = some n ↔ WritesDelay raw n := by
  unfold Text.trim
  rw [String.toList_ofList, Digits.integer?_eq_some_iff]
  constructor
  · intro h
    obtain ⟨front, back, hraw, hfront, hback⟩ := Chars.exists_trim raw.toList
    exact ⟨front, Chars.trim raw.toList, back, hraw, hfront, hback, h⟩
  · rintro ⟨front, number, back, hraw, hfront, hback, hnumber⟩
    rw [hraw, Chars.trim_blanks_append hfront, Chars.trim_append_blanks number hback,
      hnumber.trim_eq]
    exact hnumber

/-- A written delay is what its integer stands for, unless this has more than 64 bits. -/
theorem delayOf_of_writes {raw : String} {n : Int} (h : WritesDelay raw n) :
    delayOf raw = if maxInteger < n then 0 else saturated n := by
  unfold delayOf saturated
  rw [integer?_trim_eq_some_iff.2 h]
  dsimp only
  by_cases hlarge : maxInteger < n
  · rw [if_pos hlarge, if_pos (.inr hlarge)]
  · by_cases hnegative : n < 0
    · rw [if_neg hlarge, if_pos hnegative, if_pos (.inl hnegative)]
    · rw [if_neg hlarge, if_neg hnegative, if_neg (not_or.2 ⟨hnegative, hlarge⟩)]

/-- A value that writes no delay is read as zero. -/
theorem delayOf_of_not_writes {raw : String} (h : ∀ n, ¬WritesDelay raw n) : delayOf raw = 0 := by
  have hnone : Digits.integer? (Text.trim raw).toList = none :=
    Option.eq_none_iff_forall_ne_some.2 fun n hn => h n (integer?_trim_eq_some_iff.1 hn)
  unfold delayOf
  rw [hnone]

/-- The digits of a number write it as a delay. -/
theorem writesDelay_toString (n : Nat) : WritesDelay (toString n) n := by
  have hdigits : (toString n).toList = Nat.toDigits 10 n := by simp
  exact ⟨[], Nat.toDigits 10 n, [], by rw [hdigits]; simp, by simp, by simp,
    .unsigned (Digits.writesNumber_toDigits n)⟩

/-- A written delay is read as itself. -/
theorem delayOf_toString {n : Nat} (h : n ≤ maxDelay) : delayOf (toString n) = n := by
  have hmax : maxInteger = 9223372036854775807 := rfl
  have hmaxDelay : maxDelay = 4294967295 := rfl
  rw [delayOf_of_writes (writesDelay_toString n), if_neg (by omega)]
  unfold saturated
  rw [if_neg (by omega), Int.toNat_natCast]
  exact Nat.min_eq_left h

/-- The start delay is the one that its value is read as. -/
theorem delay_of_rawValue? {d : Document} {raw : String}
    (h : d.rawValue? Key.delay none = some raw) : d.delay = delayOf raw := by
  unfold delay
  rw [h]

/-- The start delay of a document is what the written integer stands for exactly when the integer is
at most the greatest of 64 bits with a sign, and up to there a greater integer is read as no shorter
delay. A value that writes no integer is read as zero, and so is a missing one. -/
theorem delay_saturates (d : Document) :
    (∀ raw n, d.rawValue? Key.delay none = some raw → WritesDelay raw n →
      (d.delay = saturated n ↔ n ≤ maxInteger)) ∧
    (∀ (d' : Document) raw raw' n n', d.rawValue? Key.delay none = some raw → WritesDelay raw n →
      d'.rawValue? Key.delay none = some raw' → WritesDelay raw' n' → n ≤ n' → n' ≤ maxInteger →
      d.delay ≤ d'.delay) ∧
    (∀ raw, d.rawValue? Key.delay none = some raw → (∀ n, ¬WritesDelay raw n) → d.delay = 0) ∧
    (d.rawValue? Key.delay none = none → d.delay = 0) := by
  refine ⟨fun raw n hvalue hwrites => ?_,
    fun d' raw raw' n n' hvalue hwrites hvalue' hwrites' hle hmax => ?_,
    fun raw hvalue hnone => ?_, fun hnone => ?_⟩
  · rw [delay_of_rawValue? hvalue, delayOf_of_writes hwrites]
    constructor
    · intro hread
      by_contra hlarge
      rw [if_pos (Int.not_le.1 hlarge), saturated_of_maxInteger_lt (Int.not_le.1 hlarge)] at hread
      cases hread
    · intro hle
      rw [if_neg (Int.not_lt.2 hle)]
  · calc d.delay = saturated n := by
          rw [delay_of_rawValue? hvalue, delayOf_of_writes hwrites,
            if_neg (Int.not_lt.2 (Int.le_trans hle hmax))]
      _ ≤ saturated n' := saturated_mono hle
      _ = d'.delay := by
          rw [delay_of_rawValue? hvalue', delayOf_of_writes hwrites', if_neg (Int.not_lt.2 hmax)]
  · rw [delay_of_rawValue? hvalue, delayOf_of_not_writes hnone]
  · unfold delay
    rw [hnone]

/-- A launcher with a start delay, as it is written behind the equals sign. -/
def delayedLauncher (written : String) : String :=
  "[Desktop Entry]\nX-MATE-Autostart-Delay=" ++ written ++ "\n"

/-- A delay that is written with a sign, leading zeros and blanks around it, and has more than 32
bits, is read as the greatest one. -/
theorem delay_saturates_spacedDelay :
    ∃ d, parse (delayedLauncher " +04294967296\t") = .ok d ∧
      WritesDelay "+04294967296\t" 4294967296 ∧ d.delay = 4294967295 := by
  have hwrites : WritesDelay "+04294967296\t" 4294967296 :=
    ⟨[], "+04294967296".toList, ['\t'], by rfl, by simp, List.all_eq_true.1 (by rfl),
      .plus ⟨by decide, List.all_eq_true.1 (by rfl), by rfl⟩⟩
  exact ⟨_, by rfl, hwrites, ((delay_saturates _).1 _ _ (by rfl) hwrites).2 (by decide)⟩

/-- The least integer that has more than 64 bits with a sign is read as no delay, though the integer
before it is read as the greatest one. -/
theorem delay_lost_largeDelay :
    WritesDelay "9223372036854775807" 9223372036854775807 ∧
    WritesDelay "9223372036854775808" 9223372036854775808 ∧
    ∃ d d', parse (delayedLauncher "9223372036854775807") = .ok d ∧
      parse (delayedLauncher "9223372036854775808") = .ok d' ∧
      d.delay = saturated 9223372036854775807 ∧ d'.delay ≠ saturated 9223372036854775808 ∧
      d'.delay < d.delay := by
  have hgreatest : WritesDelay "9223372036854775807" 9223372036854775807 :=
    ⟨[], "9223372036854775807".toList, [], by rfl, by simp, by simp,
      .unsigned ⟨by decide, List.all_eq_true.1 (by rfl), by rfl⟩⟩
  have hnext : WritesDelay "9223372036854775808" 9223372036854775808 :=
    ⟨[], "9223372036854775808".toList, [], by rfl, by simp, by simp,
      .unsigned ⟨by decide, List.all_eq_true.1 (by rfl), by rfl⟩⟩
  exact ⟨hgreatest, hnext, _, _, by rfl, by rfl, by rfl, by decide, by decide⟩

end Autostart.Document
