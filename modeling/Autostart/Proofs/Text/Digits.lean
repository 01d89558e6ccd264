import Autostart.Proofs.Text.Trimming
import Autostart.Text.Digits

/-!
# Numbers come back from their digits

Decimal digits are read as the number that they write, so a written number is read as itself, and
nothing else is read as a number. The number that digits write is that of the standard library.
-/

namespace Autostart.Digits

/-- A decimal digit has its value. -/
theorem digit?_of_isDigit {c : Char} (h : c.isDigit = true) :
    digit? c = some (c.toNat - '0'.toNat) ∧ c.toNat - '0'.toNat < 10 := by
  obtain ⟨hlow, hhigh⟩ := Char.isDigit_iff_toNat.1 h
  have hzero : '0'.toNat = 48 := rfl
  have hnine : '9'.toNat = 57 := rfl
  constructor
  · unfold digit?
    have hrange : ('0' ≤ c && c ≤ '9') = true := by
      simp only [Bool.and_eq_true, decide_eq_true_eq]
      exact ⟨hlow, hhigh⟩
    rw [if_pos hrange]
  · omega

/-- Decimal digits after digits that write a number are read as the number that all write. -/
theorem numberAfter?_of_isDigit {cs : List Char} (h : ∀ c ∈ cs, c.isDigit = true) (n : Nat) :
    numberAfter? 10 n cs = some (Nat.ofDigitChars 10 cs n) := by
  induction cs generalizing n with
  | nil => simp [numberAfter?]
  | cons c rest ih =>
    obtain ⟨hdigit, hlt⟩ := digit?_of_isDigit (h c List.mem_cons_self)
    unfold numberAfter?
    rw [hdigit]
    dsimp only
    rw [if_pos hlt, ih (fun x hx => h x (List.mem_cons_of_mem c hx)), Nat.ofDigitChars_cons]

/-- A digit with a value below ten is a decimal digit. -/
theorem isDigit_of_digit? {c : Char} {d : Nat} (h : digit? c = some d) (hd : d < 10) :
    c.isDigit = true := by
  unfold digit? at h
  split at h
  · next hrange =>
    simp only [Bool.and_eq_true, decide_eq_true_eq] at hrange
    exact Char.isDigit_iff_toNat.2 hrange
  · -- The letters stand for greater values.
    split at h
    · have hvalue := Option.some.inj h
      omega
    · split at h
      · have hvalue := Option.some.inj h
        omega
      · cases h

/-- Only decimal digits are read as digits of a number. -/
theorem isDigit_of_numberAfter? {cs : List Char} {n m : Nat} (h : numberAfter? 10 n cs = some m) :
    ∀ c ∈ cs, c.isDigit = true := by
  induction cs generalizing n with
  | nil => simp
  | cons c rest ih =>
    unfold numberAfter? at h
    split at h
    · next d hd =>
      split at h
      · next hlt => exact List.forall_mem_cons.2 ⟨isDigit_of_digit? hd hlt, ih h⟩
      · cases h
    · cases h

/-- Digits write a number: they are decimal, there is one at least, and it is their number. -/
structure WritesNumber (digits : List Char) (n : Nat) : Prop where
  /-- There is a digit. -/
  ne : digits ≠ []
  /-- The digits are decimal. -/
  isDigit : ∀ c ∈ digits, c.isDigit = true
  /-- The number is that of the digits. -/
  number_eq : Nat.ofDigitChars 10 digits 0 = n

/-- A text writes an integer: digits write its magnitude, perhaps after a sign. -/
inductive WritesInteger : List Char → Int → Prop where
  /-- Without a sign the integer is not negative. -/
  | unsigned {digits : List Char} {n : Nat} (written : WritesNumber digits n) :
    WritesInteger digits n
  /-- A plus sign makes no difference. -/
  | plus {digits : List Char} {n : Nat} (written : WritesNumber digits n) :
    WritesInteger ('+' :: digits) n
  /-- A minus sign negates. -/
  | minus {digits : List Char} {n : Nat} (written : WritesNumber digits n) :
    WritesInteger ('-' :: digits) (-n)

/-- A decimal digit is no white space. -/
theorem isBlank_of_isDigit {c : Char} (h : c.isDigit = true) : Chars.isBlank c = false := by
  obtain ⟨hlow, hhigh⟩ := Char.isDigit_iff_toNat.1 h
  have hzero : '0'.toNat = 48 := rfl
  have hnine : '9'.toNat = 57 := rfl
  simp only [Chars.isBlank, Bool.or_eq_false_iff, Bool.and_eq_false_iff, decide_eq_false_iff_not,
    beq_eq_false_iff_ne]
  omega

/-- Digits that write a number start and end with one, so with no white space. -/
theorem WritesNumber.ends {digits : List Char} {n : Nat} (h : WritesNumber digits n) :
    ∃ first last, digits.head? = some first ∧ digits.getLast? = some last ∧
      Chars.isBlank first = false ∧ Chars.isBlank last = false :=
  ⟨digits.head h.ne, digits.getLast h.ne, List.head?_eq_some_head h.ne,
    List.getLast?_eq_some_getLast h.ne, isBlank_of_isDigit (h.isDigit _ (List.head_mem h.ne)),
    isBlank_of_isDigit (h.isDigit _ (List.getLast_mem h.ne))⟩

/-- A written integer has no blanks around it. -/
theorem WritesInteger.trim_eq {cs : List Char} {n : Int} (h : WritesInteger cs n) :
    Chars.trim cs = cs := by
  cases h with
  | unsigned written =>
    obtain ⟨first, last, hfirst, hlast, hfirst', hlast'⟩ := written.ends
    exact Chars.trim_eq_self hfirst hlast hfirst' hlast'
  | plus written =>
    obtain ⟨first, last, -, hlast, -, hlast'⟩ := written.ends
    exact Chars.trim_eq_self rfl (by rw [List.getLast?_cons, hlast]; rfl) rfl hlast'
  | minus written =>
    obtain ⟨first, last, -, hlast, -, hlast'⟩ := written.ends
    exact Chars.trim_eq_self rfl (by rw [List.getLast?_cons, hlast]; rfl) rfl hlast'

/-- What digits write is read, and nothing else is. -/
theorem number?_eq_some_iff {cs : List Char} {n : Nat} :
    number? 10 cs = some n ↔ WritesNumber cs n := by
  rcases cs with _ | ⟨c, rest⟩
  · exact ⟨nofun, fun h => absurd rfl h.ne⟩
  · constructor
    · intro h
      have hdigits : ∀ d ∈ c :: rest, d.isDigit = true := isDigit_of_numberAfter? h
      refine ⟨List.cons_ne_nil c rest, hdigits, ?_⟩
      exact Option.some.inj ((numberAfter?_of_isDigit hdigits 0).symm.trans h)
    · intro h
      exact (numberAfter?_of_isDigit h.isDigit 0).trans (congrArg some h.number_eq)

/-- A number does not start with a sign. -/
theorem WritesNumber.notMem {digits : List Char} {n : Nat} (h : WritesNumber digits n) :
    '+' ∉ digits ∧ '-' ∉ digits :=
  ⟨fun hplus => absurd (h.isDigit _ hplus) (by decide),
    fun hminus => absurd (h.isDigit _ hminus) (by decide)⟩

/-- A written integer is read, and nothing else is. -/
theorem integer?_eq_some_iff {cs : List Char} {n : Int} :
    integer? cs = some n ↔ WritesInteger cs n := by
  constructor
  · intro h
    unfold integer? at h
    split at h
    · obtain ⟨k, hk, rfl⟩ := Option.map_eq_some_iff.1 h
      exact .plus (number?_eq_some_iff.1 hk)
    · obtain ⟨k, hk, rfl⟩ := Option.map_eq_some_iff.1 h
      exact .minus (number?_eq_some_iff.1 hk)
    · obtain ⟨k, hk, rfl⟩ := Option.map_eq_some_iff.1 h
      exact .unsigned (number?_eq_some_iff.1 hk)
  · intro h
    cases h with
    | unsigned written =>
      obtain ⟨hplus, hminus⟩ := written.notMem
      unfold integer?
      split
      · exact absurd List.mem_cons_self hplus
      · exact absurd List.mem_cons_self hminus
      · rw [number?_eq_some_iff.2 written]
        rfl
    | plus written =>
      show (number? 10 _).map Int.ofNat = _
      rw [number?_eq_some_iff.2 written]
      rfl
    | minus written =>
      show (number? 10 _).map (fun k => -Int.ofNat k) = _
      rw [number?_eq_some_iff.2 written]
      rfl

/-- The digits of a number are decimal digits. -/
theorem isDigit_of_mem_toDigits {n : Nat} {c : Char} (h : c ∈ Nat.toDigits 10 n) :
    c.isDigit = true :=
  Nat.isDigit_of_mem_toDigits (by decide) (by decide) h

/-- Numbers are read from their digits, so different numbers have different ones. -/
theorem toDigits_injective {n k : Nat} (h : Nat.toDigits 10 n = Nat.toDigits 10 k) : n = k := by
  have hread := congrArg (Nat.ofDigitChars 10 · 0) h
  simpa using hread

/-- The digits of a number write it. -/
theorem writesNumber_toDigits (n : Nat) : WritesNumber (Nat.toDigits 10 n) n :=
  ⟨Nat.toDigits_ne_nil, fun _ => isDigit_of_mem_toDigits, Nat.ofDigitChars_ten_toDigits⟩

end Autostart.Digits
