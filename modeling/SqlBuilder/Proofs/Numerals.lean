import Mathlib.Data.List.Induction
import SqlBuilder.Text.Blank
import SqlBuilder.Text.Numeral

/-! # Canonical decimal forms

A text can denote a whole number in many ways, with zeros in front or a plus sign.  One of them
is canonical, and it is said here by its characters alone: digits without a zero in front of
others, and a minus sign in front of a number other than zero (`Text.IsCanonical`).  What digits
denote is the sum of their values at their places (`Text.placeValue`).

Showing a number gives its canonical form and no other text is one (`Text.isCanonical_iff`), and
what is shown is read back (`Text.readInt?_showInt`).
-/
namespace SqlBuilder
namespace Text

/-! ### Digits and their places -/

/-- The number that digits denote: each one counts for its value times the weight of its place. -/
def placeValue : List Char → Nat
  | [] => 0
  | c :: cs => (c.toNat - '0'.toNat) * Nat.pow 10 cs.length + placeValue cs

/-- Digits, at least one, and no zero in front of others. -/
structure IsNumeral (cs : List Char) : Prop where
  nonempty : cs ≠ []
  digits : ∀ c ∈ cs, c.isDigit = true
  lead : cs.head? = some '0' → cs = ['0']

/-- A text is the canonical decimal form of a whole number. -/
inductive IsCanonical : Int → List Char → Prop
  | natural {cs : List Char} (numeral : IsNumeral cs) : IsCanonical (placeValue cs) cs
  | negative {cs : List Char} (numeral : IsNumeral cs) (nonzero : cs ≠ ['0']) :
    IsCanonical (-(placeValue cs : Int)) ('-' :: cs)

/-- Adding up the places from the left, each digit times ten and the next one, is the same. -/
theorem ofDigitChars_eq_placeValue (cs : List Char) :
    Nat.ofDigitChars 10 cs 0 = placeValue cs := by
  induction cs with
  | nil => rfl
  | cons c cs ih =>
    rw [Nat.ofDigitChars_cons, Nat.ofDigitChars_eq_ofDigitChars_zero, ih, placeValue,
      Nat.mul_zero, Nat.zero_add, Nat.mul_comm]
    rfl

theorem placeValue_concat (cs : List Char) (c : Char) :
    placeValue (cs ++ [c]) = 10 * placeValue cs + (c.toNat - '0'.toNat) := by
  rw [← ofDigitChars_eq_placeValue, Nat.ofDigitChars_append, Nat.ofDigitChars_cons,
    ofDigitChars_eq_placeValue, Nat.ofDigitChars_nil]

theorem placeValue_showNat (n : Nat) : placeValue (showNat n) = n := by
  rw [← ofDigitChars_eq_placeValue]
  exact Nat.ofDigitChars_ten_toDigits

theorem bounds_of_isDigit {c : Char} (digit : c.isDigit = true) :
    48 ≤ c.toNat ∧ c.toNat ≤ 57 := by
  simpa [Char.isDigit, UInt32.le_iff_toNat_le] using digit

/-- A digit is below ten, and it is the digit of its value. -/
theorem digit_of_isDigit {c : Char} (digit : c.isDigit = true) :
    c.toNat - '0'.toNat < 10 ∧ Nat.digitChar (c.toNat - '0'.toNat) = c := by
  have bounds := bounds_of_isDigit digit
  have zero : '0'.toNat = 48 := rfl
  have small : c.toNat - '0'.toNat < 10 := by omega
  refine ⟨small, Char.toNat_inj.mp ?_⟩
  rw [Nat.toNat_digitChar_of_lt_ten small]
  omega

/-! ### Showing a number -/

/-- Digits that begin with another one than zero denote a positive number and are shown again. -/
theorem showNat_placeValue_of_lead {cs : List Char} (nonempty : cs ≠ [])
    (digits : ∀ c ∈ cs, c.isDigit = true) (lead : cs.head? ≠ some '0') :
    0 < placeValue cs ∧ showNat (placeValue cs) = cs := by
  -- the last digit is the one that showing takes off first
  induction cs using List.reverseRecOn with
  | nil => exact absurd rfl nonempty
  | append_singleton cs c ih =>
    obtain ⟨small, digit⟩ := digit_of_isDigit (digits c (by simp))
    rw [placeValue_concat]
    rcases cs with _ | ⟨first, rest⟩
    · have positive : 0 < c.toNat - '0'.toNat := by
        rcases Nat.eq_zero_or_pos (c.toNat - '0'.toNat) with zero | positive
        · rw [zero] at digit
          exact absurd (congrArg some digit.symm) lead
        · exact positive
      refine ⟨by omega, ?_⟩
      rw [placeValue, Nat.mul_zero, Nat.zero_add, showNat, Nat.toDigits_of_lt_base small, digit]
      rfl
    · have before : ∀ c ∈ first :: rest, c.isDigit = true := fun c member =>
        digits c (List.mem_append_left _ member)
      obtain ⟨positive, shown⟩ := ih (List.cons_ne_nil _ _) before lead
      refine ⟨by omega, ?_⟩
      have split := Nat.toDigits_append_toDigits (b := 10) (by decide) positive small
      rw [showNat, ← split, Nat.toDigits_of_lt_base small, digit]
      exact congrArg (· ++ [c]) shown

/-- A numeral is what its number is shown as. -/
theorem IsNumeral.showNat_placeValue {cs : List Char} (numeral : IsNumeral cs) :
    showNat (placeValue cs) = cs := by
  by_cases lead : cs.head? = some '0'
  · rw [numeral.lead lead]
    decide
  · exact (showNat_placeValue_of_lead numeral.nonempty numeral.digits lead).2

/-- The only numeral of zero is its digit. -/
theorem IsNumeral.placeValue_pos {cs : List Char} (numeral : IsNumeral cs) (nonzero : cs ≠ ['0']) :
    0 < placeValue cs :=
  (showNat_placeValue_of_lead numeral.nonempty numeral.digits fun lead =>
    nonzero (numeral.lead lead)).1

theorem isDigit_of_mem_showNat {n : Nat} {c : Char} (member : c ∈ showNat n) : c.isDigit = true :=
  Nat.isDigit_of_mem_toDigits (by decide) (by decide) member

/-- Only zero is shown with a zero in front. -/
theorem head?_showNat_ne {n : Nat} (positive : 0 < n) : (showNat n).head? ≠ some '0' := by
  induction n using Nat.strongRecOn with
  | ind n ih =>
    rw [showNat, Nat.toDigits_eq_if (by decide)]
    split
    · next small =>
      intro zero
      have digit : Nat.digitChar n = '0' := Option.some.inj zero
      have value := congrArg Char.toNat digit
      rw [Nat.toNat_digitChar_of_lt_ten small, show '0'.toNat = 48 from rfl] at value
      omega
    · obtain ⟨first, rest, shown⟩ :=
        List.exists_cons_of_ne_nil (Nat.toDigits_ne_nil (n := n / 10) (b := 10))
      have before := ih (n / 10) (by omega) (by omega)
      rw [showNat, shown] at before
      rw [shown]
      exact before

theorem isNumeral_showNat (n : Nat) : IsNumeral (showNat n) where
  nonempty := Nat.toDigits_ne_nil
  digits _ member := isDigit_of_mem_showNat member
  lead zero := by
    rcases Nat.eq_zero_or_pos n with rfl | positive
    · rfl
    · exact absurd zero (head?_showNat_ne positive)

/-- **A text is the canonical form of a number exactly if the number is shown as it.** -/
theorem isCanonical_iff (n : Int) (cs : List Char) : IsCanonical n cs ↔ cs = showInt n := by
  constructor
  · intro canonical
    cases canonical with
    | natural numeral => exact numeral.showNat_placeValue.symm
    | @negative digits numeral nonzero =>
      obtain ⟨before, value⟩ : ∃ before, placeValue digits = before + 1 :=
        Nat.exists_eq_add_one.mpr (numeral.placeValue_pos nonzero)
      have negated : -((before + 1 : Nat) : Int) = Int.negSucc before := rfl
      rw [value, negated, showInt, ← value, numeral.showNat_placeValue]
  · rintro rfl
    cases n with
    | ofNat n =>
      have canonical := IsCanonical.natural (isNumeral_showNat n)
      rwa [placeValue_showNat] at canonical
    | negSucc n =>
      have nonzero : showNat (n + 1) ≠ ['0'] := fun zero =>
        head?_showNat_ne (Nat.succ_pos n) (by rw [zero]; rfl)
      have canonical := IsCanonical.negative (isNumeral_showNat (n + 1)) nonzero
      rwa [placeValue_showNat] at canonical

/-! ### Reading a number -/

section
variable {cs : List Char}

theorem isBlank_of_isDigit {c : Char} (digit : c.isDigit = true) : isBlank c = false := by
  have bounds := bounds_of_isDigit digit
  simp only [isBlank, Bool.or_eq_false_iff, Bool.and_eq_false_iff, decide_eq_false_iff_not,
    beq_eq_false_iff_ne]
  omega

/-- Digits do not begin with anything else. -/
theorem ne_cons_of_digits {c : Char} {rest : List Char} (digits : ∀ c ∈ cs, c.isDigit = true)
    (other : c.isDigit = false) : cs ≠ c :: rest := by
  intro first
  have digit : c.isDigit = true := digits c (first ▸ List.mem_cons_self)
  rw [other] at digit
  cases digit

theorem readNat?_of_digits (nonempty : cs ≠ []) (digits : ∀ c ∈ cs, c.isDigit = true) :
    readNat? cs = some (placeValue cs) := by
  have decimal : isDecimal cs = true := by
    simpa [isDecimal, nonempty] using digits
  rw [readNat?, if_pos decimal, ofDigitChars_eq_placeValue]

/-- Digits have no sign, so that the whole text is read. -/
theorem readInt?_of_digits (digits : ∀ c ∈ cs, c.isDigit = true) :
    readInt? cs = (readNat? cs).map fun n => (n : Int) := by
  rw [readInt?]
  · exact fun rest => ne_cons_of_digits digits (by decide)
  · exact fun rest => ne_cons_of_digits digits (by decide)

end

/-- **What is shown is read back.** -/
theorem readInt?_showInt (n : Int) : readInt? (showInt n) = some n := by
  cases n with
  | ofNat n =>
    rw [showInt, readInt?_of_digits fun _ member => isDigit_of_mem_showNat member,
      readNat?_showNat]
    rfl
  | negSucc n =>
    rw [showInt, readInt?, readNat?_showNat]
    rfl

theorem showInt_inj {n m : Int} (h : showInt n = showInt m) : n = m := by
  have read := congrArg readInt? h
  rw [readInt?_showInt, readInt?_showInt] at read
  exact Option.some.inj read

end Text
end SqlBuilder
