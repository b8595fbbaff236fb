import Rulebook.Number.Decimal
import Rulebook.Proofs.Characters

/-!
# The digits of a natural number

The decimal text of a natural number is ASCII digits, has no zero in front of another digit, and
reads back as the number.
-/

namespace Rulebook.Numeral

open Text

/-- The decimal text of a number is ASCII digits. -/
theorem isAsciiDigit_of_mem_toDigits {n : Nat} {c : Char} (h : c ∈ Nat.toDigits 10 n) :
    isAsciiDigit c = true :=
  Nat.isDigit_of_mem_toDigits (by decide) (by decide) h

/-- The decimal text of a number reads back as the number. -/
theorem natValue_toDigits (n : Nat) : natValue (Nat.toDigits 10 n) = n :=
  Nat.ofDigitChars_ten_toDigits

/-- The decimal text of a number starts with a zero only for the number zero. -/
theorem eq_zero_of_head?_toDigits {n : Nat} (h : (Nat.toDigits 10 n).head? = some '0') : n = 0 := by
  by_cases hn : n < 10
  · rw [Nat.toDigits_of_lt_base hn, List.head?_cons, Option.some.injEq] at h
    exact Nat.digitChar_eq_zero.1 h
  · have hle : 10 ≤ n := Nat.le_of_not_lt hn
    have hne : Nat.toDigits 10 (n / 10) ≠ [] := Nat.toDigits_ne_nil
    rw [Nat.toDigits_of_base_le (by decide) hle, List.head?_append, List.head?_eq_some_head hne,
      Option.some_or, ← List.head?_eq_some_head hne] at h
    have hquotient := eq_zero_of_head?_toDigits h
    omega
termination_by n
decreasing_by omega

/-- The decimal text of a number has no zero in front of another digit. -/
theorem length_toDigits_of_head? {n : Nat} (h : (Nat.toDigits 10 n).head? = some '0') :
    (Nat.toDigits 10 n).length = 1 := by
  rw [eq_zero_of_head?_toDigits h, Nat.toDigits_zero]
  rfl

/-! ## Rows of digits as numbers -/

/-- Digits behind a number do not make it less. -/
theorem mul_pow_le_ofDigitChars (n : Nat) (ds : List Char) :
    n * Nat.pow 10 ds.length ≤ Nat.ofDigitChars 10 ds n := by
  induction ds generalizing n with
  | nil => exact Nat.le_of_eq (Nat.mul_one n)
  | cons d ds ih =>
    calc n * (Nat.pow 10 ds.length * 10)
        = 10 * n * Nat.pow 10 ds.length := by ac_rfl
      _ ≤ (10 * n + digitValue d) * Nat.pow 10 ds.length :=
          Nat.mul_le_mul_right _ (Nat.le_add_right _ _)
      _ ≤ Nat.ofDigitChars 10 (d :: ds) n := ih _

/-- Digits behind a number leave it below the next one with zeros in their places. -/
theorem ofDigitChars_lt (n : Nat) {ds : List Char} (digits : ∀ c ∈ ds, isAsciiDigit c = true) :
    Nat.ofDigitChars 10 ds n < (n + 1) * Nat.pow 10 ds.length := by
  induction ds generalizing n with
  | nil => exact Nat.lt_of_lt_of_eq (Nat.lt_succ_self n) (Nat.mul_one _).symm
  | cons d ds ih =>
    obtain ⟨hd, hds⟩ := List.forall_mem_cons.1 digits
    have hvalue : digitValue d ≤ 9 := by
      unfold isAsciiDigit at hd
      simp only [Bool.and_eq_true, decide_eq_true_eq] at hd
      exact Nat.sub_le_sub_right hd.2 _
    calc Nat.ofDigitChars 10 (d :: ds) n
        < (10 * n + digitValue d + 1) * Nat.pow 10 ds.length := ih _ hds
      _ ≤ (10 * (n + 1)) * Nat.pow 10 ds.length := Nat.mul_le_mul_right _ (by omega)
      _ = (n + 1) * (Nat.pow 10 ds.length * 10) := by ac_rfl

/-- A row of digits is below the power of ten with as many zeros. -/
theorem natValue_lt {ds : List Char} (digits : ∀ c ∈ ds, isAsciiDigit c = true) :
    natValue ds < Nat.pow 10 ds.length :=
  Nat.lt_of_lt_of_eq (ofDigitChars_lt 0 digits) (Nat.one_mul _)

/-! ## Rows of digits in front of something else -/

/-- What follows some characters does not go on with a digit. -/
def NoDigitFirst (rest : List Char) : Prop := ∀ c ∈ rest.head?, isAsciiDigit c = false

/-- A row of digits ends where no digit follows. -/
theorem takeWhile_append_of_noDigitFirst (cs : List Char) {rest : List Char}
    (h : NoDigitFirst rest) :
    (cs ++ rest).takeWhile isAsciiDigit = cs.takeWhile isAsciiDigit ∧
      (cs ++ rest).dropWhile isAsciiDigit = cs.dropWhile isAsciiDigit ++ rest :=
  takeWhile_append_of_stops cs rest fun _ => h

end Rulebook.Numeral
