import Mathlib.Data.Nat.Notation
import Mathlib.Data.List.DropRight
import Mathlib.Data.List.Induction

/-!
# Decimal numerals

A numeral without a leading zero is the decimal expansion of its value, and
the expansion of a positive number has no leading zero.
-/

namespace DecimalDigits

/-- `'0'` to `'9'`. -/
def IsDigit (c : Char) : Prop :=
  ∃ d < 10, c = Nat.digitChar d

theorem isDigit_of_isDigit {c : Char} (digit : c.isDigit = true) :
    IsDigit c := by
  have bounds : 48 ≤ c.toNat ∧ c.toNat ≤ 57 :=
    Char.isDigit_iff_toNat.mp digit
  have table : ∀ d < 10, Nat.digitChar d = Char.ofNat (48 + d) := by decide
  refine ⟨c.toNat - 48, by omega, ?_⟩
  rw [table _ (by omega), Nat.add_sub_cancel' bounds.1, Char.ofNat_toNat]

theorem isDigit_of_mem_toDigits {n : ℕ} {c : Char}
    (member : c ∈ Nat.toDigits 10 n) : IsDigit c :=
  isDigit_of_isDigit
    (Nat.isDigit_of_mem_toDigits (by decide) (by decide) member)

theorem digitChar_eq_zero_iff {d : ℕ} (bound : d < 10) :
    Nat.digitChar d = '0' ↔ d = 0 := by
  have table : ∀ d < 10, Nat.digitChar d = '0' ↔ d = 0 := by decide
  exact table d bound

/-- The last digit of a numeral counts once, the others ten times as much. -/
theorem ofDigitChars_concat (digits : List Char) {d : ℕ} (bound : d < 10) :
    Nat.ofDigitChars 10 (digits ++ [Nat.digitChar d]) 0 =
      10 * Nat.ofDigitChars 10 digits 0 + d := by
  rw [Nat.ofDigitChars_append,
    Nat.ofDigitChars_cons_digitChar_of_lt_ten bound, Nat.ofDigitChars_nil]

theorem head?_toDigits_ne_zero {n : ℕ} (positive : 0 < n) :
    (Nat.toDigits 10 n).head? ≠ some '0' := by
  induction n using Nat.strongRecOn with
  | ind n ih =>
      by_cases small : n < 10
      · rw [Nat.toDigits_of_lt_base small]
        simpa [digitChar_eq_zero_iff small] using positive.ne'
      · rw [Nat.toDigits_of_base_le (by decide) (by omega),
          List.head?_append_of_ne_nil _ Nat.toDigits_ne_nil]
        exact ih (n / 10) (by omega) (by omega)

/-- A numeral that does not start with a zero has a positive value. -/
theorem ofDigitChars_pos {digits : List Char}
    (each : ∀ c ∈ digits, IsDigit c) (nonempty : digits ≠ [])
    (noZero : digits.head? ≠ some '0') :
    0 < Nat.ofDigitChars 10 digits 0 := by
  cases digits with
  | nil => exact absurd rfl nonempty
  | cons first rest =>
      obtain ⟨d, bound, rfl⟩ := each first (by simp)
      have leading : d ≠ 0 := by
        rintro rfl
        exact noZero rfl
      rw [Nat.ofDigitChars_cons_digitChar_of_lt_ten bound,
        Nat.ofDigitChars_eq_ofDigitChars_zero]
      have weight : 0 < 10 ^ rest.length := Nat.pow_pos (by decide)
      have share := Nat.mul_pos weight (Nat.pos_of_ne_zero leading)
      simp only [Nat.mul_zero, Nat.zero_add]
      omega

/-- A numeral that does not start with a zero is the expansion of its value. -/
theorem toDigits_ofDigitChars {digits : List Char}
    (each : ∀ c ∈ digits, IsDigit c) (nonempty : digits ≠ [])
    (noZero : digits.head? ≠ some '0') :
    Nat.toDigits 10 (Nat.ofDigitChars 10 digits 0) = digits := by
  induction digits using List.reverseRecOn with
  | nil => exact absurd rfl nonempty
  | append_singleton front last ih =>
      obtain ⟨d, bound, rfl⟩ := each last (by simp)
      rw [ofDigitChars_concat front bound]
      by_cases alone : front = []
      · subst alone
        rw [Nat.ofDigitChars_nil, Nat.mul_zero, Nat.zero_add,
          Nat.toDigits_of_lt_base bound, List.nil_append]
      · have eachFront : ∀ c ∈ front, IsDigit c :=
          fun c member => each c (List.mem_append_left _ member)
        have frontNoZero : front.head? ≠ some '0' := by
          rwa [List.head?_append_of_ne_nil _ alone] at noZero
        have positive := ofDigitChars_pos eachFront alone frontNoZero
        have quotient :
            (10 * Nat.ofDigitChars 10 front 0 + d) / 10 =
              Nat.ofDigitChars 10 front 0 := by
          omega
        have remainder :
            (10 * Nat.ofDigitChars 10 front 0 + d) % 10 = d := by
          omega
        rw [Nat.toDigits_of_base_le (by decide) (by omega), quotient,
          remainder, ih eachFront alone frontNoZero]

/-! ### Trailing zeros -/

/-- The numeral without its trailing zeros. -/
def stem (digits : List Char) : List Char :=
  digits.rdropWhile (· = '0')

theorem stem_append_zeros (digits : List Char) (zeros : ℕ) :
    stem (digits ++ List.replicate zeros '0') = stem digits := by
  induction zeros with
  | zero => simp
  | succ zeros ih =>
      rw [List.replicate_succ', ← List.append_assoc, stem,
        List.rdropWhile_concat_pos _ _ _ (by simp)]
      exact ih

theorem exists_stem_append_zeros (digits : List Char) :
    ∃ zeros, digits = stem digits ++ List.replicate zeros '0' := by
  induction digits using List.reverseRecOn with
  | nil => exact ⟨0, rfl⟩
  | append_singleton front last ih =>
      by_cases zero : last = '0'
      · obtain ⟨zeros, split⟩ := ih
        refine ⟨zeros + 1, ?_⟩
        rw [stem, List.rdropWhile_concat_pos _ _ _ (by simpa using zero),
          List.replicate_succ', ← List.append_assoc, zero]
        exact congrArg (· ++ ['0']) split
      · refine ⟨0, ?_⟩
        rw [stem, List.rdropWhile_concat_neg _ _ _ (by simpa using zero)]
        simp

theorem stem_eq_nil_iff (digits : List Char) :
    stem digits = [] ↔ ∀ c ∈ digits, c = '0' := by
  simp [stem, List.rdropWhile_eq_nil_iff]

end DecimalDigits
