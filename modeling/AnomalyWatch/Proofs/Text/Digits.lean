import AnomalyWatch.Text.Blank
import AnomalyWatch.Text.Digits
import Mathlib.Algebra.Group.Nat.Defs

/-!
Written numbers: all digits, of the width that was asked for, and worth the number that was written.
-/

set_option autoImplicit false
set_option relaxedAutoImplicit false

namespace AnomalyWatch.Text

/-- The text does not begin with a digit, so a run of digits before it ends where it begins. -/
def EndsDigits (cs : List Char) : Prop :=
  ∀ c ∈ cs.head?, isDigit c = false

@[simp]
theorem endsDigits_nil : EndsDigits [] := by
  simp [EndsDigits]

@[simp]
theorem endsDigits_cons {c : Char} {cs : List Char} : EndsDigits (c :: cs) ↔ isDigit c = false := by
  simp [EndsDigits]

section Runs

variable {ds rest : List Char}

theorem takeWhile_digits (digits : ∀ c ∈ ds, isDigit c) (ends : EndsDigits rest) :
    (ds ++ rest).takeWhile isDigit = ds := by
  rw [List.takeWhile_append_of_pos digits]
  cases rest with
  | nil => simp
  | cons c rest => simp [endsDigits_cons.mp ends]

theorem dropWhile_digits (digits : ∀ c ∈ ds, isDigit c) (ends : EndsDigits rest) :
    (ds ++ rest).dropWhile isDigit = rest := by
  rw [List.dropWhile_append_of_pos digits]
  cases rest with
  | nil => simp
  | cons c rest => simp [endsDigits_cons.mp ends]

end Runs

theorem isBlank_of_isDigit {c : Char} (digit : isDigit c) : isBlank c = false := by
  simp only [isDigit, Bool.and_eq_true, decide_eq_true_eq] at digit
  simp [isBlank]
  omega

private theorem isDigit_iff (c : Char) : isDigit c = c.isDigit := by
  simp only [isDigit, Char.isDigit, Char.toNat, ge_iff_le, UInt32.le_iff_toNat_le]
  rfl

private theorem digitsFrom_eq_ofDigitChars {cs : List Char} (digits : ∀ c ∈ cs, isDigit c) (acc : Nat) :
    digitsFrom acc cs = Nat.ofDigitChars 10 cs acc := by
  induction cs generalizing acc with
  | nil => rfl
  | cons c cs ih =>
    have first : digit c = c.toNat - '0'.toNat := by simp [digit, digits c (by simp)]
    have later := ih (fun d present => digits d (by simp [present])) (acc * 10 + digit c)
    rw [Nat.ofDigitChars_cons, ← first, Nat.mul_comm, ← later]
    rfl

theorem digit_lt (c : Char) : digit c < 10 := by
  unfold digit
  split
  next isDigit =>
    simp only [Text.isDigit, Bool.and_eq_true, decide_eq_true_eq] at isDigit
    omega
  next => decide

theorem digitsFrom_lt (acc : Nat) (cs : List Char) : digitsFrom acc cs < (acc + 1) * 10 ^ cs.length := by
  induction cs generalizing acc with
  | nil => simp [digitsFrom]
  | cons c cs ih =>
    have first : acc * 10 + digit c + 1 ≤ (acc + 1) * 10 := by
      have small := digit_lt c
      omega
    calc digitsFrom acc (c :: cs) = digitsFrom (acc * 10 + digit c) cs := rfl
      _ < (acc * 10 + digit c + 1) * 10 ^ cs.length := ih _
      _ ≤ (acc + 1) * 10 * 10 ^ cs.length := Nat.mul_le_mul_right _ first
      _ = (acc + 1) * 10 ^ (c :: cs).length := by
        rw [List.length_cons, Nat.pow_succ, Nat.mul_assoc, Nat.mul_comm 10]

section Decimal

variable {n : Nat} {c : Char}

theorem isDigit_of_mem_decimal (present : c ∈ decimal n) : isDigit c := by
  rw [isDigit_iff]
  exact Nat.isDigit_of_mem_toDigits (by decide) (by decide) present

theorem decimal_ne_nil : decimal n ≠ [] :=
  Nat.toDigits_ne_nil

@[simp]
theorem digitsValue_decimal : digitsValue (decimal n) = n := by
  rw [digitsValue, digitsFrom_eq_ofDigitChars fun _ => isDigit_of_mem_decimal]
  exact Nat.ofDigitChars_ten_toDigits

theorem decimal_ne_zero_cons (c : Char) (cs : List Char) : decimal n ≠ '0' :: c :: cs := by
  intro zero
  have value : digitsValue (decimal n) = digitsFrom 0 (c :: cs) := by
    rw [zero]
    rfl
  have small : n < 10 ^ (c :: cs).length := by
    have bound := digitsFrom_lt 0 (c :: cs)
    rwa [← value, digitsValue_decimal, Nat.zero_add, Nat.one_mul] at bound
  have fits : (decimal n).length ≤ (c :: cs).length :=
    (Nat.length_toDigits_le_iff (by decide) (by simp)).mpr small
  rw [zero, List.length_cons] at fits
  omega

theorem decimal_ne_zero (nonzero : n ≠ 0) (cs : List Char) : decimal n ≠ '0' :: cs := by
  intro zero
  cases cs with
  | nil =>
    have value : digitsValue (decimal n) = 0 := by
      rw [zero]
      rfl
    rw [digitsValue_decimal] at value
    exact nonzero value
  | cons c cs => exact decimal_ne_zero_cons c cs zero

theorem isDigit_of_mem_zeroPadded {width : Nat} (present : c ∈ zeroPadded width n) : isDigit c := by
  rcases List.mem_append.mp present with zero | present
  · obtain ⟨-, rfl⟩ := List.mem_replicate.mp zero
    decide
  · exact isDigit_of_mem_decimal present

@[simp]
theorem digitsValue_zeroPadded {width : Nat} : digitsValue (zeroPadded width n) = n := by
  rw [digitsValue, digitsFrom_eq_ofDigitChars fun _ => isDigit_of_mem_zeroPadded, zeroPadded,
    Nat.ofDigitChars_append, Nat.ofDigitChars_replicate_zero, Nat.mul_zero,
    Nat.ofDigitChars_ten_toDigits]

theorem zeroPadded_ne_nil (width n : Nat) : zeroPadded width n ≠ [] := by
  simp [zeroPadded, Nat.toDigits_ne_nil]

theorem le_length_zeroPadded {width : Nat} : width ≤ (zeroPadded width n).length := by
  simp only [zeroPadded, List.length_append, List.length_replicate]
  omega

theorem length_zeroPadded {width : Nat} (positive : 0 < width) (small : n < 10 ^ width) :
    (zeroPadded width n).length = width := by
  have fits := (Nat.length_toDigits_le_iff (b := 10) (by decide) positive).mpr small
  simp only [zeroPadded, List.length_append, List.length_replicate]
  omega

end Decimal

end AnomalyWatch.Text
