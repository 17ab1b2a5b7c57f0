import AnomalyWatch.Decimal.Shortest
import Mathlib.Algebra.Order.Field.Power
import Mathlib.Data.Rat.Cast.Order
import Mathlib.Tactic.GCongr
import Mathlib.Tactic.Linarith
import Mathlib.Tactic.NormNum
import Mathlib.Tactic.Positivity
import Mathlib.Tactic.Ring

/-!
What the search for the shortest decimal ends with: a decimal that does not lie above the interval of the
reals that round to the value.
-/

set_option autoImplicit false
set_option relaxedAutoImplicit false

namespace AnomalyWatch.Decimal

/-- Zero is written as zero and not as a zero with an exponent. -/
def Scaled.Proper (s : Scaled) : Prop :=
  s.digits = 0 → s.exponent = 0

/-- A point of the grid `10^k` that does not lie above the rounding interval. -/
def Binary.Reaches (b : Binary) (k : Int) (digits : Nat) : Prop :=
  digits * (shiftedBy k b.quarters.2.1 b.quarters.2.2.2).2 ≤
    (shiftedBy k b.quarters.2.2.1 b.quarters.2.2.2).1

private theorem gridPoint?_spec {b : Binary} {k : Int} {digits : Nat} (found : gridPoint? b k = some digits) :
    digits ≠ 0 ∧ b.Reaches k digits := by
  rcases quarters : b.quarters with ⟨lo, v, hi, den⟩
  rcases shifted : shiftedBy k v den with ⟨v', den'⟩
  simp only [gridPoint?, Binary.Reaches, quarters, shifted] at found ⊢
  generalize (shiftedBy k hi den).1 = hi' at found ⊢
  generalize (shiftedBy k lo den).1 = lo' at found ⊢
  have bound {c : Nat} (inside : (if b.mantissa % 2 = 0 then
      decide (lo' ≤ c * den') && decide (c * den' ≤ hi')
      else decide (lo' < c * den') && decide (c * den' < hi')) = true) : c * den' ≤ hi' := by
    split at inside <;>
    · simp only [Bool.and_eq_true, decide_eq_true_eq] at inside
      omega
  split at found
  next below above =>
    obtain ⟨below, positive⟩ := Bool.and_eq_true_iff.mp below
    have least : v' / den' ≠ 0 ∧ v' / den' * den' ≤ hi' := ⟨of_decide_eq_true positive, bound below⟩
    have next : v' / den' + 1 ≠ 0 ∧ (v' / den' + 1) * den' ≤ hi' := ⟨Nat.succ_ne_zero _, bound above⟩
    split at found
    · cases found
      exact least
    · split at found
      · cases found
        exact next
      · split at found
        · cases found
          exact least
        · cases found
          exact next
  next below _ =>
    obtain ⟨below, positive⟩ := Bool.and_eq_true_iff.mp below
    cases found
    exact ⟨of_decide_eq_true positive, bound below⟩
  next above =>
    cases found
    exact ⟨Nat.succ_ne_zero _, bound above⟩
  next => cases found

private theorem stripZeros_ne_zero {digits : Nat} (nonzero : digits ≠ 0) (k : Int) (fuel : Nat) :
    (stripZeros digits k fuel).digits ≠ 0 := by
  induction fuel generalizing digits k with
  | zero => exact nonzero
  | succ fuel ih =>
    unfold stripZeros
    split
    next trailing =>
      simp only [Bool.and_eq_true, decide_eq_true_eq] at trailing
      exact ih (by omega) (k + 1)
    next => exact nonzero

private theorem search_cases (b : Binary) (e : Int) (count fuel : Nat) :
    search b e count fuel = ⟨0, 0⟩ ∨
      ∃ k digits, digits ≠ 0 ∧ b.Reaches k digits ∧ search b e count fuel = stripZeros digits k 20 := by
  induction fuel generalizing count with
  | zero => exact .inl rfl
  | succ fuel ih =>
    unfold search
    split
    next digits found =>
      obtain ⟨nonzero, reaches⟩ := gridPoint?_spec found
      exact .inr ⟨_, digits, nonzero, reaches, rfl⟩
    next => exact ih (count + 1)

private theorem shortest_cases (b : Binary) :
    shortest b = ⟨0, 0⟩ ∨
      ∃ k digits, digits ≠ 0 ∧ b.Reaches k digits ∧ shortest b = stripZeros digits k 20 :=
  search_cases b (magnitude b.quarters.2.1 b.quarters.2.2.2) 1 17

theorem proper_shortest (b : Binary) : (shortest b).Proper := by
  intro none
  rcases shortest_cases b with zero | ⟨k, digits, nonzero, -, same⟩
  · rw [zero]
  · rw [same] at none
    exact absurd none (stripZeros_ne_zero nonzero k 20)

section Value

def Scaled.value (s : Scaled) : ℚ :=
  s.digits * 10 ^ s.exponent

private theorem value_stripZeros (digits : Nat) (k : Int) (fuel : Nat) :
    (stripZeros digits k fuel).value = digits * 10 ^ k := by
  induction fuel generalizing digits k with
  | zero => rfl
  | succ fuel ih =>
    unfold stripZeros
    split
    next trailing =>
      simp only [Bool.and_eq_true, decide_eq_true_eq] at trailing
      have whole : ((digits / 10 : Nat) : ℚ) * 10 = digits := by
        exact_mod_cast Nat.div_mul_cancel (Nat.dvd_of_mod_eq_zero trailing.1)
      rw [ih, zpow_add_one₀ (by norm_num), ← whole]
      ring
    next => rfl

/-- The upper end of the interval of the reals that round to the value. -/
def Binary.ceiling (b : Binary) : ℚ :=
  (4 * b.mantissa + 2) * 2 ^ (b.exponent - 2)

private theorem shiftedBy_eq (k : Int) (n d : Nat) :
    shiftedBy k n d = (n * 10 ^ (-k).toNat, d * 10 ^ k.toNat) := by
  unfold shiftedBy
  split
  next nonneg => simp [Int.toNat_of_nonpos (Int.neg_nonpos_of_nonneg nonneg)]
  next negative => simp [Int.toNat_of_nonpos (Int.not_le.mp negative).le]

private theorem pow_toNat {a : ℚ} (nonzero : a ≠ 0) (x : Int) : a ^ x.toNat = a ^ x * a ^ (-x).toNat := by
  rw [← zpow_natCast, ← zpow_natCast, ← zpow_add₀ nonzero]
  congr 1
  omega

private theorem Binary.Reaches.le_ceiling {b : Binary} {k : Int} {digits : Nat} (reaches : b.Reaches k digits) :
    (digits : ℚ) * 10 ^ k ≤ b.ceiling := by
  simp only [Binary.Reaches, Binary.quarters, shiftedBy_eq, Nat.pow_eq] at reaches
  have ten := pow_toNat (by norm_num : (10 : ℚ) ≠ 0) k
  have two := pow_toNat (by norm_num : (2 : ℚ) ≠ 0) (b.exponent - 2)
  rw [Int.neg_sub] at two
  have common : (0 : ℚ) < 2 ^ (2 - b.exponent).toNat * 10 ^ (-k).toNat := by positivity
  refine le_of_mul_le_mul_right ?_ common
  calc (digits : ℚ) * 10 ^ k * (2 ^ (2 - b.exponent).toNat * 10 ^ (-k).toNat)
      = digits * (2 ^ (2 - b.exponent).toNat * 10 ^ k.toNat) := by
        rw [ten]
        ring
    _ ≤ (4 * b.mantissa + 2) * 2 ^ (b.exponent - 2).toNat * 10 ^ (-k).toNat := by exact_mod_cast reaches
    _ = b.ceiling * (2 ^ (2 - b.exponent).toNat * 10 ^ (-k).toNat) := by
        rw [two, Binary.ceiling]
        ring

theorem value_shortest_le (b : Binary) : (shortest b).value ≤ b.ceiling := by
  rcases shortest_cases b with zero | ⟨k, digits, -, reaches, same⟩
  · have nonneg : 0 ≤ b.ceiling := by
      rw [Binary.ceiling]
      positivity
    rw [zero]
    simpa [Scaled.value] using nonneg
  · rw [same, value_stripZeros]
    exact reaches.le_ceiling

end Value

end AnomalyWatch.Decimal
