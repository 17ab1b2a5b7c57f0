import AnomalyWatch.Document.JsonFormat
import AnomalyWatch.Proofs.Decimal.Rounding
import AnomalyWatch.Proofs.Decimal.Written

/-!
A finite double that is written reads back as a double.

The reader drops the digits that do not fit a word, and what it keeps, scaled by the exponent that is left, is
worth no more than the literal. A negative exponent always scales; a positive one is left only of a literal in
scientific notation, which is worth no more than the end of the rounding interval of the double it was written
for. Rounding takes such a product past the range at most for the thirty-two doubles next to the largest, and
for those it does not.
-/

set_option autoImplicit false
set_option relaxedAutoImplicit false

namespace AnomalyWatch.Json

open AnomalyWatch.Text

section Gathering

private theorem mul_pow_le_digitsFrom (word : Nat) (cs : List Char) :
    word * 10 ^ cs.length ≤ digitsFrom word cs := by
  induction cs generalizing word with
  | nil => simp [digitsFrom]
  | cons c cs ih =>
    calc word * 10 ^ (c :: cs).length = word * 10 * 10 ^ cs.length := by
          rw [List.length_cons, Nat.pow_succ, Nat.mul_assoc, Nat.mul_comm 10]
      _ ≤ (word * 10 + digit c) * 10 ^ cs.length := Nat.mul_le_mul_right _ (Nat.le_add_right ..)
      _ ≤ digitsFrom word (c :: cs) := ih _

private theorem foldl_gather {word : Nat} {cs : List Char} (fits : digitsFrom word cs ≤ maxWord) :
    cs.foldl
      (fun s c =>
        let next := s.word * 10 + digit c
        if s.full || maxWord < next then ⟨s.word, s.dropped + 1, true⟩ else ⟨next, 0, false⟩)
      (⟨word, 0, false⟩ : Significand) = ⟨digitsFrom word cs, 0, false⟩ := by
  induction cs generalizing word with
  | nil => rfl
  | cons c cs ih =>
    have grows := mul_pow_le_digitsFrom (word * 10 + digit c) cs
    have next : word * 10 + digit c ≤ maxWord :=
      (Nat.le_mul_of_pos_right _ (Nat.pow_pos (by decide))).trans (grows.trans fits)
    rw [List.foldl_cons]
    simp only [Bool.false_or, decide_eq_true_eq, Nat.not_lt.mpr next, if_false]
    exact ih fits

private theorem gatherWhole_eq {cs : List Char} (fits : digitsValue cs ≤ maxWord) :
    gatherWhole cs = ⟨digitsValue cs, 0, false⟩ :=
  foldl_gather fits

private theorem gatherFraction_spec (word taken : Nat) (cs : List Char) :
    ∃ kept ≤ cs.length, (gatherFraction word taken cs).2 = taken + kept ∧
      word ≤ (gatherFraction word taken cs).1 ∧
      (gatherFraction word taken cs).1 * 10 ^ (cs.length - kept) ≤ digitsFrom word cs := by
  induction cs generalizing word taken with
  | nil => exact ⟨0, Nat.le_refl _, rfl, Nat.le_refl _, by simp [gatherFraction, digitsFrom]⟩
  | cons c cs ih =>
    by_cases full : maxWord < word * 10 + digit c
    · rw [gatherFraction, if_pos full]
      exact ⟨0, Nat.zero_le _, rfl, Nat.le_refl _, mul_pow_le_digitsFrom word (c :: cs)⟩
    · rw [gatherFraction, if_neg full]
      obtain ⟨kept, inside, count, grows, value⟩ := ih (word * 10 + digit c) (taken + 1)
      refine ⟨kept + 1, by simp [inside], by omega, by omega, ?_⟩
      rw [List.length_cons, Nat.add_sub_add_right]
      exact value

private theorem taken_pos {word : Nat} {cs : List Char} (some : cs ≠ []) (fits : word * 10 + 9 ≤ maxWord) :
    0 < (gatherFraction word 0 cs).2 := by
  cases cs with
  | nil => exact absurd rfl some
  | cons c cs =>
    have small := digit_lt c
    obtain ⟨kept, -, count, -⟩ := gatherFraction_spec (word * 10 + digit c) 1 cs
    rw [gatherFraction, if_neg (by omega), count]
    omega

end Gathering

private theorem isSome_scaleFrom (x : Float) {exponent : Int} (negative : exponent < 0) (fuel : Nat) :
    (scaleFrom x exponent fuel).isSome := by
  induction fuel generalizing x exponent with
  | zero => rfl
  | succ fuel ih =>
    have down : ¬ 0 ≤ exponent := by omega
    simp only [scaleFrom, down, if_false]
    split
    · rfl
    · split
      · rfl
      · exact ih _ (by omega)

private theorem isSome_scaleFrom_natCast {x : Float} {n : Nat} (range : n ≤ 308)
    (finite : (x * Float.ofScientific 1 false n).isInf = false) (fuel : Nat) :
    (scaleFrom x n (fuel + 1)).isSome := by
  have up : 0 ≤ (n : Int) := Int.natCast_nonneg n
  simp [scaleFrom, up, range, finite]

private theorem safe_lt : Decimal.safe < 10 ^ 309 := by
  decide +kernel

private theorem exponentValue_signed (e : Int) :
    exponentValue ((if e < 0 then '-' else '+') :: decimal e.natAbs) =
      if 0x80000000 ≤ e.natAbs then none else some e := by
  by_cases negative : e < 0
  · have value : -(e.natAbs : Int) = e := by omega
    simp only [exponentValue, negative, if_true, List.head?_cons, beq_self_eq_true, Bool.true_or,
      List.drop_succ_cons, List.drop_zero, digitsValue_decimal, value]
  · have value : (e.natAbs : Int) = e := by omega
    have plus : (some '+' == some '-') = false := rfl
    simp only [exponentValue, negative, if_false, List.head?_cons, beq_self_eq_true, Bool.or_true, plus,
      Bool.false_eq_true, if_true, List.drop_succ_cons, List.drop_zero, digitsValue_decimal, value]

namespace Literal

variable {l : Literal}

private theorem isSome_magnitude?_positional (short : l.whole.length ≤ 16) (fraction : l.fraction ≠ [])
    (plain : l.exponent = []) : l.magnitude?.isSome := by
  have small : digitsValue l.whole < 10 ^ 16 :=
    calc digitsValue l.whole < (0 + 1) * 10 ^ l.whole.length := digitsFrom_lt 0 l.whole
      _ ≤ 10 ^ 16 := by
        rw [Nat.zero_add, Nat.one_mul]
        exact Nat.pow_le_pow_right (by decide) short
  have fits : digitsValue l.whole * 10 + 9 ≤ maxWord := by
    simp only [maxWord]
    omega
  have taken := taken_pos fraction fits
  have gathered : gatherWhole l.whole = ⟨digitsValue l.whole, 0, false⟩ := gatherWhole_eq (by omega)
  have exponent : exponentValue l.exponent = some 0 := by
    rw [plain]
    rfl
  simp only [Literal.magnitude?, gathered, exponent]
  exact isSome_scaleFrom _ (by omega) 8

section Bounded

variable {c : Char} {cs : List Char} {e : Int}

private theorem exponent_lt_of_le_safe (nonzero : digit c ≠ 0)
    (bound : (digitsFrom (digit c) cs : ℚ) * 10 ^ (e - cs.length) ≤ Decimal.safe) : e < 309 := by
  have full : 10 ^ cs.length ≤ digitsFrom (digit c) cs :=
    (Nat.le_mul_of_pos_left _ (Nat.pos_of_ne_zero nonzero)).trans (mul_pow_le_digitsFrom _ _)
  have leading : (10 : ℚ) ^ e ≤ Decimal.safe :=
    calc (10 : ℚ) ^ e = (10 ^ cs.length : Nat) * 10 ^ (e - cs.length) := by
          rw [Nat.cast_pow, Nat.cast_ofNat, ← zpow_natCast, ← zpow_add₀ (by norm_num)]
          congr 1
          omega
      _ ≤ digitsFrom (digit c) cs * 10 ^ (e - cs.length) := by gcongr
      _ ≤ Decimal.safe := bound
  have limit : ((Decimal.safe : Nat) : ℚ) < 10 ^ (309 : Int) := by exact_mod_cast safe_lt
  exact (zpow_lt_zpow_iff_right₀ (by norm_num)).mp (leading.trans_lt limit)

/-- Digits that were dropped only made the number larger. -/
theorem word_mul_le_safe {word taken n : Nat} (net : e = n + taken) (count : taken ≤ cs.length)
    (grows : word * 10 ^ (cs.length - taken) ≤ digitsFrom (digit c) cs)
    (bound : (digitsFrom (digit c) cs : ℚ) * 10 ^ (e - cs.length) ≤ Decimal.safe) :
    word * 10 ^ n ≤ Decimal.safe := by
  have scaled : (word : ℚ) * 10 ^ n ≤ Decimal.safe :=
    calc (word : ℚ) * 10 ^ n = (word * 10 ^ (cs.length - taken) : Nat) * 10 ^ (e - cs.length) := by
          rw [Nat.cast_mul, Nat.cast_pow, Nat.cast_ofNat, ← zpow_natCast, ← zpow_natCast, mul_assoc,
            ← zpow_add₀ (by norm_num)]
          congr 2
          omega
      _ ≤ digitsFrom (digit c) cs * 10 ^ (e - cs.length) := by gcongr
      _ ≤ Decimal.safe := bound
  exact_mod_cast scaled

end Bounded

private theorem isSome_magnitude?_scientific {c : Char} {cs : List Char} {e : Int}
    (worth : 0 ≤ e → digit c ≠ 0 ∧ (digitsFrom (digit c) cs : ℚ) * 10 ^ (e - cs.length) ≤ Decimal.safe) :
    (Literal.mk false [c] cs ((if e < 0 then '-' else '+') :: decimal e.natAbs)).magnitude?.isSome := by
  have gathered : gatherWhole [c] = ⟨digit c, 0, false⟩ := by
    have small := digit_lt c
    have single : digitsValue [c] = digit c := by simp [digitsValue, digitsFrom]
    rw [← single]
    exact gatherWhole_eq (by rw [single, maxWord]; omega)
  obtain ⟨kept, inside, count, grows, value⟩ := gatherFraction_spec (digit c) 0 cs
  rcases gather : gatherFraction (digit c) 0 cs with ⟨word, taken⟩
  rw [gather] at count grows value
  simp only [Nat.zero_add] at count grows value
  subst count
  simp only [Literal.magnitude?, gathered, exponentValue_signed, gather]
  by_cases negative : e < 0
  · by_cases far : 0x80000000 ≤ e.natAbs
    · simp [far, negative]
    · simp only [far, if_false]
      exact isSome_scaleFrom _ (by omega) 8
  · obtain ⟨nonzero, bound⟩ := worth (by omega)
    have near : e < 309 := exponent_lt_of_le_safe nonzero bound
    have close : ¬ 0x80000000 ≤ e.natAbs := by omega
    simp only [close, if_false]
    by_cases left : e < taken
    · exact isSome_scaleFrom _ (by omega) 8
    · obtain ⟨n, net⟩ : ∃ n : Nat, e = n + taken := ⟨(e - taken).toNat, by omega⟩
      have product : word * 10 ^ n ≤ Decimal.safe := word_mul_le_safe net inside value bound
      have rest : ((0 : Nat) : Int) - taken + e = n := by omega
      have range : n ≤ 308 := by omega
      have finite := Decimal.isInf_scaled (by omega) range product
      rw [rest]
      exact isSome_scaleFrom_natCast range finite 7

end Literal

section Doubles

open Decimal

variable {b : Binary}

private theorem eq_zero_of_digit_eq_zero {c : Char} (isDigit : Text.isDigit c) (zero : digit c = 0) : c = '0' := by
  simp only [digit, isDigit, if_true] at zero
  simp only [Text.isDigit, Bool.and_eq_true, decide_eq_true_eq] at isDigit
  have code : c.toNat = '0'.toNat := by
    rw [show '0'.toNat = 48 from rfl]
    omega
  exact Char.toNat_inj.mp code

private theorem isSome_magnitude?_literal {s : Scaled} (proper : s.Proper) (small : s.value ≤ safe) :
    s.literal.magnitude?.isSome := by
  obtain ⟨c, cs, digits⟩ := List.exists_cons_of_ne_nil (decimal_ne_nil (n := s.digits))
  have length : (decimal s.digits).length = cs.length + 1 := by rw [digits, List.length_cons]
  simp only [Scaled.literal]
  split
  next positional =>
    split
    next => exact Literal.isSome_magnitude?_positional (by simp; omega) (by simp) rfl
    next =>
      split
      next => exact Literal.isSome_magnitude?_positional (by simp; omega) (by simp; omega) rfl
      next => exact Literal.isSome_magnitude?_positional (by simp) (by simp [decimal_ne_nil]) rfl
  next scientific =>
    rw [digits]
    refine Literal.isSome_magnitude?_scientific fun _ => ⟨?_, ?_⟩
    · intro zero
      have digit : isDigit c := isDigit_of_mem_decimal (n := s.digits) (by simp [digits])
      rw [eq_zero_of_digit_eq_zero digit zero] at digits
      by_cases none : s.digits = 0
      · have single : decimal s.digits = ['0'] := by
          rw [none]
          rfl
        rw [single, proper none] at scientific
        exact scientific (by simp)
      · exact decimal_ne_zero none cs digits
    · have value : digitsFrom (digit c) cs = s.digits := by
        have whole : digitsValue (c :: cs) = s.digits := by rw [← digits, digitsValue_decimal]
        rwa [digitsValue, digitsFrom, List.foldl_cons, Nat.zero_mul, Nat.zero_add] at whole
      have exponent : s.exponent + (((c :: cs).length : Int) - 1) - cs.length = s.exponent := by
        simp
      rw [List.drop_succ_cons, List.drop_zero, value, exponent]
      exact small

/-- The doubles next to the largest, whose literals are not small enough for the general argument. -/
theorem isSome_magnitude?_largest :
    ∀ i < 32, (shortest ⟨2 ^ 53 - 1 - i, 971, false⟩).literal.magnitude?.isSome := by
  decide +kernel

private theorem ceiling_le_safe (fits : b.mantissa < 2 ^ 53) (range : b.exponent ≤ 971)
    (below : b.exponent = 971 → b.mantissa < 2 ^ 53 - 32) : b.ceiling ≤ safe := by
  have power : (2 : ℚ) ^ 976 = 2 ^ 8 * 2 ^ (968 : Int) := by
    rw [← zpow_natCast, ← zpow_natCast, ← zpow_add₀ (by norm_num)]
    rfl
  have double : (2 : ℚ) ^ (969 : Int) = 2 * 2 ^ (968 : Int) := by
    rw [mul_comm, ← zpow_add_one₀ (by norm_num)]
    rfl
  have small (at_most : b.exponent ≠ 971) : (2 : ℚ) ^ (b.exponent - 2) ≤ 2 ^ (968 : Int) :=
    zpow_le_zpow_right₀ (by norm_num) (by omega)
  have positive : (0 : ℚ) < 2 ^ (968 : Int) := by positivity
  rw [Binary.ceiling, cast_safe, power]
  generalize (2 : ℚ) ^ (968 : Int) = unit at double small positive
  by_cases top : b.exponent = 971
  · have mantissa : (b.mantissa : ℚ) ≤ 2 ^ 53 - 33 := by
      have below := below top
      have shifted : b.mantissa + 33 ≤ 2 ^ 53 := by omega
      have cast : ((b.mantissa + 33 : Nat) : ℚ) ≤ 2 ^ 53 := by exact_mod_cast shifted
      push_cast at cast
      linarith
    rw [top, show (971 : Int) - 2 = 969 from rfl, double]
    calc (4 * (b.mantissa : ℚ) + 2) * (2 * unit) ≤ (4 * (2 ^ 53 - 33) + 2) * (2 * unit) := by gcongr
      _ = (2 ^ 48 - 1) * (2 ^ 8 * unit) - 4 * unit := by ring
      _ ≤ (2 ^ 48 - 1) * (2 ^ 8 * unit) := by linarith only [positive]
  · have mantissa : (b.mantissa : ℚ) ≤ 2 ^ 53 := by exact_mod_cast fits.le
    calc (4 * (b.mantissa : ℚ) + 2) * 2 ^ (b.exponent - 2) ≤ (4 * 2 ^ 53 + 2) * unit := by
          have small := small top
          gcongr
      _ ≤ (2 ^ 48 - 1) * (2 ^ 8 * unit) := by linarith only [positive]

private theorem ofFloat?_spec {x : Float} (found : Binary.ofFloat? x = some b) :
    b.mantissa < 2 ^ 53 ∧ b.exponent ≤ 971 ∧
      (b.exponent = 971 → 2 ^ 53 - 32 ≤ b.mantissa → b.lowGap = false) := by
  simp only [Binary.ofFloat?] at found
  split at found
  · cases found
  · split at found
    · split at found
      · cases found
      · cases found
        exact ⟨by dsimp only; omega, by simp, fun _ _ => rfl⟩
    · cases found
      refine ⟨by dsimp only; omega, by dsimp only; omega, fun _ large => ?_⟩
      have fraction : x.toBits.toNat % 0x10000000000000 ≠ 0 := by
        dsimp only at large
        omega
      simp [fraction]

private theorem isSome_magnitude?_shortest {x : Float} (found : Binary.ofFloat? x = some b) :
    (shortest b).literal.magnitude?.isSome := by
  obtain ⟨fits, range, gap⟩ := ofFloat?_spec found
  by_cases largest : b.exponent = 971 ∧ 2 ^ 53 - 32 ≤ b.mantissa
  · have same : b = ⟨2 ^ 53 - 1 - (2 ^ 53 - 1 - b.mantissa), 971, false⟩ := by
      rcases b with ⟨mantissa, exponent, lowGap⟩
      simp only [Binary.mk.injEq] at *
      exact ⟨by omega, largest.1, gap largest.1 largest.2⟩
    rw [same]
    exact isSome_magnitude?_largest _ (by omega)
  · have small := (value_shortest_le b).trans (ceiling_le_safe fits range (by omega))
    exact isSome_magnitude?_literal (proper_shortest b) small

/-- What is written for a finite double is read as a double. -/
theorem exists_float?_ofFloat {x : Float} (finite : x.isFinite) : ∃ y, float? (ofFloat x) = some y := by
  have magnitude : (literalOf x).magnitude?.isSome := by
    unfold literalOf
    cases found : Binary.ofFloat? x with
    | none => exact Literal.isSome_magnitude?_positional (by simp) (by simp) rfl
    | some b => exact isSome_magnitude?_shortest found
  obtain ⟨y, value⟩ := Option.isSome_iff_exists.mp magnitude
  rw [ofFloat, if_pos finite, ← chars_literalOf finite]
  simp only [float?, floatOf?, Literal.ofChars_chars (wellformed_literalOf x), value, Option.map_some]
  exact ⟨_, rfl⟩

theorem float?_ofFloat_of_not_finite {x : Float} (endless : ¬ x.isFinite) : float? (ofFloat x) = none := by
  rw [ofFloat, if_neg endless]
  rfl

end Doubles

end AnomalyWatch.Json
