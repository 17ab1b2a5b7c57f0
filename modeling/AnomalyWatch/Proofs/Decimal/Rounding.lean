import Mathlib

/-!
How far rounding takes a double up.

A number that is rounded gains less than one part in `2^52`. Scaling a word by a power of ten rounds a few
times, so a product well below `2^1024` does not become infinite.
-/

set_option autoImplicit false
set_option relaxedAutoImplicit false

namespace AnomalyWatch.Decimal

open Float.Model Float.Model.UnpackedFloat

/-- A positive double of full width, at least one and at most `v`. -/
def Within (f : UnpackedFloat) (v : ℚ) : Prop :=
  ∃ m e positive, f = .finite .positive m e positive ∧ 2 ^ 52 ≤ m ∧ m < 2 ^ 53 ∧ -52 ≤ e ∧
    (m : ℚ) * 2 ^ e ≤ v

theorem Within.mono {f : UnpackedFloat} {v w : ℚ} (within : Within f v) (le : v ≤ w) : Within f w := by
  obtain ⟨m, e, positive, same, low, high, least, value⟩ := within
  exact ⟨m, e, positive, same, low, high, least, value.trans le⟩

/-- What rounding once may multiply a number by. -/
def slack : ℚ :=
  1 + 1 / 2 ^ 52

private theorem slack_pos : 0 < slack := by
  norm_num [slack]

private theorem shiftRight_mantissa (em : ExtendedMantissa) (n : Nat) :
    (em >>> n).mantissa = em.mantissa / 2 ^ n := by
  induction n with
  | zero => simp [HShiftRight.hShiftRight, Nat.repeat]
  | succ n ih =>
    calc (em >>> (n + 1)).mantissa = (em >>> n).mantissa / 2 := rfl
      _ = em.mantissa / 2 ^ (n + 1) := by rw [ih, Nat.div_div_eq_div_mul, Nat.pow_succ]

private theorem roundedMantissa_mem (em : ExtendedMantissa) :
    em.roundedMantissa = em.mantissa ∨ em.roundedMantissa = em.mantissa + 1 := by
  rcases em with ⟨m, _ | _, _ | _⟩ <;>
    simp only [ExtendedMantissa.roundedMantissa, ExtendedMantissa.accuracy,
      Accuracy.roundToNearestEven, true_or, or_true]
  omega

private theorem shiftToTargetExponent_wide {m : Nat} {e : Int} (wide : 52 ≤ m.log2) (least : 0 ≤ m.log2 + e) :
    (shiftToTargetExponent .binary64 m e .exact).1.mantissa = m / 2 ^ (m.log2 - 52) ∧
      (shiftToTargetExponent .binary64 m e .exact).2 = e + (m.log2 - 52 : Nat) := by
  have target : (Format.binary64.targetExponent (totalExponent m e) - e).toNat = m.log2 - 52 := by
    simp only [Format.targetExponent, totalExponent, Format.mantissaBits, Format.minExponent]
    omega
  simp only [shiftToTargetExponent, shiftToExponent, target, shiftRight_mantissa, and_true]
  rfl

private theorem width_cut {m : Nat} (wide : 52 ≤ m.log2) :
    2 ^ 52 ≤ m / 2 ^ (m.log2 - 52) ∧ m / 2 ^ (m.log2 - 52) < 2 ^ 53 := by
  have nonzero : m ≠ 0 := by
    rintro rfl
    simp at wide
  have low : 2 ^ 52 * 2 ^ (m.log2 - 52) = 2 ^ m.log2 := by
    rw [← Nat.pow_add, Nat.add_sub_cancel' wide]
  have high : 2 ^ 53 * 2 ^ (m.log2 - 52) = 2 ^ (m.log2 + 1) := by
    rw [← Nat.pow_add]
    congr 1
    omega
  constructor
  · rw [Nat.le_div_iff_mul_le (Nat.two_pow_pos _), low]
    exact Nat.log2_self_le nonzero
  · rw [Nat.div_lt_iff_lt_mul (Nat.two_pow_pos _), high]
    exact Nat.lt_log2_self

private theorem cut_mul_zpow_le (m k : Nat) (e : Int) : ((m / 2 ^ k : Nat) : ℚ) * 2 ^ (e + k) ≤ m * 2 ^ e := by
  have cut : ((m / 2 ^ k : Nat) : ℚ) * 2 ^ k ≤ m := by
    exact_mod_cast Nat.div_mul_le_self m (2 ^ k)
  calc ((m / 2 ^ k : Nat) : ℚ) * 2 ^ (e + k) = ((m / 2 ^ k : Nat) : ℚ) * 2 ^ k * 2 ^ e := by
        rw [zpow_add₀ (by norm_num), zpow_natCast]
        ring
    _ ≤ m * 2 ^ e := by gcongr

private theorem within_round {m : Nat} {e : Int} {v : ℚ} (wide : 52 ≤ m.log2) (least : 0 ≤ m.log2 + e)
    (bound : m * 2 ^ e ≤ v) :
    Within (roundWithAccuracy .binary64 .positive m e .exact) (v * slack) := by
  rcases shifted : shiftToTargetExponent .binary64 m e .exact with ⟨em, e₁⟩
  obtain ⟨mantissa, exponent⟩ := shiftToTargetExponent_wide wide least
  obtain ⟨low, high⟩ := width_cut wide
  rw [shifted] at mantissa exponent
  dsimp only at mantissa exponent
  have cut : (em.mantissa : ℚ) * 2 ^ e₁ ≤ v := by
    rw [mantissa, exponent]
    exact (cut_mul_zpow_le m (m.log2 - 52) e).trans bound
  rw [← mantissa] at low high
  generalize rounded : em.roundedMantissa = r
  have up : em.mantissa ≤ r ∧ r ≤ em.mantissa + 1 := by
    rcases roundedMantissa_mem em with same | next <;> omega
  have gain : (r : ℚ) ≤ em.mantissa * slack := by
    have one : (r : ℚ) ≤ em.mantissa + 1 := by exact_mod_cast up.2
    have part : (1 : ℚ) ≤ em.mantissa * (1 / 2 ^ 52) := by
      have low : (2 ^ 52 : ℚ) ≤ em.mantissa := by exact_mod_cast low
      rw [mul_one_div, le_div_iff₀ (by positivity)]
      linarith
    rw [slack]
    linarith
  have wide₁ : 52 ≤ r.log2 := (Nat.le_log2 (by omega)).mpr (by omega)
  have least₁ : 0 ≤ r.log2 + e₁ := by omega
  obtain ⟨mantissa₁, exponent₁⟩ := shiftToTargetExponent_wide wide₁ least₁
  obtain ⟨low₁, high₁⟩ := width_cut wide₁
  have value : ((r / 2 ^ (r.log2 - 52) : Nat) : ℚ) * 2 ^ (e₁ + (r.log2 - 52 : Nat)) ≤ v * slack :=
    calc ((r / 2 ^ (r.log2 - 52) : Nat) : ℚ) * 2 ^ (e₁ + (r.log2 - 52 : Nat)) ≤ r * 2 ^ e₁ :=
          cut_mul_zpow_le r (r.log2 - 52) e₁
      _ ≤ em.mantissa * slack * 2 ^ e₁ := mul_le_mul_of_nonneg_right gain (by positivity)
      _ = em.mantissa * 2 ^ e₁ * slack := by ring
      _ ≤ v * slack := mul_le_mul_of_nonneg_right cut slack_pos.le
  have nonzero : (shiftToTargetExponent .binary64 r e₁ .exact).1.mantissa ≠ 0 := by omega
  simp only [roundWithAccuracy, shifted, rounded, dif_neg nonzero]
  exact ⟨_, _, _, rfl, by omega, by omega, by omega, by rwa [mantissa₁, exponent₁]⟩

private theorem Within.mul {f g : UnpackedFloat} {v w : ℚ} (first : Within f v) (second : Within g w) :
    Within (UnpackedFloat.mul .binary64 f g) (v * w * slack) := by
  obtain ⟨m, e, positive, rfl, low, -, least, value⟩ := first
  obtain ⟨m', e', positive', rfl, low', -, least', value'⟩ := second
  have wide : 104 ≤ (m * m').log2 := by
    refine (Nat.le_log2 (Nat.mul_ne_zero (by omega) (by omega))).mpr ?_
    calc 2 ^ 104 = 2 ^ 52 * 2 ^ 52 := by norm_num
      _ ≤ m * m' := Nat.mul_le_mul low low'
  have product : ((m * m' : Nat) : ℚ) * 2 ^ (e + e') ≤ v * w :=
    calc ((m * m' : Nat) : ℚ) * 2 ^ (e + e') = m * 2 ^ e * (m' * 2 ^ e') := by
          rw [zpow_add₀ (by norm_num), Nat.cast_mul]
          ring
      _ ≤ v * w := mul_le_mul value value' (by positivity) (le_trans (by positivity) value)
  exact within_round (by omega) (by omega) product

private theorem unpack_pack_finite {sign : Sign} {m : Nat} {e : Int} {positive : 0 < m} (low : 2 ^ 52 ≤ m)
    (high : m < 2 ^ 53) (least : -52 ≤ e) (top : e < 972) :
    (Float.Model.pack (.finite sign m e positive)).unpack = .finite sign m e positive := by
  have width : m.log2 + 1 = Format.binary64.mantissaBits := by
    rw [(Nat.log2_eq_iff (by omega)).mpr ⟨low, high⟩]
    rfl
  let biased : Nat := (e + 1075).toNat
  have field : (BitVec.ofNat 11 biased).toNat = biased := by
    rw [BitVec.toNat_ofNat]
    omega
  have subnormal : BitVec.ofNat 11 biased ≠ 0#11 := by
    intro zero
    rw [zero] at field
    simp at field
    omega
  have infinite : BitVec.ofNat 11 biased ≠ -1#11 := by
    intro ones
    rw [ones] at field
    simp at field
    omega
  have implicit : (1#1 ++ BitVec.ofNat 52 m).toNat = m := by
    rw [BitVec.toNat_append, ← Nat.shiftLeft_add_eq_or_of_lt (BitVec.isLt _), BitVec.toNat_ofNat]
    simp
    omega
  have packed : UnpackedFloat.pack .binary64 (.finite sign m e positive) =
      packComponents .binary64 sign (BitVec.ofNat 11 biased) (BitVec.ofNat 52 m) := by
    have bias : (e + (Format.binary64.exponentBias : Int) +
        (Format.binary64.mantissaBitsWithoutImplicit : Int)).toNat = biased := by
      simp only [biased, Format.exponentBias]
      omega
    have fits : ¬ 2 ^ Format.binary64.exponentBits ≤ biased + 1 := by
      show ¬ 2 ^ 11 ≤ biased + 1
      omega
    simp only [UnpackedFloat.pack, bias, width, fits, if_true, if_false]
  simp only [Float.Model.unpack, Float.Model.pack, packed, UnpackedFloat.unpack,
    unpackMantissa_packComponents, unpackExponent_packComponents, unpackSign_packComponents,
    Sign.ofBitVec_toBitVec, infinite, subnormal, if_false, implicit, field]
  congr 1
  simp only [biased, Format.exponentBias]
  omega

private theorem Within.unpack_pack {f : UnpackedFloat} {v : ℚ} (within : Within f v) (small : v < 2 ^ 1024) :
    (Float.Model.pack f).unpack = f := by
  obtain ⟨m, e, positive, rfl, low, high, least, value⟩ := within
  have below : (2 : ℚ) ^ (52 + e) < 2 ^ (1024 : Int) :=
    calc (2 : ℚ) ^ (52 + e) = 2 ^ 52 * 2 ^ e := by
          rw [zpow_add₀ (by norm_num)]
          rfl
      _ ≤ m * 2 ^ e := by
          have low : (2 ^ 52 : ℚ) ≤ m := by exact_mod_cast low
          gcongr
      _ ≤ v := value
      _ < 2 ^ (1024 : Int) := by exact_mod_cast small
  have top : 52 + e < 1024 := (zpow_lt_zpow_iff_right₀ (by norm_num)).mp below
  exact unpack_pack_finite low high least (by omega)

def Held (x : Float) (v : ℚ) : Prop :=
  Within x.toModel.unpack v

private theorem Held.mul {x y : Float} {v w : ℚ} (first : Held x v) (second : Held y w)
    (small : v * w * slack < 2 ^ 1024) : Held (x * y) (v * w * slack) := by
  have product := Within.mul first second
  have packed : (x * y).toModel.unpack = UnpackedFloat.mul .binary64 x.toModel.unpack y.toModel.unpack :=
    product.unpack_pack small
  rw [Held, packed]
  exact product

theorem Held.isInf {x : Float} {v : ℚ} (held : Held x v) : x.isInf = false := by
  obtain ⟨m, e, positive, unpacked, -⟩ := held
  rw [Float.isInf, Float.Model.isInf, unpacked]
  rfl

private theorem held_ofModel {f : UnpackedFloat} {v : ℚ} (within : Within f v) (small : v < 2 ^ 1024) :
    Held (.ofModel (.pack f)) v := by
  rw [Held, show (Float.ofModel (.pack f)).toModel.unpack = f from within.unpack_pack small]
  exact within

private theorem log2_shiftLeft {m : Nat} (nonzero : m ≠ 0) (k : Nat) : (m <<< k).log2 = m.log2 + k := by
  have shifted : m <<< k ≠ 0 := by simp [Nat.shiftLeft_eq, nonzero]
  refine (Nat.log2_eq_iff shifted).mpr ⟨?_, ?_⟩
  · rw [Nat.shiftLeft_eq, Nat.pow_add]
    exact Nat.mul_le_mul_right _ (Nat.log2_self_le nonzero)
  · rw [Nat.shiftLeft_eq, Nat.add_right_comm, Nat.pow_add]
    exact Nat.mul_lt_mul_of_pos_right Nat.lt_log2_self (Nat.two_pow_pos k)

private theorem shiftLeft_mul_zpow (m k : Nat) : ((m <<< k : Nat) : ℚ) * 2 ^ (-(k : Int)) = m := by
  rw [Nat.shiftLeft_eq, zpow_neg, zpow_natCast, Nat.cast_mul, Nat.cast_pow, Nat.cast_two]
  exact mul_inv_cancel_right₀ (by positivity) _

private theorem held_word {m : Nat} (nonzero : m ≠ 0) (small : m < 2 ^ 53) :
    Held m.toUInt64.toFloat (m * slack) := by
  have width : m.log2 < 53 := (Nat.log2_lt nonzero).mpr small
  have same : m.toUInt64.toNat = m := by
    rw [Nat.toUInt64, UInt64.toNat_ofNat']
    omega
  have sign : compare (m : Int) 0 = .gt := by
    rw [Int.compare_eq_gt]
    omega
  have shift : (0 - Format.binary64.targetExponent (totalExponent m 0)).toNat = 52 - m.log2 := by
    simp only [Format.targetExponent, totalExponent, Format.mantissaBits, Format.minExponent]
    omega
  have rounded : UnpackedFloat.ofUInt64 .binary64 m.toUInt64 =
      roundWithAccuracy .binary64 .positive (m <<< (52 - m.log2)) (-(52 - m.log2 : Nat)) .exact := by
    simp only [UnpackedFloat.ofUInt64, UnpackedFloat.ofNat, UnpackedFloat.ofInt, UnpackedFloat.normalize,
      UnpackedFloat.round, same, sign, decreaseExponent, Int.toNat_natCast, shift]
    rw [Int.zero_sub]
  have wide : (m <<< (52 - m.log2)).log2 = 52 := by
    rw [log2_shiftLeft nonzero]
    omega
  have within := within_round (by omega) (by omega) (shiftLeft_mul_zpow m (52 - m.log2)).le
  rw [← rounded] at within
  refine held_ofModel within ?_
  calc (m : ℚ) * slack ≤ 2 ^ 53 * slack := by
        have small : (m : ℚ) ≤ 2 ^ 53 := by exact_mod_cast small.le
        exact mul_le_mul_of_nonneg_right small slack_pos.le
    _ < 2 ^ 54 := by norm_num [slack]
    _ ≤ 2 ^ 1024 := pow_le_pow_right₀ (by norm_num) (by norm_num)

private theorem within_ofScientific {m n : Nat} (nonzero : m ≠ 0) (range : n ≤ 308) :
    Within (UnpackedFloat.ofScientific .binary64 m n) (m * 10 ^ n * slack) := by
  have power : 0 < 10 ^ n := Nat.pow_pos (by decide)
  have inRange : ¬ ((n : Int) > 2 ^ Format.binary64.exponentBits) ∧
      ¬ ((n : Int) < -(2 ^ Format.binary64.exponentBits + m.log2)) := by
    have bits : (2 : Int) ^ Format.binary64.exponentBits = 2048 := rfl
    omega
  have wide : 53 ≤ (m <<< 53 * 10 ^ n).log2 := by
    have least : 2 ^ 53 ≤ m <<< 53 * 10 ^ n := by
      rw [Nat.shiftLeft_eq]
      exact Nat.le_mul_of_pos_right _ power |>.trans' (Nat.le_mul_of_pos_left _ (by omega))
    exact (Nat.le_log2 (by omega)).mpr least
  have value : ((m <<< 53 * 10 ^ n : Nat) : ℚ) * 2 ^ (-53 : Int) ≤ m * 10 ^ n := by
    have shifted := shiftLeft_mul_zpow m 53
    refine le_of_eq ?_
    calc ((m <<< 53 * 10 ^ n : Nat) : ℚ) * 2 ^ (-53 : Int) = (m <<< 53 : Nat) * 2 ^ (-53 : Int) * 10 ^ n := by
          push_cast
          ring
      _ = m * 10 ^ n := by rw [← shifted]; rfl
  have within := within_round (by omega) (by omega) value
  simp only [UnpackedFloat.ofScientific, nonzero, inRange, dif_neg, if_false, Int.natCast_nonneg, if_true,
    UnpackedFloat.mul, Int.toNat_natCast, not_false_eq_true]
  exact within

def holdsExactly (f : UnpackedFloat) (n : Nat) : Bool :=
  match f with
  | .finite .positive m e _ =>
    2 ^ 52 ≤ m && m < 2 ^ 53 && -52 ≤ e && m * 2 ^ (e + 52).toNat ≤ n * 2 ^ 52
  | _ => false

private theorem within_of_holdsExactly {f : UnpackedFloat} {n : Nat} (held : holdsExactly f n) : Within f n := by
  unfold holdsExactly at held
  split at held
  next m e positive =>
    simp only [Bool.and_eq_true, decide_eq_true_eq] at held
    obtain ⟨⟨⟨low, high⟩, least⟩, value⟩ := held
    refine ⟨m, e, positive, rfl, low, high, least, ?_⟩
    have value : (m : ℚ) * 2 ^ (e + 52).toNat ≤ n * 2 ^ 52 := by exact_mod_cast value
    have shifted : (2 : ℚ) ^ (e + 52).toNat = 2 ^ e * 2 ^ 52 := by
      rw [← zpow_natCast, Int.toNat_of_nonneg (by omega), zpow_add₀ (by norm_num)]
      rfl
    rw [shifted, ← mul_assoc] at value
    exact le_of_mul_le_mul_right value (by positivity)
  next => cases held

private theorem held_power {n : Nat} (few : n < Float.exactlyRepresentablePowersOfTen.size) :
    Held Float.exactlyRepresentablePowersOfTen[n] (10 ^ n) := by
  have entries : ∀ (n : Nat) (few : n < Float.exactlyRepresentablePowersOfTen.size),
      holdsExactly Float.exactlyRepresentablePowersOfTen[n].toModel.unpack (10 ^ n) := by
    decide +kernel
  exact_mod_cast within_of_holdsExactly (entries n few)

private theorem held_ofScientific {m n : Nat} (nonzero : m ≠ 0) (range : n ≤ 308)
    (small : m * 10 ^ n * slack ^ 2 < 2 ^ 1024) :
    Held (Float.ofScientific m false n) (m * 10 ^ n * slack ^ 2) := by
  have twice : (m : ℚ) * 10 ^ n * slack ^ 2 = m * slack * 10 ^ n * slack := by ring
  unfold Float.ofScientific
  split
  next exact =>
    rw [twice] at small ⊢
    exact (held_word nonzero exact.1).mul (held_power (Nat.lt_succ_of_le exact.2)) small
  next =>
    have once : (m : ℚ) * 10 ^ n * slack ≤ m * 10 ^ n * slack ^ 2 := by
      have more : slack ≤ slack ^ 2 := by norm_num [slack]
      gcongr
    exact held_ofModel ((within_ofScientific nonzero range).mono once) small

/-- So far below `2^1024` that a few roundings do not matter. -/
@[irreducible]
def safe : Nat :=
  (2 ^ 48 - 1) * 2 ^ 976

theorem cast_safe : (safe : ℚ) = (2 ^ 48 - 1) * 2 ^ 976 := by
  have factor : ((2 ^ 48 - 1 : Nat) : ℚ) = 2 ^ 48 - 1 := by norm_num
  have power : ((2 ^ 976 : Nat) : ℚ) = 2 ^ 976 := Nat.cast_pow 2 976
  unfold safe
  rw [Nat.cast_mul, factor, power]

/-- A word that is scaled by a power of ten stays finite, unless the product comes close to `2^1024`. -/
theorem isInf_scaled {word n : Nat} (nonzero : word ≠ 0) (range : n ≤ 308) (small : word * 10 ^ n ≤ safe) :
    (Float.ofScientific word false 0 * Float.ofScientific 1 false n).isInf = false := by
  have product : (word : ℚ) * 10 ^ n * slack ^ 5 < 2 ^ 1024 :=
    calc (word : ℚ) * 10 ^ n * slack ^ 5 ≤ (2 ^ 48 - 1) * 2 ^ 976 * slack ^ 5 := by
          have small : ((word * 10 ^ n : Nat) : ℚ) ≤ safe := Nat.cast_le.mpr small
          rw [Nat.cast_mul, Nat.cast_pow, Nat.cast_ofNat, cast_safe] at small
          exact mul_le_mul_of_nonneg_right small (pow_pos slack_pos 5).le
      _ = (2 ^ 48 - 1) * slack ^ 5 * 2 ^ 976 := mul_right_comm ..
      _ < 2 ^ 48 * 2 ^ 976 := by
          have room : (2 ^ 48 - 1) * slack ^ 5 < 2 ^ 48 := by norm_num [slack]
          exact mul_lt_mul_of_pos_right room (by positivity)
      _ = 2 ^ 1024 := by rw [← pow_add]
  have one : (1 : ℚ) ≤ word := by exact_mod_cast Nat.one_le_iff_ne_zero.mpr nonzero
  have power : (1 : ℚ) ≤ 10 ^ n := one_le_pow₀ (by norm_num)
  have gain : slack ^ 2 ≤ slack ^ 5 := by norm_num [slack]
  have first : Held (Float.ofScientific word false 0) (word * 10 ^ 0 * slack ^ 2) := by
    refine held_ofScientific nonzero (by omega) (lt_of_le_of_lt ?_ product)
    have grown : (10 : ℚ) ^ 0 ≤ 10 ^ n := by simpa using power
    gcongr
  have second : Held (Float.ofScientific 1 false n) ((1 : Nat) * 10 ^ n * slack ^ 2) := by
    refine held_ofScientific (by omega) range (lt_of_le_of_lt ?_ product)
    have grown : ((1 : Nat) : ℚ) ≤ word := by simpa using one
    gcongr
  have both : (word : ℚ) * 10 ^ 0 * slack ^ 2 * ((1 : Nat) * 10 ^ n * slack ^ 2) * slack =
      word * 10 ^ n * slack ^ 5 := by
    push_cast
    ring
  exact (first.mul second (by rwa [both])).isInf

end AnomalyWatch.Decimal
