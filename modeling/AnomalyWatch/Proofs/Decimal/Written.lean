import AnomalyWatch.Proofs.Decimal.Shortest
import AnomalyWatch.Proofs.Json.RoundTrip
import Mathlib

/-!
The literal of a double.

In a document the shortest digits of a double are laid out positionally or with an exponent; either way the
result is a number as the grammar has it.
-/

set_option autoImplicit false
set_option relaxedAutoImplicit false

namespace AnomalyWatch

open Text

namespace Decimal

def Scaled.literal (s : Scaled) : Json.Literal :=
  let ds := decimal s.digits
  let exponent := s.exponent + ((ds.length : Int) - 1)
  if -5 ≤ exponent ∧ exponent < 16 then
    if 0 ≤ s.exponent then ⟨false, ds ++ List.replicate s.exponent.toNat '0', ['0'], []⟩
    else if (-s.exponent).toNat < ds.length then
      let whole := ds.length - (-s.exponent).toNat
      ⟨false, ds.take whole, ds.drop whole, []⟩
    else ⟨false, ['0'], List.replicate ((-s.exponent).toNat - ds.length) '0' ++ ds, []⟩
  else ⟨false, ds.take 1, ds.drop 1, (if exponent < 0 then '-' else '+') :: decimal exponent.natAbs⟩

private theorem unsigned_literal (s : Scaled) : s.literal.negative = false := by
  simp only [Scaled.literal]
  split
  · split
    · rfl
    · split <;> rfl
  · rfl

private theorem chars_literal (s : Scaled) : s.literal.chars = (magnitudeText .document s).toList := by
  have ne_nil : decimal s.digits ≠ [] := decimal_ne_nil
  have digits : Nat.toDigits 10 s.digits = decimal s.digits := rfl
  simp only [Scaled.literal, magnitudeText, Layout.document, digits, Bool.and_eq_true, decide_eq_true_eq]
  generalize decimal s.digits = ds at ne_nil ⊢
  split
  next =>
    unfold positionalText
    split
    · simp [Json.Literal.chars, Json.Literal.magnitudeChars, Json.Literal.fractionChars,
        Json.Literal.exponentChars]
    · split
      next inside =>
        have fraction : List.drop (ds.length - (-s.exponent).toNat) ds ≠ [] := by
          simp
          omega
        simp [Json.Literal.chars, Json.Literal.magnitudeChars, Json.Literal.fractionChars,
          Json.Literal.exponentChars, fraction, inside]
      next outside =>
        simp [Json.Literal.chars, Json.Literal.magnitudeChars, Json.Literal.fractionChars,
          Json.Literal.exponentChars, ne_nil, outside]
  next =>
    unfold scientificText
    have fraction : ds.drop 1 = [] ↔ ds.length ≤ 1 := List.drop_eq_nil_iff
    by_cases single : ds.length ≤ 1 <;>
    by_cases small : s.exponent + ((ds.length : Int) - 1) < 0 <;>
    · simp only [Json.Literal.chars, Json.Literal.magnitudeChars, Json.Literal.fractionChars,
        Json.Literal.exponentChars, fraction, single, small, decimal]
      simp

private theorem wellformed_literal {s : Scaled} (proper : s.Proper) : s.literal.Wellformed := by
  have all : ∀ c ∈ decimal s.digits, isDigit c := fun _ => isDigit_of_mem_decimal
  have zeros (n : Nat) : ∀ c ∈ List.replicate n '0', isDigit c := fun c present => by
    rw [List.eq_of_mem_replicate present]
    decide
  have taken (n : Nat) : ∀ c ∈ (decimal s.digits).take n, isDigit c :=
    fun c present => all c (List.mem_of_mem_take present)
  have left (n : Nat) : ∀ c ∈ (decimal s.digits).drop n, isDigit c :=
    fun c present => all c (List.mem_of_mem_drop present)
  have lone : ∀ c ∈ ['0'], isDigit c := zeros 1
  simp only [Scaled.literal]
  split
  next =>
    split
    next whole =>
      refine ⟨List.forall_mem_append.mpr ⟨all, zeros _⟩, by simp [decimal_ne_nil], ?_, lone, .inl rfl⟩
      intro c cs zero
      by_cases none : s.digits = 0
      · rw [none, proper none] at zero
        simp [decimal] at zero
      · obtain ⟨d, ds, first⟩ := List.exists_cons_of_ne_nil (decimal_ne_nil (n := s.digits))
        rw [first, List.cons_append, List.cons.injEq] at zero
        exact decimal_ne_zero none ds (zero.1 ▸ first)
    next =>
      split
      next inside =>
        refine ⟨taken _, by simp [decimal_ne_nil]; omega, ?_, left _, .inl rfl⟩
        intro c cs zero
        have joined := List.take_append_drop ((decimal s.digits).length - (-s.exponent).toNat)
          (decimal s.digits)
        rw [show (decimal s.digits).take _ = _ from zero] at joined
        exact decimal_ne_zero_cons c _ joined.symm
      next =>
        exact ⟨lone, by simp, by simp, List.forall_mem_append.mpr ⟨zeros _, all⟩, .inl rfl⟩
  next =>
    refine ⟨taken 1, by simp [decimal_ne_nil], ?_, left 1, .inr ⟨_, _, rfl, ?_, decimal_ne_nil,
      fun _ => isDigit_of_mem_decimal⟩⟩
    · intro c cs zero
      have short : ((decimal s.digits).take 1).length ≤ 1 := List.length_take_le ..
      rw [show (decimal s.digits).take 1 = _ from zero] at short
      simp at short
    · split
      · exact .inr rfl
      · exact .inl rfl

def literalOf (x : Float) : Json.Literal :=
  let magnitude : Json.Literal :=
    match Binary.ofFloat? x with
    | some b => (shortest b).literal
    | none => ⟨false, ['0'], ['0'], []⟩
  { magnitude with negative := signBit x }

theorem chars_literalOf {x : Float} (finite : x.isFinite) :
    (literalOf x).chars = (write .document x).toList := by
  have number : x.isNaN = false ∧ x.isInf = false := by
    simp only [Float.isFinite, Float.isNaN, Float.isInf, Float.Model.isFinite, Float.Model.isNaN,
      Float.Model.isInf] at finite ⊢
    cases unpacked : x.toModel.unpack <;> simp_all [Float.Model.UnpackedFloat.isFinite,
      Float.Model.UnpackedFloat.isNaN, Float.Model.UnpackedFloat.isInf]
  have magnitude (l : Json.Literal) (negative : Bool) (unsigned : l.negative = false) :
      ({ l with negative } : Json.Literal).chars = if negative then '-' :: l.chars else l.chars := by
    simp [Json.Literal.chars, unsigned, Json.Literal.magnitudeChars, Json.Literal.fractionChars,
      Json.Literal.exponentChars]
  simp only [literalOf, write, number, Bool.false_eq_true, if_false]
  cases Binary.ofFloat? x with
  | none =>
    rw [magnitude _ _ rfl]
    split <;> rfl
  | some b =>
    rw [magnitude _ _ (unsigned_literal _), chars_literal]
    split <;> simp

theorem wellformed_literalOf (x : Float) : (literalOf x).Wellformed := by
  unfold literalOf
  cases Binary.ofFloat? x with
  | none =>
    have zero : ∀ c ∈ ['0'], isDigit c := List.forall_mem_singleton.mpr rfl
    exact ⟨zero, by simp, by simp, zero, .inl rfl⟩
  | some b =>
    have magnitude := wellformed_literal (proper_shortest b)
    exact { magnitude with }

end Decimal

namespace Json

theorem wellformed_ofFloat (x : Float) : (ofFloat x).Wellformed := by
  unfold ofFloat
  split
  next finite =>
    rw [← Decimal.chars_literalOf finite]
    exact .number (Decimal.wellformed_literalOf x)
  next => exact .null

end Json

end AnomalyWatch
