import AnomalyWatch.Json.Number
import AnomalyWatch.Json.Parser
import AnomalyWatch.Proofs.Text.Digits

/-!
The literals of numbers, written from their parts and read back.
-/

set_option autoImplicit false
set_option relaxedAutoImplicit false

namespace AnomalyWatch.Json

open AnomalyWatch.Text
open AnomalyWatch.Json.Parser

/-- No number literal can go on with the text. -/
def EndsNumber (cs : List Char) : Prop :=
  ∀ c ∈ cs.head?, isDigit c = false ∧ c ≠ '.' ∧ c ≠ 'e' ∧ c ≠ 'E'

private theorem EndsNumber.endsDigits {cs : List Char} (ends : EndsNumber cs) : EndsDigits cs :=
  fun c first => (ends c first).1

@[simp]
theorem endsNumber_nil : EndsNumber [] := by
  simp [EndsNumber]

@[simp]
theorem endsNumber_cons {c : Char} {cs : List Char} :
    EndsNumber (c :: cs) ↔ isDigit c = false ∧ c ≠ '.' ∧ c ≠ 'e' ∧ c ≠ 'E' := by
  simp [EndsNumber]

namespace Literal

def fractionChars (l : Literal) : List Char :=
  if l.fraction = [] then [] else '.' :: l.fraction

def exponentChars (l : Literal) : List Char :=
  if l.exponent = [] then [] else 'e' :: l.exponent

def magnitudeChars (l : Literal) : List Char :=
  l.whole ++ (l.fractionChars ++ l.exponentChars)

def chars (l : Literal) : List Char :=
  if l.negative then '-' :: l.magnitudeChars else l.magnitudeChars

/-- Parts that the grammar of numbers allows; an exponent always has its sign. -/
structure Wellformed (l : Literal) : Prop where
  whole : ∀ c ∈ l.whole, isDigit c
  whole_ne_nil : l.whole ≠ []
  single_zero : ∀ c cs, l.whole ≠ '0' :: c :: cs
  fraction : ∀ c ∈ l.fraction, isDigit c
  exponent : l.exponent = [] ∨ ∃ s ds, l.exponent = s :: ds ∧ (s = '+' ∨ s = '-') ∧ ds ≠ [] ∧
    ∀ c ∈ ds, isDigit c

def ofNat (n : Nat) : Literal :=
  ⟨false, decimal n, [], []⟩

theorem chars_ofNat (n : Nat) : (ofNat n).chars = decimal n := by
  simp [chars, magnitudeChars, fractionChars, exponentChars, ofNat]

theorem wellformed_ofNat (n : Nat) : (ofNat n).Wellformed where
  whole _ := isDigit_of_mem_decimal
  whole_ne_nil := decimal_ne_nil
  single_zero := decimal_ne_zero_cons
  fraction := by simp [ofNat]
  exponent := .inl rfl

section Reading

variable {l : Literal} {rest : List Char}

private theorem someDigits?_append {ds : List Char} (digits : ∀ c ∈ ds, isDigit c) (some : ds ≠ [])
    (ends : EndsDigits rest) : someDigits? (ds ++ rest) = Option.some (ds, rest) := by
  simp [someDigits?, takeWhile_digits digits ends, dropWhile_digits digits ends, some]

private theorem wholePart?_append (valid : l.Wellformed) (ends : EndsDigits rest) :
    wholePart? (l.whole ++ rest) = some (l.whole, rest) := by
  simp only [wholePart?, takeWhile_digits valid.whole ends, dropWhile_digits valid.whole ends]
  split
  next empty => exact absurd empty valid.whole_ne_nil
  next c cs zeros => exact absurd zeros (valid.single_zero c cs)
  next => rfl

private theorem fractionPart?_append (valid : l.Wellformed) (ends : EndsDigits rest)
    (unmarked : ∀ c ∈ rest.head?, c ≠ '.') :
    fractionPart? (l.fractionChars ++ rest) = some (l.fractionChars, rest) := by
  unfold fractionChars
  split
  next =>
    rw [List.nil_append, fractionPart?]
    rintro cs rfl
    exact unmarked '.' (by simp) rfl
  next some =>
    simp [fractionPart?, someDigits?_append valid.fraction some ends]

private theorem exponentPart?_append (valid : l.Wellformed) (ends : EndsNumber rest) :
    exponentPart? (l.exponentChars ++ rest) = some (l.exponentChars, rest) := by
  unfold exponentChars
  rcases valid.exponent with none | ⟨s, ds, signed, sign, some, digits⟩
  · cases rest with
    | nil => simp [none, exponentPart?]
    | cons c rest =>
      obtain ⟨-, -, lower, upper⟩ := endsNumber_cons.mp ends
      simp [none, exponentPart?, lower, upper]
  · have read := someDigits?_append digits some ends.endsDigits
    simp [signed, exponentPart?, sign, read]

private theorem endsDigits_exponentChars (ends : EndsNumber rest) : EndsDigits (l.exponentChars ++ rest) := by
  unfold exponentChars
  split
  · exact ends.endsDigits
  · simp
    decide

private theorem endsDigits_fractionChars (ends : EndsNumber rest) :
    EndsDigits (l.fractionChars ++ (l.exponentChars ++ rest)) := by
  unfold fractionChars
  split
  · exact endsDigits_exponentChars ends
  · simp
    decide

private theorem magnitude?_append (valid : l.Wellformed) (ends : EndsNumber rest) :
    Parser.magnitude? (l.magnitudeChars ++ rest) = some (l.magnitudeChars, rest) := by
  have unmarked : ∀ c ∈ (l.exponentChars ++ rest).head?, c ≠ '.' := by
    unfold exponentChars
    split
    · exact fun c first => (ends c first).2.1
    · simp
  simp only [Parser.magnitude?, magnitudeChars, List.append_assoc,
    wholePart?_append valid (endsDigits_fractionChars ends),
    fractionPart?_append valid (endsDigits_exponentChars ends) unmarked,
    exponentPart?_append valid ends, Option.bind_eq_bind, Option.bind_some]
  rfl

theorem chars_eq_cons (valid : l.Wellformed) :
    ∃ c cs, l.chars = c :: cs ∧ (c = '-' ∨ isDigit c) := by
  obtain ⟨c, cs, first⟩ := List.exists_cons_of_ne_nil valid.whole_ne_nil
  unfold chars
  split
  · exact ⟨'-', _, rfl, .inl rfl⟩
  · exact ⟨c, _, by rw [magnitudeChars, first]; rfl, .inr (valid.whole c (by simp [first]))⟩

theorem literal?_append (valid : l.Wellformed) (ends : EndsNumber rest) :
    literal? (l.chars ++ rest) = some (l.chars, rest) := by
  have read := magnitude?_append valid ends
  unfold chars
  split
  · simp [literal?, read]
  · rw [literal?, read]
    intro cs minus
    obtain ⟨c, ds, first⟩ := List.exists_cons_of_ne_nil valid.whole_ne_nil
    rw [magnitudeChars, first] at minus
    obtain rfl : c = '-' := (List.cons.inj minus).1
    exact absurd (valid.whole '-' (by simp [first])) (by decide)

theorem ofChars_chars (valid : l.Wellformed) : ofChars l.chars = l := by
  obtain ⟨c, cs, first⟩ := List.exists_cons_of_ne_nil valid.whole_ne_nil
  have unsigned : c ≠ '-' := by
    rintro rfl
    exact absurd (valid.whole '-' (by simp [first])) (by decide)
  have sign : (l.chars.head? == some '-') = l.negative := by
    cases negative : l.negative <;> simp [chars, negative, magnitudeChars, first, unsigned]
  have magnitude : (if l.negative = true then l.chars.drop 1 else l.chars) = l.magnitudeChars := by
    cases negative : l.negative <;> simp [chars, negative]
  have whole : l.magnitudeChars.takeWhile isDigit = l.whole :=
    takeWhile_digits valid.whole (by simpa using endsDigits_fractionChars (l := l) endsNumber_nil)
  have rest : l.magnitudeChars.dropWhile isDigit = l.fractionChars ++ l.exponentChars :=
    dropWhile_digits valid.whole (by simpa using endsDigits_fractionChars (l := l) endsNumber_nil)
  have ends : EndsDigits l.exponentChars := by
    simpa using endsDigits_exponentChars (l := l) endsNumber_nil
  have letter : l.exponentChars.drop 1 = l.exponent := by
    unfold exponentChars
    split <;> simp_all
  simp only [ofChars, sign, magnitude, whole, rest]
  by_cases none : l.fraction = []
  · have point : (l.exponentChars.head? == some '.') = false := by
      unfold exponentChars
      split <;> simp
    simp only [fractionChars, none, if_true, List.nil_append, point, Bool.false_eq_true, if_false, letter]
    rw [← none]
  · simp only [fractionChars, none, if_false, List.cons_append, List.head?_cons, beq_self_eq_true, if_true,
      List.drop_succ_cons, List.drop_zero, takeWhile_digits valid.fraction ends,
      dropWhile_digits valid.fraction ends, letter]

end Reading

theorem printable_chars {l : Literal} (valid : l.Wellformed) : ∀ c ∈ l.chars, 32 ≤ c.toNat := by
  have digits {ds : List Char} (all : ∀ c ∈ ds, isDigit c) : ∀ c ∈ ds, 32 ≤ c.toNat := by
    intro c present
    have digit := all c present
    simp only [isDigit, Bool.and_eq_true, decide_eq_true_eq] at digit
    omega
  have fraction : ∀ c ∈ l.fractionChars, 32 ≤ c.toNat := by
    unfold fractionChars
    split
    · simp
    · exact List.forall_mem_cons.mpr ⟨by decide, digits valid.fraction⟩
  have exponent : ∀ c ∈ l.exponentChars, 32 ≤ c.toNat := by
    unfold exponentChars
    rcases valid.exponent with none | ⟨s, ds, signed, sign, -, all⟩
    · simp [none]
    · have mark : 32 ≤ s.toNat := by rcases sign with rfl | rfl <;> decide
      rw [if_neg (by simp [signed]), signed]
      exact List.forall_mem_cons.mpr ⟨by decide, List.forall_mem_cons.mpr ⟨mark, digits all⟩⟩
  have magnitude : ∀ c ∈ l.magnitudeChars, 32 ≤ c.toNat :=
    List.forall_mem_append.mpr ⟨digits valid.whole, List.forall_mem_append.mpr ⟨fraction, exponent⟩⟩
  unfold chars
  split
  · exact List.forall_mem_cons.mpr ⟨by decide, magnitude⟩
  · exact magnitude

end Literal

end AnomalyWatch.Json
