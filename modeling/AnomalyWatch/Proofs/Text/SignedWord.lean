import AnomalyWatch.Proofs.Text.Digits

/-!
Which texts are read as signed 64-bit words: decimal digits behind at most one sign, in range. One number has many
such texts, with a plus sign and with zeros in front.
-/

set_option autoImplicit false
set_option relaxedAutoImplicit false

namespace AnomalyWatch.Text

/-- One or more decimal digits that are worth a number. -/
structure Numeral (cs : List Char) (n : Nat) : Prop where
  nonempty : cs ≠ []
  digits : ∀ c ∈ cs, isDigit c = true
  value : digitsValue cs = n

/-- Digits behind at most one sign, and the number that they are worth with it. -/
inductive SignedNumeral : List Char → Int → Prop
  | plain {cs : List Char} {n : Nat} (numeral : Numeral cs n) : SignedNumeral cs n
  | plus {cs : List Char} {n : Nat} (numeral : Numeral cs n) : SignedNumeral ('+' :: cs) n
  | minus {cs : List Char} {n : Nat} (numeral : Numeral cs n) : SignedNumeral ('-' :: cs) (-(n : Int))

def NamesWord (cs : List Char) (m : Int) : Prop :=
  SignedNumeral cs m ∧ -0x8000000000000000 ≤ m ∧ m < 0x8000000000000000

variable {cs : List Char} {n : Nat} {m : Int}

private theorem digitValue?_ten (c : Char) : digitValue? 10 c = if isDigit c then some (digit c) else none := by
  simp only [digitValue?, digit, isDigit, Bool.and_eq_true, decide_eq_true_eq]
  by_cases decimal : 48 ≤ c.toNat ∧ c.toNat ≤ 57
  · have small : decide (c.toNat - 48 < 10) = true := decide_eq_true (by omega)
    rw [if_pos decimal, if_pos decimal, if_pos decimal, Option.filter_some, if_pos small]
  · rw [if_neg decimal, if_neg decimal]
    split
    next =>
      have large : ¬ decide (c.toNat - 87 < 10) = true := by
        rw [decide_eq_true_eq]
        omega
      rw [Option.filter_some, if_neg large]
    next =>
      split
      next =>
        have large : ¬ decide (c.toNat - 55 < 10) = true := by
          rw [decide_eq_true_eq]
          omega
        rw [Option.filter_some, if_neg large]
      next => rfl

private theorem foldlM_digitValue?_ten (cs : List Char) (acc : Nat) :
    cs.foldlM (fun n c => (digitValue? 10 c).map (n * 10 + ·)) acc =
      if cs.all isDigit then some (digitsFrom acc cs) else none := by
  induction cs generalizing acc with
  | nil => rfl
  | cons c cs ih =>
    rw [List.foldlM_cons, digitValue?_ten, List.all_cons]
    cases isDigit c with
    | true =>
      rw [if_pos rfl, Option.map_some, Option.bind_eq_bind, Option.bind_some, ih, Bool.true_and]
      rfl
    | false => rfl

private theorem natural?_ten_eq_some_iff : natural? 10 cs = some n ↔ Numeral cs n := by
  cases cs with
  | nil =>
    refine iff_of_false (fun read => by cases read) fun numeral => numeral.nonempty rfl
  | cons c cs =>
    rw [natural?, foldlM_digitValue?_ten]
    · constructor
      · intro read
        split at read
        next digits => exact ⟨List.cons_ne_nil c cs, List.all_eq_true.mp digits, Option.some.inj read⟩
        next => cases read
      · intro numeral
        rw [if_pos (List.all_eq_true.mpr numeral.digits)]
        exact congrArg some numeral.value
    · exact fun empty => by cases empty

private theorem Numeral.ne_sign {sign : Char} (numeral : Numeral (sign :: cs) n) : sign ≠ '+' ∧ sign ≠ '-' := by
  have digit := numeral.digits sign List.mem_cons_self
  constructor
  · rintro rfl
    exact absurd digit (by decide)
  · rintro rfl
    exact absurd digit (by decide)

private theorem signedNumeral_minus_iff :
    SignedNumeral ('-' :: cs) m ↔ ∃ n, Numeral cs n ∧ m = -(n : Int) := by
  constructor
  · intro signed
    cases signed with
    | plain numeral => exact absurd rfl numeral.ne_sign.2
    | minus numeral => exact ⟨_, numeral, rfl⟩
  · rintro ⟨n, numeral, rfl⟩
    exact .minus numeral

private theorem signedNumeral_unsigned_iff (unsigned : ∀ rest, cs ≠ '-' :: rest) :
    SignedNumeral cs m ↔ ∃ n, Numeral (dropPlus cs) n ∧ m = n := by
  constructor
  · intro signed
    cases signed with
    | plain numeral =>
      refine ⟨_, ?_, rfl⟩
      unfold dropPlus
      split
      next => exact absurd rfl numeral.ne_sign.1
      next => exact numeral
    | plus numeral => exact ⟨_, numeral, rfl⟩
    | minus numeral => exact absurd rfl (unsigned _)
  · rintro ⟨n, numeral, rfl⟩
    unfold dropPlus at numeral
    split at numeral
    next => exact .plus numeral
    next => exact .plain numeral

private theorem limited_eq_some_iff {limit : Nat → Bool} {i : Int} :
    (do let n ← (natural? 10 cs).filter limit; pure (n : Int)) = some i ↔
      ∃ n, Numeral cs n ∧ limit n = true ∧ (n : Int) = i := by
  simp only [Option.bind_eq_bind, Option.bind_eq_some_iff, Option.filter_eq_some_iff, natural?_ten_eq_some_iff,
    Option.pure_def, Option.some.injEq, and_assoc]

theorem signedWord?_eq_some_iff : signedWord? cs = some m ↔ NamesWord cs m := by
  unfold signedWord? NamesWord
  split
  next cs =>
    rw [signedNumeral_minus_iff, Option.map_eq_some_iff]
    simp only [limited_eq_some_iff, decide_eq_true_eq]
    constructor
    · rintro ⟨_, ⟨n, numeral, bounded, rfl⟩, rfl⟩
      exact ⟨⟨n, numeral, rfl⟩, by omega, by omega⟩
    · rintro ⟨⟨n, numeral, rfl⟩, least, _⟩
      exact ⟨n, ⟨n, numeral, by omega, rfl⟩, rfl⟩
  next cs unsigned =>
    rw [signedNumeral_unsigned_iff fun rest same => unsigned rest same, Option.map_eq_some_iff]
    simp only [limited_eq_some_iff, decide_eq_true_eq]
    constructor
    · rintro ⟨_, ⟨n, numeral, bounded, rfl⟩, rfl⟩
      exact ⟨⟨n, numeral, rfl⟩, by omega, by omega⟩
    · rintro ⟨⟨n, numeral, rfl⟩, _, greatest⟩
      exact ⟨n, ⟨n, numeral, by omega, rfl⟩, rfl⟩

end AnomalyWatch.Text
