import AnomalyWatch.Url.Percent

/-!
Percent-encoding is undone by decoding wherever the percent sign itself is reserved.

An encoded text consists of plain characters and percent forms, so no mark that is reserved stands in it.
-/

set_option autoImplicit false
set_option relaxedAutoImplicit false

namespace AnomalyWatch.Percent

variable {reserved : Reserved} {c : Char}

theorem digitValue?_hexDigit (n : Nat) : Text.digitValue? 16 (hexDigit n) = some (n % 16) := by
  have all : ∀ k < 16, Text.digitValue? 16 (Nat.digitChar k).toUpper = some k := by decide
  exact all (n % 16) (Nat.mod_lt n (by decide))

private theorem byte?_encodeByte (b : UInt8) (rest : List Char) : byte? (encodeByte b ++ rest) = some (b, rest) := by
  have small : b.toNat < 256 := b.toNat_lt
  have value : b.toNat / 16 % 16 * 16 + b.toNat % 16 = b.toNat := by omega
  show byte? ('%' :: hexDigit (b.toNat / 16) :: hexDigit b.toNat :: rest) = some (b, rest)
  simp only [byte?, digitValue?_hexDigit, Option.bind_eq_bind, Option.bind_some, value, UInt8.ofNat_toNat]
  rfl

private theorem decode_encodeByte (b : UInt8) (rest : List Char) :
    decode (encodeByte b ++ rest) = b :: decode rest := by
  rw [decode]
  split
  next b' rest' found =>
    rw [byte?_encodeByte] at found
    cases found
    rfl
  next missing =>
    rw [byte?_encodeByte] at missing
    cases missing

private theorem decode_flatMap_encodeByte (bs : List UInt8) (rest : List Char) :
    decode (bs.flatMap encodeByte ++ rest) = bs ++ decode rest := by
  induction bs with
  | nil => rfl
  | cons b bs ih => rw [List.flatMap_cons, List.append_assoc, decode_encodeByte, ih, List.cons_append]

private theorem decode_cons (other : c ≠ '%') (rest : List Char) :
    decode (c :: rest) = String.utf8EncodeChar c ++ decode rest := by
  have formless : byte? (c :: rest) = none := by
    unfold byte?
    split
    next same => exact absurd (List.cons.inj same).1 other
    next => rfl
  rw [decode]
  split
  next found =>
    rw [formless] at found
    cases found
  next => rfl

private theorem decode_encodeChar (closed : '%' ∈ reserved) (c : Char) (rest : List Char) :
    decode (encodeChar reserved c ++ rest) = String.utf8EncodeChar c ++ decode rest := by
  unfold encodeChar
  split
  next plain =>
    have other : c ≠ '%' := by
      rintro rfl
      have listed : reserved.contains '%' = true := by simpa using closed
      rw [isPlain, listed] at plain
      simp at plain
    exact decode_cons other rest
  next => exact decode_flatMap_encodeByte _ rest

theorem decode_encode (closed : '%' ∈ reserved) (cs : List Char) :
    decode (encode reserved cs) = cs.flatMap String.utf8EncodeChar := by
  have ahead (rest : List Char) :
      decode (encode reserved cs ++ rest) = cs.flatMap String.utf8EncodeChar ++ decode rest := by
    induction cs with
    | nil => rfl
    | cons c cs ih =>
      have first : encode reserved (c :: cs) = encodeChar reserved c ++ encode reserved cs := List.flatMap_cons
      rw [first, List.append_assoc, decode_encodeChar closed, ih, List.flatMap_cons, List.append_assoc]
  have whole := ahead []
  have empty : decode [] = [] := by
    rw [decode]
    split
    next found => cases found
    next => rfl
  rwa [List.append_nil, empty, List.append_nil] at whole

private theorem eq_percent_or_hexDigit_of_mem (bs : List UInt8) (present : c ∈ bs.flatMap encodeByte) :
    c = '%' ∨ ∃ n, c = hexDigit n := by
  obtain ⟨b, -, written⟩ := List.mem_flatMap.mp present
  simp only [encodeByte, List.mem_cons, List.not_mem_nil, or_false] at written
  rcases written with rfl | rfl | rfl
  · exact .inl rfl
  · exact .inr ⟨_, rfl⟩
  · exact .inr ⟨_, rfl⟩

theorem not_mem_encode {mark : Char} (listed : mark ∈ reserved) (other : mark ≠ '%')
    (digitless : ∀ k < 16, mark ≠ (Nat.digitChar k).toUpper) (cs : List Char) : mark ∉ encode reserved cs := by
  intro present
  obtain ⟨c, -, written⟩ := List.mem_flatMap.mp present
  unfold encodeChar at written
  split at written
  next plain =>
    obtain rfl : mark = c := List.mem_singleton.mp written
    have held : reserved.contains mark = true := by simpa using listed
    rw [isPlain, held] at plain
    simp at plain
  next =>
    rcases eq_percent_or_hexDigit_of_mem _ written with percent | ⟨n, digit⟩
    · exact other percent
    · exact digitless (n % 16) (Nat.mod_lt n (by decide)) digit

end AnomalyWatch.Percent
