/-!
Texts and their bytes in UTF-8.

Not all bytes are those of a text. They can be shown to people all the same: the characters among them as they are, and
a mark in the place of each part that no character begins with or that its character is broken off after.
-/

set_option autoImplicit false
set_option relaxedAutoImplicit false

namespace AnomalyWatch.Text

/-- The bytes of a text. -/
def octets (s : String) : List UInt8 :=
  s.toUTF8.data.toList

/-- The text that has the bytes, if there is one. -/
def ofOctets? (bytes : List UInt8) : Option String :=
  String.fromUTF8? ⟨bytes.toArray⟩

/-- The start of a character: the ranges that its other bytes lie in, and the bits so far. -/
structure Begun where
  ranges : List (UInt8 × UInt8)
  bits : Nat

/-- What the first byte of a character tells, if it is one. -/
def Begun.ofFirst? (b : UInt8) : Option Begun :=
  let any : UInt8 × UInt8 := (0x80, 0xBF)
  if b < 0x80 then some ⟨[], b.toNat⟩
  else if b < 0xC2 then none
  else if b < 0xE0 then some ⟨[any], b.toNat % 32⟩
  else if b = 0xE0 then some ⟨[(0xA0, 0xBF), any], 0⟩
  else if b = 0xED then some ⟨[(0x80, 0x9F), any], 13⟩
  else if b < 0xF0 then some ⟨[any, any], b.toNat % 16⟩
  else if b = 0xF0 then some ⟨[(0x90, 0xBF), any, any], 0⟩
  else if b < 0xF4 then some ⟨[any, any, any], b.toNat % 8⟩
  else if b = 0xF4 then some ⟨[(0x80, 0x8F), any, any], 4⟩
  else none

/-- In the place of bytes that are no character. -/
def mark : Char := '\uFFFD'

/-- What is shown once a character got this far, and what is still open. -/
def Begun.close : Option Begun → List Char × Option Begun
  | none => ([mark], none)
  | some ⟨[], bits⟩ => ([Char.ofNat bits], none)
  | some begun => ([], some begun)

/-- Read one more byte. A byte that does not continue the open character breaks it off and begins anew. -/
def Begun.step (b : UInt8) : Option Begun → List Char × Option Begun
  | some ⟨(low, high) :: ranges, bits⟩ =>
    if low ≤ b && b ≤ high then close (some ⟨ranges, bits * 64 + b.toNat % 64⟩)
    else ((close (ofFirst? b)).map (mark :: ·) id)
  | _ => close (ofFirst? b)

/-- What is shown of bytes behind an open character. -/
def shownFrom (begun : Option Begun) : List UInt8 → List Char
  | [] => if begun.isSome then [mark] else []
  | b :: bytes =>
    let (cs, begun) := Begun.step b begun
    cs ++ shownFrom begun bytes

/-- Bytes as they are shown to people. -/
def shown (bytes : List UInt8) : String :=
  String.ofList (shownFrom none bytes)

example : shown (octets "a/é€😀") = "a/é€😀" := by decide +kernel

example : shown [0x2E, 0xFF, 0x2E, 0xE2, 0x82, 0x41, 0xED, 0xA0, 0x80, 0xC3] = ".\uFFFD.\uFFFDA\uFFFD\uFFFD\uFFFD\uFFFD" := by
  decide +kernel

end AnomalyWatch.Text
