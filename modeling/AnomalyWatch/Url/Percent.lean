import AnomalyWatch.Text.Digits

/-!
Percent-encoding: a byte as a percent sign and two hexadecimal digits.

Control characters and everything beyond ASCII are always encoded; which other characters are depends on the part
of an address they stand in. Decoding takes every complete percent form and leaves all else as it is.
-/

set_option autoImplicit false
set_option relaxedAutoImplicit false

namespace AnomalyWatch.Percent

/-- The printing ASCII characters that a part of an address does not hold as they are. -/
abbrev Reserved : Type := List Char

namespace Reserved

/-- In a path without segments only control characters are encoded. -/
def controls : Reserved := []

def fragment : Reserved := [' ', '"', '<', '>', '`']

def path : Reserved := fragment ++ ['#', '?', '^', '\x7b', '\x7d']

def userInfo : Reserved := path ++ ['/', ':', ';', '=', '@', '[', '\\', ']', '|']

/-- In a text that is one segment of a path. -/
def segment : Reserved := path ++ ['/', '%']

/-- In one segment of a path where a backslash separates segments as well. -/
def specialSegment : Reserved := segment ++ ['\\']

def query : Reserved := [' ', '"', '#', '<', '>']

/-- In a query of an address with a special scheme. -/
def specialQuery : Reserved := query ++ ['\'']

end Reserved

def isPlain (reserved : Reserved) (c : Char) : Bool :=
  0x20 ≤ c.toNat && c.toNat ≤ 0x7E && !reserved.contains c

/-- An upper-case hexadecimal digit. -/
def hexDigit (n : Nat) : Char :=
  (Nat.digitChar (n % 16)).toUpper

def encodeByte (b : UInt8) : List Char :=
  ['%', hexDigit (b.toNat / 16), hexDigit b.toNat]

/-- A character as it is or as the percent forms of its UTF-8 bytes. -/
def encodeChar (reserved : Reserved) (c : Char) : List Char :=
  if isPlain reserved c then [c] else (String.utf8EncodeChar c).flatMap encodeByte

def encode (reserved : Reserved) (cs : List Char) : List Char :=
  cs.flatMap (encodeChar reserved)

/-- The byte of a percent form at the start of a text, and what follows it. -/
def byte? : List Char → Option (UInt8 × List Char)
  | '%' :: a :: b :: rest => do
    let high ← Text.digitValue? 16 a
    let low ← Text.digitValue? 16 b
    return (UInt8.ofNat (high * 16 + low), rest)
  | _ => none

theorem length_lt_of_byte? {cs rest : List Char} {b : UInt8} (h : byte? cs = some (b, rest)) :
    rest.length < cs.length := by
  unfold byte? at h
  split at h
  · rename_i x y tail
    cases hx : Text.digitValue? 16 x with
    | none => simp [hx, bind] at h
    | some high =>
      cases hy : Text.digitValue? 16 y with
      | none => simp [hx, hy, bind] at h
      | some low =>
        simp [hx, hy, bind, pure] at h
        obtain ⟨_, rfl⟩ := h
        simp only [List.length_cons]
        omega
  · simp at h

/-- The bytes that a text stands for. -/
def decode (cs : List Char) : List UInt8 :=
  match _found : byte? cs with
  | some (b, rest) => b :: decode rest
  | none =>
    match cs with
    | [] => []
    | c :: rest => String.utf8EncodeChar c ++ decode rest
termination_by cs.length
decreasing_by
  · exact length_lt_of_byte? _found
  · simp

end AnomalyWatch.Percent
