/-!
The shortest decimal of a binary floating-point number.

A finite double is `m · 2^q`. Every real between the midpoints to its two neighbours rounds to it,
the midpoints themselves when `m` is even. For one, two, … seventeen digits the two points of the
decimal grid next to the value are tried in exact integer arithmetic; the first grid with a point
inside the interval gives the digits, of two such points the nearer, and of two equally near the one
with the even last digit.
-/

set_option autoImplicit false
set_option relaxedAutoImplicit false

namespace AnomalyWatch.Decimal

/-- A positive value `mantissa · 2^exponent`; the gap below is half as wide when `lowGap` is set. -/
structure Binary where
  mantissa : Nat
  exponent : Int
  lowGap : Bool

/-- A decimal `digits · 10^exponent` without trailing zeros in its digits. -/
structure Scaled where
  digits : Nat
  exponent : Int
  deriving DecidableEq, Repr

namespace Binary

/-- The magnitude of a finite double that is not zero. -/
def ofFloat? (x : Float) : Option Binary :=
  let bits : Nat := x.toBits.toNat
  let fraction : Nat := bits % 0x10000000000000
  let field : Nat := bits / 0x10000000000000 % 2048
  if field = 2047 then none
  else if field = 0 then
    if fraction = 0 then none else some ⟨fraction, -1074, false⟩
  else some ⟨0x10000000000000 + fraction, (field : Int) - 1075, fraction = 0 && 1 < field⟩

/-- Four times the value over a common denominator: the ends of the rounding interval and the value. -/
def quarters (b : Binary) : Nat × Nat × Nat × Nat :=
  let up := Nat.pow 2 (b.exponent - 2).toNat
  let down := Nat.pow 2 (2 - b.exponent).toNat
  let v := 4 * b.mantissa
  ((v - if b.lowGap then 1 else 2) * up, v * up, (v + 2) * up, down)

end Binary

/-- Multiply the first by `10^-k`, or the second by `10^k`, whichever keeps both whole. -/
def shiftedBy (k : Int) (n d : Nat) : Nat × Nat :=
  if 0 ≤ k then (n, d * Nat.pow 10 k.toNat) else (n * Nat.pow 10 (-k).toNat, d)

/-- The least exponent at or above `k` whose power of ten exceeds `n / d`, within `fuel` steps. -/
def climb (n d : Nat) (k : Int) : Nat → Int
  | 0 => k
  | fuel + 1 =>
    let (n', d') := shiftedBy k n d
    if d' ≤ n' then climb n d (k + 1) fuel else k

/-- The `e` with `10^(e-1) ≤ n / d < 10^e`. -/
def magnitude (n d : Nat) : Int :=
  let estimate := (((Nat.log2 n : Nat) : Int) - (Nat.log2 d : Nat)) * 30103 / 100000 - 1
  climb n d estimate 5

/-- Move trailing zeros of the digits into the exponent, at most `fuel` of them. -/
def stripZeros (digits : Nat) (k : Int) : Nat → Scaled
  | 0 => ⟨digits, k⟩
  | fuel + 1 =>
    if digits % 10 = 0 && digits ≠ 0 then stripZeros (digits / 10) (k + 1) fuel else ⟨digits, k⟩

/-- A point of the grid `10^k` that lies inside the rounding interval, the nearer of two. -/
def gridPoint? (b : Binary) (k : Int) : Option Nat :=
  let (lo, v, hi, den) := b.quarters
  let (v', den') := shiftedBy k v den
  let lo' := (shiftedBy k lo den).1
  let hi' := (shiftedBy k hi den).1
  let even := b.mantissa % 2 = 0
  let inside (c : Nat) : Bool :=
    if even then lo' ≤ c * den' && c * den' ≤ hi' else lo' < c * den' && c * den' < hi'
  let below := v' / den'
  let remainder := v' % den'
  match inside below && below ≠ 0, inside (below + 1) with
  | true, true =>
    if 2 * remainder < den' then some below
    else if den' < 2 * remainder then some (below + 1)
    else if below % 2 = 0 then some below
    else some (below + 1)
  | true, false => some below
  | false, true => some (below + 1)
  | false, false => none

/-- Try grids with `count` digits and up; seventeen digits always suffice. -/
def search (b : Binary) (e : Int) (count : Nat) : Nat → Scaled
  | 0 => ⟨0, 0⟩
  | fuel + 1 =>
    match gridPoint? b (e - count) with
    | some digits => stripZeros digits (e - count) 20
    | none => search b e (count + 1) fuel

/-- The shortest decimal that rounds to the value, the nearest of the shortest. -/
def shortest (b : Binary) : Scaled :=
  let (_, v, _, den) := b.quarters
  search b (magnitude v den) 1 17

end AnomalyWatch.Decimal
