import AnomalyWatch.Text.Digits

/-!
Names beyond ASCII in ASCII.

The plain characters of a name come first. The others follow in ascending order as distances from the last
insertion, each a number of variable length in base 36 whose digit thresholds adapt to the distances so far.
-/

set_option autoImplicit false
set_option relaxedAutoImplicit false

namespace AnomalyWatch.Punycode

/-- A digit in base 36: letters, then decimal digits. -/
def digitChar (d : Nat) : Char :=
  if d < 26 then Char.ofNat (97 + d) else Char.ofNat (22 + d)

/-- The threshold of a digit by its place, a multiple of 36. -/
def threshold (place bias : Nat) : Nat :=
  max 1 (min 26 (place - bias))

theorem one_le_threshold (place bias : Nat) : 1 ≤ threshold place bias :=
  Nat.le_max_left _ _

def digits (bias place distance : Nat) : List Char :=
  let t := threshold place bias
  if distance < t then [digitChar distance]
  else
    digitChar (t + (distance - t) % (36 - t)) ::
      digits bias (place + 36) ((distance - t) / (36 - t))
termination_by distance
decreasing_by
  have h1 := one_le_threshold place bias
  exact Nat.lt_of_le_of_lt (Nat.div_le_self _ _) (by omega)

/-- Divide a distance until it is small, and count the places that takes. -/
def settle (distance place : Nat) : Nat :=
  if 455 < distance then settle (distance / 35) (place + 36)
  else place + 36 * distance / (distance + 38)
termination_by distance
decreasing_by exact Nat.div_lt_self (by omega) (by omega)

def adapt (distance count : Nat) (first : Bool) : Nat :=
  let scaled := if first then distance / 700 else distance / 2
  settle (scaled + scaled / count) 0

/-- What encoding has come to. -/
structure Progress where
  distance : Nat
  bias : Nat
  /-- How many characters of the name are encoded. -/
  handled : Nat
  first : Bool
  written : List Char

/-- Pass one character of the name while the code point `n` is inserted. -/
def pass (n : Nat) (p : Progress) (c : Char) : Progress :=
  if c.toNat < n then { p with distance := p.distance + 1 }
  else if c.toNat = n then
    { distance := 0
      bias := adapt p.distance (p.handled + 1) p.first
      handled := p.handled + 1
      first := false
      written := p.written ++ digits p.bias 36 p.distance }
  else p

/-- Insert every occurrence of a code point; `last` is the one that was inserted before it. -/
def insertAll (name : List Char) (p : Progress) (last n : Nat) : Progress :=
  let start := { p with distance := p.distance + (n - last) * (p.handled + 1) }
  let done := name.foldl (pass n) start
  { done with distance := done.distance + 1 }

/-- Insert code points in ascending order. -/
def insertEach (name : List Char) (p : Progress) (last : Nat) : List Nat → Progress
  | [] => p
  | n :: rest => insertEach name (insertAll name p last n) (n + 1) rest

/-- A name in ASCII, without a mark in front. -/
def encode (name : List Char) : List Char :=
  let plain := name.filter (·.toNat < 128)
  let others := ((name.filter (128 ≤ ·.toNat)).map Char.toNat).mergeSort.eraseDups
  let start : Progress :=
    ⟨0, 72, plain.length, true, if plain.isEmpty then [] else plain ++ ['-']⟩
  (insertEach name start 128 others).written

end AnomalyWatch.Punycode
