import AnomalyWatch.Json.Basic

/-!
What a number literal of a JSON document is worth.

As a word it has to be a whole number in plain digits. As a double it is its leading digits, as far as they
fit an unsigned 64-bit word, scaled by one power of ten: the word is rounded to a double, and one more
rounding happens in the scaling. That is exact up to 2^53 and powers up to `10^22`, and may miss the
nearest double beyond.
-/

set_option autoImplicit false
set_option relaxedAutoImplicit false

namespace AnomalyWatch.Json

open AnomalyWatch.Text (isDigit digit digitsValue maxWord)

/-- The parts of a literal. -/
structure Literal where
  negative : Bool
  whole : List Char
  fraction : List Char
  /-- The exponent without its letter. -/
  exponent : List Char

def Literal.ofChars (cs : List Char) : Literal :=
  let negative := cs.head? == some '-'
  let cs := if negative then cs.drop 1 else cs
  let whole := cs.takeWhile isDigit
  let cs := cs.dropWhile isDigit
  let point := cs.head? == some '.'
  let fraction := if point then (cs.drop 1).takeWhile isDigit else []
  let cs := if point then (cs.drop 1).dropWhile isDigit else cs
  ⟨negative, whole, fraction, cs.drop 1⟩

/-- Digits gathered into a word; those that do not fit any more are counted. -/
structure Significand where
  word : Nat
  dropped : Nat
  full : Bool

/-- Gather the digits of a whole part. From the first digit that does not fit on, all are dropped. -/
def gatherWhole (ds : List Char) : Significand :=
  ds.foldl
    (fun s c =>
      let next := s.word * 10 + digit c
      if s.full || maxWord < next then ⟨s.word, s.dropped + 1, true⟩ else ⟨next, 0, false⟩)
    ⟨0, 0, false⟩

/-- Gather the digits of a fraction up to the first that does not fit: the word and how many were taken. -/
def gatherFraction (word taken : Nat) : List Char → Nat × Nat
  | [] => (word, taken)
  | c :: cs =>
    let next := word * 10 + digit c
    if maxWord < next then (word, taken) else gatherFraction next (taken + 1) cs

/-- Scale by a power of ten. Powers below `10^-308` are applied in steps; a result beyond the range does not
exist. -/
def scaleFrom (x : Float) (exponent : Int) : Nat → Option Float
  | 0 => some x
  | fuel + 1 =>
    if exponent.natAbs ≤ 308 then
      if 0 ≤ exponent then
        let y := x * Float.ofScientific 1 false exponent.natAbs
        if y.isInf then none else some y
      else some (x / Float.ofScientific 1 false exponent.natAbs)
    else if x == 0 then some x
    else if 0 ≤ exponent then none
    else scaleFrom (x / 1e308) (exponent + 308) fuel

/-- The written exponent; `none` stands for one beyond 32 bits. -/
def exponentValue (cs : List Char) : Option Int :=
  let negative := cs.head? == some '-'
  let ds := if negative || cs.head? == some '+' then cs.drop 1 else cs
  let n := digitsValue ds
  if 0x80000000 ≤ n then none else some (if negative then -(n : Int) else n)

/-- The literal as a double without its sign. -/
def Literal.magnitude? (l : Literal) : Option Float :=
  let s := gatherWhole l.whole
  let (word, taken) := gatherFraction s.word 0 l.fraction
  let start : Int := (s.dropped : Int) - taken
  match exponentValue l.exponent with
  | some e => scaleFrom (Float.ofScientific word false 0) (start + e) 8
  | none =>
    if word ≠ 0 && l.exponent.head? != some '-' then none else some 0

def floatOf? (cs : List Char) : Option Float :=
  let l := Literal.ofChars cs
  l.magnitude?.map fun x => if l.negative then -x else x

/-- The literal as an unsigned 64-bit word. -/
def wordOf? (cs : List Char) : Option Nat :=
  if cs.all isDigit then some (digitsValue cs) |>.filter (· ≤ maxWord) else none

/-- The literal as a whole number of any size. -/
def intOf? : List Char → Option Int
  | '-' :: cs => if cs.all isDigit then some (-(digitsValue cs : Int)) else none
  | cs => if cs.all isDigit then some (digitsValue cs : Int) else none

end AnomalyWatch.Json
