import AnomalyWatch.Decimal.Shortest

/-!
How a number is written. The digits are always the shortest that read back; a layout decides where
positional notation ends, whether a whole number keeps `.0`, and what stands for the values that are
not finite.
-/

set_option autoImplicit false
set_option relaxedAutoImplicit false

namespace AnomalyWatch.Decimal

/-- The decisions of one number format. -/
structure Layout where
  /-- The scientific exponents written positionally, from the first up to but not the second. -/
  positional : Option (Int × Int)
  /-- The mark after a whole number. -/
  wholeMark : String
  notANumber : String
  infinity : String
  negativeInfinity : String

/-- Text for people: never an exponent, no mark on whole numbers. -/
def Layout.plain : Layout := ⟨none, "", "NaN", "inf", "-inf"⟩

/-- Numbers in a JSON document: whole numbers keep `.0`, an exponent is written below `1e-5` and from
`1e16`, and a value that is not finite is null. -/
def Layout.document : Layout := ⟨some (-5, 16), ".0", "null", "null", "null"⟩

/-- Positional notation of `ds · 10^k`. -/
def positionalText (wholeMark : String) (ds : List Char) (k : Int) : String :=
  if 0 ≤ k then String.ofList (ds ++ List.replicate k.toNat '0') ++ wholeMark
  else
    let places := (-k).toNat
    if places < ds.length then
      String.ofList (ds.take (ds.length - places)) ++ "." ++
        String.ofList (ds.drop (ds.length - places))
    else "0." ++ String.ofList (List.replicate (places - ds.length) '0' ++ ds)

/-- Scientific notation of `ds · 10^k`, the exponent always signed. -/
def scientificText (ds : List Char) (k : Int) : String :=
  let exponent := k + ((ds.length : Int) - 1)
  let sign := if exponent < 0 then "-" else "+"
  let whole := String.ofList (ds.take 1)
  let fraction := if ds.length ≤ 1 then "" else "." ++ String.ofList (ds.drop 1)
  whole ++ fraction ++ "e" ++ sign ++ String.ofList (Nat.toDigits 10 exponent.natAbs)

def magnitudeText (layout : Layout) (s : Scaled) : String :=
  let ds := Nat.toDigits 10 s.digits
  let exponent := s.exponent + ((ds.length : Int) - 1)
  match layout.positional with
  | some (low, high) =>
    if low ≤ exponent && exponent < high then positionalText layout.wholeMark ds s.exponent
    else scientificText ds s.exponent
  | none => positionalText layout.wholeMark ds s.exponent

/-- The sign bit of a double; negative zero has it. -/
def signBit (x : Float) : Bool :=
  0x8000000000000000 ≤ x.toBits.toNat

def write (layout : Layout) (x : Float) : String :=
  if x.isNaN then layout.notANumber
  else if x.isInf then if signBit x then layout.negativeInfinity else layout.infinity
  else
    let magnitude :=
      match Binary.ofFloat? x with
      | some b => magnitudeText layout (shortest b)
      | none => "0" ++ layout.wholeMark
    if signBit x then "-" ++ magnitude else magnitude

def plain (x : Float) : String := write .plain x

end AnomalyWatch.Decimal
