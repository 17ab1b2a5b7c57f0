/-!
Whole numbers in text: ASCII digits only, with no blanks, no digit separators and no other script's
digits. Words of 64 bits are bounded; a leading plus sign is allowed.
-/

set_option autoImplicit false
set_option relaxedAutoImplicit false

namespace AnomalyWatch.Text

/-- The value of an ASCII digit in a base up to sixteen. -/
def digitValue? (base : Nat) (c : Char) : Option Nat :=
  let n := c.toNat
  let v :=
    if 48 ≤ n && n ≤ 57 then some (n - 48)
    else if 97 ≤ n && n ≤ 102 then some (n - 87)
    else if 65 ≤ n && n ≤ 70 then some (n - 55)
    else none
  v.filter (· < base)

/-- An ASCII decimal digit. -/
def isDigit (c : Char) : Bool :=
  48 ≤ c.toNat && c.toNat ≤ 57

/-- The value of a decimal digit; other characters count as zero. -/
def digit (c : Char) : Nat :=
  if isDigit c then c.toNat - 48 else 0

/-- The number a run of decimal digits denotes, continuing from `acc`. -/
def digitsFrom (acc : Nat) (cs : List Char) : Nat :=
  cs.foldl (fun n c => n * 10 + digit c) acc

def digitsValue (cs : List Char) : Nat :=
  digitsFrom 0 cs

/-- One or more digits of the base, and nothing else. -/
def natural? (base : Nat) : List Char → Option Nat
  | [] => none
  | cs => cs.foldlM (fun n c => (digitValue? base c).map (n * base + ·)) 0

/-- The text after one leading plus sign, if there is one. -/
def dropPlus : List Char → List Char
  | '+' :: cs => cs
  | cs => cs

/-- The largest unsigned 64-bit word. -/
def maxWord : Nat := 0xFFFFFFFFFFFFFFFF

/-- An unsigned 64-bit word in decimal. -/
def word? (cs : List Char) : Option Nat :=
  (natural? 10 (dropPlus cs)).filter (· ≤ maxWord)

/-- A signed 64-bit word in decimal. -/
def signedWord? : List Char → Option Int
  | '-' :: cs => ((natural? 10 cs).filter (· ≤ 0x8000000000000000)).map fun n => -(n : Int)
  | cs => ((natural? 10 (dropPlus cs)).filter (· < 0x8000000000000000)).map fun n => (n : Int)

/-- Decimal digits with zeros in front up to `width`. -/
def zeroPadded (width n : Nat) : List Char :=
  let ds := Nat.toDigits 10 n
  List.replicate (width - ds.length) '0' ++ ds

def decimal (n : Nat) : List Char :=
  Nat.toDigits 10 n

end AnomalyWatch.Text
