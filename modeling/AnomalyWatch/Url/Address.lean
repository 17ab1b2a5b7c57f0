import AnomalyWatch.Text.Blank
import AnomalyWatch.Text.Digits

/-!
Numeric addresses of hosts, of four bytes and of eight 16-bit groups.

A number in a four-byte address may be octal after a zero and hexadecimal after `0x`, and the last number fills
all bytes that are left. Of eight groups the longest run of zeros is written as two colons.
-/

set_option autoImplicit false
set_option relaxedAutoImplicit false

namespace AnomalyWatch.Address

open AnomalyWatch.Text (natural? isDigit)

def number? : List Char → Option Nat
  | [] => none
  | ['0'] => some 0
  | ['0', 'x'] | ['0', 'X'] => some 0
  | '0' :: 'x' :: cs | '0' :: 'X' :: cs => natural? 16 cs
  | '0' :: cs => natural? 8 cs
  | cs => natural? 10 cs

/-- The parts of a dotted name; a dot at the end does not count. -/
def dotted (cs : List Char) : List (List Char) :=
  let parts := Text.pieces (· == '.') cs
  if parts.length > 1 && parts.getLastD [] == [] then parts.dropLast else parts

/-- The last part of the name is a number, so that the name has to be an address. -/
def endsInNumber (cs : List Char) : Bool :=
  match (dotted cs).getLast? with
  | some part => (!part.isEmpty && part.all isDigit) || (number? part).isSome
  | none => false

/-- The value of the parts of a four-byte address. -/
def combine (bytes : List Nat) (last : Nat) : Option Nat :=
  if bytes.length ≤ 3 && bytes.all (· ≤ 255) && last < Nat.pow 256 (4 - bytes.length) then
    some (bytes.foldl (· * 256 + ·) 0 * Nat.pow 256 (4 - bytes.length) + last)
  else none

def four? (cs : List Char) : Option Nat := do
  let numbers ← (dotted cs).mapM number?
  combine numbers.dropLast (← numbers.getLast?)

/-- The bytes of a four-byte address, with dots between them. -/
def fourText (address : Nat) : List Char :=
  let byte (place : Nat) : List Char := Text.decimal (address / Nat.pow 256 place % 256)
  byte 3 ++ '.' :: byte 2 ++ '.' :: byte 1 ++ '.' :: byte 0

/-- One group: up to four hexadecimal digits. -/
def group? (cs : List Char) : Option Nat :=
  if cs.length ≤ 4 then natural? 16 cs else none

/-- A byte in decimal without zeros in front. -/
def byte? : List Char → Option Nat
  | ['0'] => some 0
  | '0' :: _ => none
  | cs => (natural? 10 cs).filter (· ≤ 255)

/-- Four bytes in the place of the last two groups. -/
def tail? (cs : List Char) : Option (List Nat) := do
  match ← (Text.pieces (· == '.') cs).mapM byte? with
  | [a, b, c, d] => return [a * 256 + b, c * 256 + d]
  | _ => none

/-- Groups with colons between them; the last may be four bytes if `last` says so. -/
def groups? (last : Bool) (cs : List Char) : Option (List Nat) :=
  if cs.isEmpty then some []
  else do
    let parts := Text.pieces (· == ':') cs
    let front ← parts.dropLast.mapM group?
    let back := parts.getLastD []
    if last && back.contains '.' then return front ++ (← tail? back)
    else return front ++ [← group? back]

/-- The text before and after the first two colons in a row. -/
def splitGap : List Char → Option (List Char × List Char)
  | ':' :: ':' :: rest => some ([], rest)
  | c :: rest => (splitGap rest).map fun r => (c :: r.1, r.2)
  | [] => none

def eight? (cs : List Char) : Option (List Nat) :=
  match splitGap cs with
  | none => (groups? true cs).filter (·.length = 8)
  | some (front, back) => do
    let front ← groups? false front
    let back ← groups? true back
    let known := front.length + back.length
    if known ≤ 7 then return front ++ List.replicate (8 - known) 0 ++ back else none

/-- Where the longest run of two or more zeros starts, and its length; the first of several. -/
def longestGap (groups : List Nat) : Option (Nat × Nat) :=
  let runs := (List.range groups.length).map fun i =>
    (i, ((groups.drop i).takeWhile (· == 0)).length)
  runs.foldl (fun best run =>
    if run.2 ≥ 2 && (best.map Prod.snd).getD 0 < run.2 then some run else best) none

/-- Groups in hexadecimal with colons between them. -/
def groupsText (groups : List Nat) : List Char :=
  List.intercalate [':'] (groups.map (Nat.toDigits 16))

def eightText (groups : List Nat) : List Char :=
  match longestGap groups with
  | none => groupsText groups
  | some (start, length) =>
    groupsText (groups.take start) ++ ':' :: ':' :: groupsText (groups.drop (start + length))

end AnomalyWatch.Address
