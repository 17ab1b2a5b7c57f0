import AnomalyWatch.Text.Lowercase
import AnomalyWatch.Url.Address
import AnomalyWatch.Url.Percent
import AnomalyWatch.Url.Punycode

/-!
Hosts of addresses.

Under a special scheme a host is a domain name or numeric: percent forms are decoded, letters are lower-cased, labels
beyond ASCII become ASCII, and a name whose last part is a number has to be a numeric address. Under any other
scheme the text is kept as it is.
-/

set_option autoImplicit false
set_option relaxedAutoImplicit false

namespace AnomalyWatch

/-- A host by name or by number. -/
inductive Host where
  | name (text : List Char)
  | four (address : Nat)
  | eight (groups : List Nat)
  deriving DecidableEq, Repr

namespace Host

/-- No host at all, as in `file:///`. -/
def nowhere : Host := .name []

def chars : Host → List Char
  | .name text => text
  | .four address => Address.fourText address
  | .eight groups => '[' :: Address.eightText groups ++ [']']

/-- A character that no host holds. -/
def isForbidden (c : Char) : Bool :=
  c.toNat = 0 || ['\t', '\n', '\r', ' ', '#', '/', ':', '<', '>', '?', '@', '[', '\\', ']', '^', '|'].contains c

/-- A character that no domain name holds. -/
def isForbiddenInDomain (c : Char) : Bool :=
  c.toNat < 0x20 || c.toNat = 0x7F || c == '%' || isForbidden c

def isDot (c : Char) : Bool :=
  c == '.' || c.toNat = 0x3002 || c.toNat = 0xFF0E || c.toNat = 0xFF61

/-- A label in ASCII. -/
def asciiLabel (label : List Char) : List Char :=
  if label.all (·.toNat < 128) then label else "xn--".toList ++ Punycode.encode label

/-- A domain name in ASCII. -/
def asciiDomain (cs : List Char) : List Char :=
  List.intercalate ['.'] ((Text.pieces isDot (cs.map Text.lowerChar)).map asciiLabel)

def bracketed? (cs : List Char) : Option Host :=
  if cs.getLast? == some ']' then (Address.eight? (cs.drop 1).dropLast).map .eight else none

def ofDomain? (cs : List Char) : Option Host :=
  if cs.head? == some '[' then bracketed? cs
  else do
    let text ← String.fromUTF8? ⟨(Percent.decode cs).toArray⟩
    let domain := asciiDomain text.toList
    if domain.isEmpty || domain.any isForbiddenInDomain then none
    else if Address.endsInNumber domain then (Address.four? domain).map .four
    else return .name domain

/-- A host under any other scheme. -/
def ofText? (cs : List Char) : Option Host :=
  if cs.head? == some '[' then bracketed? cs
  else if cs.any isForbidden then none
  else some (.name (Percent.encode Percent.Reserved.controls cs))

end Host

end AnomalyWatch
