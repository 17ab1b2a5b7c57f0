import AnomalyWatch.Text.Octets

/-!
Names of files and directories.

A name is a row of bytes, which need not be a text. What is looked up in it as in a text, such as a dot in front or an
ending, is looked up only where there is a text.
-/

set_option autoImplicit false
set_option relaxedAutoImplicit false

namespace AnomalyWatch

/-- The name of an entry of a directory. -/
structure FileName where
  octets : List UInt8
  deriving DecidableEq

namespace FileName

def ofText (s : String) : FileName := ⟨Text.octets s⟩

/-- Names are in the order of their bytes. -/
instance : Ord FileName := ⟨fun a b => compare a.octets b.octets⟩

instance : LT FileName := ⟨fun a b => a.octets < b.octets⟩

instance : LE FileName := ⟨fun a b => a.octets ≤ b.octets⟩

instance : DecidableLE FileName := fun a b => inferInstanceAs (Decidable (a.octets ≤ b.octets))

def text? (name : FileName) : Option String :=
  Text.ofOctets? name.octets

def dot : UInt8 := 0x2E

/-- A name that is a text is hidden if it starts with a dot; any other is not. -/
def isHidden (name : FileName) : Bool :=
  match name.text? with
  | some text => text.toList.head? == some '.'
  | none => false

/-- What is behind the last dot, if that is a text and something is in front of the dot. -/
def ending? (name : FileName) : Option String :=
  match name.octets with
  | [] => none
  | _ :: rest =>
    if rest.contains dot then Text.ofOctets? (rest.reverse.takeWhile (· ≠ dot)).reverse
    else none

/-- A path as it is told to people. -/
def pathText (path : List FileName) : String :=
  "/".intercalate (path.map fun name => Text.shown name.octets)

end FileName

end AnomalyWatch
