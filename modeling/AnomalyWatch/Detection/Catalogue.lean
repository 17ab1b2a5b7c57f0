import AnomalyWatch.Detection.Threshold
import AnomalyWatch.Text.Uppercase

/-!
The kinds of detector that specs can name. Tags are compared in upper case.
-/

set_option autoImplicit false
set_option relaxedAutoImplicit false

namespace AnomalyWatch

/-- The constructors of detectors, each under its tag in upper case. -/
structure Catalogue where
  builders : SortedMap String (Spec → Except Error Detector)

namespace Catalogue

def empty : Catalogue := ⟨∅⟩

/-- Add a kind of detector, or replace the kind that has the tag. -/
def register (c : Catalogue) (tag : String) (builder : Spec → Except Error Detector) : Catalogue :=
  ⟨c.builders.insert (Text.upper tag) builder⟩

/-- The kinds that are built in. -/
def standard : Catalogue :=
  empty.register Threshold.tag Threshold.ofSpec

def build (c : Catalogue) (spec : Spec) : Except Error Detector :=
  match c.builders.get? (Text.upper spec.functionType) with
  | some builder => builder spec
  | none => .error (.unknownType spec.functionType spec.id)

/-- The tags of every kind, ascending. -/
def tags (c : Catalogue) : List String := c.builders.keys

end Catalogue

end AnomalyWatch
