import AnomalyWatch.Collection.Sorted
import AnomalyWatch.Text.Blank
import AnomalyWatch.Time.Unit

/-!
The stored configuration of one detection function: which metric it watches, when it runs, over which
window and at which granularity.
-/

set_option autoImplicit false
set_option relaxedAutoImplicit false

namespace AnomalyWatch

/-- Free-form settings, sorted by name. -/
abbrev Properties : Type := SortedMap String String

/-- The configuration of one detection function. -/
structure Spec where
  id : Nat
  /-- The tag that selects the detection function, in any case. -/
  functionType : String
  metric : String
  collection : String
  /-- A cron expression of five to seven fields. -/
  cron : String
  windowSize : Nat
  windowUnit : TimeUnit
  /-- How far the end of a window lies behind the present. -/
  windowDelay : Option Nat
  /-- The unit of the delay; the window's unit where it is absent. -/
  windowDelayUnit : Option TimeUnit
  bucketSize : Nat
  bucketUnit : TimeUnit
  /-- Comma-separated dimension names to break the metric out by. -/
  exploreDimensions : Option String
  properties : Properties
  isActive : Bool
  deriving DecidableEq

namespace Spec

/-- The dimension names in the order they are declared; blank entries do not count. -/
def dimensionNames (s : Spec) : List String :=
  match s.exploreDimensions with
  | some list => Text.commaList list
  | none => []

/-- The length of a window in milliseconds. -/
def windowDuration (s : Spec) : Nat :=
  s.windowUnit.duration s.windowSize

/-- The delay of a window in milliseconds, zero where none is configured. -/
def delayDuration (s : Spec) : Nat :=
  match s.windowDelay with
  | some delay => (s.windowDelayUnit.getD s.windowUnit).duration delay
  | none => 0

/-- The length of a bucket in milliseconds. -/
def bucketDuration (s : Spec) : Nat :=
  s.bucketUnit.duration s.bucketSize

def summary (s : Spec) : String :=
  s.functionType ++ "#" ++ toString s.id ++ " " ++ s.collection ++ ":" ++ s.metric ++ " cron='" ++
    s.cron ++ "' window=" ++ toString s.windowSize ++ " " ++ s.windowUnit.name

end Spec

end AnomalyWatch
