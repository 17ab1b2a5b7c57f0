import AnomalyWatch.Series
import AnomalyWatch.Spec

/-!
Anomalies: what a detection function reports about one slice and one stretch of time.

Two records describe the same anomaly when collection, dimension key, stretch of time and function agree;
score, weight and the rest do not count.
-/

set_option autoImplicit false
set_option relaxedAutoImplicit false

namespace AnomalyWatch

/-- An anomaly, stamped once it is known which function found it, stored once it has an id. -/
structure Anomaly where
  /-- Given by the result store on commit. -/
  id : Option Nat
  functionId : Option Nat
  functionType : Option String
  functionProperties : Properties
  collection : String
  metric : String
  dimensions : DimensionKey
  start : Instant
  stop : Instant
  score : Float
  weight : Float
  properties : Option String
  createdAt : Option Instant
  deriving Inhabited

namespace Anomaly

/-- What makes two records the same anomaly. -/
structure Identity where
  collection : String
  dimensions : DimensionKey
  start : Instant
  stop : Instant
  functionId : Option Nat
  deriving DecidableEq

def identity (a : Anomaly) : Identity :=
  ⟨a.collection, a.dimensions, a.start, a.stop, a.functionId⟩

/-- The records describe the same anomaly. -/
def same (a b : Anomaly) : Bool :=
  a.identity = b.identity

def isAmong (a : Anomaly) (known : List Anomaly) : Bool :=
  known.any a.same

/-- An anomaly that no function has stamped yet. -/
def unstamped (dimensions : DimensionKey) (start stop : Instant) (score : Float) : Anomaly where
  id := none
  functionId := none
  functionType := none
  functionProperties := ∅
  collection := ""
  metric := ""
  dimensions := dimensions
  start := start
  stop := stop
  score := score
  weight := 1
  properties := none
  createdAt := none

/-- Attach the identity of the function that found the anomaly. A metric that is already named stays. -/
def stamp (spec : Spec) (a : Anomaly) : Anomaly :=
  { a with
    functionId := some spec.id
    functionType := some spec.functionType
    functionProperties := spec.properties
    collection := spec.collection
    metric := if a.metric.isEmpty then spec.metric else a.metric }

end Anomaly

end AnomalyWatch
