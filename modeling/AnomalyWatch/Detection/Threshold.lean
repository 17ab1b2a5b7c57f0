import AnomalyWatch.Decimal.Reading
import AnomalyWatch.Detection.Detector

/-!
The threshold detector: every bucket whose value lies outside a fixed band is an anomaly of one bucket.

The band comes from the settings `min` and `max`, of which one may be missing. The score is the deviation
from the violated bound, relative to that bound unless it is zero.
-/

set_option autoImplicit false
set_option relaxedAutoImplicit false

namespace AnomalyWatch

/-- The values a metric may take, both ends included; a missing end does not bound it. -/
structure Band where
  low : Option Float
  high : Option Float

namespace Band

def readEnd (spec : Spec) (name : String) : Except Error (Option Float) :=
  match spec.properties.get? name with
  | none => .ok none
  | some raw =>
    match Decimal.read? (Text.trim raw) with
    | some x => .ok (some x)
    | none => .error (.nonNumericBound spec.id name raw)

/-- The band of a spec: at least one end is given, and the ends do not cross. -/
def ofSpec (spec : Spec) : Except Error Band := do
  let low ← readEnd spec "min"
  let high ← readEnd spec "max"
  match low, high with
  | none, none => throw (.unboundedBand spec.id)
  | some lo, some hi => if lo > hi then throw (.invertedBand spec.id lo hi) else return ⟨low, high⟩
  | _, _ => return ⟨low, high⟩

/-- The low end, if the value lies below it. -/
def lowViolated? (b : Band) (value : Float) : Option Float :=
  b.low.filter (value < ·)

/-- The high end, if the value lies above it. -/
def highViolated? (b : Band) (value : Float) : Option Float :=
  b.high.filter (value > ·)

def violated? (b : Band) (value : Float) : Option Float :=
  b.lowViolated? value <|> b.highViolated? value

end Band

namespace Threshold

def tag : String := "THRESHOLD"

/-- How far a value lies beyond a bound, relative to the bound unless it is zero. -/
def score (value bound : Float) : Float :=
  let deviation := (value - bound).abs
  if bound == 0 then deviation else deviation / bound.abs

def anomaly (spec : Spec) (key : DimensionKey) (start stop : Instant) (value bound : Float) : Anomaly :=
  { Anomaly.unstamped key start stop (score value bound) with
    metric := spec.metric
    properties :=
      some ("value=" ++ Decimal.plain value ++ ";bound=" ++ Decimal.plain bound) }

/-- An anomaly of this key and this stretch of time is known, whatever function found it. -/
def isKnown (key : DimensionKey) (start stop : Instant) (known : List Anomaly) : Bool :=
  known.any fun k => k.dimensions = key && k.start = start && k.stop = stop

def judge (spec : Spec) (band : Band) (key : DimensionKey) (known : List Anomaly)
    (start : Instant) (value : Float) : Except Error (Option Anomaly) :=
  if !value.isFinite then .error (.notFinite value start key)
  else
    match band.violated? value with
    | none => .ok none
    | some bound =>
      match start.shift? spec.bucketDuration with
      | none => .error (.bucketOverflow spec.bucketSize spec.bucketUnit start key)
      | some stop =>
        .ok (if isKnown key start stop known then none
          else some (anomaly spec key start stop value bound))

/-- Judge the buckets inside the window in ascending order; the first failure ends the analysis. -/
def analyze (spec : Spec) (band : Band) (key : DimensionKey) (series : Series) (window : Window)
    (known : List Anomaly) : Except Error (List Anomaly) := do
  let inside := series.entries.filter fun e => window.covers e.1
  let verdicts ← inside.mapM fun e => judge spec band key known e.1 e.2
  return verdicts.filterMap id

def ofSpec (spec : Spec) : Except Error Detector := do
  let band ← Band.ofSpec spec
  return ⟨spec, analyze spec band⟩

end Threshold

end AnomalyWatch
