import AnomalyWatch.Detection.Detector
import AnomalyWatch.Request

/-!
The exploration of one pass: every reply is analysed key by key, and what is neither known nor found
before in the same pass is kept.

What a key comes to depends on its series alone (`Exploration.examine`); the counters and the kept anomalies
follow from the keys in their order (`Outcome.record`). Failures of a query or of an analysis are counted and
change nothing else.
-/

set_option autoImplicit false
set_option relaxedAutoImplicit false

namespace AnomalyWatch

/-- The counters of one exploration. -/
structure Tally where
  requestsProcessed : Nat
  requestsFailed : Nat
  keysAnalyzed : Nat
  keysSkipped : Nat
  keysFailed : Nat
  anomaliesFound : Nat
  anomaliesKnown : Nat
  deriving DecidableEq, Repr

def Tally.zero : Tally := ⟨0, 0, 0, 0, 0, 0, 0⟩

/-- What one key of a reply comes to. -/
inductive Visit
  /-- Too few buckets to analyse. -/
  | skipped (key : DimensionKey) (buckets : Nat)
  | analyzed (key : DimensionKey) (found : List Anomaly)
  | failed (key : DimensionKey) (cause : Error)

/-- What an exploration analyses with. -/
structure Exploration where
  detector : Detector
  window : Window
  known : List Anomaly

/-- The kept anomalies, stamped, and the counters. -/
structure Outcome where
  results : List Anomaly
  tally : Tally

/-- The outcome before the first request. -/
def Outcome.initial : Outcome := ⟨[], .zero⟩

namespace Exploration

/-- A series with fewer buckets is not analysed. -/
def leastBuckets : Nat := 2

def examine (x : Exploration) (key : DimensionKey) (series : Series) : Visit :=
  if series.size < leastBuckets then .skipped key series.size
  else
    match x.detector.analyze key series x.window x.known with
    | .ok found => .analyzed key found
    | .error cause => .failed key cause

/-- The anomaly is neither known nor kept already. -/
def isFresh (x : Exploration) (kept : List Anomaly) (a : Anomaly) : Bool :=
  !a.isAmong x.known && !a.isAmong kept

/-- The stamped anomalies of one analysis that are fresh. -/
def fresh (x : Exploration) (kept found : List Anomaly) : List Anomaly :=
  (found.map (Anomaly.stamp x.detector.spec)).filter (x.isFresh kept)

def record (x : Exploration) (o : Outcome) : Visit → Outcome
  | .skipped _ _ => { o with tally := { o.tally with keysSkipped := o.tally.keysSkipped + 1 } }
  | .failed _ _ => { o with tally := { o.tally with keysFailed := o.tally.keysFailed + 1 } }
  | .analyzed _ found =>
    let survivors := x.fresh o.results found
    { results := o.results ++ survivors
      tally := { o.tally with
        keysAnalyzed := o.tally.keysAnalyzed + 1
        anomaliesFound := o.tally.anomaliesFound + found.length
        anomaliesKnown := o.tally.anomaliesKnown + (found.length - survivors.length) } }

/-- Account for a request before its reply arrives. -/
def begun (o : Outcome) : Outcome :=
  { o with tally := { o.tally with requestsProcessed := o.tally.requestsProcessed + 1 } }

def refused (o : Outcome) : Outcome :=
  { o with tally := { o.tally with requestsFailed := o.tally.requestsFailed + 1 } }

def absorb (x : Exploration) (o : Outcome) : Except Error SeriesMap → Outcome
  | .error _ => refused (begun o)
  | .ok reply => (reply.entries.map fun e => x.examine e.1 e.2).foldl x.record (begun o)

def outcome (x : Exploration) (replies : List (Except Error SeriesMap)) : Outcome :=
  replies.foldl x.absorb Outcome.initial

end Exploration

end AnomalyWatch
