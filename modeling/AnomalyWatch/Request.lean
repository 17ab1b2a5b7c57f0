import AnomalyWatch.Window

/-!
Metric requests: the aggregation of a function, the requests of one run and the query text of each.
-/

set_option autoImplicit false
set_option relaxedAutoImplicit false

namespace AnomalyWatch

namespace Spec

/-- The aggregation a function asks for, such as `AGGREGATE_1_HOURS(pageViews)`. -/
def aggregation (s : Spec) : Except Error String :=
  if s.bucketSize = 0 then .error (.zeroBucket s.id)
  else
    let metric := Text.trim s.metric
    if metric.isEmpty then .error (.noMetric s.id)
    else
      .ok ("AGGREGATE_" ++ toString s.bucketSize ++ "_" ++ s.bucketUnit.name ++ "(" ++ metric ++ ")")

end Spec

/-- One metric query of a run. -/
structure Request where
  collection : String
  aggregation : String
  start : Instant
  stop : Instant
  /-- The dimension to break the aggregate out by. -/
  groupBy : Option String
  deriving DecidableEq

namespace Request

/-- The same request broken out by a dimension. -/
def groupedBy (r : Request) (dimension : String) : Request :=
  { r with groupBy := some dimension }

def text (r : Request) : String :=
  let grouping :=
    match r.groupBy with
    | some dimension => " group by " ++ dimension
    | none => ""
  r.aggregation ++ " from " ++ r.collection ++ " " ++ Window.text ⟨r.start, r.stop⟩ ++ grouping

/-- The query text the metric service understands. -/
def query (r : Request) : String :=
  let grouping :=
    match r.groupBy with
    | some dimension => " GROUP BY " ++ dimension
    | none => ""
  "SELECT " ++ r.aggregation ++ " FROM " ++ r.collection ++ " WHERE time BETWEEN '" ++
    r.start.text ++ "' AND '" ++ r.stop.text ++ "'" ++ grouping

def root (spec : Spec) (aggregation : String) (window : Window) : Request :=
  ⟨spec.collection, aggregation, window.start, window.stop, none⟩

/-- The requests of one run: the whole collection first, then one request for each declared dimension. -/
def plan (spec : Spec) (aggregation : String) (window : Window) : List Request :=
  let whole := root spec aggregation window
  whole :: spec.dimensionNames.map whole.groupedBy

end Request

end AnomalyWatch
