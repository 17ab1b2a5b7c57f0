import AnomalyWatch.Document.AnomalyRecord
import AnomalyWatch.Error

/-!
Replies of the metric service.

A reply holds, for each combination of dimension values, the values of all metrics by bucket. Keys and bucket times
are texts: a key is a JSON array of texts, a time is a number of milliseconds. Only the first metric of a bucket
counts. Keys are read in the order of the reply and the times of a key in the order of their texts, and the first that
cannot be read is the failure of the whole reply.
-/

set_option autoImplicit false
set_option relaxedAutoImplicit false

namespace AnomalyWatch

/-- The values of a bucket by the text of its time. -/
abbrev RawBuckets : Type := SortedMap String (List Float)

/-- A reply as it is written. -/
structure MetricReply where
  dimensions : List String
  metrics : List String
  /-- The buckets of each key by its text. -/
  data : ArrivalMap String RawBuckets

namespace MetricReply

/-- The field names in their order. -/
def fieldNames : List String := ["dimensions", "metrics", "data"]

def values? (j : Json) : Option (List Float) := do
  (← j.items?).mapM Json.float?

/-- The buckets of one key; of two with one text the later counts. -/
def buckets? (j : Json) : Option RawBuckets := do
  let entries ← (← j.entries?).mapM fun e => (values? e.2).map fun v => (e.1, v)
  return SortedMap.ofList entries

/-- The buckets of all keys; of two with one text the later counts, in the place of the earlier. -/
def data? (j : Json) : Option (ArrivalMap String RawBuckets) := do
  let entries ← (← j.entries?).mapM fun e => (buckets? e.2).map fun b => (e.1, b)
  return ArrivalMap.ofList entries

/-- The reply a JSON value describes; every part may be missing. -/
def ofJson? (j : Json) : Option MetricReply := do
  let field ← Json.format.record? fieldNames j
  let dimensions ← Format.default? [] Json.texts? (field "dimensions")
  let metrics ← Format.default? [] Json.texts? (field "metrics")
  let data ← Format.default? ArrivalMap.empty data? (field "data")
  return ⟨dimensions, metrics, data⟩

def parse? (text : String) : Option MetricReply :=
  (Json.parse? text).bind ofJson?

def readKey (raw : String) : Except Error DimensionKey :=
  match (Json.parse? raw).bind DimensionKey.ofJson? with
  | some key => .ok key
  | none => .error (.malformedKey raw "not an array of texts")

/-- The start of the bucket whose time is a text. -/
def readTime (raw : String) : Except Error Instant :=
  match Text.signedWord? raw.toList with
  | none => .error (.malformedBucketTime raw)
  | some millis =>
    match Instant.ofMillis? millis with
    | none => .error (.bucketTimeOutOfRange millis)
    | some time => .ok time

/-- Put a bucket into a series; one without values leaves the series as it is. -/
def addBucket (s : Series) (bucket : String × List Float) : Except Error Series := do
  let time ← readTime bucket.1
  match bucket.2 with
  | value :: _ => return s.insert time value
  | [] => return s

def readSeries (buckets : RawBuckets) : Except Error Series :=
  buckets.entries.foldlM addBucket ∅

/-- Put a series under its key; one that stands under an equal key is replaced. -/
def addKey (m : SeriesMap) (entry : String × RawBuckets) : Except Error SeriesMap := do
  let key ← readKey entry.1
  let series ← readSeries entry.2
  return m.insert key series

def series (r : MetricReply) : Except Error SeriesMap :=
  r.data.entries.foldlM addKey ∅

end MetricReply

end AnomalyWatch
