import AnomalyWatch.Anomaly
import AnomalyWatch.Document.SpecRecord
import AnomalyWatch.Request
import AnomalyWatch.Time.Reading
import AnomalyWatch.Time.Stamp

/-!
Anomalies and requests in JSON documents.
-/

set_option autoImplicit false
set_option relaxedAutoImplicit false

namespace AnomalyWatch

def Instant.toJson (t : Instant) : Json := .ofString t.zuluText

/-- An instant in a document, with the leniency of `Instant.readLenient?`. -/
def Instant.ofJson? (j : Json) : Option Instant :=
  j.text?.bind Instant.readLenient?

def DimensionKey.toJson (k : DimensionKey) : Json :=
  .array (k.values.map .ofString)

def DimensionKey.ofJson? (j : Json) : Option DimensionKey :=
  j.texts?.map DimensionKey.mk

namespace Anomaly

/-- The field names in their order. -/
def fieldNames : List String :=
  ["id", "function_id", "function_type", "function_properties", "collection", "metric",
    "dimensions", "start_time", "end_time", "score", "weight", "properties", "created_at"]

def toJson (a : Anomaly) : Json :=
  .object [
    ("id", .ofOption .ofNat a.id),
    ("function_id", .ofOption .ofNat a.functionId),
    ("function_type", .ofOption .ofString a.functionType),
    ("function_properties", Spec.propertiesJson a.functionProperties),
    ("collection", .ofString a.collection),
    ("metric", .ofString a.metric),
    ("dimensions", a.dimensions.toJson),
    ("start_time", a.start.toJson),
    ("end_time", a.stop.toJson),
    ("score", .ofFloat a.score),
    ("weight", .ofFloat a.weight),
    ("properties", .ofOption .ofString a.properties),
    ("created_at", .ofOption Instant.toJson a.createdAt)]

def ofJson? (j : Json) : Option Anomaly := do
  let f := Json.format
  let field ← f.record? fieldNames j
  let id ← f.optional? f.word? (field "id")
  let functionId ← f.optional? f.word? (field "function_id")
  let functionType ← f.optional? f.text? (field "function_type")
  let functionProperties ← Format.default? SortedMap.empty f.textMap? (field "function_properties")
  let collection ← (field "collection").bind f.text?
  let metric ← (field "metric").bind f.text?
  let dimensions ← (field "dimensions").bind DimensionKey.ofJson?
  let start ← (field "start_time").bind Instant.ofJson?
  let stop ← (field "end_time").bind Instant.ofJson?
  let score ← (field "score").bind Json.float?
  let weight ← (field "weight").bind Json.float?
  let properties ← f.optional? f.text? (field "properties")
  let createdAt ← f.optional? Instant.ofJson? (field "created_at")
  return {
    id, functionId, functionType, functionProperties, collection, metric, dimensions, start, stop,
    score, weight, properties, createdAt }

end Anomaly

def Request.toJson (r : Request) : Json :=
  .object [
    ("collection", .ofString r.collection),
    ("metric_function", .ofString r.aggregation),
    ("start", r.start.toJson),
    ("end", r.stop.toJson),
    ("group_by", .ofOption .ofString r.groupBy)]

def Window.toJson (w : Window) : Json :=
  .object [("start", w.start.toJson), ("end", w.stop.toJson)]

end AnomalyWatch
