import AnomalyWatch.Document.JsonFormat
import AnomalyWatch.Spec

/-!
Specs in documents. The field names and their order are the same in every notation.
-/

set_option autoImplicit false
set_option relaxedAutoImplicit false

namespace AnomalyWatch.Spec

/-- The field names in their order. -/
def fieldNames : List String :=
  ["id", "type", "metric", "collection", "cron", "window_size", "window_unit", "window_delay",
    "window_delay_unit", "bucket_size", "bucket_unit", "explore_dimensions", "properties",
    "is_active"]

/-- A unit by its name. -/
def unit? {ν : Type} (f : Format ν) (v : ν) : Option TimeUnit :=
  (f.choice? v).bind TimeUnit.ofName?

def ofDocument? {ν : Type} (f : Format ν) (v : ν) : Option Spec := do
  let field ← f.record? fieldNames v
  let id ← (field "id").bind f.word?
  let functionType ← (field "type").bind f.text?
  let metric ← (field "metric").bind f.text?
  let collection ← (field "collection").bind f.text?
  let cron ← (field "cron").bind f.text?
  let windowSize ← (field "window_size").bind f.word?
  let windowUnit ← (field "window_unit").bind (unit? f)
  let windowDelay ← f.optional? f.word? (field "window_delay")
  let windowDelayUnit ← f.optional? (unit? f) (field "window_delay_unit")
  let bucketSize ← (field "bucket_size").bind f.word?
  let bucketUnit ← (field "bucket_unit").bind (unit? f)
  let exploreDimensions ← f.optional? f.text? (field "explore_dimensions")
  let properties ← Format.default? SortedMap.empty f.textMap? (field "properties")
  let isActive ← Format.default? true f.flag? (field "is_active")
  return {
    id, functionType, metric, collection, cron, windowSize, windowUnit, windowDelay,
    windowDelayUnit, bucketSize, bucketUnit, exploreDimensions, properties, isActive }

def ofJsonText? (s : String) : Option Spec :=
  (Json.parse? s).bind (ofDocument? Json.format)

/-- Settings as an object, sorted by name. -/
def propertiesJson (p : Properties) : Json :=
  .object (p.entries.map fun e => (e.1, .ofString e.2))

/-- A unit by its name. -/
def unitJson (u : TimeUnit) : Json := .ofString u.name

def toJson (s : Spec) : Json :=
  .object [
    ("id", .ofNat s.id),
    ("type", .ofString s.functionType),
    ("metric", .ofString s.metric),
    ("collection", .ofString s.collection),
    ("cron", .ofString s.cron),
    ("window_size", .ofNat s.windowSize),
    ("window_unit", unitJson s.windowUnit),
    ("window_delay", .ofOption .ofNat s.windowDelay),
    ("window_delay_unit", .ofOption unitJson s.windowDelayUnit),
    ("bucket_size", .ofNat s.bucketSize),
    ("bucket_unit", unitJson s.bucketUnit),
    ("explore_dimensions", .ofOption .ofString s.exploreDimensions),
    ("properties", propertiesJson s.properties),
    ("is_active", .bool s.isActive)]

end AnomalyWatch.Spec
