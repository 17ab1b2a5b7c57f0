import AnomalyWatch.Collection.Arrival
import AnomalyWatch.Collection.Sorted
import AnomalyWatch.Time.Instant

/-!
Metric observations: a value per time bucket, for each combination of dimension values.
-/

set_option autoImplicit false
set_option relaxedAutoImplicit false

namespace AnomalyWatch

/-- The ordered dimension values that name one slice of a collection. -/
structure DimensionKey where
  values : List String
  deriving DecidableEq, Inhabited

namespace DimensionKey

def text (k : DimensionKey) : String :=
  "[" ++ String.intercalate ", " k.values ++ "]"

/-- Keys order value by value, and values character by character. -/
instance : Ord DimensionKey := ⟨compareOn values⟩

instance : Std.TransOrd DimensionKey := inferInstanceAs (Std.TransCmp (compareOn values))

end DimensionKey

/-- The buckets of one metric for one dimension key, each under its start. -/
abbrev Series : Type := SortedMap Instant Float

/-- The series of one reply, in the order in which the source sent them. -/
abbrev SeriesMap : Type := ArrivalMap DimensionKey Series

end AnomalyWatch
