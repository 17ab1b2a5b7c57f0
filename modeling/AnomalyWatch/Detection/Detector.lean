import AnomalyWatch.Anomaly
import AnomalyWatch.Window

/-!
Detection functions.

A detector judges one series at a time: given the dimension key, the buckets, the window and the anomalies
already known, it reports unstamped anomalies or fails.
-/

set_option autoImplicit false
set_option relaxedAutoImplicit false

namespace AnomalyWatch

/-- A detection function with the spec it was built from. -/
structure Detector where
  spec : Spec
  analyze : DimensionKey → Series → Window → List Anomaly → Except Error (List Anomaly)

end AnomalyWatch
