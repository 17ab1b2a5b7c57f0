import AnomalyWatch.Document.AnomalyRecord
import AnomalyWatch.Pass.Job

/-!
The report of a pass in JSON documents.
-/

set_option autoImplicit false
set_option relaxedAutoImplicit false

namespace AnomalyWatch

def Tally.toJson (t : Tally) : Json :=
  .object [
    ("requests_processed", .ofNat t.requestsProcessed),
    ("requests_failed", .ofNat t.requestsFailed),
    ("keys_analyzed", .ofNat t.keysAnalyzed),
    ("keys_skipped", .ofNat t.keysSkipped),
    ("keys_failed", .ofNat t.keysFailed),
    ("anomalies_found", .ofNat t.anomaliesFound),
    ("anomalies_known", .ofNat t.anomaliesKnown)]

/-- A report as a JSON value, with the milliseconds that the pass took. -/
def Summary.toJson (s : Summary) (elapsed : Nat) : Json :=
  .object [
    ("job_name", .ofString s.jobName),
    ("function_id", .ofNat s.functionId),
    ("window", s.window.toJson),
    ("requests", .ofNat s.requests),
    ("known_anomalies", .ofNat s.knownAnomalies),
    ("persisted", .ofNat s.persisted),
    ("stats", s.tally.toJson),
    ("elapsed_ms", .ofNat elapsed)]

end AnomalyWatch
