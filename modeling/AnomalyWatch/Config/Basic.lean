import AnomalyWatch.Config.Environment
import AnomalyWatch.Json.Basic
import AnomalyWatch.Text.Uppercase

/-!
The configuration of a worker: where its specs are, whom it asks for metrics and where it keeps results.

Every setting comes from an environment variable, which a profile may override, or has a default.
-/

set_option autoImplicit false
set_option relaxedAutoImplicit false

namespace AnomalyWatch

/-- The configuration of a worker. -/
structure Config where
  /-- The profile in upper case; empty for none. -/
  profile : String
  specDirectory : String
  serviceUrl : String
  /-- How many seconds a request may take. -/
  timeout : Nat
  /-- The file results are kept in; without one they are kept in memory. -/
  journalPath : Option String
  deriving DecidableEq

namespace Config

def forProfile (e : Environment) (profile : String) : Config :=
  let profile := Text.upper profile
  let setting := e.setting? profile
  { profile
    specDirectory := (setting "VIGIL_SPECS_DIR").getD "data/functions"
    serviceUrl := (setting "VIGIL_METRIC_URL").getD "http://localhost:1426"
    timeout :=
      ((setting "VIGIL_QUERY_TIMEOUT_SECS").bind fun text => Text.word? text.toList).getD 30
    journalPath := setting "VIGIL_RESULTS_PATH" }

/-- The configuration of the profile that the environment names. -/
def ofEnvironment (e : Environment) : Config :=
  forProfile e ((e.nonEmpty? "VIGIL_PROFILE").getD "")

/-- The profile as it is shown. -/
def label (c : Config) : String :=
  if c.profile.isEmpty then "default" else c.profile

def toJson (c : Config) : Json :=
  .object [
    ("profile", .ofString c.profile),
    ("functions", .object [("specs_dir", .ofString c.specDirectory)]),
    ("metrics", .object [("url", .ofString c.serviceUrl), ("timeout_secs", .ofNat c.timeout)]),
    ("results", .object [("journal_path", .ofOption .ofString c.journalPath)])]

end Config

end AnomalyWatch
