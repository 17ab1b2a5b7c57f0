import AnomalyWatch.Decimal.Layout
import AnomalyWatch.Series
import AnomalyWatch.Text.Quoted
import AnomalyWatch.Time.Stamp
import AnomalyWatch.Time.Unit

/-!
What can go wrong, by cause. `Error.kind` sorts the causes into the kinds a caller reacts to,
`Error.detail` words each cause and `Error.message` is the full text with the kind in front.
-/

set_option autoImplicit false
set_option relaxedAutoImplicit false

namespace AnomalyWatch

/-- The kinds of failure. -/
inductive ErrorKind
  | notFound | validation | conflict | query | analysis | persistence | scheduler | io | serialization
  deriving DecidableEq, Repr

namespace ErrorKind

def label : ErrorKind → String
  | notFound => "Not found"
  | validation => "Validation error"
  | conflict => "Conflict"
  | query => "Query error"
  | analysis => "Analysis error"
  | persistence => "Persistence error"
  | scheduler => "Scheduler error"
  | io => "IO error"
  | serialization => "Serialization error"

end ErrorKind

/-- A failure by its cause. -/
inductive Error
  /-- No spec has this id. -/
  | unknownFunction (id : Nat)
  /-- The function has no recurring job. -/
  | notScheduled (id : Nat)
  /-- The scheduler has no trigger with this key. -/
  | unknownTrigger (key : String)
  | invalidInstant (text : String)
  /-- A window that does not start before it ends. -/
  | unorderedWindow (start stop : Instant)
  | delayOutOfRange (id : Nat)
  | sizeOutOfRange (id : Nat)
  | zeroBucket (id : Nat)
  | noMetric (id : Nat)
  | noCollection (id : Nat)
  | unknownType (functionType : String) (id : Nat)
  /-- A threshold without a bound. -/
  | unboundedBand (id : Nat)
  | nonNumericBound (id : Nat) (name raw : String)
  | invertedBand (id : Nat) (low high : Float)
  | invalidCron (expression : String)
  | invalidServiceUrl (url reason : String)
  /-- A service address that has no path to append to. -/
  | baselessServiceUrl (url : String)
  | alreadyScheduled (id : Nat) (key : String)
  | triggerExists (key : String)
  | requestFailed (reason : String)
  | serviceStatus (status body : String)
  | malformedResponse (reason : String)
  | malformedKey (raw reason : String)
  | malformedBucketTime (raw : String)
  | bucketTimeOutOfRange (millis : Int)
  | notFinite (value : Float) (time : Instant) (key : DimensionKey)
  | bucketOverflow (size : Nat) (unit : TimeUnit) (time : Instant) (key : DimensionKey)
  /-- A call on a transaction that was committed or rolled back before. -/
  | transactionFinished
  /-- Another failure while results were read or written. -/
  | storeFailure (cause : Error)
  | inputOutput (reason : String)
  | malformedRow (path : String) (line : Nat) (reason : String)
  | malformedSpec (path reason : String)
  | noRuntime (reason : String)
  /-- A failure that a component outside this library reports in its own words. -/
  | reported (kind : ErrorKind) (text : String)

namespace Error

def kind : Error → ErrorKind
  | unknownFunction _ | notScheduled _ | unknownTrigger _ => .notFound
  | invalidInstant _ | unorderedWindow _ _ | delayOutOfRange _ | sizeOutOfRange _ | zeroBucket _
  | noMetric _ | noCollection _ | unknownType _ _ | unboundedBand _ | nonNumericBound _ _ _
  | invertedBand _ _ _ | invalidCron _ | invalidServiceUrl _ _ | baselessServiceUrl _ => .validation
  | alreadyScheduled _ _ | triggerExists _ => .conflict
  | requestFailed _ | serviceStatus _ _ | malformedResponse _ | malformedKey _ _
  | malformedBucketTime _ | bucketTimeOutOfRange _ => .query
  | notFinite _ _ _ | bucketOverflow _ _ _ _ => .analysis
  | transactionFinished | storeFailure _ => .persistence
  | inputOutput _ => .io
  | malformedRow _ _ _ | malformedSpec _ _ => .serialization
  | noRuntime _ => .scheduler
  | reported kind _ => kind

def detail : Error → String
  | unknownFunction id => "anomaly function " ++ toString id
  | notScheduled id => "no scheduled job for function " ++ toString id
  | unknownTrigger key => "no scheduled job " ++ key
  | invalidInstant text => "invalid ISO-8601 timestamp: " ++ Text.quoted text
  | unorderedWindow start stop =>
    "window start " ++ start.text ++ " is not before end " ++ stop.text
  | delayOutOfRange id => "window delay of function " ++ toString id ++ " out of range"
  | sizeOutOfRange id => "window size of function " ++ toString id ++ " out of range"
  | zeroBucket id => "function " ++ toString id ++ " has zero bucket size"
  | noMetric id => "function " ++ toString id ++ " has no metric"
  | noCollection id => "function " ++ toString id ++ " has no collection"
  | unknownType functionType id =>
    "unknown anomaly function type '" ++ functionType ++ "' for function " ++ toString id
  | unboundedBand id =>
    "threshold function " ++ toString id ++ " needs a 'min' or 'max' property"
  | nonNumericBound id name raw =>
    "threshold function " ++ toString id ++ " has non-numeric '" ++ name ++ "': " ++ Text.quoted raw
  | invertedBand id low high =>
    "threshold function " ++ toString id ++ " has min " ++ Decimal.plain low ++ " above max " ++
      Decimal.plain high
  | invalidCron expression =>
    "invalid cron expression " ++ Text.quoted expression ++
      ": Invalid expression: Invalid cron expression."
  | invalidServiceUrl url reason =>
    "invalid metric service url " ++ Text.quoted url ++ ": " ++ reason
  | baselessServiceUrl url => "metric service url " ++ url ++ " cannot be a base"
  | alreadyScheduled id key =>
    "function " ++ toString id ++ " is already scheduled as " ++ key
  | triggerExists key => "job " ++ key ++ " is already scheduled"
  | requestFailed reason => "request failed: " ++ reason
  | serviceStatus status body => "metric service returned " ++ status ++ ": " ++ body
  | malformedResponse reason => "malformed query response: " ++ reason
  | malformedKey raw reason => "malformed dimension key " ++ Text.quoted raw ++ ": " ++ reason
  | malformedBucketTime raw => "malformed bucket time " ++ Text.quoted raw
  | bucketTimeOutOfRange millis => "bucket time " ++ toString millis ++ " out of range"
  | notFinite value time key =>
    "non-finite value " ++ Decimal.plain value ++ " at " ++ time.text ++ " for " ++ key.text
  | bucketOverflow size unit time key =>
    "bucket of " ++ toString size ++ " " ++ unit.name ++ " starting " ++ time.text ++
      " overflows for " ++ key.text
  | transactionFinished => "transaction already finished"
  | storeFailure cause => cause.kind.label ++ ": " ++ cause.detail
  | inputOutput reason => reason
  | malformedRow path line reason => path ++ ":" ++ toString line ++ ": " ++ reason
  | malformedSpec path reason => path ++ ": " ++ reason
  | noRuntime reason => "no tokio runtime: " ++ reason
  | reported _ text => text

def message (e : Error) : String :=
  e.kind.label ++ ": " ++ e.detail

/-- How a failure of a result store reaches the caller of a pass: as a persistence error, worded by its
cause unless it is one already. -/
def asStoreFailure (e : Error) : Error :=
  if e.kind = .persistence then e else .storeFailure e

end Error

end AnomalyWatch
