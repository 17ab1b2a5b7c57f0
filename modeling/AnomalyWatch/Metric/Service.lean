import AnomalyWatch.Metric.Reply
import AnomalyWatch.Metric.Status
import AnomalyWatch.Request
import AnomalyWatch.Url.Parser

/-!
The metric service behind an address.

A query is the address of the service with two more path segments, `query` and the query text. What comes back is a
failure of the exchange, or a status with a body, and only a body under a success status is read as a reply.
-/

set_option autoImplicit false
set_option relaxedAutoImplicit false

namespace AnomalyWatch

/-- What became of a request that was sent. -/
inductive Exchange
  | failed (reason : String)
  /-- An answer; a body that could not be received whole is missing. -/
  | answered (status : Nat) (body : Option String)

namespace Exchange

/-- An answer that was received; a status without content makes its body empty. -/
def received (status : Nat) (body : Option String) : Exchange :=
  .answered status (if Status.isBodiless status then some "" else body)

def read : Exchange → Except Error SeriesMap
  | .failed reason => .error (.requestFailed reason)
  | .answered status body =>
    if Status.isSuccess status then
      match body.bind MetricReply.parse? with
      | some reply => reply.series
      | none => .error (.malformedResponse "not a metric reply")
    else .error (.serviceStatus (Status.text status) (body.getD "<unreadable body>"))

end Exchange

namespace Url

/-- The address with one more path segment, in the place of a lone empty one. -/
def push (u : Url) (text : List Char) : Url :=
  match u.path with
  | .segments [[]] => { u with path := .segments [u.segment text] }
  | .segments list => { u with path := .segments (list ++ [u.segment text]) }
  | .whole _ => u

/-- The address without an empty segment at the end of its path; a lone one stays. -/
def popEmpty (u : Url) : Url :=
  match u.path with
  | .segments (first :: next :: rest) =>
    { u with path := .segments (UrlPath.withoutEmptyEnd (first :: next :: rest)) }
  | _ => u

end Url

/-- The metric service under an address that path segments can be appended to. -/
structure MetricService where
  base : Url
  /-- How many seconds a request may take. -/
  timeout : Nat

namespace MetricService

def locate (address : String) (timeout : Nat) : Except Error MetricService :=
  match Url.parse? address with
  | none => .error (.invalidServiceUrl address "not an absolute address")
  | some url => if url.isBaseless then .error (.baselessServiceUrl url.text) else .ok ⟨url, timeout⟩

def queryUrl (s : MetricService) (r : Request) : Url :=
  (s.base.popEmpty.push "query".toList).push r.query.toList

/-- Ask the service by sending a request. -/
def ask {m : Type → Type} [Monad m] (s : MetricService) (send : Url → m Exchange) (r : Request) :
    m (Except Error SeriesMap) := do
  return (← send (s.queryUrl r)).read

end MetricService

end AnomalyWatch
