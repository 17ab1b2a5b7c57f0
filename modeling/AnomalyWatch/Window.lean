import AnomalyWatch.Error
import AnomalyWatch.Spec
import AnomalyWatch.Time.Reading

/-!
The detection window of one run: a half-open stretch of time.

The end defaults to the present less the delay and the start to the end less the window size; either can
be fixed by a bound.
-/

set_option autoImplicit false
set_option relaxedAutoImplicit false

namespace AnomalyWatch

/-- The stretch of time from `start` up to but not including `stop`. -/
structure Window where
  start : Instant
  stop : Instant
  deriving DecidableEq

namespace Window

/-- A window has to start before it ends. -/
def validate (w : Window) : Except Error Unit :=
  if w.start < w.stop then .ok () else .error (.unorderedWindow w.start w.stop)

def text (w : Window) : String :=
  "[" ++ w.start.text ++ ", " ++ w.stop.text ++ ")"

def covers (w : Window) (t : Instant) : Prop :=
  w.start ≤ t ∧ t < w.stop

instance (w : Window) (t : Instant) : Decidable (w.covers t) :=
  inferInstanceAs (Decidable (_ ∧ _))

end Window

/-- Read an instant, or report the text as it was given. -/
def readInstant (text : String) : Except Error Instant :=
  match Instant.read? text with
  | some t => .ok t
  | none => .error (.invalidInstant text)

def readBound : Option String → Except Error (Option Instant)
  | none => .ok none
  | some text => (readInstant text).map some

/-- Explicit bounds of a window; an absent bound is derived. -/
structure Bounds where
  start : Option Instant
  stop : Option Instant
  deriving DecidableEq

namespace Bounds

def none : Bounds := ⟨.none, .none⟩

/-- Read optional bounds, the start first. Their order is not checked. -/
def read (start stop : Option String) : Except Error Bounds := do
  let start ← readBound start
  let stop ← readBound stop
  return ⟨start, stop⟩

/-- Read optional bounds, which have to be in order when both are given. -/
def parse (start stop : Option String) : Except Error Bounds := do
  let bounds ← read start stop
  match bounds.start, bounds.stop with
  | some s, some e => Window.validate ⟨s, e⟩
  | _, _ => pure ()
  return bounds

end Bounds

namespace Window

/-- The end of a window: the bound, or the present less the delay. -/
def resolveStop (spec : Spec) (now : Instant) (bound : Option Instant) : Except Error Instant :=
  match bound with
  | some stop => .ok stop
  | none =>
    match now.shift? (-(spec.delayDuration : Int)) with
    | some stop => .ok stop
    | none => .error (.delayOutOfRange spec.id)

/-- The start of a window: the bound, or the end less the window size. -/
def resolveStart (spec : Spec) (stop : Instant) (bound : Option Instant) : Except Error Instant :=
  match bound with
  | some start => .ok start
  | none =>
    match stop.shift? (-(spec.windowDuration : Int)) with
    | some start => .ok start
    | none => .error (.sizeOutOfRange spec.id)

/-- The window of a function at an instant, honouring explicit bounds. It may be empty or inverted. -/
def resolve (spec : Spec) (now : Instant) (bounds : Bounds) : Except Error Window := do
  let stop ← resolveStop spec now bounds.stop
  let start ← resolveStart spec stop bounds.start
  return ⟨start, stop⟩

/-- The window of a function at an instant, with its bounds as text. -/
def compute (spec : Spec) (now : Instant) (start stop : Option String) : Except Error Window := do
  let bounds ← Bounds.read start stop
  resolve spec now bounds

end Window

end AnomalyWatch
