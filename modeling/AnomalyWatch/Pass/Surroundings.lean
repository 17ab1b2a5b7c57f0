import AnomalyWatch.Pass.Job
import AnomalyWatch.Timing.Histogram

/-!
Who answers a pass.

A site holds what passes share, the result store and the timings. The surroundings supply the rest in a monad of
their own: the clock, the metric service, the medium of the store, and a guard that may refuse a store call
before it reaches the store.
-/

set_option autoImplicit false
set_option relaxedAutoImplicit false

namespace AnomalyWatch

/-- What passes share. -/
structure Site where
  store : Store
  timings : Timings

/-- A site without rows and timings. -/
def Site.empty : Site := ⟨.empty, .empty⟩

/-- What is outside the program. -/
structure Surroundings (m : Type → Type) where
  now : m Instant
  query : Request → m (Except Error SeriesMap)
  /-- Keep rows; the store enters them only if this succeeds. -/
  append : List Anomaly → m (Except Error Unit)
  /-- Why a call must not reach the store, if there is a reason. -/
  guard : Store.Call → m (Option Error)
  /-- Take note of a visit and tell how many nanoseconds it took. -/
  observe : Visit → m Nat

namespace Surroundings

variable {m : Type → Type} [Monad m]

/-- Ask the store, unless the guard refuses. -/
def askStore (s : Surroundings m) (c : Store.Call) : StateT Site m (Store.Reply c) := fun site => do
  match ← s.guard c with
  | some e => return (.error e, site)
  | none =>
    let (reply, store) ← site.store.respond (← s.now) s.append c
    return (reply, { site with store })

/-- Take note of a visit; only finished analyses are timed. -/
def noteVisit (s : Surroundings m) (job : String) (visit : Visit) : StateT Site m Unit :=
  fun site => do
    let duration ← s.observe visit
    match visit with
    | .analyzed _ _ =>
      return ((), { site with timings := site.timings.record job duration (← s.now) })
    | _ => return ((), site)

def respond (s : Surroundings m) : (c : Pass.Call) → StateT Site m (Pass.Reply c)
  | .store c => s.askStore c
  | .query request => fun site => do return (← s.query request, site)
  | .timer job => fun site => pure ((), { site with timings := site.timings.opened job })
  | .visited job visit => s.noteVisit job visit

end Surroundings

end AnomalyWatch
