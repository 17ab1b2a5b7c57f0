import AnomalyWatch.Scheduler.Round

/-!
A watch for rehearsals of triggers: time passes only while someone sleeps.
-/

set_option autoImplicit false
set_option relaxedAutoImplicit false

namespace AnomalyWatch

/-- When it started, how many nanoseconds have passed since, and after how many something fired. -/
structure Watch where
  start : Instant
  elapsed : Nat
  fired : List Nat

namespace Watch

def now (w : Watch) : WallTime :=
  (WallTime.ofNanos? (w.start.seconds * Instant.second + w.start.nanos + w.elapsed)).getD default

def answers : (c : Schedule.Call) → StateM Watch (Schedule.Reply c)
  | .now => fun w => (w.now, w)
  | .sleep d => fun w => ((), { w with elapsed := w.elapsed + d })
  | .fire _ => fun w => ((), { w with fired := w.fired ++ [w.elapsed] })

/-- Watch one round of a schedule from an instant on. -/
def afterRound (s : Schedule) (start : Instant) : Watch :=
  (((s.round).run answers).run ⟨start, 0, []⟩).2

end Watch

end AnomalyWatch
