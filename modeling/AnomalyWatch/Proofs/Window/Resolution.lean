import AnomalyWatch.Proofs.Detection.Judgement
import AnomalyWatch.Window

/-!
Which window a spec, the present and the bounds determine.

Sizes and delays are cut off only far beyond the calendar, so a window is the same with the cut as without.
-/

set_option autoImplicit false
set_option relaxedAutoImplicit false

namespace AnomalyWatch

namespace Instant

theorem shift?_neg_eq_none_of_longest {t : Instant} {millis : Nat} (long : TimeUnit.longestDuration ≤ millis) :
    t.shift? (-(millis : Int)) = none := by
  refine Option.eq_none_iff_forall_ne_some.mpr fun u shifted => ?_
  have short := le_seconds_of_shift? shifted
  have latest : t.seconds ≤ 10000000000000 := Int.le_trans t.admissible.2.1 (by decide)
  have earliest : -10000000000000 ≤ u.seconds := Int.le_trans (by decide) u.admissible.1
  have whole : (-(millis : Int)).tdiv 1000 = -((millis : Int) / 1000) := by
    rw [Int.neg_tdiv, Int.tdiv_eq_ediv_of_nonneg (Int.natCast_nonneg millis)]
  simp only [TimeUnit.longestDuration] at long
  omega

theorem shift?_neg_duration (t : Instant) (u : TimeUnit) (amount : Nat) :
    t.shift? (-(u.duration amount : Int)) = t.shift? (-((amount * u.millisPerUnit : Nat) : Int)) := by
  by_cases short : amount * u.millisPerUnit ≤ TimeUnit.longestDuration
  · rw [u.duration_of_le short]
  · rw [shift?_neg_eq_none_of_longest (Nat.le_of_eq (u.duration_of_gt (Nat.lt_of_not_le short)).symm),
      shift?_neg_eq_none_of_longest (Nat.le_of_not_le short)]

end Instant

namespace Spec

def windowLength (s : Spec) : Nat :=
  s.windowSize * s.windowUnit.millisPerUnit

def delayLength (s : Spec) : Nat :=
  match s.windowDelay with
  | some delay => delay * (s.windowDelayUnit.getD s.windowUnit).millisPerUnit
  | none => 0

end Spec

namespace Window

/-- The instant is the bound where there is one, and otherwise it lies so many milliseconds before another. -/
def Reaches (bound : Option Instant) (origin : Instant) (millis : Nat) (t : Instant) : Prop :=
  match bound with
  | some b => t = b
  | none => origin.shift? (-(millis : Int)) = some t

/-- The window ends at its bound or so long before the present as the delay says, and starts at its bound or so long
before its end as the size says. -/
structure Resolves (spec : Spec) (now : Instant) (bounds : Bounds) (w : Window) : Prop where
  stop : Reaches bounds.stop now spec.delayLength w.stop
  start : Reaches bounds.start w.stop spec.windowLength w.start

variable {spec : Spec} {now stop t : Instant} {bound : Option Instant} {bounds : Bounds} {w : Window} {e : Error}

theorem shift?_delayDuration (spec : Spec) (now : Instant) :
    now.shift? (-(spec.delayDuration : Int)) = now.shift? (-(spec.delayLength : Int)) := by
  unfold Spec.delayDuration Spec.delayLength
  cases spec.windowDelay with
  | none => rfl
  | some delay => exact now.shift?_neg_duration _ delay

theorem resolveStop_eq_ok_iff : resolveStop spec now bound = .ok t ↔ Reaches bound now spec.delayLength t := by
  unfold resolveStop Reaches
  cases bound with
  | some b => simp [eq_comm]
  | none =>
    rw [← shift?_delayDuration]
    cases now.shift? (-(spec.delayDuration : Int)) <;> simp

private theorem resolveStart_eq_ok_iff :
    resolveStart spec stop bound = .ok t ↔ Reaches bound stop spec.windowLength t := by
  unfold resolveStart Reaches
  cases bound with
  | some b => simp [eq_comm]
  | none =>
    rw [Spec.windowLength, ← Instant.shift?_neg_duration, ← Spec.windowDuration]
    cases stop.shift? (-(spec.windowDuration : Int)) <;> simp

private theorem kind_of_resolveStop (failed : resolveStop spec now bound = .error e) : e.kind = .validation := by
  unfold resolveStop at failed
  cases bound with
  | some b => cases failed
  | none =>
    cases shifted : now.shift? (-(spec.delayDuration : Int)) with
    | some stop => simp [shifted] at failed
    | none =>
      obtain rfl : Error.delayOutOfRange spec.id = e := by simpa [shifted] using failed
      rfl

private theorem kind_of_resolveStart (failed : resolveStart spec stop bound = .error e) : e.kind = .validation := by
  unfold resolveStart at failed
  cases bound with
  | some b => cases failed
  | none =>
    cases shifted : stop.shift? (-(spec.windowDuration : Int)) with
    | some start => simp [shifted] at failed
    | none =>
      obtain rfl : Error.sizeOutOfRange spec.id = e := by simpa [shifted] using failed
      rfl

theorem resolve_eq_ok_iff : resolve spec now bounds = .ok w ↔ Resolves spec now bounds w := by
  constructor
  · intro resolved
    unfold resolve at resolved
    cases ends : resolveStop spec now bounds.stop with
    | error e => simp [ends, bind, Except.bind] at resolved
    | ok stop =>
      cases starts : resolveStart spec stop bounds.start with
      | error e => simp [ends, starts, bind, Except.bind] at resolved
      | ok start =>
        obtain rfl : (⟨start, stop⟩ : Window) = w := by
          simpa [ends, starts, bind, Except.bind, pure, Except.pure] using resolved
        exact ⟨resolveStop_eq_ok_iff.mp ends, resolveStart_eq_ok_iff.mp starts⟩
  · intro resolves
    simp [resolve, resolveStop_eq_ok_iff.mpr resolves.stop, resolveStart_eq_ok_iff.mpr resolves.start, bind,
      Except.bind, pure, Except.pure]

theorem kind_of_resolve (failed : resolve spec now bounds = .error e) : e.kind = .validation := by
  unfold resolve at failed
  cases ends : resolveStop spec now bounds.stop with
  | error e' =>
    obtain rfl : e' = e := by simpa [ends, bind, Except.bind] using failed
    exact kind_of_resolveStop ends
  | ok stop =>
    cases starts : resolveStart spec stop bounds.start with
    | error e' =>
      obtain rfl : e' = e := by simpa [ends, starts, bind, Except.bind] using failed
      exact kind_of_resolveStart starts
    | ok start => simp [ends, starts, bind, Except.bind, pure, Except.pure] at failed

end Window

end AnomalyWatch
