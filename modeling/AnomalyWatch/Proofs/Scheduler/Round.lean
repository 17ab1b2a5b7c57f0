import AnomalyWatch.Proofs.Cron.Tick
import AnomalyWatch.Proofs.Dialogue.Trail
import AnomalyWatch.Scheduler.Round

/-!
The loop of a trigger fires every tick at most once.

A round fires the first tick after its look at the clock. When it is over the clock has reached that tick, however
early the first sleep ended, since the second sleep lasts for what was missing then. The next round therefore finds
a later tick. Ticks are left out only behind the clock: all those it has passed when a round looks are skipped.
-/

set_option autoImplicit false
set_option relaxedAutoImplicit false

namespace AnomalyWatch

open Dialogue (Course Trail course_bind course_call_bind course_pure trail_done)

private theorem Instant.le_of_nanosUntil_le {now later : WallTime} {tick : Instant} (whole : tick.nanos = 0)
    (forward : now.instant ≤ later.instant)
    (long : now.instant.nanosUntil tick ≤ now.instant.nanosUntil later.instant) : tick ≤ later.instant := by
  have nowShort : now.instant.nanos < 1000000000 := now.nanos_lt
  have laterShort : later.instant.nanos < 1000000000 := later.nanos_lt
  have order : ¬ (later.instant.seconds < now.instant.seconds ∨
    later.instant.seconds = now.instant.seconds ∧ later.instant.nanos < now.instant.nanos) := forward
  simp only [Instant.nanosUntil, Instant.second] at long
  rintro (before | ⟨same, before⟩) <;> omega

namespace Schedule

abbrev Log : Type := List ((c : Call) × Reply c)

def fired (log : Log) : List Instant :=
  log.filterMap fun
    | ⟨.fire tick, _⟩ => some tick
    | _ => none

def readings (log : Log) : List Instant :=
  log.filterMap fun
    | ⟨.now, reading⟩ => some reading.instant
    | _ => none

def looked? (round : Log) : Option Instant :=
  (readings round).head?

/-- The loop of a trigger: the rounds that fired, one after the other, and the round under way with what is left of
it to do. -/
inductive Run (s : Schedule) : List Log → Log → Step (Option Instant) → Prop
  | within {current : Log} {left : Step (Option Instant)} (trail : Trail s.round current left) :
      Run s [] current left
  | again {round : Log} {tick : Instant} {rounds : List Log} {current : Log} {left : Step (Option Instant)}
      (course : Course s.round round (some tick)) (go : Run s rounds current left) :
      Run s (round :: rounds) current left

/-- The wall clock never goes back, and a sleep after a firing lasts as long as was asked for. -/
structure Steady (log : Log) : Prop where
  forward : (readings log).Pairwise (· ≤ ·)
  lasting : ∀ tick now duration later,
    [⟨.fire tick, ()⟩, ⟨.now, now⟩, ⟨.sleep duration, ()⟩, ⟨.now, later⟩] <:+: log →
      duration ≤ now.instant.nanosUntil later.instant

section Round

instance : (c : Call) → Inhabited (Reply c)
  | .now => inferInstanceAs (Inhabited WallTime)
  | .sleep _ | .fire _ => inferInstanceAs (Inhabited Unit)

/-- A round that fires: the three readings of the clock, and the tick. -/
structure Turn where
  looked : WallTime
  measured : WallTime
  tick : Instant
  checked : WallTime

namespace Turn

def rest (t : Turn) : Nat :=
  t.checked.instant.nanosUntil t.tick

/-- The second sleep, if there is one. -/
def oversleep (t : Turn) : Log :=
  if t.rest = 0 then [] else [⟨.sleep t.rest, ()⟩]

def log (t : Turn) : Log :=
  ⟨.now, t.looked⟩ :: ⟨.now, t.measured⟩ :: ⟨.sleep (t.measured.instant.nanosUntil t.tick), ()⟩ ::
    ⟨.fire t.tick, ()⟩ :: ⟨.now, t.checked⟩ :: t.oversleep

end Turn

variable {s : Schedule} {log : Log} {tick : Instant}

private theorem course_clock_bind {β : Type} {f : Instant → Step β} {b : β} :
    Course (clock >>= f) log b ↔ ∃ reading rest, log = ⟨.now, reading⟩ :: rest ∧ Course (f reading.instant) rest b :=
  course_call_bind

private theorem course_sleepUntil_bind {β : Type} {f : Unit → Step β} {b : β} :
    Course (sleepUntil tick >>= f) log b ↔
      ∃ now rest, log = ⟨.now, now⟩ :: ⟨.sleep (now.instant.nanosUntil tick), ()⟩ :: rest ∧ Course (f ()) rest b := by
  have unfolded : (sleepUntil tick >>= f) =
      clock >>= fun now => Dialogue.call (Call.sleep (now.nanosUntil tick)) >>= f := rfl
  rw [unfolded, course_clock_bind]
  constructor
  · rintro ⟨now, rest, rfl, sleeping⟩
    obtain ⟨_, rest, rfl, after⟩ := course_call_bind.mp sleeping
    exact ⟨now, rest, rfl, after⟩
  · rintro ⟨now, rest, rfl, after⟩
    exact ⟨now, _, rfl, course_call_bind.mpr ⟨(), rest, rfl, after⟩⟩

private theorem course_oversleep {t : Turn} {outcome : Option Instant} :
    Course (do
      if t.rest ≠ 0 then Dialogue.call (Call.sleep t.rest)
      return some t.tick : Step (Option Instant)) log outcome ↔ outcome = some t.tick ∧ log = t.oversleep := by
  unfold Turn.oversleep
  by_cases late : t.rest = 0
  · have met : ¬ t.rest ≠ 0 := fun early => early late
    simp only [if_neg met, if_pos late, course_pure]
    exact and_comm
  · have early : t.rest ≠ 0 := late
    simp only [if_pos early, if_neg late, course_call_bind, course_pure]
    constructor
    · rintro ⟨_, _, rfl, rfl, rfl⟩
      exact ⟨rfl, rfl⟩
    · rintro ⟨rfl, rfl⟩
      exact ⟨(), [], rfl, rfl, rfl⟩

private theorem course_round {outcome : Option Instant} : Course s.round log outcome ↔
    (∃ t : Turn, s.next? t.looked.instant = some t.tick ∧ outcome = some t.tick ∧ log = t.log) ∨
      ∃ looked : WallTime, s.next? looked.instant = none ∧ outcome = none ∧ log = [⟨.now, looked⟩] := by
  constructor
  · intro course
    obtain ⟨looked, log, rfl, found⟩ := course_clock_bind.mp course
    cases next : s.next? looked.instant with
    | none =>
      rw [next] at found
      obtain ⟨rfl, rfl⟩ := course_pure.mp found
      exact .inr ⟨looked, next, rfl, rfl⟩
    | some tick =>
      rw [next] at found
      obtain ⟨measured, log, rfl, slept⟩ := course_sleepUntil_bind.mp found
      obtain ⟨_, log, rfl, fires⟩ := course_call_bind.mp slept
      obtain ⟨checked, log, rfl, ends⟩ := course_clock_bind.mp fires
      let t : Turn := ⟨looked, measured, tick, checked⟩
      obtain ⟨rfl, rfl⟩ := (course_oversleep (t := t)).mp ends
      exact .inl ⟨t, next, rfl, rfl⟩
  · rintro (⟨t, next, rfl, rfl⟩ | ⟨looked, missed, rfl, rfl⟩)
    · refine course_clock_bind.mpr ⟨t.looked, _, rfl, ?_⟩
      rw [next]
      refine course_sleepUntil_bind.mpr ⟨t.measured, _, rfl, course_call_bind.mpr ⟨(), _, rfl, ?_⟩⟩
      exact course_clock_bind.mpr ⟨t.checked, _, rfl, course_oversleep.mpr ⟨rfl, rfl⟩⟩
    · refine course_clock_bind.mpr ⟨looked, _, rfl, ?_⟩
      rw [missed]
      exact course_pure.mpr ⟨rfl, rfl⟩

private theorem exists_turn_of_course (course : Course s.round log (some tick)) :
    ∃ t : Turn, s.next? t.looked.instant = some t.tick ∧ log = t.log := by
  rcases course_round.mp course with ⟨t, next, -, whole⟩ | ⟨-, -, none, -⟩
  · exact ⟨t, next, whole⟩
  · cases none

end Round

section Fired

variable {s : Schedule} {log round : Log} {t : Turn}

@[simp]
theorem fired_append (log more : Log) : fired (log ++ more) = fired log ++ fired more :=
  List.filterMap_append

@[simp]
theorem readings_append (log more : Log) : readings (log ++ more) = readings log ++ readings more :=
  List.filterMap_append

@[simp]
theorem Turn.fired_log (t : Turn) : fired t.log = [t.tick] := by
  unfold Turn.log Turn.oversleep
  split <;> rfl

/-- A round fires nothing, or it looks at the clock and fires the first tick after that. -/
inductive Fires (s : Schedule) (round : Log) : Prop
  | nothing (none : fired round = [])
  | tick {looked : WallTime} {tick : Instant} {rest : Log} (opens : round = ⟨.now, looked⟩ :: rest)
      (next : s.IsNext looked.instant tick) (once : fired round = [tick])

variable (ordered : s.Ordered)

include ordered

private theorem Turn.fires_of_prefix (next : s.next? t.looked.instant = some t.tick) (part : round <+: t.log) :
    Fires s round := by
  have begun : fired round <+: [t.tick] := t.fired_log ▸ part.filterMap _
  rcases List.prefix_cons_iff.mp begun with none | ⟨rest, once, tail⟩
  · exact .nothing none
  · rw [List.prefix_nil.mp tail] at once
    have opening : t.log = ⟨.now, t.looked⟩ :: t.log.tail := rfl
    rw [opening] at part
    rcases List.prefix_cons_iff.mp part with rfl | ⟨rest, opens, -⟩
    · cases once
    · exact .tick opens (isNext_of_next? ordered next) once

private theorem fires_of_trail {left : Step (Option Instant)} (trail : Trail s.round round left) : Fires s round := by
  obtain ⟨more, outcome, course⟩ := trail.exists_course
  rcases course_round.mp course with ⟨t, next, -, whole⟩ | ⟨looked, -, -, whole⟩
  · exact t.fires_of_prefix ordered next ⟨more, whole⟩
  · have part : round <+: [⟨.now, looked⟩] := ⟨more, whole⟩
    have begun : fired round <+: [] := part.filterMap _
    exact .nothing (List.prefix_nil.mp begun)

end Fired

section Loop

variable {s : Schedule} {log round current : Log} {rounds : List Log} {left : Step (Option Instant)} {t : Turn}

theorem Steady.behind (steady : Steady (round ++ log)) : Steady log where
  forward := by
    have whole := steady.forward
    rw [readings_append] at whole
    exact (List.pairwise_append.mp whole).2.1
  lasting tick now duration later part :=
    steady.lasting tick now duration later (part.trans (List.suffix_append round log).isInfix)

@[simp]
theorem Turn.readings_log (t : Turn) :
    readings t.log = [t.looked.instant, t.measured.instant, t.checked.instant] := by
  unfold Turn.log Turn.oversleep
  split <;> rfl

private theorem Turn.tick_le {later : WallTime} (whole : t.tick.nanos = 0)
    (steady : Steady (t.log ++ ⟨.now, later⟩ :: log)) :
    t.tick ≤ later.instant := by
  have forward : t.checked.instant ≤ later.instant := by
    have ascending := steady.forward
    rw [readings_append] at ascending
    exact (List.pairwise_append.mp ascending).2.2 _ (by simp) _ List.mem_cons_self
  refine Instant.le_of_nanosUntil_le whole forward ?_
  change t.rest ≤ _
  by_cases late : t.rest = 0
  · omega
  · -- The second sleep stands between the last look of this round and the first one of the next.
    refine steady.lasting t.tick t.checked t.rest later
      ⟨[⟨.now, t.looked⟩, ⟨.now, t.measured⟩, ⟨.sleep (t.measured.instant.nanosUntil t.tick), ()⟩], log, ?_⟩
    simp [Turn.log, Turn.oversleep, late]

def Climbs (log : Log) : Prop :=
  (fired log).Pairwise (· < ·) ∧
    ∀ tick ∈ fired log, ∃ looked rest, log = ⟨.now, looked⟩ :: rest ∧ looked.instant < tick

private theorem Fires.climbs (fires : Fires s round) : Climbs round := by
  cases fires with
  | nothing none => simp [Climbs, none]
  | @tick looked tick rest opens next once =>
    unfold Climbs
    rw [once]
    refine ⟨List.pairwise_singleton .., ?_⟩
    intro u present
    obtain rfl := List.mem_singleton.mp present
    exact ⟨looked, rest, opens, next.later⟩

/-- A round in front of others fires the least tick. -/
theorem Turn.climbs (next : s.IsNext t.looked.instant t.tick) (steady : Steady (t.log ++ log)) (behind : Climbs log) :
    Climbs (t.log ++ log) := by
  obtain ⟨ascending, after⟩ := behind
  have later : ∀ tick ∈ fired log, t.tick < tick := by
    intro tick present
    obtain ⟨looked, rest, rfl, less⟩ := after tick present
    exact Instant.lt_of_le_of_lt (t.tick_le next.ticks.whole steady) less
  have whole : fired (t.log ++ log) = t.tick :: fired log := by simp
  unfold Climbs
  rw [whole]
  refine ⟨List.pairwise_cons.mpr ⟨later, ascending⟩, ?_⟩
  intro tick present
  refine ⟨t.looked, _, rfl, ?_⟩
  rcases List.mem_cons.mp present with rfl | behind
  · exact next.later
  · exact Instant.lt_trans next.later (later tick behind)

theorem Run.ended (run : Run s rounds current left) (done : left = .done none) :
    ∃ looked : WallTime, current = [⟨.now, looked⟩] ∧ s.next? looked.instant = none := by
  induction run with
  | within trail =>
    subst done
    rcases course_round.mp (trail_done.mp trail) with ⟨t, -, fired, -⟩ | ⟨looked, missed, -, whole⟩
    · cases fired
    · exact ⟨looked, whole, missed⟩
  | again _ _ ih => exact ih done

theorem Run.once (run : Run s rounds current left) (complete : round ∈ rounds) : ∃ tick, fired round = [tick] := by
  induction run with
  | within => cases complete
  | again course _ ih =>
    rcases List.mem_cons.mp complete with rfl | later
    · obtain ⟨t, -, rfl⟩ := exists_turn_of_course course
      exact ⟨t.tick, t.fired_log⟩
    · exact ih later

variable (ordered : s.Ordered)

include ordered

private theorem Run.fires (run : Run s rounds current left) (present : round ∈ rounds ++ [current]) :
    Fires s round := by
  induction run with
  | within trail =>
    obtain rfl := List.mem_singleton.mp present
    exact fires_of_trail ordered trail
  | again course _ ih =>
    rcases List.mem_cons.mp present with rfl | later
    · obtain ⟨t, next, rfl⟩ := exists_turn_of_course course
      exact t.fires_of_prefix ordered next (List.prefix_refl _)
    · exact ih later

private theorem Run.climbs (run : Run s rounds current left) (steady : Steady (rounds.flatten ++ current)) :
    Climbs (rounds.flatten ++ current) := by
  induction run with
  | within trail => exact (fires_of_trail ordered trail).climbs
  | again course _ ih =>
    rw [List.flatten_cons, List.append_assoc] at steady ⊢
    obtain ⟨t, next, rfl⟩ := exists_turn_of_course course
    exact t.climbs (isNext_of_next? ordered next) steady (ih steady.behind)

end Loop

/-- What a trigger owes its schedule, after any number of rounds and within a round. -/
structure Punctual (s : Schedule) (rounds : List Log) (current : Log) (left : Step (Option Instant)) : Prop where
  /-- No tick is fired twice, and none behind a later one. -/
  ascending : (fired (rounds.flatten ++ current)).Pairwise (· < ·)
  /-- Every round fires once, the one under way at most once. -/
  once : (∀ round ∈ rounds, (fired round).length = 1) ∧ (fired current).length ≤ 1
  /-- What a round fires is the first tick after its look at the clock. -/
  next : ∀ round ∈ rounds ++ [current], ∀ tick ∈ fired round, ∃ looked, looked? round = some looked ∧ s.IsNext looked tick
  /-- A tick between those of two consecutive rounds was reached when the second of them looked. -/
  passed : ∀ before first second after, rounds ++ [current] = before ++ first :: second :: after →
    ∀ tick ∈ fired first, ∀ later ∈ fired second, ∀ between, s.Ticks between → tick < between → between < later →
      ∃ looked, looked? second = some looked ∧ between ≤ looked
  /-- The loop is over only if no tick comes after the last look at the clock. -/
  ended : left = .done none → ∃ looked, looked? current = some looked ∧ ∀ tick, s.Ticks tick → tick ≤ looked

/-- A trigger on a clock that runs forward fires the ticks in order, each at most once, and leaves out only ticks that
the clock has passed. -/
theorem punctual_of_run {expression : String} {s : Schedule} {rounds : List Log} {current : Log}
    {left : Step (Option Instant)} (parsed : Cron.parse expression = .ok s) (run : Run s rounds current left)
    (steady : Steady (rounds.flatten ++ current)) : Punctual s rounds current left := by
  have ordered := Cron.ordered_of_parse parsed
  have next : ∀ round ∈ rounds ++ [current], ∀ tick ∈ fired round,
      ∃ looked, looked? round = some looked ∧ s.IsNext looked tick := by
    intro round present tick present'
    cases run.fires ordered present with
    | nothing none =>
      rw [none] at present'
      cases present'
    | @tick looked first rest opens next once =>
      rw [once] at present'
      obtain rfl := List.mem_singleton.mp present'
      exact ⟨looked.instant, by rw [opens]; rfl, next⟩
  refine ⟨(run.climbs ordered steady).1, ⟨?_, ?_⟩, next, ?_, ?_⟩
  · intro round complete
    obtain ⟨tick, once⟩ := run.once complete
    rw [once, List.length_singleton]
  · cases run.fires ordered (List.mem_append_right rounds List.mem_cons_self) with
    | nothing none => simp [none]
    | tick _ _ once => simp [once]
  · intro before first second after split tick _ later present between ticks _ earlier
    obtain ⟨looked, look, isNext⟩ := next second (by simp [split]) later present
    refine ⟨looked, look, fun missed => ?_⟩
    exact isNext.least between ticks missed earlier
  · intro ended
    obtain ⟨looked, rfl, missed⟩ := run.ended ended
    exact ⟨looked.instant, rfl, fun tick ticks => not_lt_of_next?_eq_none ordered missed ticks⟩

/-- Two ticks, the first one after an early end of the first sleep. Then the schedule is over. -/
theorem punctual_through_two_ticks :
    let before : WallTime := ⟨⟨-2, 0, by decide⟩, by decide⟩
    let early : WallTime := ⟨⟨-1, 0, by decide⟩, by decide⟩
    let start : WallTime := ⟨⟨0, 0, by decide⟩, by decide⟩
    let late : WallTime := ⟨⟨5, 0, by decide⟩, by decide⟩
    let first : Turn := ⟨before, before, start.instant, early⟩
    let second : Turn := ⟨start, start, ⟨1, 0, by decide⟩, late⟩
    ∃ s, Cron.parse "0,1 0 0 1 1 * 1970" = .ok s ∧
      Punctual s [first.log, second.log] [⟨.now, late⟩] (.done none) := by
  intro before early start late first second
  let s : Schedule := ⟨[0, 1], [0], [0], [1], [1], [1, 2, 3, 4, 5, 6, 7], [1970]⟩
  have parsed : Cron.parse "0,1 0 0 1 1 * 1970" = .ok s := rfl
  have run : Run s [first.log, second.log] [⟨.now, late⟩] (.done none) :=
    .again (course_round.mpr (.inl ⟨first, rfl, rfl, rfl⟩)) <|
      .again (course_round.mpr (.inl ⟨second, rfl, rfl, rfl⟩)) <|
        .within (trail_done.mpr (course_round.mpr (.inr ⟨late, rfl, rfl, rfl⟩)))
  refine ⟨s, parsed, punctual_of_run parsed run ⟨by decide, ?_⟩⟩
  intro tick now duration later part
  have whole : [first.log, second.log].flatten ++ [⟨.now, late⟩] = [⟨.now, before⟩, ⟨.now, before⟩,
      ⟨.sleep 2000000000, ()⟩, ⟨.fire start.instant, ()⟩, ⟨.now, early⟩, ⟨.sleep 1000000000, ()⟩, ⟨.now, start⟩,
      ⟨.now, start⟩, ⟨.sleep 1000000000, ()⟩, ⟨.fire ⟨1, 0, by decide⟩, ()⟩, ⟨.now, late⟩, ⟨.now, late⟩] := rfl
  rw [whole] at part
  obtain ⟨-, rfl, rfl, rfl⟩ : tick = start.instant ∧ now = early ∧ duration = 1000000000 ∧ later = start := by
    simpa [List.infix_cons_iff, List.cons_prefix_cons] using part
  decide

end Schedule

end AnomalyWatch
