import AnomalyWatch.Proofs.Window.Resolution

/-!
Window arithmetic is exact, or refused.

A bound that is given is taken as it is. A bound that is not lies a whole number of milliseconds before its origin, and
there is none only where no instant lies there. Nothing wraps on the way: products are cut off at a word of 64 bits,
durations at one with a sign, and the sums of the subtraction stay far inside their words.
-/

set_option autoImplicit false
set_option relaxedAutoImplicit false

namespace AnomalyWatch

namespace Instant

/-- The seconds and the nanoseconds of a shifted instant, before and after a carry from one to the other, fit words
with a sign: 64 bits for the seconds, 32 bits for the nanoseconds. -/
structure ShiftsInWords (t : Instant) (millis : Int) : Prop where
  seconds : -0x8000000000000000 ≤ t.seconds + millis.tdiv 1000 - 1 ∧
    t.seconds + millis.tdiv 1000 + 2 ≤ 0x7FFFFFFFFFFFFFFF
  nanos : -0x80000000 ≤ t.nanos - second + millis.tmod 1000 * 1000000 ∧
    t.nanos + millis.tmod 1000 * 1000000 ≤ 0x7FFFFFFF

private theorem shiftsInWords_neg (t : Instant) {millis : Nat} (short : millis ≤ TimeUnit.longestDuration) :
    t.ShiftsInWords (-(millis : Int)) := by
  obtain ⟨least, most, bounded, -⟩ := t.admissible
  have earliest : -10000000000000 ≤ t.seconds := Int.le_trans (by decide) least
  have latest : t.seconds ≤ 10000000000000 := Int.le_trans most (by decide)
  have whole : (-(millis : Int)).tdiv 1000 = -((millis : Int) / 1000) := by
    rw [Int.neg_tdiv, Int.tdiv_eq_ediv_of_nonneg (Int.natCast_nonneg millis)]
  have part : (-(millis : Int)).tmod 1000 = -((millis : Int) % 1000) := by
    rw [Int.neg_tmod, Int.tmod_eq_emod_of_nonneg (Int.natCast_nonneg millis)]
  simp only [TimeUnit.longestDuration, second] at short bounded
  refine ⟨?_, ?_⟩
  · rw [whole]
    omega
  · simp only [part, second]
    omega

end Instant

/-- An amount in milliseconds, and the way back from an instant by so much time, stay inside machine words. -/
structure TimeUnit.KeepsToWords (u : TimeUnit) (amount : Nat) : Prop where
  product : u.toMillis amount ≤ 0xFFFFFFFFFFFFFFFF
  duration : u.duration amount ≤ 0x7FFFFFFFFFFFFFFF
  shift : ∀ t : Instant, t.ShiftsInWords (-(u.duration amount : Int))

private theorem TimeUnit.keepsToWords (u : TimeUnit) (amount : Nat) : u.KeepsToWords amount where
  product := Nat.min_le_right _ _
  duration := Nat.min_le_right _ _
  shift t := t.shiftsInWords_neg (Nat.min_le_right _ _)

namespace Window

variable {spec : Spec} {now origin stop t : Instant} {bound : Option Instant} {bounds : Bounds} {w : Window}
  {e : Error} {millis : Nat}

/-- The instant is the bound where there is one, and otherwise it counts so many milliseconds less than another. -/
def Lands (bound : Option Instant) (origin : Instant) (millis : Nat) (t : Instant) : Prop :=
  match bound with
  | some b => t = b
  | none => t.IsPlain ∧ t.count = origin.count - millis * 1000000

instance : Decidable (Lands bound origin millis t) :=
  match bound with
  | some _ => inferInstanceAs (Decidable (_ = _))
  | none => inferInstanceAs (Decidable (_ ∧ _))

private theorem reaches_min :
    Reaches bound origin (min millis TimeUnit.longestDuration) t ↔ Reaches bound origin millis t := by
  cases bound with
  | some b => exact Iff.rfl
  | none =>
    by_cases short : millis ≤ TimeUnit.longestDuration
    · rw [Nat.min_eq_left short]
    · have long := Nat.le_of_not_le short
      have before := Instant.shift?_neg_eq_none_of_longest (t := origin) long
      have cut := Instant.shift?_neg_eq_none_of_longest (t := origin) (Nat.le_refl TimeUnit.longestDuration)
      simp only [Reaches, Nat.min_eq_right long, before, cut]

private theorem reaches_iff_lands (plain : bound = none → origin.IsPlain) :
    Reaches bound origin millis t ↔ Lands bound origin millis t := by
  cases bound with
  | some b => exact Iff.rfl
  | none =>
    have exact : origin.shift? (-(millis : Int)) = some t ↔
        t.IsPlain ∧ t.count = origin.count + -(millis : Int) * 1000000 := Instant.shift?_eq_some_iff (plain rfl)
    rw [Int.neg_mul, ← Int.sub_eq_add_neg] at exact
    exact exact

private theorem resolveStop_eq_error_iff : resolveStop spec now bound = .error e ↔
    e = .delayOutOfRange spec.id ∧ ∀ t, ¬ Reaches bound now spec.delayLength t := by
  unfold resolveStop Reaches
  cases bound with
  | some b => simp
  | none =>
    rw [← shift?_delayDuration]
    cases now.shift? (-(spec.delayDuration : Int)) <;> simp [eq_comm]

private theorem resolveStart_eq_error_iff : resolveStart spec stop bound = .error e ↔
    e = .sizeOutOfRange spec.id ∧ ∀ t, ¬ Reaches bound stop spec.windowLength t := by
  unfold resolveStart Reaches
  cases bound with
  | some b => simp
  | none =>
    rw [Spec.windowLength, ← Instant.shift?_neg_duration, ← Spec.windowDuration]
    cases stop.shift? (-(spec.windowDuration : Int)) <;> simp [eq_comm]

private theorem resolve_eq_error_iff : resolve spec now bounds = .error e ↔
    (e = .delayOutOfRange spec.id ∧ ∀ t, ¬ Reaches bounds.stop now spec.delayLength t) ∨
      e = .sizeOutOfRange spec.id ∧ ∃ stop, Reaches bounds.stop now spec.delayLength stop ∧
        ∀ t, ¬ Reaches bounds.start stop spec.windowLength t := by
  unfold resolve
  cases ends : resolveStop spec now bounds.stop with
  | error e' =>
    obtain ⟨rfl, none⟩ := resolveStop_eq_error_iff.mp ends
    simp [bind, Except.bind, none, eq_comm]
  | ok stop =>
    have only : ∀ t, Reaches bounds.stop now spec.delayLength t ↔ stop = t := by
      intro t
      rw [← resolveStop_eq_ok_iff, ends, Except.ok.injEq]
    have refused : resolveStart spec stop bounds.start = .error e ↔
        e = .sizeOutOfRange spec.id ∧ ∀ t, ¬ Reaches bounds.start stop spec.windowLength t := resolveStart_eq_error_iff
    simp only [only, exists_eq_left', forall_eq', and_false, false_or]
    rw [← refused]
    cases starts : resolveStart spec stop bounds.start <;> simp [starts, bind, Except.bind, pure, Except.pure]

private theorem start_lt_stop_of_resolve (resolved : resolve spec now bounds = .ok w) (derived : bounds.start = none)
    (positive : 0 < spec.windowSize) : w.start < w.stop := by
  have reaches := (resolve_eq_ok_iff.mp resolved).start
  rw [derived] at reaches
  have unit : 0 < spec.windowUnit.millisPerUnit := by cases spec.windowUnit <;> decide
  have length : 0 < spec.windowLength := Nat.mul_pos positive unit
  exact Instant.lt_of_shift?_neg (Int.natCast_pos.mpr length) reaches

/-- Whatever the spec, the present and the bounds, no number on the way to the window leaves its word, and the outcome
is a window or a validation error. A bound that is given is taken as it is. Outside of leap seconds the end lies the
delay before the present and the start the size before the end, to the millisecond and cut off at a word with a sign;
there is no window only if no instant lies there. A window of a positive size whose start was derived is in order. -/
theorem exact_or_refused (spec : Spec) (now : Instant) (bounds : Bounds) :
    let delay := min spec.delayLength TimeUnit.longestDuration
    let size := min spec.windowLength TimeUnit.longestDuration
    (∀ (u : TimeUnit) (amount : Nat), u.KeepsToWords amount) ∧
    (∀ e, resolve spec now bounds = .error e → e.kind = .validation) ∧
    (∀ w, resolve spec now bounds = .ok w →
      (∀ b, bounds.stop = some b → w.stop = b) ∧ ∀ b, bounds.start = some b → w.start = b) ∧
    ((bounds.stop = none → now.IsPlain) → (bounds.start = none → ∀ b, bounds.stop = some b → b.IsPlain) →
      (∀ w, resolve spec now bounds = .ok w ↔
        Lands bounds.stop now delay w.stop ∧ Lands bounds.start w.stop size w.start) ∧
      ∀ e, resolve spec now bounds = .error e ↔
        (e = .delayOutOfRange spec.id ∧ ∀ t, ¬ Lands bounds.stop now delay t) ∨
          e = .sizeOutOfRange spec.id ∧ ∃ stop, Lands bounds.stop now delay stop ∧
            ∀ t, ¬ Lands bounds.start stop size t) ∧
    ∀ w, resolve spec now bounds = .ok w → bounds.start = none → 0 < spec.windowSize → w.start < w.stop := by
  intro delay size
  refine ⟨TimeUnit.keepsToWords, fun e => kind_of_resolve, ?_, ?_, fun w => start_lt_stop_of_resolve⟩
  · intro w resolved
    have resolves := resolve_eq_ok_iff.mp resolved
    refine ⟨fun b given => ?_, fun b given => ?_⟩
    · have reaches := resolves.stop
      rwa [given] at reaches
    · have reaches := resolves.start
      rwa [given] at reaches
  · intro plainNow plainStop
    have stops : ∀ t, Reaches bounds.stop now spec.delayLength t ↔ Lands bounds.stop now delay t := by
      intro t
      rw [← reaches_min, reaches_iff_lands plainNow]
    have starts : ∀ stop, Lands bounds.stop now delay stop → ∀ t,
        (Reaches bounds.start stop spec.windowLength t ↔ Lands bounds.start stop size t) := by
      intro stop lands t
      rw [← reaches_min, reaches_iff_lands]
      intro derived
      cases given : bounds.stop with
      | none =>
        rw [given] at lands
        exact lands.1
      | some b =>
        rw [given] at lands
        have same : stop = b := lands
        exact same ▸ plainStop derived b given
    refine ⟨fun w => ?_, fun e => ?_⟩
    · rw [resolve_eq_ok_iff]
      constructor
      · intro resolves
        have ends := (stops w.stop).mp resolves.stop
        exact ⟨ends, (starts w.stop ends w.start).mp resolves.start⟩
      · rintro ⟨ends, begins⟩
        exact ⟨(stops w.stop).mpr ends, (starts w.stop ends w.start).mpr begins⟩
    · rw [resolve_eq_error_iff]
      refine or_congr (and_congr_right fun _ => forall_congr' fun t => not_congr (stops t)) ?_
      refine and_congr_right fun _ => exists_congr fun stop => ?_
      rw [stops]
      exact and_congr_right fun lands => forall_congr' fun t => not_congr (starts stop lands t)

/-- A window of ninety seconds that ends a minute before the present, and the same function with more days than there
are. -/
theorem ninety_seconds_or_too_long :
    let spec (size : Nat) (unit : TimeUnit) : Spec :=
      { id := 1, functionType := "THRESHOLD", metric := "latency", collection := "web", cron := "0 0 * * * *"
        windowSize := size, windowUnit := unit, windowDelay := some 1, windowDelayUnit := some .minutes
        bucketSize := 1, bucketUnit := .hours, exploreDimensions := none, properties := ∅, isActive := true }
    let now : Instant := ⟨30, 500000000, by decide⟩
    now.IsPlain ∧
      resolve (spec 90 .seconds) now .none = .ok ⟨⟨-120, 500000000, by decide⟩, ⟨-30, 500000000, by decide⟩⟩ ∧
      resolve (spec 0xFFFFFFFFFFFFFFFF .days) now .none = .error (.sizeOutOfRange 1) := by
  intro spec now
  have plain : now.IsPlain := by decide
  have exact (size : Nat) (unit : TimeUnit) :=
    (exact_or_refused (spec size unit) now .none).2.2.2.1 (fun _ => plain) fun _ b given => by cases given
  refine ⟨plain, ((exact 90 .seconds).1 _).mpr (by decide), ((exact _ .days).2 _).mpr (.inr ⟨rfl, ?_⟩)⟩
  refine ⟨⟨-30, 500000000, by decide⟩, by decide, fun t lands => ?_⟩
  have cut : min (spec 0xFFFFFFFFFFFFFFFF .days).windowLength TimeUnit.longestDuration = 0x7FFFFFFFFFFFFFFF := by decide
  have before : t.count = _ := lands.2
  have earliest : -10000000000000 ≤ t.seconds := Int.le_trans (by decide) t.admissible.1
  rw [cut] at before
  simp only [Instant.count, Instant.second] at before
  omega

end Window

end AnomalyWatch
