import AnomalyWatch.Proofs.Detection.Threshold
import AnomalyWatch.Proofs.Pass.Conduct

/-!
The threshold detector reports what it should and nothing else.

A bucket of the window offends if its value is not finite, or if the spec forbids the value and the end of the
bucket is not representable. Where none offends, each forbidden value that is not known makes one anomaly; where
one does, the analysis fails with the fault of the earliest. The length of a bucket is cut off only far beyond the
calendar, so an end is as representable with the cut as without.
-/

set_option autoImplicit false
set_option relaxedAutoImplicit false

namespace AnomalyWatch

namespace Instant

private theorem shift?_eq_none_of_longest {t : Instant} {millis : Int} (long : TimeUnit.longestDuration ≤ millis) :
    t.shift? millis = none := by
  refine Option.eq_none_iff_forall_ne_some.mpr fun u shifted => ?_
  have short := seconds_le_of_shift? shifted
  have earliest : -10000000000000 ≤ t.seconds := Int.le_trans (by decide) t.admissible.1
  have latest : u.seconds ≤ 10000000000000 := Int.le_trans u.admissible.2.1 (by decide)
  have whole : millis.tdiv 1000 = millis / 1000 := Int.tdiv_eq_ediv_of_nonneg (Int.le_trans (by decide) long)
  simp only [TimeUnit.longestDuration] at long
  omega

private theorem shift?_duration (t : Instant) (u : TimeUnit) (amount : Nat) :
    t.shift? (u.duration amount) = t.shift? (amount * u.millisPerUnit : Nat) := by
  by_cases short : amount * u.millisPerUnit ≤ TimeUnit.longestDuration
  · rw [u.duration_of_le short]
  · have long := Nat.lt_of_not_le short
    rw [u.duration_of_gt long, shift?_eq_none_of_longest (Int.le_refl _), shift?_eq_none_of_longest (by omega)]

end Instant

namespace Spec

def bucketLength (s : Spec) : Nat :=
  s.bucketSize * s.bucketUnit.millisPerUnit

def bound? (s : Spec) (name : String) : Option Float :=
  (s.properties.get? name).bind fun raw => Decimal.read? (Text.trim raw)

/-- The value lies below the `min` or above the `max` of the spec. -/
def Forbids (s : Spec) (value : Float) : Prop :=
  (∃ low, s.bound? "min" = some low ∧ value < low) ∨ ∃ high, s.bound? "max" = some high ∧ value > high

end Spec

namespace Band

variable {spec : Spec} {band : Band}

private theorem bound?_of_readEnd {name : String} {bound : Option Float} (read : readEnd spec name = .ok bound) :
    spec.bound? name = bound := by
  unfold readEnd at read
  unfold Spec.bound?
  cases present : spec.properties.get? name with
  | none =>
    rw [present] at read
    exact Except.ok.inj read
  | some raw =>
    simp only [present] at read
    rw [Option.bind_some]
    cases number : Decimal.read? (Text.trim raw) with
    | none => simp [number] at read
    | some x =>
      simp only [number] at read
      exact Except.ok.inj read

private theorem bounds_of_ofSpec (banded : ofSpec spec = .ok band) :
    spec.bound? "min" = band.low ∧ spec.bound? "max" = band.high := by
  unfold ofSpec at banded
  cases low : readEnd spec "min" with
  | error e => simp [low, bind, Except.bind] at banded
  | ok lo =>
    cases high : readEnd spec "max" with
    | error e => simp [low, high, bind, Except.bind] at banded
    | ok hi =>
      rw [bound?_of_readEnd low, bound?_of_readEnd high]
      simp only [low, high, bind, Except.bind] at banded
      split at banded
      · cases banded
      · split at banded
        · cases banded
        · cases banded
          exact ⟨rfl, rfl⟩
      · cases banded
        exact ⟨rfl, rfl⟩

private theorem excludes_iff_forbids (banded : ofSpec spec = .ok band) (value : Float) :
    band.Excludes value ↔ spec.Forbids value := by
  obtain ⟨low, high⟩ := bounds_of_ofSpec banded
  rw [Excludes, Spec.Forbids, low, high]

end Band

namespace Threshold

variable {spec : Spec} {band : Band} {key : DimensionKey} {series : Series} {window : Window}
  {known found : List Anomaly}

/-- The bucket ends an analysis. -/
def Offends (spec : Spec) (e : Instant × Float) : Prop :=
  e.2.isFinite = false ∨ spec.Forbids e.2 ∧ e.1.shift? spec.bucketLength = none

/-- The failure of an analysis that a bucket ends. -/
inductive Fault (spec : Spec) (key : DimensionKey) : Instant × Float → Error → Prop
  | notFinite {start : Instant} {value : Float} (infinite : value.isFinite = false) :
      Fault spec key (start, value) (.notFinite value start key)
  | overflow {start : Instant} {value : Float} (finite : value.isFinite = true) (forbidden : spec.Forbids value)
      (beyond : start.shift? spec.bucketLength = none) :
      Fault spec key (start, value) (.bucketOverflow spec.bucketSize spec.bucketUnit start key)

private theorem Fault.offends {e : Instant × Float} {cause : Error} (fault : Fault spec key e cause) :
    Offends spec e := by
  cases fault with
  | notFinite infinite => exact .inl infinite
  | overflow _ forbidden beyond => exact .inr ⟨forbidden, beyond⟩

theorem Fault.kind {e : Instant × Float} {cause : Error} (fault : Fault spec key e cause) :
    cause.kind = .analysis := by
  cases fault <;> rfl

/-- The bucket from its start up to `stop` is an anomaly of the key that is not known. -/
def Due (spec : Spec) (key : DimensionKey) (known : List Anomaly) (e : Instant × Float) (stop : Instant) : Prop :=
  spec.Forbids e.2 ∧ e.1.shift? spec.bucketLength = some stop ∧
    ¬ ∃ k ∈ known, k.dimensions = key ∧ k.start = e.1 ∧ k.stop = stop

private theorem isKnown_iff {start stop : Instant} :
    isKnown key start stop known = true ↔ ∃ k ∈ known, k.dimensions = key ∧ k.start = start ∧ k.stop = stop := by
  simp only [isKnown, List.any_eq_true, Bool.and_eq_true, decide_eq_true_eq, and_assoc]

private theorem fault_of_judge (banded : Band.ofSpec spec = .ok band) {start : Instant} {value : Float} {cause : Error}
    (judged : judge spec band key known start value = .error cause) : Fault spec key (start, value) cause := by
  unfold judge at judged
  split at judged
  next infinite =>
    cases judged
    exact .notFinite (by simpa using infinite)
  next finite =>
    split at judged
    next => cases judged
    next bound violated =>
      have forbidden := (Band.excludes_iff_forbids banded value).mp (Band.exists_violated_iff.mp ⟨bound, violated⟩)
      split at judged
      next beyond =>
        cases judged
        exact .overflow (by simpa using finite) forbidden ((start.shift?_duration _ _).symm.trans beyond)
      next => cases judged

private theorem not_offends_of_judge (banded : Band.ofSpec spec = .ok band) {start : Instant} {value : Float}
    {verdict : Option Anomaly} (judged : judge spec band key known start value = .ok verdict) :
    ¬ Offends spec (start, value) := by
  rintro (infinite | ⟨forbidden, beyond⟩)
  · have infinite : value.isFinite = false := infinite
    simp [judge, infinite] at judged
  · rcases judge_cases judged with ⟨allowed, _⟩ | ⟨_, stop, _, shifted, _⟩
    · exact allowed ((Band.excludes_iff_forbids banded value).mpr forbidden)
    · rw [Spec.bucketDuration, Instant.shift?_duration] at shifted
      exact Option.some_ne_none stop (shifted.symm.trans beyond)

private theorem due_iff_of_judge (banded : Band.ofSpec spec = .ok band) {start begins stop : Instant} {value : Float}
    {verdict : Option Anomaly} (judged : judge spec band key known start value = .ok verdict) :
    (∃ a ∈ verdict, a.start = begins ∧ a.stop = stop) ↔
      start = begins ∧ Due spec key known (start, value) stop := by
  rw [Due, ← Band.excludes_iff_forbids banded, ← isKnown_iff]
  rcases judge_cases judged with ⟨allowed, rfl⟩ | ⟨bound, ends, excluded, shifted, rfl⟩
  · exact iff_of_false (fun ⟨_, named, _⟩ => nomatch named) fun due => allowed due.2.1
  · rw [Spec.bucketDuration, Instant.shift?_duration] at shifted
    rw [and_iff_right excluded]
    constructor
    · rintro ⟨a, named, rfl, rfl⟩
      split at named
      next => cases named
      next new =>
        cases named
        exact ⟨rfl, shifted, new⟩
    · rintro ⟨rfl, again, new⟩
      obtain rfl : ends = stop := Option.some.inj (shifted.symm.trans again)
      exact ⟨_, if_neg new, rfl, rfl⟩

private theorem dimensions_of_judge {start : Instant} {value : Float} {a : Anomaly}
    (judged : judge spec band key known start value = .ok (some a)) : a.dimensions = key := by
  rcases judge_cases judged with ⟨_, silent⟩ | ⟨_, _, _, _, reported⟩
  · cases silent
  · split at reported
    · cases reported
    · cases reported
      rfl

/-- The anomalies are of the key, start one after the other, and are exactly those that are due. -/
structure Reports (spec : Spec) (key : DimensionKey) (known : List Anomaly) (buckets : List (Instant × Float))
    (found : List Anomaly) : Prop where
  own : ∀ a ∈ found, a.dimensions = key
  ascending : found.Pairwise fun a b => a.start < b.start
  exact : ∀ start stop, (∃ a ∈ found, a.start = start ∧ a.stop = stop) ↔
    ∃ value, (start, value) ∈ buckets ∧ Due spec key known (start, value) stop

private theorem due_iff_of_verdicts (banded : Band.ofSpec spec = .ok band) {buckets : List (Instant × Float)}
    {verdicts : List (Option Anomaly)} {start stop : Instant}
    (judged : List.Forall₂ (fun e v => judge spec band key known e.1 e.2 = .ok v) buckets verdicts) :
    (∃ a ∈ verdicts.filterMap id, a.start = start ∧ a.stop = stop) ↔
      ∃ value, (start, value) ∈ buckets ∧ Due spec key known (start, value) stop := by
  induction judged with
  | nil => exact iff_of_false (fun ⟨_, named, _⟩ => nomatch named) fun ⟨_, bucket, _⟩ => nomatch bucket
  | @cons e v buckets verdicts first _ ih =>
    obtain ⟨begins, value⟩ := e
    have here : (∃ a ∈ v, a.start = start ∧ a.stop = stop) ↔
        begins = start ∧ Due spec key known (begins, value) stop := due_iff_of_judge banded first
    have named : (∃ a ∈ (v :: verdicts).filterMap id, a.start = start ∧ a.stop = stop) ↔
        (∃ a ∈ v, a.start = start ∧ a.stop = stop) ∨
          ∃ a ∈ verdicts.filterMap id, a.start = start ∧ a.stop = stop := by
      cases v with
      | none => simp
      | some a => simp
    rw [named, here, ih]
    constructor
    · rintro (⟨rfl, due⟩ | ⟨value', bucket, due⟩)
      · exact ⟨value, List.mem_cons_self, due⟩
      · exact ⟨value', List.mem_cons_of_mem _ bucket, due⟩
    · rintro ⟨value', bucket, due⟩
      rcases List.mem_cons.mp bucket with same | bucket
      · cases same
        exact .inl ⟨rfl, due⟩
      · exact .inr ⟨value', bucket, due⟩

private theorem mem_inside_iff {e : Instant × Float} :
    e ∈ inside series window ↔ e ∈ series.entries ∧ window.start ≤ e.1 ∧ e.1 < window.stop := by
  rw [inside, List.mem_filter, decide_eq_true_iff, Window.covers]

private theorem inside_ascending (series : Series) (window : Window) :
    (inside series window).Pairwise fun e e' => e.1 < e'.1 := by
  refine (series.ascending.filter _).imp fun {e e'} before => ?_
  have before : compareOfLessAndEq e.1 e'.1 = .lt := before
  unfold compareOfLessAndEq at before
  split at before
  next earlier => exact earlier
  next => split at before <;> cases before

private theorem reports_of_analyze (banded : Band.ofSpec spec = .ok band)
    (analyzed : analyze spec band key series window known = .ok found) :
    Reports spec key known (inside series window) found := by
  have own : ∀ a ∈ found, a.dimensions = key := by
    intro a reported
    obtain ⟨_, _, verdict⟩ := verdict_of_mem analyzed reported
    exact dimensions_of_judge verdict
  obtain ⟨verdicts, judged, rfl⟩ := verdicts_of_analyze analyzed
  have starts := (List.pairwise_map.mpr (inside_ascending series window)).sublist (starts_sublist judged)
  exact
    { own
      ascending := List.pairwise_map.mp starts
      exact := fun start stop => due_iff_of_verdicts banded judged }

private theorem exists_first_of_mapM {α β ε : Type} {f : α → Except ε β} {l : List α} {cause : ε}
    (failed : l.mapM f = .error cause) :
    ∃ before a after, l = before ++ a :: after ∧ (∀ b ∈ before, ∃ c, f b = .ok c) ∧ f a = .error cause := by
  induction l with
  | nil => cases failed
  | cons a rest ih =>
    rw [List.mapM_cons] at failed
    cases first : f a with
    | error e =>
      simp only [first, bind, Except.bind, Except.error.injEq] at failed
      subst failed
      exact ⟨[], a, rest, rfl, fun b present => absurd present List.not_mem_nil, first⟩
    | ok b =>
      cases others : rest.mapM f with
      | error e =>
        simp only [first, others, bind, Except.bind, Except.error.injEq] at failed
        subst failed
        obtain ⟨before, a', after, rfl, succeeded, here⟩ := ih others
        refine ⟨a :: before, a', after, rfl, ?_, here⟩
        rintro b' (_ | ⟨_, present⟩)
        · exact ⟨b, first⟩
        · exact succeeded b' present
      | ok bs => simp [first, others, bind, Except.bind, pure, Except.pure] at failed

private theorem fault_of_analyze (banded : Band.ofSpec spec = .ok band) {cause : Error}
    (analyzed : analyze spec band key series window known = .error cause) :
    ∃ before e after, inside series window = before ++ e :: after ∧ (∀ e' ∈ before, ¬ Offends spec e') ∧
      Fault spec key e cause := by
  rw [analyze_eq] at analyzed
  cases judged : (inside series window).mapM fun e => judge spec band key known e.1 e.2 with
  | error e =>
    rw [judged] at analyzed
    cases analyzed
    obtain ⟨before, e, after, split, earlier, failed⟩ := exists_first_of_mapM judged
    refine ⟨before, e, after, split, fun e' present => ?_, fault_of_judge banded failed⟩
    obtain ⟨verdict, succeeded⟩ := earlier e' present
    exact not_offends_of_judge banded succeeded
  | ok verdicts =>
    rw [judged] at analyzed
    cases analyzed

private theorem not_offends_of_analyze (banded : Band.ofSpec spec = .ok band)
    (analyzed : analyze spec band key series window known = .ok found) {e : Instant × Float}
    (bucket : e ∈ inside series window) : ¬ Offends spec e := by
  obtain ⟨verdicts, judged, _⟩ := verdicts_of_analyze analyzed
  obtain ⟨verdict, _, succeeded⟩ := exists_mem_of_forall₂ judged bucket
  exact not_offends_of_judge banded succeeded

/-- The threshold detector of a spec is sound and complete. Where no bucket of the window offends, it reports what
is due; where one does, it fails with the fault of the earliest. Buckets outside the window have no influence. -/
theorem analyze_sound_and_complete {d : Detector} (built : ofSpec spec = .ok d) (key : DimensionKey)
    (series : Series) (window : Window) (known : List Anomaly) :
    let buckets := inside series window
    buckets.Pairwise (fun e e' => e.1 < e'.1) ∧
    (∀ e, e ∈ buckets ↔ e ∈ series.entries ∧ window.start ≤ e.1 ∧ e.1 < window.stop) ∧
    ((∀ e ∈ buckets, ¬ Offends spec e) →
      ∃ found, d.analyze key series window known = .ok found ∧ Reports spec key known buckets found) ∧
    ((∃ e ∈ buckets, Offends spec e) →
      ∃ before e after cause, buckets = before ++ e :: after ∧ (∀ e' ∈ before, ¬ Offends spec e') ∧
        Fault spec key e cause ∧ cause.kind = .analysis ∧
        d.analyze key series window known = .error cause) ∧
    ∀ series' : Series, inside series' window = buckets →
      d.analyze key series' window known = d.analyze key series window known := by
  obtain ⟨band, banded, rfl⟩ := ofSpec_eq_ok built
  intro buckets
  refine ⟨inside_ascending series window, fun e => mem_inside_iff, ?_, ?_, fun series' same => ?_⟩
  · intro sound
    cases analyzed : analyze spec band key series window known with
    | ok found => exact ⟨found, analyzed, reports_of_analyze banded analyzed⟩
    | error cause =>
      obtain ⟨before, e, after, split, _, fault⟩ := fault_of_analyze banded analyzed
      have bucket : e ∈ inside series window := by
        rw [split]
        exact List.mem_append_right _ List.mem_cons_self
      exact absurd fault.offends (sound e bucket)
  · rintro ⟨e, bucket, offends⟩
    cases analyzed : analyze spec band key series window known with
    | ok found => exact absurd offends (not_offends_of_analyze banded analyzed bucket)
    | error cause =>
      obtain ⟨before, e, after, split, earlier, fault⟩ := fault_of_analyze banded analyzed
      exact ⟨before, e, after, cause, split, earlier, fault, fault.kind, analyzed⟩
  · change analyze spec band key series' window known = analyze spec band key series window known
    rw [analyze_eq, analyze_eq, same]

/-- The sample function reports the one value above ten inside the window, and fails with the first value that is
not finite. A value at the end of the window is outside. -/
theorem sample_sound_and_complete :
    let a : DimensionKey := ⟨["a"]⟩
    let late : Instant := ⟨-60, 0, by decide⟩
    let sound : Series := .ofList [(Window.sample.start, 50), (late, 7), (.epoch, 0 / 0)]
    let broken : Series := .ofList [(Window.sample.start, 1 / 0), (late, 0 / 0)]
    ∃ d, ofSpec .sample = .ok d ∧
      (∃ found, d.analyze a sound .sample [] = .ok found ∧
        Reports .sample a [] [(Window.sample.start, 50), (late, 7)] found) ∧
      d.analyze a broken .sample [] = .error (.notFinite (1 / 0) Window.sample.start a) := by
  intro a late sound broken
  obtain ⟨d, built⟩ : ∃ d, ofSpec .sample = .ok d := ⟨_, rfl⟩
  refine ⟨d, built, ?_, ?_⟩
  · have complete := (analyze_sound_and_complete built a sound .sample []).2.2.1
    refine complete fun e bucket => ?_
    have listed : e ∈ [(Window.sample.start, 50), (late, 7)] := bucket
    have finite : e.2.isFinite = true ∧ e.1.shift? Spec.sample.bucketLength ≠ none := by
      rcases List.mem_cons.mp listed with rfl | other
      · exact ⟨by decide +kernel, by decide⟩
      · obtain rfl := List.mem_singleton.mp other
        exact ⟨by decide +kernel, by decide⟩
    rintro (infinite | ⟨_, beyond⟩)
    · exact Bool.noConfusion (infinite.symm.trans finite.1)
    · exact finite.2 beyond
  · have failed := (analyze_sound_and_complete built a broken .sample []).2.2.2.1
    have first : (1 / 0 : Float).isFinite = false := by decide +kernel
    obtain ⟨before, e, after, cause, split, earlier, fault, _, analyzed⟩ :=
      failed ⟨(Window.sample.start, 1 / 0), List.mem_cons_self, .inl first⟩
    replace split : [(Window.sample.start, (1 / 0 : Float)), (late, 0 / 0)] = before ++ e :: after := split
    cases before with
    | nil =>
      obtain rfl := (List.cons.inj split).1
      cases fault with
      | notFinite _ => exact analyzed
      | overflow finite _ _ => exact Bool.noConfusion (first.symm.trans finite)
    | cons e' before =>
      obtain rfl := (List.cons.inj split).1
      exact absurd (.inl first) (earlier _ List.mem_cons_self)

end Threshold

end AnomalyWatch
