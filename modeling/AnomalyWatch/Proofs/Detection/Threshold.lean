import AnomalyWatch.Detection.Threshold
import AnomalyWatch.Proofs.Detection.Exploration
import Mathlib.Data.List.Forall2

/-!
What the threshold detector reports.

It reports at most one anomaly for each start, always of one bucket of the window, so every threshold detector
is faithful. In the other direction, when an analysis succeeds, every bucket of the window whose value lies
outside the band is reported or known already.
-/

set_option autoImplicit false
set_option relaxedAutoImplicit false

namespace AnomalyWatch

private theorem TimeUnit.duration_pos (u : TimeUnit) {amount : Nat} (positive : 0 < amount) :
    0 < u.duration amount := by
  have unit : 0 < u.millisPerUnit := by cases u <;> decide
  have product : 0 < amount * u.millisPerUnit := Nat.mul_pos positive unit
  simp only [duration, toMillis, longestDuration, mostMillis]
  omega

private theorem Spec.bucketDuration_pos {spec : Spec} (positive : spec.bucketSize ≠ 0) :
    0 < spec.bucketDuration :=
  spec.bucketUnit.duration_pos (Nat.pos_of_ne_zero positive)

namespace Band

def Excludes (b : Band) (value : Float) : Prop :=
  (∃ low, b.low = some low ∧ value < low) ∨ ∃ high, b.high = some high ∧ value > high

theorem exists_violated_iff {b : Band} {value : Float} :
    (∃ bound, b.violated? value = some bound) ↔ b.Excludes value := by
  simp only [violated?, lowViolated?, highViolated?, Excludes, ← Option.isSome_iff_exists,
    Option.orElse_eq_orElse]
  cases b.low <;> cases b.high <;> simp [Option.isSome_filter]

end Band

namespace Threshold

variable {spec : Spec} {band : Band} {key : DimensionKey} {series : Series} {window : Window}
  {known found : List Anomaly}

def inside (series : Series) (window : Window) : List (Instant × Float) :=
  series.entries.filter fun e => window.covers e.1

private theorem forall₂_of_mapM {α β ε : Type} {f : α → Except ε β} {l : List α} {r : List β}
    (h : l.mapM f = .ok r) : List.Forall₂ (fun a b => f a = .ok b) l r := by
  induction l generalizing r with
  | nil =>
    cases h
    exact .nil
  | cons a rest ih =>
    rw [List.mapM_cons] at h
    cases first : f a with
    | error e => simp [first, bind, Except.bind] at h
    | ok b =>
      cases others : rest.mapM f with
      | error e => simp [first, others, bind, Except.bind] at h
      | ok bs =>
        simp only [first, others, bind, Except.bind, pure, Except.pure, Except.ok.injEq] at h
        subst h
        exact .cons first (ih others)

private theorem exists_mapM_of_forall₂ {α β ε : Type} {f : α → Except ε β} {P : α → β → Prop} {l : List α}
    {r : List β} (h : List.Forall₂ P l r) (succeeds : ∀ a b, P a b → ∃ c, f a = .ok c) :
    ∃ r', l.mapM f = .ok r' := by
  induction h with
  | nil => exact ⟨[], rfl⟩
  | cons first _ ih =>
    obtain ⟨c, succeeded⟩ := succeeds _ _ first
    obtain ⟨cs, others⟩ := ih
    exact ⟨c :: cs, by rw [List.mapM_cons, succeeded, others]; rfl⟩

theorem exists_mem_of_forall₂ {α β : Type} {P : α → β → Prop} {l : List α} {r : List β}
    (h : List.Forall₂ P l r) {a : α} (present : a ∈ l) : ∃ b ∈ r, P a b := by
  induction h with
  | nil => cases present
  | @cons a' b _ _ first _ ih =>
    rcases List.mem_cons.mp present with rfl | later
    · exact ⟨b, List.mem_cons_self, first⟩
    · obtain ⟨b', named, related⟩ := ih later
      exact ⟨b', List.mem_cons_of_mem _ named, related⟩

theorem analyze_eq : analyze spec band key series window known =
    ((inside series window).mapM fun e => judge spec band key known e.1 e.2).map (List.filterMap id) := by
  rw [analyze, ← inside]
  cases (inside series window).mapM fun e => judge spec band key known e.1 e.2 <;> rfl

theorem verdicts_of_analyze (analyzed : analyze spec band key series window known = .ok found) :
    ∃ verdicts, List.Forall₂ (fun e v => judge spec band key known e.1 e.2 = .ok v)
      (inside series window) verdicts ∧ found = verdicts.filterMap id := by
  rw [analyze_eq] at analyzed
  cases judged : (inside series window).mapM fun e => judge spec band key known e.1 e.2 with
  | error e =>
    rw [judged] at analyzed
    cases analyzed
  | ok verdicts =>
    rw [judged] at analyzed
    exact ⟨verdicts, forall₂_of_mapM judged, (Except.ok.inj analyzed).symm⟩

theorem judge_cases {start : Instant} {value : Float} {verdict : Option Anomaly}
    (judged : judge spec band key known start value = .ok verdict) :
    (¬ band.Excludes value ∧ verdict = none) ∨
      ∃ bound stop, band.Excludes value ∧ start.shift? spec.bucketDuration = some stop ∧
        verdict = if isKnown key start stop known then none
          else some (anomaly spec key start stop value bound) := by
  unfold judge at judged
  split at judged
  · cases judged
  · split at judged
    next unviolated =>
      cases judged
      refine .inl ⟨fun excluded => ?_, rfl⟩
      obtain ⟨bound, violated⟩ := Band.exists_violated_iff.mpr excluded
      rw [unviolated] at violated
      cases violated
    next bound violated =>
      split at judged
      · cases judged
      next stop shifted =>
        cases judged
        exact .inr ⟨bound, stop, Band.exists_violated_iff.mp ⟨bound, violated⟩, shifted, rfl⟩

private theorem exists_judge_of_judge {start : Instant} {value : Float} {verdict : Option Anomaly}
    (judged : judge spec band key known start value = .ok verdict) (known' : List Anomaly) :
    ∃ verdict', judge spec band key known' start value = .ok verdict' := by
  unfold judge at judged ⊢
  by_cases finite : value.isFinite
  · cases violated : band.violated? value with
    | none => exact ⟨none, by simp [finite]⟩
    | some bound =>
      cases shifted : start.shift? spec.bucketDuration with
      | none => simp [finite, violated, shifted] at judged
      | some stop => exact ⟨_, by simp [finite]; rfl⟩
  · simp [finite] at judged

private theorem bucket_of_verdict {start : Instant} {value : Float} {a : Anomaly}
    (judged : judge spec band key known start value = .ok (some a)) :
    a.start = start ∧ start.shift? spec.bucketDuration = some a.stop := by
  rcases judge_cases judged with ⟨_, silent⟩ | ⟨bound, stop, _, shifted, reported⟩
  · cases silent
  · split at reported
    · cases reported
    · cases reported
      exact ⟨rfl, shifted⟩

def Scored (band : Band) (a : Anomaly) : Prop :=
  ∃ value bound, value.isFinite ∧ band.violated? value = some bound ∧ a.score = score value bound

theorem scored_of_verdict {start : Instant} {value : Float} {a : Anomaly}
    (judged : judge spec band key known start value = .ok (some a)) : Scored band a ∧ a.weight = 1 := by
  unfold judge at judged
  split at judged
  next => cases judged
  next finite =>
    split at judged
    next => cases judged
    next bound violated =>
      split at judged
      next => cases judged
      next stop _ =>
        have reported := Except.ok.inj judged
        split at reported
        next => cases reported
        next =>
          cases reported
          exact ⟨⟨value, bound, by simpa using finite, violated, rfl⟩, rfl⟩

theorem starts_sublist {buckets : List (Instant × Float)} {verdicts : List (Option Anomaly)}
    (judged : List.Forall₂ (fun e v => judge spec band key known e.1 e.2 = .ok v) buckets verdicts) :
    ((verdicts.filterMap id).map Anomaly.start).Sublist (buckets.map Prod.fst) := by
  induction judged with
  | nil => exact .slnil
  | @cons e v _ _ first _ ih =>
    cases v with
    | none => exact ih.cons _
    | some a =>
      rw [List.filterMap_cons_some (f := id) rfl, List.map_cons, List.map_cons, (bucket_of_verdict first).1]
      exact ih.cons_cons _

private theorem nodup_starts (analyzed : analyze spec band key series window known = .ok found) :
    (found.map Anomaly.start).Nodup := by
  obtain ⟨verdicts, judged, rfl⟩ := verdicts_of_analyze analyzed
  refine (starts_sublist judged).nodup ?_
  exact (List.filter_sublist.map Prod.fst).nodup series.nodup_keys

private theorem distinct_stamped (analyzed : analyze spec band key series window known = .ok found) :
    Anomaly.Distinct (found.map (Anomaly.stamp spec)) := by
  have starts : (((found.map (Anomaly.stamp spec)).map Anomaly.identity).map
      Anomaly.Identity.start).Nodup := by
    simpa [Function.comp_def, Anomaly.identity, Anomaly.stamp] using nodup_starts analyzed
  exact Anomaly.distinct_iff.mpr (List.Nodup.of_map _ starts)

theorem verdict_of_mem (analyzed : analyze spec band key series window known = .ok found) {a : Anomaly}
    (reported : a ∈ found) :
    ∃ e ∈ inside series window, judge spec band key known e.1 e.2 = .ok (some a) := by
  obtain ⟨verdicts, judged, rfl⟩ := verdicts_of_analyze analyzed
  have named : some a ∈ verdicts := by simpa using reported
  exact exists_mem_of_forall₂ judged.flip named

private theorem bucket_of_mem (analyzed : analyze spec band key series window known = .ok found) {a : Anomaly}
    (reported : a ∈ found) : window.covers a.start ∧ a.start.shift? spec.bucketDuration = some a.stop := by
  obtain ⟨e, bucket, verdict⟩ := verdict_of_mem analyzed reported
  obtain ⟨starts, shifted⟩ := bucket_of_verdict verdict
  rw [starts]
  exact ⟨of_decide_eq_true (List.mem_filter.mp bucket).2, shifted⟩

theorem ofSpec_eq_ok {d : Detector} (built : ofSpec spec = .ok d) :
    ∃ band, Band.ofSpec spec = .ok band ∧ d = ⟨spec, analyze spec band⟩ := by
  unfold ofSpec at built
  cases banded : Band.ofSpec spec with
  | error e => simp [banded, bind, Except.bind] at built
  | ok band =>
    simp only [banded, bind, Except.bind, pure, Except.pure, Except.ok.injEq] at built
    exact ⟨band, rfl, built.symm⟩

/-- Every threshold detector reports different anomalies, and they overlap the window. -/
theorem faithful_of_ofSpec {d : Detector} (built : ofSpec spec = .ok d) : d.Faithful := by
  obtain ⟨band, _, rfl⟩ := ofSpec_eq_ok built
  refine ⟨distinct_stamped, fun {key series window known found} positive analyzed a reported => ?_⟩
  obtain ⟨⟨begins, ends⟩, shifted⟩ := bucket_of_mem analyzed reported
  have later := Instant.lt_of_shift? (by exact_mod_cast Spec.bucketDuration_pos positive) shifted
  exact ⟨ends, Instant.lt_of_le_of_lt begins later⟩

private theorem known_or_reported (analyzed : analyze spec band key series window known = .ok found)
    {start : Instant} {value : Float} (bucket : (start, value) ∈ series.entries)
    (covered : window.covers start) (excluded : band.Excludes value) :
    ∃ stop, start.shift? spec.bucketDuration = some stop ∧
      (isKnown key start stop known = true ∨
        ∃ a ∈ found, a.dimensions = key ∧ a.start = start ∧ a.stop = stop) := by
  obtain ⟨verdicts, judged, rfl⟩ := verdicts_of_analyze analyzed
  have here : (start, value) ∈ inside series window :=
    List.mem_filter.mpr ⟨bucket, decide_eq_true covered⟩
  obtain ⟨v, named, verdict⟩ := exists_mem_of_forall₂ judged here
  rcases judge_cases verdict with ⟨included, _⟩ | ⟨limit, stop, _, shifted, rfl⟩
  · exact absurd excluded included
  refine ⟨stop, shifted, ?_⟩
  by_cases seen : isKnown key start stop known = true
  · exact .inl seen
  · exact .inr ⟨_, List.mem_filterMap.mpr ⟨_, named, if_neg seen⟩, rfl, rfl, rfl⟩

private theorem exists_analyze_of_analyze (analyzed : analyze spec band key series window known = .ok found)
    (known' : List Anomaly) : ∃ found', analyze spec band key series window known' = .ok found' := by
  obtain ⟨verdicts, judged, _⟩ := verdicts_of_analyze analyzed
  obtain ⟨verdicts', again⟩ := exists_mapM_of_forall₂ judged fun e v first =>
    exists_judge_of_judge first known'
  refine ⟨verdicts'.filterMap id, ?_⟩
  rw [analyze_eq, again]
  rfl

/-- Where an analysis of an exploration succeeds, a bucket of the window whose value lies outside the band is
known or kept. -/
theorem known_or_kept_of_excluded {x : Exploration} (detector : x.detector = ⟨spec, analyze spec band⟩)
    (own : ∀ k ∈ x.known, k.collection = spec.collection ∧ k.functionId = some spec.id)
    {replies : List (Except Error SeriesMap)} {reply : SeriesMap} (answered : .ok reply ∈ replies)
    (entry : (key, series) ∈ reply.entries) (enough : Exploration.leastBuckets ≤ series.size)
    (analyzed : analyze spec band key series x.window known = .ok found) {start : Instant} {value : Float}
    (bucket : (start, value) ∈ series.entries) (covered : x.window.covers start)
    (excluded : band.Excludes value) :
    ∃ stop, start.shift? spec.bucketDuration = some stop ∧
      ⟨spec.collection, key, start, stop, some spec.id⟩ ∈
        (x.known ++ (x.outcome replies).results).map Anomaly.identity := by
  obtain ⟨found', analyzed'⟩ := exists_analyze_of_analyze analyzed x.known
  obtain ⟨stop, shifted, seen | ⟨a, reported, rfl, rfl, rfl⟩⟩ :=
    known_or_reported analyzed' bucket covered excluded
  · obtain ⟨k, present, same⟩ := List.any_eq_true.mp seen
    obtain ⟨collection, function⟩ := own k present
    refine ⟨stop, shifted, List.mem_map.mpr ⟨k, List.mem_append_left _ present, ?_⟩⟩
    simp only [Bool.and_eq_true, decide_eq_true_eq] at same
    simp only [Anomaly.identity, collection, function, same.1.1, same.1.2, same.2]
  · have accounted := x.known_or_kept answered entry enough (by rw [detector]; exact analyzed') reported
    rw [detector] at accounted
    refine ⟨a.stop, shifted, ?_⟩
    rw [List.map_append, List.mem_append]
    exact accounted.imp Anomaly.isAmong_iff.mp Anomaly.isAmong_iff.mp

end Threshold

end AnomalyWatch
