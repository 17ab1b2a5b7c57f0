import AnomalyWatch.Proofs.Detection.Exploration
import AnomalyWatch.Proofs.Pass.Conduct

/-!
How often an exploration keeps an anomaly.

What an analysis reports is compared with what is known and with what earlier analyses reported, not with the
rest of its own report. So what is new is kept as often as it stands in the first report that has it, and the
results repeat nothing exactly if no such report does.
-/

set_option autoImplicit false
set_option relaxedAutoImplicit false

namespace AnomalyWatch

open Dialogue (Course)

namespace Anomaly

def times (i : Identity) (rows : List Anomaly) : Nat :=
  (rows.map identity).count i

private theorem times_append (i : Identity) (rows more : List Anomaly) :
    times i (rows ++ more) = times i rows + times i more := by
  rw [times, List.map_append, List.count_append, times, times]

theorem times_eq_zero {i : Identity} {rows : List Anomaly} : times i rows = 0 ↔ i ∉ rows.map identity :=
  List.count_eq_zero

private theorem distinct_iff_times {rows : List Anomaly} : Distinct rows ↔ ∀ i, times i rows ≤ 1 := by
  rw [distinct_iff, List.nodup_iff_count_le_one]
  rfl

end Anomaly

namespace Exploration

open Anomaly (times)

variable {x : Exploration}

def report (x : Exploration) : Visit → Option (List Anomaly)
  | .analyzed _ found => some (found.map (Anomaly.stamp x.detector.spec))
  | .skipped _ _ | .failed _ _ => none

def reports (x : Exploration) (replies : List (Except Error SeriesMap)) : List (List Anomaly) :=
  replies.flatMap fun
    | .error _ => []
    | .ok reply => (reply.entries.map fun e => x.examine e.1 e.2).filterMap x.report

def keep (x : Exploration) (kept report : List Anomaly) : List Anomaly :=
  kept ++ report.filter (x.isFresh kept)

def firstReport (i : Anomaly.Identity) (reports : List (List Anomaly)) : List Anomaly :=
  (reports.find? fun report => i ∈ report.map Anomaly.identity).getD []

private theorem results_foldl_record (visits : List Visit) (o : Outcome) :
    (visits.foldl x.record o).results = (visits.filterMap x.report).foldl x.keep o.results := by
  induction visits generalizing o with
  | nil => rfl
  | cons v rest ih =>
    rw [List.foldl_cons, ih]
    cases v with
    | skipped _ _ => rfl
    | failed _ _ => rfl
    | analyzed _ found => rfl

theorem results_foldl_absorb (replies : List (Except Error SeriesMap)) (o : Outcome) :
    (replies.foldl x.absorb o).results = (x.reports replies).foldl x.keep o.results := by
  induction replies generalizing o with
  | nil => rfl
  | cons reply rest ih =>
    have first : (x.absorb o reply).results = (x.reports [reply]).foldl x.keep o.results := by
      cases reply with
      | error _ => rfl
      | ok m =>
        have only : x.reports [.ok m] = (m.entries.map fun e => x.examine e.1 e.2).filterMap x.report :=
          List.append_nil _
        rw [only]
        exact results_foldl_record _ (begun o)
    have split : x.reports ([reply] ++ rest) = x.reports [reply] ++ x.reports rest := List.flatMap_append
    rw [List.singleton_append] at split
    rw [List.foldl_cons, ih, first, split, List.foldl_append]

/-- All records of an anomaly in a report are fresh, or none is. -/
theorem times_keep (i : Anomaly.Identity) (kept report : List Anomaly) :
    times i (x.keep kept report) = times i kept +
      if i ∈ x.known.map Anomaly.identity ∨ i ∈ kept.map Anomaly.identity then 0 else times i report := by
  let isNew (j : Anomaly.Identity) : Bool :=
    decide (j ∉ x.known.map Anomaly.identity) && decide (j ∉ kept.map Anomaly.identity)
  have by_identity : x.isFresh kept = isNew ∘ Anomaly.identity := by
    funext a
    rw [Bool.eq_iff_iff, isFresh, Bool.and_eq_true, Bool.not_eq_true', Bool.not_eq_true',
      Anomaly.isAmong_eq_false_iff, Anomaly.isAmong_eq_false_iff]
    simp only [isNew, Function.comp_apply, Bool.and_eq_true, decide_eq_true_iff]
  rw [keep, Anomaly.times_append, Nat.add_left_cancel_iff, times, by_identity, ← List.filter_map]
  split
  next old =>
    have dropped : i ∉ (report.map Anomaly.identity).filter isNew := by
      intro present
      have passes : isNew i = true := (List.mem_filter.mp present).2
      simp only [isNew, Bool.and_eq_true, decide_eq_true_iff] at passes
      exact old.elim passes.1 passes.2
    exact List.count_eq_zero.mpr dropped
  next new =>
    obtain ⟨unknown, unkept⟩ := not_or.mp new
    have passes : isNew i = true :=
      (Bool.and_eq_true _ _).mpr ⟨decide_eq_true unknown, decide_eq_true unkept⟩
    exact List.count_filter passes

/-- What is known is not kept; what is not is kept from the first report that has it. -/
theorem times_foldl_keep (i : Anomaly.Identity) (reports : List (List Anomaly)) (kept : List Anomaly) :
    times i (reports.foldl x.keep kept) =
      if i ∈ x.known.map Anomaly.identity ∨ i ∈ kept.map Anomaly.identity then times i kept
      else times i (firstReport i reports) := by
  induction reports generalizing kept with
  | nil =>
    split
    next => rfl
    next new => exact Anomaly.times_eq_zero.mpr (not_or.mp new).2
  | cons report rest ih =>
    have first := times_keep (x := x) i kept report
    rw [List.foldl_cons, ih]
    by_cases old : i ∈ x.known.map Anomaly.identity ∨ i ∈ kept.map Anomaly.identity
    · rw [if_pos old, Nat.add_zero] at first
      have still : i ∈ x.known.map Anomaly.identity ∨ i ∈ (x.keep kept report).map Anomaly.identity := by
        refine old.imp_right fun present => ?_
        rw [keep, List.map_append]
        exact List.mem_append_left _ present
      rw [if_pos still, if_pos old, first]
    · obtain ⟨unknown, unkept⟩ := not_or.mp old
      rw [if_neg old, Anomaly.times_eq_zero.mpr unkept, Nat.zero_add] at first
      rw [if_neg old]
      have kept_iff : i ∈ (x.keep kept report).map Anomaly.identity ↔ i ∈ report.map Anomaly.identity := by
        rw [← not_iff_not, ← Anomaly.times_eq_zero, first, Anomaly.times_eq_zero]
      by_cases reported : i ∈ report.map Anomaly.identity
      · have found : firstReport i (report :: rest) = report := by
          simp only [firstReport, List.find?_cons, decide_eq_true reported, Option.getD_some]
        rw [if_pos (.inr (kept_iff.mpr reported)), first, found]
      · have later : firstReport i (report :: rest) = firstReport i rest := by
          simp only [firstReport, List.find?_cons, decide_eq_false reported]
        rw [if_neg (not_or.mpr ⟨unknown, mt kept_iff.mp reported⟩), later]

/-- Nothing that is known is among the results, and what is new is there as often as it stands in the first
report that has it. So the results are different from each other exactly if no such report repeats it. -/
theorem times_of_explored {job : String} {requests : List Request} {log : Pass.Log} {o : Outcome}
    (course : Course (Pass.explore x job .initial requests) log o) :
    (∀ a ∈ o.results, a.isAmong x.known = false) ∧
    (∀ i, times i o.results = if i ∈ x.known.map Anomaly.identity then 0
      else times i (firstReport i (x.reports (Pass.replies log)))) ∧
    (Anomaly.Distinct o.results ↔ ∀ i, i ∉ x.known.map Anomaly.identity →
      times i (firstReport i (x.reports (Pass.replies log))) ≤ 1) := by
  obtain ⟨_, told⟩ := Pass.course_explore course
  have results : o.results = (x.reports (Pass.replies log)).foldl x.keep [] := by
    rw [told]
    exact results_foldl_absorb _ .initial
  have counted (i : Anomaly.Identity) : times i o.results = if i ∈ x.known.map Anomaly.identity then 0
      else times i (firstReport i (x.reports (Pass.replies log))) := by
    have all := times_foldl_keep (x := x) i (x.reports (Pass.replies log)) []
    rw [← results] at all
    simpa [times] using all
  refine ⟨fun a kept => ?_, counted, ?_⟩
  · have present : a.identity ∈ o.results.map Anomaly.identity := List.mem_map_of_mem kept
    refine Anomaly.isAmong_eq_false_iff.mpr fun known => ?_
    have absent := counted a.identity
    rw [if_pos known] at absent
    exact Anomaly.times_eq_zero.mp absent present
  · rw [Anomaly.distinct_iff_times]
    refine forall_congr' fun i => ?_
    rw [counted]
    by_cases known : i ∈ x.known.map Anomaly.identity
    · rw [if_pos known]
      exact iff_of_true (Nat.zero_le _) fun unknown => absurd known unknown
    · rw [if_neg known]
      exact ⟨fun once _ => once, fun once => once known⟩

/-- An exploration of the window of the sample function, where two analyses report one anomaly twice each. -/
theorem kept_twice_of_four_reported :
    let a := Anomaly.unstamped ⟨["a"]⟩ Window.sample.start .epoch 1
    let x : Exploration := ⟨⟨.sample, fun _ _ _ _ => .ok [a, a]⟩, .sample, []⟩
    let whole : Request := ⟨"web", "AGGREGATE_1_MINUTES(latency)", Window.sample.start, .epoch, none⟩
    let requests := [whole, whole.groupedBy "country"]
    ∃ log o, Course (Pass.explore x "latency" .initial requests) log o ∧ x.reports (Pass.replies log) =
      [[a.stamp .sample, a.stamp .sample], [a.stamp .sample, a.stamp .sample]] ∧
      times (a.stamp .sample).identity o.results = 2 := by
  intro a x whole requests
  let reply : SeriesMap := .ofList [(⟨["a"]⟩, .ofList [(Window.sample.start, 1), (.epoch, 1)])]
  let visit : (c : Pass.Call) × Pass.Reply c := ⟨.visited "latency" (.analyzed ⟨["a"]⟩ [a, a]), ()⟩
  let log : Pass.Log :=
    [⟨.query whole, .ok reply⟩, visit, ⟨.query (whole.groupedBy "country"), .ok reply⟩, visit]
  have course : ∃ o, Course (Pass.explore x "latency" .initial requests) log o :=
    ⟨_, .ask (.ask (.ask (.ask (.done _))))⟩
  obtain ⟨o, course⟩ := course
  have reported : x.reports (Pass.replies log) =
      [[a.stamp .sample, a.stamp .sample], [a.stamp .sample, a.stamp .sample]] := rfl
  refine ⟨log, o, course, reported, ?_⟩
  have counted := (times_of_explored course).2.1 (a.stamp .sample).identity
  rw [reported] at counted
  exact counted

/-- A repetition within one report is kept. -/
theorem results_repeat :
    let a := Anomaly.unstamped ⟨["a"]⟩ Window.sample.start .epoch 1
    let x : Exploration := ⟨⟨.sample, fun _ _ _ _ => .ok [a, a]⟩, .sample, []⟩
    let whole : Request := ⟨"web", "AGGREGATE_1_MINUTES(latency)", Window.sample.start, .epoch, none⟩
    let reply : SeriesMap := .ofList [(⟨["a"]⟩, .ofList [(Window.sample.start, 1), (.epoch, 1)])]
    ∃ o, Course (Pass.explore x "latency" .initial [whole])
      [⟨.query whole, .ok reply⟩, ⟨.visited "latency" (.analyzed ⟨["a"]⟩ [a, a]), ()⟩] o ∧
      o.results = [a.stamp .sample, a.stamp .sample] ∧ ¬ Anomaly.Distinct o.results := by
  intro a x whole reply
  refine ⟨⟨[a.stamp .sample, a.stamp .sample], ⟨1, 0, 1, 0, 0, 2, 0⟩⟩, .ask (.ask (.done _)), rfl, ?_⟩
  intro distinct
  have different := (List.pairwise_cons.mp distinct).1 _ List.mem_cons_self
  rw [Anomaly.same_iff.mpr rfl] at different
  cases different

end Exploration

end AnomalyWatch
