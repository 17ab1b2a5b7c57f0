import AnomalyWatch.Proofs.Pass.Accounts
import AnomalyWatch.Proofs.Text.Blank
import AnomalyWatch.Proofs.Window.Resolution

/-!
An unsound pass asks nothing, and a sound one keeps to its window.

A pass is improper if its window lies outside the calendar or is not in order, or if its spec has no bucket or no
metric. It is refused for that before anything else happens. A proper pass has one window, which its look-up, its
requests, its analyses and its report agree on, and it fails for the store alone.
-/

set_option autoImplicit false
set_option relaxedAutoImplicit false

namespace AnomalyWatch

open Dialogue (Course)

namespace Error

private theorem kind_asStoreFailure (e : Error) : e.asStoreFailure.kind = .persistence := by
  unfold asStoreFailure
  split
  next already => exact already
  next => rfl

end Error

namespace Window

variable {w : Window} {e : Error}

private theorem validate_eq_ok_iff : w.validate = .ok () ↔ w.start < w.stop := by
  unfold validate
  split
  next ordered => exact iff_of_true rfl ordered
  next unordered => exact iff_of_false (fun ok => by cases ok) unordered

private theorem kind_of_validate (failed : w.validate = .error e) : e.kind = .validation := by
  unfold validate at failed
  split at failed
  · cases failed
  · cases failed
    rfl

end Window

namespace Spec

variable {s : Spec} {e : Error}

private theorem exists_aggregation_iff :
    (∃ text, s.aggregation = .ok text) ↔ s.bucketSize ≠ 0 ∧ Text.allBlank s.metric = false := by
  unfold aggregation
  rw [← Text.isEmpty_trim]
  by_cases zero : s.bucketSize = 0
  · simp [zero]
  · cases blank : (Text.trim s.metric).isEmpty <;> simp [zero, blank]

private theorem kind_of_aggregation (failed : s.aggregation = .error e) : e.kind = .validation := by
  simp only [aggregation] at failed
  split at failed
  · cases failed
    rfl
  · split at failed
    · cases failed
      rfl
    · cases failed

end Spec

namespace Request

private theorem bounds_of_mem_plan {spec : Spec} {aggregation : String} {window : Window} {request : Request}
    (planned : request ∈ plan spec aggregation window) :
    request.start = window.start ∧ request.stop = window.stop := by
  rcases List.mem_cons.mp planned with rfl | grouped
  · exact ⟨rfl, rfl⟩
  · obtain ⟨dimension, _, rfl⟩ := List.mem_map.mp grouped
    exact ⟨rfl, rfl⟩

end Request

namespace Pass

section Stages

variable {q : Lookup} {t : Nat} {rows : List Anomaly} {h : Store.History} {e : Error}

theorem Reading.kind {h : Store.History} (reading : Reading q h (.error e)) : e.kind = .persistence := by
  cases reading <;> exact Error.kind_asStoreFailure _

theorem Writing.kind (writing : Writing rows h (.error e)) : e.kind = .persistence := by
  cases writing <;> exact Error.kind_asStoreFailure _

private theorem Reading.eq_of_find {r : Except Error (List Anomaly)} (reading : Reading q h r) {q' : Lookup}
    {found : Except Error (List Anomaly)} (asked : ⟨.find t q', found⟩ ∈ h) : q' = q := by
  cases reading <;> simp at asked <;> exact asked.1.2

private theorem Creating.not_find {r : Except Error Unit} (creating : Creating t rows h r) {t' : Nat} {q : Lookup}
    {found : Except Error (List Anomaly)} : ⟨.find t' q, found⟩ ∉ h := by
  induction creating with
  | nil => simp
  | refused a rest e => simp
  | cons a go ih => simpa using ih

private theorem Writing.not_find {r : Except Error Nat} (writing : Writing rows h r)
    {found : Except Error (List Anomaly)} : ⟨.find t q, found⟩ ∉ h := by
  cases writing with
  | nothing => simp
  | unbegun _ e => simp
  | uncreated _ r creating => simpa using creating.not_find
  | uncommitted _ e creating => simpa using creating.not_find
  | written _ creating => simpa using creating.not_find

@[simp]
theorem queries_ofHistory (h : Store.History) : queries (ofHistory h) = [] := by
  simp [queries, ofHistory, List.filterMap_map, Function.comp_def, query?]

@[simp]
theorem visits_ofHistory (h : Store.History) : visits (ofHistory h) = [] := by
  simp [visits, ofHistory, List.filterMap_map, Function.comp_def, visit?]

end Stages

/-- Everything about a pass concerns one window, and nothing but the store makes it fail. A pass that succeeds has
looked up what is known there and queried all its requests. -/
structure Keeps (j : Job) (window : Window) (log : Log) (outcome : Except Error Summary) : Prop where
  looked : ∀ t q found, (⟨.store (.find t q), found⟩ : (c : Call) × Reply c) ∈ log →
    q = j.lookup window
  queried : ∀ request ∈ queries log, request.start = window.start ∧ request.stop = window.stop
  analysed : ∀ a ∈ analyses log, ∃ series known, a.2 = j.detector.analyze a.1 series window known
  reported : ∀ summary, outcome = .ok summary → summary.window = window
  complete : ∀ summary, outcome = .ok summary →
    (∃ t known, (⟨.store (.find t (j.lookup window)), .ok known⟩ : (c : Call) × Reply c) ∈ log) ∧
    ∃ aggregation, j.detector.spec.aggregation = .ok aggregation ∧
      queries log = Request.plan j.detector.spec aggregation window
  failed : ∀ e, outcome = .error e → e.kind = .persistence

end Pass

namespace Job

variable {j : Job} {now : Instant} {window : Window} {aggregation : String} {log : Pass.Log}
  {outcome : Except Error Summary} {e : Error}

/-- A pass of the job has no window inside the calendar, or one that does not start before it ends, or nothing to ask
for. -/
inductive Improper (j : Job) (now : Instant) : Prop
  | outOfRange (beyond : ∀ w, ¬ Window.Resolves j.detector.spec now j.bounds w)
  | unordered {w : Window} (resolves : Window.Resolves j.detector.spec now j.bounds w)
      (inverted : ¬ w.start < w.stop)
  | zeroBucket (zero : j.detector.spec.bucketSize = 0)
  | blankMetric (blank : Text.allBlank j.detector.spec.metric = true)

private theorem prepare_eq_ok_iff : j.prepare now = .ok (window, aggregation) ↔
    Window.Resolves j.detector.spec now j.bounds window ∧ window.start < window.stop ∧
      j.detector.spec.aggregation = .ok aggregation := by
  rw [← Window.resolve_eq_ok_iff, ← Window.validate_eq_ok_iff]
  unfold prepare
  cases Window.resolve j.detector.spec now j.bounds with
  | error e => simp [bind, Except.bind]
  | ok w =>
    cases valid : w.validate with
    | error e =>
      simp only [bind, Except.bind, valid, reduceCtorEq, false_iff]
      rintro ⟨same, ordered, _⟩
      cases same
      rw [valid] at ordered
      cases ordered
    | ok _ =>
      cases aggregated : j.detector.spec.aggregation with
      | error e => simp [bind, Except.bind, valid]
      | ok text =>
        simp only [bind, Except.bind, valid, pure, Except.pure, Except.ok.injEq, Prod.mk.injEq]
        constructor
        · rintro ⟨rfl, rfl⟩
          exact ⟨rfl, valid, rfl⟩
        · rintro ⟨rfl, _, rfl⟩
          exact ⟨rfl, rfl⟩

private theorem kind_of_prepare (refused : j.prepare now = .error e) : e.kind = .validation := by
  unfold prepare at refused
  cases resolved : Window.resolve j.detector.spec now j.bounds with
  | error e' =>
    obtain rfl : e' = e := by simpa [resolved, bind, Except.bind] using refused
    exact Window.kind_of_resolve resolved
  | ok w =>
    cases valid : w.validate with
    | error e' =>
      obtain rfl : e' = e := by simpa [resolved, valid, bind, Except.bind] using refused
      exact Window.kind_of_validate valid
    | ok _ =>
      cases aggregated : j.detector.spec.aggregation with
      | error e' =>
        obtain rfl : e' = e := by simpa [resolved, valid, aggregated, bind, Except.bind] using refused
        exact Spec.kind_of_aggregation aggregated
      | ok text => simp [resolved, valid, aggregated, bind, Except.bind, pure, Except.pure] at refused

private theorem improper_iff : j.Improper now ↔ ∃ e, j.prepare now = .error e := by
  constructor
  · intro improper
    cases prepared : j.prepare now with
    | error e => exact ⟨e, rfl⟩
    | ok sound =>
      obtain ⟨window, aggregation⟩ := sound
      obtain ⟨resolves, ordered, aggregated⟩ := prepare_eq_ok_iff.mp prepared
      have shows := Spec.exists_aggregation_iff.mp ⟨aggregation, aggregated⟩
      cases improper with
      | outOfRange beyond => exact absurd resolves (beyond window)
      | unordered resolves' inverted =>
        rw [← Window.resolve_eq_ok_iff] at resolves resolves'
        cases resolves.symm.trans resolves'
        exact absurd ordered inverted
      | zeroBucket zero => exact absurd zero shows.1
      | blankMetric blank => exact absurd (shows.2.symm.trans blank) Bool.false_ne_true
  · rintro ⟨e, refused⟩
    by_contra proper
    have resolves : ∃ w, Window.Resolves j.detector.spec now j.bounds w := by
      by_contra none
      exact proper (.outOfRange (not_exists.mp none))
    obtain ⟨w, resolves⟩ := resolves
    have ordered : w.start < w.stop := by
      by_contra inverted
      exact proper (.unordered resolves inverted)
    have blank : Text.allBlank j.detector.spec.metric = false := by
      rw [← Bool.not_eq_true]
      exact fun blank => proper (.blankMetric blank)
    obtain ⟨text, aggregated⟩ := Spec.exists_aggregation_iff.mpr ⟨fun zero => proper (.zeroBucket zero), blank⟩
    have prepared := prepare_eq_ok_iff.mpr ⟨resolves, ordered, aggregated⟩
    rw [refused] at prepared
    cases prepared

section Stages

variable (stages : Stages j window aggregation log outcome)

include stages

private theorem Stages.queries_eq : Pass.queries log = Request.plan j.detector.spec aggregation window := by
  refine (congrArg Pass.queries stages.log_eq).trans ?_
  rw [Pass.queries_append, Pass.queries_append, Pass.queries_ofHistory, Pass.queries_ofHistory, List.nil_append,
    List.append_nil]
  exact (Pass.accounted_of_course stages.explored).1.asked

private theorem Stages.analyses_eq : Pass.analyses log = Pass.analyses stages.exploring := by
  have told : Pass.visits log = Pass.visits stages.exploring := by
    refine (congrArg Pass.visits stages.log_eq).trans ?_
    rw [Pass.visits_append, Pass.visits_append, Pass.visits_ofHistory, Pass.visits_ofHistory, List.nil_append,
      List.append_nil]
    rfl
  exact congrArg (List.filterMap fun v => v.2.analysis?) told

private theorem Stages.window_of_ok {summary : Summary} (ok : outcome = .ok summary) : summary.window = window := by
  have written := stages.outcome_eq.symm.trans ok
  cases wrote : stages.written with
  | error e =>
    rw [wrote] at written
    cases written
  | ok persisted =>
    rw [wrote] at written
    cases written
    rfl

private theorem Stages.kind_of_error (failed : outcome = .error e) : e.kind = .persistence := by
  have written := stages.outcome_eq.symm.trans failed
  have wrote := stages.wrote
  generalize stages.written = result at wrote written
  cases result with
  | error e' =>
    cases written
    exact wrote.kind
  | ok persisted => cases written

private theorem keeps_of_stages (aggregated : j.detector.spec.aggregation = .ok aggregation) :
    Pass.Keeps j window log outcome := by
  obtain ⟨t, looked⟩ := stages.read.find_mem
  have early : (⟨.find t (j.lookup window), .ok stages.known⟩ : (c : Store.Call) × Store.Reply c) ∈
      Pass.history log := by
    rw [stages.history_eq]
    exact List.mem_append_left _ looked
  refine
    { looked := fun t q found asked => ?_
      queried := fun request asked => ?_
      analysed := fun a made => ?_
      reported := fun _ => stages.window_of_ok
      complete := fun _ _ => ⟨⟨t, _, Pass.mem_history.mp early⟩, aggregation, aggregated, stages.queries_eq⟩
      failed := fun _ => stages.kind_of_error }
  · rw [← Pass.mem_history, stages.history_eq, List.mem_append] at asked
    rcases asked with read | wrote
    · exact stages.read.eq_of_find read
    · exact absurd wrote stages.wrote.not_find
  · rw [stages.queries_eq] at asked
    exact Request.bounds_of_mem_plan asked
  · rw [stages.analyses_eq, (Pass.accounted_of_course stages.explored).1.made] at made
    obtain ⟨e, _, rfl⟩ := List.mem_map.mp made
    exact ⟨e.2, stages.known, rfl⟩

end Stages

private theorem keeps_of_course (aggregated : j.detector.spec.aggregation = .ok aggregation)
    (course : Course (j.passOver window aggregation) log outcome) : Pass.Keeps j window log outcome := by
  rcases course_passOver.mp course with ⟨h, e, rfl, reading, rfl⟩ | ⟨⟨stages⟩⟩
  · refine
      { looked := fun t q found asked => ?_
        queried := by simp
        analysed := by simp [Pass.analyses]
        reported := fun summary ok => nomatch ok
        complete := fun summary ok => nomatch ok
        failed := fun e failed => ?_ }
    · rw [← Pass.mem_history, Pass.history_ofHistory] at asked
      exact reading.eq_of_find asked
    · cases failed
      exact reading.kind
  · exact keeps_of_stages stages aggregated

/-- An improper pass ends with a validation error and asks nothing of anyone. A proper one has a window that starts
before it ends, and whatever it is told it keeps to that window and fails with nothing but a persistence error. -/
theorem refused_or_keeps_window (j : Job) (now : Instant) :
    (j.Improper now → ∃ e, e.kind = .validation ∧
      ∀ log outcome, Course (j.pass now) log outcome ↔ log = [] ∧ outcome = .error e) ∧
    (¬ j.Improper now → ∃ window, Window.Resolves j.detector.spec now j.bounds window ∧
      window.start < window.stop ∧
      ∀ log outcome, Course (j.pass now) log outcome → Pass.Keeps j window log outcome) := by
  cases prepared : j.prepare now with
  | error e =>
    refine ⟨fun _ => ⟨e, kind_of_prepare prepared, fun log outcome => ?_⟩,
      fun proper => absurd (improper_iff.mpr ⟨e, prepared⟩) proper⟩
    rw [course_pass, prepared]
    simp
  | ok sound =>
    obtain ⟨window, aggregation⟩ := sound
    obtain ⟨resolves, ordered, aggregated⟩ := prepare_eq_ok_iff.mp prepared
    constructor
    · intro improper
      obtain ⟨e, refused⟩ := improper_iff.mp improper
      rw [prepared] at refused
      cases refused
    · refine fun _ => ⟨window, resolves, ordered, fun log outcome course => ?_⟩
      rcases course_pass.mp course with ⟨e, refused, _⟩ | ⟨window', aggregation', prepared', course⟩
      · rw [prepared] at refused
        cases refused
      · cases prepared.symm.trans prepared'
        exact keeps_of_course aggregated course

/-- Bounds the wrong way round are refused. Without bounds the same function has a window, and the conflict that keeps
the store from beginning a transaction comes out as a persistence error. -/
theorem inverted_refused_conflict_wrapped :
    let detector : Detector := ⟨.sample, fun _ _ _ _ => .ok []⟩
    let inverted : Job := ⟨"latency", detector, ⟨some .epoch, some Window.sample.start⟩⟩
    let sound : Job := ⟨"latency", detector, .none⟩
    let busy := Error.reported .conflict "busy"
    (∃ e, e.kind = .validation ∧
      ∀ log outcome, Course (inverted.pass .epoch) log outcome ↔ log = [] ∧ outcome = .error e) ∧
    ∃ window : Window, window.start < window.stop ∧
      Course (sound.pass .epoch) [⟨.store .begin, .error busy⟩] (.error (.storeFailure busy)) ∧
      Pass.Keeps sound window [⟨.store .begin, .error busy⟩] (.error (.storeFailure busy)) := by
  intro detector inverted sound busy
  constructor
  · have resolves : Window.Resolves inverted.detector.spec .epoch inverted.bounds ⟨.epoch, Window.sample.start⟩ :=
      ⟨rfl, rfl⟩
    exact (refused_or_keeps_window inverted .epoch).1 (.unordered resolves (by decide))
  · have proper : ¬ sound.Improper .epoch := by
      intro improper
      obtain ⟨e, refused⟩ := improper_iff.mp improper
      rw [prepare_sample] at refused
      cases refused
    obtain ⟨window, _, ordered, keeps⟩ := (refused_or_keeps_window sound .epoch).2 proper
    have course : Course (sound.pass .epoch) [⟨.store .begin, .error busy⟩] (.error (.storeFailure busy)) :=
      course_pass.mpr (.inr ⟨.sample, _, prepare_sample _, .ask (.done _)⟩)
    exact ⟨window, ordered, course, keeps _ _ course⟩

end Job

end AnomalyWatch
