import AnomalyWatch.Proofs.Detection.Exploration
import AnomalyWatch.Proofs.Pass.Crew
import Mathlib.Data.List.Induction

/-!
When passes that overlap store an anomaly twice.

A pass looks up what is stored in one transaction and writes in another, and nothing is looked up again before
the write. So an anomaly is stored twice exactly if a pass commits one that was committed since its own
look-up, as two passes do that both look before either writes. Otherwise the rows stay different from each
other, in whatever order the passes take their turns.
-/

set_option autoImplicit false
set_option relaxedAutoImplicit false

namespace AnomalyWatch.Crew

open Dialogue (Trail)

/-- A pass `i` commits an anomaly that a pass `j` committed after the look-up of `i`. -/
inductive Overtaken (log : Log) : Prop
  | intro {before between later after : Log} {i j t u w : Nat} {q : Lookup} {known : List Anomaly}
      {a b : Anomaly}
      (order : log = before ++ (i, ⟨.store (.find t q), .ok known⟩) :: between ++
        (j, ⟨.store (.commit u), .ok ()⟩) :: later ++ (i, ⟨.store (.commit w), .ok ()⟩) :: after)
      (first : a ∈ Store.created (asked log) u) (second : b ∈ Store.created (asked log) w)
      (same : a.same b = true) : Overtaken log

theorem Overtaken.append {log : Log} (overtaken : Overtaken log) (rest : Log) : Overtaken (log ++ rest) := by
  cases overtaken with
  | @intro before between later after i j t u w q known a b order first second same =>
    refine @Overtaken.intro _ before between later (after ++ rest) i j t u w q known a b ?_ ?_ ?_ same
    · rw [order, List.append_assoc, List.cons_append]
    · rw [asked_append, Store.created_append]
      exact List.mem_append_left _ first
    · rw [asked_append, Store.created_append]
      exact List.mem_append_left _ second

variable {l : Ledger} {jobs : List (Job × Instant)} {log : Log} {crew : Crew}

theorem Run.distinct_iff (run : Run (start l jobs) log crew) :
    Anomaly.Distinct crew.store.ledger.rows ↔ Anomaly.Distinct (l.rows ++ Store.saved (asked log)) := by
  rw [Anomaly.distinct_iff, Anomaly.distinct_iff, run.records.map_identity_rows]

/-- Where a pass is overtaken, the same anomaly is stored in two transactions. -/
theorem Run.not_distinct_of_overtaken (run : Run (start l jobs) log crew) (overtaken : Overtaken log) :
    ¬ Anomaly.Distinct crew.store.ledger.rows := by
  intro distinct
  have saved := (Anomaly.distinct_append.mp (run.distinct_iff.mp distinct)).2.1
  have apart := (List.pairwise_flatMap.mp saved).2
  cases overtaken with
  | @intro before between later after i j t u w q known a b order first second same =>
    have commits : Store.committed (asked log) =
        Store.committed (asked (before ++ (i, ⟨.store (.find t q), .ok known⟩) :: between)) ++
          u :: Store.committed (asked later) ++ w :: Store.committed (asked after) := by
      rw [order, asked_append, asked_append, Store.committed_append, Store.committed_append]
      rfl
    rw [commits] at apart
    have different := (List.pairwise_append.mp apart).2.2 u (by simp) w (by simp) a first b second
    rw [same] at different
    cases different

theorem Run.created_of_commit {i w : Nat} {crew₁ : Crew} (earlier : Run (start l jobs) log crew₁)
    (run : Run (start l jobs) (log ++ [(i, ⟨.store (.commit w), .ok ()⟩)]) crew) :
    Store.created (asked log) w = [] ∨
    ∃ j now window aggregation t known replies, jobs[i]? = some (j, now) ∧
      j.prepare now = .ok (window, aggregation) ∧
      (i, ⟨.store (.find t (j.lookup window)), .ok known⟩) ∈ log ∧
      Store.created (asked log) w = (Exploration.outcome ⟨j.detector, window, known⟩ replies).results := by
  have last : (i, ⟨.store (.commit w), .ok ()⟩) ∈ log ++ [(i, ⟨.store (.commit w), .ok ()⟩)] := by simp
  have mine : (i, ⟨.store .begin, .ok w⟩) ∈ log := by
    have begun := run.begun_of_named last rfl
    simpa using begun
  obtain ⟨j, now, rest, outcome, job, course⟩ := run.course last
  rw [own_append, own_cons_self, List.append_assoc] at course
  rw [earlier.created_own mine]
  rcases Job.created_of_commit course with none | ⟨window, aggregation, t, known, prepared, looked, kept⟩
  · exact .inl none
  · exact .inr ⟨j, now, window, aggregation, t, known, _, job, prepared, mem_own.mp looked, kept⟩

private theorem Run.new_of_commit {i w : Nat} {crew₁ : Crew} (earlier : Run (start l jobs) log crew₁)
    (run : Run (start l jobs) (log ++ [(i, ⟨.store (.commit w), .ok ()⟩)]) crew)
    (faithful : ∀ p ∈ jobs, p.1.detector.Faithful)
    (ahead : ¬ Overtaken (log ++ [(i, ⟨.store (.commit w), .ok ()⟩)])) :
    Anomaly.Distinct (Store.created (asked log) w) ∧
    ∀ a ∈ Store.created (asked log) w, a.isAmong (l.rows ++ Store.saved (asked log)) = false := by
  rcases earlier.created_of_commit run with
    none | ⟨j, now, window, aggregation, t, known, replies, job, prepared, looked, kept⟩
  · rw [none]
    exact ⟨.nil, fun _ absent => by cases absent⟩
  have trusted := faithful _ (List.mem_of_getElem? job)
  refine ⟨kept ▸ Exploration.distinct_results trusted replies, fun a created => ?_⟩
  obtain ⟨before, between, rfl⟩ := List.append_of_mem looked
  obtain ⟨crew₀, first, since⟩ := earlier.split
  have unseen : a.isAmong crew₀.store.ledger.rows = false :=
    Exploration.isAmong_rows_of_mem_results (x := ⟨j.detector, window, known⟩) trusted
      (Job.bucketSize_ne_zero_of_prepare prepared) since.find (kept ▸ created)
  rw [Anomaly.isAmong_eq_false_iff] at unseen ⊢
  rw [first.records.map_identity_rows] at unseen
  rw [first.saved_append since, ← List.append_assoc, List.map_append, List.mem_append]
  rintro (seen | late)
  · exact unseen seen
  -- An anomaly that was committed since the look-up makes the pass an overtaken one.
  obtain ⟨b, saved, same⟩ := List.mem_map.mp late
  obtain ⟨u, commits, created'⟩ := List.mem_flatMap.mp saved
  obtain ⟨k, called⟩ := mem_asked.mp (Store.mem_committed.mp commits)
  have called : (k, ⟨.store (.commit u), .ok ()⟩) ∈ between := by simpa using called
  obtain ⟨between, after, rfl⟩ := List.append_of_mem called
  refine ahead (@Overtaken.intro _ before between after [] i k t u w (j.lookup window) known b a ?_ ?_ ?_ ?_)
  · simp
  · rw [asked_append, Store.created_append]
    exact List.mem_append_left _ created'
  · rw [asked_append, Store.created_append]
    exact List.mem_append_left _ created
  · exact Anomaly.same_iff.mpr same

/-- While no pass is overtaken, the rows stay different from each other. -/
theorem Run.distinct_of_not_overtaken (run : Run (start l jobs) log crew)
    (faithful : ∀ p ∈ jobs, p.1.detector.Faithful) (distinct : Anomaly.Distinct l.rows)
    (ahead : ¬ Overtaken log) : Anomaly.Distinct crew.store.ledger.rows := by
  induction log using List.reverseRecOn generalizing crew with
  | nil =>
    cases run
    exact distinct
  | append_singleton log e ih =>
    obtain ⟨crew₁, earlier, step⟩ := run.split
    have still := earlier.distinct_iff.mp (ih earlier fun overtaken => ahead (overtaken.append _))
    rw [run.distinct_iff, earlier.saved_append step, ← List.append_assoc, Anomaly.distinct_append]
    refine ⟨still, ?_⟩
    obtain ⟨i, e⟩ := e
    -- Only a successful commit adds rows, and it adds what was created in its own transaction.
    by_cases commits : ∃ w, e = ⟨.store (.commit w), .ok ()⟩
    · obtain ⟨w, rfl⟩ := commits
      have batch : (Store.committed (asked [(i, ⟨.store (.commit w), .ok ()⟩)])).flatMap
          (Store.created (asked (log ++ [(i, ⟨.store (.commit w), .ok ()⟩)]))) =
          Store.created (asked log) w := by
        have alone : Store.committed (asked [(i, ⟨.store (.commit w), .ok ()⟩)]) = [w] := rfl
        have more : Store.created (asked [(i, ⟨.store (.commit w), .ok ()⟩)]) w = [] := rfl
        rw [alone, List.flatMap_singleton, asked_append, Store.created_append, more, List.append_nil]
      rw [batch]
      exact earlier.new_of_commit run faithful ahead
    · have idle : Store.committed (asked [(i, e)]) = [] := by
        refine List.eq_nil_iff_forall_not_mem.mpr fun w committed => commits ⟨w, ?_⟩
        obtain ⟨k, called⟩ := mem_asked.mp (Store.mem_committed.mp committed)
        cases List.mem_singleton.mp called
        rfl
      rw [idle]
      exact ⟨.nil, fun _ absent => by cases absent⟩

def sampleJob (analyze : DimensionKey → Series → Window → List Anomaly → Except Error (List Anomaly)) :
    Job :=
  ⟨"latency", ⟨.sample, analyze⟩, .none⟩

def wholeWindow (key : DimensionKey) (_ : Series) (window : Window) (_ : List Anomaly) :
    Except Error (List Anomaly) :=
  .ok (if window.start < window.stop then [Anomaly.unstamped key window.start window.stop 1] else [])

private theorem faithful_wholeWindow : (sampleJob wholeWindow).detector.Faithful := by
  constructor
  · intro key series window known found analyzed
    cases analyzed
    split
    · exact List.pairwise_singleton _ _
    · exact .nil
  · intro key series window known found _ analyzed a reported
    cases analyzed
    split at reported
    next ordered =>
      cases List.mem_singleton.mp reported
      exact ⟨ordered, ordered⟩
    next => cases reported

def looks (found : List Anomaly) (ticket : Nat) : Pass.Log :=
  [⟨.store .begin, .ok ticket⟩, ⟨.store (.find ticket ⟨"web", Window.sample.start, .epoch, 1⟩), .ok []⟩,
    ⟨.store (.commit ticket), .ok ()⟩, ⟨.timer "latency", ()⟩,
    ⟨.query ⟨"web", "AGGREGATE_1_MINUTES(latency)", Window.sample.start, .epoch, none⟩,
      .ok (.ofList [(⟨["a"]⟩, .ofList [(Window.sample.start, 1), (.epoch, 1)])])⟩,
    ⟨.visited "latency" (.analyzed ⟨["a"]⟩ found), ()⟩]

def writes (found : List Anomaly) (ticket : Nat) : Pass.Log :=
  ⟨.store .begin, .ok ticket⟩ ::
    found.map (fun a => ⟨.store (.create ticket (a.stamp .sample)), .ok ()⟩) ++
    [⟨.store (.commit ticket), .ok ()⟩]

private theorem exists_run_of_turns {j : Job} {first second third fourth : Pass.Log}
    (trail : ∃ left, Trail (j.pass .epoch) (first ++ third) left)
    (trail' : ∃ left, Trail (j.pass .epoch) (second ++ fourth) left)
    (served : ∃ s, Store.Serves (.ofLedger .empty) (Pass.history (first ++ second ++ third ++ fourth)) s) :
    ∃ crew, Run (start .empty [(j, .epoch), (j, .epoch)]) (first.map (Prod.mk 0) ++ second.map (Prod.mk 1) ++
      third.map (Prod.mk 0) ++ fourth.map (Prod.mk 1)) crew := by
  obtain ⟨last, trail⟩ := trail
  obtain ⟨last', trail'⟩ := trail'
  obtain ⟨left, trail₁, trail₃⟩ := trail.split
  obtain ⟨left', trail₂, trail₄⟩ := trail'.split
  obtain ⟨s, served⟩ := served
  simp only [Pass.history_append] at served
  obtain ⟨s₃, served, served₄⟩ := served.split
  obtain ⟨s₂, served, served₃⟩ := served.split
  obtain ⟨s₁, served₁, served₂⟩ := served.split
  have run₁ : Run ⟨_, [j.pass .epoch, j.pass .epoch]⟩ _ ⟨_, [left, j.pass .epoch]⟩ :=
    .alone (i := 0) rfl trail₁ served₁
  have run₂ : Run ⟨_, [left, j.pass .epoch]⟩ _ ⟨_, [left, left']⟩ := .alone (i := 1) rfl trail₂ served₂
  have run₃ : Run ⟨_, [left, left']⟩ _ ⟨_, [last, left']⟩ := .alone (i := 0) rfl trail₃ served₃
  have run₄ : Run ⟨_, [last, left']⟩ _ ⟨_, [last, last']⟩ := .alone (i := 1) rfl trail₄ served₄
  exact ⟨_, ((run₁.append run₂).append run₃).append run₄⟩

theorem pass_sampleJob
    (analyze : DimensionKey → Series → Window → List Anomaly → Except Error (List Anomaly)) :
    (sampleJob analyze).pass .epoch =
      (sampleJob analyze).passOver .sample "AGGREGATE_1_MINUTES(latency)" := by
  rw [sampleJob, Job.pass, Job.prepare_sample]

/-- Look-ups and writes in turn, of two passes of the job that reports its whole window. -/
def overlapping : Log :=
  let a := Anomaly.unstamped ⟨["a"]⟩ Window.sample.start .epoch 1
  (looks [a] 0).map (Prod.mk 0) ++ (looks [a] 1).map (Prod.mk 1) ++ (writes [a] 2).map (Prod.mk 0) ++
    (writes [a] 3).map (Prod.mk 1)

private theorem exists_run_overlapping :
    ∃ crew, Run (start .empty [(sampleJob wholeWindow, .epoch), (sampleJob wholeWindow, .epoch)])
      overlapping crew := by
  refine exists_run_of_turns ?_ ?_ ?_
  · rw [pass_sampleJob]
    exact ⟨_, .ask (.ask (.ask (.ask (.ask (.ask (.ask (.ask (.ask (.nil _)))))))))⟩
  · rw [pass_sampleJob]
    exact ⟨_, .ask (.ask (.ask (.ask (.ask (.ask (.ask (.ask (.ask (.nil _)))))))))⟩
  · exact ⟨_, .cons .epoch (.ok ()) (.cons .epoch (.ok ()) (.cons .epoch (.ok ()) (.cons .epoch (.ok ())
      (.cons .epoch (.ok ()) (.cons .epoch (.ok ()) (.cons .epoch (.ok ()) (.cons .epoch (.ok ())
      (.cons .epoch (.ok ()) (.cons .epoch (.ok ()) (.cons .epoch (.ok ()) (.cons .epoch (.ok ())
      (.nil _))))))))))))⟩

private theorem Run.not_distinct_of_saved (run : Run (start l jobs) log crew) {a : Anomaly}
    (saved : Store.saved (asked log) = [a, a]) : ¬ Anomaly.Distinct crew.store.ledger.rows := by
  intro distinct
  have twice := (Anomaly.distinct_append.mp (run.distinct_iff.mp distinct)).2.1
  rw [saved] at twice
  have different := (List.pairwise_cons.mp twice).1 a List.mem_cons_self
  rw [Anomaly.same_iff.mpr rfl] at different
  cases different

/-- For functions that report different anomalies of their window, the rows stay different from each other
exactly as long as no pass commits an anomaly that was committed since its own look-up. -/
theorem distinct_rows_iff_not_overtaken (run : Run (start l jobs) log crew)
    (faithful : ∀ p ∈ jobs, p.1.detector.Faithful) (distinct : Anomaly.Distinct l.rows) :
    Anomaly.Distinct crew.store.ledger.rows ↔ ¬ Overtaken log :=
  ⟨fun still overtaken => run.not_distinct_of_overtaken overtaken still,
    run.distinct_of_not_overtaken faithful distinct⟩

/-- Two passes that both look before either writes. -/
theorem overlapping_overtaken :
    ∃ crew, Run (start .empty [(sampleJob wholeWindow, .epoch), (sampleJob wholeWindow, .epoch)])
      overlapping crew ∧ (Anomaly.Distinct crew.store.ledger.rows ↔ ¬ Overtaken overlapping) := by
  obtain ⟨crew, run⟩ := exists_run_overlapping
  refine ⟨crew, run, distinct_rows_iff_not_overtaken run (fun p job => ?_) .nil⟩
  have same : p = (sampleJob wholeWindow, .epoch) := by simpa using job
  rw [same]
  exact faithful_wholeWindow

/-- Two passes of the job may take these turns, and then a row repeats. -/
def Repeats (j : Job) (log : Log) : Prop :=
  ∃ crew, Run (start .empty [(j, .epoch), (j, .epoch)]) log crew ∧
    ¬ Anomaly.Distinct crew.store.ledger.rows

private theorem repeats_of_turns {j : Job} {first second third fourth : Pass.Log} {a : Anomaly}
    (trail : ∃ left, Trail (j.pass .epoch) (first ++ third) left)
    (trail' : ∃ left, Trail (j.pass .epoch) (second ++ fourth) left)
    (served : ∃ s, Store.Serves (.ofLedger .empty) (Pass.history (first ++ second ++ third ++ fourth)) s)
    (saved : Store.saved (Pass.history (first ++ second ++ third ++ fourth)) = [a, a]) :
    Repeats j (first.map (Prod.mk 0) ++ second.map (Prod.mk 1) ++ third.map (Prod.mk 0) ++
      fourth.map (Prod.mk 1)) := by
  obtain ⟨crew, run⟩ := exists_run_of_turns trail trail' served
  refine ⟨crew, run, run.not_distinct_of_saved (a := a) ?_⟩
  rw [← saved, asked]
  simp only [List.map_append, List.map_map, Function.comp_def, List.map_id']

/-- Rows repeat where two passes overlap, and also where a function reports an anomaly twice, or one outside
its window, which no look-up over the window returns. -/
theorem rows_repeat :
    let inside := Anomaly.unstamped ⟨["a"]⟩ Window.sample.start .epoch 1
    let outside := Anomaly.unstamped ⟨["a"]⟩ .epoch .epoch 1
    Anomaly.Distinct Ledger.empty.rows ∧ Repeats (sampleJob wholeWindow) overlapping ∧
      Repeats (sampleJob fun _ _ _ _ => .ok [inside, inside])
        ((looks [inside, inside] 0 ++ writes [inside, inside] 1).map (Prod.mk 0)) ∧
      Repeats (sampleJob fun _ _ _ _ => .ok [outside])
        ((looks [outside] 0 ++ writes [outside] 1).map (Prod.mk 0) ++
          (looks [outside] 2 ++ writes [outside] 3).map (Prod.mk 1)) := by
  intro inside outside
  refine ⟨.nil, ?_, ?_, ?_⟩
  · obtain ⟨crew, run⟩ := exists_run_overlapping
    exact ⟨crew, run, run.not_distinct_of_saved (a := inside.stamp .sample) rfl⟩
  · refine @repeats_of_turns _ (looks [inside, inside] 0) [] (writes [inside, inside] 1) []
      (inside.stamp .sample) ?_ ⟨_, .nil _⟩ ?_ rfl
    · rw [pass_sampleJob]
      exact ⟨_, .ask (.ask (.ask (.ask (.ask (.ask (.ask (.ask (.ask (.ask (.nil _))))))))))⟩
    · exact ⟨_, .cons .epoch (.ok ()) (.cons .epoch (.ok ()) (.cons .epoch (.ok ()) (.cons .epoch (.ok ())
        (.cons .epoch (.ok ()) (.cons .epoch (.ok ()) (.cons .epoch (.ok ()) (.nil _)))))))⟩
  · refine @repeats_of_turns _ (looks [outside] 0 ++ writes [outside] 1)
      (looks [outside] 2 ++ writes [outside] 3) [] [] (outside.stamp .sample) ?_ ?_ ?_ rfl
    · rw [pass_sampleJob]
      exact ⟨_, .ask (.ask (.ask (.ask (.ask (.ask (.ask (.ask (.ask (.nil _)))))))))⟩
    · rw [pass_sampleJob]
      exact ⟨_, .ask (.ask (.ask (.ask (.ask (.ask (.ask (.ask (.ask (.nil _)))))))))⟩
    · exact ⟨_, .cons .epoch (.ok ()) (.cons .epoch (.ok ()) (.cons .epoch (.ok ()) (.cons .epoch (.ok ())
        (.cons .epoch (.ok ()) (.cons .epoch (.ok ()) (.cons .epoch (.ok ()) (.cons .epoch (.ok ())
        (.cons .epoch (.ok ()) (.cons .epoch (.ok ()) (.cons .epoch (.ok ()) (.cons .epoch (.ok ())
        (.nil _))))))))))))⟩

end AnomalyWatch.Crew
