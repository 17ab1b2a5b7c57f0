import AnomalyWatch.Proofs.Detection.Accounts
import AnomalyWatch.Proofs.Pass.Attendance
import AnomalyWatch.Proofs.Timing.Histogram

/-!
An exploration leaves nothing out and counts nothing twice.

The transcript of an exploration has one query for each request and one visit for each key that is returned, both
in their order, and the counters and the histogram of the job count what is in it.
-/

set_option autoImplicit false
set_option relaxedAutoImplicit false

namespace AnomalyWatch

namespace Pass

open Dialogue (Course course_pure course_call_bind course_bind)

def query? : ((c : Call) × Reply c) → Option Request
  | ⟨.query request, _⟩ => some request
  | _ => none

def queries (log : Log) : List Request := log.filterMap query?

def visit? : ((c : Call) × Reply c) → Option (String × Visit)
  | ⟨.visited job v, _⟩ => some (job, v)
  | _ => none

def visits (log : Log) : List (String × Visit) := log.filterMap visit?

def analyses (log : Log) : List (DimensionKey × Except Error (List Anomaly)) :=
  (visits log).filterMap fun v => v.2.analysis?

def finished (job : String) (log : Log) : Nat :=
  (visits log).countP fun v => v.1 = job && v.2.isAnalyzed

theorem queries_append (log rest : Log) : queries (log ++ rest) = queries log ++ queries rest :=
  List.filterMap_append

theorem visits_append (log rest : Log) : visits (log ++ rest) = visits log ++ visits rest :=
  List.filterMap_append

private theorem finished_append (job : String) (log rest : Log) :
    finished job (log ++ rest) = finished job log + finished job rest := by
  rw [finished, visits_append, List.countP_append]
  rfl

section Run

variable {σ α : Type}

private theorem count_respond (world : Surroundings (StateM σ)) (job : String) (c : Call) (site : Site) (env : σ) :
    ((world.respond c site env).1.2.timings.histogram job).count =
      (site.timings.histogram job).count + finished job [⟨c, (world.respond c site env).1.1⟩] := by
  cases c with
  | query request => rfl
  | timer name => exact congrArg Histogram.count (site.timings.histogram_opened name job)
  | store c =>
    change ((world.askStore c site env).1.2.timings.histogram job).count = _
    unfold Surroundings.askStore
    rcases guarded : world.guard c env with ⟨_ | e, env'⟩
    · rcases clock : world.now env' with ⟨now, env''⟩
      simp only [bind, StateT.bind, guarded, clock]
      rfl
    · simp only [bind, StateT.bind, guarded]
      rfl
  | visited name v =>
    change ((world.noteVisit name v site env).1.2.timings.histogram job).count =
      (site.timings.histogram job).count + finished job [⟨.visited name v, ()⟩]
    have told : finished job [⟨.visited name v, ()⟩] = if name = job ∧ v.isAnalyzed then 1 else 0 := by
      simp [finished, visits, visit?, List.countP_cons]
    rw [told]
    unfold Surroundings.noteVisit
    rcases seen : world.observe v env with ⟨duration, env'⟩
    cases v with
    | skipped _ _ =>
      simp only [bind, StateT.bind, seen, Visit.isAnalyzed, Bool.false_eq_true, and_false, if_false]
      rfl
    | failed _ _ =>
      simp only [bind, StateT.bind, seen, Visit.isAnalyzed, Bool.false_eq_true, and_false, if_false]
      rfl
    | analyzed _ _ =>
      rcases clock : world.now env' with ⟨now, env''⟩
      simp only [bind, StateT.bind, seen, clock, Visit.isAnalyzed, and_true]
      change ((site.timings.record name duration now).histogram job).count = _
      rw [Timings.histogram_record]
      by_cases own : name = job
      · rw [if_pos own, if_pos own, own]
        rfl
      · rw [if_neg own, if_neg own]
        rfl

theorem count_run (world : Surroundings (StateM σ)) (job : String) (d : Step α) (site : Site) (env : σ) :
    ((d.run world.respond site env).1.2.timings.histogram job).count =
      (site.timings.histogram job).count + finished job (transcript world d site env) := by
  induction d generalizing site env with
  | done a => rfl
  | ask c next ih =>
    have first := count_respond world job c site env
    have later := ih (world.respond c site env).1.1 (world.respond c site env).1.2
      (world.respond c site env).2
    rw [transcript, ← List.singleton_append, finished_append, ← Nat.add_assoc, ← first]
    exact later

end Run

section Exploring

variable {x : Exploration} {job : String} {o o' : Outcome} {log : Log}

private theorem told_of_visitKeys {entries : List (DimensionKey × Series)}
    (course : Course (visitKeys x job o entries) log o') :
    queries log = [] ∧ visits log = entries.map fun e => (job, x.examine e.1 e.2) := by
  induction entries generalizing log o with
  | nil =>
    obtain ⟨rfl, rfl⟩ := course_pure.mp course
    exact ⟨rfl, rfl⟩
  | cons e rest ih =>
    replace course := course_call_bind.mp course
    obtain ⟨_, tail, rfl, course⟩ := course
    obtain ⟨asked, told⟩ := ih course
    exact ⟨asked, congrArg (List.cons _) told⟩

private theorem told_of_process {request : Request} (course : Course (process x job o request) log o') :
    queries log = [request] ∧ visits log = (x.visits (replies log)).map (Prod.mk job) := by
  replace course := course_call_bind.mp course
  obtain ⟨reply, rest, rfl, course⟩ := course
  cases reply with
  | error e =>
    obtain ⟨rfl, rfl⟩ := course_pure.mp course
    exact ⟨rfl, rfl⟩
  | ok m =>
    obtain ⟨_, replied, _⟩ := course_visitKeys course
    obtain ⟨asked, told⟩ := told_of_visitKeys course
    have only : replies (⟨.query request, .ok m⟩ :: rest) = [.ok m] := congrArg (List.cons _) replied
    refine ⟨congrArg (List.cons _) asked, ?_⟩
    rw [only, Exploration.visits_singleton, List.map_map]
    exact told

theorem told_of_explore {requests : List Request} (course : Course (explore x job o requests) log o') :
    queries log = requests ∧ (replies log).length = requests.length ∧
      visits log = (x.visits (replies log)).map (Prod.mk job) := by
  induction requests generalizing log o with
  | nil =>
    obtain ⟨rfl, rfl⟩ := course_pure.mp course
    exact ⟨rfl, rfl, rfl⟩
  | cons request rest ih =>
    obtain ⟨first, o₁, tail, rfl, processed, explored⟩ := course_bind.mp course
    obtain ⟨_, reply, replied, _⟩ := course_process processed
    obtain ⟨asked, told⟩ := told_of_process processed
    obtain ⟨askedLater, repliedLater, toldLater⟩ := ih explored
    refine ⟨?_, ?_, ?_⟩
    · rw [queries_append, asked, askedLater]
      rfl
    · rw [replies_append, replied, List.length_append, repliedLater, List.length_cons, Nat.add_comm]
      rfl
    · rw [visits_append, replies_append, told, toldLater, Exploration.visits_append, List.map_append]

end Exploring

/-- The counters of an exploration agree with its log, and nothing is missing there or there twice. -/
structure Accounted (x : Exploration) (requests : List Request) (log : Log) (o : Outcome) : Prop where
  asked : queries log = requests
  replied : (replies log).length = requests.length
  processed : o.tally.requestsProcessed = requests.length
  refused : o.tally.requestsFailed = (replies log).countP (!·.isOk)
  made : analyses log = ((Exploration.returned (replies log)).filter fun e => 2 ≤ e.2.size).map fun e =>
    (e.1, x.detector.analyze e.1 e.2 x.window x.known)
  skipped : o.tally.keysSkipped = (Exploration.returned (replies log)).countP fun e => e.2.size < 2
  analyzed : o.tally.keysAnalyzed = (analyses log).countP (·.2.isOk)
  failed : o.tally.keysFailed = (analyses log).countP (!·.2.isOk)
  keys : o.tally.keysSkipped + o.tally.keysAnalyzed + o.tally.keysFailed =
    (Exploration.returned (replies log)).length
  found : o.tally.anomaliesFound = o.results.length + o.tally.anomaliesKnown

/-- An exploration accounts for everything, and tells of as many finished analyses as it counts. -/
theorem accounted_of_course {x : Exploration} {job : String} {requests : List Request} {log : Log}
    {o : Outcome} (course : Course (explore x job .initial requests) log o) :
    Accounted x requests log o ∧ finished job log = o.tally.keysAnalyzed := by
  obtain ⟨asked, replied, told⟩ := told_of_explore course
  obtain ⟨_, outcome⟩ := course_explore course
  have grown : Tally.zero.Grows o.tally (replies log) (x.visits (replies log)) := by
    rw [outcome]
    exact x.grows_foldl_absorb _ .initial
  have made : analyses log = (x.visits (replies log)).filterMap Visit.analysis? := by
    rw [analyses, told, List.filterMap_map]
    rfl
  have skipped : o.tally.keysSkipped = (x.visits (replies log)).countP Visit.isSkipped :=
    grown.skipped.trans (Nat.zero_add _)
  have analyzed : o.tally.keysAnalyzed = (x.visits (replies log)).countP Visit.isAnalyzed :=
    grown.analyzed.trans (Nat.zero_add _)
  have failed : o.tally.keysFailed = (x.visits (replies log)).countP Visit.isFailed :=
    grown.failed.trans (Nat.zero_add _)
  constructor
  · refine
      { asked, replied
        processed := ?_
        refused := grown.refused.trans (Nat.zero_add _)
        made := made.trans (x.filterMap_analysis?_visits _)
        skipped := skipped.trans (x.countP_isSkipped_visits _)
        analyzed := ?_
        failed := ?_
        keys := ?_
        found := ?_ }
    · rw [grown.processed, replied]
      exact Nat.zero_add _
    · rw [analyzed, made, Visit.countP_isAnalyzed]
    · rw [failed, made, Visit.countP_isFailed]
    · rw [skipped, analyzed, failed, Visit.countP_kinds, Exploration.visits, List.length_map]
    · rw [outcome, Nat.add_comm]
      exact x.found_eq_known_add_kept (replies log)
  · rw [finished, told, List.countP_map, analyzed]
    refine List.countP_congr fun v _ => ?_
    simp

/-- Whoever answers, an exploration comes to an end and accounts for everything exactly once: it queries its
requests in their order, analyses in their order the keys that have at least two buckets, and counts what it did.
The histogram of the job grows by the finished analyses. What the detector makes of shorter series has no
influence on anything. -/
theorem accounted_of_run {σ : Type} (world : Surroundings (StateM σ)) (x : Exploration) (job : String)
    (requests : List Request) (site : Site) (env : σ) :
    let exploring := explore x job .initial requests
    let log := transcript world exploring site env
    let (o, left) := (exploring.run world.respond site env).1
    Accounted x requests log o ∧
    (left.timings.histogram job).count = (site.timings.histogram job).count + o.tally.keysAnalyzed ∧
    ∀ d : Detector, d.spec = x.detector.spec →
      (∀ key series, 2 ≤ series.size →
        d.analyze key series x.window x.known = x.detector.analyze key series x.window x.known) →
      explore { x with detector := d } job .initial requests = exploring := by
  intro exploring log
  have course : Course exploring log (exploring.run world.respond site env).1.1 :=
    course_transcript world exploring site env
  obtain ⟨accounted, told⟩ := accounted_of_course course
  refine ⟨accounted, ?_, fun d stamps agree => ?_⟩
  · rw [← told]
    exact count_run world job exploring site env
  · refine explore_congr (Exploration.examine_congr_of_enough agree) ?_ job .initial requests
    exact Exploration.record_congr_of_stamp (congrArg Anomaly.stamp stamps) rfl

end Pass

end AnomalyWatch
