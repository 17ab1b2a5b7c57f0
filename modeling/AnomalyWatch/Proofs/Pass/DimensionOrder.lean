import AnomalyWatch.Proofs.Pass.Abreast
import AnomalyWatch.Proofs.Pass.Accounts
import AnomalyWatch.Proofs.Pass.Repeats
import Mathlib.Data.List.Perm.Basic

/-!
What is found does not depend on the order of the dimensions.

An anomaly is among the results exactly if it is new and some analysis reports it, whichever comes first, and a
counter is a count over replies or visits. So a service that goes by the request alone lets specs that differ in
the order of their dimensions find the same. Which of several equal anomalies is kept, and how often, may differ,
and with it the count of known ones.
-/

set_option autoImplicit false
set_option relaxedAutoImplicit false

namespace AnomalyWatch

/-- The specs are the same but for the order of the dimensions to explore. -/
structure Spec.Reordered (s s' : Spec) : Prop where
  rest : s' = { s with exploreDimensions := s'.exploreDimensions }
  dimensions : s.dimensionNames.Perm s'.dimensionNames

namespace Spec

private theorem reordered_of_entries (s : Spec) {list list' : String}
    (entries : (Text.pieces (· == ',') list.toList).Perm (Text.pieces (· == ',') list'.toList)) :
    Reordered { s with exploreDimensions := some list } { s with exploreDimensions := some list' } where
  rest := rfl
  dimensions := ((entries.map _).filter _).map _

variable {s s' : Spec}

private theorem Reordered.stamp_eq (reordered : s.Reordered s') : Anomaly.stamp s = Anomaly.stamp s' := by
  funext a
  rw [reordered.rest]
  rfl

private theorem Reordered.plan_perm (reordered : s.Reordered s') (aggregation : String) (window : Window) :
    (Request.plan s aggregation window).Perm (Request.plan s' aggregation window) := by
  have same : Request.root s aggregation window = Request.root s' aggregation window := by
    rw [reordered.rest]
    rfl
  unfold Request.plan
  rw [same]
  exact (reordered.dimensions.map _).cons _

end Spec

private theorem Tally.Grows.eq_of_perm {t u u' : Tally} {replies replies' : List (Except Error SeriesMap)}
    {visits visits' : List Visit} (grows : t.Grows u replies visits) (grows' : t.Grows u' replies' visits')
    (told : replies.Perm replies') (seen : visits.Perm visits') :
    u' = { u with anomaliesKnown := u'.anomaliesKnown } := by
  have processed : u'.requestsProcessed = u.requestsProcessed := by
    rw [grows.processed, grows'.processed, told.length_eq]
  have refused : u'.requestsFailed = u.requestsFailed := by
    rw [grows.refused, grows'.refused, told.countP_eq]
  have analyzed : u'.keysAnalyzed = u.keysAnalyzed := by
    rw [grows.analyzed, grows'.analyzed, seen.countP_eq]
  have skipped : u'.keysSkipped = u.keysSkipped := by
    rw [grows.skipped, grows'.skipped, seen.countP_eq]
  have failed : u'.keysFailed = u.keysFailed := by
    rw [grows.failed, grows'.failed, seen.countP_eq]
  have found : u'.anomaliesFound = u.anomaliesFound := by
    rw [grows.found, grows'.found, (seen.flatMap_right Visit.found).length_eq]
  rw [← processed, ← refused, ← analyzed, ← skipped, ← failed, ← found]

namespace Exploration

variable {x : Exploration}

private theorem mem_firstReport {i : Anomaly.Identity} {reports : List (List Anomaly)} :
    i ∈ (firstReport i reports).map Anomaly.identity ↔ ∃ report ∈ reports, i ∈ report.map Anomaly.identity := by
  unfold firstReport
  cases found : reports.find? fun report => i ∈ report.map Anomaly.identity with
  | none =>
    have absent := List.find?_eq_none.mp found
    refine iff_of_false (List.not_mem_nil) ?_
    rintro ⟨report, given, present⟩
    exact absent report given (decide_eq_true present)
  | some report =>
    have given : report ∈ reports := List.mem_of_find?_eq_some found
    have present : i ∈ report.map Anomaly.identity := by simpa using List.find?_some found
    exact iff_of_true present ⟨report, given, present⟩

private theorem mem_results_iff {i : Anomaly.Identity} {replies : List (Except Error SeriesMap)} :
    i ∈ (x.outcome replies).results.map Anomaly.identity ↔ i ∉ x.known.map Anomaly.identity ∧
      ∃ report ∈ x.reports replies, i ∈ report.map Anomaly.identity := by
  have results : (x.outcome replies).results = (x.reports replies).foldl x.keep [] :=
    results_foldl_absorb replies .initial
  have counted := times_foldl_keep (x := x) i (x.reports replies) []
  rw [← results] at counted
  rw [← not_iff_not, ← Anomaly.times_eq_zero, counted]
  by_cases known : i ∈ x.known.map Anomaly.identity
  · rw [if_pos (.inl known)]
    exact iff_of_true rfl fun new => new.1 known
  · have new : ¬ (i ∈ x.known.map Anomaly.identity ∨ i ∈ ([] : List Anomaly).map Anomaly.identity) :=
      not_or.mpr ⟨known, List.not_mem_nil⟩
    rw [if_neg new, Anomaly.times_eq_zero, mem_firstReport, and_iff_right known]

private theorem reports_perm {replies replies' : List (Except Error SeriesMap)} (told : replies.Perm replies') :
    (x.reports replies).Perm (x.reports replies') :=
  told.flatMap_right _

private theorem visits_perm {replies replies' : List (Except Error SeriesMap)} (told : replies.Perm replies') :
    (x.visits replies).Perm (x.visits replies') :=
  (told.flatMap_right keysOf).map _

/-- The order of the replies does not decide what is found. -/
theorem outcome_of_perm {replies replies' : List (Except Error SeriesMap)} (told : replies.Perm replies') :
    (∀ a : Anomaly, a.isAmong (x.outcome replies).results = a.isAmong (x.outcome replies').results) ∧
    (x.outcome replies').tally =
      { (x.outcome replies).tally with anomaliesKnown := (x.outcome replies').tally.anomaliesKnown } := by
  constructor
  · intro a
    rw [Bool.eq_iff_iff, Anomaly.isAmong_iff, Anomaly.isAmong_iff, mem_results_iff, mem_results_iff]
    exact and_congr_right fun _ => exists_congr fun _ => and_congr_left fun _ => (reports_perm told).mem_iff
  · exact (x.grows_foldl_absorb replies .initial).eq_of_perm (x.grows_foldl_absorb replies' .initial) told
      (visits_perm told)

end Exploration

namespace Pass

open Dialogue (Course)

private theorem replies_of_served {client : Request → Except Error SeriesMap} {log : Log}
    (served : ∀ e ∈ log, ServedBy client e) : replies log = (queries log).map client := by
  induction log with
  | nil => rfl
  | cons e rest ih =>
    have later := ih fun e' present => served e' (List.mem_cons_of_mem _ present)
    have first := served e List.mem_cons_self
    obtain ⟨c, r⟩ := e
    cases c with
    | query request =>
      obtain rfl : r = client request := first
      exact congrArg (List.cons _) later
    | store c => exact later
    | timer job => exact later
    | visited job v => exact later

private theorem served_transcript {σ α : Type} {world : Surroundings (StateM σ)}
    {client : Request → Except Error SeriesMap}
    (serves : ∀ request env, (world.query request env).1 = client request)
    (d : Step α) (site : Site) (env : σ) : ∀ e ∈ transcript world d site env, ServedBy client e := by
  induction d generalizing site env with
  | done a => exact fun _ present => nomatch present
  | ask c next ih =>
    intro e present
    rcases List.mem_cons.mp present with rfl | later
    · cases c with
      | query request => exact serves request env
      | store c => exact trivial
      | timer job => exact trivial
      | visited job v => exact trivial
    · exact ih _ _ _ e later

/-- Two specs that differ in the order of their dimensions find the same anomalies and count the same, but for
the anomalies that are dropped as known. The detectors may be built from these specs or be one and the same. -/
theorem found_in_any_order {spec spec' : Spec} (specs : spec.Reordered spec') {d d' : Detector}
    (owners : d.spec.Reordered d'.spec) (analyze : d'.analyze = d.analyze) {σ σ' : Type}
    {world : Surroundings (StateM σ)} {world' : Surroundings (StateM σ')}
    {client : Request → Except Error SeriesMap}
    (serves : ∀ request env, (world.query request env).1 = client request)
    (serves' : ∀ request env, (world'.query request env).1 = client request)
    (window : Window) (known : List Anomaly) (aggregation job : String) (site site' : Site) (env : σ)
    (env' : σ') :
    let exploring := explore ⟨d, window, known⟩ job .initial (Request.plan spec aggregation window)
    let exploring' := explore ⟨d', window, known⟩ job .initial (Request.plan spec' aggregation window)
    let o := (exploring.run world.respond site env).1.1
    let o' := (exploring'.run world'.respond site' env').1.1
    (∀ a : Anomaly, a.isAmong o.results = a.isAmong o'.results) ∧
    o'.tally = { o.tally with anomaliesKnown := o'.tally.anomaliesKnown } := by
  intro exploring exploring' o o'
  have examine : Exploration.examine ⟨d', window, known⟩ = Exploration.examine ⟨d, window, known⟩ :=
    Exploration.examine_congr_of_enough (x := ⟨d, window, known⟩) fun key series _ => by rw [analyze]
  have record : Exploration.record ⟨d', window, known⟩ = Exploration.record ⟨d, window, known⟩ :=
    Exploration.record_congr_of_stamp owners.stamp_eq.symm rfl
  have course : Course exploring (transcript world exploring site env) o := course_transcript ..
  have same : exploring' = explore ⟨d, window, known⟩ job .initial (Request.plan spec' aggregation window) :=
    explore_congr examine record job .initial _
  have course' : Course exploring' (transcript world' exploring' site' env') o' := course_transcript ..
  have asked := replies_of_served (served_transcript serves exploring site env)
  have asked' := replies_of_served (served_transcript serves' exploring' site' env')
  rw [same] at course' asked'
  rw [(told_of_explore course).1] at asked
  rw [(told_of_explore course').1] at asked'
  rw [(course_explore course).2, (course_explore course').2, asked, asked']
  exact Exploration.outcome_of_perm ((specs.plan_perm aggregation window).map client)

/-- One anomaly under both dimensions, with another score under each: the one that is asked for first decides
which record is kept. -/
theorem found_under_country_or_browser :
    let spec (list : String) : Spec := { Spec.sample with exploreDimensions := some list }
    let short : Series := .ofList [(Window.sample.start, 50), (.epoch, 5)]
    let long : Series := .ofList [(Window.sample.start, 50), (⟨-60, 0, by decide⟩, 7), (.epoch, 5)]
    let found (score : Float) := Anomaly.unstamped ⟨["a"]⟩ Window.sample.start .epoch score
    let detector (list : String) : Detector :=
      ⟨spec list, fun _ series _ _ => .ok [found (if series.size = 2 then 1 else 3)]⟩
    let client (request : Request) : Except Error SeriesMap :=
      if request.groupBy = none then .error (.requestFailed "closed")
      else .ok (.ofList [(⟨["a"]⟩, if request.groupBy = some "country" then short else long)])
    let world : Surroundings (StateM Unit) :=
      { now := pure .epoch
        query := fun request => pure (client request)
        append := fun _ => pure (.ok ())
        guard := fun _ => pure none
        observe := fun _ => pure 0 }
    let outcome (list : String) : Outcome :=
      ((explore ⟨detector list, .sample, []⟩ "latency" .initial
        (Request.plan (spec list) "AGGREGATE_1_MINUTES(latency)" .sample)).run world.respond .empty ()).1.1
    let o := outcome "country,browser,"
    let o' := outcome ",browser,country"
    o.results = [(found 1).stamp .sample] ∧ o'.results = [(found 3).stamp .sample] ∧
    (∀ a : Anomaly, a.isAmong o.results = a.isAmong o'.results) ∧
    o'.tally = { o.tally with anomaliesKnown := o'.tally.anomaliesKnown } := by
  intro spec short long found detector client world outcome o o'
  have specs : (spec "country,browser,").Reordered (spec ",browser,country") :=
    Spec.sample.reordered_of_entries (by decide)
  have owners : (detector "country,browser,").spec.Reordered (detector ",browser,country").spec := specs
  have serves : ∀ request env, (world.query request env).1 = client request := fun _ _ => rfl
  have same := found_in_any_order specs owners rfl serves serves .sample []
    "AGGREGATE_1_MINUTES(latency)" "latency" .empty .empty () ()
  have first : o.results = [(found 1).stamp .sample] := rfl
  have second : o'.results = [(found 3).stamp .sample] := rfl
  exact ⟨first, second, same.1, same.2⟩

end Pass

end AnomalyWatch
