import AnomalyWatch.Proofs.Detection.Threshold
import AnomalyWatch.Proofs.Pass.Accounts

/-!
Known anomalies are left out early or late.

A threshold detector leaves out the buckets that it is told are known, by key and stretch of time, and an
exploration drops from each report what is known, by the whole identity. For rows that a look-up of the function
returns the two agree (`Detector.Omits`), and what one leaves out early the other drops late: the outcomes differ in
how many anomalies were found and how many of these were known, by one and the same number.
-/

set_option autoImplicit false
set_option relaxedAutoImplicit false

namespace AnomalyWatch

def Detector.untold (d : Detector) : Detector where
  spec := d.spec
  analyze key series window _ := d.analyze key series window []

/-- Told what is known, an analysis leaves out just that and is otherwise as if it were told nothing. -/
def Detector.Omits (d : Detector) (window : Window) (known : List Anomaly) : Prop :=
  ∀ key series, d.analyze key series window known =
    (d.analyze key series window []).map (List.filter fun a => !(a.stamp d.spec).isAmong known)

namespace Threshold

variable {spec : Spec} {band : Band} {key : DimensionKey} {series : Series} {window : Window}
  {known : List Anomaly}

private theorem judge_eq_filter (start : Instant) (value : Float) :
    judge spec band key known start value = (judge spec band key [] start value).map
      (Option.filter fun a => !isKnown a.dimensions a.start a.stop known) := by
  unfold judge
  split
  next => rfl
  next =>
    split
    next => rfl
    next bound _ =>
      split
      next => rfl
      next stop _ =>
        have untold : isKnown key start stop [] = false := rfl
        rw [untold, Except.map, if_neg Bool.false_ne_true]
        cases seen : isKnown key start stop known with
        | true => simp [anomaly, Anomaly.unstamped, Option.filter, seen]
        | false => simp [anomaly, Anomaly.unstamped, Option.filter, seen]

private theorem mapM_map {α β γ ε : Type} (f : α → Except ε β) (g : β → γ) (l : List α) :
    (l.mapM fun a => (f a).map g) = (l.mapM f).map (List.map g) := by
  induction l with
  | nil => rfl
  | cons a rest ih =>
    rw [List.mapM_cons, List.mapM_cons, ih]
    cases f a with
    | error e => rfl
    | ok b => cases rest.mapM f <;> rfl

private theorem analyze_eq_filter :
    analyze spec band key series window known = (analyze spec band key series window []).map
      (List.filter fun a => !isKnown a.dimensions a.start a.stop known) := by
  have verdicts : ((inside series window).mapM fun e => judge spec band key known e.1 e.2) =
      ((inside series window).mapM fun e => judge spec band key [] e.1 e.2).map
        (List.map (Option.filter fun a => !isKnown a.dimensions a.start a.stop known)) := by
    rw [← mapM_map]
    exact congrArg (List.mapM · _) (funext fun e => judge_eq_filter e.1 e.2)
  rw [analyze_eq, analyze_eq, verdicts]
  cases (inside series window).mapM fun e => judge spec band key [] e.1 e.2 with
  | error e => rfl
  | ok vs =>
    simp only [Except.map, List.filterMap_map, List.filter_filterMap]
    rfl

private theorem isKnown_eq_isAmong (own : ∀ k ∈ known, k.collection = spec.collection ∧ k.functionId = some spec.id)
    (a : Anomaly) : isKnown a.dimensions a.start a.stop known = (a.stamp spec).isAmong known := by
  rw [Bool.eq_iff_iff, isKnown, List.any_eq_true, Anomaly.isAmong, List.any_eq_true]
  refine exists_congr fun k => and_congr_right fun present => ?_
  obtain ⟨collection, function⟩ := own k present
  simp only [Anomaly.same_iff, Anomaly.identity, Anomaly.stamp, Anomaly.Identity.mk.injEq, collection,
    function, Bool.and_eq_true, decide_eq_true_eq, true_and, and_true]
  constructor
  · rintro ⟨⟨key, start⟩, stop⟩
    exact ⟨key.symm, start.symm, stop.symm⟩
  · rintro ⟨key, start, stop⟩
    exact ⟨⟨key.symm, start.symm⟩, stop.symm⟩

private theorem omits_of_ofSpec {d : Detector} (built : ofSpec spec = .ok d) (l : Ledger) (window : Window) :
    d.Omits window (l.find ⟨spec.collection, window.start, window.stop, spec.id⟩) := by
  obtain ⟨band, _, rfl⟩ := ofSpec_eq_ok built
  have own : ∀ k ∈ l.find ⟨spec.collection, window.start, window.stop, spec.id⟩,
      k.collection = spec.collection ∧ k.functionId = some spec.id := by
    intro k found
    have selected := (List.mem_filter.mp found).2
    simp only [Lookup.selects, Bool.and_eq_true, decide_eq_true_eq] at selected
    exact selected.1.1
  intro key series
  change analyze spec band key series window _ = (analyze spec band key series window []).map _
  rw [analyze_eq_filter]
  simp only [isKnown_eq_isAmong own]

end Threshold

/-- The outcome with so many anomalies more that were found and are known. -/
def Outcome.sighting (o : Outcome) (n : Nat) : Outcome :=
  { o with tally := { o.tally with
      anomaliesFound := o.tally.anomaliesFound + n
      anomaliesKnown := o.tally.anomaliesKnown + n } }

namespace Exploration

variable {x : Exploration}

def untold (x : Exploration) : Exploration :=
  { x with detector := x.detector.untold }

private theorem fresh_filter (kept found : List Anomaly) :
    x.fresh kept (found.filter fun a => !(a.stamp x.detector.spec).isAmong x.known) = x.fresh kept found := by
  rw [fresh, fresh, List.filter_map, List.filter_map, List.filter_filter]
  refine congrArg _ (List.filter_congr fun a _ => ?_)
  simp only [Function.comp_apply, isFresh]
  cases (a.stamp x.detector.spec).isAmong x.known <;> simp

private theorem examine_of_omits (omits : x.detector.Omits x.window x.known) (key : DimensionKey) (series : Series) :
    (∃ found, x.untold.examine key series = .analyzed key found ∧ x.examine key series =
      .analyzed key (found.filter fun a => !(a.stamp x.detector.spec).isAmong x.known)) ∨
    x.untold.examine key series = x.examine key series ∧ (x.examine key series).isAnalyzed = false := by
  have told : x.untold.detector.analyze key series x.untold.window x.untold.known =
      x.detector.analyze key series x.window [] := rfl
  rw [examine, examine, told, omits key series]
  split
  next => exact .inr ⟨rfl, rfl⟩
  next =>
    cases x.detector.analyze key series x.window [] with
    | ok found => exact .inl ⟨found, rfl, rfl⟩
    | error cause => exact .inr ⟨rfl, rfl⟩

/-- One key: whatever is left out early is found and dropped late. -/
theorem exists_sighting_record (omits : x.detector.Omits x.window x.known) (o : Outcome) (n : Nat)
    (key : DimensionKey) (series : Series) :
    ∃ m, x.untold.record (o.sighting n) (x.untold.examine key series) =
      (x.record o (x.examine key series)).sighting m := by
  rcases examine_of_omits omits key series with ⟨found, late, early⟩ | ⟨same, unanalyzed⟩
  · rw [late, early]
    set told := found.filter fun a => !(a.stamp x.detector.spec).isAmong x.known with told_eq
    have kept : x.untold.fresh o.results found = x.fresh o.results told := (fresh_filter _ _).symm
    have fewer : told.length ≤ found.length := List.length_filter_le _ _
    have survivors : (x.fresh o.results told).length ≤ told.length := x.length_fresh_le _ _
    refine ⟨n + (found.length - told.length), ?_⟩
    simp only [record, Outcome.sighting, kept]
    congr 2
    · omega
    · omega
  · rw [same]
    cases visited : x.examine key series with
    | skipped _ _ => exact ⟨n, rfl⟩
    | failed _ _ => exact ⟨n, rfl⟩
    | analyzed _ _ =>
      rw [visited] at unanalyzed
      cases unanalyzed

private theorem exists_sighting_absorb (omits : x.detector.Omits x.window x.known) (o : Outcome) (n : Nat)
    (reply : Except Error SeriesMap) :
    ∃ m, x.untold.absorb (o.sighting n) reply = (x.absorb o reply).sighting m := by
  cases reply with
  | error _ => exact ⟨n, rfl⟩
  | ok m =>
    rw [absorb, absorb, List.foldl_map, List.foldl_map]
    refine List.foldl_rel (r := fun (o o' : Outcome) => ∃ m, o' = o.sighting m) ⟨n, rfl⟩ ?_
    rintro e - o o' ⟨n', rfl⟩
    exact exists_sighting_record omits o n' e.1 e.2

private theorem exists_sighting_outcome (omits : x.detector.Omits x.window x.known)
    (replies : List (Except Error SeriesMap)) :
    ∃ n, x.untold.outcome replies = (x.outcome replies).sighting n := by
  refine List.foldl_rel (r := fun (o o' : Outcome) => ∃ n, o' = o.sighting n) ⟨0, rfl⟩ ?_
  rintro reply - o o' ⟨n, rfl⟩
  exact exists_sighting_absorb omits o n reply

end Exploration

/-- Of all that surrounds a run, queries alone change the state: the clock and the notes on visits leave it. -/
structure Surroundings.Steady {σ : Type} (world : Surroundings (StateM σ)) : Prop where
  now : ∀ env, (world.now env).2 = env
  observe : ∀ visit env, (world.observe visit env).2 = env

namespace Pass

open Dialogue (Course)

section Client

variable {σ α : Type} {world : Surroundings (StateM σ)}

def answers (world : Surroundings (StateM σ)) : List Request → σ → List (Except Error SeriesMap)
  | [], _ => []
  | request :: rest, env => (world.query request env).1 :: answers world rest (world.query request env).2

private theorem env_noteVisit (steady : world.Steady) (job : String) (v : Visit) (site : Site) (env : σ) :
    (world.noteVisit job v site env).2 = env := by
  have noted := steady.observe v env
  unfold Surroundings.noteVisit
  rcases seen : world.observe v env with ⟨duration, env'⟩
  rw [seen] at noted
  obtain rfl : env' = env := noted
  cases v with
  | skipped _ _ => simp only [bind, StateT.bind, seen]; rfl
  | failed _ _ => simp only [bind, StateT.bind, seen]; rfl
  | analyzed _ _ =>
    simp only [bind, StateT.bind, seen]
    exact steady.now env'

private theorem replies_transcript (steady : world.Steady) (d : Step α) (site : Site) (env : σ)
    (silent : history (transcript world d site env) = []) :
    replies (transcript world d site env) = answers world (queries (transcript world d site env)) env := by
  induction d generalizing site env with
  | done a => rfl
  | ask c next ih =>
    cases c with
    | query request => exact congrArg (List.cons _) (ih _ site _ silent)
    | store c => cases silent
    | timer job => exact ih _ _ env silent
    | visited job v =>
      have later := ih () (world.noteVisit job v site env).1.2 (world.noteVisit job v site env).2 silent
      exact later.trans (congrArg (answers world _) (env_noteVisit steady job v site env))

private theorem replies_explore (steady : world.Steady) (x : Exploration) (job : String) (requests : List Request)
    (site : Site) (env : σ) :
    replies (transcript world (explore x job .initial requests) site env) = answers world requests env := by
  have course := course_transcript world (explore x job .initial requests) site env
  rw [replies_transcript steady _ site env (course_explore course).1, (told_of_explore course).1]

end Client

/-- A threshold function explores in the same way whether its analyses are told what the look-up of the pass
returned or nothing at all: the same anomalies are kept in the same order, and all counters agree but for the
known anomalies that are found, which count twice, as found and as known. -/
theorem known_left_out_early_or_late {spec : Spec} {d : Detector} (built : Threshold.ofSpec spec = .ok d)
    (l : Ledger) (window : Window) {σ : Type} {world : Surroundings (StateM σ)} (steady : world.Steady)
    (job : String) (requests : List Request) (site : Site) (env : σ) :
    let x : Exploration := ⟨d, window, l.find ⟨spec.collection, window.start, window.stop, spec.id⟩⟩
    let (o, left) := ((explore x job .initial requests).run world.respond site env).1
    let (o', left') := ((explore x.untold job .initial requests).run world.respond site env).1
    o'.results = o.results ∧
    (∃ n, o'.tally = { o.tally with
      anomaliesFound := o.tally.anomaliesFound + n
      anomaliesKnown := o.tally.anomaliesKnown + n }) ∧
    (left'.timings.histogram job).count = (left.timings.histogram job).count := by
  intro x
  have course := course_transcript world (explore x job .initial requests) site env
  have course' := course_transcript world (explore x.untold job .initial requests) site env
  have timed := count_run world job (explore x job .initial requests) site env
  have timed' := count_run world job (explore x.untold job .initial requests) site env
  rw [(accounted_of_course course).2] at timed
  rw [(accounted_of_course course').2] at timed'
  have same := (course_explore course).2
  have same' := (course_explore course').2
  rw [replies_explore steady] at same same'
  obtain ⟨n, sighted⟩ := Exploration.exists_sighting_outcome (x := x)
    (Threshold.omits_of_ofSpec built l window) (answers world requests env)
  have outcomes := same'.trans (sighted.trans (congrArg (Outcome.sighting · n) same.symm))
  refine ⟨(congrArg Outcome.results outcomes).trans rfl, ⟨n, congrArg Outcome.tally outcomes⟩, ?_⟩
  rw [timed', timed, outcomes]
  rfl

/-- Two values above ten, the first of which is stored already: told so, the function reports one anomaly, and
told nothing it reports both. -/
theorem left_out_one_of_two :
    let row := (Anomaly.unstamped ⟨["a"]⟩ Window.sample.start ⟨-3540, 0, by decide⟩ 4).stamp .sample
    let series : Series := .ofList [(Window.sample.start, 50), (⟨-60, 0, by decide⟩, 20)]
    let world : Surroundings (StateM Unit) :=
      { now := pure .epoch
        query := fun _ => pure (.ok (.ofList [(⟨["a"]⟩, series)]))
        append := fun _ => pure (.ok ())
        guard := fun _ => pure none
        observe := fun _ => pure 0 }
    ∃ d, Threshold.ofSpec .sample = .ok d ∧
      let x : Exploration := ⟨d, .sample, (Ledger.ofRows [row]).find ⟨"web", Window.sample.start, .epoch, 1⟩⟩
      let requests := Request.plan .sample "AGGREGATE_1_MINUTES(latency)" .sample
      let o := ((explore x "latency" .initial requests).run world.respond .empty ()).1.1
      let o' := ((explore x.untold "latency" .initial requests).run world.respond .empty ()).1.1
      x.known = [row] ∧ o'.results = o.results ∧ o.results.map Anomaly.start = [⟨-60, 0, by decide⟩] ∧
      o.tally.anomaliesFound = 1 ∧ o'.tally.anomaliesFound = 2 ∧
      o.tally.anomaliesKnown = 0 ∧ o'.tally.anomaliesKnown = 1 := by
  intro row series world
  obtain ⟨d, built⟩ : ∃ d, Threshold.ofSpec .sample = .ok d := ⟨_, rfl⟩
  refine ⟨d, built, ?_⟩
  intro x requests o o'
  have steady : world.Steady := ⟨fun _ => rfl, fun _ _ => rfl⟩
  obtain ⟨same, -, -⟩ := known_left_out_early_or_late built (Ledger.ofRows [row]) .sample steady "latency"
    requests .empty ()
  cases built
  refine ⟨rfl, same, ?_, ?_, ?_, ?_, ?_⟩
  · decide +kernel
  · decide +kernel
  · decide +kernel
  · decide +kernel
  · decide +kernel

end Pass

end AnomalyWatch
