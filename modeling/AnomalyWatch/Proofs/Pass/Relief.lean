import AnomalyWatch.Proofs.Pass.Accounts

/-!
Failures of queries and analyses stay where they are.

Replies are relieved when some failed queries are answered with nothing instead and some keys on which the
analysis fails are left out. An exploration of relieved replies differs from one of the replies themselves in the
counters of failures alone: adding failures to an outcome (`Outcome.failing`) commutes with everything that is
done to outcomes.
-/

set_option autoImplicit false
set_option relaxedAutoImplicit false

namespace AnomalyWatch

namespace Outcome

/-- The outcome with so many failed queries and failed keys more. -/
def failing (o : Outcome) (queries keys : Nat) : Outcome :=
  { o with tally := { o.tally with
      requestsFailed := o.tally.requestsFailed + queries
      keysFailed := o.tally.keysFailed + keys } }

private theorem failing_failing (o : Outcome) (queries keys queries' keys' : Nat) :
    (o.failing queries keys).failing queries' keys' = o.failing (queries + queries') (keys + keys') := by
  simp only [failing, Nat.add_assoc]

end Outcome

namespace Exploration

variable {x : Exploration}

private theorem record_failing (o : Outcome) (v : Visit) (queries keys : Nat) :
    x.record (o.failing queries keys) v = (x.record o v).failing queries keys := by
  cases v with
  | skipped _ _ => rfl
  | analyzed _ _ => rfl
  | failed _ _ => simp only [record, Outcome.failing, Nat.add_right_comm]

private theorem foldl_record_failing (vs : List Visit) (o : Outcome) (queries keys : Nat) :
    vs.foldl x.record (o.failing queries keys) = (vs.foldl x.record o).failing queries keys := by
  induction vs generalizing o with
  | nil => rfl
  | cons v rest ih => rw [List.foldl_cons, record_failing, ih, List.foldl_cons]

private theorem absorb_failing (o : Outcome) (reply : Except Error SeriesMap) (queries keys : Nat) :
    x.absorb (o.failing queries keys) reply = (x.absorb o reply).failing queries keys := by
  cases reply with
  | error _ => simp only [absorb, refused, begun, Outcome.failing, Nat.add_right_comm]
  | ok m => exact foldl_record_failing _ (begun o) queries keys

private theorem foldl_absorb_failing (replies : List (Except Error SeriesMap)) (o : Outcome) (queries keys : Nat) :
    replies.foldl x.absorb (o.failing queries keys) = (replies.foldl x.absorb o).failing queries keys := by
  induction replies generalizing o with
  | nil => rfl
  | cons reply rest ih => rw [List.foldl_cons, absorb_failing, ih, List.foldl_cons]

def FailsOn (x : Exploration) (e : DimensionKey × Series) : Prop :=
  2 ≤ e.2.size ∧ ∃ cause, x.detector.analyze e.1 e.2 x.window x.known = .error cause

private theorem record_of_failsOn {e : DimensionKey × Series} (fails : x.FailsOn e) (o : Outcome) :
    x.record o (x.examine e.1 e.2) = o.failing 0 1 := by
  obtain ⟨enough, cause, failed⟩ := fails
  have visited : x.examine e.1 e.2 = .failed e.1 cause := by
    have long : ¬ e.2.size < leastBuckets := Nat.not_lt.mpr enough
    rw [examine, if_neg long, failed]
  rw [visited]
  rfl

/-- One reply and the same without so many failures: a failed query is left as it is or answered with nothing,
and of a reply some keys that fail are left out. -/
inductive Relieved (x : Exploration) :
    Except Error SeriesMap → Except Error SeriesMap → (queries keys : Nat) → Prop
  | refused (cause : Error) : Relieved x (.error cause) (.error cause) 0 0
  | emptied (cause : Error) : Relieved x (.error cause) (.ok ∅) 1 0
  | thinned {reply less : SeriesMap} (gone : DimensionKey → Bool)
      (left : less.entries = reply.entries.filter fun e => !gone e.1)
      (fails : ∀ e ∈ reply.entries, gone e.1 → x.FailsOn e) :
      Relieved x (.ok reply) (.ok less) 0 (reply.entries.countP fun e => gone e.1)

inductive Relief (x : Exploration) : List (Except Error SeriesMap) → List (Except Error SeriesMap) →
    (queries keys : Nat) → Prop
  | nil : Relief x [] [] 0 0
  | cons {reply reply' : Except Error SeriesMap} {replies replies' : List (Except Error SeriesMap)}
      {queries keys queries' keys' : Nat} (first : Relieved x reply reply' queries keys)
      (rest : Relief x replies replies' queries' keys') :
      Relief x (reply :: replies) (reply' :: replies') (queries + queries') (keys + keys')

private theorem foldl_record_filter {gone : DimensionKey → Bool} {entries : List (DimensionKey × Series)}
    (fails : ∀ e ∈ entries, gone e.1 → x.FailsOn e) (o : Outcome) :
    (entries.map fun e => x.examine e.1 e.2).foldl x.record o =
      (((entries.filter fun e => !gone e.1).map fun e => x.examine e.1 e.2).foldl x.record o).failing
        0 (entries.countP fun e => gone e.1) := by
  induction entries generalizing o with
  | nil => rfl
  | cons e rest ih =>
    have others : ∀ e ∈ rest, gone e.1 → x.FailsOn e :=
      fun e' present => fails e' (List.mem_cons_of_mem _ present)
    rw [List.map_cons, List.foldl_cons, ih others]
    by_cases out : gone e.1
    · -- A key that is left out adds one failure, now or at the end.
      rw [record_of_failsOn (fails e List.mem_cons_self out), foldl_record_failing, Outcome.failing_failing,
        List.filter_cons_of_neg (by simpa using out), List.countP_cons_of_pos (by simpa using out), Nat.add_comm 1]
    · rw [List.filter_cons_of_pos (by simpa using out), List.countP_cons_of_neg (by simpa using out),
        List.map_cons, List.foldl_cons]

theorem Relieved.absorb {reply reply' : Except Error SeriesMap} {queries keys : Nat}
    (relieved : Relieved x reply reply' queries keys) (o : Outcome) :
    x.absorb o reply = (x.absorb o reply').failing queries keys := by
  cases relieved with
  | refused cause => rfl
  | emptied cause => rfl
  | @thinned reply less gone left fails =>
    rw [Exploration.absorb, Exploration.absorb, left]
    exact foldl_record_filter fails (begun o)

private theorem Relief.foldl_absorb {replies replies' : List (Except Error SeriesMap)} {queries keys : Nat}
    (relief : Relief x replies replies' queries keys) (o : Outcome) :
    replies.foldl x.absorb o = (replies'.foldl x.absorb o).failing queries keys := by
  induction relief generalizing o with
  | nil => rfl
  | @cons reply reply' replies replies' queries keys queries' keys' first rest ih =>
    calc (reply :: replies).foldl x.absorb o
      _ = replies.foldl x.absorb ((x.absorb o reply').failing queries keys) := by
        rw [List.foldl_cons, first.absorb]
      _ = (replies.foldl x.absorb (x.absorb o reply')).failing queries keys := foldl_absorb_failing _ _ _ _
      _ = ((replies'.foldl x.absorb (x.absorb o reply')).failing queries' keys').failing queries keys := by
        rw [ih]
      _ = ((reply' :: replies').foldl x.absorb o).failing (queries + queries') (keys + keys') := by
        rw [Outcome.failing_failing, Nat.add_comm queries', Nat.add_comm keys', List.foldl_cons]

end Exploration

namespace Pass

open Exploration (Relief)

/-- Two runs of an exploration whose replies are the same but for failures that the second is spared: it keeps
the same anomalies in the same order, times as many analyses and counts the same but for these failures. -/
theorem failures_isolated {σ σ' : Type} (world : Surroundings (StateM σ)) (world' : Surroundings (StateM σ'))
    (x : Exploration) (job : String) (requests : List Request) (site : Site) (env : σ) (env' : σ')
    {queries keys : Nat}
    (relief : Relief x (replies (transcript world (explore x job .initial requests) site env))
      (replies (transcript world' (explore x job .initial requests) site env')) queries keys) :
    let (o, left) := ((explore x job .initial requests).run world.respond site env).1
    let (o', left') := ((explore x job .initial requests).run world'.respond site env').1
    o'.results = o.results ∧
    o.tally = { o'.tally with
      requestsFailed := o'.tally.requestsFailed + queries
      keysFailed := o'.tally.keysFailed + keys } ∧
    (left'.timings.histogram job).count = (left.timings.histogram job).count := by
  have course := course_transcript world (explore x job .initial requests) site env
  have course' := course_transcript world' (explore x job .initial requests) site env'
  have timed := count_run world job (explore x job .initial requests) site env
  have timed' := count_run world' job (explore x job .initial requests) site env'
  have same := relief.foldl_absorb .initial
  rw [← (course_explore course).2, ← (course_explore course').2] at same
  rw [(accounted_of_course course).2] at timed
  rw [(accounted_of_course course').2] at timed'
  refine ⟨(congrArg Outcome.results same).symm, congrArg Outcome.tally same, ?_⟩
  rw [timed', timed, same]
  rfl

/-- The sample function where the first query fails and one of two keys fails, and the same where both are
spared. -/
theorem spared_two_failures :
    let series : Series := .ofList [(Window.sample.start, 50), (.epoch, 5)]
    let found := Anomaly.unstamped ⟨["b"]⟩ Window.sample.start .epoch 1
    let x : Exploration :=
      { detector := ⟨.sample, fun key _ _ _ => if key = ⟨["a"]⟩ then .error (.noMetric 1) else .ok [found]⟩
        window := .sample
        known := [] }
    let whole : Request := ⟨"web", "AGGREGATE_1_MINUTES(latency)", Window.sample.start, .epoch, none⟩
    let world (first second : Except Error SeriesMap) : Surroundings (StateM Unit) :=
      { now := pure .epoch
        query := fun request => pure (if request.groupBy = none then first else second)
        append := fun _ => pure (.ok ())
        guard := fun _ => pure none
        observe := fun _ => pure 0 }
    let both : SeriesMap := .ofList [(⟨["a"]⟩, series), (⟨["b"]⟩, series)]
    let failing := world (.error (.requestFailed "closed")) (.ok both)
    let spared := world (.ok ∅) (.ok (.ofList [(⟨["b"]⟩, series)]))
    let exploring := explore x "latency" .initial [whole, whole.groupedBy "country"]
    let o := (exploring.run failing.respond .empty ()).1.1
    let o' := (exploring.run spared.respond .empty ()).1.1
    Relief x (replies (transcript failing exploring .empty ()))
      (replies (transcript spared exploring .empty ())) 1 1 ∧
    o'.results = o.results ∧ o.results = [found.stamp .sample] ∧
    o.tally.requestsFailed = o'.tally.requestsFailed + 1 ∧ o.tally.keysFailed = o'.tally.keysFailed + 1 := by
  intro series found x whole world both failing spared exploring o o'
  have relief : Relief x (replies (transcript failing exploring .empty ()))
      (replies (transcript spared exploring .empty ())) 1 1 := by
    refine .cons (.emptied _) (.cons (.thinned (· = ⟨["a"]⟩) rfl fun e present out => ?_) .nil)
    have listed : e ∈ [((⟨["a"]⟩ : DimensionKey), series), (⟨["b"]⟩, series)] := present
    rcases List.mem_cons.mp listed with rfl | other
    · exact ⟨by decide, .noMetric 1, rfl⟩
    · obtain rfl := List.mem_singleton.mp other
      exact absurd (of_decide_eq_true out) (by decide)
  obtain ⟨same, tally, _⟩ := failures_isolated failing spared x "latency" _ .empty () () relief
  refine ⟨relief, same, rfl, ?_, ?_⟩
  · exact congrArg Tally.requestsFailed tally
  · exact congrArg Tally.keysFailed tally

end Pass

end AnomalyWatch
