import AnomalyWatch.Proofs.Detection.Exploration
import AnomalyWatch.Proofs.Pass.Attendance

/-!
A pass writes all of its results or nothing.

The store in front of which a pass runs may refuse any of its calls, the rollbacks included. A pass that fails
leaves the ledger as it was; a pass that succeeds enters what its exploration kept as one batch. What a
rollback is answered makes no difference, since no part of a pass looks at it (`Heedless`).
-/

set_option autoImplicit false
set_option relaxedAutoImplicit false

namespace AnomalyWatch.Pass

open Dialogue (Course)

/-- The program goes on in the same way whatever a rollback is answered. -/
inductive Heedless {α : Type} : Step α → Prop
  | done (a : α) : Heedless (.done a)
  | ask {c : Call} {next : Reply c → Step α}
      (same : ∀ ticket, c = .store (.rollback ticket) → ∀ r r', next r = next r')
      (rest : ∀ r, Heedless (next r)) : Heedless (.ask c next)

def SameButRollbacks : Log → Log → Prop :=
  List.Forall₂ fun e e' => e = e' ∨ ∃ ticket r r',
    e = ⟨.store (.rollback ticket), r⟩ ∧ e' = ⟨.store (.rollback ticket), r'⟩

namespace Heedless

variable {α β : Type}

theorem bind {d : Step α} {f : α → Step β} (hd : Heedless d) (hf : ∀ a, Heedless (f a)) :
    Heedless (d >>= f) := by
  induction hd with
  | done a => exact hf a
  | ask same _ ih =>
    refine .ask (fun ticket named r r' => ?_) ih
    exact congrArg (fun d : Step α => d >>= f) (same ticket named r r')

theorem call {c : Call} (other : ∀ ticket, c ≠ .store (.rollback ticket)) :
    Heedless (Dialogue.call c) :=
  .ask (fun ticket named => absurd named (other ticket)) fun r => .done r

theorem course {d : Step α} (heedless : Heedless d) {log log' : Log} {a : α} (course : Course d log a)
    (same : SameButRollbacks log log') : Course d log' a := by
  induction course generalizing log' with
  | done a =>
    cases same
    exact .done a
  | @ask c next r rest a go ih =>
    obtain ⟨e', rest', first, others, rfl⟩ := List.forall₂_cons_left_iff.mp same
    cases heedless with
    | ask constant further =>
      rcases first with rfl | ⟨ticket, r₁, r₂, asked, rfl⟩
      · exact .ask (ih (further r) others)
      · cases asked
        refine .ask ?_
        rw [constant ticket rfl r₂ r₁]
        exact ih (further r₁) others

theorem abandon (ticket : Nat) (cause : Error) : Heedless (abandon ticket cause : Step (Except Error α)) :=
  .ask (fun _ _ _ _ => rfl) fun _ => .done _

theorem readKnown (q : Lookup) : Heedless (readKnown q) := by
  refine (call fun _ named => by cases named).bind fun begun => ?_
  cases begun with
  | error e => exact .done _
  | ok ticket =>
    refine (call fun _ named => by cases named).bind fun found => ?_
    cases found with
    | error e => exact abandon ticket e
    | ok known =>
      refine (call fun _ named => by cases named).bind fun committed => ?_
      cases committed with
      | error e => exact .done _
      | ok _ => exact .done _

theorem createAll (ticket : Nat) (rows : List Anomaly) : Heedless (createAll ticket rows) := by
  induction rows with
  | nil => exact .done _
  | cons a rest ih =>
    refine (call fun _ named => by cases named).bind fun created => ?_
    cases created with
    | error e => exact .done _
    | ok _ => exact ih

theorem persist (results : List Anomaly) : Heedless (persist results) := by
  unfold Pass.persist
  split
  · exact .done _
  · refine (call fun _ named => by cases named).bind fun begun => ?_
    cases begun with
    | error e => exact .done _
    | ok ticket =>
      refine (createAll ticket results).bind fun created => ?_
      cases created with
      | error e => exact abandon ticket e
      | ok _ =>
        refine (call fun _ named => by cases named).bind fun committed => ?_
        cases committed with
        | error e => exact .done _
        | ok _ => exact .done _

theorem visitKeys (x : Exploration) (job : String) (o : Outcome) (entries : List (DimensionKey × Series)) :
    Heedless (visitKeys x job o entries) := by
  induction entries generalizing o with
  | nil => exact .done _
  | cons e rest ih => exact (call fun _ named => by cases named).bind fun _ => ih _

theorem explore (x : Exploration) (job : String) (o : Outcome) (requests : List Request) :
    Heedless (explore x job o requests) := by
  induction requests generalizing o with
  | nil => exact .done _
  | cons request rest ih =>
    refine bind ?_ fun o => ih o
    refine (call fun _ named => by cases named).bind fun reply => ?_
    cases reply with
    | error e => exact .done _
    | ok entries => exact visitKeys x job _ entries.entries

theorem pass (j : Job) (now : Instant) : Heedless (j.pass now) := by
  unfold Job.pass
  split
  · exact .done _
  · refine (readKnown _).bind fun read => ?_
    cases read with
    | error e => exact .done _
    | ok known =>
      refine (call fun _ named => by cases named).bind fun _ => ?_
      refine (explore _ j.name .initial _).bind fun o => ?_
      refine (persist o.results).bind fun written => ?_
      cases written with
      | error e => exact .done _
      | ok n => exact .done _

end Heedless

/-- In front of a store that may refuse any call, a pass that fails leaves rows and ids as they are, and a
pass that succeeds adds exactly what its exploration kept, in order. What rollbacks are answered changes
neither. -/
theorem all_or_nothing {j : Job} {now : Instant} {log : Log} {outcome : Except Error Summary} {s s' : Store}
    (course : Course (j.pass now) log outcome) (attended : Attends s log s') :
    (∀ e, outcome = .error e → s'.ledger = s.ledger) ∧
    (∀ summary, outcome = .ok summary → ∃ aggregation instant kept,
      j.prepare now = .ok (summary.window, aggregation) ∧
      kept = (Exploration.outcome ⟨j.detector, summary.window, s.ledger.find (j.lookup summary.window)⟩
        (replies log)).results ∧
      s'.ledger.rows = s.ledger.rows ++ (kept.zipIdx (s.ledger.lastId + 1)).map (fun e =>
        { e.1 with id := some e.2, createdAt := some (e.1.createdAt.getD instant) }) ∧
      s'.ledger.lastId = s.ledger.lastId + kept.length ∧
      kept.length = summary.persisted ∧
      summary.tally.anomaliesFound = summary.tally.anomaliesKnown + summary.persisted) ∧
    ∀ log', SameButRollbacks log log' → Course (j.pass now) log' outcome := by
  obtain ⟨failed, succeeded⟩ := attended.pass course
  refine ⟨failed, fun summary ok => ?_, fun log' same => (Heedless.pass j now).course course same⟩
  obtain ⟨window, aggregation, instant, x, prepared, rfl, rfl, ledger⟩ := succeeded summary ok
  refine ⟨aggregation, instant, _, prepared, rfl, ?_, ?_, rfl, ?_⟩
  · rw [ledger]
    rfl
  · rw [ledger]
    exact Store.lastId_publish_prepare s.ledger instant _
  · exact Exploration.found_eq_known_add_kept (replies log)

/-- The second of two rows is refused, and so is the rollback: the first is not stored either. -/
theorem refused_create_stores_nothing :
    let a := Anomaly.unstamped ⟨["a"]⟩ .epoch .epoch 1
    let b := Anomaly.unstamped ⟨["b"]⟩ .epoch .epoch 1
    let j : Job := ⟨"latency", ⟨.sample, fun _ _ _ _ => .ok [a, b]⟩, .none⟩
    let reply : SeriesMap := .ofList [(⟨["a"]⟩, .ofList [(.epoch, 1), (Window.sample.start, 1)])]
    let log : Log := [⟨.store .begin, .ok 0⟩, ⟨.store (.find 0 (j.lookup .sample)), .ok []⟩,
      ⟨.store (.commit 0), .ok ()⟩, ⟨.timer "latency", ()⟩,
      ⟨.query ⟨"web", "AGGREGATE_1_MINUTES(latency)", Window.sample.start, .epoch, none⟩, .ok reply⟩,
      ⟨.visited "latency" (.analyzed ⟨["a"]⟩ [a, b]), ()⟩,
      ⟨.store .begin, .ok 1⟩, ⟨.store (.create 1 (a.stamp .sample)), .ok ()⟩,
      ⟨.store (.create 1 (b.stamp .sample)), .error .transactionFinished⟩,
      ⟨.store (.rollback 1), .error .transactionFinished⟩]
    Course (j.pass .epoch) log (.error Error.transactionFinished.asStoreFailure) ∧
      ∃ s, Attends .empty log s ∧ s.ledger.rows = [] := by
  intro a b j reply log
  have course : Course (j.pass .epoch) log (.error Error.transactionFinished.asStoreFailure) := by
    refine Job.course_pass.mpr (.inr ⟨.sample, _, Job.prepare_sample _, ?_⟩)
    exact .ask (.ask (.ask (.ask (.ask (.ask (.ask (.ask (.ask (.ask (.done _))))))))))
  have attended : ∃ s, Attends .empty log s :=
    ⟨_, .answered .epoch (.ok ()) (.answered .epoch (.ok ()) (.answered .epoch (.ok ())
      (.elsewhere rfl (.elsewhere rfl (.elsewhere rfl (.answered .epoch (.ok ())
        (.answered .epoch (.ok ()) (.refused _ (.refused _ (.nil _))))))))))⟩
  obtain ⟨s, attended⟩ := attended
  refine ⟨course, s, attended, ?_⟩
  rw [(all_or_nothing course attended).1 _ rfl]
  rfl

end AnomalyWatch.Pass
