import AnomalyWatch.Pass.Surroundings
import AnomalyWatch.Proofs.Pass.Conduct

/-!
A pass in front of a store.

`Attends s log s'` says how a store that may be refused to a pass takes part in a log: each call on it is
either refused before it reaches the store or answered by the store, and the metric service replies what it
likes. The `transcript` of a run, in surroundings of any kind, is such a log, so what is proved of courses holds of
runs. The lemmas follow a store through the stages of a pass.
-/

set_option autoImplicit false
set_option relaxedAutoImplicit false

namespace AnomalyWatch.Pass

open Dialogue (Course)

/-- A store that may be refused to a pass goes through a log of the pass. -/
inductive Attends : Store → Log → Store → Prop
  | nil (s : Store) : Attends s [] s
  | answered {s s' : Store} {c : Store.Call} {rest : Log} (now : Instant) (verdict : Except Error Unit)
      (go : Attends (s.answer now verdict c).2 rest s') :
      Attends s (⟨.store c, (s.answer now verdict c).1⟩ :: rest) s'
  | refused {s s' : Store} {c : Store.Call} {rest : Log} (e : Error) (go : Attends s rest s') :
      Attends s (⟨.store c, .error e⟩ :: rest) s'
  | elsewhere {s s' : Store} {e : (c : Call) × Reply c} {rest : Log} (other : storeCall? e = none)
      (go : Attends s rest s') : Attends s (e :: rest) s'

theorem Attends.append {s s' s'' : Store} {log rest : Log} (h : Attends s log s')
    (k : Attends s' rest s'') : Attends s (log ++ rest) s'' := by
  induction h with
  | nil s => exact k
  | answered now verdict _ ih => exact .answered now verdict (ih k)
  | refused e _ ih => exact .refused e (ih k)
  | elsewhere other _ ih => exact .elsewhere other (ih k)

theorem Attends.split {s s'' : Store} {log rest : Log} (h : Attends s (log ++ rest) s'') :
    ∃ s', Attends s log s' ∧ Attends s' rest s'' := by
  induction log generalizing s with
  | nil => exact ⟨s, .nil s, h⟩
  | cons e log ih =>
    cases h with
    | answered now verdict go =>
      obtain ⟨s', first, second⟩ := ih go
      exact ⟨s', .answered now verdict first, second⟩
    | refused e go =>
      obtain ⟨s', first, second⟩ := ih go
      exact ⟨s', .refused e first, second⟩
    | elsewhere other go =>
      obtain ⟨s', first, second⟩ := ih go
      exact ⟨s', .elsewhere other first, second⟩

private theorem Attends.eq_of_history_nil {s s' : Store} {log : Log} (h : Attends s log s')
    (silent : history log = []) : s' = s := by
  induction h with
  | nil s => rfl
  | answered now verdict _ _ => simp [history, storeCall?] at silent
  | refused e _ _ => simp [history, storeCall?] at silent
  | elsewhere other _ ih =>
    refine ih ?_
    simpa [history, List.filterMap_cons, other] using silent

private theorem Attends.store_cons {s s'' : Store} {c : Store.Call} {r : Store.Reply c} {rest : Log}
    (h : Attends s (⟨.store c, r⟩ :: rest) s'') :
    (∃ now verdict, r = (s.answer now verdict c).1 ∧ Attends (s.answer now verdict c).2 rest s'') ∨
      ∃ e, r = .error e ∧ Attends s rest s'' := by
  cases h with
  | answered now verdict go => exact .inl ⟨now, verdict, rfl, go⟩
  | refused e go => exact .inr ⟨e, rfl, go⟩
  | elsewhere other go => cases other

private theorem attends_respond {σ : Type} (world : Surroundings (StateM σ)) (c : Call) (site : Site) (env : σ) :
    Attends site.store [⟨c, (world.respond c site env).1.1⟩] (world.respond c site env).1.2.store := by
  cases c with
  | query request => exact .elsewhere rfl (.nil _)
  | timer job => exact .elsewhere rfl (.nil _)
  | visited job visit =>
    refine .elsewhere rfl ?_
    cases visit <;> exact .nil _
  | store c =>
    change Attends site.store [⟨.store c, (world.askStore c site env).1.1⟩]
      (world.askStore c site env).1.2.store
    unfold Surroundings.askStore
    rcases guarded : world.guard c env with ⟨_ | e, env'⟩
    · rcases clock : world.now env' with ⟨now, env''⟩
      obtain ⟨verdict, last, answered⟩ := site.store.respond_eq_answer now world.append c env''
      simp only [bind, StateT.bind, guarded, clock, answered]
      exact .answered _ _ (.nil _)
    · simp only [bind, StateT.bind, guarded]
      exact .refused e (.nil _)

section Run

variable {σ α : Type} (world : Surroundings (StateM σ))

/-- What a dialogue asks of surroundings, with their replies. -/
def transcript : Step α → Site → σ → Log
  | .done _, _, _ => []
  | .ask c next, site, env =>
    let answer := world.respond c site env
    ⟨c, answer.1.1⟩ :: transcript (next answer.1.1) answer.1.2 answer.2

theorem course_transcript (d : Step α) (site : Site) (env : σ) :
    Course d (transcript world d site env) (d.run world.respond site env).1.1 := by
  induction d generalizing site env with
  | done a => exact .done a
  | ask c next ih => exact .ask (ih _ _ _)

theorem attends_transcript (d : Step α) (site : Site) (env : σ) :
    Attends site.store (transcript world d site env) (d.run world.respond site env).1.2.store := by
  induction d generalizing site env with
  | done a => exact .nil _
  | ask c next ih => exact (attends_respond world c site env).append (ih _ _ _)

end Run

private theorem Attends.of_ok {s s'' : Store} {c : Store.Call} {r : Store.Result c} {rest : Log}
    (h : Attends s (⟨.store c, .ok r⟩ :: rest) s'') :
    ∃ now verdict, (s.answer now verdict c).1 = .ok r ∧ Attends (s.answer now verdict c).2 rest s'' := by
  rcases h.store_cons with ⟨now, verdict, answered, go⟩ | ⟨e, refused, _⟩
  · exact ⟨now, verdict, answered.symm, go⟩
  · cases refused

theorem Attends.begin {s s'' : Store} {ticket : Nat} {rest : Log}
    (h : Attends s (⟨.store .begin, .ok ticket⟩ :: rest) s'') :
    s.begin.2.openTransaction ticket = .ok ⟨[], false⟩ ∧ Attends s.begin.2 rest s'' := by
  obtain ⟨now, verdict, answered, go⟩ := h.of_ok
  rw [Store.answer_begin] at answered go
  obtain rfl : s.transactions.length = ticket := Except.ok.inj answered
  exact ⟨by simp [Store.openTransaction_begin], go⟩

theorem Attends.find {s s'' : Store} {ticket : Nat} {q : Lookup} {known : List Anomaly} {rest : Log}
    {t : Transaction} (opened : s.openTransaction ticket = .ok t)
    (h : Attends s (⟨.store (.find ticket q), .ok known⟩ :: rest) s'') :
    known = s.ledger.find q ∧ Attends s rest s'' := by
  obtain ⟨now, verdict, answered, go⟩ := h.of_ok
  rw [Store.answer_find q opened] at answered go
  exact ⟨(Except.ok.inj answered).symm, go⟩

theorem Attends.commit {s s'' : Store} {ticket : Nat} {rest : Log} {t : Transaction}
    (opened : s.openTransaction ticket = .ok t)
    (h : Attends s (⟨.store (.commit ticket), .ok ()⟩ :: rest) s'') :
    ∃ now, Attends ((s.finish ticket).settle (s.ledger.prepare now t.staged) (.ok ())) rest s'' := by
  obtain ⟨now, verdict, answered, go⟩ := h.of_ok
  rw [Store.answer_commit opened] at answered go
  obtain rfl : verdict = .ok () := answered
  exact ⟨now, go⟩

/-- Rows that were all created wait in their transaction, behind those that waited before. -/
theorem Attends.creating {ticket : Nat} {rows : List Anomaly} {h : Store.History} {s s'' : Store}
    {t : Transaction} {rest : Log} (creating : Creating ticket rows h (.ok ()))
    (opened : s.openTransaction ticket = .ok t) (attended : Attends s (ofHistory h ++ rest) s'') :
    ∃ s', s'.openTransaction ticket = .ok { t with staged := t.staged ++ rows } ∧
      s'.ledger = s.ledger ∧ Attends s' rest s'' := by
  induction rows generalizing s h t with
  | nil =>
    cases creating
    exact ⟨s, by simpa using opened, rfl, attended⟩
  | cons a rows ih =>
    cases creating with
    | cons _ go =>
      obtain ⟨now, verdict, _, attended⟩ := Attends.of_ok attended
      rw [Store.answer_create a opened] at attended
      have waiting := Store.openTransaction_collect opened a
      obtain ⟨s', opened', ledger, attended'⟩ := ih go waiting attended
      exact ⟨s', by simpa using opened', ledger, attended'⟩

theorem ledger_answer_of_uncommitted {s : Store} {now : Instant} {verdict : Except Error Unit}
    {c : Store.Call} (idle : Store.committedBy ⟨c, (s.answer now verdict c).1⟩ = none) :
    (s.answer now verdict c).2.ledger = s.ledger := by
  cases c with
  | begin => rfl
  | discard t => rfl
  | find t q =>
    cases opened : s.openTransaction t with
    | ok _ => rw [Store.answer_find q opened]
    | error _ => rw [Store.answer_find_closed q opened]
  | create t row =>
    cases opened : s.openTransaction t with
    | ok _ => rw [Store.answer_create row opened, Store.ledger_replace]
    | error _ => rw [Store.answer_create_closed row opened]
  | rollback t =>
    cases opened : s.openTransaction t with
    | ok _ => rw [Store.answer_rollback opened, Store.ledger_finish]
    | error _ => rw [Store.answer_rollback_closed opened]
  | commit t =>
    cases opened : s.openTransaction t with
    | error _ => rw [Store.answer_commit_closed opened]
    | ok _ =>
      rw [Store.answer_commit opened] at idle ⊢
      cases verdict with
      | ok _ => cases idle
      | error _ => rfl

private theorem Attends.ledger_of_uncommitted {s s' : Store} {log : Log} (attended : Attends s log s')
    (idle : Store.committed (history log) = []) : s'.ledger = s.ledger := by
  induction attended with
  | nil s => rfl
  | answered now verdict _ ih =>
    obtain ⟨first, rest⟩ := Store.committed_cons_eq_nil.mp idle
    exact (ih rest).trans (ledger_answer_of_uncommitted first)
  | refused e _ ih => exact ih (Store.committed_cons_eq_nil.mp idle).2
  | elsewhere other _ ih =>
    refine ih ?_
    simpa [history, List.filterMap_cons, other] using idle

theorem Attends.reading {q : Lookup} {h : Store.History} {r : Except Error (List Anomaly)} {s s' : Store}
    (reading : Reading q h r) (attended : Attends s (ofHistory h) s') :
    s'.ledger = s.ledger ∧ ∀ known, r = .ok known → known = s.ledger.find q := by
  cases reading with
  | unbegun e => exact ⟨attended.ledger_of_uncommitted rfl, fun _ succeeded => by cases succeeded⟩
  | unread t e r => exact ⟨attended.ledger_of_uncommitted rfl, fun _ succeeded => by cases succeeded⟩
  | uncommitted t known e =>
    exact ⟨attended.ledger_of_uncommitted rfl, fun _ succeeded => by cases succeeded⟩
  | read t known =>
    obtain ⟨opened, attended⟩ := Attends.begin attended
    obtain ⟨looked, attended⟩ := attended.find opened
    obtain ⟨now, attended⟩ := attended.commit opened
    cases attended
    refine ⟨s.ledger.publish_nil, fun other succeeded => ?_⟩
    rw [← Except.ok.inj succeeded, looked, Store.ledger_begin]

private theorem Attends.writing_error {results : List Anomaly} {h : Store.History} {e : Error} {s s' : Store}
    (writing : Writing results h (.error e)) (attended : Attends s (ofHistory h) s') :
    s'.ledger = s.ledger := by
  refine attended.ledger_of_uncommitted ?_
  rw [history_ofHistory]
  exact writing.uncommitted_of_error

private theorem Attends.writing_ok {results : List Anomaly} {h : Store.History} {n : Nat} {s s' : Store}
    (writing : Writing results h (.ok n)) (attended : Attends s (ofHistory h) s') :
    n = results.length ∧ ∃ now, s'.ledger = s.ledger.publish (s.ledger.prepare now results) := by
  cases writing with
  | nothing =>
    cases attended
    exact ⟨rfl, .epoch, (Ledger.publish_nil _).symm⟩
  | written _ creating =>
    rw [ofHistory_append] at attended
    obtain ⟨opened, attended⟩ := Attends.begin attended
    obtain ⟨s₁, staged, ledger, attended⟩ := Attends.creating creating opened attended
    obtain ⟨now, attended⟩ := attended.commit staged
    cases attended
    refine ⟨rfl, now, ?_⟩
    change (s₁.finish _).ledger.publish _ = _
    rw [Store.ledger_finish, ledger]
    rfl

/-- What a pass leaves in the ledger: nothing new if it fails, else what its exploration kept. -/
theorem Attends.pass {j : Job} {now : Instant} {log : Log} {outcome : Except Error Summary} {s s' : Store}
    (course : Course (j.pass now) log outcome) (attended : Attends s log s') :
    (∀ e, outcome = .error e → s'.ledger = s.ledger) ∧
    ∀ summary, outcome = .ok summary →
      ∃ window aggregation instant, ∃ x : Exploration,
        j.prepare now = .ok (window, aggregation) ∧
        x = ⟨j.detector, window, s.ledger.find (j.lookup window)⟩ ∧
        summary = j.summary window aggregation x.known (x.outcome (replies log))
          (x.outcome (replies log)).results.length ∧
        s'.ledger = s.ledger.publish
          (s.ledger.prepare instant (x.outcome (replies log)).results) := by
  rcases Job.course_pass.mp course with ⟨e, _, rfl, rfl⟩ | ⟨window, aggregation, prepared, course⟩
  · cases attended
    exact ⟨fun _ _ => rfl, fun _ succeeded => by cases succeeded⟩
  rcases Job.course_passOver.mp course with ⟨h, e, rfl, reading, rfl⟩ | ⟨⟨stages⟩⟩
  · exact ⟨fun _ _ => (attended.reading reading).1, fun _ succeeded => by cases succeeded⟩
  have told := stages.found_eq
  obtain ⟨reading, known, exploring, found, writing, written, read, explored, wrote, shape, rfl⟩ := stages
  obtain ⟨silent, _⟩ := course_explore explored
  rw [shape] at attended
  obtain ⟨s₂, attended, last⟩ := attended.split
  obtain ⟨s₁, first, attended⟩ := attended.split
  obtain ⟨unchanged, looked⟩ := Attends.reading read first
  obtain rfl := looked known rfl
  obtain rfl : s₂ = s₁ := attended.eq_of_history_nil (by simpa [history, storeCall?] using silent)
  cases written with
  | error e =>
    exact ⟨fun _ _ => (last.writing_error wrote).trans unchanged, fun _ succeeded => by cases succeeded⟩
  | ok n =>
    obtain ⟨rfl, instant, ledger⟩ := last.writing_ok wrote
    refine ⟨fun _ failed => (by cases failed), fun summary succeeded => ?_⟩
    refine ⟨window, aggregation, instant, _, prepared, rfl, ?_, ?_⟩
    · rw [← told]
      exact (Except.ok.inj succeeded).symm
    · rw [← told, ledger, unchanged]

end AnomalyWatch.Pass
