import AnomalyWatch.Proofs.Pass.Conduct
import Mathlib.Data.List.Nodup

/-!
Passes under way at the same time.

A crew is a store and what is left of each pass in front of it. In a step one pass makes its next call: the
store answers for itself, and everyone else answers what they like. Nothing is said about the order in which
the passes take their turns. What one pass did in a run of the crew is a trail of that pass, what the store
was asked is a history that it serves, and a transaction belongs to the pass that began it.
-/

set_option autoImplicit false
set_option relaxedAutoImplicit false

namespace AnomalyWatch

open Dialogue (Trail)

/-- Passes under way in front of one store. -/
structure Crew where
  store : Store
  passes : List (Pass.Step (Except Error Summary))

namespace Crew

/-- Calls with their replies, and the number of the pass that made each. -/
abbrev Log : Type := List (Nat × ((c : Pass.Call) × Pass.Reply c))

/-- A crew of passes that have not begun, in front of a store without transactions. -/
def start (l : Ledger) (jobs : List (Job × Instant)) : Crew :=
  ⟨.ofLedger l, jobs.map fun p => p.1.pass p.2⟩

inductive Answers : Store → ((c : Pass.Call) × Pass.Reply c) → Store → Prop
  | store (s : Store) (c : Store.Call) (now : Instant) (verdict : Except Error Unit) :
      Answers s ⟨.store c, (s.answer now verdict c).1⟩ (s.answer now verdict c).2
  | elsewhere (s : Store) {e : (c : Pass.Call) × Pass.Reply c} (other : Pass.storeCall? e = none) :
      Answers s e s

/-- One pass makes its next call. -/
inductive Step : Crew → Nat × ((c : Pass.Call) × Pass.Reply c) → Crew → Prop
  | call {s s' : Store} {passes : List (Pass.Step (Except Error Summary))} {i : Nat} {c : Pass.Call}
      {r : Pass.Reply c} {next : Pass.Reply c → Pass.Step (Except Error Summary)}
      (turn : passes[i]? = some (.ask c next)) (answered : Answers s ⟨c, r⟩ s') :
      Step ⟨s, passes⟩ (i, ⟨c, r⟩) ⟨s', passes.set i (next r)⟩

inductive Run : Crew → Log → Crew → Prop
  | nil (crew : Crew) : Run crew [] crew
  | cons {crew crew' crew'' : Crew} {e : Nat × ((c : Pass.Call) × Pass.Reply c)} {rest : Log}
      (step : Step crew e crew') (go : Run crew' rest crew'') : Run crew (e :: rest) crew''

def own (i : Nat) (log : Log) : Pass.Log :=
  log.filterMap fun e => if e.1 = i then some e.2 else none

def asked (log : Log) : Store.History :=
  Pass.history (log.map Prod.snd)

theorem own_append (i : Nat) (log rest : Log) : own i (log ++ rest) = own i log ++ own i rest :=
  List.filterMap_append

theorem own_cons_self (i : Nat) (e : (c : Pass.Call) × Pass.Reply c) (rest : Log) :
    own i ((i, e) :: rest) = e :: own i rest := by
  simp [own]

private theorem own_cons_of_ne {i k : Nat} (other : k ≠ i) (e : (c : Pass.Call) × Pass.Reply c) (rest : Log) :
    own i ((k, e) :: rest) = own i rest := by
  simp [own, other]

theorem asked_append (log rest : Log) : asked (log ++ rest) = asked log ++ asked rest := by
  simp [asked]

theorem mem_own {i : Nat} {e : (c : Pass.Call) × Pass.Reply c} {log : Log} :
    e ∈ own i log ↔ (i, e) ∈ log := by
  simp only [own, List.mem_filterMap]
  constructor
  · rintro ⟨⟨k, e'⟩, called, mine⟩
    split at mine
    next same =>
      cases mine
      cases same
      exact called
    next => cases mine
  · exact fun called => ⟨(i, e), called, if_pos rfl⟩

theorem mem_asked {c : Store.Call} {r : Store.Reply c} {log : Log} :
    (⟨c, r⟩ : (c : Store.Call) × Store.Reply c) ∈ asked log ↔ ∃ i, (i, ⟨.store c, r⟩) ∈ log := by
  rw [asked, Pass.mem_history, List.mem_map]
  constructor
  · rintro ⟨⟨i, _⟩, called, rfl⟩
    exact ⟨i, called⟩
  · exact fun ⟨i, called⟩ => ⟨_, called, rfl⟩

theorem Answers.find {s s' : Store} {e : (c : Pass.Call) × Pass.Reply c} (answered : Answers s e s')
    {t : Nat} {q : Lookup} {known : List Anomaly} (entry : e = ⟨.store (.find t q), .ok known⟩) :
    known = s.ledger.find q := by
  cases answered with
  | elsewhere other =>
    subst entry
    cases other
  | store c now verdict =>
    obtain ⟨called, replied⟩ := Sigma.mk.inj entry
    cases called
    have replied := eq_of_heq replied
    cases opened : s.openTransaction t with
    | ok _ =>
      rw [Store.answer_find q opened] at replied
      exact (Except.ok.inj replied).symm
    | error _ =>
      rw [Store.answer_find_closed q opened] at replied
      cases replied

namespace Run

variable {crew crew' : Crew} {log : Log}

theorem split {crew'' : Crew} {rest : Log} (run : Run crew (log ++ rest) crew'') :
    ∃ crew', Run crew log crew' ∧ Run crew' rest crew'' := by
  induction log generalizing crew with
  | nil => exact ⟨crew, .nil crew, run⟩
  | cons e log ih =>
    cases run with
    | cons step go =>
      obtain ⟨crew', first, second⟩ := ih go
      exact ⟨crew', .cons step first, second⟩

theorem append {crew'' : Crew} {rest : Log} (run : Run crew log crew') (more : Run crew' rest crew'') :
    Run crew (log ++ rest) crew'' := by
  induction run with
  | nil crew => exact more
  | cons step _ ih => exact .cons step (ih more)

theorem alone {s s' : Store} {passes : List (Pass.Step (Except Error Summary))} {i : Nat}
    {d left : Pass.Step (Except Error Summary)} {log : Pass.Log} (turn : passes[i]? = some d)
    (trail : Trail d log left) (served : Store.Serves s (Pass.history log) s') :
    Run ⟨s, passes⟩ (log.map (Prod.mk i)) ⟨s', passes.set i left⟩ := by
  induction trail generalizing s passes with
  | nil d =>
    cases served
    obtain ⟨_, rfl⟩ := List.getElem?_eq_some_iff.mp turn
    rw [List.set_getElem_self]
    exact .nil _
  | @ask c next r rest e go ih =>
    have bound := (List.getElem?_eq_some_iff.mp turn).1
    have proceeds : (passes.set i (next r))[i]? = some (next r) := List.getElem?_set_self bound
    have again : (passes.set i (next r)).set i e = passes.set i e := List.set_set ..
    cases c with
    | store c =>
      cases served with
      | cons now verdict later => exact .cons (.call turn (.store s c now verdict)) (again ▸ ih proceeds later)
    | query _ => exact .cons (.call turn (.elsewhere _ rfl)) (again ▸ ih proceeds served)
    | timer _ => exact .cons (.call turn (.elsewhere _ rfl)) (again ▸ ih proceeds served)
    | visited _ _ => exact .cons (.call turn (.elsewhere _ rfl)) (again ▸ ih proceeds served)

theorem serves (run : Run crew log crew') : Store.Serves crew.store (asked log) crew'.store := by
  induction run with
  | nil crew => exact .nil _
  | cons step _ ih =>
    cases step with
    | call turn answered =>
      cases answered with
      | store c now verdict => exact .cons now verdict ih
      | elsewhere other => simpa [asked, Pass.history, List.filterMap_cons, other] using ih

theorem trail (run : Run crew log crew') {i : Nat} {d : Pass.Step (Except Error Summary)}
    (started : crew.passes[i]? = some d) :
    ∃ left, crew'.passes[i]? = some left ∧ Trail d (own i log) left := by
  induction run generalizing d with
  | nil crew => exact ⟨d, started, .nil d⟩
  | cons step go ih =>
    cases step with
    | @call s s' passes k c r next turn answered =>
      by_cases same : k = i
      · subst same
        obtain rfl := Option.some.inj (turn.symm.trans started)
        obtain ⟨left, found, trail⟩ := ih (List.getElem?_set_self (List.getElem?_eq_some_iff.mp turn).1)
        rw [own_cons_self]
        exact ⟨left, found, .ask trail⟩
      · obtain ⟨left, found, trail⟩ := ih ((List.getElem?_set_ne same).trans started)
        rw [own_cons_of_ne same]
        exact ⟨left, found, trail⟩

theorem exists_of_mem (run : Run crew log crew') {i : Nat} {e : (c : Pass.Call) × Pass.Reply c}
    (called : (i, e) ∈ log) : ∃ d, crew.passes[i]? = some d := by
  induction run with
  | nil crew => cases called
  | cons step go ih =>
    cases step with
    | call turn answered =>
      rcases List.mem_cons.mp called with first | later
      · cases first
        exact ⟨_, turn⟩
      · obtain ⟨d, found⟩ := ih later
        have bound := (List.getElem?_eq_some_iff.mp found).1
        rw [List.length_set] at bound
        exact ⟨_, List.getElem?_eq_getElem bound⟩

theorem find {after : Log} {i t : Nat} {q : Lookup} {known : List Anomaly}
    (run : Run crew ((i, ⟨.store (.find t q), .ok known⟩) :: after) crew') :
    known = crew.store.ledger.find q := by
  cases run with
  | cons step go =>
    cases step with
    | call turn answered => exact answered.find rfl

section Start

variable {l : Ledger} {jobs : List (Job × Instant)} {i : Nat} {e : (c : Pass.Call) × Pass.Reply c}

theorem records (run : Run (start l jobs) log crew) : Store.Records l (asked log) crew.store := by
  have served := (Store.Records.start l).serves run.serves
  rwa [List.nil_append] at served

instance (c : Pass.Call) : Inhabited (Pass.Reply c) where
  default := match c with
    | .store _ => .error .transactionFinished
    | .query _ => .error .transactionFinished
    | .timer _ | .visited _ _ => ()

theorem course (run : Run (start l jobs) log crew) (called : (i, e) ∈ log) :
    ∃ j now rest outcome, jobs[i]? = some (j, now) ∧
      Dialogue.Course (j.pass now) (own i log ++ rest) outcome := by
  obtain ⟨d, started⟩ := run.exists_of_mem called
  obtain ⟨left, _, trail⟩ := run.trail started
  obtain ⟨rest, outcome, course⟩ := trail.exists_course
  rw [start, List.getElem?_map] at started
  obtain ⟨⟨j, now⟩, job, rfl⟩ := Option.map_eq_some_iff.mp started
  exact ⟨j, now, rest, outcome, job, course⟩

theorem begun_of_named (run : Run (start l jobs) log crew) {c : Store.Call} {r : Store.Reply c}
    (called : (i, ⟨.store c, r⟩) ∈ log) {ticket : Nat} (named : c.ticket? = some ticket) :
    (i, ⟨.store .begin, .ok ticket⟩) ∈ log := by
  obtain ⟨j, now, rest, outcome, _, course⟩ := run.course called
  obtain ⟨before, after, rfl⟩ := List.append_of_mem called
  have names := Job.names_of_course course
  rw [own_append, own_cons_self, List.append_assoc, Pass.history_append, Pass.names_append] at names
  have mine := names.2.1 ticket named
  rw [List.nil_append, Store.mem_begun, Pass.mem_history, mem_own] at mine
  exact List.mem_append_left _ mine

theorem saved_append (run : Run (start l jobs) log crew) {rest : Log} (later : Run crew rest crew') :
    Store.saved (asked (log ++ rest)) = Store.saved (asked log) ++
      (Store.committed (asked rest)).flatMap (Store.created (asked (log ++ rest))) := by
  rw [asked_append]
  exact run.records.saved_append later.serves

theorem eq_of_begun (run : Run (start l jobs) log crew) {k ticket : Nat}
    (mine : (i, ⟨.store .begin, .ok ticket⟩) ∈ log) (others : (k, ⟨.store .begin, .ok ticket⟩) ∈ log) :
    k = i := by
  have tickets : (Store.begun (asked log)).Nodup := by
    rw [run.records.tickets]
    exact List.nodup_range
  obtain ⟨before, after, rfl⟩ := List.append_of_mem mine
  have begun : Store.begun (asked (before ++ (i, ⟨.store .begin, .ok ticket⟩) :: after)) =
      Store.begun (asked before) ++ ticket :: Store.begun (asked after) := by
    rw [asked_append, Store.begun_append]
    rfl
  rw [begun, List.nodup_middle, List.nodup_cons, List.mem_append] at tickets
  have seen {part : Log} (called : (k, ⟨.store .begin, .ok ticket⟩) ∈ part) :
      ticket ∈ Store.begun (asked part) :=
    Store.mem_begun.mpr (mem_asked.mpr ⟨k, called⟩)
  rcases List.mem_append.mp others with earlier | here
  · exact absurd (.inl (seen earlier)) tickets.1
  · rcases List.mem_cons.mp here with same | later
    · exact congrArg Prod.fst same
    · exact absurd (.inr (seen later)) tickets.1

theorem created_own (run : Run (start l jobs) log crew) {ticket : Nat}
    (mine : (i, ⟨.store .begin, .ok ticket⟩) ∈ log) :
    Store.created (asked log) ticket = Store.created (Pass.history (own i log)) ticket := by
  have owner : ∀ k row (r : Store.Reply (.create ticket row)),
      (k, ⟨.store (.create ticket row), r⟩) ∈ log → k = i :=
    fun k row r called => run.eq_of_begun mine (run.begun_of_named called rfl)
  -- The induction is on the log alone: of the run it needs only who creates in the transaction.
  clear mine run
  induction log with
  | nil => rfl
  | cons e rest ih =>
    obtain ⟨k, e⟩ := e
    have first : Store.created (asked [(k, e)]) ticket =
        Store.created (Pass.history (own i [(k, e)])) ticket := by
      by_cases same : k = i
      · subst same
        rw [own_cons_self]
        rfl
      · rw [own_cons_of_ne same]
        refine List.eq_nil_iff_forall_not_mem.mpr fun row created => same ?_
        obtain ⟨k', called⟩ := mem_asked.mp (Store.mem_created.mp created)
        cases List.mem_singleton.mp called
        exact owner k row _ List.mem_cons_self
    have others := ih fun k row r called => owner k row r (List.mem_cons_of_mem _ called)
    have apart : (k, e) :: rest = [(k, e)] ++ rest := rfl
    rw [apart, asked_append, own_append, Pass.history_append, Store.created_append, Store.created_append,
      first, others]

end Start

end Run

end Crew

end AnomalyWatch
