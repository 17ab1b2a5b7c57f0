import AnomalyWatch.Proofs.Pass.Abreast
import AnomalyWatch.Proofs.Pass.Overlap
import AnomalyWatch.Proofs.Pass.Attendance

/-!
Functions that share a store do not disturb each other.

Two crews are held side by side: in both the first passes are those of one function, and the others are passes of
other functions, which need not be the same. A turn of another function leaves the rows of the function and its
open transactions as they are; when its own passes take the same turn in both crews, they stay abreast. So the
function stores the same and reports the same as it does alone.
-/

set_option autoImplicit false
set_option relaxedAutoImplicit false

namespace AnomalyWatch.Crew

open Anomaly (Alike)
open Dialogue (Trail)
open Pass (Abreast Paired ServedBy verdict?)

def turns (n : Nat) (log : Log) : List Nat :=
  (log.map Prod.fst).filter (· < n)

/-- What came of the commits of the first passes, in their order. In memory no commit fails; a medium may refuse
one, and then nothing of it is kept. -/
def verdicts (n : Nat) (log : Log) : List (Except Error Unit) :=
  (log.filter fun e => e.1 < n).filterMap fun e => verdict? e.2

def Served (client : Request → Except Error SeriesMap) (n : Nat) (log : Log) : Prop :=
  ∀ i e, (i, e) ∈ log → i < n → ServedBy client e

/-- The first passes go one after the other, each to its end. -/
def Successive (n : Nat) (log : Log) (crew : Crew) : Prop :=
  (turns n log).Pairwise (· ≤ ·) ∧ ∀ i < n, ∃ outcome, crew.passes[i]? = some (.done outcome)

def SameOrder (n : Nat) (log : Log) (crew : Crew) (log' : Log) (crew' : Crew) : Prop :=
  turns n log = turns n log' ∨ Successive n log crew ∧ Successive n log' crew'

def Apart (functionId n : Nat) (jobs : List (Job × Instant)) : Prop :=
  ∀ i j now, n ≤ i → jobs[i]? = some (j, now) → j.detector.spec.id ≠ functionId

section Turns

variable {n i : Nat} {log rest : Log} {e : (c : Pass.Call) × Pass.Reply c}

private theorem turns_cons_own (own : i < n) : turns n ((i, e) :: rest) = i :: turns n rest :=
  List.filter_cons_of_pos (decide_eq_true own)

private theorem turns_cons_other (other : n ≤ i) : turns n ((i, e) :: rest) = turns n rest :=
  List.filter_cons_of_neg (by simpa using other)

private theorem mem_turns : i ∈ turns n log ↔ i < n ∧ ∃ e, (i, e) ∈ log := by
  simp [turns, and_comm]

private theorem verdicts_cons_own (own : i < n) :
    verdicts n ((i, e) :: rest) = (verdict? e).toList ++ verdicts n rest := by
  have kept : ((i, e) :: rest).filter (fun e => e.1 < n) = (i, e) :: rest.filter fun e => e.1 < n :=
    List.filter_cons_of_pos (decide_eq_true own)
  rw [verdicts, kept, List.filterMap_cons, verdicts]
  cases verdict? e with
  | none => rfl
  | some verdict => rfl

private theorem verdicts_cons_other (other : n ≤ i) : verdicts n ((i, e) :: rest) = verdicts n rest := by
  rw [verdicts, List.filter_cons_of_neg (by simpa using other), verdicts]

end Turns

section Steps

variable {l : Ledger} {jobs : List (Job × Instant)} {log : Log} {crew crew₁ : Crew} {k : Nat}
  {e : (c : Pass.Call) × Pass.Reply c}

theorem Answers.cases {s s₁ : Store} (answered : Answers s e s₁) :
    (∃ c r now verdict, e = ⟨.store c, r⟩ ∧ s.answer now verdict c = (r, s₁)) ∨ s₁ = s := by
  cases answered with
  | store c now verdict => exact .inl ⟨c, _, now, verdict, rfl, rfl⟩
  | elsewhere _ => exact .inr rfl

theorem Step.turn {c : Pass.Call} {r : Pass.Reply c} (step : Step crew (k, ⟨c, r⟩) crew₁) :
    ∃ next, crew.passes[k]? = some (.ask c next) ∧ crew₁.passes[k]? = some (next r) := by
  cases step with
  | @call s s' passes i c r next turn _ =>
    exact ⟨next, turn, List.getElem?_set_self (List.getElem?_eq_some_iff.mp turn).1⟩

theorem Step.answers (step : Step crew (k, e) crew₁) : Answers crew.store e crew₁.store := by
  cases step with
  | call _ answered => exact answered

private theorem Step.passes_of_ne (step : Step crew (k, e) crew₁) {i : Nat} (other : k ≠ i) :
    crew₁.passes[i]? = crew.passes[i]? := by
  cases step with
  | call turn answered => exact List.getElem?_set_ne other

private theorem Run.openTransaction_of_ne (earlier : Run (start l jobs) log crew) (step : Step crew (k, e) crew₁)
    {i t : Nat} (mine : (i, ⟨.store .begin, .ok t⟩) ∈ log) (other : k ≠ i) :
    crew₁.store.openTransaction t = crew.store.openTransaction t := by
  have run : Run (start l jobs) (log ++ [(k, e)]) crew₁ := earlier.append (.cons step (.nil _))
  rcases step.answers.cases with ⟨c, r, now, verdict, rfl, answer⟩ | same
  · have begun : t ∈ Store.begun (asked log) := Store.mem_begun.mpr (mem_asked.mpr ⟨i, mine⟩)
    rw [earlier.records.tickets, List.mem_range] at begun
    have unnamed : c.ticket? ≠ some t := by
      intro named
      have last : (k, ⟨.store c, r⟩) ∈ log ++ [(k, ⟨.store c, r⟩)] := by simp
      exact other (run.eq_of_begun (List.mem_append_left _ mine) (run.begun_of_named last named))
    have untouched : (crew.store.answer now verdict c).2.openTransaction t = crew.store.openTransaction t :=
      Store.openTransaction_answer_of_ne begun unnamed
    rwa [answer] at untouched
  · rw [same]

private theorem Run.functionId_of_commit {w : Nat} {j : Job} {now : Instant} (earlier : Run (start l jobs) log crew)
    (run : Run (start l jobs) (log ++ [(k, ⟨.store (.commit w), .ok ()⟩)]) crew₁)
    (job : jobs[k]? = some (j, now)) :
    ∀ a ∈ Store.created (asked log) w, a.functionId = some j.detector.spec.id := by
  intro a created
  rcases earlier.created_of_commit run with
    none | ⟨j', now', window, aggregation, t, known, _, job', _, _, kept⟩
  · rw [none] at created
    cases created
  · cases Option.some.inj (job.symm.trans job')
    rw [kept] at created
    obtain ⟨_, _, _, _, _, b, _, rfl⟩ := Exploration.reported_of_mem_results created
    rfl

private theorem Run.rowsOf_of_other {functionId : Nat} {j : Job} {now : Instant}
    (earlier : Run (start l jobs) log crew) (step : Step crew (k, e) crew₁) (job : jobs[k]? = some (j, now))
    (other : j.detector.spec.id ≠ functionId) :
    crew₁.store.ledger.rowsOf functionId = crew.store.ledger.rowsOf functionId := by
  have run : Run (start l jobs) (log ++ [(k, e)]) crew₁ := earlier.append (.cons step (.nil _))
  rcases step.answers.cases with ⟨c, r, clock, verdict, rfl, answer⟩ | same
  · cases commits : Store.committedBy ⟨c, r⟩ with
    | none =>
      have idle : Store.committedBy ⟨c, (crew.store.answer clock verdict c).1⟩ = none := by rwa [answer]
      have kept := Pass.ledger_answer_of_uncommitted idle
      rw [answer] at kept
      rw [kept]
    | some w =>
      cases Store.committedBy_eq_some.mp commits
      rw [earlier.records.ledger_of_commit answer]
      refine Ledger.rowsOf_publish_prepare_of_other clock fun a created => ?_
      rw [earlier.functionId_of_commit run job a created]
      exact fun equal => other (Option.some.inj equal)
  · rw [same]

private theorem Run.passes_of_idle {rest : Log} (run : Run crew rest crew₁) {i : Nat} (idle : ∀ e, (i, e) ∉ rest) :
    crew₁.passes[i]? = crew.passes[i]? := by
  induction run with
  | nil crew => rfl
  | @cons _ _ _ e rest step _ ih =>
    obtain ⟨k, e⟩ := e
    have different : k ≠ i := by
      rintro rfl
      exact idle e List.mem_cons_self
    rw [ih fun e called => idle e (List.mem_cons_of_mem _ called), step.passes_of_ne different]

private theorem Run.idle_of_done {rest : Log} (run : Run crew rest crew₁) {i : Nat} {outcome : Except Error Summary}
    (done : crew.passes[i]? = some (.done outcome)) : ∀ e, (i, e) ∉ rest := by
  induction run with
  | nil crew => exact fun e none => by cases none
  | @cons _ _ _ e rest step _ ih =>
    obtain ⟨k, c, r⟩ := e
    obtain ⟨next, turn, _⟩ := step.turn
    have different : k ≠ i := by
      rintro rfl
      cases done.symm.trans turn
    intro e called
    rcases List.mem_cons.mp called with first | later
    · exact different (congrArg Prod.fst first).symm
    · exact ih ((step.passes_of_ne different).trans done) e later

end Steps

/-- A run of a crew from its start to some moment. -/
structure Episode (l : Ledger) (jobs : List (Job × Instant)) where
  log : Log
  crew : Crew
  run : Run (start l jobs) log crew

def Episode.next {l : Ledger} {jobs : List (Job × Instant)} (x : Episode l jobs)
    {e : Nat × ((c : Pass.Call) × Pass.Reply c)} {crew : Crew} (step : Step x.crew e crew) : Episode l jobs :=
  ⟨x.log ++ [e], crew, x.run.append (.cons step (.nil _))⟩

variable {functionId n : Nat} {l l' : Ledger} {jobs jobs' : List (Job × Instant)}

/-- The first passes of two crews are abreast, and the rows of their function are alike. -/
structure Beside (functionId n : Nat) (x : Episode l jobs) (y : Episode l' jobs') : Prop where
  rows : Alike (x.crew.store.ledger.rowsOf functionId) (y.crew.store.ledger.rowsOf functionId)
  passes : ∀ i < n, ∃ tickets d d', x.crew.passes[i]? = some d ∧ y.crew.passes[i]? = some d' ∧
    Abreast functionId tickets d d' ∧ Paired x.crew.store y.crew.store tickets ∧
    ∀ p ∈ tickets, (i, ⟨.store .begin, .ok p.1⟩) ∈ x.log ∧ (i, ⟨.store .begin, .ok p.2⟩) ∈ y.log

namespace Beside

variable {x : Episode l jobs} {y : Episode l' jobs'} {client : Request → Except Error SeriesMap}

theorem symm (beside : Beside functionId n x y) : Beside functionId n y x := by
  refine ⟨beside.rows.symm, fun i own => ?_⟩
  obtain ⟨tickets, d, d', left, right, abreast, paired, held⟩ := beside.passes i own
  refine ⟨_, d', d, right, left, abreast.symm, paired.symm, fun p present => ?_⟩
  obtain ⟨q, found, rfl⟩ := Option.map_eq_some_iff.mp present
  exact (held q found).symm

private theorem done_iff (beside : Beside functionId n x y) {i : Nat} (own : i < n) (outcome : Except Error Summary) :
    x.crew.passes[i]? = some (.done outcome) ↔ y.crew.passes[i]? = some (.done outcome) := by
  obtain ⟨tickets, d, d', left, right, abreast, _⟩ := beside.passes i own
  rw [left, right]
  cases abreast <;> simp

theorem other (beside : Beside functionId n x y) (apart : Apart functionId n jobs) {k : Nat}
    {e : (c : Pass.Call) × Pass.Reply c} {crew : Crew} (step : Step x.crew (k, e) crew) (foreign : n ≤ k) :
    Beside functionId n (x.next step) y := by
  constructor
  · obtain ⟨d, started⟩ := (x.next step).run.exists_of_mem (List.mem_append_right _ List.mem_cons_self)
    rw [start, List.getElem?_map] at started
    obtain ⟨⟨j, now⟩, job, _⟩ := Option.map_eq_some_iff.mp started
    have kept := x.run.rowsOf_of_other step job (apart k j now foreign job)
    exact Eq.trans (congrArg _ kept) beside.rows
  · intro i own
    have different : k ≠ i := by omega
    obtain ⟨tickets, d, d', left, right, abreast, paired, held⟩ := beside.passes i own
    refine ⟨tickets, d, d', (step.passes_of_ne different).trans left, right, abreast, fun p present => ?_,
      fun p present => ⟨List.mem_append_left _ (held p present).1, (held p present).2⟩⟩
    obtain ⟨t, opened, opened'⟩ := paired p present
    have kept := x.run.openTransaction_of_ne step (held p present).1 different
    exact ⟨t, kept.trans opened, opened'⟩

theorem own (beside : Beside functionId n x y) {k : Nat} {e e' : (c : Pass.Call) × Pass.Reply c}
    {crew crew' : Crew} (step : Step x.crew (k, e) crew) (step' : Step y.crew (k, e') crew') (mine : k < n)
    (served : ServedBy client e) (served' : ServedBy client e') (same : verdict? e = verdict? e') :
    Beside functionId n (x.next step) (y.next step') := by
  obtain ⟨c, r⟩ := e
  obtain ⟨c', r'⟩ := e'
  obtain ⟨next, turn, after⟩ := step.turn
  obtain ⟨next', turn', after'⟩ := step'.turn
  obtain ⟨tickets, d, d', left, right, abreast, paired, held⟩ := beside.passes k mine
  cases Option.some.inj (left.symm.trans turn)
  cases Option.some.inj (right.symm.trans turn')
  obtain ⟨rows, tickets', goes, open', origin⟩ :=
    advance abreast beside.rows paired step.answers step'.answers served served' same
  refine ⟨rows, fun i own => ?_⟩
  by_cases same : k = i
  · subst same
    refine ⟨tickets', next r, next' r', after, after', goes, open', fun p present => ?_⟩
    rcases origin p present with before | ⟨begun, begun'⟩
    · exact ⟨List.mem_append_left _ (held p before).1, List.mem_append_left _ (held p before).2⟩
    · exact ⟨List.mem_append_right _ (begun ▸ List.mem_cons_self),
        List.mem_append_right _ (begun' ▸ List.mem_cons_self)⟩
  · obtain ⟨tickets, d, d', left, right, abreast, paired, held⟩ := beside.passes i own
    refine ⟨tickets, d, d', (step.passes_of_ne same).trans left, (step'.passes_of_ne same).trans right,
      abreast, fun p present => ?_, fun p present =>
        ⟨List.mem_append_left _ (held p present).1, List.mem_append_left _ (held p present).2⟩⟩
    obtain ⟨t, opened, opened'⟩ := paired p present
    have kept := x.run.openTransaction_of_ne step (held p present).1 same
    have kept' := y.run.openTransaction_of_ne step' (held p present).2 same
    exact ⟨t, kept.trans opened, kept'.trans opened'⟩

variable {rest rest' : Log} {crew crew' : Crew}

theorem others (beside : Beside functionId n x y) (apart : Apart functionId n jobs)
    (run : Run x.crew rest crew) (idle : turns n rest = []) :
    ∃ z : Episode l jobs, z.crew = crew ∧ Beside functionId n z y := by
  induction rest generalizing x with
  | nil =>
    cases run
    exact ⟨x, rfl, beside⟩
  | cons e rest ih =>
    obtain ⟨k, e⟩ := e
    cases run with
    | cons step go =>
      have foreign : n ≤ k := by
        by_contra mine
        rw [turns_cons_own (Nat.lt_of_not_le mine)] at idle
        cases idle
      rw [turns_cons_other foreign] at idle
      exact ih (beside.other apart step foreign) go idle

/-- Whatever turns are taken in one crew, the passes of the function can take theirs in the other. -/
theorem exists_run (beside : Beside functionId n x y) (apart : Apart functionId n jobs)
    (run : Run x.crew rest crew) (served : Served client n rest) :
    ∃ rest' crew', Run y.crew rest' crew' ∧ Served client n rest' ∧ turns n rest = turns n rest' ∧
      verdicts n rest = verdicts n rest' := by
  induction rest generalizing x y with
  | nil => exact ⟨[], y.crew, .nil _, fun _ _ absent => (by cases absent), rfl, rfl⟩
  | cons e rest ih =>
    obtain ⟨k, e⟩ := e
    have later : Served client n rest := fun i e called => served i e (List.mem_cons_of_mem _ called)
    cases run with
    | cons step go =>
      by_cases mine : k < n
      · have first := served k e List.mem_cons_self mine
        obtain ⟨c, r⟩ := e
        obtain ⟨next, turn, _⟩ := step.turn
        obtain ⟨tickets, d, d', left, right, abreast, paired, _⟩ := beside.passes k mine
        cases Option.some.inj (left.symm.trans turn)
        obtain ⟨c', next', r', s', rfl, answered, first', same⟩ := exists_answer abreast paired first
        have step' : Step y.crew (k, ⟨c', r'⟩) ⟨s', y.crew.passes.set k (next' r')⟩ := .call right answered
        obtain ⟨rest', crew', run', served', order, committed⟩ :=
          ih (beside.own step step' mine first first' same) go later
        refine ⟨(k, ⟨c', r'⟩) :: rest', crew', .cons step' run', fun i e called own => ?_, ?_, ?_⟩
        · rcases List.mem_cons.mp called with first | called
          · cases first
            exact first'
          · exact served' i e called own
        · rw [turns_cons_own mine, turns_cons_own mine, order]
        · rw [verdicts_cons_own mine, verdicts_cons_own mine, committed, same]
      · have foreign := Nat.le_of_not_lt mine
        obtain ⟨rest', crew', run', served', order, committed⟩ :=
          ih (beside.other apart step foreign) go later
        refine ⟨rest', crew', run', served', ?_, ?_⟩
        · rw [turns_cons_other foreign, order]
        · rw [verdicts_cons_other foreign, committed]

private theorem exists_turn (beside : Beside functionId n x y) (apart : Apart functionId n jobs)
    (run : Run x.crew rest crew) (served : Served client n rest) {i : Nat} {more : List Nat}
    (first : turns n rest = i :: more) :
    ∃ (z : Episode l jobs) (e : (c : Pass.Call) × Pass.Reply c) (mid : Crew) (later : Log),
      Beside functionId n z y ∧ Step z.crew (i, e) mid ∧ ServedBy client e ∧ Run mid later crew ∧
      Served client n later ∧ turns n later = more ∧
      verdicts n rest = (verdict? e).toList ++ verdicts n later := by
  induction rest generalizing x with
  | nil => cases first
  | cons e rest ih =>
    obtain ⟨k, e⟩ := e
    have after : Served client n rest := fun i e called => served i e (List.mem_cons_of_mem _ called)
    cases run with
    | cons step go =>
      by_cases mine : k < n
      · rw [turns_cons_own mine] at first
        cases first
        exact ⟨x, e, _, rest, beside, step, served i e List.mem_cons_self mine, go, after, rfl,
          verdicts_cons_own mine⟩
      · have foreign := Nat.le_of_not_lt mine
        rw [turns_cons_other foreign] at first
        rw [verdicts_cons_other foreign]
        exact ih (beside.other apart step foreign) go after first

private theorem verdict?_eq (beside : Beside functionId n x y) {k : Nat} {e e' : (c : Pass.Call) × Pass.Reply c}
    (step : Step x.crew (k, e) crew) (step' : Step y.crew (k, e') crew') (mine : k < n)
    {later later' : List (Except Error Unit)}
    (same : (verdict? e).toList ++ later = (verdict? e').toList ++ later') :
    verdict? e = verdict? e' ∧ later = later' := by
  obtain ⟨c, r⟩ := e
  obtain ⟨c', r'⟩ := e'
  obtain ⟨next, turn, _⟩ := step.turn
  obtain ⟨next', turn', _⟩ := step'.turn
  obtain ⟨tickets, d, d', left, right, abreast, _⟩ := beside.passes k mine
  cases Option.some.inj (left.symm.trans turn)
  cases Option.some.inj (right.symm.trans turn')
  have together : (verdict? ⟨c, r⟩).isSome = (verdict? ⟨c', r'⟩).isSome := isSome_verdict? abreast
  cases first : verdict? ⟨c, r⟩ with
  | none =>
    cases first' : verdict? ⟨c', r'⟩ with
    | none => exact ⟨rfl, by simpa [first, first'] using same⟩
    | some v' => simp [first, first'] at together
  | some v =>
    cases first' : verdict? ⟨c', r'⟩ with
    | none => simp [first, first'] at together
    | some v' => simpa [first, first'] using same

private theorem exists_turns (beside : Beside functionId n x y) (apart : Apart functionId n jobs)
    (apart' : Apart functionId n jobs') (run : Run x.crew rest crew) (run' : Run y.crew rest' crew')
    (served : Served client n rest) (served' : Served client n rest')
    (committed : verdicts n rest = verdicts n rest') {i : Nat} {more more' : List Nat}
    (first : turns n rest = i :: more) (first' : turns n rest' = i :: more') :
    ∃ (z : Episode l jobs) (w : Episode l' jobs') (later later' : Log), Beside functionId n z w ∧
      Run z.crew later crew ∧ Run w.crew later' crew' ∧ Served client n later ∧ Served client n later' ∧
      verdicts n later = verdicts n later' ∧ turns n later = more ∧ turns n later' = more' := by
  have mine : i < n := (mem_turns.mp (first ▸ List.mem_cons_self)).1
  obtain ⟨z, e, mid, later, beside, step, called, run, served, order, split⟩ :=
    beside.exists_turn apart run served first
  obtain ⟨w, e', mid', later', beside, step', called', run', served', order', split'⟩ :=
    beside.symm.exists_turn apart' run' served' first'
  obtain ⟨same, committed⟩ := beside.symm.verdict?_eq step step' mine
    (split.symm.trans (committed.trans split'))
  exact ⟨z.next step, w.next step', later, later', beside.symm.own step step' mine called called' same,
    run, run', served, served', committed, order, order'⟩

/-- After the same turns of the function the crews are still side by side. -/
theorem run_of_turns_eq (beside : Beside functionId n x y) (apart : Apart functionId n jobs)
    (apart' : Apart functionId n jobs') (run : Run x.crew rest crew) (run' : Run y.crew rest' crew')
    (served : Served client n rest) (served' : Served client n rest')
    (committed : verdicts n rest = verdicts n rest') (same : turns n rest = turns n rest') :
    ∃ (z : Episode l jobs) (w : Episode l' jobs'), z.crew = crew ∧ w.crew = crew' ∧
      Beside functionId n z w := by
  generalize order : turns n rest = taken at same
  induction taken generalizing x y rest rest' with
  | nil =>
    obtain ⟨z, ended, beside⟩ := beside.others apart run order
    obtain ⟨w, ended', beside⟩ := beside.symm.others apart' run' same.symm
    exact ⟨z, w, ended, ended', beside.symm⟩
  | cons i more ih =>
    obtain ⟨z, w, later, later', beside, run, run', served, served', committed, order, order'⟩ :=
      beside.exists_turns apart apart' run run' served served' committed order same.symm
    exact ih beside run run' served served' committed order order'.symm

private theorem idle_of_done (beside : Beside functionId n x y) (run : Run x.crew rest crew)
    (run' : Run y.crew rest' crew') {i : Nat} (mine : i < n) (idle : i ∉ turns n rest)
    (ended : ∃ outcome, crew.passes[i]? = some (.done outcome)) : i ∉ turns n rest' := by
  obtain ⟨outcome, ended⟩ := ended
  have silent : ∀ e, (i, e) ∉ rest := fun e called => idle (mem_turns.mpr ⟨mine, e, called⟩)
  rw [run.passes_of_idle silent, beside.done_iff mine] at ended
  intro taken
  obtain ⟨_, e, called⟩ := mem_turns.mp taken
  exact run'.idle_of_done ended e called

/-- Passes that go one after the other to the end take the same turns in both crews. -/
theorem turns_eq_of_successive (beside : Beside functionId n x y) (apart : Apart functionId n jobs)
    (apart' : Apart functionId n jobs') (run : Run x.crew rest crew) (run' : Run y.crew rest' crew')
    (served : Served client n rest) (served' : Served client n rest')
    (committed : verdicts n rest = verdicts n rest') (successive : Successive n rest crew)
    (successive' : Successive n rest' crew') : turns n rest = turns n rest' := by
  obtain ⟨sorted, ended⟩ := successive
  obtain ⟨sorted', ended'⟩ := successive'
  generalize order : turns n rest = taken at sorted
  generalize order' : turns n rest' = taken' at sorted'
  induction taken generalizing x y rest rest' taken' with
  | nil =>
    refine (List.eq_nil_iff_forall_not_mem.mpr fun i present => ?_).symm
    have mine : i < n := (mem_turns.mp (order' ▸ present)).1
    have idle : i ∉ turns n rest := order ▸ List.not_mem_nil
    exact beside.idle_of_done run run' mine idle (ended i mine) (order' ▸ present)
  | cons i more ih =>
    have mine : i < n := (mem_turns.mp (order ▸ List.mem_cons_self)).1
    -- A pass that never gets its turn has ended, so the next one in each crew has a turn in the other as well.
    have present : i ∈ taken' := by
      by_contra absent
      have idle : i ∉ turns n rest' := order' ▸ absent
      exact beside.symm.idle_of_done run' run mine idle (ended' i mine) (order ▸ List.mem_cons_self)
    cases taken' with
    | nil => cases present
    | cons k more' =>
      have mine' : k < n := (mem_turns.mp (order' ▸ List.mem_cons_self)).1
      have present' : k ∈ i :: more := by
        by_contra absent
        have idle : k ∉ turns n rest := order ▸ absent
        exact beside.idle_of_done run run' mine' idle (ended k mine') (order' ▸ List.mem_cons_self)
      have same : i = k := by
        rcases List.mem_cons.mp present with same | behind
        · exact same
        · rcases List.mem_cons.mp present' with same | behind'
          · exact same.symm
          · exact Nat.le_antisymm ((List.pairwise_cons.mp sorted).1 k behind')
              ((List.pairwise_cons.mp sorted').1 i behind)
      subst same
      obtain ⟨z, w, later, later', beside, run, run', served, served', committed, order, order'⟩ :=
        beside.exists_turns apart apart' run run' served served' committed order order'
      have further := ih beside run run' served served' committed order (List.pairwise_cons.mp sorted).2
        more' order' (List.pairwise_cons.mp sorted').2
      rw [further]

end Beside

section Interleaved

def secondJob : Job :=
  ⟨"second", ⟨{ Spec.sample with id := 2 }, wholeWindow⟩, .none⟩

def secondTurns : Pass.Log :=
  let a := Anomaly.unstamped ⟨["a"]⟩ Window.sample.start .epoch 1
  [⟨.store .begin, .ok 1⟩, ⟨.store (.find 1 (secondJob.lookup .sample)), .ok []⟩, ⟨.store (.commit 1), .ok ()⟩,
    ⟨.timer "second", ()⟩,
    ⟨.query ⟨"web", "AGGREGATE_1_MINUTES(latency)", Window.sample.start, .epoch, none⟩,
      .ok (.ofList [(⟨["a"]⟩, .ofList [(Window.sample.start, 1), (.epoch, 1)])])⟩,
    ⟨.visited "second" (.analyzed ⟨["a"]⟩ [a]), ()⟩, ⟨.store .begin, .ok 2⟩,
    ⟨.store (.create 2 (a.stamp secondJob.detector.spec)), .ok ()⟩, ⟨.store (.commit 2), .ok ()⟩]

/-- The second job has its whole pass between the look-up and the write of the first. -/
def interleaved : Log :=
  let a := Anomaly.unstamped ⟨["a"]⟩ Window.sample.start .epoch 1
  (looks [a] 0).map (Prod.mk 0) ++ secondTurns.map (Prod.mk 1) ++ (writes [a] 3).map (Prod.mk 0)

private theorem pass_secondJob :
    secondJob.pass .epoch = secondJob.passOver .sample "AGGREGATE_1_MINUTES(latency)" := by
  have resolved : Window.resolve secondJob.detector.spec .epoch secondJob.bounds = .ok .sample := by rfl
  have aggregated : secondJob.detector.spec.aggregation = .ok "AGGREGATE_1_MINUTES(latency)" := by rfl
  simp only [Job.pass, Job.prepare, resolved, aggregated]
  rfl

private theorem exists_run_interleaved :
    ∃ crew, Run (start .empty [(sampleJob wholeWindow, .epoch), (secondJob, .epoch)]) interleaved crew ∧
      crew.store.ledger.rows.map Anomaly.functionId = [some 2, some 1] := by
  let a := Anomaly.unstamped ⟨["a"]⟩ Window.sample.start .epoch 1
  obtain ⟨last, trail⟩ :
      ∃ left, Trail ((sampleJob wholeWindow).pass .epoch) (looks [a] 0 ++ writes [a] 3) left := by
    rw [pass_sampleJob]
    exact ⟨_, .ask (.ask (.ask (.ask (.ask (.ask (.ask (.ask (.ask (.nil _)))))))))⟩
  obtain ⟨last', trail'⟩ : ∃ left, Trail (secondJob.pass .epoch) secondTurns left := by
    rw [pass_secondJob]
    exact ⟨_, .ask (.ask (.ask (.ask (.ask (.ask (.ask (.ask (.ask (.nil _)))))))))⟩
  obtain ⟨waiting, looked, wrote⟩ := trail.split
  obtain ⟨s₁, s₂, s₃, served₁, served₂, served₃, stored⟩ :
      ∃ s₁ s₂ s₃, Store.Serves (.ofLedger .empty) (Pass.history (looks [a] 0)) s₁ ∧
        Store.Serves s₁ (Pass.history secondTurns) s₂ ∧ Store.Serves s₂ (Pass.history (writes [a] 3)) s₃ ∧
        s₃.ledger.rows.map Anomaly.functionId = [some 2, some 1] :=
    ⟨_, _, _, .cons .epoch (.ok ()) (.cons .epoch (.ok ()) (.cons .epoch (.ok ()) (.nil _))),
      .cons .epoch (.ok ()) (.cons .epoch (.ok ()) (.cons .epoch (.ok ()) (.cons .epoch (.ok ())
        (.cons .epoch (.ok ()) (.cons .epoch (.ok ()) (.nil _)))))),
      .cons .epoch (.ok ()) (.cons .epoch (.ok ()) (.cons .epoch (.ok ()) (.nil _))), rfl⟩
  have run₁ : Run ⟨_, [_, secondJob.pass .epoch]⟩ _ ⟨s₁, [waiting, secondJob.pass .epoch]⟩ :=
    .alone (i := 0) rfl looked served₁
  have run₂ : Run ⟨_, [waiting, secondJob.pass .epoch]⟩ _ ⟨s₂, [waiting, last']⟩ :=
    .alone (i := 1) rfl trail' served₂
  have run₃ : Run ⟨_, [waiting, last']⟩ _ ⟨s₃, [last, last']⟩ := .alone (i := 0) rfl wrote served₃
  exact ⟨_, (run₁.append run₂).append run₃, stored⟩

private theorem served_interleaved :
    Served (fun _ => .ok (.ofList [(⟨["a"]⟩, .ofList [(Window.sample.start, 1), (.epoch, 1)])])) 1
      interleaved := by
  let a := Anomaly.unstamped ⟨["a"]⟩ Window.sample.start .epoch 1
  intro i e called mine
  obtain rfl : i = 0 := Nat.lt_one_iff.mp mine
  have alone : own 0 interleaved = looks [a] 0 ++ writes [a] 3 := rfl
  rw [← mem_own, alone] at called
  revert e
  simp [looks, writes, ServedBy]

end Interleaved

section Start

variable {mine others : List (Job × Instant)} {client : Request → Except Error SeriesMap} {log : Log}
  {crew : Crew}

private theorem apart_append (apart : ∀ p ∈ others, p.1.detector.spec.id ≠ functionId) :
    Apart functionId mine.length (mine ++ others) := by
  intro i j now behind job
  rw [List.getElem?_append_right behind] at job
  exact apart (j, now) (List.mem_of_getElem? job)

private theorem beside_start (own : ∀ p ∈ mine, p.1.detector.spec.id = functionId ∧ p.1.detector.Blind)
    (rows : Alike (l.rowsOf functionId) (l'.rowsOf functionId)) (others others' : List (Job × Instant)) :
    Beside functionId mine.length ⟨[], start l (mine ++ others), .nil _⟩
      ⟨[], start l' (mine ++ others'), .nil _⟩ := by
  refine ⟨rows, fun i bound => ?_⟩
  obtain ⟨identified, blind⟩ := own mine[i] (List.getElem_mem bound)
  have started (l : Ledger) (others : List (Job × Instant)) :
      (start l (mine ++ others)).passes[i]? = some (mine[i].1.pass mine[i].2) := by
    rw [start, List.getElem?_map, List.getElem?_append_left bound, List.getElem?_eq_getElem bound]
    rfl
  have abreast := Abreast.pass mine[i].1 mine[i].2 blind
  rw [identified] at abreast
  exact ⟨none, _, _, started l others, started l' others', abreast, fun _ none => (by cases none),
    fun _ none => by cases none⟩

/-- A function that does not read ids and creation times stores the same rows and reports the same outcomes
whatever passes of other functions go on in front of the same store. For every run there is one in which its
passes take the same turns alone, and their commits come out the same. In each run alone where they do, be it
with the same turns or with the passes one after the other in both, the rows of the function are the same but
for ids and creation times, and every pass that ends has the same outcome. -/
theorem undisturbed_by_others (own : ∀ p ∈ mine, p.1.detector.spec.id = functionId ∧ p.1.detector.Blind)
    (apart : ∀ p ∈ others, p.1.detector.spec.id ≠ functionId)
    (rows : Alike (l.rowsOf functionId) (l'.rowsOf functionId))
    (run : Run (start l (mine ++ others)) log crew) (served : Served client mine.length log) :
    (∃ log' crew', Run (start l' mine) log' crew' ∧ Served client mine.length log' ∧
      turns mine.length log = turns mine.length log' ∧
      verdicts mine.length log = verdicts mine.length log') ∧
    ∀ log' crew', Run (start l' mine) log' crew' → Served client mine.length log' →
      verdicts mine.length log = verdicts mine.length log' → SameOrder mine.length log crew log' crew' →
      Alike (crew.store.ledger.rowsOf functionId) (crew'.store.ledger.rowsOf functionId) ∧
      ∀ i < mine.length, ∀ outcome,
        crew.passes[i]? = some (.done outcome) ↔ crew'.passes[i]? = some (.done outcome) := by
  have beside := beside_start own rows others []
  have divided : Apart functionId mine.length (mine ++ others) := apart_append apart
  have alone : Apart functionId mine.length (mine ++ []) := apart_append fun _ none => by cases none
  constructor
  · obtain ⟨log', crew', run', served', order, committed⟩ := beside.exists_run divided run served
    have run' : Run (start l' (mine ++ [])) log' crew' := run'
    rw [List.append_nil] at run'
    exact ⟨log', crew', run', served', order, committed⟩
  · intro log' crew' run' served' committed order
    rw [← List.append_nil mine] at run'
    have same : turns mine.length log = turns mine.length log' := by
      rcases order with same | ⟨successive, successive'⟩
      · exact same
      · exact beside.turns_eq_of_successive divided alone run run' served served' committed successive
          successive'
    obtain ⟨z, w, rfl, rfl, still⟩ :=
      beside.run_of_turns_eq divided alone run run' served served' committed same
    exact ⟨still.rows, fun i bound outcome => still.done_iff bound outcome⟩

/-- Between the look-up and the write of a pass another function looks up and writes the same window. -/
theorem undisturbed_between_look_and_write :
    ∃ crew, Run (start .empty [(sampleJob wholeWindow, .epoch), (secondJob, .epoch)]) interleaved crew ∧
      crew.store.ledger.rows.map Anomaly.functionId = [some 2, some 1] ∧
      ∃ log' crew', Run (start .empty [(sampleJob wholeWindow, .epoch)]) log' crew' ∧
        Alike (crew.store.ledger.rowsOf 1) (crew'.store.ledger.rowsOf 1) := by
  obtain ⟨crew, run, stored⟩ := exists_run_interleaved
  have own : ∀ p ∈ [(sampleJob wholeWindow, Instant.epoch)],
      p.1.detector.spec.id = 1 ∧ p.1.detector.Blind := by
    intro p job
    rw [List.mem_singleton.mp job]
    exact ⟨rfl, fun _ _ _ _ _ _ => rfl⟩
  have apart : ∀ p ∈ [(secondJob, Instant.epoch)], p.1.detector.spec.id ≠ 1 := by
    intro p job
    rw [List.mem_singleton.mp job]
    decide
  obtain ⟨⟨log', crew', run', served', same, committed⟩, alone⟩ :=
    undisturbed_by_others own apart (Alike.refl (Ledger.empty.rowsOf 1)) run served_interleaved
  exact ⟨crew, run, stored, log', crew', run', (alone log' crew' run' served' committed (.inl same)).1⟩

end Start

end AnomalyWatch.Crew
