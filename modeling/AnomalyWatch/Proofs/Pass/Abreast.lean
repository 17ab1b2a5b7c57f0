import AnomalyWatch.Proofs.Detection.Blind
import AnomalyWatch.Proofs.Pass.Crew

/-!
Two passes side by side, each in front of a store of its own.

Passes are abreast if their next calls are the same but for the numbers of their open transactions, and if
replies that differ in nothing but the marks of the stores keep them abreast. A pass of a function that does not
read the marks is abreast of itself, and stays so as both take their turns, whatever the two stores hold of other
functions.
-/

set_option autoImplicit false
set_option relaxedAutoImplicit false

namespace AnomalyWatch.Pass

open Anomaly (Alike)

/-- The programs make the same calls with the tickets of their open transactions, the first of which is a ticket
of one store and the second of the other. Their look-ups are of one function. -/
inductive Abreast (functionId : Nat) {α : Type} : Option (Nat × Nat) → Step α → Step α → Prop
  | done (a : α) : Abreast functionId none (.done a) (.done a)
  | begin {next next' : Reply (.store .begin) → Step α}
      (go : ∀ t t', Abreast functionId (some (t, t')) (next (.ok t)) (next' (.ok t'))) :
      Abreast functionId none (.ask (.store .begin) next) (.ask (.store .begin) next')
  | find {t t' : Nat} {q : Lookup} {next : Reply (.store (.find t q)) → Step α}
      {next' : Reply (.store (.find t' q)) → Step α} (own : q.functionId = functionId)
      (go : ∀ known known', Alike known known' →
        Abreast functionId (some (t, t')) (next (.ok known)) (next' (.ok known'))) :
      Abreast functionId (some (t, t')) (.ask (.store (.find t q)) next) (.ask (.store (.find t' q)) next')
  | create {t t' : Nat} {row : Anomaly} {next : Reply (.store (.create t row)) → Step α}
      {next' : Reply (.store (.create t' row)) → Step α}
      (go : Abreast functionId (some (t, t')) (next (.ok ())) (next' (.ok ()))) :
      Abreast functionId (some (t, t')) (.ask (.store (.create t row)) next)
        (.ask (.store (.create t' row)) next')
  | commit {t t' : Nat} {next : Reply (.store (.commit t)) → Step α}
      {next' : Reply (.store (.commit t')) → Step α}
      (go : ∀ verdict, Abreast functionId none (next verdict) (next' verdict)) :
      Abreast functionId (some (t, t')) (.ask (.store (.commit t)) next) (.ask (.store (.commit t')) next')
  | elsewhere {tickets : Option (Nat × Nat)} {c : Call} {next next' : Reply c → Step α}
      (other : ∀ asked, c ≠ .store asked) (go : ∀ r, Abreast functionId tickets (next r) (next' r)) :
      Abreast functionId tickets (.ask c next) (.ask c next')

namespace Abreast

variable {functionId : Nat} {α β : Type} {tickets : Option (Nat × Nat)}

theorem symm {d d' : Step α} (abreast : Abreast functionId tickets d d') :
    Abreast functionId (tickets.map Prod.swap) d' d := by
  induction abreast with
  | done a => exact .done a
  | begin _ ih => exact .begin fun t t' => ih t' t
  | find own _ ih => exact .find own fun known known' alike => ih known' known alike.symm
  | create _ ih => exact .create ih
  | commit _ ih => exact .commit ih
  | elsewhere other _ ih => exact .elsewhere other ih

section Parts

variable {f f' : Outcome → Step α}

theorem visitKeys (x : Exploration) (job : String) (o : Outcome) (entries : List (DimensionKey × Series))
    (go : ∀ o, Abreast functionId tickets (f o) (f' o)) :
    Abreast functionId tickets (visitKeys x job o entries >>= f) (visitKeys x job o entries >>= f') := by
  induction entries generalizing o with
  | nil => exact go o
  | cons e rest ih => exact .elsewhere (fun _ named => by cases named) fun _ => ih _

theorem process (x : Exploration) (job : String) (o : Outcome) (request : Request)
    (go : ∀ o, Abreast functionId tickets (f o) (f' o)) :
    Abreast functionId tickets (process x job o request >>= f) (process x job o request >>= f') := by
  refine .elsewhere (fun _ named => by cases named) fun reply => ?_
  cases reply with
  | error e => exact go _
  | ok reply => exact visitKeys x job _ reply.entries go

theorem explore (x : Exploration) (job : String) (o : Outcome) (requests : List Request)
    (go : ∀ o, Abreast functionId tickets (f o) (f' o)) :
    Abreast functionId tickets (explore x job o requests >>= f) (explore x job o requests >>= f') := by
  induction requests generalizing o with
  | nil => exact go o
  | cons request rest ih =>
    have split (g : Outcome → Step α) : Pass.explore x job o (request :: rest) >>= g =
        Pass.process x job o request >>= fun o => Pass.explore x job o rest >>= g := Dialogue.bind_assoc ..
    rw [split, split]
    exact process x job o request ih

theorem createAll {f f' : Except Error Unit → Step α} {t t' : Nat} (rows : List Anomaly)
    (go : Abreast functionId (some (t, t')) (f (.ok ())) (f' (.ok ()))) :
    Abreast functionId (some (t, t')) (createAll t rows >>= f) (createAll t' rows >>= f') := by
  induction rows with
  | nil => exact go
  | cons a rest ih => exact .create ih

theorem persist {f f' : Except Error Nat → Step α} (results : List Anomaly)
    (go : ∀ r, Abreast functionId none (f r) (f' r)) :
    Abreast functionId none (persist results >>= f) (persist results >>= f') := by
  unfold Pass.persist
  split
  · exact go (.ok 0)
  · refine .begin fun t t' => ?_
    change Abreast functionId _ ((Pass.createAll t results >>= _) >>= f)
      ((Pass.createAll t' results >>= _) >>= f')
    rw [Dialogue.bind_assoc, Dialogue.bind_assoc]
    refine createAll results (.commit fun verdict => ?_)
    cases verdict with
    | error e => exact go _
    | ok _ => exact go _

end Parts

theorem pass (j : Job) (now : Instant) (blind : j.detector.Blind) :
    Abreast j.detector.spec.id none (j.pass now) (j.pass now) := by
  unfold Job.pass
  split
  next e _ => exact .done _
  next window aggregation _ =>
    refine .begin fun t t' => .find rfl fun known known' alike => .commit fun verdict => ?_
    cases verdict with
    | error e => exact .done _
    | ok _ =>
      refine .elsewhere (fun _ named => by cases named) fun _ => ?_
      change Abreast _ none (Pass.explore ⟨j.detector, window, known⟩ j.name .initial _ >>= _)
        (Pass.explore ⟨j.detector, window, known'⟩ j.name .initial _ >>= _)
      rw [explore_congr (Exploration.examine_congr blind alike) (Exploration.record_congr alike),
        alike.length_eq]
      refine explore _ _ _ _ fun o => persist o.results fun r => ?_
      cases r with
      | error e => exact .done _
      | ok n => exact .done _

end Abreast

def ServedBy (client : Request → Except Error SeriesMap) : ((c : Call) × Reply c) → Prop
  | ⟨.query request, r⟩ => r = client request
  | _ => True

def verdict? : ((c : Call) × Reply c) → Option (Except Error Unit)
  | ⟨.store (.commit _), r⟩ => some r
  | _ => none

def Paired (s s' : Store) (tickets : Option (Nat × Nat)) : Prop :=
  ∀ p ∈ tickets, ∃ t, s.openTransaction p.1 = .ok t ∧ s'.openTransaction p.2 = .ok t

theorem Paired.symm {s s' : Store} {tickets : Option (Nat × Nat)} (paired : Paired s s' tickets) :
    Paired s' s (tickets.map Prod.swap) := by
  intro p present
  obtain ⟨q, held, rfl⟩ := Option.map_eq_some_iff.mp present
  obtain ⟨t, opened, opened'⟩ := paired q held
  exact ⟨t, opened', opened⟩

end AnomalyWatch.Pass

namespace AnomalyWatch.Crew

open Anomaly (Alike)
open Pass (Abreast Paired ServedBy verdict?)

private theorem Answers.of_store {s s₁ : Store} {c : Store.Call} {r : Store.Reply c}
    (answered : Answers s ⟨.store c, r⟩ s₁) : ∃ now verdict, s.answer now verdict c = (r, s₁) := by
  cases answered with
  | store c now verdict => exact ⟨now, verdict, rfl⟩
  | elsewhere other => cases other

private theorem Answers.of_other {s s₁ : Store} {c : Pass.Call} {r : Pass.Reply c}
    (answered : Answers s ⟨c, r⟩ s₁) (other : ∀ asked, c ≠ .store asked) : s₁ = s := by
  cases answered with
  | store c now verdict => exact absurd rfl (other c)
  | elsewhere _ => rfl

section Advance

variable {functionId : Nat} {α : Type} {client : Request → Except Error SeriesMap}
  {tickets : Option (Nat × Nat)} {s s' s₁ s₁' : Store} {c c' : Pass.Call} {r : Pass.Reply c}
  {r' : Pass.Reply c'} {next : Pass.Reply c → Pass.Step α} {next' : Pass.Reply c' → Pass.Step α}

theorem isSome_verdict? (abreast : Abreast functionId tickets (.ask c next) (.ask c' next')) :
    (verdict? ⟨c, r⟩).isSome = (verdict? ⟨c', r'⟩).isSome := by
  cases abreast with
  | begin go => rfl
  | find own go => rfl
  | create go => rfl
  | commit go => rfl
  | elsewhere other go =>
    cases c with
    | store asked => exact absurd rfl (other asked)
    | query request => rfl
    | timer job => rfl
    | visited job visit => rfl

/-- Passes abreast stay abreast when both take their turn and commits come out the same, and the rows of their
function stay alike. An open transaction is one that was open or one that begins. -/
theorem advance (abreast : Abreast functionId tickets (.ask c next) (.ask c' next'))
    (rows : Alike (s.ledger.rowsOf functionId) (s'.ledger.rowsOf functionId)) (paired : Paired s s' tickets)
    (answered : Answers s ⟨c, r⟩ s₁) (answered' : Answers s' ⟨c', r'⟩ s₁')
    (served : ServedBy client ⟨c, r⟩) (served' : ServedBy client ⟨c', r'⟩)
    (same : verdict? ⟨c, r⟩ = verdict? ⟨c', r'⟩) :
    Alike (s₁.ledger.rowsOf functionId) (s₁'.ledger.rowsOf functionId) ∧
    ∃ tickets', Abreast functionId tickets' (next r) (next' r') ∧ Paired s₁ s₁' tickets' ∧
      ∀ p ∈ tickets', p ∈ tickets ∨ (⟨c, r⟩ : (c : Pass.Call) × Pass.Reply c) = ⟨.store .begin, .ok p.1⟩ ∧
        (⟨c', r'⟩ : (c : Pass.Call) × Pass.Reply c) = ⟨.store .begin, .ok p.2⟩ := by
  cases abreast with
  | begin go =>
    obtain ⟨now, verdict, answer⟩ := answered.of_store
    obtain ⟨now', verdict', answer'⟩ := answered'.of_store
    cases answer
    cases answer'
    refine ⟨rows, _, go _ _, fun p present => ?_, fun p present => ?_⟩
    · obtain rfl := Option.mem_some_iff.mp present
      refine ⟨⟨[], false⟩, ?_, ?_⟩
      · exact (Store.openTransaction_begin ..).trans (if_pos rfl)
      · exact (Store.openTransaction_begin ..).trans (if_pos rfl)
    · obtain rfl := Option.mem_some_iff.mp present
      exact .inr ⟨rfl, rfl⟩
  | @find t t' q _ _ own go =>
    obtain ⟨now, verdict, answer⟩ := answered.of_store
    obtain ⟨now', verdict', answer'⟩ := answered'.of_store
    obtain ⟨τ, opened, opened'⟩ := paired (t, t') rfl
    rw [Store.answer_find q opened] at answer
    rw [Store.answer_find q opened'] at answer'
    cases answer
    cases answer'
    subst own
    exact ⟨rows, _, go _ _ (Ledger.alike_find rows), paired, fun p present => .inl present⟩
  | @create t t' row _ _ go =>
    obtain ⟨now, verdict, answer⟩ := answered.of_store
    obtain ⟨now', verdict', answer'⟩ := answered'.of_store
    obtain ⟨τ, opened, opened'⟩ := paired (t, t') rfl
    rw [Store.answer_create row opened] at answer
    rw [Store.answer_create row opened'] at answer'
    cases answer
    cases answer'
    refine ⟨rows, _, go, fun p present => ?_, fun p present => .inl present⟩
    obtain rfl := Option.mem_some_iff.mp present
    exact ⟨_, Store.openTransaction_collect opened row, Store.openTransaction_collect opened' row⟩
  | @commit t t' _ _ go =>
    obtain ⟨now, verdict, answer⟩ := answered.of_store
    obtain ⟨now', verdict', answer'⟩ := answered'.of_store
    obtain ⟨τ, opened, opened'⟩ := paired (t, t') rfl
    obtain rfl : r = r' := Option.some.inj same
    rw [Store.answer_commit opened] at answer
    rw [Store.answer_commit opened'] at answer'
    cases answer
    cases answer'
    refine ⟨?_, none, go r, fun p none => (by cases none), fun p none => by cases none⟩
    cases r with
    | error e => exact rows
    | ok _ => exact Ledger.alike_publish_prepare rows now now' τ.staged
  | elsewhere other go =>
    have same : r = r' := by
      cases c with
      | store c => exact absurd rfl (other c)
      | query request => exact Eq.trans served (Eq.symm served')
      | timer job => rfl
      | visited job visit => rfl
    rw [answered.of_other other, answered'.of_other other, same]
    exact ⟨rows, tickets, go r', paired, fun p present => .inl present⟩

theorem exists_answer {d' : Pass.Step α} (abreast : Abreast functionId tickets (.ask c next) d')
    (paired : Paired s s' tickets) (served : ServedBy client ⟨c, r⟩) :
    ∃ c' next' r' s₁', d' = .ask c' next' ∧ Answers s' ⟨c', r'⟩ s₁' ∧ ServedBy client ⟨c', r'⟩ ∧
      verdict? ⟨c, r⟩ = verdict? ⟨c', r'⟩ := by
  cases abreast with
  | begin go => exact ⟨_, _, _, _, rfl, .store s' .begin .epoch (.ok ()), trivial, rfl⟩
  | find own go => exact ⟨_, _, _, _, rfl, .store s' (.find _ _) .epoch (.ok ()), trivial, rfl⟩
  | create go => exact ⟨_, _, _, _, rfl, .store s' (.create _ _) .epoch (.ok ()), trivial, rfl⟩
  | @commit t t' _ _ go =>
    obtain ⟨τ, _, opened'⟩ := paired (t, t') rfl
    have same : (s'.answer .epoch r (.commit t')).1 = r := by rw [Store.answer_commit opened']
    exact ⟨_, _, _, _, rfl, .store s' (.commit t') .epoch r, trivial, congrArg some same.symm⟩
  | elsewhere other go =>
    have silent : Pass.storeCall? ⟨c, r⟩ = none := by
      cases c with
      | store c => exact absurd rfl (other c)
      | query _ => rfl
      | timer _ => rfl
      | visited _ _ => rfl
    exact ⟨c, _, r, s', rfl, .elsewhere s' silent, served, rfl⟩

end Advance

end AnomalyWatch.Crew
