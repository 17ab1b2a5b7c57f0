import AnomalyWatch.Proofs.Pass.Conduct

/-!
The transactions of a pass.

`Desk` reads a log from its beginning and keeps account of the transaction that is open. It refuses a log that begins
a second transaction beside it, that asks the metric service or analyses meanwhile, that calls a transaction after its
finish, or that finishes one in the wrong way. The log of every pass is accepted, whatever the store answers, and ends
with nothing open. A pass begins at most two transactions, one that reads and one that writes.
-/

set_option autoImplicit false
set_option relaxedAutoImplicit false

namespace AnomalyWatch

def Store.Call.finishes : Store.Call → Bool
  | .begin | .find _ _ | .create _ _ => false
  | .commit _ | .rollback _ | .discard _ => true

namespace Pass

open Dialogue (Course)

/-- What a log has left open: nothing, or one transaction, which is sound until a call on it fails. -/
inductive Desk
  | free
  | busy (ticket : Nat) (sound : Bool)
  deriving DecidableEq

namespace Desk

/-- What is open after one more entry of a log, if the entry is in order. While a transaction is open, it alone is
called: as long as it is sound it is worked in or committed, and otherwise it is rolled back. Either ends it. -/
def after? : Desk → ((c : Call) × Reply c) → Option Desk
  | free, ⟨.store .begin, .ok ticket⟩ => some (busy ticket true)
  | free, ⟨.store .begin, .error _⟩ => some free
  | busy ticket true, ⟨.store (.find named _), found⟩ =>
    if named = ticket then some (busy ticket found.isOk) else none
  | busy ticket true, ⟨.store (.create named _), created⟩ =>
    if named = ticket then some (busy ticket created.isOk) else none
  | busy ticket true, ⟨.store (.commit named), _⟩ => if named = ticket then some free else none
  | busy ticket false, ⟨.store (.rollback named), _⟩ => if named = ticket then some free else none
  | free, ⟨.query _, _⟩ | free, ⟨.timer _, _⟩ | free, ⟨.visited _ _, _⟩ => some free
  | _, _ => none

def along? (desk : Desk) (log : Log) : Option Desk :=
  log.foldlM after? desk

private theorem along?_append {desk desk' : Desk} {log : Log} (rest : Log) (first : desk.along? log = some desk') :
    desk.along? (log ++ rest) = desk'.along? rest := by
  rw [along?, List.foldlM_append]
  rw [along?] at first
  rw [first]
  rfl

private theorem along?_of_silent {log : Log} (silent : history log = []) : free.along? log = some free := by
  induction log with
  | nil => rfl
  | cons e rest ih =>
    obtain ⟨c, r⟩ := e
    cases c with
    | store c => cases silent
    | query request => exact ih silent
    | timer job => exact ih silent
    | visited job v => exact ih silent

end Desk

/-- What is asked of a transaction that has just been begun, up to the attempt to finish it. -/
def work (h : Store.History) : Store.History :=
  h.takeWhile fun e => !e.1.finishes

private theorem work_append {h more : Store.History} {finish : (c : Store.Call) × Store.Reply c}
    (working : ∀ e ∈ h, e.1.finishes = false) (finishes : finish.1.finishes = true) :
    work (h ++ finish :: more) = h := by
  rw [work, List.takeWhile_append_of_pos fun e present => by simp [working e present],
    List.takeWhile_cons_of_neg (by simp [finishes]), List.append_nil]

section Stages

variable {q : Lookup} {t : Nat} {rows : List Anomaly} {h k rest : Store.History} {begun : Except Error Nat}

private theorem Reading.along? {r : Except Error (List Anomaly)} (reading : Reading q h r) :
    Desk.free.along? (ofHistory h) = some .free := by
  cases reading with
  | unbegun e => rfl
  | unread t e r => simp [Desk.along?, ofHistory, Desk.after?, Except.isOk, Except.toBool]
  | uncommitted t known e => simp [Desk.along?, ofHistory, Desk.after?, Except.isOk, Except.toBool]
  | read t known => simp [Desk.along?, ofHistory, Desk.after?, Except.isOk, Except.toBool]

private theorem Reading.of_begin {r : Except Error (List Anomaly)} (reading : Reading q h r)
    (split : h = k ++ ⟨.begin, begun⟩ :: rest) :
    k = [] ∧ ∀ t, begun = .ok t → ∀ more, ∃ found, work (rest ++ more) = [⟨.find t q, found⟩] := by
  have first : k = [] := by
    cases k with
    | nil => rfl
    | cons e k => cases reading <;> simp [List.cons_eq_append_iff] at split
  subst first
  refine ⟨rfl, fun t ok more => ?_⟩
  subst ok
  cases reading with
  | unbegun e => simp at split
  | unread t' e r =>
    cases split
    exact ⟨_, rfl⟩
  | uncommitted t' known e =>
    cases split
    exact ⟨_, rfl⟩
  | read t' known =>
    cases split
    exact ⟨_, rfl⟩

private theorem Creating.along? {r : Except Error Unit} (creating : Creating t rows h r) :
    (Desk.busy t true).along? (ofHistory h) = some (.busy t r.isOk) := by
  induction creating with
  | nil => rfl
  | refused a rest e => simp [Desk.along?, ofHistory, Desk.after?, Except.isOk, Except.toBool]
  | cons a go ih =>
    have sound : (Desk.busy t true).after? ⟨.store (.create t a), .ok ()⟩ = some (.busy t true) := if_pos rfl
    rw [Desk.along?, ofHistory, List.map_cons, List.foldlM_cons, sound]
    exact ih

private theorem Creating.create_of_mem {r : Except Error Unit} (creating : Creating t rows h r) :
    ∀ e ∈ h, ∃ a created, e = ⟨.create t a, created⟩ := by
  induction creating with
  | nil => exact fun e present => nomatch present
  | refused a rest e => exact fun e' present => ⟨a, .error e, List.mem_singleton.mp present⟩
  | cons a go ih =>
    intro e present
    rcases List.mem_cons.mp present with rfl | present
    · exact ⟨a, .ok (), rfl⟩
    · exact ih e present

private theorem Creating.along?_transaction {r : Except Error Unit} (creating : Creating t rows h r)
    {finish : (c : Store.Call) × Store.Reply c}
    (closes : (Desk.busy t r.isOk).after? ⟨.store finish.1, finish.2⟩ = some .free) :
    Desk.free.along? (ofHistory (⟨.begin, .ok t⟩ :: h ++ [finish])) = some .free := by
  have opened : Desk.free.along? (ofHistory [⟨.begin, .ok t⟩]) = some (.busy t true) := rfl
  rw [List.cons_append, ← List.singleton_append, ofHistory_append, Desk.along?_append _ opened,
    ofHistory_append, Desk.along?_append _ creating.along?]
  change ((Desk.busy t r.isOk).after? ⟨.store finish.1, finish.2⟩).bind some = some .free
  rw [closes]
  rfl

private theorem Creating.of_begin {r : Except Error Unit} (creating : Creating t rows h r)
    {finish : (c : Store.Call) × Store.Reply c} (finishes : finish.1.finishes = true)
    (split : ⟨.begin, .ok t⟩ :: h ++ [finish] = k ++ ⟨.begin, begun⟩ :: rest) :
    k = [] ∧ ∀ t', begun = .ok t' → ∃ created, Creating t' rows (work rest) created := by
  cases k with
  | nil =>
    obtain ⟨first, rfl⟩ := List.cons.inj split
    cases first
    refine ⟨rfl, fun t' same => ⟨r, ?_⟩⟩
    have working : ∀ e ∈ h, e.1.finishes = false := by
      intro e present
      obtain ⟨a, created, rfl⟩ := creating.create_of_mem e present
      rfl
    obtain rfl : t = t' := Except.ok.inj same
    exact (work_append working finishes).symm ▸ creating
  | cons e k =>
    -- Behind its head the transaction has no other beginning.
    have tail : h ++ [finish] = k ++ ⟨.begin, begun⟩ :: rest := (List.cons.inj split).2
    have later : (⟨.begin, begun⟩ : (c : Store.Call) × Store.Reply c) ∈ h ++ [finish] := by
      rw [tail]
      exact List.mem_append_right _ List.mem_cons_self
    rcases List.mem_append.mp later with working | finishing
    · obtain ⟨a, created, called⟩ := creating.create_of_mem _ working
      cases called
    · rw [← List.mem_singleton.mp finishing] at finishes
      cases finishes

private theorem Writing.along? {r : Except Error Nat} (writing : Writing rows h r) :
    Desk.free.along? (ofHistory h) = some .free := by
  cases writing with
  | nothing => rfl
  | unbegun _ e => rfl
  | uncreated _ r creating => exact creating.along?_transaction (if_pos rfl)
  | uncommitted _ e creating => exact creating.along?_transaction (if_pos rfl)
  | written _ creating => exact creating.along?_transaction (if_pos rfl)

private theorem Writing.of_begin {r : Except Error Nat} (writing : Writing rows h r)
    (split : h = k ++ ⟨.begin, begun⟩ :: rest) :
    k = [] ∧ rows ≠ [] ∧ ∀ t, begun = .ok t → ∃ created, Creating t rows (work rest) created := by
  cases writing with
  | nothing => simp at split
  | unbegun nonempty e =>
    cases k with
    | nil =>
      cases split
      exact ⟨rfl, nonempty, fun t ok => nomatch ok⟩
    | cons _ k => simp at split
  | uncreated nonempty r creating => exact (creating.of_begin rfl split).imp_right (And.intro nonempty)
  | uncommitted nonempty e creating => exact (creating.of_begin rfl split).imp_right (And.intro nonempty)
  | written nonempty creating => exact (creating.of_begin rfl split).imp_right (And.intro nonempty)

end Stages

/-- A transaction is begun, with this reply, to look up what is known: nothing was asked of the store before, and in
the transaction nothing is asked but the look-up. -/
def BeginsReading (q : Lookup) (before after : Log) (begun : Except Error Nat) : Prop :=
  history before = [] ∧ ∀ t, begun = .ok t → ∃ found, work (history after) = [⟨.find t q, found⟩]

/-- A transaction is begun, with this reply, to write: what is known was looked up and that transaction committed, the
exploration has kept something, and in the transaction this is created in order, up to the first failure. -/
def BeginsWriting (d : Detector) (window : Window) (q : Lookup) (before after : Log)
    (begun : Except Error Nat) : Prop :=
  ∃ t known kept, history before = [⟨.begin, .ok t⟩, ⟨.find t q, .ok known⟩, ⟨.commit t, .ok ()⟩] ∧
    kept = (Exploration.outcome ⟨d, window, known⟩ (replies before)).results ∧ kept ≠ [] ∧
    ∀ t, begun = .ok t → ∃ created, Creating t kept (work (history after)) created

section Course

variable {j : Job} {now : Instant} {window : Window} {aggregation : String} {log before after : Log}
  {outcome : Except Error Summary} {begun : Except Error Nat}

private theorem history_begin (before after : Log) (begun : Except Error Nat) :
    history (before ++ ⟨.store .begin, begun⟩ :: after) = history before ++ ⟨.begin, begun⟩ :: history after :=
  history_append before _

private theorem along?_of_stages (stages : Job.Stages j window aggregation log outcome) :
    Desk.free.along? log = some .free := by
  obtain ⟨silent, _⟩ := course_explore stages.explored
  have between : history (⟨.timer j.name, ()⟩ :: stages.exploring) = [] := silent
  rw [stages.log_eq, List.append_assoc, Desk.along?_append _ stages.read.along?,
    Desk.along?_append _ (Desk.along?_of_silent between), stages.wrote.along?]

private theorem begins_of_stages (stages : Job.Stages j window aggregation log outcome)
    (split : log = before ++ ⟨.store .begin, begun⟩ :: after) :
    BeginsReading (j.lookup window) before after begun ∨
      BeginsWriting j.detector window (j.lookup window) before after begun := by
  have ahead := stages.history_ahead
  have heard := stages.replies_ahead
  have shape := split.symm.trans stages.log_eq
  have wrote := stages.wrote
  have writes (mid : Log) (first : before =
      (ofHistory stages.reading ++ ⟨.timer j.name, ()⟩ :: stages.exploring) ++ mid)
      (last : ofHistory stages.writing = mid ++ ⟨.store .begin, begun⟩ :: after) :
      BeginsWriting j.detector window (j.lookup window) before after begun := by
    have written : stages.writing = history mid ++ ⟨.begin, begun⟩ :: history after := by
      rw [← history_ofHistory stages.writing, last, history_begin]
    have quiet : replies mid ++ replies after = [] := by
      rw [← replies_ofHistory stages.writing, last, replies_append]
      rfl
    obtain ⟨none, some_result, creates⟩ := wrote.of_begin written
    have asked : history before = stages.reading := by
      rw [first, history_append, ahead, none, List.append_nil]
    have replied : replies before = replies stages.exploring := by
      rw [first, replies_append, heard, (List.append_eq_nil_iff.mp quiet).1, List.append_nil]
    have found : stages.found = Exploration.outcome ⟨j.detector, window, stages.known⟩ (replies before) := by
      rw [replied]
      exact (course_explore stages.explored).2
    rw [found] at some_result creates
    have read := stages.read
    generalize stages.reading = reading at asked read
    cases read with
    | read t _ => exact ⟨t, stages.known, _, asked, rfl, some_result, creates⟩
  rcases List.append_eq_append_iff.mp shape with ⟨mid, first, last⟩ | ⟨mid, first, last⟩
  · cases mid with
    | nil => exact .inr (writes [] (by simpa using first.symm) last.symm)
    | cons e mid =>
      obtain rfl := (List.cons.inj last).1
      have rest : after = mid ++ ofHistory stages.writing := (List.cons.inj last).2
      have read : stages.reading = history before ++ ⟨.begin, begun⟩ :: history mid := by
        rw [← ahead, first, history_begin]
      obtain ⟨none, looks⟩ := stages.read.of_begin read
      refine .inl ⟨none, fun t ok => ?_⟩
      rw [rest, history_append]
      exact looks t ok _
  · exact .inr (writes mid first last)

/-- The transactions of a pass, whatever the store answers to any call. At any time at most one is open, and none
while the metric service is asked or a series analysed. Each one that is begun is finished by one attempt, after which
it is not called: a commit if every call in it succeeded, and otherwise a rollback. The first one looks up and creates
nothing. Another is begun only after the first was committed and if the exploration kept something, and what it kept
is created there in order, up to the first failure. -/
theorem transactions_in_order (course : Course (j.pass now) log outcome) :
    Desk.free.along? log = some .free ∧
    ∀ before begun after, log = before ++ ⟨.store .begin, begun⟩ :: after →
      ∃ window aggregation, j.prepare now = .ok (window, aggregation) ∧
        (BeginsReading (j.lookup window) before after begun ∨
          BeginsWriting j.detector window (j.lookup window) before after begun) := by
  rcases Job.course_pass.mp course with ⟨e, _, rfl, _⟩ | ⟨window, aggregation, prepared, course⟩
  · exact ⟨rfl, fun before begun after split => by simp at split⟩
  rcases Job.course_passOver.mp course with ⟨h, e, rfl, reading, _⟩ | ⟨⟨stages⟩⟩
  · refine ⟨reading.along?, fun before begun after split => ⟨window, aggregation, prepared, .inl ?_⟩⟩
    have asked : h = history before ++ ⟨.begin, begun⟩ :: history after := by
      rw [← history_ofHistory h, split, history_begin]
    obtain ⟨none, looks⟩ := reading.of_begin asked
    refine ⟨none, fun t ok => ?_⟩
    rw [← List.append_nil (history after)]
    exact looks t ok []
  · exact ⟨along?_of_stages stages, fun before begun after split =>
      ⟨window, aggregation, prepared, begins_of_stages stages split⟩⟩

end Course

/-- Of two anomalies the first is refused, and so is the rollback: the second is not created any more. The store has
given both transactions one ticket. -/
theorem first_create_refused :
    let a := Anomaly.unstamped ⟨["a"]⟩ .epoch .epoch 1
    let b := Anomaly.unstamped ⟨["b"]⟩ .epoch .epoch 1
    let j : Job := ⟨"latency", ⟨.sample, fun _ _ _ _ => .ok [a, b]⟩, .none⟩
    let reply : SeriesMap := .ofList [(⟨["a"]⟩, .ofList [(.epoch, 1), (Window.sample.start, 1)])]
    let before : Log := [⟨.store .begin, .ok 0⟩, ⟨.store (.find 0 (j.lookup .sample)), .ok []⟩,
      ⟨.store (.commit 0), .ok ()⟩, ⟨.timer "latency", ()⟩,
      ⟨.query ⟨"web", "AGGREGATE_1_MINUTES(latency)", Window.sample.start, .epoch, none⟩, .ok reply⟩,
      ⟨.visited "latency" (.analyzed ⟨["a"]⟩ [a, b]), ()⟩]
    let after : Log := [⟨.store (.create 0 (a.stamp .sample)), .error (.inputOutput "full")⟩,
      ⟨.store (.rollback 0), .error .transactionFinished⟩]
    let log : Log := before ++ ⟨.store .begin, .ok 0⟩ :: after
    Course (j.pass .epoch) log (.error (Error.storeFailure (.inputOutput "full"))) ∧
      Desk.free.along? log = some .free ∧
      BeginsWriting j.detector .sample (j.lookup .sample) before after (.ok 0) := by
  intro a b j reply before after log
  have course : Course (j.pass .epoch) log (.error (Error.storeFailure (.inputOutput "full"))) := by
    refine Job.course_pass.mpr (.inr ⟨.sample, _, Job.prepare_sample _, ?_⟩)
    exact .ask (.ask (.ask (.ask (.ask (.ask (.ask (.ask (.ask (.done _)))))))))
  obtain ⟨orderly, begins⟩ := transactions_in_order course
  refine ⟨course, orderly, ?_⟩
  obtain ⟨window, aggregation, prepared, reading | writing⟩ := begins before (.ok 0) after rfl
  · cases reading.1
  · rw [Job.prepare_sample] at prepared
    cases prepared
    exact writing

end Pass

end AnomalyWatch
