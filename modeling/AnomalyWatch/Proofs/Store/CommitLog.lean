import AnomalyWatch.Proofs.Store.History

/-!
A store with many open transactions is a log of commits.

However the calls on any number of transactions interleave, and whatever the medium says to a commit, the
visible rows are those that were there at the start, followed by one batch for each transaction that was
committed, in the order of the commits.
-/

set_option autoImplicit false
set_option relaxedAutoImplicit false

namespace AnomalyWatch.Store

private theorem id_le_lastId (s : Store) {row : Anomaly} (stored : row ∈ s.ledger.rows) {id : Nat}
    (named : row.id = some id) : id < s.ledger.lastId + 1 :=
  Nat.lt_succ_of_le (s.ledger.bounded row stored id named)

private theorem answer_of_not_open {l : Ledger} {h : History} {s : Store} (r : Records l h s) {t : Nat}
    (ended : isOpen h t = false) (now : Instant) (verdict : Except Error Unit) {c : Call}
    (named : c.ticket? = some t) (kept : c ≠ .discard t) :
    s.answer now verdict c = (.error .transactionFinished, s) := by
  have refused := r.openTransaction_of_not_isOpen ended
  cases c with
  | begin => cases named
  | find u q =>
    cases named
    exact answer_find_closed q refused
  | create u row =>
    cases named
    exact answer_create_closed row refused
  | commit u =>
    cases named
    exact answer_commit_closed refused
  | rollback u =>
    cases named
    exact answer_rollback_closed refused
  | discard u =>
    cases named
    exact absurd rfl kept

private theorem length_not_mem_begun {l : Ledger} {h : History} {s : Store} (r : Records l h s) :
    s.transactions.length ∉ begun h := by
  rw [r.tickets]
  exact List.not_mem_range_self

/-- Rows are visible by commits alone: each committed transaction adds what was created in it, in one piece
and in the order of the commits, and ids run on from those that are there. A look-up sees what is committed at
its moment. A transaction that is open takes every call; one that is over refuses every call, and neither a
refusal nor a commit that fails changes the rows. -/
theorem rows_eq_commit_log (l : Ledger) {h : History} {s : Store} (served : Serves (ofLedger l) h s) :
    ((committed h).Nodup ∧
      ∃ stored, s.ledger.rows = l.rows ++ stored ∧
        Filed (l.lastId + 1) ((committed h).flatMap (created h)) stored) ∧
    (∀ now verdict, ∃ t, (s.answer now verdict .begin).1 = .ok t ∧ t ∉ begun h) ∧
    (∀ now verdict t, isOpen h t = true →
      (∀ q, s.answer now verdict (.find t q) = (.ok (s.ledger.rows.filter q.selects), s)) ∧
      (∀ row, (s.answer now verdict (.create t row)).1 = .ok ()) ∧
      (s.answer now verdict (.rollback t)).1 = .ok ()) ∧
    (∀ now verdict t c, isOpen h t = false → c.ticket? = some t → c ≠ .discard t →
      ∃ e : Error, e.kind = .persistence ∧ s.answer now verdict c = (.error e, s)) ∧
    (∀ now t, isOpen h t = true →
      (∀ e, (s.answer now (.error e) (.commit t)).1 = .error e ∧
        (s.answer now (.error e) (.commit t)).2.ledger = s.ledger) ∧
      ∃ first, (∀ row ∈ s.ledger.rows, ∀ id ∈ row.id, id < first) ∧
        (s.answer now (.ok ()) (.commit t)).1 = .ok () ∧
        (s.answer now (.ok ()) (.commit t)).2.ledger.rows = s.ledger.rows ++
          ((created h t).zipIdx first).map fun e =>
            { e.1 with id := some e.2, createdAt := some (e.1.createdAt.getD now) }) := by
  have r : Records l h s := (Records.start l).serves served
  refine ⟨⟨r.once, r.rows⟩, fun now verdict => ⟨_, rfl, length_not_mem_begun r⟩,
    fun now verdict t opened => ?_, fun now verdict t c ended named kept => ?_,
    fun now t opened => ⟨fun e => ?_, s.ledger.lastId + 1, fun row stored id named => ?_, ?_⟩⟩
  · have taken := r.openTransaction_of_isOpen opened
    refine ⟨fun q => answer_find q taken, fun row => ?_, ?_⟩
    · rw [answer_create row taken]
    · rw [answer_rollback taken]
  · exact ⟨_, rfl, answer_of_not_open r ended now verdict named kept⟩
  · rw [answer_commit (r.openTransaction_of_isOpen opened)]
    exact ⟨rfl, rfl⟩
  · exact s.id_le_lastId stored named
  · rw [answer_commit (r.openTransaction_of_isOpen opened)]
    exact ⟨rfl, rfl⟩

/-- Two transactions create in turn; the one that commits first has its row first. -/
theorem later_begun_earlier_committed :
    let early := Anomaly.unstamped ⟨["early"]⟩ .epoch .epoch 1
    let late := Anomaly.unstamped ⟨["late"]⟩ .epoch .epoch 1
    ∃ s, Serves (ofLedger .empty) [⟨.begin, .ok 0⟩, ⟨.begin, .ok 1⟩, ⟨.create 0 early, .ok ()⟩,
        ⟨.create 1 late, .ok ()⟩, ⟨.commit 1, .ok ()⟩, ⟨.commit 0, .ok ()⟩] s ∧
      ∃ stored, s.ledger.rows = stored ∧ Filed 1 [late, early] stored := by
  intro early late
  have served := Serves.nil (ofLedger .empty)
    |>.concat .epoch (.ok ()) .begin
    |>.concat .epoch (.ok ()) .begin
    |>.concat .epoch (.ok ()) (.create 0 early)
    |>.concat .epoch (.ok ()) (.create 1 late)
    |>.concat .epoch (.ok ()) (.commit 1)
    |>.concat .epoch (.ok ()) (.commit 0)
  exact ⟨_, served, (rows_eq_commit_log .empty served).1.2⟩

end AnomalyWatch.Store
