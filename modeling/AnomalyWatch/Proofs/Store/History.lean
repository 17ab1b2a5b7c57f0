import AnomalyWatch.Store.Basic
import Mathlib.Data.List.Forall2

/-!
What a store was asked and what it answered.

`Serves s h s'` says that a store answers the calls of the history `h` in their order and goes from `s` to
`s'` on the way; the clock and the verdicts of the medium are free. The rest of the file reads a history
alone: which transactions it begins, which are still open, what was created in each and which of them were
committed. `Records` ties the two together: it holds of an opened store and is kept by every call, so a store
is at any time what its history says.
-/

set_option autoImplicit false
set_option relaxedAutoImplicit false

namespace AnomalyWatch.Store

/-- The answer to a call at an instant, with a verdict of the medium on the rows of a commit. -/
def answer (s : Store) (now : Instant) (verdict : Except Error Unit) (c : Call) : Reply c × Store :=
  Id.run (s.respond now (fun _ => pure verdict) c)

theorem respond_eq_answer {σ : Type} (s : Store) (now : Instant)
    (append : List Anomaly → StateM σ (Except Error Unit)) (c : Call) (env : σ) :
    ∃ verdict env', s.respond now append c env = (s.answer now verdict c, env') := by
  cases c with
  | begin => exact ⟨.ok (), env, rfl⟩
  | discard ticket => exact ⟨.ok (), env, rfl⟩
  | commit ticket =>
    simp only [respond, answer, commit]
    cases s.openTransaction ticket with
    | error e => exact ⟨.ok (), env, rfl⟩
    | ok t => exact ⟨_, _, rfl⟩
  | find ticket lookup =>
    simp only [respond, answer]
    cases s.openTransaction ticket <;> exact ⟨.ok (), env, rfl⟩
  | create ticket row =>
    simp only [respond, answer]
    cases s.openTransaction ticket <;> exact ⟨.ok (), env, rfl⟩
  | rollback ticket =>
    simp only [respond, answer]
    cases s.openTransaction ticket <;> exact ⟨.ok (), env, rfl⟩

section Answers

variable {s : Store} {now : Instant} {verdict : Except Error Unit} {ticket : Nat} {t : Transaction}
  {e : Error}

theorem answer_begin : s.answer now verdict .begin = (.ok s.transactions.length, s.begin.2) := rfl

theorem answer_find (q : Lookup) (h : s.openTransaction ticket = .ok t) :
    s.answer now verdict (.find ticket q) = (.ok (s.ledger.find q), s) := by
  simp [answer, respond, h]

theorem answer_create (row : Anomaly) (h : s.openTransaction ticket = .ok t) :
    s.answer now verdict (.create ticket row) =
      (.ok (), s.replace ticket { t with staged := t.staged ++ [row] }) := by
  simp [answer, respond, h]

theorem answer_commit (h : s.openTransaction ticket = .ok t) :
    s.answer now verdict (.commit ticket) =
      (verdict, (s.finish ticket).settle (s.ledger.prepare now t.staged) verdict) := by
  simp [answer, respond, commit, h]

theorem answer_rollback (h : s.openTransaction ticket = .ok t) :
    s.answer now verdict (.rollback ticket) = (.ok (), s.finish ticket) := by
  simp [answer, respond, h]

theorem answer_find_closed (q : Lookup) (h : s.openTransaction ticket = .error e) :
    s.answer now verdict (.find ticket q) = (.error e, s) := by
  simp [answer, respond, h]

theorem answer_create_closed (row : Anomaly) (h : s.openTransaction ticket = .error e) :
    s.answer now verdict (.create ticket row) = (.error e, s) := by
  simp [answer, respond, h]

theorem answer_commit_closed (h : s.openTransaction ticket = .error e) :
    s.answer now verdict (.commit ticket) = (.error e, s) := by
  simp [answer, respond, commit, h]

theorem answer_rollback_closed (h : s.openTransaction ticket = .error e) :
    s.answer now verdict (.rollback ticket) = (.error e, s) := by
  simp [answer, respond, h]

end Answers

section Transactions

variable (s : Store) (ticket other : Nat)

@[simp]
theorem ledger_begin : s.begin.2.ledger = s.ledger := rfl

@[simp]
theorem ledger_replace (t : Transaction) : (s.replace ticket t).ledger = s.ledger := rfl

@[simp]
theorem ledger_finish : (s.finish ticket).ledger = s.ledger := rfl

@[simp]
theorem length_begin : s.begin.2.transactions.length = s.transactions.length + 1 := by
  simp [begin]

@[simp]
theorem length_replace (t : Transaction) :
    (s.replace ticket t).transactions.length = s.transactions.length := by
  simp [replace]

@[simp]
theorem length_finish : (s.finish ticket).transactions.length = s.transactions.length := by
  simp [finish]

private theorem openTransaction_eq_ok {s : Store} {ticket : Nat} {t : Transaction} :
    s.openTransaction ticket = .ok t ↔ s.transactions[ticket]? = some t ∧ t.finished = false := by
  unfold openTransaction
  cases s.transactions[ticket]? with
  | none => simp
  | some x => cases h : x.finished <;> aesop

theorem openTransaction_begin :
    s.begin.2.openTransaction other =
      if other = s.transactions.length then .ok ⟨[], false⟩ else s.openTransaction other := by
  simp only [openTransaction, begin, List.getElem?_append, List.getElem?_singleton]
  grind

private theorem openTransaction_replace (t : Transaction) :
    (s.replace ticket t).openTransaction other =
      if other = ticket ∧ ticket < s.transactions.length then
        if t.finished then .error .transactionFinished else .ok t
      else s.openTransaction other := by
  simp only [openTransaction, replace, List.getElem?_set]
  grind

private theorem openTransaction_finish :
    (s.finish ticket).openTransaction other =
      if other = ticket then .error .transactionFinished else s.openTransaction other := by
  have absent : s.transactions.length ≤ other → s.openTransaction other = .error .transactionFinished := by
    intro h
    simp [openTransaction, List.getElem?_eq_none h]
  rw [finish, openTransaction_replace]
  grind

theorem openTransaction_collect {s : Store} {ticket : Nat} {t : Transaction}
    (opened : s.openTransaction ticket = .ok t) (row : Anomaly) :
    (s.replace ticket { t with staged := t.staged ++ [row] }).openTransaction ticket =
      .ok { t with staged := t.staged ++ [row] } := by
  obtain ⟨place, unfinished⟩ := openTransaction_eq_ok.mp opened
  have present := (List.getElem?_eq_some_iff.mp place).1
  simp [openTransaction_replace, present, unfinished]

end Transactions

def Call.ticket? : Call → Option Nat
  | .begin => none
  | .find t _ | .create t _ | .commit t | .rollback t | .discard t => some t

theorem openTransaction_answer_of_ne {s : Store} {now : Instant} {verdict : Except Error Unit} {c : Call}
    {ticket : Nat} (begun : ticket < s.transactions.length) (other : c.ticket? ≠ some ticket) :
    (s.answer now verdict c).2.openTransaction ticket = s.openTransaction ticket := by
  have apart {named : Nat} (asks : c.ticket? = some named) : ticket ≠ named :=
    fun same => other (same ▸ asks)
  cases c with
  | begin => exact (openTransaction_begin s ticket).trans (if_neg (Nat.ne_of_lt begun))
  | discard t => exact (openTransaction_finish s t ticket).trans (if_neg (apart rfl))
  | find t q =>
    cases opened : s.openTransaction t with
    | ok _ => rw [answer_find q opened]
    | error _ => rw [answer_find_closed q opened]
  | create t row =>
    cases opened : s.openTransaction t with
    | ok _ =>
      rw [answer_create row opened, openTransaction_replace, if_neg fun here => apart rfl here.1]
    | error _ => rw [answer_create_closed row opened]
  | rollback t =>
    cases opened : s.openTransaction t with
    | ok _ => rw [answer_rollback opened, openTransaction_finish, if_neg (apart rfl)]
    | error _ => rw [answer_rollback_closed opened]
  | commit t =>
    cases opened : s.openTransaction t with
    | error _ => rw [answer_commit_closed opened]
    | ok _ =>
      rw [answer_commit opened]
      cases verdict with
      | ok _ => exact (openTransaction_finish s t ticket).trans (if_neg (apart rfl))
      | error _ => exact (openTransaction_finish s t ticket).trans (if_neg (apart rfl))

abbrev History : Type := List ((c : Call) × Reply c)

inductive Serves : Store → History → Store → Prop
  | nil (s : Store) : Serves s [] s
  | cons {s s' : Store} {c : Call} {rest : History} (now : Instant) (verdict : Except Error Unit)
      (go : Serves (s.answer now verdict c).2 rest s') :
      Serves s (⟨c, (s.answer now verdict c).1⟩ :: rest) s'

theorem Serves.split {s s'' : Store} {h k : History} (served : Serves s (h ++ k) s'') :
    ∃ s', Serves s h s' ∧ Serves s' k s'' := by
  induction h generalizing s with
  | nil => exact ⟨s, .nil s, served⟩
  | cons e h ih =>
    cases served with
    | cons now verdict go =>
      obtain ⟨s', first, second⟩ := ih go
      exact ⟨s', .cons now verdict first, second⟩

theorem Serves.concat {s s' : Store} {h : History} (served : Serves s h s') (now : Instant)
    (verdict : Except Error Unit) (c : Call) :
    Serves s (h ++ [⟨c, (s'.answer now verdict c).1⟩]) (s'.answer now verdict c).2 := by
  induction served with
  | nil s => exact .cons now verdict (.nil _)
  | cons now' verdict' _ ih => exact .cons now' verdict' ih

def begunBy : ((c : Call) × Reply c) → Option Nat
  | ⟨.begin, .ok ticket⟩ => some ticket
  | _ => none

def begun (h : History) : List Nat := h.filterMap begunBy

def createdBy (ticket : Nat) : ((c : Call) × Reply c) → Option Anomaly
  | ⟨.create other row, .ok _⟩ => if other = ticket then some row else none
  | _ => none

/-- The rows that were created in a transaction, in their order. -/
def created (h : History) (ticket : Nat) : List Anomaly := h.filterMap (createdBy ticket)

def committedBy : ((c : Call) × Reply c) → Option Nat
  | ⟨.commit ticket, .ok _⟩ => some ticket
  | _ => none

/-- The transactions that were committed, in the order of their commits. -/
def committed (h : History) : List Nat := h.filterMap committedBy

/-- What was created in the committed transactions, one transaction after the other. -/
def saved (h : History) : List Anomaly := (committed h).flatMap (created h)

/-- A transaction is open from the call that begins it to its commit, rollback or drop. -/
def opensOrCloses (ticket : Nat) (opened : Bool) : ((c : Call) × Reply c) → Bool
  | ⟨.begin, .ok other⟩ => opened || other == ticket
  | ⟨.commit other, _⟩ | ⟨.rollback other, _⟩ | ⟨.discard other, _⟩ => opened && other != ticket
  | _ => opened

/-- The transaction was begun, and no commit, rollback or drop of it came since. -/
def isOpen (h : History) (ticket : Nat) : Bool := h.foldl (opensOrCloses ticket) false

/-- The rows are what a batch becomes in a ledger: with ids from `first` up, and a creation time where there
was none. -/
def Filed (first : Nat) (batch rows : List Anomaly) : Prop :=
  List.Forall₂ (fun e row => ∃ now, row = Ledger.numbered now e.1 e.2) (batch.zipIdx first) rows

/-- The store is what a history from a ledger without transactions says. -/
structure Records (l : Ledger) (h : History) (s : Store) : Prop where
  tickets : begun h = List.range s.transactions.length
  view : ∀ t, s.openTransaction t =
    if isOpen h t then .ok ⟨created h t, false⟩ else .error .transactionFinished
  unbegun : ∀ t, s.transactions.length ≤ t → created h t = []
  closed : ∀ t ∈ committed h, t < s.transactions.length ∧ isOpen h t = false
  once : (committed h).Nodup
  rows : ∃ stored, s.ledger.rows = l.rows ++ stored ∧ Filed (l.lastId + 1) (saved h) stored
  lastId : s.ledger.lastId = l.lastId + (saved h).length

section Concat

variable (h : History) (e : (c : Call) × Reply c) (t : Nat)

theorem begun_append (k : History) : begun (h ++ k) = begun h ++ begun k :=
  List.filterMap_append

theorem created_append (k : History) : created (h ++ k) t = created h t ++ created k t :=
  List.filterMap_append

theorem committed_append (k : History) : committed (h ++ k) = committed h ++ committed k :=
  List.filterMap_append

theorem begun_cons : begun (e :: h) = (begunBy e).toList ++ begun h := by
  unfold begun
  cases first : begunBy e <;> simp [first]

private theorem begun_concat : begun (h ++ [e]) = begun h ++ (begunBy e).toList := by
  rw [begun_append, begun_cons]
  exact congrArg _ (List.append_nil _)

private theorem created_concat : created (h ++ [e]) t = created h t ++ (createdBy t e).toList := by
  rw [created_append]
  cases last : createdBy t e <;> simp [created, last]

theorem committed_concat : committed (h ++ [e]) = committed h ++ (committedBy e).toList := by
  rw [committed_append]
  cases last : committedBy e <;> simp [committed, last]

theorem committed_cons_eq_nil {h : History} {e : (c : Call) × Reply c} :
    committed (e :: h) = [] ↔ committedBy e = none ∧ committed h = [] := by
  simp [committed, List.filterMap_eq_nil_iff]

private theorem begunBy_eq_some {e : (c : Call) × Reply c} {t : Nat} :
    begunBy e = some t ↔ e = ⟨.begin, .ok t⟩ := by
  refine ⟨fun begins => ?_, fun same => same ▸ rfl⟩
  unfold begunBy at begins
  split at begins
  · cases begins
    rfl
  · cases begins

private theorem createdBy_eq_some {e : (c : Call) × Reply c} {t : Nat} {row : Anomaly} :
    createdBy t e = some row ↔ e = ⟨.create t row, .ok ()⟩ := by
  refine ⟨fun creates => ?_, fun same => same ▸ if_pos rfl⟩
  unfold createdBy at creates
  split at creates
  · split at creates
    next same =>
      cases creates
      cases same
      rfl
    next => cases creates
  · cases creates

theorem committedBy_eq_some {e : (c : Call) × Reply c} {t : Nat} :
    committedBy e = some t ↔ e = ⟨.commit t, .ok ()⟩ := by
  refine ⟨fun commits => ?_, fun same => same ▸ rfl⟩
  unfold committedBy at commits
  split at commits
  · cases commits
    rfl
  · cases commits

theorem mem_begun {h : History} {t : Nat} :
    t ∈ begun h ↔ (⟨.begin, .ok t⟩ : (c : Call) × Reply c) ∈ h := by
  simp [begun, begunBy_eq_some]

theorem mem_created {h : History} {t : Nat} {row : Anomaly} :
    row ∈ created h t ↔ (⟨.create t row, .ok ()⟩ : (c : Call) × Reply c) ∈ h := by
  simp [created, createdBy_eq_some]

theorem mem_committed {h : History} {t : Nat} :
    t ∈ committed h ↔ (⟨.commit t, .ok ()⟩ : (c : Call) × Reply c) ∈ h := by
  simp [committed, committedBy_eq_some]

private theorem isOpen_concat : isOpen (h ++ [e]) t = opensOrCloses t (isOpen h t) e := by
  simp [isOpen]

private theorem saved_concat_of_committedBy_none (idle : committedBy e = none)
    (kept : ∀ t ∈ committed h, createdBy t e = none) : saved (h ++ [e]) = saved h := by
  simp only [saved, committed_concat, idle, Option.toList_none, List.append_nil]
  refine List.flatMap_congr fun t ht => ?_
  simp [created_concat, kept t ht]

private theorem saved_concat_commit (r : Unit) :
    saved (h ++ [⟨.commit t, .ok r⟩]) = saved h ++ created h t := by
  have same : created (h ++ [⟨.commit t, .ok r⟩]) = created h := by
    funext u
    simp [created_concat, createdBy]
  simp [saved, committed_concat, committedBy, same]

end Concat

private theorem filed_prepare (l : Ledger) (now : Instant) (batch : List Anomaly) :
    Filed (l.lastId + 1) batch (l.prepare now batch) := by
  unfold Filed Ledger.prepare
  rw [List.forall₂_map_right_iff]
  exact List.forall₂_same.mpr fun _ _ => ⟨now, rfl⟩

theorem Filed.append {first : Nat} {batch rows batch' rows' : List Anomaly}
    (h : Filed first batch rows) (h' : Filed (first + batch.length) batch' rows') :
    Filed first (batch ++ batch') (rows ++ rows') := by
  unfold Filed
  rw [List.zipIdx_append]
  exact List.rel_append h h'

private theorem Filed.map_identity {first : Nat} {batch rows : List Anomaly} (h : Filed first batch rows) :
    rows.map Anomaly.identity = batch.map Anomaly.identity := by
  induction batch generalizing first rows with
  | nil =>
    cases h
    rfl
  | cons a rest ih =>
    obtain ⟨row, others, ⟨now, rfl⟩, filed, rfl⟩ := List.forall₂_cons_left_iff.mp h
    rw [List.map_cons, List.map_cons, ih filed]
    rfl

theorem map_identity_publish_prepare (l : Ledger) (now : Instant) (batch : List Anomaly) :
    (l.publish (l.prepare now batch)).rows.map Anomaly.identity =
      (l.rows ++ batch).map Anomaly.identity := by
  rw [Ledger.publish, List.map_append, (filed_prepare l now batch).map_identity, List.map_append]

theorem lastId_publish_prepare (l : Ledger) (now : Instant) (batch : List Anomaly) :
    (l.publish (l.prepare now batch)).lastId = l.lastId + batch.length := by
  have counted (first : Nat) :
      Ledger.greatestId first ((batch.zipIdx (first + 1)).map fun e => Ledger.numbered now e.1 e.2) =
        first + batch.length := by
    induction batch generalizing first with
    | nil => rfl
    | cons a rest ih =>
      have larger : max first (first + 1) = first + 1 := by omega
      simp only [List.zipIdx_cons, List.map_cons, Ledger.greatestId_cons, Ledger.numbered,
        Option.getD_some, larger, List.length_cons]
      exact (ih (first + 1)).trans (by omega)
  exact counted l.lastId

namespace Records

variable {l : Ledger} {h : History} {s : Store}

theorem start (l : Ledger) : Records l [] (ofLedger l) where
  tickets := rfl
  view _ := rfl
  unbegun _ _ := rfl
  closed := by simp [committed]
  once := .nil
  rows := ⟨[], (List.append_nil _).symm, .nil⟩
  lastId := rfl

theorem openTransaction_of_isOpen (r : Records l h s) {t : Nat} (opened : isOpen h t = true) :
    s.openTransaction t = .ok ⟨created h t, false⟩ := by
  rw [r.view, if_pos opened]

theorem openTransaction_of_not_isOpen (r : Records l h s) {t : Nat} (ended : isOpen h t = false) :
    s.openTransaction t = .error .transactionFinished := by
  rw [r.view, if_neg (by simp [ended])]

private theorem lt_of_isOpen (r : Records l h s) {t : Nat} (opened : isOpen h t = true) :
    t < s.transactions.length := by
  have found := (openTransaction_eq_ok.mp (r.openTransaction_of_isOpen opened)).1
  exact (List.getElem?_eq_some_iff.mp found).1

theorem ledger_of_commit (r : Records l h s) {now : Instant} {verdict : Except Error Unit} {t : Nat}
    {s' : Store} (committed : s.answer now verdict (.commit t) = (.ok (), s')) :
    s'.ledger = s.ledger.publish (s.ledger.prepare now (created h t)) := by
  cases opened : isOpen h t with
  | false =>
    rw [answer_commit_closed (r.openTransaction_of_not_isOpen opened)] at committed
    cases committed
  | true =>
    rw [answer_commit (r.openTransaction_of_isOpen opened)] at committed
    cases committed
    rfl

theorem quiet (r : Records l h s) {e : (c : Call) × Reply c} (begins : begunBy e = none)
    (creates : ∀ t, createdBy t e = none) (commits : committedBy e = none)
    (same : ∀ t, opensOrCloses t (isOpen h t) e = isOpen h t) : Records l (h ++ [e]) s := by
  have saves := saved_concat_of_committedBy_none h e commits fun t _ => creates t
  refine ⟨?_, fun t => ?_, fun t ht => ?_, ?_, ?_, ?_, ?_⟩
  · simpa [begun_concat, begins] using r.tickets
  · simpa [isOpen_concat, same, created_concat, creates] using r.view t
  · simpa [created_concat, creates] using r.unbegun t ht
  · simpa [committed_concat, commits, isOpen_concat, same] using r.closed
  · simpa [committed_concat, commits] using r.once
  · simpa [saves] using r.rows
  · simpa [saves] using r.lastId

theorem begin (r : Records l h s) :
    Records l (h ++ [⟨.begin, .ok s.transactions.length⟩]) s.begin.2 := by
  have saves := saved_concat_of_committedBy_none h ⟨.begin, .ok s.transactions.length⟩ rfl
    fun _ _ => rfl
  have kept (t : Nat) : created (h ++ [⟨.begin, .ok s.transactions.length⟩]) t = created h t := by
    simp [created_concat, createdBy]
  refine ⟨?_, fun t => ?_, fun t ht => ?_, fun t ht => ?_, ?_, ?_, ?_⟩
  · rw [length_begin, List.range_succ, begun_concat, r.tickets]
    rfl
  · rw [openTransaction_begin, isOpen_concat, kept, r.view]
    by_cases fresh : t = s.transactions.length
    · simp [fresh, opensOrCloses, r.unbegun]
    · simp [fresh, opensOrCloses, Ne.symm fresh]
  · rw [kept]
    exact r.unbegun t (by rw [length_begin] at ht; omega)
  · rw [committed_concat] at ht
    obtain ⟨bound, ended⟩ := r.closed t (by simpa [committedBy] using ht)
    have other : s.transactions.length ≠ t := by omega
    exact ⟨by rw [length_begin]; omega, by simp [isOpen_concat, opensOrCloses, ended, other]⟩
  · simpa [committed_concat, committedBy] using r.once
  · simpa [saves] using r.rows
  · simpa [saves] using r.lastId

theorem create (r : Records l h s) {t : Nat} (opened : isOpen h t = true) (row : Anomaly) :
    Records l (h ++ [⟨.create t row, .ok ()⟩])
      (s.replace t ⟨created h t ++ [row], false⟩) := by
  have uncommitted : t ∉ committed h := fun ht => by simp [(r.closed t ht).2] at opened
  have saves := saved_concat_of_committedBy_none h ⟨.create t row, .ok ()⟩ rfl fun u hu => by
    have other : t ≠ u := fun equal => uncommitted (equal ▸ hu)
    simp [createdBy, other]
  refine ⟨?_, fun u => ?_, fun u hu => ?_, fun u hu => ?_, ?_, ?_, ?_⟩
  · simpa [begun_concat, begunBy] using r.tickets
  · rw [openTransaction_replace, isOpen_concat, created_concat, r.view]
    by_cases equal : u = t
    · subst equal
      simp [opensOrCloses, createdBy, opened, r.lt_of_isOpen opened]
    · simp [opensOrCloses, createdBy, equal, Ne.symm equal]
  · have other : t ≠ u := by
      have := r.lt_of_isOpen opened
      rw [length_replace] at hu
      omega
    simpa [created_concat, createdBy, other] using r.unbegun u (by simpa using hu)
  · rw [length_replace]
    simpa [isOpen_concat, opensOrCloses] using
      r.closed u (by simpa [committed_concat, committedBy] using hu)
  · simpa [committed_concat, committedBy] using r.once
  · simpa [saves] using r.rows
  · simpa [saves] using r.lastId

theorem finish (r : Records l h s) {t : Nat} {e : (c : Call) × Reply c} (begins : begunBy e = none)
    (creates : ∀ t, createdBy t e = none) (commits : committedBy e = none)
    (closes : ∀ u, opensOrCloses u (isOpen h u) e = (isOpen h u && t != u)) :
    Records l (h ++ [e]) (s.finish t) := by
  have saves := saved_concat_of_committedBy_none h e commits fun t _ => creates t
  refine ⟨?_, fun u => ?_, fun u hu => ?_, fun u hu => ?_, ?_, ?_, ?_⟩
  · simpa [begun_concat, begins] using r.tickets
  · rw [openTransaction_finish, isOpen_concat, closes, created_concat, creates, r.view]
    by_cases equal : u = t
    · simp [equal]
    · simp [equal, Ne.symm equal]
  · simpa [created_concat, creates] using r.unbegun u (by simpa using hu)
  · rw [length_finish, isOpen_concat, closes]
    obtain ⟨bound, ended⟩ := r.closed u (by simpa [committed_concat, commits] using hu)
    exact ⟨bound, by simp [ended]⟩
  · simpa [committed_concat, commits] using r.once
  · simpa [saves] using r.rows
  · simpa [saves] using r.lastId

theorem commit (r : Records l h s) {t : Nat} (opened : isOpen h t = true) (now : Instant) :
    Records l (h ++ [⟨.commit t, .ok ()⟩])
      ((s.finish t).settle (s.ledger.prepare now (created h t)) (.ok ())) := by
  have uncommitted : t ∉ committed h := fun ht => by simp [(r.closed t ht).2] at opened
  have kept (u : Nat) : created (h ++ [⟨.commit t, .ok ()⟩]) u = created h u := by
    simp [created_concat, createdBy]
  refine ⟨?_, fun u => ?_, fun u hu => ?_, fun u hu => ?_, ?_, ?_, ?_⟩
  · simpa [settle, begun_concat, begunBy] using r.tickets
  · change (s.finish t).openTransaction u = _
    rw [openTransaction_finish, isOpen_concat, kept, r.view]
    by_cases equal : u = t
    · simp [equal, opensOrCloses]
    · simp [equal, Ne.symm equal, opensOrCloses]
  · rw [kept]
    exact r.unbegun u (by simpa [settle] using hu)
  · simp only [settle, length_finish, isOpen_concat, opensOrCloses]
    rcases List.mem_append.mp (committed_concat .. ▸ hu) with hu | hu
    · obtain ⟨bound, ended⟩ := r.closed u hu
      exact ⟨bound, by simp [ended]⟩
    · obtain rfl : u = t := by simpa [committedBy] using hu
      exact ⟨r.lt_of_isOpen opened, by simp⟩
  · rw [committed_concat]
    refine List.nodup_append.mpr ⟨r.once, by simp [committedBy], fun u hu v hv equal => ?_⟩
    obtain rfl : v = t := by simpa [committedBy] using hv
    exact uncommitted (equal ▸ hu)
  · obtain ⟨stored, eq, filed⟩ := r.rows
    refine ⟨stored ++ s.ledger.prepare now (created h t), ?_, ?_⟩
    · change s.ledger.rows ++ _ = _
      rw [eq, List.append_assoc]
    · rw [saved_concat_commit]
      refine filed.append ?_
      have := filed_prepare s.ledger now (created h t)
      rwa [r.lastId, Nat.add_right_comm] at this
  · rw [saved_concat_commit, List.length_append, ← Nat.add_assoc, ← r.lastId]
    exact lastId_publish_prepare s.ledger now (created h t)

theorem answer (r : Records l h s) (now : Instant) (verdict : Except Error Unit) (c : Call) :
    Records l (h ++ [⟨c, (s.answer now verdict c).1⟩]) (s.answer now verdict c).2 := by
  cases c with
  | begin => exact r.begin
  | discard t => exact r.finish rfl (fun _ => rfl) rfl fun _ => rfl
  | find t q =>
    cases opened : isOpen h t with
    | true =>
      rw [answer_find q (r.openTransaction_of_isOpen opened)]
      exact r.quiet rfl (fun _ => rfl) rfl fun _ => rfl
    | false =>
      rw [answer_find_closed q (r.openTransaction_of_not_isOpen opened)]
      exact r.quiet rfl (fun _ => rfl) rfl fun _ => rfl
  | create t row =>
    cases opened : isOpen h t with
    | true =>
      rw [answer_create row (r.openTransaction_of_isOpen opened)]
      exact r.create opened row
    | false =>
      rw [answer_create_closed row (r.openTransaction_of_not_isOpen opened)]
      exact r.quiet rfl (fun _ => rfl) rfl fun _ => rfl
  | rollback t =>
    cases opened : isOpen h t with
    | true =>
      rw [answer_rollback (r.openTransaction_of_isOpen opened)]
      exact r.finish rfl (fun _ => rfl) rfl fun _ => rfl
    | false =>
      rw [answer_rollback_closed (r.openTransaction_of_not_isOpen opened)]
      exact r.quiet rfl (fun _ => rfl) rfl fun u => by grind [opensOrCloses]
  | commit t =>
    cases opened : isOpen h t with
    | true =>
      rw [answer_commit (r.openTransaction_of_isOpen opened)]
      cases verdict with
      | ok _ => exact r.commit opened now
      | error _ => exact r.finish rfl (fun _ => rfl) rfl fun _ => rfl
    | false =>
      rw [answer_commit_closed (r.openTransaction_of_not_isOpen opened)]
      exact r.quiet rfl (fun _ => rfl) rfl fun u => by grind [opensOrCloses]

/-- The agreement is kept by every run. -/
theorem serves {k : History} {s' : Store} (r : Records l h s) (served : Serves s k s') :
    Records l (h ++ k) s' := by
  induction served generalizing h with
  | nil s => simpa using r
  | cons now verdict _ ih => simpa using ih (r.answer now verdict _)

private theorem created_append_of_committed {k : History} {s' : Store} (r : Records l h s) (served : Serves s k s')
    {t : Nat} (ended : t ∈ committed h) : created (h ++ k) t = created h t := by
  induction served generalizing h with
  | nil s => rw [List.append_nil]
  | @cons s _ c _ now verdict _ ih =>
    have refused : s.openTransaction t = .error .transactionFinished :=
      r.openTransaction_of_not_isOpen (r.closed t ended).2
    -- A committed transaction is closed, so whatever is created in it is refused.
    have uncreated : createdBy t ⟨c, (s.answer now verdict c).1⟩ = none := by
      cases c with
      | create u row =>
        by_cases same : u = t
        · subst same
          rw [answer_create_closed row refused]
          rfl
        · have elsewhere (r : Except Error Unit) : createdBy t ⟨.create u row, r⟩ = none := by
            cases r with
            | ok _ => exact if_neg same
            | error _ => rfl
          exact elsewhere _
      | _ => rfl
    have later := ih (r.answer now verdict c) (by
      rw [committed_append]
      exact List.mem_append_left _ ended)
    rw [List.append_assoc, List.singleton_append, created_concat, uncreated] at later
    exact later.trans (List.append_nil _)

theorem saved_append {k : History} {s' : Store} (r : Records l h s) (served : Serves s k s') :
    saved (h ++ k) = saved h ++ (committed k).flatMap (created (h ++ k)) := by
  rw [saved, committed_append, List.flatMap_append]
  refine congrArg (· ++ _) (List.flatMap_congr fun t ended => ?_)
  exact r.created_append_of_committed served ended

theorem map_identity_rows (r : Records l h s) :
    s.ledger.rows.map Anomaly.identity = (l.rows ++ saved h).map Anomaly.identity := by
  obtain ⟨stored, rows, filed⟩ := r.rows
  rw [rows, List.map_append, filed.map_identity, List.map_append]

end Records

end AnomalyWatch.Store
