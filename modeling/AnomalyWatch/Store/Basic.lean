import AnomalyWatch.Error
import AnomalyWatch.Store.Ledger

/-!
The result store: a ledger and the transactions on it.

A transaction collects rows for itself. Look-ups see the ledger only. A commit numbers the rows, hands them to
the medium that keeps them and then enters them into the ledger; if the medium fails, the ledger stays as it
is. In either case the transaction is finished, and every later call on it fails.
-/

set_option autoImplicit false
set_option relaxedAutoImplicit false

namespace AnomalyWatch

/-- The rows a transaction has collected. -/
structure Transaction where
  staged : List Anomaly
  finished : Bool

/-- A ledger and its transactions, each named by its place in the list. -/
structure Store where
  ledger : Ledger
  transactions : List Transaction

namespace Store

/-- What can be asked of a store; a ticket is what `begin` answered. -/
inductive Call
  | begin
  | find (ticket : Nat) (lookup : Lookup)
  | create (ticket : Nat) (row : Anomaly)
  | commit (ticket : Nat)
  | rollback (ticket : Nat)
  /-- Give up a transaction without finishing it. -/
  | discard (ticket : Nat)

/-- What a call has as its result when it succeeds. -/
abbrev Result : Call → Type
  | .begin => Nat
  | .find _ _ => List Anomaly
  | .create _ _ | .commit _ | .rollback _ | .discard _ => Unit

/-- What a call is answered with. -/
abbrev Reply (c : Call) : Type :=
  Except Error (Result c)

/-- A store with these rows and no transaction. -/
def ofLedger (l : Ledger) : Store := ⟨l, []⟩

/-- A store without rows. -/
def empty : Store := ofLedger .empty

/-- A transaction that is not finished. -/
def openTransaction (s : Store) (ticket : Nat) : Except Error Transaction :=
  match s.transactions[ticket]? with
  | some t => if t.finished then .error .transactionFinished else .ok t
  | none => .error .transactionFinished

def replace (s : Store) (ticket : Nat) (t : Transaction) : Store :=
  { s with transactions := s.transactions.set ticket t }

/-- Finish a transaction, which forgets its rows. -/
def finish (s : Store) (ticket : Nat) : Store :=
  s.replace ticket ⟨[], true⟩

def begin (s : Store) : Nat × Store :=
  (s.transactions.length, { s with transactions := s.transactions ++ [⟨[], false⟩] })

/-- Enter rows that the medium keeps; rows it refused are dropped. -/
def settle (s : Store) (rows : List Anomaly) : Except Error Unit → Store
  | .ok () => { s with ledger := s.ledger.publish rows }
  | .error _ => s

variable {m : Type → Type} [Monad m]

def commit (now : Instant) (append : List Anomaly → m (Except Error Unit)) (s : Store)
    (ticket : Nat) : m (Except Error Unit × Store) :=
  match s.openTransaction ticket with
  | .error e => pure (.error e, s)
  | .ok t => do
    let rows := s.ledger.prepare now t.staged
    let verdict ← append rows
    return (verdict, (s.finish ticket).settle rows verdict)

def respond (now : Instant) (append : List Anomaly → m (Except Error Unit)) (s : Store) :
    (c : Call) → m (Reply c × Store)
  | .begin => pure (.ok s.begin.1, s.begin.2)
  | .find ticket lookup =>
    match s.openTransaction ticket with
    | .error e => pure (.error e, s)
    | .ok _ => pure (.ok (s.ledger.find lookup), s)
  | .create ticket row =>
    match s.openTransaction ticket with
    | .error e => pure (.error e, s)
    | .ok t => pure (.ok (), s.replace ticket { t with staged := t.staged ++ [row] })
  | .commit ticket => s.commit now append ticket
  | .rollback ticket =>
    match s.openTransaction ticket with
    | .error e => pure (.error e, s)
    | .ok _ => pure (.ok (), s.finish ticket)
  | .discard ticket => pure (.ok (), s.finish ticket)

end Store

end AnomalyWatch
