import AnomalyWatch.Anomaly

/-!
The committed anomalies.

Rows keep the order in which they were committed. Ids count up from the largest id in the ledger, and a row
that does not say when it was created gets the present.
-/

set_option autoImplicit false
set_option relaxedAutoImplicit false

namespace AnomalyWatch

/-- What a look-up of stored anomalies asks for: one function and collection, overlapping a stretch of
time. -/
structure Lookup where
  collection : String
  start : Instant
  stop : Instant
  functionId : Nat
  deriving DecidableEq

/-- The anomaly is one that the look-up asks for. -/
def Lookup.selects (q : Lookup) (a : Anomaly) : Bool :=
  a.collection = q.collection && a.functionId = some q.functionId && a.start < q.stop &&
    q.start < a.stop

/-- The committed rows and an id that none of theirs exceeds. -/
structure Ledger where
  rows : List Anomaly
  lastId : Nat
  bounded : ∀ a ∈ rows, ∀ id ∈ a.id, id ≤ lastId

namespace Ledger

@[ext]
protected theorem ext {l k : Ledger} (rows : l.rows = k.rows) (lastId : l.lastId = k.lastId) :
    l = k := by
  cases l
  cases k
  simp_all

def empty : Ledger := ⟨[], 0, by simp⟩

def numbered (now : Instant) (a : Anomaly) (id : Nat) : Anomaly :=
  { a with id := some id, createdAt := some (a.createdAt.getD now) }

/-- A batch with ids and creation times, not yet in the ledger. -/
def prepare (l : Ledger) (now : Instant) (batch : List Anomaly) : List Anomaly :=
  (batch.zipIdx (l.lastId + 1)).map fun e => numbered now e.1 e.2

/-- The largest id among rows, at least `least`; rows without an id do not count. -/
def greatestId (least : Nat) (rows : List Anomaly) : Nat :=
  rows.foldl (fun n a => max n (a.id.getD 0)) least

theorem greatestId_cons (least : Nat) (a : Anomaly) (rows : List Anomaly) :
    greatestId least (a :: rows) = greatestId (max least (a.id.getD 0)) rows := rfl

theorem le_greatestId (least : Nat) (rows : List Anomaly) : least ≤ greatestId least rows := by
  induction rows generalizing least with
  | nil => exact Nat.le_refl least
  | cons a rest ih => exact Nat.le_trans (Nat.le_max_left ..) (ih _)

theorem id_le_greatestId (least : Nat) {rows : List Anomaly} :
    ∀ a ∈ rows, ∀ id ∈ a.id, id ≤ greatestId least rows := by
  induction rows generalizing least with
  | nil => simp
  | cons b rest ih =>
    intro a ha id hid
    rw [greatestId_cons]
    rcases List.mem_cons.mp ha with rfl | ha
    · have named : a.id = some id := hid
      have first : id ≤ max least (a.id.getD 0) := by
        rw [named]
        exact Nat.le_max_right least id
      exact Nat.le_trans first (le_greatestId _ rest)
    · exact ih _ a ha id hid

/-- Enter rows in their order. -/
def publish (l : Ledger) (rows : List Anomaly) : Ledger where
  rows := l.rows ++ rows
  lastId := greatestId l.lastId rows
  bounded a ha id hid := by
    rcases List.mem_append.mp ha with ha | ha
    · exact Nat.le_trans (l.bounded a ha id hid) (le_greatestId ..)
    · exact id_le_greatestId l.lastId a ha id hid

theorem publish_nil (l : Ledger) : l.publish [] = l :=
  Ledger.ext (List.append_nil _) rfl

theorem publish_publish (l : Ledger) (rows more : List Anomaly) :
    (l.publish rows).publish more = l.publish (rows ++ more) :=
  Ledger.ext (List.append_assoc ..) List.foldl_append.symm

def ofRows (rows : List Anomaly) : Ledger :=
  empty.publish rows

def find (l : Ledger) (q : Lookup) : List Anomaly :=
  l.rows.filter q.selects

/-- Number a batch and enter it at once. -/
def seed (l : Ledger) (now : Instant) (batch : List Anomaly) : Ledger :=
  l.publish (l.prepare now batch)

end Ledger

end AnomalyWatch
