import AnomalyWatch.Proofs.Json.Number
import AnomalyWatch.Proofs.Store.JournalFile
import AnomalyWatch.Proofs.Store.Medium

/-!
A store, the file of its journal, and what the file opens to.

The file is one step ahead of the ledger: a commit appends its rows, and the ledger enters them once they are
kept. As long as a medium that refuses rows leaves the file alone, the file holds the rows of the ledger as
they were numbered, and it opens to them up to what scores and weights are read as.
-/

set_option autoImplicit false
set_option relaxedAutoImplicit false

namespace AnomalyWatch

namespace Anomaly

def Restored (a b : Anomaly) : Prop :=
  b = { a with score := b.score, weight := b.weight }

theorem Rereads.restored {a b : Anomaly} (reads : a.Rereads b) : a.Restored b := by
  rw [Rereads, ofJson?_toJson (storable_of_ofJson? reads)] at reads
  obtain ⟨score, -, reads⟩ := Option.bind_eq_some_iff.mp reads
  obtain ⟨weight, -, rfl⟩ := Option.map_eq_some_iff.mp reads
  rfl

theorem Rereads.isFinite {a b : Anomaly} (reads : a.Rereads b) : a.score.isFinite := by
  by_contra endless
  rw [Rereads, ofJson?_toJson (storable_of_ofJson? reads), Json.float?_ofFloat_of_not_finite endless] at reads
  cases reads

theorem restored_self (a : Anomaly) : a.Restored a := rfl

private theorem Restored.shared {a b c : Anomaly} (left : a.Restored b) (right : a.Restored c) : b.Restored c := by
  rw [Restored, right, left]

/-- Numbers and function ids that a document has literals for. -/
structure Writable (a : Anomaly) : Prop where
  score : a.score.isFinite
  weight : a.weight.isFinite
  functionId : ∀ id ∈ a.functionId, id ≤ Text.maxWord

theorem exists_rereads_numbered {a : Anomaly} (writable : a.Writable) (now : Instant) {id : Nat}
    (fits : id ≤ Text.maxWord) : ∃ b, (Ledger.numbered now a id).Rereads b := by
  have storable : (Ledger.numbered now a id).Storable :=
    ⟨fun n named => Option.some.inj named ▸ fits, writable.functionId⟩
  obtain ⟨s, scored⟩ := Json.exists_float?_ofFloat writable.score
  obtain ⟨w, weighed⟩ := Json.exists_float?_ofFloat writable.weight
  refine ⟨{ Ledger.numbered now a id with score := s, weight := w }, ?_⟩
  rw [Rereads, ofJson?_toJson storable]
  exact (congrArg₂ (fun x y => x.bind fun score => y.map fun weight =>
    { Ledger.numbered now a id with score, weight }) scored weighed)

end Anomaly

namespace Journal

open FileTree (namesOf)

variable {path : String} {tree tree' : FileTree} {written : List Anomaly} {l : Ledger}

theorem openAt_of_readable (held : Held path tree (bytes written))
    (readable : ∀ row ∈ written, ∃ b, row.Rereads b) :
    ∃ reread tree', openAt path tree = (.ok (.ofRows reread), tree') ∧
      List.Forall₂ Anomaly.Rereads written reread := by
  rcases reread_or_unreadable written with ⟨reread, all⟩ | ⟨row, stored, unreadable⟩
  · obtain ⟨tree', reopened, -⟩ := openAt_of_held held
    rw [replay_bytes_eq_ok.mpr ⟨reread, all, rfl⟩] at reopened
    exact ⟨reread, tree', reopened, all⟩
  · obtain ⟨b, reads⟩ := readable row stored
    rw [Anomaly.Rereads, unreadable] at reads
    cases reads

theorem reread_of_openAt (opened : openAt path tree = (.ok l, tree')) (held : Held path tree' (bytes written)) :
    ∃ reread, List.Forall₂ Anomaly.Rereads written reread ∧ l = .ofRows reread := by
  obtain ⟨content, found, replayed⟩ := held_of_openAt opened
  rw [found.unique held] at replayed
  exact replay_bytes_eq_ok.mp replayed

theorem exists_rereads_of_mem {reread : List Anomaly} (all : List.Forall₂ Anomaly.Rereads written reread) :
    ∀ row ∈ written, ∃ b, row.Rereads b := by
  induction all with
  | nil => simp
  | cons first _ ih => exact List.forall_mem_cons.mpr ⟨⟨_, first⟩, ih⟩

def Opens (path : String) (tree : FileTree) : Prop :=
  ∃ l tree', openAt path tree = (.ok l, tree')

theorem opens_iff_of_held (held : Held path tree (bytes written)) :
    Opens path tree ↔ ∀ row ∈ written, ∃ b, row.Rereads b := by
  constructor
  · rintro ⟨l, tree', opened⟩
    obtain ⟨tree'', again, -⟩ := openAt_of_held held
    have replayed : replay path (bytes written) = .ok l := (Prod.mk.inj (again.symm.trans opened)).1
    obtain ⟨reread, all, -⟩ := replay_bytes_eq_ok.mp replayed
    exact exists_rereads_of_mem all
  · intro readable
    obtain ⟨reread, tree', opened, -⟩ := openAt_of_readable held readable
    exact ⟨_, tree', opened⟩

def Shows (path : String) (tree : FileTree) (l : Ledger) : Prop :=
  ∃ reopened tree', openAt path tree = (.ok reopened, tree') ∧
    List.Forall₂ Anomaly.Restored l.rows reopened.rows

theorem shows_of_readable (held : Held path tree (bytes written))
    (readable : ∀ row ∈ written, ∃ b, row.Rereads b)
    (same : List.Forall₂ Anomaly.Restored written l.rows) : Shows path tree l := by
  obtain ⟨reread, tree', opened, all⟩ := openAt_of_readable held readable
  refine ⟨_, tree', opened, ?_⟩
  have shared : List.Forall₂ Anomaly.Restored l.rows reread := by
    clear readable held opened
    generalize l.rows = rows at same
    induction all generalizing rows with
    | nil =>
      cases same
      exact .nil
    | cons read _ ih =>
      cases same with
      | cons first rest => exact .cons (first.shared read.restored) (ih _ rest)
  exact shared

/-- A medium appends all bytes of the rows it takes, and of the rows it refuses any that come first. -/
def Faulty (path : String) (append : List Anomaly → StateM FileTree (Except Error Unit)) : Prop :=
  ∀ rows tree content, Held path tree content →
    match append rows tree with
    | (.ok (), tree') => Held path tree' (content ++ bytes rows)
    | (.error _, tree') => ∃ left rest, left ++ rest = bytes rows ∧ Held path tree' (content ++ left)

/-- A medium that keeps its files in an environment and leaves nothing of the rows it refuses. -/
def TidyIn {σ : Type} (files : σ → FileTree) (path : String)
    (append : List Anomaly → StateM σ (Except Error Unit)) : Prop :=
  ∀ rows env content, Held path (files env) content →
    match append rows env with
    | (.ok (), env') => Held path (files env') (content ++ bytes rows)
    | (.error _, env') => Held path (files env') content

abbrev Tidy : String → (List Anomaly → StateM FileTree (Except Error Unit)) → Prop :=
  TidyIn id

theorem tidy_appendAt (path : String) : Tidy path (appendAt path) := by
  intro rows tree content (held : Held path tree content)
  obtain ⟨tree', appended, kept⟩ := appendAt_of_held held rows
  rw [appended]
  exact kept

end Journal

namespace Store

open Journal (Held Tidy TidyIn bytes)

variable {path : String} {s s' : Store} {tree tree' : FileTree} {l : Ledger} {h : History}

/-- The file takes the rows that the ledger takes, and no others. -/
theorem held_of_respond {σ : Type} {files : σ → FileTree}
    {append : List Anomaly → StateM σ (Except Error Unit)} {now : Instant} {c : Call} {reply : Reply c}
    {env env' : σ} {written : List Anomaly} (tidy : TidyIn files path append)
    (held : Held path (files env) (bytes written))
    (answered : s.respond now append c env = ((reply, s'), env')) :
    ∃ more, Held path (files env') (bytes (written ++ more)) ∧ s'.ledger = s.ledger.publish more := by
  rcases respond_cases answered with ⟨rfl, same⟩ | ⟨ticket, t, verdict, -, -, appended, rfl⟩
  · exact ⟨[], by rwa [List.append_nil], by rw [same, Ledger.publish_nil]⟩
  · have kept := tidy (s.ledger.prepare now t.staged) env (bytes written) held
    rw [appended] at kept
    cases verdict with
    | ok _ => exact ⟨s.ledger.prepare now t.staged, by rwa [Journal.bytes_append], rfl⟩
    | error _ => exact ⟨[], by rwa [List.append_nil], (Ledger.publish_nil s.ledger).symm⟩

theorem Works.held {w w' : Store × FileTree} (works : Works (Tidy path) w h w') (written : List Anomaly)
    (held : Held path w.2 (bytes written)) :
    ∃ more, Held path w'.2 (bytes (written ++ more)) ∧ w'.1.ledger = w.1.ledger.publish more := by
  induction works generalizing written with
  | nil w => exact ⟨[], by rwa [List.append_nil], (Ledger.publish_nil _).symm⟩
  | cons now allowed answered _ ih =>
    obtain ⟨first, held, published⟩ := held_of_respond allowed held answered
    obtain ⟨later, held, more⟩ := ih _ held
    refine ⟨first ++ later, by rwa [← List.append_assoc], ?_⟩
    rw [more, published, Ledger.publish_publish]

theorem respond_commit_of_held {ticket : Nat} {t : Transaction} {written : List Anomaly} (now : Instant)
    (held : Held path tree (bytes written)) (taken : s.openTransaction ticket = .ok t) :
    ∃ tree', s.respond now (m := StateM FileTree) (Journal.appendAt path) (.commit ticket) tree =
        ((.ok (), (s.finish ticket).settle (s.ledger.prepare now t.staged) (.ok ())), tree') ∧
      Held path tree' (bytes (written ++ s.ledger.prepare now t.staged)) := by
  obtain ⟨tree', appended, kept⟩ := Journal.appendAt_of_held held (s.ledger.prepare now t.staged)
  refine ⟨tree', ?_, by rwa [Journal.bytes_append]⟩
  simp only [respond, commit, taken, bind, StateT.bind, appended]
  rfl

theorem Filed.exists_of_mem {first : Nat} {batch rows : List Anomaly} (filed : Filed first batch rows)
    {row : Anomaly} (stored : row ∈ rows) : ∃ a ∈ batch, ∃ now id, row = Ledger.numbered now a id := by
  obtain ⟨i, place, rfl⟩ := List.getElem_of_mem stored
  have numbered := List.Forall₂.get filed (by rw [filed.length_eq]; exact place) place
  obtain ⟨now, same⟩ := numbered
  refine ⟨_, ?_, now, _, same⟩
  simp

theorem Records.readable {more : List Anomaly} (records : Records l h s)
    (published : s.ledger = l.publish more) (writable : ∀ t, ∀ row ∈ created h t, row.Writable)
    (room : s.ledger.lastId ≤ Text.maxWord) : ∀ row ∈ more, ∃ b, row.Rereads b := by
  obtain ⟨stored, rows, filed⟩ := records.rows
  have entered : s.ledger.rows = l.rows ++ more := by rw [published]; rfl
  obtain rfl : more = stored := List.append_cancel_left (entered.symm.trans rows)
  intro row present
  obtain ⟨a, saved, now, id, rfl⟩ := filed.exists_of_mem present
  obtain ⟨t, -, made⟩ := List.mem_flatMap.mp saved
  have inside : Ledger.numbered now a id ∈ s.ledger.rows := by
    rw [entered]
    exact List.mem_append_right _ present
  have bounded : id ≤ s.ledger.lastId := s.ledger.bounded _ inside id rfl
  exact Anomaly.exists_rereads_numbered (writable t a made) now (bounded.trans room)

end Store

end AnomalyWatch
