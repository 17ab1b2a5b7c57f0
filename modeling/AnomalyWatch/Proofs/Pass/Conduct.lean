import AnomalyWatch.Pass.Job
import AnomalyWatch.Proofs.Dialogue.Trail
import AnomalyWatch.Proofs.Store.History

/-!
What a pass asks, whatever it is told.

A pass first reads what is known (`Reading`), then explores without a word to the store, and then writes what
is new (`Writing`). Each stage is described by the calls it makes and the replies that lead on, so that a
course of a pass is a `Reading`, a course of the exploration and a `Writing`, one after the other.
-/

set_option autoImplicit false
set_option relaxedAutoImplicit false

namespace AnomalyWatch

namespace Pass

open Dialogue (Course course_pure course_call_bind course_bind)

abbrev Log : Type := List ((c : Call) × Reply c)

def storeCall? : ((c : Call) × Reply c) → Option ((c : Store.Call) × Store.Reply c)
  | ⟨.store c, r⟩ => some ⟨c, r⟩
  | _ => none

def history (log : Log) : Store.History := log.filterMap storeCall?

def queryReply? : ((c : Call) × Reply c) → Option (Except Error SeriesMap)
  | ⟨.query _, r⟩ => some r
  | _ => none

def replies (log : Log) : List (Except Error SeriesMap) := log.filterMap queryReply?

def ofHistory (h : Store.History) : Log := h.map fun e => ⟨.store e.1, e.2⟩

theorem mem_history {log : Log} {c : Store.Call} {r : Store.Reply c} :
    (⟨c, r⟩ : (c : Store.Call) × Store.Reply c) ∈ history log ↔
      (⟨.store c, r⟩ : (c : Call) × Reply c) ∈ log := by
  refine List.mem_filterMap.trans ⟨?_, fun called => ⟨_, called, rfl⟩⟩
  rintro ⟨e, called, asks⟩
  unfold storeCall? at asks
  split at asks
  · cases asks
    exact called
  · cases asks

@[simp]
theorem history_append (log rest : Log) : history (log ++ rest) = history log ++ history rest :=
  List.filterMap_append

@[simp]
theorem replies_append (log rest : Log) : replies (log ++ rest) = replies log ++ replies rest :=
  List.filterMap_append

@[simp]
theorem history_ofHistory (h : Store.History) : history (ofHistory h) = h := by
  simp [history, ofHistory, List.filterMap_map, Function.comp_def, storeCall?]

@[simp]
theorem replies_ofHistory (h : Store.History) : replies (ofHistory h) = [] := by
  simp [replies, ofHistory, List.filterMap_map, Function.comp_def, queryReply?]

@[simp]
theorem ofHistory_append (h k : Store.History) : ofHistory (h ++ k) = ofHistory h ++ ofHistory k :=
  List.map_append

/-- A look-up in a transaction of its own. -/
inductive Reading (q : Lookup) : Store.History → Except Error (List Anomaly) → Prop
  | unbegun (e : Error) : Reading q [⟨.begin, .error e⟩] (.error e.asStoreFailure)
  | unread (t : Nat) (e : Error) (r : Except Error Unit) :
      Reading q [⟨.begin, .ok t⟩, ⟨.find t q, .error e⟩, ⟨.rollback t, r⟩] (.error e.asStoreFailure)
  | uncommitted (t : Nat) (known : List Anomaly) (e : Error) :
      Reading q [⟨.begin, .ok t⟩, ⟨.find t q, .ok known⟩, ⟨.commit t, .error e⟩]
        (.error e.asStoreFailure)
  | read (t : Nat) (known : List Anomaly) :
      Reading q [⟨.begin, .ok t⟩, ⟨.find t q, .ok known⟩, ⟨.commit t, .ok ()⟩] (.ok known)

/-- Rows created in turn up to the first failure. -/
inductive Creating (t : Nat) : List Anomaly → Store.History → Except Error Unit → Prop
  | nil : Creating t [] [] (.ok ())
  | refused (a : Anomaly) (rest : List Anomaly) (e : Error) :
      Creating t (a :: rest) [⟨.create t a, .error e⟩] (.error e)
  | cons {rest : List Anomaly} {h : Store.History} {r : Except Error Unit} (a : Anomaly)
      (go : Creating t rest h r) : Creating t (a :: rest) (⟨.create t a, .ok ()⟩ :: h) r

/-- Results written in one transaction; without results there is none. -/
inductive Writing : List Anomaly → Store.History → Except Error Nat → Prop
  | nothing : Writing [] [] (.ok 0)
  | unbegun {results : List Anomaly} (some_result : results ≠ []) (e : Error) :
      Writing results [⟨.begin, .error e⟩] (.error e.asStoreFailure)
  | uncreated {results : List Anomaly} (some_result : results ≠ []) {t : Nat} {h : Store.History}
      {e : Error} (r : Except Error Unit) (creating : Creating t results h (.error e)) :
      Writing results (⟨.begin, .ok t⟩ :: h ++ [⟨.rollback t, r⟩]) (.error e.asStoreFailure)
  | uncommitted {results : List Anomaly} (some_result : results ≠ []) {t : Nat} {h : Store.History}
      (e : Error) (creating : Creating t results h (.ok ())) :
      Writing results (⟨.begin, .ok t⟩ :: h ++ [⟨.commit t, .error e⟩]) (.error e.asStoreFailure)
  | written {results : List Anomaly} (some_result : results ≠ []) {t : Nat} {h : Store.History}
      (creating : Creating t results h (.ok ())) :
      Writing results (⟨.begin, .ok t⟩ :: h ++ [⟨.commit t, .ok ()⟩]) (.ok results.length)

theorem Creating.uncommitted {t : Nat} {rows : List Anomaly} {h : Store.History} {r : Except Error Unit}
    (creating : Creating t rows h r) : Store.committed h = [] := by
  induction creating with
  | nil => rfl
  | refused a rest e => rfl
  | cons a go ih => exact ih

theorem Writing.uncommitted_of_error {results : List Anomaly} {h : Store.History} {e : Error}
    (writing : Writing results h (.error e)) : Store.committed h = [] := by
  cases writing with
  | unbegun _ e => rfl
  | uncreated _ r creating =>
    rw [List.cons_append, Store.committed_cons_eq_nil, Store.committed_concat, creating.uncommitted]
    exact ⟨rfl, rfl⟩
  | uncommitted _ e creating =>
    rw [List.cons_append, Store.committed_cons_eq_nil, Store.committed_concat, creating.uncommitted]
    exact ⟨rfl, rfl⟩

theorem Reading.uncommitted_of_error {q : Lookup} {h : Store.History} {e : Error}
    (reading : Reading q h (.error e)) : Store.committed h = [] := by
  cases reading <;> rfl

theorem Reading.created {q : Lookup} {h : Store.History} {r : Except Error (List Anomaly)}
    (reading : Reading q h r) (t : Nat) : Store.created h t = [] := by
  cases reading <;> rfl

theorem Reading.find_mem {q : Lookup} {h : Store.History} {known : List Anomaly}
    (reading : Reading q h (.ok known)) :
    ∃ t, (⟨.find t q, .ok known⟩ : (c : Store.Call) × Store.Reply c) ∈ h := by
  cases reading with
  | read t _ => exact ⟨t, by simp⟩

theorem Creating.created {t : Nat} {rows : List Anomaly} {h : Store.History}
    (creating : Creating t rows h (.ok ())) : Store.created h t = rows := by
  induction rows generalizing h with
  | nil =>
    cases creating
    rfl
  | cons a rest ih =>
    cases creating with
    | cons _ go =>
      have first : Store.createdBy t ⟨.create t a, .ok ()⟩ = some a := if_pos rfl
      rw [Store.created, List.filterMap_cons_some first]
      exact congrArg (List.cons a) (ih go)

theorem Writing.created_of_commit {results : List Anomaly} {h k rest : Store.History}
    {r : Except Error Nat} {ticket : Nat} (writing : Writing results h r)
    (split : h = k ++ ⟨.commit ticket, .ok ()⟩ :: rest) : Store.created k ticket = results := by
  have commits : ticket ∈ Store.committed h := Store.mem_committed.mpr (by simp [split])
  cases r with
  | error e => simp [writing.uncommitted_of_error] at commits
  | ok n =>
    cases writing with
    | nothing => simp at split
    | @written _ _ t creates creating =>
      have idle : (⟨.commit ticket, .ok ()⟩ : (c : Store.Call) × Store.Reply c) ∉
          ⟨.begin, .ok t⟩ :: creates := by
        rw [← Store.mem_committed, Store.committed_cons_eq_nil.mpr ⟨rfl, creating.uncommitted⟩]
        exact List.not_mem_nil
      obtain ⟨rfl, last, _⟩ := (List.append_cons_inj_of_notMem idle List.not_mem_nil).mp split
      cases last
      exact creating.created

/-- Every call on a ticket comes after the call that was answered with it; some tickets may be there
before. -/
def Names (own : List Nat) : Store.History → Prop
  | [] => True
  | e :: rest => (∀ ticket, e.1.ticket? = some ticket → ticket ∈ own) ∧
      Names (own ++ (Store.begunBy e).toList) rest

theorem names_append {own : List Nat} {h k : Store.History} :
    Names own (h ++ k) ↔ Names own h ∧ Names (own ++ Store.begun h) k := by
  induction h generalizing own with
  | nil => simp [Names, Store.begun]
  | cons e rest ih =>
    rw [List.cons_append, Names, Names, ih, Store.begun_cons, List.append_assoc, and_assoc]

theorem Names.mono {own own' : List Nat} {h : Store.History} (names : Names own h) (more : own ⊆ own') :
    Names own' h := by
  induction h generalizing own own' with
  | nil => trivial
  | cons e rest ih =>
    exact ⟨fun ticket named => more (names.1 ticket named),
      ih names.2 (List.append_subset.mpr
        ⟨List.Subset.trans more (List.subset_append_left _ _), List.subset_append_right _ _⟩)⟩

theorem Reading.names {q : Lookup} {h : Store.History} {r : Except Error (List Anomaly)}
    (reading : Reading q h r) : Names [] h := by
  cases reading <;> simp [Names, Store.Call.ticket?, Store.begunBy]

theorem Creating.names {t : Nat} {rows : List Anomaly} {h : Store.History} {r : Except Error Unit}
    (creating : Creating t rows h r) {own : List Nat} (mine : t ∈ own) : Names own h := by
  induction creating generalizing own with
  | nil => trivial
  | refused a rest e => simpa [Names, Store.Call.ticket?] using mine
  | cons a go ih =>
    refine ⟨fun ticket named => ?_, ih (List.mem_append_left _ mine)⟩
    obtain rfl : t = ticket := Option.some.inj named
    exact mine

private theorem Creating.names_transaction {t : Nat} {rows : List Anomaly} {h : Store.History}
    {r : Except Error Unit} (creating : Creating t rows h r) {last : (c : Store.Call) × Store.Reply c}
    (closes : last.1.ticket? = some t) : Names [] (⟨.begin, .ok t⟩ :: h ++ [last]) := by
  refine ⟨(fun ticket named => by cases named), names_append.mpr ⟨?_, ?_, trivial⟩⟩
  · exact creating.names (List.mem_singleton_self t)
  · intro ticket named
    obtain rfl : t = ticket := Option.some.inj (closes.symm.trans named)
    exact List.mem_append_left _ (List.mem_singleton_self t)

theorem Writing.names {results : List Anomaly} {h : Store.History} {r : Except Error Nat}
    (writing : Writing results h r) : Names [] h := by
  cases writing with
  | nothing => trivial
  | unbegun _ e => exact ⟨(fun ticket named => by cases named), trivial⟩
  | uncreated _ r creating => exact creating.names_transaction rfl
  | uncommitted _ e creating => exact creating.names_transaction rfl
  | written _ creating => exact creating.names_transaction rfl

private theorem course_abandon {α : Type} {t : Nat} {e : Error} {log : Log} {r : Except Error α} :
    Course (abandon t e) log r ↔
      ∃ reply, log = ofHistory [⟨.rollback t, reply⟩] ∧ r = .error e.asStoreFailure := by
  unfold abandon ask
  rw [course_call_bind]
  constructor
  · rintro ⟨reply, rest, rfl, go⟩
    obtain ⟨rfl, rfl⟩ := course_pure.mp go
    exact ⟨reply, rfl, rfl⟩
  · rintro ⟨reply, rfl, rfl⟩
    exact ⟨reply, [], rfl, course_pure.mpr ⟨rfl, rfl⟩⟩

private theorem course_readKnown {q : Lookup} {log : Log} {r : Except Error (List Anomaly)} :
    Course (readKnown q) log r ↔ ∃ h, log = ofHistory h ∧ Reading q h r := by
  constructor
  · intro course
    replace course := course_call_bind.mp course
    obtain ⟨begun, rest, rfl, course⟩ := course
    cases begun with
    | error e =>
      obtain ⟨rfl, rfl⟩ := course_pure.mp course
      exact ⟨_, rfl, .unbegun e⟩
    | ok t =>
      replace course := course_call_bind.mp course
      obtain ⟨found, rest, rfl, course⟩ := course
      cases found with
      | error e =>
        obtain ⟨reply, rfl, rfl⟩ := course_abandon.mp course
        exact ⟨_, rfl, .unread t e reply⟩
      | ok known =>
        replace course := course_call_bind.mp course
        obtain ⟨committed, rest, rfl, course⟩ := course
        cases committed with
        | error e =>
          obtain ⟨rfl, rfl⟩ := course_pure.mp course
          exact ⟨_, rfl, .uncommitted t known e⟩
        | ok _ =>
          obtain ⟨rfl, rfl⟩ := course_pure.mp course
          exact ⟨_, rfl, .read t known⟩
  · rintro ⟨_, rfl, reading⟩
    cases reading with
    | unbegun e => exact .ask (.done _)
    | unread t e r => exact .ask (.ask (.ask (.done _)))
    | uncommitted t known e => exact .ask (.ask (.ask (.done _)))
    | read t known => exact .ask (.ask (.ask (.done _)))

private theorem course_createAll {t : Nat} {rows : List Anomaly} {log : Log} {r : Except Error Unit} :
    Course (createAll t rows) log r ↔ ∃ h, log = ofHistory h ∧ Creating t rows h r := by
  induction rows generalizing log with
  | nil =>
    refine course_pure.trans ⟨?_, ?_⟩
    · rintro ⟨rfl, rfl⟩
      exact ⟨[], rfl, .nil⟩
    · rintro ⟨_, rfl, ⟨⟩⟩
      exact ⟨rfl, rfl⟩
  | cons a rest ih =>
    constructor
    · intro course
      replace course := course_call_bind.mp course
      obtain ⟨reply, tail, rfl, course⟩ := course
      cases reply with
      | error e =>
        obtain ⟨rfl, rfl⟩ := course_pure.mp course
        exact ⟨_, rfl, .refused a rest e⟩
      | ok _ =>
        obtain ⟨h, rfl, creating⟩ := ih.mp course
        exact ⟨_, rfl, .cons a creating⟩
    · rintro ⟨_, rfl, creating⟩
      cases creating with
      | refused _ _ e => exact .ask (.done _)
      | cons _ go => exact .ask (ih.mpr ⟨_, rfl, go⟩)

private theorem course_persist {results : List Anomaly} {log : Log} {r : Except Error Nat} :
    Course (persist results) log r ↔ ∃ h, log = ofHistory h ∧ Writing results h r := by
  by_cases nothing : results = []
  · subst nothing
    refine course_pure.trans ⟨?_, ?_⟩
    · rintro ⟨rfl, rfl⟩
      exact ⟨[], rfl, .nothing⟩
    · rintro ⟨_, rfl, writing⟩
      cases writing <;> first | exact ⟨rfl, rfl⟩ | contradiction
  · rw [persist, if_neg (by simpa using nothing)]
    constructor
    · intro course
      replace course := course_call_bind.mp course
      obtain ⟨begun, rest, rfl, course⟩ := course
      cases begun with
      | error e =>
        obtain ⟨rfl, rfl⟩ := course_pure.mp course
        exact ⟨_, rfl, .unbegun nothing e⟩
      | ok t =>
        replace course := course_bind.mp course
        obtain ⟨_, created, rest, rfl, first, course⟩ := course
        obtain ⟨h, rfl, creating⟩ := course_createAll.mp first
        cases created with
        | error e =>
          obtain ⟨reply, rfl, rfl⟩ := course_abandon.mp course
          exact ⟨_, by simp [ofHistory], .uncreated nothing reply creating⟩
        | ok _ =>
          replace course := course_call_bind.mp course
          obtain ⟨committed, rest, rfl, course⟩ := course
          cases committed with
          | error e =>
            obtain ⟨rfl, rfl⟩ := course_pure.mp course
            exact ⟨_, by simp [ofHistory], .uncommitted nothing e creating⟩
          | ok _ =>
            obtain ⟨rfl, rfl⟩ := course_pure.mp course
            exact ⟨_, by simp [ofHistory], .written nothing creating⟩
    · rintro ⟨_, rfl, writing⟩
      cases writing with
      | nothing => exact absurd rfl nothing
      | unbegun _ e => exact .ask (.done _)
      | uncreated _ r creating =>
        refine course_call_bind.mpr ⟨.ok _, _, rfl, course_bind.mpr
          ⟨_, _, _, ofHistory_append .., course_createAll.mpr ⟨_, rfl, creating⟩, ?_⟩⟩
        exact course_abandon.mpr ⟨r, rfl, rfl⟩
      | uncommitted _ e creating =>
        refine course_call_bind.mpr ⟨.ok _, _, rfl, course_bind.mpr
          ⟨_, _, _, ofHistory_append .., course_createAll.mpr ⟨_, rfl, creating⟩, ?_⟩⟩
        exact .ask (.done _)
      | written _ creating =>
        refine course_call_bind.mpr ⟨.ok _, _, rfl, course_bind.mpr
          ⟨_, _, _, ofHistory_append .., course_createAll.mpr ⟨_, rfl, creating⟩, ?_⟩⟩
        exact .ask (.done _)

theorem course_visitKeys {x : Exploration} {job : String} {o o' : Outcome}
    {entries : List (DimensionKey × Series)} {log : Log}
    (course : Course (visitKeys x job o entries) log o') :
    history log = [] ∧ replies log = [] ∧
      o' = (entries.map fun e => x.examine e.1 e.2).foldl x.record o := by
  induction entries generalizing log o with
  | nil =>
    obtain ⟨rfl, rfl⟩ := course_pure.mp course
    exact ⟨rfl, rfl, rfl⟩
  | cons e rest ih =>
    replace course := course_call_bind.mp course
    obtain ⟨_, tail, rfl, course⟩ := course
    obtain ⟨stores, queries, rfl⟩ := ih course
    exact ⟨stores, queries, rfl⟩

theorem course_process {x : Exploration} {job : String} {o o' : Outcome} {request : Request} {log : Log}
    (course : Course (process x job o request) log o') :
    history log = [] ∧ ∃ reply, replies log = [reply] ∧ o' = x.absorb o reply := by
  replace course := course_call_bind.mp course
  obtain ⟨reply, rest, rfl, course⟩ := course
  cases reply with
  | error e =>
    obtain ⟨rfl, rfl⟩ := course_pure.mp course
    exact ⟨rfl, _, rfl, rfl⟩
  | ok entries =>
    obtain ⟨stores, queries, rfl⟩ := course_visitKeys course
    exact ⟨stores, .ok entries, congrArg (List.cons _) queries, rfl⟩

/-- An exploration asks nothing of the store, and its outcome is that of the replies in their order. -/
theorem course_explore {x : Exploration} {job : String} {o o' : Outcome} {requests : List Request}
    {log : Log} (course : Course (explore x job o requests) log o') :
    history log = [] ∧ o' = (replies log).foldl x.absorb o := by
  induction requests generalizing log o with
  | nil =>
    obtain ⟨rfl, rfl⟩ := course_pure.mp course
    exact ⟨rfl, rfl⟩
  | cons request rest ih =>
    obtain ⟨first, o₁, tail, rfl, processed, explored⟩ := course_bind.mp course
    obtain ⟨stores, reply, queries, rfl⟩ := course_process processed
    obtain ⟨later, rfl⟩ := ih explored
    exact ⟨by simp [stores, later], by simp [queries]⟩

private theorem visitKeys_congr {x x' : Exploration} (examine : x.examine = x'.examine) (record : x.record = x'.record)
    (job : String) (o : Outcome) (entries : List (DimensionKey × Series)) :
    visitKeys x job o entries = visitKeys x' job o entries := by
  induction entries generalizing o with
  | nil => rfl
  | cons e rest ih =>
    have first : x.examine e.1 e.2 = x'.examine e.1 e.2 := by rw [examine]
    rw [visitKeys, visitKeys, first, record]
    exact congrArg (Dialogue.ask _) (funext fun _ => ih _)

theorem explore_congr {x x' : Exploration} (examine : x.examine = x'.examine) (record : x.record = x'.record)
    (job : String) (o : Outcome) (requests : List Request) :
    explore x job o requests = explore x' job o requests := by
  have visits (o : Outcome) (entries : List (DimensionKey × Series)) :
      visitKeys x job o entries = visitKeys x' job o entries :=
    visitKeys_congr examine record job o entries
  induction requests generalizing o with
  | nil => rfl
  | cons request rest ih => simp only [explore, process, visits, ih]

end Pass

namespace Job

open Dialogue (Course course_pure course_call_bind course_bind)

theorem bucketSize_ne_zero_of_prepare {j : Job} {now : Instant} {window : Window} {aggregation : String}
    (prepared : j.prepare now = .ok (window, aggregation)) : j.detector.spec.bucketSize ≠ 0 := by
  intro zero
  have refused : j.detector.spec.aggregation = .error (.zeroBucket j.detector.spec.id) := by
    simp [Spec.aggregation, zero]
  unfold prepare at prepared
  cases resolved : Window.resolve j.detector.spec now j.bounds with
  | error e => simp [resolved, bind, Except.bind] at prepared
  | ok w =>
    cases valid : w.validate with
    | error e => simp [resolved, valid, bind, Except.bind] at prepared
    | ok _ => simp [resolved, valid, refused, bind, Except.bind] at prepared

def lookup (j : Job) (window : Window) : Lookup :=
  ⟨j.detector.spec.collection, window.start, window.stop, j.detector.spec.id⟩

/-- The report of a pass that wrote so many anomalies. -/
def summary (j : Job) (window : Window) (aggregation : String) (known : List Anomaly) (o : Outcome)
    (persisted : Nat) : Summary :=
  ⟨j.name, j.detector.spec.id, window, (Request.plan j.detector.spec aggregation window).length,
    known.length, persisted, o.tally⟩

structure Stages (j : Job) (window : Window) (aggregation : String) (log : Pass.Log)
    (outcome : Except Error Summary) where
  reading : Store.History
  known : List Anomaly
  exploring : Pass.Log
  found : Outcome
  writing : Store.History
  written : Except Error Nat
  read : Pass.Reading (j.lookup window) reading (.ok known)
  explored : Course (Pass.explore ⟨j.detector, window, known⟩ j.name Outcome.initial
    (Request.plan j.detector.spec aggregation window)) exploring found
  wrote : Pass.Writing found.results writing written
  log_eq : log = Pass.ofHistory reading ++ ⟨.timer j.name, ()⟩ :: exploring ++ Pass.ofHistory writing
  outcome_eq : outcome = written.map (j.summary window aggregation known found)

section Stages

variable {j : Job} {window : Window} {aggregation : String} {log : Pass.Log}
  {outcome : Except Error Summary}

theorem Stages.history_ahead (stages : Stages j window aggregation log outcome) :
    Pass.history (Pass.ofHistory stages.reading ++ ⟨.timer j.name, ()⟩ :: stages.exploring) =
      stages.reading := by
  obtain ⟨silent, _⟩ := Pass.course_explore stages.explored
  have between : Pass.history (⟨.timer j.name, ()⟩ :: stages.exploring) = [] := silent
  rw [Pass.history_append, Pass.history_ofHistory, between, List.append_nil]

theorem Stages.replies_ahead (stages : Stages j window aggregation log outcome) :
    Pass.replies (Pass.ofHistory stages.reading ++ ⟨.timer j.name, ()⟩ :: stages.exploring) =
      Pass.replies stages.exploring := by
  rw [Pass.replies_append, Pass.replies_ofHistory, List.nil_append]
  rfl

theorem Stages.history_eq (stages : Stages j window aggregation log outcome) :
    Pass.history log = stages.reading ++ stages.writing := by
  refine (congrArg Pass.history stages.log_eq).trans ?_
  rw [Pass.history_append, stages.history_ahead, Pass.history_ofHistory]

theorem Stages.found_eq (stages : Stages j window aggregation log outcome) :
    stages.found = Exploration.outcome ⟨j.detector, window, stages.known⟩ (Pass.replies log) := by
  obtain ⟨_, found⟩ := Pass.course_explore stages.explored
  have told : Pass.replies log = Pass.replies stages.exploring := by
    refine (congrArg Pass.replies stages.log_eq).trans ?_
    rw [Pass.replies_append, stages.replies_ahead, Pass.replies_ofHistory, List.append_nil]
  rw [told]
  exact found

end Stages

/-- A pass that may begin either fails to read what is known or goes through its three stages. -/
theorem course_passOver {j : Job} {window : Window} {aggregation : String} {log : Pass.Log}
    {outcome : Except Error Summary} :
    Course (j.passOver window aggregation) log outcome ↔
      (∃ h e, log = Pass.ofHistory h ∧ Pass.Reading (j.lookup window) h (.error e) ∧
        outcome = .error e) ∨
      Nonempty (Stages j window aggregation log outcome) := by
  constructor
  · intro course
    replace course := course_bind.mp course
    obtain ⟨_, read, rest, rfl, first, course⟩ := course
    obtain ⟨h, rfl, reading⟩ := Pass.course_readKnown.mp first
    cases read with
    | error e =>
      obtain ⟨rfl, rfl⟩ := course_pure.mp course
      exact .inl ⟨h, e, List.append_nil _, reading, rfl⟩
    | ok known =>
      replace course := course_call_bind.mp course
      obtain ⟨_, _, rfl, course⟩ := course
      replace course := course_bind.mp course
      obtain ⟨exploring, o, _, rfl, explored, course⟩ := course
      replace course := course_bind.mp course
      obtain ⟨_, written, _, rfl, last, course⟩ := course
      obtain ⟨k, rfl, writing⟩ := Pass.course_persist.mp last
      refine .inr ⟨h, known, exploring, o, k, written, reading, explored, writing, ?_, ?_⟩
      · cases written <;> obtain ⟨rfl, rfl⟩ := course_pure.mp course <;> simp
      · cases written <;> obtain ⟨rfl, rfl⟩ := course_pure.mp course <;> rfl
  · rintro (⟨h, e, rfl, reading, rfl⟩ | ⟨stages⟩)
    · refine course_bind.mpr ⟨_, _, [], (List.append_nil _).symm,
        Pass.course_readKnown.mpr ⟨h, rfl, reading⟩, .done _⟩
    · obtain ⟨reading, known, exploring, found, writing, written, read, explored, wrote, rfl, rfl⟩ := stages
      refine course_bind.mpr ⟨_, _, _, List.append_assoc .., Pass.course_readKnown.mpr ⟨_, rfl, read⟩, ?_⟩
      refine course_call_bind.mpr ⟨(), _, rfl, course_bind.mpr ⟨_, _, _, rfl, explored, ?_⟩⟩
      refine course_bind.mpr ⟨_, _, [], (List.append_nil _).symm,
        Pass.course_persist.mpr ⟨_, rfl, wrote⟩, ?_⟩
      cases written <;> exact .done _

theorem course_pass {j : Job} {now : Instant} {log : Pass.Log} {outcome : Except Error Summary} :
    Course (j.pass now) log outcome ↔
      (∃ e, j.prepare now = .error e ∧ log = [] ∧ outcome = .error e) ∨
      ∃ window aggregation, j.prepare now = .ok (window, aggregation) ∧
        Course (j.passOver window aggregation) log outcome := by
  unfold pass
  cases prepared : j.prepare now with
  | error e => simpa using course_pure
  | ok sound =>
    obtain ⟨window, aggregation⟩ := sound
    simp

theorem names_of_course {j : Job} {now : Instant} {log : Pass.Log} {outcome : Except Error Summary}
    (course : Course (j.pass now) log outcome) : Pass.Names [] (Pass.history log) := by
  rcases course_pass.mp course with ⟨e, _, rfl, rfl⟩ | ⟨window, aggregation, _, course⟩
  · trivial
  rcases course_passOver.mp course with ⟨h, e, rfl, reading, rfl⟩ | ⟨⟨stages⟩⟩
  · rw [Pass.history_ofHistory]
    exact reading.names
  · rw [stages.history_eq, Pass.names_append]
    exact ⟨stages.read.names, stages.wrote.names.mono (List.nil_subset _)⟩

/-- When a pass commits, its transaction is empty or holds what the exploration kept, with what was known by
the look-up of the pass. -/
theorem created_of_commit {j : Job} {now : Instant} {outcome : Except Error Summary}
    {before after : Pass.Log} {ticket : Nat}
    (course : Course (j.pass now) (before ++ ⟨.store (.commit ticket), .ok ()⟩ :: after) outcome) :
    Store.created (Pass.history before) ticket = [] ∨
    ∃ window aggregation t known, j.prepare now = .ok (window, aggregation) ∧
      (⟨.store (.find t (j.lookup window)), .ok known⟩ : (c : Pass.Call) × Pass.Reply c) ∈ before ∧
      Store.created (Pass.history before) ticket =
        (Exploration.outcome ⟨j.detector, window, known⟩ (Pass.replies before)).results := by
  have commits : ticket ∈ Store.committed
      (Pass.history (before ++ ⟨.store (.commit ticket), .ok ()⟩ :: after)) := by
    rw [Pass.history_append]
    exact List.mem_filterMap.mpr ⟨⟨.commit ticket, .ok ()⟩, by simp [Pass.history, Pass.storeCall?], rfl⟩
  rcases course_pass.mp course with ⟨e, _, none, _⟩ | ⟨window, aggregation, prepared, course⟩
  · simp at none
  rcases course_passOver.mp course with ⟨h, e, shape, reading, _⟩ | ⟨⟨stages⟩⟩
  · rw [shape, Pass.history_ofHistory, reading.uncommitted_of_error] at commits
    cases commits
  have early := stages.history_ahead
  have heard := stages.replies_ahead
  obtain ⟨reading, known, exploring, found, writing, written, read, explored, wrote, shape, _⟩ := stages
  dsimp only at early heard
  obtain ⟨_, told⟩ := Pass.course_explore explored
  -- The commit is that of the look-up, whose transaction creates nothing, or that of the writing.
  rcases List.append_eq_append_iff.mp shape with ⟨mid, first, _⟩ | ⟨mid, first, second⟩
  · have none := read.created ticket
    rw [← early, first, Pass.history_append, Store.created_append] at none
    exact .inl (List.append_eq_nil_iff.mp none).1
  · obtain ⟨t, looked⟩ := read.find_mem
    have wrote_to : writing = Pass.history mid ++ ⟨.commit ticket, .ok ()⟩ :: Pass.history after := by
      rw [← Pass.history_ofHistory writing, second, Pass.history_append]
      rfl
    have quiet : Pass.replies mid ++ Pass.replies after = [] := by
      rw [← Pass.replies_ofHistory writing, second, Pass.replies_append]
      rfl
    have replied : Pass.replies before = Pass.replies exploring := by
      rw [first, Pass.replies_append, (List.append_eq_nil_iff.mp quiet).1, heard, List.append_nil]
    refine .inr ⟨window, aggregation, t, known, prepared, ?_, ?_⟩
    · rw [first, List.append_assoc]
      exact List.mem_append_left _ (List.mem_map_of_mem looked)
    · rw [first, Pass.history_append, early, Store.created_append, read.created, List.nil_append,
        wrote.created_of_commit wrote_to, ← first, replied, told]
      rfl

end Job

/-- A function on one metric, with a window of an hour and buckets of a minute. -/
def Spec.sample : Spec where
  id := 1
  functionType := "THRESHOLD"
  metric := "latency"
  collection := "web"
  cron := "0 * * * * *"
  windowSize := 1
  windowUnit := .hours
  windowDelay := none
  windowDelayUnit := none
  bucketSize := 1
  bucketUnit := .minutes
  exploreDimensions := none
  properties := .ofList [("max", "10")]
  isActive := true

/-- The window of a pass of the sample function at the start of 1970. -/
def Window.sample : Window := ⟨⟨-3600, 0, by decide⟩, .epoch⟩

theorem Job.prepare_sample
    (analyze : DimensionKey → Series → Window → List Anomaly → Except Error (List Anomaly)) :
    Job.prepare ⟨"latency", ⟨.sample, analyze⟩, .none⟩ .epoch =
      .ok (.sample, "AGGREGATE_1_MINUTES(latency)") := by
  have resolved : Window.resolve .sample .epoch .none = .ok .sample := by rfl
  have aggregated : Spec.sample.aggregation = .ok "AGGREGATE_1_MINUTES(latency)" := by rfl
  simp only [Job.prepare, resolved, aggregated]
  rfl

end AnomalyWatch
