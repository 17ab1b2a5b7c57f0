import AnomalyWatch.Proofs.Dialogue.Trail
import AnomalyWatch.Proofs.Service.Registration

/-!
The roster in front of a scheduler that may answer anything.

Nothing is assumed of the scheduler: each of its answers is a success or a failure of any kind. A start and a
one-shot run make at most one call, the last thing they do, so a failure of theirs leaves nothing behind. A stop
takes its function out exactly if the trigger is gone afterwards, cancelled by this call or unknown to the
scheduler before.
-/

set_option autoImplicit false
set_option relaxedAutoImplicit false

namespace AnomalyWatch

open Dialogue (Course course_pure course_call_bind course_bind)

namespace Scheduler

abbrev Log : Type := List ((_ : Call Job) × Except Error Unit)

/-- After this answer to a cancellation there is no trigger. -/
def isGone : Except Error Unit → Bool
  | .ok () => true
  | .error e => e.kind = .notFound

def Call.Schedules : Call Job → Prop
  | .recurring _ _ _ | .once _ _ => True
  | .cancel _ => False

def Idle (log : Log) : Prop :=
  ∀ e ∈ log, e.1.Schedules → e.2 ≠ .ok ()

private theorem idle_nil : Idle [] := by
  intro e called
  cases called

private theorem idle_refused {c : Call Job} {e : Error} : Idle [⟨c, .error e⟩] := by
  intro e' called _ succeeded
  rw [List.mem_singleton.mp called] at succeeded
  cases succeeded

private theorem idle_cancel {key : String} {reply : Except Error Unit} : Idle [⟨.cancel key, reply⟩] := by
  intro e called schedules
  rw [List.mem_singleton.mp called] at schedules
  cases schedules

private theorem isGone_iff {reply : Except Error Unit} :
    isGone reply = true ↔ reply = .ok () ∨ ∃ e, reply = .error e ∧ e.kind = .notFound := by
  cases reply <;> simp [isGone]

private theorem isGone_or_refused (reply : Except Error Unit) :
    isGone reply = true ∨ ∃ e, reply = .error e ∧ ¬ isGone (.error e) = true := by
  cases reply with
  | ok _ => exact .inl rfl
  | error e =>
    by_cases gone : isGone (.error e) = true
    · exact .inl gone
    · exact .inr ⟨e, rfl, gone⟩

private theorem exists_course_of_run {σ α : Type} (answers : Answers σ) (d : Step Job α) (t : σ) :
    ∃ log, Course d log ((d.run answers).run t).1 := by
  induction d generalizing t with
  | done a => exact ⟨[], .done a⟩
  | ask c next ih =>
    obtain ⟨log, course⟩ := ih (answers c t).1 (answers c t).2
    exact ⟨⟨c, (answers c t).1⟩ :: log, .ask course⟩

end Scheduler

open Scheduler (Idle isGone)

private theorem SortedMap.entries_erase_append {κ ν : Type} [Ord κ] [Std.TransOrd κ] [Std.LawfulEqOrd κ]
    {m : SortedMap κ ν} {before after : List (κ × ν)} {e : κ × ν} (held : m.entries = before ++ e :: after) :
    (m.erase e.1).entries = before ++ after := by
  have different := m.nodup_keys
  rw [SortedMap.keys, held, List.map_append, List.map_cons, List.nodup_middle, List.nodup_cons,
    ← List.map_append] at different
  have others : (before ++ after).filter (fun d => compare d.1 e.1 != .eq) = before ++ after := by
    refine List.filter_eq_self.mpr fun d present => ?_
    have other : d.1 ≠ e.1 := fun same => different.1 (same ▸ List.mem_map_of_mem present)
    simpa using other
  have own : (compare e.1 e.1 != .eq) = false := by simp
  change m.entries.filter (fun d => compare d.1 e.1 != .eq) = before ++ after
  rw [held, List.filter_append, List.filter_cons, own, ← others, List.filter_append]
  simp

namespace Roster

variable {w : Workshop} {r r' : Roster} {id : Nat} {log : Scheduler.Log}

/-- Why a function cannot be started, the first reason that applies. -/
inductive Unstartable (w : Workshop) (r : Roster) (id : Nat) : Error → Prop
  | unknown (absent : w.specs.get? id = none) : Unstartable w r id (.unknownFunction id)
  | registered {spec : Spec} {key : String} (found : w.specs.get? id = some spec)
      (present : r.jobs.get? id = some key) : Unstartable w r id (.alreadyScheduled id key)
  | unbuilt {spec : Spec} {e : Error} (found : w.specs.get? id = some spec) (free : id ∉ r.active)
      (refused : w.catalogue.build spec = .error e) : Unstartable w r id e
  | unread {spec : Spec} {d : Detector} {e : Error} (found : w.specs.get? id = some spec)
      (free : id ∉ r.active) (built : w.catalogue.build spec = .ok d)
      (refused : Cron.parse spec.cron = .error e) : Unstartable w r id e

private theorem prepare_eq_error {e : Error} : prepare w r id = .error e ↔ Unstartable w r id e := by
  constructor
  · intro refused
    unfold prepare Workshop.findSpec at refused
    cases found : w.specs.get? id with
    | none =>
      simp only [found, bind, Except.bind, Except.error.injEq] at refused
      exact refused ▸ .unknown found
    | some spec =>
      cases present : r.jobs.get? id with
      | some key =>
        simp only [found, present, bind, Except.bind, throw, throwThe, MonadExceptOf.throw,
          Except.error.injEq] at refused
        exact refused ▸ .registered found present
      | none =>
        have free := SortedMap.get?_eq_none_iff.mp present
        cases built : w.catalogue.build spec with
        | error e' =>
          simp only [found, present, Workshop.job, built, bind, Except.bind, Except.error.injEq] at refused
          exact refused ▸ .unbuilt found free built
        | ok d =>
          cases read : Cron.parse spec.cron with
          | error e' =>
            simp only [found, present, Workshop.job, built, read, bind, Except.bind, pure, Except.pure,
              Except.error.injEq] at refused
            exact refused ▸ .unread found free built read
          | ok schedule =>
            simp [found, present, Workshop.job, built, read, bind, Except.bind, pure, Except.pure] at refused
  · intro reason
    cases reason with
    | unknown absent => simp [prepare, Workshop.findSpec, absent, bind, Except.bind]
    | registered found present =>
      simp [prepare, Workshop.findSpec, found, present, bind, Except.bind, throw, throwThe,
        MonadExceptOf.throw]
    | unbuilt found free refused =>
      have absent := SortedMap.get?_eq_none_iff.mpr free
      simp [prepare, Workshop.findSpec, found, absent, Workshop.job, refused, bind, Except.bind]
    | unread found free built refused =>
      have absent := SortedMap.get?_eq_none_iff.mpr free
      simp [prepare, Workshop.findSpec, found, absent, Workshop.job, built, refused, bind, Except.bind, pure,
        Except.pure]

private theorem course_start {outcome : Except Error Unit} :
    Course (r.start w id) log (outcome, r') ↔
      (∃ e, Unstartable w r id e ∧ log = [] ∧ outcome = .error e ∧ r' = r) ∨
      ∃ cron job, prepare w r id = .ok (cron, job) ∧ log = [⟨.recurring job.name cron job, outcome⟩] ∧
        r' = match outcome with
          | .ok () => ⟨r.jobs.insert id job.name⟩
          | .error _ => r := by
  unfold start
  cases prepared : prepare w r id with
  | error e =>
    have reason := prepare_eq_error.mp prepared
    refine course_pure.trans ⟨?_, ?_⟩
    · rintro ⟨rfl, same⟩
      cases same
      exact .inl ⟨e, reason, rfl, rfl, rfl⟩
    · rintro (⟨e', reason', rfl, rfl, rfl⟩ | ⟨cron, job, accepted, _⟩)
      · have same := prepare_eq_error.mpr reason'
        rw [prepared] at same
        cases same
        exact ⟨rfl, rfl⟩
      · cases accepted
  | ok prepared' =>
    obtain ⟨cron, job⟩ := prepared'
    refine course_call_bind.trans ⟨?_, ?_⟩
    · rintro ⟨reply, rest, rfl, course⟩
      refine .inr ⟨cron, job, rfl, ?_⟩
      cases reply with
      | error e =>
        obtain ⟨rfl, same⟩ := course_pure.mp course
        cases same
        exact ⟨rfl, rfl⟩
      | ok _ =>
        obtain ⟨rfl, same⟩ := course_pure.mp course
        cases same
        exact ⟨rfl, rfl⟩
    · rintro (⟨e, reason, _⟩ | ⟨cron', job', accepted, rfl, rfl⟩)
      · have refused := prepare_eq_error.mpr reason
        rw [prepared] at refused
        cases refused
      · cases accepted
        refine ⟨outcome, [], rfl, ?_⟩
        cases outcome <;> exact .done _

private theorem course_cancelTrigger {key : String} {outcome : Except Error Unit} :
    Course (cancelTrigger key) log outcome ↔
      ∃ reply, log = [⟨.cancel key, reply⟩] ∧ outcome = if isGone reply then .ok () else reply := by
  refine course_call_bind.trans ⟨?_, ?_⟩
  · rintro ⟨reply, rest, rfl, course⟩
    refine ⟨reply, ?_⟩
    cases reply with
    | ok _ =>
      obtain ⟨rfl, rfl⟩ := course_pure.mp course
      exact ⟨rfl, rfl⟩
    | error e =>
      obtain ⟨rfl, rfl⟩ := course_pure.mp course
      exact ⟨rfl, by simp [isGone]⟩
  · rintro ⟨reply, rfl, rfl⟩
    refine ⟨reply, [], rfl, ?_⟩
    cases reply with
    | ok _ => exact .done _
    | error e => exact course_pure.mpr ⟨rfl, by simp [isGone]⟩

private theorem course_stop {key : String} (registered : r.jobs.get? id = some key) {outcome : Except Error Unit} :
    Course (r.stop id) log (outcome, r') ↔ ∃ reply, log = [⟨.cancel key, reply⟩] ∧
      (outcome, r') = if isGone reply then (.ok (), ⟨r.jobs.erase id⟩) else (reply, r) := by
  unfold stop
  rw [registered]
  refine course_bind.trans ⟨?_, ?_⟩
  · rintro ⟨first, cancelled, rest, rfl, course, last⟩
    obtain ⟨reply, rfl, rfl⟩ := course_cancelTrigger.mp course
    refine ⟨reply, ?_⟩
    rcases Scheduler.isGone_or_refused reply with gone | ⟨e, rfl, kept⟩
    · rw [if_pos gone] at last ⊢
      obtain ⟨rfl, same⟩ := course_pure.mp last
      exact ⟨rfl, same⟩
    · rw [if_neg kept] at last ⊢
      obtain ⟨rfl, same⟩ := course_pure.mp last
      exact ⟨rfl, same⟩
  · rintro ⟨reply, rfl, same⟩
    refine ⟨_, _, [], (List.append_nil _).symm, course_cancelTrigger.mpr ⟨reply, rfl, rfl⟩, ?_⟩
    rcases Scheduler.isGone_or_refused reply with gone | ⟨e, rfl, kept⟩
    · rw [if_pos gone] at same ⊢
      exact course_pure.mpr ⟨rfl, same⟩
    · rw [if_neg kept] at same ⊢
      exact course_pure.mpr ⟨rfl, same⟩

private theorem course_stop_of_unregistered (unregistered : id ∉ r.active) {outcome : Except Error Unit} :
    Course (r.stop id) log (outcome, r') ↔ log = [] ∧ outcome = .error (.notScheduled id) ∧ r' = r := by
  have absent : r.jobs.get? id = none := SortedMap.get?_eq_none_iff.mpr unregistered
  unfold stop
  rw [absent]
  exact course_pure.trans (and_congr_right fun _ => Prod.mk.injEq .. ▸ Iff.rfl)

def refusedEntries (entries : List (Nat × String)) (replies : List (Except Error Unit)) : List (Nat × String) :=
  ((entries.zip replies).filter fun p => !isGone p.2).map Prod.fst

/-- Each of the last entries of a roster is tried once, and those whose triggers are gone leave the roster. -/
theorem entries_of_course_stopEach (kept : List (Nat × String)) {entries : List (Nat × String)}
    {stopped count : Nat} (held : r.jobs.entries = kept ++ entries)
    (keyed : ∀ e ∈ entries, e.2 = Workshop.recurringKey e.1)
    (course : Course (stopEach r stopped entries) log (count, r')) :
    ∃ replies : List (Except Error Unit), replies.length = entries.length ∧
      log = List.zipWith (fun id reply => ⟨.cancel (Workshop.recurringKey id), reply⟩)
        (entries.map Prod.fst) replies ∧
      r'.jobs.entries = kept ++ refusedEntries entries replies ∧
      count + (refusedEntries entries replies).length = stopped + entries.length := by
  induction entries generalizing r stopped kept log with
  | nil =>
    obtain ⟨rfl, same⟩ := course_pure.mp course
    cases same
    exact ⟨[], rfl, rfl, held, rfl⟩
  | cons e rest ih =>
    obtain ⟨first, cancelled, later, rfl, head, course⟩ := course_bind.mp course
    obtain ⟨reply, rfl, rfl⟩ := course_cancelTrigger.mp head
    have key := keyed e List.mem_cons_self
    have keyed' : ∀ e ∈ rest, e.2 = Workshop.recurringKey e.1 := fun e later => keyed e (.tail _ later)
    rcases Scheduler.isGone_or_refused reply with gone | ⟨cause, rfl, refused⟩
    · rw [if_pos gone] at course
      have erased : (r.jobs.erase e.1).entries = kept ++ rest := SortedMap.entries_erase_append held
      obtain ⟨replies, length, rfl, left, counted⟩ := ih (r := ⟨r.jobs.erase e.1⟩) kept erased keyed' course
      have skipped : refusedEntries (e :: rest) (reply :: replies) = refusedEntries rest replies := by
        simp [refusedEntries, gone]
      refine ⟨reply :: replies, congrArg Nat.succ length, by rw [key]; rfl, by rw [skipped, left], ?_⟩
      rw [skipped, List.length_cons]
      omega
    · rw [if_neg refused] at course
      have still : r.jobs.entries = (kept ++ [e]) ++ rest := by simp [held]
      obtain ⟨replies, length, rfl, left, counted⟩ := ih (kept ++ [e]) still keyed' course
      have stays : refusedEntries (e :: rest) (.error cause :: replies) = e :: refusedEntries rest replies := by
        simp [refusedEntries, refused]
      refine ⟨.error cause :: replies, congrArg Nat.succ length, by rw [key]; rfl, ?_, ?_⟩
      · rw [stays, left, List.append_assoc]
        rfl
      · rw [stays, List.length_cons, List.length_cons]
        omega

/-- Why a function cannot be run once, the first reason that applies. -/
inductive Unrunnable (w : Workshop) (id : Nat) (start stop : Option String) : Error → Prop
  | unknown (absent : w.specs.get? id = none) : Unrunnable w id start stop (.unknownFunction id)
  | unbounded {spec : Spec} {e : Error} (found : w.specs.get? id = some spec)
      (refused : Bounds.parse start stop = .error e) : Unrunnable w id start stop e
  | unbuilt {spec : Spec} {bounds : Bounds} {e : Error} (found : w.specs.get? id = some spec)
      (read : Bounds.parse start stop = .ok bounds) (refused : w.catalogue.build spec = .error e) :
      Unrunnable w id start stop e

private theorem adHocJob_eq_error {start stop : Option String} {e : Error} :
    w.adHocJob id start stop = .error e ↔ Unrunnable w id start stop e := by
  constructor
  · intro refused
    unfold Workshop.adHocJob Workshop.findSpec at refused
    cases found : w.specs.get? id with
    | none =>
      simp only [found, bind, Except.bind, Except.error.injEq] at refused
      exact refused ▸ .unknown found
    | some spec =>
      cases read : Bounds.parse start stop with
      | error e' =>
        simp only [found, read, bind, Except.bind, Except.error.injEq] at refused
        exact refused ▸ .unbounded found read
      | ok bounds =>
        cases built : w.catalogue.build spec with
        | error e' =>
          simp only [found, read, Workshop.job, built, bind, Except.bind, Except.error.injEq] at refused
          exact refused ▸ .unbuilt found read built
        | ok d => simp [found, read, Workshop.job, built, bind, Except.bind, pure, Except.pure] at refused
  · intro reason
    cases reason with
    | unknown absent => simp [Workshop.adHocJob, Workshop.findSpec, absent, bind, Except.bind]
    | unbounded found refused => simp [Workshop.adHocJob, Workshop.findSpec, found, refused, bind, Except.bind]
    | unbuilt found read refused =>
      simp [Workshop.adHocJob, Workshop.findSpec, found, read, Workshop.job, refused, bind, Except.bind]

private theorem course_runAdHoc {start stop : Option String} {outcome : Except Error Unit} :
    Course (runAdHoc w id start stop) log outcome ↔
      (∃ e, Unrunnable w id start stop e ∧ log = [] ∧ outcome = .error e) ∨
      ∃ job, w.adHocJob id start stop = .ok job ∧ log = [⟨.once job.name job, outcome⟩] := by
  unfold runAdHoc
  cases made : w.adHocJob id start stop with
  | error e =>
    have reason := adHocJob_eq_error.mp made
    refine course_pure.trans ⟨?_, ?_⟩
    · rintro ⟨rfl, rfl⟩
      exact .inl ⟨e, reason, rfl, rfl⟩
    · rintro (⟨e', reason', rfl, rfl⟩ | ⟨job, accepted, _⟩)
      · have same := adHocJob_eq_error.mpr reason'
        rw [made] at same
        cases same
        exact ⟨rfl, rfl⟩
      · cases accepted
  | ok job =>
    constructor
    · intro course
      cases course with
      | ask go =>
        cases go
        exact .inr ⟨job, rfl, rfl⟩
    · rintro (⟨e, reason, _⟩ | ⟨job', accepted, rfl⟩)
      · have refused := adHocJob_eq_error.mpr reason
        rw [made] at refused
        cases refused
      · cases accepted
        exact .ask (.done _)

/-- The rosters that come about, whatever the specs are and whatever the scheduler answers. -/
inductive Reachable : Roster → Prop
  | empty : Reachable .empty
  | start {w : Workshop} {r r' : Roster} {id : Nat} {log : Scheduler.Log} {outcome : Except Error Unit}
      (reached : Reachable r) (course : Course (r.start w id) log (outcome, r')) : Reachable r'
  | stop {r r' : Roster} {id : Nat} {log : Scheduler.Log} {outcome : Except Error Unit}
      (reached : Reachable r) (course : Course (r.stop id) log (outcome, r')) : Reachable r'
  | stopAll {r r' : Roster} {log : Scheduler.Log} {count : Nat} (reached : Reachable r)
      (course : Course r.stopAll log (count, r')) : Reachable r'

private theorem Reachable.of_start {σ : Type} {answers : Scheduler.Answers σ} {s : Service σ}
    (reached : Reachable s.roster) (id : Nat) : Reachable (s.start answers id).2.roster := by
  obtain ⟨log, course⟩ :=
    Scheduler.exists_course_of_run answers (s.roster.start s.workshop id) s.scheduler
  exact .start reached course

theorem Reachable.keyed (reached : Reachable r) : ∀ e ∈ r.jobs.entries, e.2 = Workshop.recurringKey e.1 := by
  induction reached with
  | empty =>
    intro e present
    cases present
  | @start w r r' id log outcome reached course ih =>
    rcases course_start.mp course with ⟨e, reason, rfl, rfl, rfl⟩ | ⟨cron, job, accepted, rfl, rfl⟩
    · exact ih
    · cases outcome with
      | error e => exact ih
      | ok _ =>
        obtain ⟨spec, startable, rfl, made⟩ := prepare_eq_ok.mp accepted
        have name : job.name = Workshop.recurringKey id := by
          obtain ⟨d, built⟩ := startable.built
          rw [Workshop.job, built] at made
          exact congrArg Job.name (Except.ok.inj made).symm
        intro e present
        rcases SortedMap.mem_entries_insert present with rfl | present
        · exact name
        · exact ih e present
  | @stop r r' id log outcome reached course ih =>
    by_cases registered : id ∈ r.active
    · obtain ⟨key, found⟩ := Option.ne_none_iff_exists'.mp
        fun absent => SortedMap.get?_eq_none_iff.mp absent registered
      obtain ⟨reply, rfl, same⟩ := (course_stop found).mp course
      split at same
      · cases same
        intro e present
        exact ih e (SortedMap.mem_entries_erase.mp present).1
      · cases same
        exact ih
    · obtain ⟨rfl, rfl, rfl⟩ := (course_stop_of_unregistered registered).mp course
      exact ih
  | @stopAll r r' log count reached course ih =>
    obtain ⟨replies, _, _, left, _⟩ := entries_of_course_stopEach [] rfl ih course
    intro e present
    rw [left, List.nil_append, refusedEntries, List.mem_map] at present
    obtain ⟨p, stays, rfl⟩ := present
    exact ih p.1 (List.of_mem_zip (List.mem_filter.mp stays).1).1

section Outcomes

variable {outcome : Except Error Unit} {e : Error}

private theorem unchanged_of_start (course : Course (r.start w id) log (.error e, r')) : r' = r ∧ Idle log := by
  rcases course_start.mp course with ⟨_, _, rfl, _, rfl⟩ | ⟨cron, job, _, rfl, rfl⟩
  · exact ⟨rfl, Scheduler.idle_nil⟩
  · exact ⟨rfl, Scheduler.idle_refused⟩

private theorem silent_of_unstartable (reason : Unstartable w r id e)
    (course : Course (r.start w id) log (outcome, r')) : outcome = .error e ∧ log = [] := by
  have refused := prepare_eq_error.mpr reason
  rcases course_start.mp course with ⟨e', reason', rfl, rfl, rfl⟩ | ⟨cron, job, accepted, _⟩
  · have same := prepare_eq_error.mpr reason'
    rw [refused] at same
    cases same
    exact ⟨rfl, rfl⟩
  · rw [refused] at accepted
    cases accepted

private theorem idle_of_runAdHoc {start stop : Option String}
    (course : Course (runAdHoc w id start stop) log (.error e)) : Idle log := by
  rcases course_runAdHoc.mp course with ⟨_, _, rfl, _⟩ | ⟨job, _, rfl⟩
  · exact Scheduler.idle_nil
  · exact Scheduler.idle_refused

private theorem silent_of_unrunnable {start stop : Option String} (reason : Unrunnable w id start stop e)
    (course : Course (runAdHoc w id start stop) log outcome) : outcome = .error e ∧ log = [] := by
  have refused := adHocJob_eq_error.mpr reason
  rcases course_runAdHoc.mp course with ⟨e', reason', rfl, rfl⟩ | ⟨job, accepted, _⟩
  · have same := adHocJob_eq_error.mpr reason'
    rw [refused] at same
    cases same
    exact ⟨rfl, rfl⟩
  · rw [refused] at accepted
    cases accepted

private theorem course_stop_of_mem (reached : Reachable r) (registered : id ∈ r.active) :
    Course (r.stop id) log (outcome, r') ↔ ∃ reply, log = [⟨.cancel (Workshop.recurringKey id), reply⟩] ∧
      (outcome, r') = if isGone reply then (.ok (), ⟨r.jobs.erase id⟩) else (reply, r) := by
  cases found : r.jobs.get? id with
  | none => exact absurd registered (SortedMap.get?_eq_none_iff.mp found)
  | some key =>
    have named : key = Workshop.recurringKey id :=
      reached.keyed (id, key) (SortedMap.mem_entries_of_get?_eq_some found)
    rw [course_stop found, named]

private theorem unchanged_of_stop (reached : Reachable r) (course : Course (r.stop id) log (.error e, r')) :
    r' = r ∧ Idle log := by
  by_cases registered : id ∈ r.active
  · obtain ⟨reply, rfl, same⟩ := (course_stop_of_mem reached registered).mp course
    split at same
    · cases same
    · exact ⟨congrArg Prod.snd same, Scheduler.idle_cancel⟩
  · obtain ⟨rfl, _, rfl⟩ := (course_stop_of_unregistered registered).mp course
    exact ⟨rfl, Scheduler.idle_nil⟩

private theorem mem_active_of_stop (reached : Reachable r) (registered : id ∈ r.active)
    (course : Course (r.stop id) log (outcome, r')) :
    ∃ reply, log = [⟨.cancel (Workshop.recurringKey id), reply⟩] ∧
      (id ∉ r'.active ↔ reply = .ok () ∨ ∃ e, reply = .error e ∧ e.kind = .notFound) ∧
      ∀ other, other ≠ id → (other ∈ r'.active ↔ other ∈ r.active) := by
  obtain ⟨reply, rfl, same⟩ := (course_stop_of_mem reached registered).mp course
  refine ⟨reply, rfl, ?_⟩
  rw [← Scheduler.isGone_iff]
  by_cases gone : isGone reply = true
  · rw [if_pos gone] at same
    cases same
    have left : ∀ other, other ∈ Roster.active ⟨r.jobs.erase id⟩ ↔ other ∈ r.active ∧ other ≠ id :=
      fun other => SortedMap.mem_keys_erase
    exact ⟨⟨fun _ => gone, fun _ present => ((left id).mp present).2 rfl⟩,
      fun other different => (left other).trans (and_iff_left different)⟩
  · rw [if_neg gone] at same
    cases same
    exact ⟨⟨fun absent => absurd registered absent, fun gone' => absurd gone' gone⟩, fun _ _ => Iff.rfl⟩

private theorem entries_of_course_stopAll (reached : Reachable r) {count : Nat}
    (course : Course r.stopAll log (count, r')) :
    ∃ replies : List (Except Error Unit), replies.length = r.active.length ∧
      log = List.zipWith (fun id reply => ⟨.cancel (Workshop.recurringKey id), reply⟩) r.active replies ∧
      r'.jobs.entries = refusedEntries r.jobs.entries replies ∧
      count + r'.active.length = r.active.length := by
  obtain ⟨replies, length, calls, left, counted⟩ :=
    entries_of_course_stopEach [] rfl reached.keyed course
  rw [List.nil_append] at left
  refine ⟨replies, length.trans (List.length_map _).symm, calls, left, ?_⟩
  rw [Roster.active, Roster.active, SortedMap.keys, SortedMap.keys, List.length_map, List.length_map, left,
    counted, Nat.zero_add]

end Outcomes

/-- Whatever the scheduler answers, an operation that fails leaves the roster as it was and no job with the
scheduler, and what is wrong with a function or a bound is reported without a word to the scheduler. A stop
takes out its function exactly if its trigger was cancelled or is unknown. Stopping all tries each registered
function once, takes out those whose triggers are gone, keeps the others, and tells how many it took out. -/
theorem operations_atomic (reached : Reachable r) :
    (∀ w id log outcome r', Course (r.start w id) log (outcome, r') →
      (∀ e, outcome = .error e → r' = r ∧ Idle log) ∧
      ∀ e, Unstartable w r id e → outcome = .error e ∧ log = []) ∧
    (∀ w id start stop log outcome, Course (runAdHoc w id start stop) log outcome →
      (∀ e, outcome = .error e → Idle log) ∧
      ∀ e, Unrunnable w id start stop e → outcome = .error e ∧ log = []) ∧
    (∀ (σ : Type) (answers : Scheduler.Answers σ) (s : Service σ) id start stop,
      (s.runAdHoc answers id start stop).2.roster = s.roster) ∧
    (∀ id log outcome r', Course (r.stop id) log (outcome, r') →
      (∀ e, outcome = .error e → r' = r ∧ Idle log) ∧
      (id ∉ r.active → outcome = .error (.notScheduled id) ∧ log = []) ∧
      (id ∈ r.active → ∃ reply, log = [⟨.cancel (Workshop.recurringKey id), reply⟩] ∧
        (id ∉ r'.active ↔ reply = .ok () ∨ ∃ e, reply = .error e ∧ e.kind = .notFound) ∧
        ∀ other, other ≠ id → (other ∈ r'.active ↔ other ∈ r.active))) ∧
    ∀ log count r', Course r.stopAll log (count, r') →
      r.active.Nodup ∧ ∃ replies, replies.length = r.active.length ∧
        log = List.zipWith (fun id reply => ⟨.cancel (Workshop.recurringKey id), reply⟩) r.active replies ∧
        r'.jobs.entries = ((r.jobs.entries.zip replies).filter fun p => !isGone p.2).map Prod.fst ∧
        count + r'.active.length = r.active.length := by
  refine ⟨fun w id log outcome r' course => ?_, fun w id start stop log outcome course => ?_,
    fun σ answers s id start stop => rfl, fun id log outcome r' course => ?_, fun log count r' course => ?_⟩
  · refine ⟨fun e failed => ?_, fun e reason => silent_of_unstartable reason course⟩
    rw [failed] at course
    exact unchanged_of_start course
  · refine ⟨fun e failed => ?_, fun e reason => silent_of_unrunnable reason course⟩
    rw [failed] at course
    exact idle_of_runAdHoc course
  · refine ⟨fun e failed => ?_, fun unregistered => ?_,
      fun registered => mem_active_of_stop reached registered course⟩
    · rw [failed] at course
      exact unchanged_of_stop reached course
    · obtain ⟨silent, failed, _⟩ := (course_stop_of_unregistered unregistered).mp course
      exact ⟨failed, silent⟩
  · exact ⟨SortedMap.nodup_keys _, entries_of_course_stopAll reached course⟩

/-- Two functions were started. The scheduler refuses to cancel the trigger of one and does not know that of the
other: one is kept, the other is taken out. -/
theorem kept_where_cancel_refused :
    let spec (id : Nat) : Spec :=
      { id, functionType := "THRESHOLD", metric := "latency", collection := "web", cron := "0 0 * * * *"
        windowSize := 1, windowUnit := .days, windowDelay := none, windowDelayUnit := none, bucketSize := 1
        bucketUnit := .hours, exploreDimensions := none, properties := .ofList [("max", "10")]
        isActive := true }
    let idle := Service.idle ⟨.ofList [(1, spec 1), (2, spec 2)], .standard⟩ Timetable.empty Site.empty
    let r := ((idle.start Timetable.answers 1).2.start Timetable.answers 2).2.roster
    let busy : Error := .reported .scheduler "cancel refused"
    Reachable r ∧ ∃ r', Course r.stopAll
      [⟨.cancel "scheduled_anomaly_function_job_1", .error busy⟩,
        ⟨.cancel "scheduled_anomaly_function_job_2",
          .error (.unknownTrigger "scheduled_anomaly_function_job_2")⟩] (1, r') ∧
      r'.active = [1] := by
  intro spec idle r busy
  have reached : Reachable r := Reachable.of_start (Reachable.of_start .empty 1) 2
  have entries : r.jobs.entries =
      [(1, "scheduled_anomaly_function_job_1"), (2, "scheduled_anomaly_function_job_2")] := by
    decide +kernel
  clear_value r
  have course : ∃ r', Course r.stopAll
      [⟨.cancel "scheduled_anomaly_function_job_1", .error busy⟩,
        ⟨.cancel "scheduled_anomaly_function_job_2",
          .error (.unknownTrigger "scheduled_anomaly_function_job_2")⟩] (1, r') := by
    rw [stopAll, entries]
    exact ⟨_, .ask (.ask (.done _))⟩
  obtain ⟨r', course⟩ := course
  refine ⟨reached, r', course, ?_⟩
  have active : r.active = [1, 2] := congrArg (List.map Prod.fst) entries
  obtain ⟨_, replies, length, calls, left, _⟩ := (operations_atomic reached).2.2.2.2 _ _ _ course
  rw [active] at length calls
  obtain ⟨first, second, rfl⟩ := List.length_eq_two.mp length
  simp only [List.zipWith_cons_cons, List.zipWith_nil_left, List.cons.injEq, Sigma.mk.injEq, heq_eq_eq,
    and_true] at calls
  obtain ⟨⟨_, rfl⟩, _, rfl⟩ := calls
  rw [Roster.active, SortedMap.keys, left, entries]
  rfl

end Roster

end AnomalyWatch
