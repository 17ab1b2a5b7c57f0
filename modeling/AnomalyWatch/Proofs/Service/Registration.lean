import AnomalyWatch.Service.Basic
import Mathlib.Data.List.Nodup

/-!
The roster and the scheduler stay in step.

Two maps say what is running: the roster by id, the scheduler by key. A service changes both in one call, and
whatever the order of its calls, the triggers are those of the registered functions. Others may take triggers
away, but none ever stands for a function that is not registered.
-/

set_option autoImplicit false
set_option relaxedAutoImplicit false

namespace AnomalyWatch

theorem Workshop.recurringKey_inj {id id' : Nat} :
    Workshop.recurringKey id = Workshop.recurringKey id' ↔ id = id' := by
  refine ⟨fun same => ?_, fun same => same ▸ rfl⟩
  have digits : id.repr = id'.repr := (String.append_right_inj _).mp same
  rw [← Nat.ofDigitChars_ten_toDigits (n := id), ← Nat.toList_repr, digits, Nat.toList_repr,
    Nat.ofDigitChars_ten_toDigits]

/-- A spec with the id is known, its detector can be built and its expression read. -/
def Workshop.CanServe (w : Workshop) (id : Nat) : Prop :=
  ∃ spec, w.specs.get? id = some spec ∧ (∃ d, w.catalogue.build spec = .ok d) ∧
    ∃ schedule, Cron.parse spec.cron = .ok schedule

namespace SortedMap

variable {κ ν : Type} [Ord κ] [Std.LawfulEqOrd κ] {m : SortedMap κ ν} {k : κ}

theorem erase_of_not_mem_keys (absent : k ∉ m.keys) : m.erase k = m := by
  have all : m.entries.filter (fun e => compare e.1 k != .eq) = m.entries := by
    refine List.filter_eq_self.mpr fun e present => ?_
    have other : e.1 ≠ k := fun same => absent (same ▸ List.mem_map_of_mem present)
    simpa using other
  cases m
  simpa [erase] using all

end SortedMap

namespace Timetable

variable {Task : Type} {t t' : Timetable Task} {key other cron : String} {task : Task}

def without (t : Timetable Task) (key : String) : Timetable Task :=
  { t with triggers := t.triggers.erase key }

theorem mem_keys_without : other ∈ (t.without key).keys ↔ other ∈ t.keys ∧ other ≠ key :=
  SortedMap.mem_keys_erase

theorem recurring_eq_ok : t.recurring key cron task = .ok t' ↔
    ∃ schedule, Cron.parse cron = .ok schedule ∧ key ∉ t.keys ∧
      t' = { t with
        triggers := t.triggers.insert key ⟨t.nextSerial, schedule, task⟩
        nextSerial := t.nextSerial + 1 } := by
  rw [keys, ← SortedMap.contains_iff_mem_keys]
  cases parsed : Cron.parse cron with
  | error e => simp [recurring, parsed, bind, Except.bind]
  | ok schedule =>
    by_cases taken : t.triggers.contains key = true
    · simp [recurring, parsed, taken, bind, Except.bind, throw, throwThe, MonadExceptOf.throw]
    · simp [recurring, parsed, taken, bind, Except.bind, pure, Except.pure, eq_comm]

theorem respond_cancel : t.respond (.cancel key) =
    (if key ∈ t.keys then .ok () else .error (.unknownTrigger key), t.without key) := by
  by_cases present : key ∈ t.keys
  · have taken := SortedMap.contains_iff_mem_keys.mpr present
    simp [respond, cancel, attempt, taken, present, without]
  · have free : t.triggers.contains key = false := by
      simpa [← SortedMap.contains_iff_mem_keys, keys] using present
    have same : t.without key = t := by rw [without, SortedMap.erase_of_not_mem_keys present]
    simp [respond, cancel, attempt, free, present, same]

end Timetable

namespace Roster

variable {w : Workshop} {r : Roster} {id : Nat} {cron : String} {job : Job}

private theorem run_ask {α : Type} (t : Timetable Job) (c : Scheduler.Call Job)
    (next : Except Error Unit → Scheduler.Step Job α) :
    ((Scheduler.ask c >>= next).run Timetable.answers).run t =
      ((next (t.respond c).1).run Timetable.answers).run (t.respond c).2 := rfl

/-- A trigger that is gone already counts as cancelled, so the scheduler of a program never refuses to cancel
one. -/
theorem run_cancelTrigger (t : Timetable Job) (key : String) :
    ((cancelTrigger key).run Timetable.answers).run t = (.ok (), t.without key) := by
  rw [cancelTrigger, run_ask, Timetable.respond_cancel]
  by_cases present : key ∈ t.keys
  · rw [if_pos present]
    rfl
  · rw [if_neg present]
    rfl

structure Startable (w : Workshop) (r : Roster) (id : Nat) (spec : Spec) : Prop where
  unregistered : id ∉ r.active
  found : w.specs.get? id = some spec
  built : ∃ d, w.catalogue.build spec = .ok d
  parsed : ∃ schedule, Cron.parse spec.cron = .ok schedule

theorem exists_startable_iff :
    (∃ spec, Startable w r id spec) ↔ id ∉ r.active ∧ w.CanServe id := by
  constructor
  · rintro ⟨spec, unregistered, found, built, parsed⟩
    exact ⟨unregistered, spec, found, built, parsed⟩
  · rintro ⟨unregistered, spec, found, built, parsed⟩
    exact ⟨spec, unregistered, found, built, parsed⟩

theorem prepare_eq_ok : prepare w r id = .ok (cron, job) ↔
    ∃ spec, Startable w r id spec ∧ cron = spec.cron ∧
      w.job spec (Workshop.recurringKey id) Bounds.none = .ok job := by
  constructor
  · intro prepared
    unfold prepare Workshop.findSpec at prepared
    cases found : w.specs.get? id with
    | none => simp [found, bind, Except.bind] at prepared
    | some spec =>
      cases registered : r.jobs.get? id with
      | some key =>
        simp [found, registered, bind, Except.bind, throw, throwThe, MonadExceptOf.throw] at prepared
      | none =>
        cases built : w.catalogue.build spec with
        | error e => simp [found, registered, Workshop.job, built, bind, Except.bind] at prepared
        | ok d =>
          cases parsed : Cron.parse spec.cron with
          | error e =>
            simp [found, registered, Workshop.job, built, parsed, bind, Except.bind, pure,
              Except.pure] at prepared
          | ok schedule =>
            simp only [found, registered, Workshop.job, built, parsed, bind, Except.bind, pure,
              Except.pure, Except.ok.injEq, Prod.mk.injEq] at prepared
            obtain ⟨rfl, rfl⟩ := prepared
            have startable : Startable w r id spec :=
              ⟨SortedMap.get?_eq_none_iff.mp registered, found, ⟨d, built⟩, ⟨schedule, parsed⟩⟩
            exact ⟨spec, startable, rfl, by rw [Workshop.job, built]; rfl⟩
  · rintro ⟨spec, startable, rfl, made⟩
    obtain ⟨schedule, parsed⟩ := startable.parsed
    have registered := SortedMap.get?_eq_none_iff.mpr startable.unregistered
    simp [prepare, Workshop.findSpec, startable.found, registered, made, parsed, bind, Except.bind, pure,
      Except.pure]

private theorem run_stopEach (entries : List (Nat × String)) (r : Roster) (stopped : Nat) (t : Timetable Job) :
    ((stopEach r stopped entries).run Timetable.answers).run t =
      ((stopped + entries.length, ⟨entries.foldl (fun jobs e => jobs.erase e.1) r.jobs⟩),
        entries.foldl (fun t e => t.without e.2) t) := by
  induction entries generalizing r stopped t with
  | nil => rfl
  | cons e rest ih =>
    have cancelled : ((stopEach r stopped (e :: rest)).run Timetable.answers).run t =
        ((stopEach ⟨r.jobs.erase e.1⟩ (stopped + 1) rest).run Timetable.answers).run (t.without e.2) := by
      rw [stopEach, Dialogue.run_bind, StateT.run_bind, run_cancelTrigger]
      rfl
    rw [cancelled, ih, List.length_cons, Nat.add_right_comm, Nat.add_assoc]
    rfl

end Roster

namespace Service

variable {s : Service (Timetable Job)} {id : Nat}

def released (s : Service (Timetable Job)) (id : Nat) (key : String) : Service (Timetable Job) :=
  { s with roster := ⟨s.roster.jobs.erase id⟩, scheduler := s.scheduler.without key }

def engaged (s : Service (Timetable Job)) (id : Nat) (schedule : Schedule) (job : Job) :
    Service (Timetable Job) :=
  { s with
    roster := ⟨s.roster.jobs.insert id (Workshop.recurringKey id)⟩
    scheduler := { s.scheduler with
      triggers := s.scheduler.triggers.insert (Workshop.recurringKey id)
        ⟨s.scheduler.nextSerial, schedule, job⟩
      nextSerial := s.scheduler.nextSerial + 1 } }

private theorem start_of_error {e : Error} (refused : Roster.prepare s.workshop s.roster id = .error e) :
    s.start Timetable.answers id = (.error e, s) := by
  simp only [start, manage, consult, Roster.start, refused]
  rfl

private theorem start_of_ok {cron : String} {job : Job}
    (prepared : Roster.prepare s.workshop s.roster id = .ok (cron, job)) :
    s.start Timetable.answers id =
      match s.scheduler.recurring job.name cron job with
      | .error e => (.error e, s)
      | .ok t => (.ok (), { s with roster := ⟨s.roster.jobs.insert id job.name⟩, scheduler := t }) := by
  simp only [start, manage, consult, Roster.start, prepared, Roster.run_ask, Timetable.respond]
  cases s.scheduler.recurring job.name cron job with
  | error e => rfl
  | ok t => rfl

/-- A start engages the function, or it fails and changes nothing. Where the function can be started it
fails only because the key is taken. -/
theorem start_cases (s : Service (Timetable Job)) (id : Nat) :
    (∃ spec schedule job, Roster.Startable s.workshop s.roster id spec ∧
      Workshop.recurringKey id ∉ s.scheduler.keys ∧
      s.start Timetable.answers id = (.ok (), s.engaged id schedule job)) ∨
    ∃ e, s.start Timetable.answers id = (.error e, s) ∧
      ∀ spec, Roster.Startable s.workshop s.roster id spec →
        Workshop.recurringKey id ∈ s.scheduler.keys := by
  cases prepared : Roster.prepare s.workshop s.roster id with
  | error e =>
    refine .inr ⟨e, start_of_error prepared, fun spec startable => ?_⟩
    obtain ⟨d, built⟩ := startable.built
    have made : s.workshop.job spec (Workshop.recurringKey id) Bounds.none =
        .ok ⟨Workshop.recurringKey id, d, Bounds.none⟩ := by
      rw [Workshop.job, built]
      rfl
    have accepted := Roster.prepare_eq_ok.mpr ⟨spec, startable, rfl, made⟩
    rw [prepared] at accepted
    cases accepted
  | ok start =>
    obtain ⟨cron, job⟩ := start
    obtain ⟨spec, startable, rfl, made⟩ := Roster.prepare_eq_ok.mp prepared
    obtain ⟨d, built⟩ := startable.built
    obtain ⟨schedule, parsed⟩ := startable.parsed
    obtain rfl : ⟨Workshop.recurringKey id, d, Bounds.none⟩ = job := by
      rw [Workshop.job, built] at made
      exact Except.ok.inj made
    rw [start_of_ok prepared]
    by_cases taken : Workshop.recurringKey id ∈ s.scheduler.keys
    · cases scheduled : s.scheduler.recurring (Workshop.recurringKey id) spec.cron
        ⟨Workshop.recurringKey id, d, Bounds.none⟩ with
      | error e => exact .inr ⟨e, rfl, fun _ _ => taken⟩
      | ok t =>
        obtain ⟨_, _, free, _⟩ := Timetable.recurring_eq_ok.mp scheduled
        exact absurd taken free
    · refine .inl ⟨spec, schedule, ⟨Workshop.recurringKey id, d, Bounds.none⟩, startable, taken, ?_⟩
      rw [Timetable.recurring_eq_ok.mpr ⟨schedule, parsed, taken, rfl⟩]
      rfl

theorem stop_of_registered {key : String} (registered : s.roster.jobs.get? id = some key) :
    s.stop Timetable.answers id = (.ok (), s.released id key) := by
  simp only [stop, manage, consult, Roster.stop, registered]
  rw [Dialogue.run_bind, StateT.run_bind, Roster.run_cancelTrigger]
  rfl

theorem stop_of_unregistered (unregistered : id ∉ s.roster.active) :
    s.stop Timetable.answers id = (.error (.notScheduled id), s) := by
  have absent : s.roster.jobs.get? id = none := SortedMap.get?_eq_none_iff.mpr unregistered
  simp only [stop, manage, consult, Roster.stop, absent]
  rfl

theorem stopAll_eq (s : Service (Timetable Job)) :
    s.stopAll Timetable.answers = (s.roster.jobs.entries.length,
      s.roster.jobs.entries.foldl (fun s e => s.released e.1 e.2) s) := by
  have released (entries : List (Nat × String)) (s : Service (Timetable Job)) :
      entries.foldl (fun s e => s.released e.1 e.2) s =
        { s with
          roster := ⟨entries.foldl (fun jobs e => jobs.erase e.1) s.roster.jobs⟩
          scheduler := entries.foldl (fun t e => t.without e.2) s.scheduler } := by
    induction entries generalizing s with
    | nil => rfl
    | cons e rest ih => exact ih _
  rw [stopAll, manage, consult, Roster.stopAll, Roster.run_stopEach, Nat.zero_add, released]

theorem runAdHoc_frame (s : Service (Timetable Job)) (id : Nat) (start stop : Option String) :
    (s.runAdHoc Timetable.answers id start stop).2.roster = s.roster ∧
      (s.runAdHoc Timetable.answers id start stop).2.scheduler.triggers = s.scheduler.triggers := by
  unfold runAdHoc consult Roster.runAdHoc
  split
  · exact ⟨rfl, rfl⟩
  · exact ⟨rfl, rfl⟩

end Service

end AnomalyWatch
