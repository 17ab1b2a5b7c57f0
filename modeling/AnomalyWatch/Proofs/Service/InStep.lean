import AnomalyWatch.Proofs.Service.Registration

/-!
Runs of a service.

`Service.after` says what one event makes of a service: a call on it, a change of the known specs, a trigger that
wakes, or somebody else who takes triggers away. Two facts are kept by every event: each job has the key of its
function, and each trigger stands for a function that is registered (`InStep`). Without foreign hands each
registered function keeps its trigger as well.
-/

set_option autoImplicit false
set_option relaxedAutoImplicit false

namespace AnomalyWatch.Service

inductive Event
  | start (id : Nat)
  | stop (id : Nat)
  | stopAll
  | runAdHoc (id : Nat) (start stop : Option String)
  /-- Other specs are known from now on. -/
  | specs (known : SpecSet)
  /-- A trigger wakes at its tick. -/
  | wake (key : String) (serial : Nat)
  /-- Somebody else cancels a trigger. -/
  | cancel (key : String)
  /-- Somebody else shuts the scheduler down. -/
  | shutdown

/-- The event comes from somebody who uses the scheduler behind the back of the service. -/
def Event.isForeign : Event → Bool
  | .cancel _ | .shutdown => true
  | _ => false

def after (s : Service (Timetable Job)) : Event → Service (Timetable Job)
  | .start id => (s.start Timetable.answers id).2
  | .stop id => (s.stop Timetable.answers id).2
  | .stopAll => (s.stopAll Timetable.answers).2
  | .runAdHoc id start stop => (s.runAdHoc Timetable.answers id start stop).2
  | .specs known => { s with workshop := { s.workshop with specs := known } }
  | .wake key serial => { s with scheduler := s.scheduler.wake key serial }
  | .cancel key => { s with scheduler := (s.scheduler.respond (.cancel key)).2 }
  | .shutdown => { s with scheduler := s.scheduler.shutdown }

/-- Every job has the key of its function, and every trigger stands for a registered function. -/
structure InStep (s : Service (Timetable Job)) : Prop where
  keyed : ∀ e ∈ s.roster.jobs.entries, e.2 = Workshop.recurringKey e.1
  owned : ∀ key ∈ s.scheduler.keys, ∃ id ∈ s.roster.active, key = Workshop.recurringKey id

/-- Every registered function has its trigger. -/
def Armed (s : Service (Timetable Job)) : Prop :=
  ∀ id ∈ s.roster.active, Workshop.recurringKey id ∈ s.scheduler.keys

variable {s : Service (Timetable Job)}

theorem inStep_idle (w : Workshop) (site : Site) : InStep (idle w Timetable.empty site) where
  keyed _ none := absurd none List.not_mem_nil
  owned _ none := absurd none List.not_mem_nil

theorem armed_idle (w : Workshop) (site : Site) : Armed (idle w Timetable.empty site) :=
  fun _ none => absurd none List.not_mem_nil

theorem InStep.engaged (h : InStep s) (id : Nat) (schedule : Schedule) (job : Job) :
    InStep (s.engaged id schedule job) where
  keyed e present := by
    rcases SortedMap.mem_entries_insert present with rfl | present
    · rfl
    · exact h.keyed e present
  owned key present := by
    rcases SortedMap.mem_keys_insert.mp present with rfl | present
    · exact ⟨id, SortedMap.mem_keys_insert.mpr (.inl rfl), rfl⟩
    · obtain ⟨other, registered, rfl⟩ := h.owned key present
      exact ⟨other, SortedMap.mem_keys_insert.mpr (.inr registered), rfl⟩

theorem Armed.engaged (h : Armed s) (id : Nat) (schedule : Schedule) (job : Job) :
    Armed (s.engaged id schedule job) := by
  intro other registered
  refine SortedMap.mem_keys_insert.mpr ?_
  rcases SortedMap.mem_keys_insert.mp registered with rfl | registered
  · exact .inl rfl
  · exact .inr (h other registered)

theorem InStep.released (h : InStep s) (id : Nat) :
    InStep (s.released id (Workshop.recurringKey id)) where
  keyed e present := h.keyed e (SortedMap.mem_entries_erase.mp present).1
  owned key present := by
    obtain ⟨present, other⟩ := Timetable.mem_keys_without.mp present
    obtain ⟨owner, registered, rfl⟩ := h.owned key present
    have different : owner ≠ id := fun same => other (same ▸ rfl)
    exact ⟨owner, SortedMap.mem_keys_erase.mpr ⟨registered, different⟩, rfl⟩

theorem Armed.released (h : Armed s) (id : Nat) : Armed (s.released id (Workshop.recurringKey id)) := by
  intro other registered
  obtain ⟨registered, different⟩ := SortedMap.mem_keys_erase.mp registered
  have keys : Workshop.recurringKey other ≠ Workshop.recurringKey id :=
    fun same => different (Workshop.recurringKey_inj.mp same)
  exact Timetable.mem_keys_without.mpr ⟨h other registered, keys⟩

private theorem released_induction {motive : Service (Timetable Job) → Prop}
    (step : ∀ s id, motive s → motive (s.released id (Workshop.recurringKey id)))
    {entries : List (Nat × String)} (keyed : ∀ e ∈ entries, e.2 = Workshop.recurringKey e.1)
    (initial : motive s) : motive (entries.foldl (fun s e => s.released e.1 e.2) s) := by
  induction entries generalizing s with
  | nil => exact initial
  | cons e rest ih =>
    have first : motive (s.released e.1 e.2) := by
      rw [keyed e List.mem_cons_self]
      exact step s e.1 initial
    exact ih (fun e present => keyed e (List.mem_cons_of_mem _ present)) first

private theorem InStep.key_of_get? (h : InStep s) {id : Nat} {key : String}
    (registered : s.roster.jobs.get? id = some key) : key = Workshop.recurringKey id :=
  h.keyed (id, key) (SortedMap.mem_entries_of_get?_eq_some registered)

private theorem InStep.stop_of_mem (h : InStep s) {id : Nat} (registered : id ∈ s.roster.active) :
    s.stop Timetable.answers id = (.ok (), s.released id (Workshop.recurringKey id)) := by
  cases found : s.roster.jobs.get? id with
  | none => exact absurd registered (SortedMap.get?_eq_none_iff.mp found)
  | some key =>
    rw [stop_of_registered found, h.key_of_get? found]

private theorem triggers_wake (t : Timetable Job) (key : String) (serial : Nat) :
    (t.wake key serial).triggers = t.triggers := by
  unfold Timetable.wake
  split <;> rfl

private theorem InStep.of_triggers_eq {s' : Service (Timetable Job)} (h : InStep s) (roster : s'.roster = s.roster)
    (triggers : s'.scheduler.triggers = s.scheduler.triggers) : InStep s' where
  keyed := by rw [roster]; exact h.keyed
  owned := by rw [roster, Timetable.keys, triggers]; exact h.owned

private theorem Armed.of_triggers_eq {s' : Service (Timetable Job)} (h : Armed s) (roster : s'.roster = s.roster)
    (triggers : s'.scheduler.triggers = s.scheduler.triggers) : Armed s' := by
  unfold Armed
  rw [roster, Timetable.keys, triggers]
  exact h

/-- What holds behind an event of the service itself: what new triggers bring about, what releasing functions keeps, and
what depends on the roster and the triggers alone. -/
theorem InStep.after_induction (h : InStep s) {motive : Service (Timetable Job) → Prop}
    (engaged : ∀ id schedule job, motive (s.engaged id schedule job))
    (released : ∀ s id, motive s → motive (s.released id (Workshop.recurringKey id)))
    (unchanged : ∀ s' : Service (Timetable Job), s'.roster = s.roster →
      s'.scheduler.triggers = s.scheduler.triggers → motive s')
    {event : Event} (own : event.isForeign = false) : motive (s.after event) := by
  have stays : motive s := unchanged s rfl rfl
  cases event with
  | start id =>
    rcases start_cases s id with ⟨spec, schedule, job, _, _, started⟩ | ⟨e, refused, _⟩
    · rw [Service.after, started]
      exact engaged id schedule job
    · rw [Service.after, refused]
      exact stays
  | stop id =>
    by_cases registered : id ∈ s.roster.active
    · rw [Service.after, h.stop_of_mem registered]
      exact released s id stays
    · rw [Service.after, stop_of_unregistered registered]
      exact stays
  | stopAll =>
    rw [Service.after, stopAll_eq]
    exact released_induction released h.keyed stays
  | runAdHoc id start stop =>
    obtain ⟨roster, triggers⟩ := runAdHoc_frame s id start stop
    exact unchanged _ roster triggers
  | specs known => exact unchanged _ rfl rfl
  | wake key serial => exact unchanged _ rfl (triggers_wake ..)
  | cancel key => cases own
  | shutdown => cases own

theorem InStep.after (h : InStep s) (event : Event) : InStep (s.after event) := by
  cases own : event.isForeign with
  | false =>
    exact h.after_induction h.engaged (fun _ id step => step.released id)
      (fun _ roster triggers => h.of_triggers_eq roster triggers) own
  | true =>
    cases event with
    | cancel key =>
      refine ⟨h.keyed, fun other present => ?_⟩
      rw [Service.after, Timetable.respond_cancel] at present
      exact h.owned other (Timetable.mem_keys_without.mp present).1
    | shutdown => exact ⟨h.keyed, fun _ none => absurd none List.not_mem_nil⟩
    | start _ | stop _ | stopAll | runAdHoc _ _ _ | specs _ | wake _ _ => cases own

theorem Armed.after (h : Armed s) (inStep : InStep s) {event : Event} (own : event.isForeign = false) :
    Armed (s.after event) :=
  inStep.after_induction h.engaged (fun _ id step => step.released id)
    (fun _ roster triggers => h.of_triggers_eq roster triggers) own

theorem InStep.run (h : InStep s) (events : List Event) : InStep (events.foldl Service.after s) := by
  induction events generalizing s with
  | nil => exact h
  | cons event rest ih => exact ih (h.after event)

theorem Armed.run (h : Armed s) (inStep : InStep s) {events : List Event}
    (own : ∀ event ∈ events, event.isForeign = false) : Armed (events.foldl Service.after s) := by
  induction events generalizing s with
  | nil => exact h
  | cons event rest ih =>
    exact ih (h.after inStep (own event List.mem_cons_self)) (inStep.after event)
      fun event later => own event (List.mem_cons_of_mem _ later)

theorem InStep.keys_perm (h : InStep s) (armed : Armed s) :
    s.scheduler.keys.Perm (s.roster.active.map Workshop.recurringKey) := by
  have once : (s.roster.active.map Workshop.recurringKey).Nodup :=
    (SortedMap.nodup_keys _).map fun _ _ same => Workshop.recurringKey_inj.mp same
  refine (List.perm_ext_iff_of_nodup (SortedMap.nodup_keys _) once).mpr fun key => ⟨fun present => ?_, ?_⟩
  · obtain ⟨id, registered, rfl⟩ := h.owned key present
    exact List.mem_map_of_mem registered
  · intro wanted
    obtain ⟨id, registered, rfl⟩ := List.mem_map.mp wanted
    exact armed id registered

theorem InStep.start_ok_iff (h : InStep s) (id : Nat) :
    (s.start Timetable.answers id).1 = .ok () ↔ ∃ spec, Roster.Startable s.workshop s.roster id spec := by
  rcases start_cases s id with ⟨spec, schedule, job, startable, _, started⟩ | ⟨e, refused, taken⟩
  · rw [started]
    exact ⟨fun _ => ⟨spec, startable⟩, fun _ => rfl⟩
  · rw [refused]
    refine ⟨fun ok => (by cases ok), fun ⟨spec, startable⟩ => ?_⟩
    -- The key can only be taken by the function itself, which is not registered.
    obtain ⟨owner, registered, same⟩ := h.owned _ (taken spec startable)
    exact absurd (Workshop.recurringKey_inj.mp same ▸ registered) startable.unregistered

private theorem InStep.stop_ok_iff (h : InStep s) (id : Nat) :
    (s.stop Timetable.answers id).1 = .ok () ↔ id ∈ s.roster.active := by
  by_cases registered : id ∈ s.roster.active
  · rw [h.stop_of_mem registered]
    exact ⟨fun _ => registered, fun _ => rfl⟩
  · rw [stop_of_unregistered registered]
    exact ⟨fun ok => (by cases ok), fun present => absurd present registered⟩

theorem mem_active_start (s : Service (Timetable Job)) (id other : Nat) :
    other ∈ (s.start Timetable.answers id).2.roster.active ↔
      other ∈ s.roster.active ∨ other = id ∧ (s.start Timetable.answers id).1 = .ok () := by
  rcases start_cases s id with ⟨spec, schedule, job, _, _, started⟩ | ⟨e, refused, _⟩
  · rw [started]
    refine SortedMap.mem_keys_insert.trans (or_comm.trans (or_congr_right ?_))
    exact ⟨fun same => ⟨same, rfl⟩, And.left⟩
  · rw [refused]
    exact ⟨.inl, fun h => h.elim (fun present => present) fun ⟨_, ok⟩ => (by cases ok)⟩

private theorem InStep.mem_active_stop (h : InStep s) (id other : Nat) :
    other ∈ (s.stop Timetable.answers id).2.roster.active ↔ other ∈ s.roster.active ∧ other ≠ id := by
  by_cases registered : id ∈ s.roster.active
  · rw [h.stop_of_mem registered]
    exact SortedMap.mem_keys_erase
  · rw [stop_of_unregistered registered]
    exact ⟨fun present => ⟨present, fun same => registered (same ▸ present)⟩, And.left⟩

/-- Whatever is done to a service that started with nothing, and in which order: as long as nobody else uses
the scheduler, its keys are those of the registered functions, each once. A function starts exactly if it is
not registered, its spec is known, its detector can be built and its expression read, and stops exactly if it
is registered; then it is in the roster or out of it. A one-shot run changes neither side. If others take
triggers away, no trigger is left without its function, and starting and stopping succeed as before. -/
theorem keys_follow_roster (w : Workshop) (site : Site) (events : List Event) :
    let s := events.foldl Service.after (idle w Timetable.empty site)
    ((∀ event ∈ events, event.isForeign = false) →
      s.scheduler.keys.Perm (s.roster.active.map Workshop.recurringKey)) ∧
    s.scheduler.keys.Nodup ∧
    (∀ key ∈ s.scheduler.keys, ∃ id ∈ s.roster.active, key = Workshop.recurringKey id) ∧
    (∀ id, (s.start Timetable.answers id).1 = .ok () ↔
      id ∉ s.roster.active ∧ ∃ spec, s.workshop.specs.get? id = some spec ∧
        (∃ d, s.workshop.catalogue.build spec = .ok d) ∧ ∃ schedule, Cron.parse spec.cron = .ok schedule) ∧
    (∀ id other, other ∈ (s.start Timetable.answers id).2.roster.active ↔
      other ∈ s.roster.active ∨ other = id ∧ (s.start Timetable.answers id).1 = .ok ()) ∧
    (∀ id, (s.stop Timetable.answers id).1 = .ok () ↔ id ∈ s.roster.active) ∧
    (∀ id other, other ∈ (s.stop Timetable.answers id).2.roster.active ↔
      other ∈ s.roster.active ∧ other ≠ id) ∧
    ∀ id start stop, (s.runAdHoc Timetable.answers id start stop).2.roster = s.roster ∧
      (s.runAdHoc Timetable.answers id start stop).2.scheduler.keys = s.scheduler.keys := by
  intro s
  have inStep : InStep s := (inStep_idle w site).run events
  refine ⟨fun own => ?_, SortedMap.nodup_keys _, inStep.owned, fun id => ?_, mem_active_start s,
    inStep.stop_ok_iff, inStep.mem_active_stop, fun id start stop => ?_⟩
  · exact inStep.keys_perm ((armed_idle w site).run (inStep_idle w site) own)
  · rw [inStep.start_ok_iff]
    exact Roster.exists_startable_iff
  · obtain ⟨roster, triggers⟩ := runAdHoc_frame s id start stop
    exact ⟨roster, by rw [Timetable.keys, triggers, Timetable.keys]⟩

/-- Two functions are started, one of them is stopped and its spec forgotten: the trigger of the other is
left. -/
theorem keys_after_stop :
    let spec (id : Nat) : Spec :=
      { id, functionType := "THRESHOLD", metric := "latency", collection := "web", cron := "0 0 * * * *"
        windowSize := 1, windowUnit := .days, windowDelay := none, windowDelayUnit := none, bucketSize := 1
        bucketUnit := .hours, exploreDimensions := none, properties := .ofList [("max", "10")]
        isActive := true }
    let events : List Event := [.start 1, .start 2, .stop 1, .specs (.ofList [(2, spec 2)]), .start 1]
    (∀ event ∈ events, event.isForeign = false) ∧
      (events.foldl Service.after (idle ⟨.ofList [(1, spec 1), (2, spec 2)], .standard⟩ Timetable.empty
        Site.empty)).scheduler.keys = ["scheduled_anomaly_function_job_2"] := by
  intro spec events
  have own : ∀ event ∈ events, event.isForeign = false := by simp [events, Event.isForeign]
  refine ⟨own, ?_⟩
  have keys := (keys_follow_roster ⟨.ofList [(1, spec 1), (2, spec 2)], .standard⟩ Site.empty events).1 own
  have active : (events.foldl Service.after (idle ⟨.ofList [(1, spec 1), (2, spec 2)], .standard⟩
      Timetable.empty Site.empty)).roster.active = [2] := by
    decide +kernel
  rw [active] at keys
  exact List.perm_singleton.mp keys

end AnomalyWatch.Service
