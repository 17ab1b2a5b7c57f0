import AnomalyWatch.Proofs.Service.InStep
import AnomalyWatch.Service.Worker
import Mathlib.Data.List.Sort

/-!
What a worker starts and stops.

A start that fails changes nothing, so after starting functions in turn the registered ones are those that were
named and can be served, whatever the order and however often one was named. Stopping all of them releases each
with its trigger.
-/

set_option autoImplicit false
set_option relaxedAutoImplicit false

namespace AnomalyWatch

private theorem Roster.active_ascending (r : Roster) : r.active.Pairwise (· < ·) :=
  List.pairwise_map.mpr (r.jobs.ascending.imp Nat.compare_eq_lt.mp)

namespace Service

variable {s : Service (Timetable Job)}

private theorem startEach_eq_run (s : Service (Timetable Job)) (ids : List Nat) :
    (s.startEach Timetable.answers ids).2 = (ids.map Event.start).foldl Service.after s := by
  induction ids generalizing s with
  | nil => rfl
  | cons id rest ih =>
    rw [List.map_cons, List.foldl_cons, Service.after, ← ih, startEach]
    rcases s.start Timetable.answers id with ⟨_ | _, next⟩
    · rfl
    · rfl

theorem InStep.startEach (h : InStep s) (ids : List Nat) :
    InStep (s.startEach Timetable.answers ids).2 := by
  rw [startEach_eq_run]
  exact h.run _

theorem Armed.startEach (h : Armed s) (inStep : InStep s) (ids : List Nat) :
    Armed (s.startEach Timetable.answers ids).2 := by
  rw [startEach_eq_run]
  refine h.run inStep fun event called => ?_
  obtain ⟨id, _, rfl⟩ := List.mem_map.mp called
  rfl

theorem InStep.mem_active_start (h : InStep s) (id other : Nat) :
    other ∈ (s.start Timetable.answers id).2.roster.active ↔
      other ∈ s.roster.active ∨ other = id ∧ s.workshop.CanServe id := by
  rw [Service.mem_active_start, h.start_ok_iff, Roster.exists_startable_iff]
  constructor
  · rintro (present | ⟨same, _, served⟩)
    · exact .inl present
    · exact .inr ⟨same, served⟩
  · rintro (present | ⟨rfl, served⟩)
    · exact .inl present
    · by_cases present : other ∈ s.roster.active
      · exact .inl present
      · exact .inr ⟨rfl, present, served⟩

private theorem InStep.mem_active_startEach (h : InStep s) (ids : List Nat) (other : Nat) :
    other ∈ (s.startEach Timetable.answers ids).2.roster.active ↔
      other ∈ s.roster.active ∨ other ∈ ids ∧ s.workshop.CanServe other := by
  rw [startEach_eq_run]
  induction ids generalizing s with
  | nil => simp
  | cons id rest ih =>
    -- The functions that can be served stay the same: a start leaves the workshop alone.
    have first : other ∈ (s.after (.start id)).roster.active ↔
        other ∈ s.roster.active ∨ other = id ∧ s.workshop.CanServe id := h.mem_active_start id other
    have later := ih (h.after (.start id))
    rw [List.map_cons, List.foldl_cons, later, first, List.mem_cons]
    have workshop : (s.after (.start id)).workshop = s.workshop := rfl
    rw [workshop]
    constructor
    · rintro ((present | ⟨rfl, served⟩) | ⟨named, served⟩)
      · exact .inl present
      · exact .inr ⟨.inl rfl, served⟩
      · exact .inr ⟨.inr named, served⟩
    · rintro (present | ⟨rfl | named, served⟩)
      · exact .inl (.inl present)
      · exact .inl (.inr ⟨rfl, served⟩)
      · exact .inr ⟨named, served⟩

private theorem mem_wanted {ids : List Nat} {id : Nat} : id ∈ s.wanted ids ↔
    if ids = [] then ∃ spec ∈ s.workshop.specs.values, spec.isActive = true ∧ spec.id = id
    else id ∈ ids := by
  cases ids with
  | nil => simp [wanted, and_assoc]
  | cons first rest => simp [wanted]

private theorem mem_active_released {entries : List (Nat × String)} {id : Nat} :
    id ∈ (entries.foldl (fun s e => s.released e.1 e.2) s).roster.active ↔
      id ∈ s.roster.active ∧ ∀ e ∈ entries, e.1 ≠ id := by
  induction entries generalizing s with
  | nil => simp
  | cons e rest ih =>
    have first : id ∈ (s.released e.1 e.2).roster.active ↔ id ∈ s.roster.active ∧ id ≠ e.1 :=
      SortedMap.mem_keys_erase
    rw [List.foldl_cons, ih, first, List.forall_mem_cons, and_assoc, ne_comm]

private theorem active_stopAll (s : Service (Timetable Job)) :
    (s.stopAll Timetable.answers).2.roster.active = [] := by
  rw [stopAll_eq]
  refine List.eq_nil_iff_forall_not_mem.mpr fun id present => ?_
  obtain ⟨registered, other⟩ := mem_active_released.mp present
  obtain ⟨e, held, rfl⟩ := List.mem_map.mp registered
  exact other e held rfl

private theorem InStep.keys_stopAll (h : InStep s) : (s.stopAll Timetable.answers).2.scheduler.keys = [] := by
  have left : InStep (s.after .stopAll) := h.after .stopAll
  refine List.eq_nil_iff_forall_not_mem.mpr fun key present => ?_
  obtain ⟨id, registered, _⟩ := left.owned key present
  have none : (s.after .stopAll).roster.active = [] := active_stopAll s
  rw [none] at registered
  cases registered

end Service

namespace Worker

private theorem shutdown_count (w : Worker) : w.shutdown.1 = w.service.roster.active.length := by
  have stopped : w.shutdown.1 = (w.service.stopAll Timetable.answers).1 := rfl
  rw [stopped, Service.stopAll_eq, Roster.active, SortedMap.keys, List.length_map]

/-- A worker that starts functions and runs none yet registers those that are named, or the active ones where
none is, as far as their specs are known, their detectors can be built and their expressions read; the order
and repetitions of the list and the starts that fail make no difference. Each has its trigger and there is no
other. Whatever its state when it is told to stop, the worker reports as many functions as are registered,
and neither a function nor a trigger is left. -/
theorem serves_startable (workshop : Workshop) (site : Site) (metrics : MetricService)
    (journal : Option String) (ids : List Nat) :
    let idle : Worker := ⟨.idle workshop Timetable.empty site, metrics, journal⟩
    let w := (idle.begin ids).2
    (w.service.roster.active.Pairwise (· < ·) ∧
      (∀ id, id ∈ w.service.roster.active ↔
        (if ids = [] then ∃ spec ∈ workshop.specs.values, spec.isActive = true ∧ spec.id = id
          else id ∈ ids) ∧ workshop.CanServe id) ∧
      ∀ ids', (∀ id, id ∈ ids' ↔ id ∈ ids) →
        (idle.begin ids').2.service.roster.active = w.service.roster.active) ∧
    w.service.scheduler.keys.Perm (w.service.roster.active.map Workshop.recurringKey) ∧
    (w.service.stopAll Timetable.answers).2.scheduler.keys = [] ∧
    (∀ told : Worker, told.shutdown.1 = told.service.roster.active.length ∧
      told.shutdown.2.service.roster.active = [] ∧ told.shutdown.2.service.scheduler.keys = []) ∧
    ∀ (m : Type → Type) [Monad m] (machine : Machine m) (c : Config) (specs : SpecSet),
      serve machine c specs ids = do
        match ← build machine c specs with
        | .error e => return .error e
        | .ok built =>
          noteAll machine ((built.begin ids).1.map fun r => .notStarted r.1 r.2)
          machine.note (.running (built.begin ids).2.service.roster.active)
          let told ← machine.attend (built.begin ids).2
          machine.note (.stopped told.service.roster.active.length)
          return .ok () := by
  intro idle w
  have inStep : Service.InStep idle.service := Service.inStep_idle workshop site
  have armed : Service.Armed idle.service := Service.armed_idle workshop site
  have registered (ids : List Nat) (id : Nat) : id ∈ (idle.begin ids).2.service.roster.active ↔
      (if ids = [] then ∃ spec ∈ workshop.specs.values, spec.isActive = true ∧ spec.id = id
        else id ∈ ids) ∧ workshop.CanServe id := by
    have started := inStep.mem_active_startEach (idle.service.wanted ids) id
    have none : id ∉ idle.service.roster.active := List.not_mem_nil
    rw [Service.mem_wanted, or_iff_right none] at started
    exact started
  have begun : Service.InStep w.service := inStep.startEach _
  refine ⟨⟨Roster.active_ascending _, registered ids, fun ids' same => ?_⟩,
    begun.keys_perm (armed.startEach inStep _), begun.keys_stopAll, fun told => ?_,
    fun m _ machine c specs => ?_⟩
  · apply List.Pairwise.eq_of_mem_iff (Roster.active_ascending _) (Roster.active_ascending _)
    intro id
    have both : ids' = [] ↔ ids = [] := by
      rw [List.eq_nil_iff_forall_not_mem, List.eq_nil_iff_forall_not_mem]
      exact forall_congr' fun id => not_congr (same id)
    simp only [w, registered, both, same]
  · exact ⟨told.shutdown_count, Service.active_stopAll told.service, rfl⟩
  · simp only [← shutdown_count]
    rfl

/-- Of the functions that are named, one of them twice, two can be served; the others are unknown, of an unknown
type, or have an expression that cannot be read. -/
theorem serves_two_of_named :
    let spec (id : Nat) (functionType cron : String) : Spec :=
      { id, functionType, metric := "latency", collection := "web", cron, windowSize := 1
        windowUnit := .days, windowDelay := none, windowDelayUnit := none, bucketSize := 1
        bucketUnit := .hours, exploreDimensions := none, properties := .ofList [("max", "10")]
        isActive := id ≠ 2 }
    let specs : SpecSet := .ofList
      [(1, spec 1 "THRESHOLD" "0 0 * * * *"), (2, spec 2 "threshold" "0 0 * * * *"),
        (3, spec 3 "THRESHOLD" "hourly"), (4, spec 4 "SEASONAL" "0 0 * * * *")]
    let metrics : MetricService := ⟨⟨[], none, .segments [], none, none⟩, 1⟩
    let idle : Worker := ⟨.idle ⟨specs, .standard⟩ Timetable.empty Site.empty, metrics, none⟩
    (∀ id, id ∈ [4, 3, 2, 1, 9] ↔ id ∈ [3, 2, 9, 1, 2, 4]) ∧
      (idle.begin [4, 3, 2, 1, 9]).2.service.roster.active = [1, 2] ∧
      (idle.begin [3, 2, 9, 1, 2, 4]).2.shutdown.1 = 2 := by
  intro spec specs metrics idle
  have same : ∀ id, id ∈ [4, 3, 2, 1, 9] ↔ id ∈ [3, 2, 9, 1, 2, 4] := by grind
  have active : (idle.begin [3, 2, 9, 1, 2, 4]).2.service.roster.active = [1, 2] := by decide +kernel
  clear_value specs
  have serves := serves_startable ⟨specs, .standard⟩ Site.empty metrics none [3, 2, 9, 1, 2, 4]
  obtain ⟨⟨_, _, unordered⟩, _, _, stopped, _⟩ := serves
  have count := (stopped (idle.begin [3, 2, 9, 1, 2, 4]).2).1
  exact ⟨same, (unordered _ same).trans active, count.trans (congrArg List.length active)⟩

end Worker

end AnomalyWatch
