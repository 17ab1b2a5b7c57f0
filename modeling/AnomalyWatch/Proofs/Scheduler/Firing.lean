import AnomalyWatch.Proofs.Scheduler.Standing
import AnomalyWatch.Proofs.Service.Registration
import AnomalyWatch.Proofs.Text.ByteOrder

/-!
The scheduler fires only what is scheduled.

The runners that are not aborted are those of the triggers in the timetable, and these are the triggers that stand by
what has happened. So a runner, which never looks into the timetable, fires exactly if its trigger still stands under
its key.
-/

set_option autoImplicit false
set_option relaxedAutoImplicit false

namespace AnomalyWatch.Clockwork

variable {Task : Type}

section Step

variable {c : Clockwork Task} {key cron : String} {task : Task}

def engaged (c : Clockwork Task) (key : String) (schedule : Schedule) (task : Task) : Clockwork Task :=
  ⟨{ c.timetable with
      triggers := c.timetable.triggers.insert key ⟨c.timetable.nextSerial, schedule, task⟩
      nextSerial := c.timetable.nextSerial + 1 },
    c.runners ++ [.start key schedule task]⟩

def released (c : Clockwork Task) (key : String) (serial : Nat) : Clockwork Task :=
  ⟨c.timetable.without key, abort c.runners [serial]⟩

private theorem respond_call_ok {call : Scheduler.Call Task} {timetable : Timetable Task}
    (accepted : c.timetable.respond call = (.ok (), timetable)) :
    c.respond (.call call) = (.ok (), ⟨timetable, c.runnersAfter call⟩) := by
  rw [respond, answer, accepted]

private theorem respond_call_error {call : Scheduler.Call Task} {e : Error}
    (refused : c.timetable.respond call = (.error e, c.timetable)) : c.respond (.call call) = (.error e, c) := by
  rw [respond, answer, refused]

private theorem started_of_parse {schedule : Schedule} (parsed : Cron.parse cron = .ok schedule) :
    started key cron task = [.start key schedule task] := by
  unfold started
  rw [parsed]

private theorem respond_recurring (c : Clockwork Task) (key cron : String) (task : Task) :
    (∃ schedule, Cron.parse cron = .ok schedule ∧ key ∉ c.timetable.keys ∧
      c.respond (.call (.recurring key cron task)) = (.ok (), c.engaged key schedule task)) ∨
    ∃ e, ((∃ refused, Cron.parse cron = .error refused) ∨ key ∈ c.timetable.keys) ∧
      c.respond (.call (.recurring key cron task)) = (.error e, c) := by
  cases outcome : c.timetable.recurring key cron task with
  | ok timetable =>
    have answered : c.timetable.respond (.recurring key cron task) = (.ok (), timetable) := by
      rw [Timetable.respond, outcome, Timetable.attempt]
    obtain ⟨schedule, parsed, free, rfl⟩ := Timetable.recurring_eq_ok.mp outcome
    refine .inl ⟨schedule, parsed, free, ?_⟩
    rw [respond_call_ok answered, runnersAfter, started_of_parse parsed, engaged]
  | error e =>
    have answered : c.timetable.respond (.recurring key cron task) = (.error e, c.timetable) := by
      rw [Timetable.respond, outcome, Timetable.attempt]
    refine .inr ⟨e, ?_, ?_⟩
    · cases parsed : Cron.parse cron with
      | error refused => exact .inl ⟨refused, rfl⟩
      | ok schedule =>
        refine .inr (Decidable.not_not.mp fun free => ?_)
        have succeeds : c.timetable.recurring key cron task = .ok _ :=
          Timetable.recurring_eq_ok.mpr ⟨schedule, parsed, free, rfl⟩
        rw [outcome] at succeeds
        cases succeeds
    · exact respond_call_error answered

theorem respond_cancel (c : Clockwork Task) (key : String) :
    (∃ trigger, c.timetable.triggers.get? key = some trigger ∧
      c.respond (.call (.cancel key)) = (.ok (), c.released key trigger.serial)) ∨
    key ∉ c.timetable.keys ∧ c.respond (.call (.cancel key)) = (.error (.unknownTrigger key), c) := by
  have answered : c.timetable.respond (.cancel key) =
      (if key ∈ c.timetable.keys then .ok () else .error (.unknownTrigger key), c.timetable.without key) :=
    Timetable.respond_cancel
  cases found : c.timetable.triggers.get? key with
  | some trigger =>
    have present : key ∈ c.timetable.keys := SortedMap.mem_keys_iff_get?.mpr ⟨trigger, found⟩
    rw [if_pos present] at answered
    refine .inl ⟨trigger, rfl, ?_⟩
    rw [respond_call_ok answered, runnersAfter, found]
    rfl
  | none =>
    have absent : key ∉ c.timetable.keys := SortedMap.get?_eq_none_iff.mp found
    have same : c.timetable.without key = c.timetable := by
      rw [Timetable.without, SortedMap.erase_of_not_mem_keys absent]
    rw [if_neg absent, same] at answered
    exact .inr ⟨absent, respond_call_error answered⟩

private theorem turn_cases (c : Clockwork Task) (serial : Nat) (reading : WallTime) :
    c.turn serial reading = c ∨
    ∃ r, c.runners[serial]? = some r ∧ r.aborted = false ∧ c.turn serial reading =
      ⟨{ c.timetable with firings := c.timetable.firings ++ fired r serial },
        c.runners.set serial (r.turn reading)⟩ := by
  unfold turn
  split
  next => exact .inl rfl
  next r found =>
    split
    next => exact .inl rfl
    next atWork => exact .inr ⟨r, found, by simpa using atWork, rfl⟩

end Step

section Runners

variable {runners : List (Runner Task)} {key : String} {trigger : Trigger Task}

structure Serves (r : Runner Task) (key : String) (trigger : Trigger Task) : Prop where
  atWork : r.aborted = false
  key : r.key = key
  schedule : r.schedule = trigger.schedule
  task : r.task = trigger.task

def Works (runners : List (Runner Task)) (key : String) (trigger : Trigger Task) : Prop :=
  ∃ r, runners[trigger.serial]? = some r ∧ Serves r key trigger

private theorem works_started {other : String} {schedule : Schedule} {task : Task} :
    Works (runners ++ [.start other schedule task]) key trigger ↔
      Works runners key trigger ∨ key = other ∧ trigger = ⟨runners.length, schedule, task⟩ := by
  constructor
  · rintro ⟨r, found, serves⟩
    rcases Nat.lt_trichotomy trigger.serial runners.length with old | new | none
    · rw [List.getElem?_append_left old] at found
      exact .inl ⟨r, found, serves⟩
    · rw [new, List.getElem?_concat_length] at found
      obtain rfl := Option.some.inj found
      refine .inr ⟨serves.key.symm, ?_⟩
      cases trigger
      obtain rfl := serves.schedule
      obtain rfl := serves.task
      exact congrArg (Trigger.mk · schedule task) new
    · rw [List.getElem?_eq_none (by simp; omega)] at found
      cases found
  · rintro (⟨r, found, serves⟩ | ⟨rfl, rfl⟩)
    · obtain ⟨old, -⟩ := List.getElem?_eq_some_iff.mp found
      exact ⟨r, by rw [List.getElem?_append_left old, found], serves⟩
    · exact ⟨.start key schedule task, List.getElem?_concat_length, rfl, rfl, rfl, rfl⟩

private theorem works_abort {serials : List Nat} :
    Works (abort runners serials) key trigger ↔ Works runners key trigger ∧ trigger.serial ∉ serials := by
  unfold Works abort
  rw [List.getElem?_mapIdx]
  constructor
  · rintro ⟨r, found, serves⟩
    obtain ⟨r, held, rfl⟩ := Option.map_eq_some_iff.mp found
    split at serves
    next => cases serves.atWork
    next kept => exact ⟨⟨r, held, serves⟩, kept⟩
  · rintro ⟨⟨r, found, serves⟩, kept⟩
    exact ⟨r, by rw [found, Option.map_some, if_neg kept], serves⟩

private theorem serves_left {r : Runner Task} (left : Schedule.Step (Option Instant)) :
    Serves { r with left } key trigger ↔ Serves r key trigger := by
  constructor
  · intro serves
    exact ⟨serves.atWork, serves.key, serves.schedule, serves.task⟩
  · intro serves
    exact ⟨serves.atWork, serves.key, serves.schedule, serves.task⟩

private theorem serves_turn {r : Runner Task} {reading : WallTime} :
    Serves (r.turn reading) key trigger ↔ Serves r key trigger := by
  have kept (left : Schedule.Step (Option Instant)) : Serves (r.goOn left) key trigger ↔ Serves r key trigger := by
    unfold Runner.goOn
    split
    · exact serves_left _
    · exact serves_left _
  unfold Runner.turn
  split
  · exact Iff.rfl
  · exact kept _
  · exact kept _
  · exact kept _

private theorem works_set {r : Runner Task} {serial : Nat} {reading : WallTime} (found : runners[serial]? = some r) :
    Works (runners.set serial (r.turn reading)) key trigger ↔ Works runners key trigger := by
  obtain ⟨within, -⟩ := List.getElem?_eq_some_iff.mp found
  unfold Works
  by_cases here : trigger.serial = serial
  · rw [here, List.getElem?_set_self within, found]
    simp [serves_turn]
  · rw [List.getElem?_set_ne (Ne.symm here)]

private theorem Works.key_eq {other : String} {trigger' : Trigger Task} (works : Works runners key trigger)
    (works' : Works runners other trigger') (same : trigger.serial = trigger'.serial) : key = other := by
  obtain ⟨r, found, serves⟩ := works
  obtain ⟨r', found', serves'⟩ := works'
  rw [same, found'] at found
  obtain rfl := Option.some.inj found
  exact serves.key.symm.trans serves'.key

end Runners

/-- Timetable, runners and history agree. -/
structure Meshed (log : Log Task) (c : Clockwork Task) : Prop where
  counted : c.timetable.nextSerial = installations log
  numbered : c.runners.length = installations log
  working : ∀ key trigger, c.timetable.triggers.get? key = some trigger ↔ Works c.runners key trigger
  standing : ∀ key trigger, c.timetable.triggers.get? key = some trigger ↔ Standing log key trigger
  accounts : Accounts log c.timetable.firings

section Meshed

variable {log : Log Task} {c : Clockwork Task} {key cron : String} {task : Task} {schedule : Schedule}
  {trigger : Trigger Task}

private theorem meshed_idle : Meshed ([] : Log Task) idle where
  counted := rfl
  numbered := rfl
  working key trigger := by
    constructor
    · intro found
      cases found
    · rintro ⟨r, found, -⟩
      cases found
  standing key trigger := by
    constructor
    · intro found
      cases found
    · rintro ⟨before, cron, after, split, -⟩
      cases before <;> cases split
  accounts := .nil

/-- An event that installs nothing, starts nothing and ends nothing that stands changes nothing. -/
theorem Meshed.unchanged (h : Meshed log c) {e : Event Task × Except Error Unit} (installs : installed? e = none)
    (ends : ∀ key, e.1.Ends key → key ∉ c.timetable.keys) (starts : Starts log e.1 []) : Meshed (log ++ [e]) c where
  counted := by simp [h.counted, installs]
  numbered := by simp [h.numbered, installs]
  working := h.working
  standing key trigger := by
    by_cases ended : e.1.Ends key
    · have absent := SortedMap.get?_eq_none_iff.mpr (ends key ended)
      exact iff_of_false (by simp [absent]) (not_standing_of_ends ended)
    · rw [standing_concat_of_other (by simp [installs]) ended, h.standing]
  accounts := h.accounts.silent e.2 starts

theorem Meshed.engaged (h : Meshed log c) (parsed : Cron.parse cron = .ok schedule) (free : key ∉ c.timetable.keys) :
    Meshed (log ++ [(.call (.recurring key cron task), .ok ())]) (c.engaged key schedule task) where
  counted := by simp [Clockwork.engaged, h.counted, installed?]
  numbered := by simp [Clockwork.engaged, h.numbered, installed?]
  working other trigger := by
    have absent := SortedMap.get?_eq_none_iff.mpr free
    rw [Clockwork.engaged, works_started, ← h.working, SortedMap.get?_insert, h.counted, h.numbered]
    split
    next same =>
      subst same
      rw [absent, Option.some.injEq]
      simp [eq_comm]
    next apart => simp [Ne.symm apart]
  standing other trigger := by
    rw [Clockwork.engaged, SortedMap.get?_insert, h.counted]
    split
    next same =>
      subst same
      rw [standing_concat]
      constructor
      · intro found
        obtain rfl := Option.some.inj found
        exact .inl ⟨cron, rfl, parsed, rfl⟩
      · rintro (⟨cron', same, parsed', serial⟩ | ⟨-, replaced, -⟩)
        · obtain ⟨n, s, u⟩ := trigger
          cases same
          obtain rfl := Except.ok.inj (parsed.symm.trans parsed')
          obtain rfl : n = installations log := serial
          rfl
        · exact absurd rfl replaced
    next apart =>
      refine (h.standing other trigger).trans (standing_concat_of_other ?_ id).symm
      exact fun same => apart (Option.some.inj same)
  accounts := h.accounts.silent (.ok ()) (.recurring key cron task)

theorem Meshed.released (h : Meshed log c) (found : c.timetable.triggers.get? key = some trigger) :
    Meshed (log ++ [(.call (.cancel key), .ok ())]) (c.released key trigger.serial) where
  counted := by simp [Clockwork.released, Timetable.without, h.counted, installed?]
  numbered := by simp [Clockwork.released, abort, h.numbered, installed?]
  working other trigger' := by
    rw [Clockwork.released, works_abort, ← h.working, Timetable.without, SortedMap.get?_erase, List.mem_singleton]
    split
    next same =>
      subst same
      constructor
      · intro none
        cases none
      · rintro ⟨found', apart⟩
        obtain rfl := Option.some.inj (found.symm.trans found')
        exact absurd rfl apart
    next apart =>
      refine ⟨fun found' => ⟨found', fun same => apart ?_⟩, And.left⟩
      exact ((h.working key trigger).mp found).key_eq ((h.working other trigger').mp found') same.symm
  standing other trigger' := by
    rw [Clockwork.released, Timetable.without, SortedMap.get?_erase]
    split
    next same => exact iff_of_false (by simp) (not_standing_of_ends same)
    next apart =>
      refine (h.standing other trigger').trans (standing_concat_of_other ?_ ?_).symm
      · simp [installed?]
      · exact apart
  accounts := h.accounts.silent (.ok ()) (.cancel key)

theorem Meshed.shutdown (h : Meshed log c) : Meshed (log ++ [(.shutdown, .ok ())]) c.shutdown where
  counted := by simp [Clockwork.shutdown, Timetable.shutdown, h.counted, installed?]
  numbered := by simp [Clockwork.shutdown, abort, h.numbered, installed?]
  working key trigger := by
    rw [Clockwork.shutdown, works_abort, ← h.working]
    constructor
    · intro none
      cases none
    · rintro ⟨found, kept⟩
      have listed : trigger ∈ c.timetable.triggers.values :=
        List.mem_map.mpr ⟨(key, trigger), SortedMap.mem_entries_of_get?_eq_some found, rfl⟩
      exact absurd (List.mem_map_of_mem listed) kept
  standing key trigger := by
    refine iff_of_false ?_ (not_standing_of_ends trivial)
    intro none
    cases none
  accounts := h.accounts.silent (.ok ()) .shutdown

theorem Meshed.once (h : Meshed log c) (key : String) (task : Task) :
    Meshed (log ++ [(.call (.once key task), .ok ())]) { c with timetable := c.timetable.once key task } where
  counted := by simp [Timetable.once, h.counted, installed?]
  numbered := by simp [h.numbered, installed?]
  working := h.working
  standing other trigger := by
    rw [standing_concat_of_other (by simp [installed?]) id, ← h.standing]
    rfl
  accounts := h.accounts.concat (.ok ()) (.once key task)

theorem Meshed.turn (h : Meshed log c) (serial : Nat) (reading : WallTime) :
    Meshed (log ++ [(.turn serial reading, .ok ())]) (c.turn serial reading) := by
  rcases turn_cases c serial reading with same | ⟨r, found, atWork, turned⟩
  · rw [same]
    exact h.unchanged rfl (fun _ ends => ends.elim) (.idle serial reading)
  · have starts : Starts log (.turn serial reading) (fired r serial) := by
      have works : Works c.runners r.key ⟨serial, r.schedule, r.task⟩ := ⟨r, found, atWork, rfl, rfl, rfl⟩
      have standing := (h.standing _ _).mp ((h.working _ _).mpr works)
      unfold fired
      split
      · exact .turn standing reading
      · exact .idle serial reading
    rw [turned]
    refine ⟨by simp [h.counted, installed?], by simp [h.numbered, installed?], fun key trigger => ?_,
      fun key trigger => ?_, h.accounts.concat (.ok ()) starts⟩
    · rw [works_set found]
      exact h.working key trigger
    · rw [standing_concat_of_other (by simp [installed?]) id]
      exact h.standing key trigger

theorem Meshed.after (h : Meshed log c) (event : Event Task) :
    Meshed (log ++ [(event, (c.respond event).1)]) (c.respond event).2 := by
  cases event with
  | call call =>
    cases call with
    | recurring key cron task =>
      rcases respond_recurring c key cron task with ⟨schedule, parsed, free, accepted⟩ | ⟨e, -, refused⟩
      · rw [accepted]
        exact h.engaged parsed free
      · rw [refused]
        exact h.unchanged rfl (fun _ ends => ends.elim) (.recurring key cron task)
    | once key task => exact h.once key task
    | cancel key =>
      rcases respond_cancel c key with ⟨trigger, found, accepted⟩ | ⟨absent, refused⟩
      · rw [accepted]
        exact h.released found
      · rw [refused]
        exact h.unchanged rfl (fun _ same => same ▸ absent) (.cancel key)
  | shutdown => exact h.shutdown
  | turn serial reading => exact h.turn serial reading

private theorem meshed_run (events : List (Event Task)) : Meshed (run events).1 (run events).2 := by
  have onward (events : List (Event Task)) (s : Log Task × Clockwork Task) (h : Meshed s.1 s.2) :
      Meshed (events.foldl after s).1 (events.foldl after s).2 := by
    induction events generalizing s with
    | nil => exact h
    | cons event rest ih => exact ih (after s event) (h.after event)
  exact onward events _ meshed_idle

/-- The key of a runner that is about to start its task. -/
def due? (c : Clockwork Task) (serial : Nat) : Option String :=
  (c.runners[serial]?).bind fun r => if r.isDue then some r.key else none

/-- A runner that is about to start its task does what a wake-up does that looks into the timetable. -/
theorem Meshed.timetable_turn (h : Meshed log c) (serial : Nat) (reading : WallTime) :
    (c.turn serial reading).timetable =
      match c.due? serial with
      | some key => c.timetable.wake key serial
      | none => c.timetable := by
  unfold Clockwork.turn due?
  cases found : c.runners[serial]? with
  | none => rfl
  | some r =>
    cases due : r.isDue with
    | false => cases aborted : r.aborted <;> simp [fired, due, aborted]
    | true =>
      cases aborted : r.aborted with
      | true =>
        have gone : c.timetable.standing? r.key serial = none := by
          refine Option.filter_eq_none_iff.mpr fun trigger stands same => ?_
          obtain ⟨r', found', serves⟩ := (h.working r.key trigger).mp stands
          rw [of_decide_eq_true same, found] at found'
          obtain rfl := Option.some.inj found'
          cases aborted.symm.trans serves.atWork
        simp [Timetable.wake, gone, due, aborted]
      | false =>
        have works : Works c.runners r.key ⟨serial, r.schedule, r.task⟩ := ⟨r, found, aborted, rfl, rfl, rfl⟩
        have stands : c.timetable.standing? r.key serial = some ⟨serial, r.schedule, r.task⟩ := by
          rw [Timetable.standing?, (h.working _ _).mpr works]
          simp
        simp [Timetable.wake, stands, due, aborted, fired]

private theorem octets_lt_keys (m : SortedMap String (Trigger Task)) :
    m.keys.Pairwise fun a b => Text.octets a < Text.octets b :=
  List.pairwise_map.mpr (m.ascending.imp fun below => Text.octets_lt_iff.mpr (compare_lt_iff_lt.mp below))

private theorem Meshed.mem_keys_iff (h : Meshed log c) :
    key ∈ c.timetable.keys ↔ ∃ trigger, Standing log key trigger := by
  simp only [← h.standing]
  exact SortedMap.mem_keys_iff_get?

private theorem respond_recurring_ok_iff : (c.respond (.call (.recurring key cron task))).1 = .ok () ↔
    (∃ schedule, Cron.parse cron = .ok schedule) ∧ key ∉ c.timetable.keys := by
  rcases respond_recurring c key cron task with ⟨schedule, parsed, free, accepted⟩ | ⟨e, reason, refused⟩
  · rw [accepted]
    exact ⟨fun _ => ⟨⟨schedule, parsed⟩, free⟩, fun _ => rfl⟩
  · rw [refused]
    refine ⟨fun ok => (by cases ok), fun ⟨⟨schedule, parsed⟩, free⟩ => ?_⟩
    rcases reason with ⟨e', malformed⟩ | taken
    · cases malformed.symm.trans parsed
    · exact absurd taken free

private theorem respond_cancel_ok_iff : (c.respond (.call (.cancel key))).1 = .ok () ↔ key ∈ c.timetable.keys := by
  rcases respond_cancel c key with ⟨trigger, found, accepted⟩ | ⟨absent, refused⟩
  · rw [accepted]
    exact ⟨fun _ => SortedMap.mem_keys_iff_get?.mpr ⟨trigger, found⟩, fun _ => rfl⟩
  · rw [refused]
    exact ⟨fun ok => (by cases ok), fun present => absurd present absent⟩

private theorem respond_of_error {event : Event Task} {e : Error} (failed : (c.respond event).1 = .error e) :
    (c.respond event).2 = c := by
  cases event with
  | call call =>
    cases call with
    | recurring key cron task =>
      rcases respond_recurring c key cron task with ⟨schedule, parsed, free, accepted⟩ | ⟨e, -, refused⟩
      · rw [accepted] at failed
        cases failed
      · rw [refused]
    | once key task => cases failed
    | cancel key =>
      rcases respond_cancel c key with ⟨trigger, found, accepted⟩ | ⟨absent, refused⟩
      · rw [accepted] at failed
        cases failed
      · rw [refused]
  | shutdown => cases failed
  | turn serial reading => cases failed

/-- Whatever happens and in which order: the keys of the scheduler, in the order of their bytes, are those that were
installed and neither cancelled nor shut down since; an installation fails exactly if its expression is malformed or its
key is there, a cancellation if its key is not, and then nothing has changed; a one-shot task is started at once and for
good, and everything else that was started was started by the trigger that stood under its key. The runners do not
look there themselves, but they start the same as if they did. -/
theorem fires_what_stands (events : List (Event Task)) :
    let log := (run events).1
    let c := (run events).2
    (c.timetable.keys.Pairwise fun a b => Text.octets a < Text.octets b) ∧
      (∀ key, key ∈ c.timetable.keys ↔ ∃ trigger, Standing log key trigger) ∧
      Accounts log c.timetable.firings ∧
      c.timetable.firings.filter (·.trigger.isNone) = onces log ∧
      (∀ key cron task, (c.respond (.call (.recurring key cron task))).1 = .ok () ↔
        (∃ schedule, Cron.parse cron = .ok schedule) ∧ key ∉ c.timetable.keys) ∧
      (∀ key, (c.respond (.call (.cancel key))).1 = .ok () ↔ key ∈ c.timetable.keys) ∧
      (∀ event e, (c.respond event).1 = .error e → (c.respond event).2 = c) ∧
      (∀ key task, c.respond (.call (.once key task)) = (.ok (), { c with timetable := c.timetable.once key task })) ∧
      ∀ serial reading, (c.respond (.turn serial reading)).2.timetable =
        match c.due? serial with
        | some key => c.timetable.wake key serial
        | none => c.timetable := by
  intro log c
  have h : Meshed log c := meshed_run events
  exact ⟨octets_lt_keys c.timetable.triggers, fun _ => h.mem_keys_iff, h.accounts, h.accounts.onces,
    fun _ _ _ => respond_recurring_ok_iff, fun _ => respond_cancel_ok_iff, fun _ _ => respond_of_error, fun _ _ => rfl,
    h.timetable_turn⟩

/-- A trigger is cancelled when it is about to fire, and another one is installed under its key: only that one fires,
and the key is its. -/
theorem replaced_trigger_silent :
    let reading : WallTime := ⟨⟨-2, 0, by decide⟩, by decide⟩
    let cron := "0,1 0 0 1 1 * 1970"
    let events : List (Event Nat) :=
      [.call (.recurring "job" cron 1), .turn 0 reading, .turn 0 reading, .turn 0 reading, .call (.cancel "job"),
        .call (.recurring "job" cron 2), .turn 0 reading, .call (.once "other" 3), .turn 1 reading, .turn 1 reading,
        .turn 1 reading, .turn 1 reading]
    let c := (run events).2
    c.timetable.firings.map (fun f => (f.key, f.task, f.trigger)) = [("other", 3, none), ("job", 2, some 1)] ∧
      (∃ trigger, Standing (run events).1 "job" trigger) ∧ (c.respond (.call (.cancel "other"))).2 = c := by
  intro reading cron events c
  obtain ⟨-, standing, -, -, -, -, unchanged, -⟩ := fires_what_stands events
  have absent : "other" ∉ c.timetable.keys := by decide +kernel
  have refused : (c.respond (.call (.cancel "other"))).1 = .error (.unknownTrigger "other") := by
    rcases respond_cancel c "other" with ⟨trigger, found, -⟩ | ⟨-, refused⟩
    · exact absurd (SortedMap.mem_keys_iff_get?.mpr ⟨trigger, found⟩) absent
    · rw [refused]
  exact ⟨by decide +kernel, (standing "job").mp (by decide +kernel), unchanged _ _ refused⟩

end Meshed

end AnomalyWatch.Clockwork
