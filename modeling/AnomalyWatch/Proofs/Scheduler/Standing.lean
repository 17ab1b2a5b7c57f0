import AnomalyWatch.Scheduler.Clockwork

/-!
What stands on the scheduler, told by what has happened.

Under a key stands the trigger that the last successful installation for the key has left there, unless a cancellation
of the key or a shutdown came after it. What was started is told in the same way: each one-shot task once, and besides
these only tasks of triggers that stood at the time.
-/

set_option autoImplicit false
set_option relaxedAutoImplicit false

namespace AnomalyWatch.Clockwork

variable {Task : Type} {log : Log Task} {key : String} {trigger : Trigger Task} {e : Event Task × Except Error Unit}

/-- Whatever is scheduled under the key ends with the event. -/
def Event.Ends (key : String) : Event Task → Prop
  | .call (.cancel other) => other = key
  | .shutdown => True
  | _ => False

def installed? : Event Task × Except Error Unit → Option String
  | (.call (.recurring key _ _), .ok ()) => some key
  | _ => none

/-- How many triggers were installed; the next one gets this serial number. -/
def installations (log : Log Task) : Nat :=
  log.countP fun e => (installed? e).isSome

/-- The trigger was installed under the key by the last call that did so, and not ended after that. -/
def Standing (log : Log Task) (key : String) (trigger : Trigger Task) : Prop :=
  ∃ before cron after, log = before ++ (.call (.recurring key cron trigger.task), .ok ()) :: after ∧
    Cron.parse cron = .ok trigger.schedule ∧ trigger.serial = installations before ∧
    ∀ e ∈ after, installed? e ≠ some key ∧ ¬ e.1.Ends key

inductive Starts (log : Log Task) : Event Task → List (Firing Task) → Prop
  | once (key : String) (task : Task) : Starts log (.call (.once key task)) [⟨key, task, none⟩]
  | turn {key : String} {trigger : Trigger Task} (standing : Standing log key trigger) (reading : WallTime) :
      Starts log (.turn trigger.serial reading) [⟨key, trigger.task, some trigger.serial⟩]
  | idle (serial : Nat) (reading : WallTime) : Starts log (.turn serial reading) []
  | recurring (key cron : String) (task : Task) : Starts log (.call (.recurring key cron task)) []
  | cancel (key : String) : Starts log (.call (.cancel key)) []
  | shutdown : Starts log .shutdown []

/-- The firings are what the events have started, one after the other. -/
inductive Accounts : Log Task → List (Firing Task) → Prop
  | nil : Accounts [] []
  | concat {log : Log Task} {firings more : List (Firing Task)} {event : Event Task} (outcome : Except Error Unit)
      (behind : Accounts log firings) (starts : Starts log event more) :
      Accounts (log ++ [(event, outcome)]) (firings ++ more)

def onces (log : Log Task) : List (Firing Task) :=
  log.filterMap fun
    | (.call (.once key task), _) => some ⟨key, task, none⟩
    | _ => none

@[simp]
theorem installations_concat :
    installations (log ++ [e]) = installations log + if (installed? e).isSome then 1 else 0 := by
  simp [installations, List.countP_cons]

/-- One more event installs the trigger, or the trigger stood before and is neither replaced nor ended. -/
theorem standing_concat : Standing (log ++ [e]) key trigger ↔
    (∃ cron, e = (.call (.recurring key cron trigger.task), .ok ()) ∧ Cron.parse cron = .ok trigger.schedule ∧
      trigger.serial = installations log) ∨
    Standing log key trigger ∧ installed? e ≠ some key ∧ ¬ e.1.Ends key := by
  constructor
  · rintro ⟨before, cron, after, split, parsed, serial, kept⟩
    rcases List.eq_nil_or_concat after with rfl | ⟨after, last, rfl⟩
    · obtain ⟨rfl, same⟩ := List.append_inj' split rfl
      exact .inl ⟨cron, List.singleton_inj.mp same, parsed, serial⟩
    · have whole : log ++ [e] = (before ++ (.call (.recurring key cron trigger.task), .ok ()) :: after) ++ [last] := by
        simpa using split
      obtain ⟨rfl, same⟩ := List.append_inj' whole rfl
      obtain rfl := List.singleton_inj.mp same
      exact .inr ⟨⟨before, cron, after, rfl, parsed, serial, fun d present => kept d (by simp [present])⟩,
        kept e (by simp)⟩
  · rintro (⟨cron, rfl, parsed, serial⟩ | ⟨⟨before, cron, after, rfl, parsed, serial, kept⟩, replaced, ended⟩)
    · exact ⟨log, cron, [], rfl, parsed, serial, fun e none => absurd none List.not_mem_nil⟩
    · refine ⟨before, cron, after ++ [e], by simp, parsed, serial, fun d present => ?_⟩
      rcases List.mem_append.mp present with present | last
      · exact kept d present
      · obtain rfl := List.mem_singleton.mp last
        exact ⟨replaced, ended⟩

theorem standing_concat_of_other (installs : installed? e ≠ some key) (ends : ¬ e.1.Ends key) :
    Standing (log ++ [e]) key trigger ↔ Standing log key trigger := by
  rw [standing_concat]
  constructor
  · rintro (⟨cron, rfl, -⟩ | ⟨standing, -⟩)
    · exact absurd rfl installs
    · exact standing
  · intro standing
    exact .inr ⟨standing, installs, ends⟩

theorem not_standing_of_ends (ends : e.1.Ends key) : ¬ Standing (log ++ [e]) key trigger := by
  intro standing
  rcases standing_concat.mp standing with ⟨cron, rfl, -⟩ | ⟨-, -, unended⟩
  · exact ends.elim
  · exact unended ends

theorem Accounts.silent {firings : List (Firing Task)} {event : Event Task} (outcome : Except Error Unit)
    (behind : Accounts log firings) (starts : Starts log event []) : Accounts (log ++ [(event, outcome)]) firings := by
  have more := behind.concat outcome starts
  rwa [List.append_nil] at more

theorem Accounts.onces {firings : List (Firing Task)} (accounts : Accounts log firings) :
    firings.filter (·.trigger.isNone) = onces log := by
  induction accounts with
  | nil => rfl
  | concat outcome behind starts ih =>
    rw [List.filter_append, ih, Clockwork.onces, Clockwork.onces, List.filterMap_append]
    cases starts <;> rfl

end AnomalyWatch.Clockwork
