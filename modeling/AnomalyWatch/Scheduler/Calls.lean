import AnomalyWatch.Dialogue
import AnomalyWatch.Error

/-!
What can be asked of a scheduler of jobs.
-/

set_option autoImplicit false
set_option relaxedAutoImplicit false

namespace AnomalyWatch.Scheduler

/-- The calls on a scheduler; each succeeds or fails. -/
inductive Call (Task : Type)
  /-- Fire a task on every tick of a cron expression. -/
  | recurring (key cron : String) (task : Task)
  /-- Fire a task once, at once. -/
  | once (key : String) (task : Task)
  /-- Fire no more for this key. -/
  | cancel (key : String)

abbrev Step (Task α : Type) : Type :=
  Dialogue (Call Task) (fun _ => Except Error Unit) α

def ask {Task : Type} (c : Call Task) : Step Task (Except Error Unit) :=
  Dialogue.call c

end AnomalyWatch.Scheduler
