import AnomalyWatch.Timing.Histogram

/-!
What a histogram tells about the durations that were recorded.

One more duration changes the count, the extremes and the last duration as it changes those of a list at whose end it
is put. By name, each histogram tells about the durations recorded under its name, whatever happens under others.
-/

set_option autoImplicit false
set_option relaxedAutoImplicit false

namespace AnomalyWatch

namespace Histogram

variable {h : Histogram} {durations : List Nat}

/-- The durations are told as they were recorded, the latest at the end. -/
structure Summarizes (h : Histogram) (durations : List Nat) : Prop where
  count : h.count = durations.length
  least : h.least = durations.min?
  greatest : h.greatest = durations.max?
  last : h.last = durations.getLast?

private theorem min?_concat (durations : List Nat) (d : Nat) :
    (durations ++ [d]).min? = some (durations.min?.elim d (min · d)) := by
  cases durations with
  | nil => rfl
  | cons first durations =>
    rw [List.cons_append, List.min?_cons', List.min?_cons', List.foldl_append]
    rfl

private theorem max?_concat (durations : List Nat) (d : Nat) :
    (durations ++ [d]).max? = some (durations.max?.elim d (max · d)) := by
  cases durations with
  | nil => rfl
  | cons first durations =>
    rw [List.cons_append, List.max?_cons', List.max?_cons', List.foldl_append]
    rfl

theorem summarizes_empty : empty.Summarizes [] :=
  ⟨rfl, rfl, rfl, rfl⟩

theorem Summarizes.record (summarizes : h.Summarizes durations) (d : Nat) (now : Instant) :
    (h.record d now).Summarizes (durations ++ [d]) where
  count := by
    rw [List.length_append, ← summarizes.count]
    rfl
  least := by
    rw [min?_concat, ← summarizes.least]
    rfl
  greatest := by
    rw [max?_concat, ← summarizes.greatest]
    rfl
  last := by
    rw [List.getLast?_concat]
    rfl

theorem Summarizes.absent_iff (summarizes : h.Summarizes durations) :
    (h.least = none ↔ h.count = 0) ∧ (h.greatest = none ↔ h.count = 0) ∧ (h.last = none ↔ h.count = 0) := by
  rw [summarizes.count, summarizes.least, summarizes.greatest, summarizes.last, List.length_eq_zero_iff]
  exact ⟨List.min?_eq_none_iff, List.max?_eq_none_iff, List.getLast?_eq_none_iff⟩

end Histogram

namespace Timings

inductive Entry
  | opened (name : String)
  | recorded (name : String) (duration : Nat) (now : Instant)

def enter (t : Timings) : Entry → Timings
  | .opened name => t.opened name
  | .recorded name duration now => t.record name duration now

def Entry.duration? (name : String) : Entry → Option Nat
  | .recorded other duration _ => if other = name then some duration else none
  | .opened _ => none

theorem histogram_opened (t : Timings) (job name : String) :
    (t.opened job).histogram name = t.histogram name := by
  rw [histogram, opened, SortedMap.get?_insert]
  split
  next same => rw [same, Option.getD_some]
  next => rfl

theorem histogram_record (t : Timings) (job name : String) (duration : Nat) (now : Instant) :
    (t.record job duration now).histogram name =
      if job = name then (t.histogram job).record duration now else t.histogram name := by
  rw [histogram, record, SortedMap.get?_insert]
  split
  next => rfl
  next => rfl

variable {t : Timings} {name : String} {durations : List Nat}

private theorem summarizes_enter (summarizes : (t.histogram name).Summarizes durations) (e : Entry) :
    ((t.enter e).histogram name).Summarizes (durations ++ (e.duration? name).toList) := by
  cases e with
  | opened other =>
    rw [enter, histogram_opened, Entry.duration?, Option.toList_none, List.append_nil]
    exact summarizes
  | recorded other duration now =>
    rw [enter, histogram_record, Entry.duration?]
    split
    next same =>
      rw [same]
      exact summarizes.record duration now
    next =>
      rw [Option.toList_none, List.append_nil]
      exact summarizes

/-- The histogram of a name tells the durations recorded under that name. -/
theorem summarizes_foldl_enter (summarizes : (t.histogram name).Summarizes durations) (es : List Entry) :
    ((es.foldl enter t).histogram name).Summarizes (durations ++ es.filterMap (Entry.duration? name)) := by
  induction es generalizing t durations with
  | nil =>
    rw [List.filterMap_nil, List.append_nil]
    exact summarizes
  | cons e es ih =>
    have first : (e :: es).filterMap (Entry.duration? name) =
        (e.duration? name).toList ++ es.filterMap (Entry.duration? name) := by
      rw [List.filterMap_cons]
      cases e.duration? name <;> rfl
    rw [List.foldl_cons, first, ← List.append_assoc]
    exact ih (summarizes_enter summarizes e)

end Timings

end AnomalyWatch
