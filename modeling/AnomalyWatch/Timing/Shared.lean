import AnomalyWatch.Timing.Histogram

/-!
Histograms that are shared by all who look them up.

The first look-up of a name makes its histogram, and every look-up hands out the handle of it. Durations are recorded
through handles, by whoever holds one and at any time; a snapshot shows all histograms by their names. A handle is the
place of its histogram among all that were made, so it stays good.
-/

set_option autoImplicit false
set_option relaxedAutoImplicit false

namespace AnomalyWatch

/-- Histograms by their handles, and the handle of each name. No two names share a histogram. -/
structure SharedTimings where
  handles : SortedMap String Nat
  histograms : List Histogram
  inside : ∀ name handle, handles.get? name = some handle → handle < histograms.length
  apart : ∀ name other handle, handles.get? name = some handle → handles.get? other = some handle → name = other

namespace SharedTimings

def empty : SharedTimings where
  handles := ∅
  histograms := []
  inside _ _ found := by cases found
  apart _ _ _ found := by cases found

/-- Make a new histogram for the name. -/
def extended (t : SharedTimings) (name : String) : SharedTimings where
  handles := t.handles.insert name t.histograms.length
  histograms := t.histograms ++ [.empty]
  inside other handle found := by
    rw [SortedMap.get?_insert] at found
    rw [List.length_append, List.length_singleton]
    split at found
    next =>
      obtain rfl := Option.some.inj found
      omega
    next =>
      have old := t.inside other handle found
      omega
  apart first second handle found found' := by
    rw [SortedMap.get?_insert] at found found'
    split at found
    next same =>
      obtain rfl := Option.some.inj found
      split at found'
      next same' => exact same.symm.trans same'
      next => exact absurd (t.inside second _ found') (Nat.lt_irrefl _)
    next =>
      split at found'
      next =>
        obtain rfl := Option.some.inj found'
        exact absurd (t.inside first _ found) (Nat.lt_irrefl _)
      next => exact t.apart first second handle found found'

/-- The handle of the name's histogram, which is made if it is not there yet. -/
def lookup (t : SharedTimings) (name : String) : Nat × SharedTimings :=
  match t.handles.get? name with
  | some handle => (handle, t)
  | none => (t.histograms.length, t.extended name)

/-- Record a duration through a handle. -/
def record (t : SharedTimings) (handle duration : Nat) (now : Instant) : SharedTimings :=
  { t with
    histograms := t.histograms.modify handle fun h => h.record duration now
    inside := fun name handle found => by
      rw [List.length_modify]
      exact t.inside name handle found }

/-- Every histogram as it is now, by name. -/
def snapshot (t : SharedTimings) : SortedMap String Histogram :=
  t.handles.mapValues fun handle => t.histograms.getD handle .empty

/-- What is done with shared histograms: a name is looked up, or a duration is recorded through the handle that an
earlier look-up has handed out. The look-ups are counted from zero. -/
inductive Use
  | lookup (name : String)
  | record (lookup duration : Nat) (now : Instant)

/-- One more use of the histograms, with the handles that were handed out before it. -/
def after (s : SharedTimings × List Nat) : Use → SharedTimings × List Nat
  | .lookup name => ((s.1.lookup name).2, s.2 ++ [(s.1.lookup name).1])
  | .record lookup duration now =>
    match s.2[lookup]? with
    | some handle => (s.1.record handle duration now, s.2)
    | none => s

/-- Uses in the order in which they happen, whoever makes them. -/
def run (uses : List Use) : SharedTimings × List Nat :=
  uses.foldl after (empty, [])

end SharedTimings

end AnomalyWatch
