import AnomalyWatch.Collection.Sorted
import AnomalyWatch.Time.Instant

/-!
How long the analyses of each job take: counts, extremes and a running mean of durations in nanoseconds,
by the name of the job.
-/

set_option autoImplicit false
set_option relaxedAutoImplicit false

namespace AnomalyWatch

/-- The durations recorded under one name, in nanoseconds. -/
structure Histogram where
  count : Nat
  least : Option Nat
  greatest : Option Nat
  /-- The running mean, in whole nanoseconds. -/
  mean : Nat
  last : Option Nat
  /-- When the last duration was recorded. -/
  updated : Option Instant

namespace Histogram

def empty : Histogram := ⟨0, none, none, 0, none, none⟩

/-- The mean after one more of `count` durations: the old mean moves by its share of the difference in
double arithmetic, and a fraction of a nanosecond is dropped. -/
def nextMean (mean duration count : Nat) : Nat :=
  if count = 1 then duration
  else
    let previous := Float.ofScientific mean false 0
    let current := Float.ofScientific duration false 0
    (previous + (current - previous) / Float.ofScientific count false 0).toUInt64.toNat

def record (h : Histogram) (duration : Nat) (now : Instant) : Histogram where
  count := h.count + 1
  least := some (h.least.elim duration (min · duration))
  greatest := some (h.greatest.elim duration (max · duration))
  mean := nextMean h.mean duration (h.count + 1)
  last := some duration
  updated := some now

end Histogram

/-- The histograms of a program by name. -/
structure Timings where
  histograms : SortedMap String Histogram

namespace Timings

def empty : Timings := ⟨∅⟩

/-- The histogram of a name; one that was never opened is empty. -/
def histogram (t : Timings) (name : String) : Histogram :=
  (t.histograms.get? name).getD Histogram.empty

def opened (t : Timings) (name : String) : Timings :=
  ⟨t.histograms.insert name (t.histogram name)⟩

def record (t : Timings) (name : String) (duration : Nat) (now : Instant) : Timings :=
  ⟨t.histograms.insert name ((t.histogram name).record duration now)⟩

end Timings

end AnomalyWatch
