import AnomalyWatch.Time.Calendar

/-!
Instants on the UTC time line, to the nanosecond.

An instant counts seconds from 1970 and nanoseconds within the second. A leap second is held as second
59 of its minute with a nanosecond count from `10^9` up, so instants order by seconds and then by
nanoseconds. The years -262143 to 262142 are representable; arithmetic that leaves them has no result.
-/

set_option autoImplicit false
set_option relaxedAutoImplicit false

namespace AnomalyWatch

namespace Instant

/-- Nanoseconds in a second. -/
abbrev second : Nat := 1000000000

/-- The first second of the year -262143. -/
def leastSecond : Int := Date.toDays ⟨-262143, 1, 1⟩ * 86400

/-- The last second of the year 262142. -/
def greatestSecond : Int := Date.toDays ⟨262142, 12, 31⟩ * 86400 + 86399

/-- A count of seconds and nanoseconds that names an instant: inside the calendar, and beyond `10^9`
nanoseconds only in the last second of a minute. -/
def Admissible (seconds : Int) (nanos : Nat) : Prop :=
  leastSecond ≤ seconds ∧ seconds ≤ greatestSecond ∧ nanos < 2 * second ∧
    (second ≤ nanos → seconds % 60 = 59)

instance (seconds : Int) (nanos : Nat) : Decidable (Admissible seconds nanos) :=
  inferInstanceAs (Decidable (_ ∧ _ ∧ _ ∧ (_ → _)))

end Instant

/-- A point on the UTC time line. -/
structure Instant where
  seconds : Int
  nanos : Nat
  admissible : Instant.Admissible seconds nanos
  deriving DecidableEq

namespace Instant

/-- The instant with these counts, if they name one. -/
def make? (seconds : Int) (nanos : Nat) : Option Instant :=
  if h : Admissible seconds nanos then some ⟨seconds, nanos, h⟩ else none

private theorem counts_of_make? {seconds : Int} {nanos : Nat} {t : Instant}
    (h : make? seconds nanos = some t) : t.seconds = seconds ∧ t.nanos = nanos := by
  unfold make? at h
  split at h
  · cases h
    exact ⟨rfl, rfl⟩
  · cases h

/-- Midnight at the start of 1970. -/
def epoch : Instant := ⟨0, 0, by decide⟩

instance : Inhabited Instant := ⟨epoch⟩

/-- The instant a number of milliseconds from 1970, if it is representable. -/
def ofMillis? (millis : Int) : Option Instant :=
  make? (millis / 1000) ((millis % 1000).toNat * 1000000)

/-- Earlier on the time line; a leap second comes after all of second 59. -/
protected def lt (a b : Instant) : Prop :=
  a.seconds < b.seconds ∨ (a.seconds = b.seconds ∧ a.nanos < b.nanos)

instance : LT Instant := ⟨Instant.lt⟩

instance : LE Instant := ⟨fun a b => ¬ b < a⟩

instance (a b : Instant) : Decidable (a < b) :=
  inferInstanceAs (Decidable (_ ∨ (_ ∧ _)))

instance (a b : Instant) : Decidable (a ≤ b) :=
  inferInstanceAs (Decidable (¬ _))

protected theorem ext {a b : Instant} (seconds : a.seconds = b.seconds) (nanos : a.nanos = b.nanos) :
    a = b := by
  cases a
  cases b
  simp_all

protected theorem lt_trans {a b c : Instant} (hab : a < b) (hbc : b < c) : a < c := by
  rcases hab with hab | hab <;> rcases hbc with hbc | hbc
  · exact .inl (by omega)
  · exact .inl (by omega)
  · exact .inl (by omega)
  · exact .inr (by omega)

protected theorem lt_irrefl (a : Instant) : ¬ a < a := by
  rintro (h | h) <;> omega

protected theorem lt_of_le_of_lt {a b c : Instant} (hab : a ≤ b) (hbc : b < c) : a < c := by
  have hba : ¬ (b.seconds < a.seconds ∨ (b.seconds = a.seconds ∧ b.nanos < a.nanos)) := hab
  rcases hbc with hbc | hbc
  · exact .inl (by omega)
  · by_cases h : a.seconds < c.seconds
    · exact .inl h
    · exact .inr (by omega)

private theorem lt_iff_not_lt_and_ne (a b : Instant) : a < b ↔ ¬ b < a ∧ a ≠ b := by
  constructor
  · exact fun h => ⟨fun h' => a.lt_irrefl (Instant.lt_trans h h'), fun h' => b.lt_irrefl (h' ▸ h)⟩
  · rintro ⟨hba, hne⟩
    have hba : ¬ (b.seconds < a.seconds ∨ (b.seconds = a.seconds ∧ b.nanos < a.nanos)) := hba
    by_cases h : a.seconds = b.seconds
    · have : a.nanos ≠ b.nanos := fun h' => hne (Instant.ext h h')
      exact .inr (by omega)
    · exact .inl (by omega)

instance : Ord Instant where
  compare a b := compareOfLessAndEq a b

instance : Std.TransOrd Instant :=
  Std.TransOrd.compareOfLessAndEq_of_lt_trans_of_lt_iff Instant.lt_trans lt_iff_not_lt_and_ne

instance : Std.LawfulEqOrd Instant where
  eq_of_compare {a b} same := by
    replace same : compareOfLessAndEq a b = .eq := same
    unfold compareOfLessAndEq at same
    split at same
    · cases same
    · split at same
      next equal => exact equal
      next => cases same

/-- Seconds and a signed count of nanoseconds less than two seconds from zero, brought into range. -/
private def normalized? (seconds : Int) (nanos : Int) : Option Instant :=
  if nanos < 0 then make? (seconds - 1) (nanos + second).toNat
  else if second ≤ nanos then make? (seconds + 1) (nanos - second).toNat
  else make? seconds nanos.toNat

/-- The instant a signed number of milliseconds later, if it is representable. A duration that leaves a
leap second counts from the second after it when it goes forward or back by a second or more; a shorter
one stays in second 59 and its leap second. -/
def shift? (t : Instant) (millis : Int) : Option Instant :=
  let whole := millis.tdiv 1000
  let part := millis.tmod 1000 * 1000000
  if second ≤ t.nanos then
    if 0 < whole ∨ (0 < part ∧ 2 * (second : Int) ≤ t.nanos + part) then
      normalized? (t.seconds + whole) ((t.nanos : Int) - second + part)
    else if whole < 0 then
      normalized? (t.seconds + 1 + whole) ((t.nanos : Int) - second + part)
    else make? t.seconds ((t.nanos : Int) + part).toNat
  else normalized? (t.seconds + whole) ((t.nanos : Int) + part)

private theorem lt_of_normalized? {t u : Instant} {seconds nanos : Int}
    (h : normalized? seconds nanos = some u)
    (later : t.seconds < seconds ∧ 0 ≤ nanos ∨ t.seconds = seconds ∧ (t.nanos < nanos ∨ second ≤ nanos)) :
    t < u := by
  unfold normalized? at h
  split at h
  · omega
  · split at h
    · obtain ⟨hs, hn⟩ := counts_of_make? h
      exact .inl (by omega)
    · obtain ⟨hs, hn⟩ := counts_of_make? h
      rcases later with later | later
      · exact .inl (by omega)
      · exact .inr (by omega)

/-- A positive duration leads to a later instant, also out of a leap second. -/
theorem lt_of_shift? {t u : Instant} {millis : Int} (positive : 0 < millis)
    (h : t.shift? millis = some u) : t < u := by
  have whole_and_part := Int.mul_tdiv_add_tmod millis 1000
  have part_nonneg := Int.tmod_nonneg 1000 (Int.le_of_lt positive)
  have whole_nonneg := Int.tdiv_nonneg (Int.le_of_lt positive) (by decide : (0 : Int) ≤ 1000)
  simp only [shift?] at h
  split at h
  next leap =>
    split at h
    next leaves => exact lt_of_normalized? h (by omega)
    next stays =>
      split at h
      · omega
      · obtain ⟨hs, hn⟩ := counts_of_make? h
        exact .inr (by omega)
  next => exact lt_of_normalized? h (by omega)

private theorem seconds_le_of_normalized? {u : Instant} {seconds nanos : Int}
    (h : normalized? seconds nanos = some u) : seconds ≤ u.seconds + 1 := by
  unfold normalized? at h
  split at h
  · have := (counts_of_make? h).1
    omega
  · split at h
    · have := (counts_of_make? h).1
      omega
    · have := (counts_of_make? h).1
      omega

/-- A shifted instant is at most a second short of the whole seconds of the duration. -/
theorem seconds_le_of_shift? {t u : Instant} {millis : Int} (h : t.shift? millis = some u) :
    t.seconds + millis.tdiv 1000 ≤ u.seconds + 1 := by
  simp only [shift?] at h
  split at h
  · split at h
    · exact seconds_le_of_normalized? h
    · split at h
      · have := seconds_le_of_normalized? h
        omega
      · have := (counts_of_make? h).1
        omega
  · exact seconds_le_of_normalized? h

private theorem le_seconds_of_normalized? {u : Instant} {seconds nanos : Int}
    (h : normalized? seconds nanos = some u) : u.seconds ≤ seconds + 1 := by
  unfold normalized? at h
  split at h
  · have := (counts_of_make? h).1
    omega
  · split at h
    · have := (counts_of_make? h).1
      omega
    · have := (counts_of_make? h).1
      omega

/-- A shifted instant is at most two seconds beyond the whole seconds of the duration. -/
theorem le_seconds_of_shift? {t u : Instant} {millis : Int} (h : t.shift? millis = some u) :
    u.seconds ≤ t.seconds + millis.tdiv 1000 + 2 := by
  simp only [shift?] at h
  split at h
  · split at h
    · have := le_seconds_of_normalized? h
      omega
    · split at h
      · have := le_seconds_of_normalized? h
        omega
      · have := (counts_of_make? h).1
        omega
  · have := le_seconds_of_normalized? h
    omega

/-- The instant is not in a leap second. -/
def IsPlain (t : Instant) : Prop := t.nanos < second

instance (t : Instant) : Decidable t.IsPlain :=
  inferInstanceAs (Decidable (_ < _))

/-- Nanoseconds from 1970, which tell the instants apart that are not in a leap second. -/
def count (t : Instant) : Int := t.seconds * second + t.nanos

private theorem normalized?_eq_some_iff {seconds nanos : Int} {u : Instant} (least : -(second : Int) ≤ nanos)
    (most : nanos < 2 * (second : Int)) :
    normalized? seconds nanos = some u ↔ u.IsPlain ∧ u.count = seconds * second + nanos := by
  simp only [second] at least most
  constructor
  · intro made
    unfold normalized? at made
    simp only [IsPlain, count, second] at made ⊢
    split at made
    · obtain ⟨hs, hn⟩ := counts_of_make? made
      omega
    · split at made
      · obtain ⟨hs, hn⟩ := counts_of_make? made
        omega
      · obtain ⟨hs, hn⟩ := counts_of_make? made
        omega
  · rintro ⟨plain, same⟩
    have self : make? u.seconds u.nanos = some u := dif_pos u.admissible
    simp only [IsPlain, count, second] at plain same
    unfold normalized?
    simp only [second]
    split
    · have hs : seconds - 1 = u.seconds := by omega
      have hn : (nanos + (1000000000 : Nat)).toNat = u.nanos := by omega
      rw [hs, hn, self]
    · split
      · have hs : seconds + 1 = u.seconds := by omega
        have hn : (nanos - (1000000000 : Nat)).toNat = u.nanos := by omega
        rw [hs, hn, self]
      · have hs : seconds = u.seconds := by omega
        have hn : nanos.toNat = u.nanos := by omega
        rw [hs, hn, self]

/-- Outside of leap seconds a duration is added exactly, and there is no result only if no instant has that count. -/
theorem shift?_eq_some_iff {t u : Instant} (plain : t.IsPlain) {millis : Int} :
    t.shift? millis = some u ↔ u.IsPlain ∧ u.count = t.count + millis * 1000000 := by
  have whole_and_part := Int.mul_tdiv_add_tmod millis 1000
  have most := Int.tmod_lt_of_pos millis (by decide : (0 : Int) < 1000)
  have least := Int.lt_tmod_of_pos millis (by decide : (0 : Int) < 1000)
  have late : ¬ second ≤ t.nanos := Nat.not_le_of_lt plain
  simp only [IsPlain, second] at plain
  simp only [shift?, if_neg late]
  rw [normalized?_eq_some_iff (by simp only [second]; omega) (by simp only [second]; omega)]
  refine and_congr_right fun _ => ?_
  simp only [count, second]
  omega

private theorem lt_of_normalized?_of_earlier {t u : Instant} {seconds nanos : Int}
    (h : normalized? seconds nanos = some u) (short : nanos < second)
    (earlier : seconds < t.seconds ∨ seconds = t.seconds ∧ nanos < t.nanos) : u < t := by
  unfold normalized? at h
  split at h
  · obtain ⟨hs, hn⟩ := counts_of_make? h
    exact .inl (by omega)
  · split at h
    · omega
    · obtain ⟨hs, hn⟩ := counts_of_make? h
      rcases earlier with earlier | ⟨same, less⟩
      · exact .inl (by omega)
      · exact .inr (by omega)

/-- A positive duration leads back to an earlier instant, also out of a leap second. -/
theorem lt_of_shift?_neg {t u : Instant} {millis : Int} (positive : 0 < millis) (h : t.shift? (-millis) = some u) :
    u < t := by
  obtain ⟨-, -, short, -⟩ := t.admissible
  have whole_and_part := Int.mul_tdiv_add_tmod millis 1000
  have part_nonneg := Int.tmod_nonneg 1000 (Int.le_of_lt positive)
  have part_lt := Int.tmod_lt_of_pos millis (by decide : (0 : Int) < 1000)
  have whole_nonneg := Int.tdiv_nonneg (Int.le_of_lt positive) (by decide : (0 : Int) ≤ 1000)
  simp only [shift?, Int.neg_tdiv, Int.neg_tmod, second] at h short
  split at h
  next leap =>
    split at h
    next leaves => omega
    next =>
      split at h
      · exact lt_of_normalized?_of_earlier h (by simp only [second]; omega) (by omega)
      · obtain ⟨hs, hn⟩ := counts_of_make? h
        exact .inr (by omega)
  next plain => exact lt_of_normalized?_of_earlier h (by simp only [second]; omega) (by omega)

end Instant

end AnomalyWatch
