import AnomalyWatch.Time.Calendar

/-!
Days and dates: the date of a day exists, counting the days up to it gives the day again, and a later date has
the larger count.

The arithmetic is done inside one era. An era begins on the first of March, so each of its years begins
a whole number of days after it that depends on the year alone. For the order of dates all years are counted
from one March.
-/

set_option autoImplicit false
set_option relaxedAutoImplicit false

namespace AnomalyWatch.Date

def yearStart (yearOfEra : Int) : Int :=
  yearOfEra * 365 + yearOfEra / 4 - yearOfEra / 100

def yearHolding (dayOfEra : Int) : Int :=
  (dayOfEra - dayOfEra / 1460 + dayOfEra / 36524 - dayOfEra / 146096) / 365

section Era

variable {d : Int} (least : 0 ≤ d) (most : d < 146097)

include least most

private theorem yearHolding_bounds : 0 ≤ yearHolding d ∧ yearHolding d < 400 := by
  unfold yearHolding
  omega

private theorem yearHolding_spec :
    yearStart (yearHolding d) ≤ d ∧ d ≤ yearStart (yearHolding d) + 365 ∧
      (d < yearStart (yearHolding d + 1) ∨ yearHolding d = 399) := by
  -- The quotients by the longer cycles take few values, and with them the year is a linear term.
  have era : d / 146096 = 0 ∨ d / 146096 = 1 := by omega
  have century : d / 36524 = 0 ∨ d / 36524 = 1 ∨ d / 36524 = 2 ∨ d / 36524 = 3 ∨ d / 36524 = 4 := by
    omega
  have year : yearHolding d = 4 * (d / 1460) - 1 ∨ yearHolding d = 4 * (d / 1460) ∨
      yearHolding d = 4 * (d / 1460) + 1 ∨ yearHolding d = 4 * (d / 1460) + 2 ∨
      yearHolding d = 4 * (d / 1460) + 3 ∨ yearHolding d = 4 * (d / 1460) + 4 := by
    unfold yearHolding
    omega
  have defining : yearHolding d = (d - d / 1460 + d / 36524 - d / 146096) / 365 := rfl
  generalize yearHolding d = y at year defining ⊢
  simp only [yearStart]
  rcases era with era | era <;> rcases century with century | century | century | century | century <;>
    rcases year with year | year | year | year | year | year <;> omega

end Era

def ofMarch (year dayOfYear : Int) : Date :=
  let month := (5 * dayOfYear + 2) / 153
  let day := dayOfYear - (153 * month + 2) / 5 + 1
  if month < 10 then ⟨year, (month + 3).toNat, day.toNat⟩
  else ⟨year + 1, (month - 9).toNat, day.toNat⟩

private theorem ofDays_cases (days : Int) :
    ∃ era year dayOfYear, 0 ≤ year ∧ year < 400 ∧ 0 ≤ dayOfYear ∧ dayOfYear ≤ 365 ∧
      (dayOfYear = 365 → isLeapYear (year + era * 400 + 1)) ∧
      days = era * 146097 + (yearStart year + dayOfYear) - 719468 ∧
      ofDays days = ofMarch (year + era * 400) dayOfYear := by
  let era := (days + 719468) / 146097
  let day := days + 719468 - era * 146097
  have least : 0 ≤ day := by omega
  have most : day < 146097 := by omega
  obtain ⟨yearLeast, yearMost⟩ := yearHolding_bounds least most
  obtain ⟨begun, passed, ends⟩ := yearHolding_spec least most
  refine ⟨era, yearHolding day, day - yearStart (yearHolding day), yearLeast, yearMost, by omega,
    by omega, fun last => ?_, by omega, ?_⟩
  · -- A year without a leap day is over before the day 365.
    have leap : (yearHolding day + 1) % 4 = 0 ∧
        ((yearHolding day + 1) % 100 ≠ 0 ∨ (yearHolding day + 1) % 400 = 0) := by
      simp only [yearStart] at last ends
      have fourth : (yearHolding day + 1) / 4 = yearHolding day / 4 + 1 ∨
          (yearHolding day + 1) / 4 = yearHolding day / 4 := by omega
      have hundredth : (yearHolding day + 1) / 100 = yearHolding day / 100 + 1 ∨
          (yearHolding day + 1) / 100 = yearHolding day / 100 := by omega
      omega
    simp only [isLeapYear, Bool.and_eq_true, Bool.or_eq_true, beq_iff_eq, bne_iff_ne]
    omega
  · have start : yearStart (yearHolding day) =
        365 * yearHolding day + yearHolding day / 4 - yearHolding day / 100 := by
      rw [yearStart, Int.mul_comm]
    have named : ofDays days =
        let dayOfYear := day - (365 * yearHolding day + yearHolding day / 4 - yearHolding day / 100)
        let month := (5 * dayOfYear + 2) / 153
        let civilMonth := if month < 10 then month + 3 else month - 9
        ⟨yearHolding day + era * 400 + if civilMonth ≤ 2 then 1 else 0, civilMonth.toNat,
          (dayOfYear - (153 * month + 2) / 5 + 1).toNat⟩ := rfl
    rw [named, ← start]
    generalize yearStart (yearHolding day) = begin at begun passed
    simp only [ofMarch]
    split
    next early =>
      have later : ¬ (5 * (day - begin) + 2) / 153 + 3 ≤ 2 := by omega
      rw [if_neg later, Int.add_zero]
    next late =>
      have early : (5 * (day - begin) + 2) / 153 - 9 ≤ 2 := by omega
      rw [if_pos early]

section March

variable {year dayOfYear : Int} (least : 0 ≤ dayOfYear) (most : dayOfYear ≤ 365)

include least most

private theorem toDays_ofMarch :
    (ofMarch year dayOfYear).toDays =
      year / 400 * 146097 + (yearStart (year - year / 400 * 400) + dayOfYear) - 719468 := by
  have monthLeast : 0 ≤ (5 * dayOfYear + 2) / 153 := by omega
  have monthMost : (5 * dayOfYear + 2) / 153 < 12 := by omega
  have within : (153 * ((5 * dayOfYear + 2) / 153) + 2) / 5 ≤ dayOfYear := by omega
  simp only [ofMarch]
  generalize (5 * dayOfYear + 2) / 153 = month at monthLeast monthMost within ⊢
  have dayText : ((dayOfYear - (153 * month + 2) / 5 + 1).toNat : Int) =
      dayOfYear - (153 * month + 2) / 5 + 1 := by omega
  split
  next early =>
    have monthText : ((month + 3).toNat : Int) = month + 3 := by omega
    have later : ¬ (month + 3).toNat ≤ 2 := by omega
    simp only [toDays, if_neg later, dayText, monthText, Int.add_sub_cancel, yearStart]
    omega
  next late =>
    have monthText : ((month - 9).toNat : Int) = month - 9 := by omega
    have wrapped : (month - 9).toNat ≤ 2 := by omega
    simp only [toDays, if_pos wrapped, dayText, monthText, Int.sub_add_cancel, Int.add_sub_cancel,
      yearStart]
    omega

private theorem exists_ofMarch (leap : dayOfYear = 365 → isLeapYear (year + 1)) :
    (ofMarch year dayOfYear).exists? := by
  have months : (5 * dayOfYear + 2) / 153 = 0 ∨ (5 * dayOfYear + 2) / 153 = 1 ∨
      (5 * dayOfYear + 2) / 153 = 2 ∨ (5 * dayOfYear + 2) / 153 = 3 ∨
      (5 * dayOfYear + 2) / 153 = 4 ∨ (5 * dayOfYear + 2) / 153 = 5 ∨
      (5 * dayOfYear + 2) / 153 = 6 ∨ (5 * dayOfYear + 2) / 153 = 7 ∨
      (5 * dayOfYear + 2) / 153 = 8 ∨ (5 * dayOfYear + 2) / 153 = 9 ∨
      (5 * dayOfYear + 2) / 153 = 10 ∨ (5 * dayOfYear + 2) / 153 = 11 := by omega
  rcases months with month | month | month | month | month | month | month | month | month | month |
    month | month <;>
    simp [ofMarch, month, exists?, daysInMonth] <;> try omega
  -- Only February asks for the length of its year.
  by_cases isLeap : isLeapYear (year + 1)
  · simp only [isLeap, if_pos]
    omega
  · have shorter : dayOfYear ≠ 365 := fun last => isLeap (leap last)
    simp only [isLeap, Bool.false_eq_true, if_false]
    omega

end March

@[simp]
theorem toDays_ofDays (days : Int) : (ofDays days).toDays = days := by
  obtain ⟨era, year, dayOfYear, yearLeast, yearMost, least, most, -, split, date⟩ := ofDays_cases days
  have quotient : (year + era * 400) / 400 = era := by omega
  have remainder : year + era * 400 - era * 400 = year := by omega
  rw [date, toDays_ofMarch least most, quotient, remainder]
  exact split.symm

theorem exists_ofDays (days : Int) : (ofDays days).exists? := by
  obtain ⟨era, year, dayOfYear, -, -, least, most, leap, -, date⟩ := ofDays_cases days
  rw [date]
  exact exists_ofMarch least most leap

section Order

/-- The days in front of a year that begins in March, counted from the March of the year 0 on. -/
def marchStart (year : Int) : Int :=
  year * 365 + year / 4 - year / 100 + year / 400

def marchYear (d : Date) : Int :=
  if d.month ≤ 2 then d.year - 1 else d.year

def marchMonth (d : Date) : Int :=
  if d.month ≤ 2 then (d.month : Int) + 9 else (d.month : Int) - 3

def monthStart (month : Int) : Int :=
  (153 * month + 2) / 5

variable {a b d : Date}

private theorem toDays_eq (d : Date) :
    d.toDays = marchStart d.marchYear + (monthStart d.marchMonth + d.day) - 719469 := by
  simp only [toDays, marchStart, marchYear, monthStart, marchMonth]
  generalize (if d.month ≤ 2 then d.year - 1 else d.year) = year
  generalize (if d.month ≤ 2 then (d.month : Int) + 9 else (d.month : Int) - 3) = month
  omega

private theorem marchStart_succ (year : Int) :
    marchStart (year + 1) = marchStart year + 365 + if isLeapYear (year + 1) then 1 else 0 := by
  unfold marchStart isLeapYear
  split
  next leap =>
    simp at leap
    omega
  next common =>
    simp at common
    omega

private theorem marchStart_le {year later : Int} (after : year < later) : marchStart (year + 1) ≤ marchStart later := by
  unfold marchStart
  omega

theorem bounds_of_exists (there : d.exists?) :
    1 ≤ d.month ∧ d.month ≤ 12 ∧ 1 ≤ d.day ∧ d.day ≤ daysInMonth d.year d.month := by
  simpa [exists?, and_assoc] using there

private theorem month_cases (least : 1 ≤ d.month) (most : d.month ≤ 12) :
    d.month = 1 ∨ d.month = 2 ∨ d.month = 3 ∨ d.month = 4 ∨ d.month = 5 ∨ d.month = 6 ∨ d.month = 7 ∨ d.month = 8 ∨
      d.month = 9 ∨ d.month = 10 ∨ d.month = 11 ∨ d.month = 12 := by
  omega

private theorem dayOfMarchYear_bounds (there : d.exists?) :
    1 ≤ monthStart d.marchMonth + d.day ∧
      marchStart d.marchYear + (monthStart d.marchMonth + d.day) ≤ marchStart (d.marchYear + 1) := by
  obtain ⟨least, most, first, last⟩ := bounds_of_exists there
  rw [marchStart_succ]
  rcases month_cases least most with month | month | month | month | month | month | month | month | month | month |
    month | month <;>
    simp [marchYear, marchMonth, monthStart, daysInMonth, month] at last ⊢ <;> grind

private theorem monthStart_le (there : a.exists?) (before : a.marchMonth < b.marchMonth) (within : b.marchMonth ≤ 11) :
    monthStart a.marchMonth + a.day ≤ monthStart b.marchMonth := by
  obtain ⟨least, most, first, last⟩ := bounds_of_exists there
  generalize b.marchMonth = later at *
  rcases month_cases least most with month | month | month | month | month | month | month | month | month | month |
    month | month <;>
    simp [marchMonth, monthStart, daysInMonth, month] at last before ⊢ <;> omega

def Before (a b : Date) : Prop :=
  a.year < b.year ∨ (a.year = b.year ∧ (a.month < b.month ∨ (a.month = b.month ∧ a.day < b.day)))

private theorem marchMonth_le (there : d.exists?) : d.marchMonth ≤ 11 := by
  obtain ⟨least, most, -, -⟩ := bounds_of_exists there
  unfold marchMonth
  split <;> omega

/-- Dates in the order of the calendar in terms of years that begin in March. -/
theorem Before.march (before : a.Before b) (here : a.exists?) (there : b.exists?) :
    a.marchYear < b.marchYear ∨ (a.marchYear = b.marchYear ∧
      (a.marchMonth < b.marchMonth ∨ (a.marchMonth = b.marchMonth ∧ a.day < b.day))) := by
  obtain ⟨least, most, -, -⟩ := bounds_of_exists here
  obtain ⟨least', most', -, -⟩ := bounds_of_exists there
  unfold Before at before
  unfold marchYear marchMonth
  split <;> split <;> omega

/-- A date that comes first has the smaller count of days. -/
theorem toDays_lt (before : a.Before b) (here : a.exists?) (there : b.exists?) : a.toDays < b.toDays := by
  obtain ⟨-, ends⟩ := dayOfMarchYear_bounds here
  obtain ⟨begins, -⟩ := dayOfMarchYear_bounds there
  obtain ⟨-, -, first, -⟩ := bounds_of_exists there
  rw [toDays_eq, toDays_eq]
  rcases before.march here there with year | ⟨year, month | ⟨month, day⟩⟩
  · have later := marchStart_le year
    omega
  · have ended := monthStart_le here month (marchMonth_le there)
    rw [year]
    omega
  · rw [year, month]
    omega

private theorem before_or_eq (a b : Date) : a.Before b ∨ a = b ∨ b.Before a := by
  obtain ⟨year, month, day⟩ := a
  obtain ⟨year', month', day'⟩ := b
  simp only [Before, Date.mk.injEq]
  omega

private theorem toDays_inj (here : a.exists?) (there : b.exists?) (same : a.toDays = b.toDays) : a = b := by
  rcases before_or_eq a b with before | equal | after
  · have less := toDays_lt before here there
    omega
  · exact equal
  · have less := toDays_lt after there here
    omega

@[simp]
theorem ofDays_toDays (there : d.exists?) : ofDays d.toDays = d :=
  toDays_inj (exists_ofDays d.toDays) there (toDays_ofDays d.toDays)

end Order

end AnomalyWatch.Date
