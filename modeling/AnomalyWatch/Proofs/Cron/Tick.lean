import AnomalyWatch.Cron.Tick
import AnomalyWatch.Proofs.Time.Stamp

/-!
The next tick of a schedule that was read from an expression.

The values of each field ascend and stay in their range, and so do the days, hours, minutes and seconds that are tried.
What is found first is therefore the least: the next tick is the first instant after the present that all fields allow,
and there is none only if no later instant is allowed.
-/

set_option autoImplicit false
set_option relaxedAutoImplicit false

namespace AnomalyWatch

namespace Cron

section Fields

structure Listed (f : Field) (ns : List Nat) : Prop where
  ascending : ns.Pairwise (· < ·)
  bounded : ∀ n ∈ ns, f.least ≤ n ∧ n ≤ f.greatest

variable {f : Field} {ns : List Nat}

private theorem listed_all (f : Field) : Listed f f.all where
  ascending := List.pairwise_lt_range'
  bounded n present := by
    obtain ⟨least, most⟩ := List.mem_range'_1.mp present
    have order : f.least ≤ f.greatest := by cases f <;> decide
    omega

private theorem listed_of_values? {items : List Item} (read : f.values? items = some ns) : Listed f ns := by
  simp only [Field.values?, Option.bind_eq_bind, Option.bind_eq_some_iff, Option.pure_def, Option.some.injEq] at read
  obtain ⟨lists, -, rfl⟩ := read
  exact ⟨(listed_all f).ascending.filter _, fun n present => (listed_all f).bounded n (List.mem_filter.mp present).1⟩

private theorem listed_of_field? {cs rest : List Char} (read : field? f cs = some (ns, rest)) : Listed f ns := by
  simp only [field?, Option.bind_eq_bind, Option.bind_eq_some_iff, Prod.exists, Option.pure_def, Option.some.injEq,
    Prod.mk.injEq] at read
  obtain ⟨first, after, -, values, listed, rfl, -⟩ := read
  exact listed_of_values? listed

private theorem listed_singleton {n : Nat} (least : f.least ≤ n) (most : n ≤ f.greatest) : Listed f [n] :=
  ⟨List.pairwise_singleton .., by simpa using ⟨least, most⟩⟩

end Fields

end Cron

open Cron (Listed Field)

structure Schedule.Ordered (s : Schedule) : Prop where
  seconds : Listed .second s.seconds
  minutes : Listed .minute s.minutes
  hours : Listed .hour s.hours
  daysOfMonth : Listed .dayOfMonth s.daysOfMonth
  months : Listed .month s.months
  daysOfWeek : Listed .dayOfWeek s.daysOfWeek
  years : Listed .year s.years

namespace Schedule.Ordered

variable {s : Schedule} (ordered : s.Ordered)

include ordered

private theorem hour_le {hour : Nat} (listed : hour ∈ s.hours) : hour ≤ 23 :=
  (ordered.hours.bounded hour listed).2

private theorem minute_le {minute : Nat} (listed : minute ∈ s.minutes) : minute ≤ 59 :=
  (ordered.minutes.bounded minute listed).2

private theorem second_le {second : Nat} (listed : second ∈ s.seconds) : second ≤ 59 :=
  (ordered.seconds.bounded second listed).2

private theorem month_bounds {month : Nat} (listed : month ∈ s.months) : 1 ≤ month ∧ month ≤ 12 :=
  ordered.months.bounded month listed

private theorem day_pos {day : Nat} (listed : day ∈ s.daysOfMonth) : 1 ≤ day :=
  (ordered.daysOfMonth.bounded day listed).1

private theorem year_bounds {year : Nat} (listed : year ∈ s.years) : 1970 ≤ year ∧ year ≤ 2100 :=
  ordered.years.bounded year listed

end Schedule.Ordered

namespace Cron

variable {s : Schedule}

private theorem ordered_of_fields? {cs : List Char} (read : fields? cs = some s) : s.Ordered := by
  simp only [fields?, Option.bind_eq_bind, Option.bind_eq_some_iff, Prod.exists] at read
  obtain ⟨seconds, cs, first, minutes, cs, second, hours, cs, third, days, cs, fourth, months, cs, fifth, weekdays, cs,
    sixth, read⟩ := read
  have years : Listed .year ((field? .year cs).getD (Field.all .year, cs)).1 := by
    cases last : field? .year cs with
    | none => exact listed_all .year
    | some r => exact listed_of_field? last
  split at read
  next =>
    obtain rfl := Option.some.inj read
    exact ⟨listed_of_field? first, listed_of_field? second, listed_of_field? third, listed_of_field? fourth,
      listed_of_field? fifth, listed_of_field? sixth, years⟩
  next => cases read

private theorem ordered_of_mem_shorthands {name : String} (present : (name, s) ∈ shorthands) : s.Ordered := by
  simp only [shorthands, List.mem_cons, Prod.mk.injEq, List.not_mem_nil, or_false] at present
  rcases present with ⟨-, rfl⟩ | ⟨-, rfl⟩ | ⟨-, rfl⟩ | ⟨-, rfl⟩ | ⟨-, rfl⟩ <;> constructor <;>
    first | exact listed_all _ | exact listed_singleton (by decide) (by decide)

private theorem ordered_of_shorthand? {cs : List Char} (read : shorthand? cs = some s) : s.Ordered := by
  obtain ⟨⟨name, schedule⟩, present, taken⟩ := List.exists_of_findSome?_eq_some read
  obtain ⟨-, same⟩ := Option.ite_none_right_eq_some.mp taken
  exact Option.some.inj same ▸ ordered_of_mem_shorthands present

theorem ordered_of_parse {expression : String} (parsed : parse expression = .ok s) : s.Ordered := by
  rw [parse_eq_ok_iff, schedule?, Option.orElse_eq_orElse, Option.orElse_eq_or, Option.or_eq_some_iff] at parsed
  rcases parsed with named | ⟨-, listed⟩
  · exact ordered_of_shorthand? named
  · exact ordered_of_fields? listed

end Cron

section Search

def LeastFrom (A : Int → Prop) (least : Int) : Option Int → Prop
  | some t => A t ∧ least ≤ t ∧ ∀ u, A u → least ≤ u → t ≤ u
  | none => ∀ u, A u → u < least

variable {α : Type} {least : Int}

theorem LeastFrom.congr {A B : Int → Prop} {found : Option Int} (search : LeastFrom A least found)
    (same : ∀ t, A t ↔ B t) : LeastFrom B least found := by
  have equal : A = B := funext fun t => propext (same t)
  exact equal ▸ search

private theorem leastFrom_single (t : Int) : LeastFrom (· = t) least (if least ≤ t then some t else none) := by
  split
  next reached => exact ⟨rfl, reached, fun u equal _ => equal ▸ Int.le_refl u⟩
  next missed => exact fun u equal => by omega

private theorem leastFrom_findSome? {A : α → Int → Prop} {find : α → Option Int} {xs : List α}
    (search : ∀ x ∈ xs, LeastFrom (A x) least (find x))
    (follow : xs.Pairwise fun x y => ∀ t u, A x t → A y u → t < u) :
    LeastFrom (fun t => ∃ x ∈ xs, A x t) least (xs.findSome? find) := by
  induction xs with
  | nil => simp [LeastFrom]
  | cons x xs ih =>
    have here := search x List.mem_cons_self
    have further := ih (fun y present => search y (List.mem_cons_of_mem x present)) follow.tail
    rw [List.findSome?_cons]
    cases first : find x with
    | some t =>
      rw [first] at here
      obtain ⟨member, reached, smallest⟩ := here
      refine ⟨⟨x, List.mem_cons_self, member⟩, reached, ?_⟩
      rintro u ⟨y, present, member'⟩ reached'
      rcases List.mem_cons.mp present with rfl | later
      · exact smallest u member' reached'
      · exact Int.le_of_lt (List.rel_of_pairwise_cons follow later t u member member')
    | none =>
      rw [first] at here
      cases second : xs.findSome? find with
      | some t =>
        rw [second] at further
        obtain ⟨⟨y, present, member⟩, reached, smallest⟩ := further
        refine ⟨⟨y, List.mem_cons_of_mem x present, member⟩, reached, ?_⟩
        rintro u ⟨z, present', member'⟩ reached'
        rcases List.mem_cons.mp present' with rfl | later
        · have missed := here u member'
          omega
        · exact smallest u ⟨z, later, member'⟩ reached'
      | none =>
        rw [second] at further
        rintro u ⟨y, present, member⟩
        rcases List.mem_cons.mp present with rfl | later
        · exact here u member
        · exact further u ⟨y, later, member⟩

end Search

namespace Schedule

structure Marks (s : Schedule) (t : Int) : Prop where
  year : ∃ year ∈ s.years, (Date.ofDays (t / 86400)).year = (year : Int)
  month : (Date.ofDays (t / 86400)).month ∈ s.months
  dayOfMonth : (Date.ofDays (t / 86400)).day ∈ s.daysOfMonth
  dayOfWeek : Date.weekday (t / 86400) ∈ s.daysOfWeek
  hour : (t % 86400 / 3600).toNat ∈ s.hours
  minute : (t % 3600 / 60).toNat ∈ s.minutes
  second : (t % 60).toNat ∈ s.seconds

/-- The instant is a tick: a whole second that all fields allow. -/
structure Ticks (s : Schedule) (t : Instant) : Prop where
  whole : t.nanos = 0
  marks : s.Marks t.seconds

def OnDay (s : Schedule) (days t : Int) : Prop :=
  ∃ hour ∈ s.hours, ∃ minute ∈ s.minutes, ∃ second ∈ s.seconds,
    t = days * 86400 + (hour * 3600 + minute * 60 + second : Nat)

variable {s : Schedule} (ordered : s.Ordered) {days t : Int} {year month : Nat}

section Day

include ordered

theorem OnDay.bounds (on : s.OnDay days t) : days * 86400 ≤ t ∧ t < (days + 1) * 86400 := by
  obtain ⟨hour, hours, minute, minutes, second, seconds, rfl⟩ := on
  have hourMost := ordered.hour_le hours
  have minuteMost := ordered.minute_le minutes
  have secondMost := ordered.second_le seconds
  omega

private theorem onDay_iff : s.OnDay days t ↔ t / 86400 = days ∧ (t % 86400 / 3600).toNat ∈ s.hours ∧
    (t % 3600 / 60).toNat ∈ s.minutes ∧ (t % 60).toNat ∈ s.seconds := by
  constructor
  · rintro ⟨hour, hours, minute, minutes, second, seconds, rfl⟩
    have hourMost := ordered.hour_le hours
    have minuteMost := ordered.minute_le minutes
    have secondMost := ordered.second_le seconds
    generalize split : days * 86400 + ((hour * 3600 + minute * 60 + second : Nat) : Int) = t
    have ofHour : (t % 86400 / 3600).toNat = hour := by omega
    have ofMinute : (t % 3600 / 60).toNat = minute := by omega
    have ofSecond : (t % 60).toNat = second := by omega
    rw [ofHour, ofMinute, ofSecond]
    exact ⟨by omega, hours, minutes, seconds⟩
  · rintro ⟨rfl, hour, minute, second⟩
    exact ⟨_, hour, _, minute, _, second, by omega⟩

private theorem leastFrom_firstOfDay? (days least : Int) :
    LeastFrom (s.OnDay days) least (s.firstOfDay? days least) := by
  unfold firstOfDay?
  split
  next ended =>
    intro u on
    have := (on.bounds ordered).2
    omega
  next =>
    refine leastFrom_findSome? (fun hour _ => leastFrom_findSome? (fun minute _ =>
      leastFrom_findSome? (fun second _ => leastFrom_single _) ?_) ?_) ?_
    · refine ordered.seconds.ascending.imp ?_
      rintro second later before _ _ rfl rfl
      omega
    · refine ordered.minutes.ascending.imp ?_
      rintro minute later before _ _ ⟨second, seconds, rfl⟩ ⟨second', -, rfl⟩
      have secondMost := ordered.second_le seconds
      omega
    · refine ordered.hours.ascending.imp ?_
      rintro hour later before _ _ ⟨minute, minutes, second, seconds, rfl⟩ ⟨minute', -, second', -, rfl⟩
      have minuteMost := ordered.minute_le minutes
      have secondMost := ordered.second_le seconds
      omega

end Day

section Calendar

private theorem mem_daysIn : days ∈ s.daysIn year month ↔
    ∃ day ∈ s.daysOfMonth, day ≤ Date.daysInMonth year month ∧ Date.toDays ⟨year, month, day⟩ = days ∧
      Date.weekday days ∈ s.daysOfWeek := by
  simp only [daysIn, List.mem_filter, List.mem_map, decide_eq_true_eq]
  constructor
  · rintro ⟨⟨day, ⟨listed, within⟩, rfl⟩, weekday⟩
    exact ⟨day, listed, within, rfl, weekday⟩
  · rintro ⟨day, listed, within, rfl, weekday⟩
    exact ⟨⟨day, ⟨listed, within⟩, rfl⟩, weekday⟩

include ordered

private theorem exists_of_listed {day : Nat} (present : month ∈ s.months) (listed : day ∈ s.daysOfMonth)
    (within : day ≤ Date.daysInMonth year month) : Date.exists? ⟨year, month, day⟩ := by
  obtain ⟨least, most⟩ := ordered.month_bounds present
  have first := ordered.day_pos listed
  simp [Date.exists?, least, most, first, within]

private theorem exists_date_of_mem_daysIn (present : month ∈ s.months) (day : days ∈ s.daysIn year month) :
    ∃ d : Date, d.exists? ∧ d.toDays = days ∧ d.year = year ∧ d.month = month := by
  obtain ⟨n, listed, within, rfl, -⟩ := mem_daysIn.mp day
  exact ⟨_, exists_of_listed ordered present listed within, rfl, rfl, rfl⟩

private theorem pairwise_daysIn (present : month ∈ s.months) : (s.daysIn year month).Pairwise (· < ·) := by
  refine List.Pairwise.filter _ (List.pairwise_map.mpr ?_)
  refine (ordered.daysOfMonth.ascending.filter _).imp_of_mem ?_
  intro day later here there before
  simp only [List.mem_filter, decide_eq_true_eq] at here there
  exact Date.toDays_lt (.inr ⟨rfl, .inr ⟨rfl, before⟩⟩) (exists_of_listed ordered present here.1 here.2)
    (exists_of_listed ordered present there.1 there.2)

/-- Years, months and days in ascending order lead to the first of all seconds on a listed day. -/
theorem leastFrom_firstFrom? (least : Int) :
    LeastFrom (fun t => ∃ year ∈ s.years, ∃ month ∈ s.months, ∃ days ∈ s.daysIn year month, s.OnDay days t) least
      (s.firstFrom? least) := by
  have later {days days' t u : Int} (before : days < days') (here : s.OnDay days t) (there : s.OnDay days' u) :
      t < u := by
    have ends := (here.bounds ordered).2
    have begins := (there.bounds ordered).1
    omega
  -- A month or year that comes first has all its days first.
  have first {year year' : Nat} {month month' : Nat} {days days' t u : Int}
      (before : year < year' ∨ year = year' ∧ month < month') (present : month ∈ s.months)
      (present' : month' ∈ s.months) (day : days ∈ s.daysIn year month) (day' : days' ∈ s.daysIn year' month')
      (here : s.OnDay days t) (there : s.OnDay days' u) : t < u := by
    obtain ⟨a, hereExists, rfl, ofYear, ofMonth⟩ := exists_date_of_mem_daysIn ordered present day
    obtain ⟨b, thereExists, rfl, ofYear', ofMonth'⟩ := exists_date_of_mem_daysIn ordered present' day'
    refine later (Date.toDays_lt ?_ hereExists thereExists) here there
    unfold Date.Before
    omega
  refine leastFrom_findSome? (fun year _ => ?_) ?_
  · refine leastFrom_findSome? (fun month present => ?_) ?_
    · refine leastFrom_findSome? (fun days _ => leastFrom_firstOfDay? ordered days least) ?_
      exact (pairwise_daysIn ordered present).imp fun before _ _ => later before
    · refine ordered.months.ascending.imp_of_mem ?_
      rintro month month' present present' before t u ⟨days, day, here⟩ ⟨days', day', there⟩
      exact first (.inr ⟨rfl, before⟩) present present' day day' here there
  · refine ordered.years.ascending.imp ?_
    rintro year year' before t u ⟨month, present, days, day, here⟩ ⟨month', present', days', day', there⟩
    exact first (.inl before) present present' day day' here there

private theorem marks_iff :
    s.Marks t ↔ ∃ year ∈ s.years, ∃ month ∈ s.months, ∃ days ∈ s.daysIn year month, s.OnDay days t := by
  constructor
  · rintro ⟨⟨year, years, ofYear⟩, months, days, weekday, hours, minutes, seconds⟩
    have date : (⟨year, (Date.ofDays (t / 86400)).month, (Date.ofDays (t / 86400)).day⟩ : Date) =
        Date.ofDays (t / 86400) := by rw [← ofYear]
    refine ⟨year, years, _, months, t / 86400, mem_daysIn.mpr ⟨_, days, ?_, ?_, weekday⟩,
      (onDay_iff ordered).mpr ⟨rfl, hours, minutes, seconds⟩⟩
    · rw [← ofYear]
      exact (Date.bounds_of_exists (Date.exists_ofDays _)).2.2.2
    · rw [date, Date.toDays_ofDays]
  · rintro ⟨year, years, month, months, days, day, on⟩
    obtain ⟨rfl, hours, minutes, seconds⟩ := (onDay_iff ordered).mp on
    obtain ⟨n, listed, within, same, weekday⟩ := mem_daysIn.mp day
    have date : Date.ofDays (t / 86400) = ⟨year, month, n⟩ := by
      rw [← same, Date.ofDays_toDays (exists_of_listed ordered months listed within)]
    exact ⟨⟨year, years, by rw [date]⟩, by rwa [date], by rwa [date], weekday, hours, minutes, seconds⟩

private theorem admissible_of_marks (marked : s.Marks t) : Instant.Admissible t 0 := by
  obtain ⟨year, years, same⟩ := marked.year
  obtain ⟨least, most⟩ := ordered.year_bounds years
  have date := Date.toDays_ofDays (t / 86400)
  have begins : Date.toDays ⟨-262143, 1, 1⟩ < (Date.ofDays (t / 86400)).toDays := by
    refine Date.toDays_lt (.inl ?_) (by decide) (Date.exists_ofDays _)
    change -262143 < (Date.ofDays (t / 86400)).year
    omega
  have ends : (Date.ofDays (t / 86400)).toDays < Date.toDays ⟨262142, 12, 31⟩ := by
    refine Date.toDays_lt (.inl ?_) (Date.exists_ofDays _) (by decide)
    change (Date.ofDays (t / 86400)).year < 262142
    omega
  rw [date] at begins ends
  refine ⟨?_, ?_, by decide, fun leap => absurd leap (by decide)⟩
  · unfold Instant.leastSecond
    omega
  · unfold Instant.greatestSecond
    omega

end Calendar

structure IsNext (s : Schedule) (after t : Instant) : Prop where
  ticks : s.Ticks t
  later : after < t
  least : ∀ u, s.Ticks u → after < u → t ≤ u

section Next

variable {after t : Instant}

theorem Ticks.lt_iff (tick : s.Ticks t) : after < t ↔ after.seconds + 1 ≤ t.seconds := by
  have whole := tick.whole
  constructor
  · rintro (before | ⟨-, before⟩) <;> omega
  · exact fun reached => .inl (by omega)

include ordered

private theorem leastFrom_marks (least : Int) : LeastFrom s.Marks least (s.firstFrom? least) :=
  (leastFrom_firstFrom? ordered least).congr fun _ => (marks_iff ordered).symm

theorem isNext_of_next? (found : s.next? after = some t) : s.IsNext after t := by
  obtain ⟨seconds, first, made⟩ := Option.bind_eq_some_iff.mp found
  have search := leastFrom_marks ordered (after.seconds + 1)
  rw [first] at search
  obtain ⟨marked, reached, smallest⟩ := search
  obtain ⟨rfl, whole⟩ := Instant.make?_eq_some_iff.mp made
  have tick : s.Ticks t := ⟨whole, marked⟩
  refine ⟨tick, tick.lt_iff.mpr reached, ?_⟩
  intro u tick before
  have reached' := smallest u.seconds tick.marks (tick.lt_iff.mp before)
  rintro (less | ⟨-, less⟩)
  · omega
  · omega

theorem not_lt_of_next?_eq_none (missed : s.next? after = none) {u : Instant} (tick : s.Ticks u) : ¬ after < u := by
  intro before
  have search := leastFrom_marks ordered (after.seconds + 1)
  cases first : s.firstFrom? (after.seconds + 1) with
  | none =>
    rw [first] at search
    have short := search u.seconds tick.marks
    have reached := tick.lt_iff.mp before
    omega
  | some seconds =>
    rw [first] at search
    have made : Instant.make? seconds 0 = some ⟨seconds, 0, admissible_of_marks ordered search.1⟩ :=
      Instant.make?_eq_some_iff.mpr ⟨rfl, rfl⟩
    rw [next?, first, Option.bind_some, made] at missed
    cases missed

end Next

end Schedule

end AnomalyWatch
