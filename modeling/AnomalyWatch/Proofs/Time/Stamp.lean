import AnomalyWatch.Proofs.Text.Blank
import AnomalyWatch.Proofs.Text.Digits
import AnomalyWatch.Proofs.Time.Calendar
import AnomalyWatch.Time.Reading
import AnomalyWatch.Time.Stamp

/-!
A written instant reads back as the instant it was written for.

Each part of a stamp is read by the reader of that part, which leaves what follows. The reader of documents
puts the parts together; blanks, which it allows between the parts, are never written.
-/

set_option autoImplicit false
set_option relaxedAutoImplicit false

namespace AnomalyWatch

namespace Text

private theorem trimStart_digits {ds : List Char} (rest : List Char) (digits : ∀ c ∈ ds, isDigit c)
    (some : ds ≠ []) : trimStart (ds ++ rest) = ds ++ rest := by
  cases ds with
  | nil => exact absurd rfl some
  | cons c ds => exact trimStart_cons_of_not_blank _ (isBlank_of_isDigit (digits c (by simp)))

end Text

open Text

namespace Instant

section Parts

variable {rest : List Char}

private theorem takeWhile_take_digits {most : Nat} {ds : List Char} (digits : ∀ c ∈ ds, isDigit c)
    (fits : ds.length ≤ most) (ends : ds.length = most ∨ EndsDigits rest) :
    ((ds ++ rest).take most).takeWhile isDigit = ds := by
  have ended : EndsDigits (rest.take (most - ds.length)) := by
    rcases ends with full | ends
    · simp [full]
    · cases rest with
      | nil => simp
      | cons c rest =>
        cases most - ds.length with
        | zero => simp
        | succ k => simpa using ends
  rw [List.take_append, List.take_of_length_le fits]
  exact takeWhile_digits digits ended

theorem number_append {least most : Nat} {ds : List Char} (digits : ∀ c ∈ ds, isDigit c)
    (enough : least ≤ ds.length) (fits : ds.length ≤ most)
    (ends : ds.length = most ∨ EndsDigits rest) :
    number least most (ds ++ rest) = some (digitsValue ds, rest) := by
  simp only [number, takeWhile_take_digits digits fits ends, List.drop_left]
  rw [if_neg (by omega)]

theorem shortNumber_zeroPadded {n : Nat} (small : n < 100) :
    shortNumber (zeroPadded 2 n ++ rest) = some (n, rest) := by
  have full : (zeroPadded 2 n).length = 2 := length_zeroPadded (by decide) small
  rw [shortNumber, trimStart_digits _ (fun _ => isDigit_of_mem_zeroPadded) (zeroPadded_ne_nil 2 n),
    number_append (fun _ => isDigit_of_mem_zeroPadded) (by omega) (by omega) (.inl full),
    digitsValue_zeroPadded]

theorem expect_cons (c : Char) : expect c (c :: rest) = some ((), rest) := by
  simp [expect]

private theorem yearNumber_yearText {year : Int} (ends : EndsDigits rest) :
    yearNumber (yearText year ++ rest) = some (year, rest) := by
  have signed (n : Nat) : number 1 (zeroPadded 4 n ++ rest).length (zeroPadded 4 n ++ rest) =
      some (n, rest) := by
    have long : 4 ≤ (zeroPadded 4 n).length := le_length_zeroPadded
    rw [number_append (fun _ => isDigit_of_mem_zeroPadded) (by omega) (by simp) (.inr ends),
      digitsValue_zeroPadded]
  unfold yearText
  split
  next plain =>
    have small : year.toNat < 10 ^ 4 := by omega
    have full : (zeroPadded 4 year.toNat).length = 4 := length_zeroPadded (by decide) small
    have read : number 1 4 (zeroPadded 4 year.toNat ++ rest) = some (year.toNat, rest) := by
      rw [number_append (fun _ => isDigit_of_mem_zeroPadded) (by omega) (by omega) (.inl full),
        digitsValue_zeroPadded]
    have value : (year.toNat : Int) = year := by omega
    obtain ⟨c, cs, first⟩ := List.exists_cons_of_ne_nil (zeroPadded_ne_nil 4 year.toNat)
    have digit : isDigit c := isDigit_of_mem_zeroPadded (by rw [first]; exact List.mem_cons_self ..)
    have visible : trimStart (c :: (cs ++ rest)) = c :: (cs ++ rest) :=
      trimStart_cons_of_not_blank _ (isBlank_of_isDigit digit)
    rw [first, List.cons_append] at read ⊢
    rw [yearNumber, visible]
    split
    next minus => exact absurd ((List.cons.inj minus).1 ▸ digit) (by decide)
    next plus => exact absurd ((List.cons.inj plus).1 ▸ digit) (by decide)
    next => simp [read, value]
  next outside =>
    split
    next negative =>
      have visible : trimStart ('-' :: (zeroPadded 4 (-year).toNat ++ rest)) =
          '-' :: (zeroPadded 4 (-year).toNat ++ rest) :=
        trimStart_cons_of_not_blank _ (by decide)
      have value : -((-year).toNat : Int) = year := by omega
      simp only [List.cons_append, yearNumber, visible, signed, Option.map_some, value]
    next positive =>
      have visible : trimStart ('+' :: (zeroPadded 4 year.toNat ++ rest)) =
          '+' :: (zeroPadded 4 year.toNat ++ rest) :=
        trimStart_cons_of_not_blank _ (by decide)
      have value : (year.toNat : Int) = year := by omega
      simp only [List.cons_append, yearNumber, visible, signed, Option.map_some, value]

private theorem fraction_zeroPadded {width n : Nat} (positive : 0 < width) (short : width ≤ 9)
    (small : n < 10 ^ width) (ends : EndsDigits rest) :
    fraction (zeroPadded width n ++ rest) = some (n * 10 ^ (9 - width), rest) := by
  have full : (zeroPadded width n).length = width := length_zeroPadded positive small
  have run : ((zeroPadded width n ++ rest).take 9).takeWhile isDigit = zeroPadded width n :=
    takeWhile_take_digits (fun _ => isDigit_of_mem_zeroPadded) (by omega) (.inr ends)
  have none : ∀ c ∈ [], isDigit c := by simp
  have kept : rest.dropWhile isDigit = rest := dropWhile_digits none ends
  simp only [fraction, run, List.drop_left, kept, digitsValue_zeroPadded, List.isEmpty_iff,
    zeroPadded_ne_nil, if_false]
  rw [full]
  rfl

theorem optionalFraction_fractionText {nanos : Nat} (small : nanos < second) (ends : EndsDigits rest)
    (unmarked : ∀ c ∈ rest.head?, c ≠ '.') :
    optionalFraction (fractionText nanos ++ rest) = some (nanos, rest) := by
  have whole (width unit : Nat) (exact : nanos % unit = 0) (scale : unit = 10 ^ (9 - width)) :
      nanos / unit * 10 ^ (9 - width) = nanos := by
    rw [← scale]
    exact Nat.div_mul_cancel (Nat.dvd_of_mod_eq_zero exact)
  have below : nanos < 1000000000 := small
  unfold fractionText
  split
  next zero =>
    cases rest with
    | nil => simp [optionalFraction, zero]
    | cons c rest =>
      have other : c ≠ '.' := unmarked c (by simp)
      rw [List.nil_append, optionalFraction, zero]
      rintro cs ⟨⟩
      exact other rfl
  next =>
    split
    next millis =>
      rw [List.cons_append, optionalFraction,
        fraction_zeroPadded (by decide) (by decide) (by omega) ends, whole 3 _ millis rfl]
    next =>
      split
      next micros =>
        rw [List.cons_append, optionalFraction,
          fraction_zeroPadded (by decide) (by decide) (by omega) ends, whole 6 _ micros rfl]
      next =>
        rw [List.cons_append, optionalFraction,
          fraction_zeroPadded (by decide) (by decide) small ends, Nat.sub_self, Nat.pow_zero,
          Nat.mul_one]

theorem dateWidths {d : Date} (exact : d.exists?) : d.month < 10 ^ 2 ∧ d.day < 10 ^ 2 := by
  obtain ⟨-, months, -, days⟩ := Date.bounds_of_exists exact
  have longest : Date.daysInMonth d.year d.month ≤ 31 := by
    unfold Date.daysInMonth
    split
    · split <;> decide
    · split <;> decide
  exact ⟨by omega, by omega⟩

theorem looseDate_dateText {gap : List Char → List Char} {d : Date} (exact : d.exists?)
    (dash : ∀ cs, gap ('-' :: cs) = '-' :: cs) : looseDate gap (dateText d ++ rest) = some (d, rest) := by
  obtain ⟨months, days⟩ := dateWidths exact
  simp only [dateText, List.append_assoc, List.cons_append, looseDate,
    yearNumber_yearText (endsDigits_cons.mpr (by decide : isDigit '-' = false)), dash, expect_cons,
    shortNumber_zeroPadded months, shortNumber_zeroPadded days, Option.bind_eq_bind, Option.bind_some]

theorem looseMinute_zeroPadded {gap : List Char → List Char} {hour minute : Nat} (hours : hour < 100)
    (minutes : minute < 100) (colon : ∀ cs, gap (':' :: cs) = ':' :: cs) :
    looseMinute gap (zeroPadded 2 hour ++ ':' :: (zeroPadded 2 minute ++ rest)) =
      some ((hour, minute), rest) := by
  simp only [looseMinute, shortNumber_zeroPadded hours, shortNumber_zeroPadded minutes, colon,
    expect_cons, Option.bind_eq_bind, Option.bind_some]

end Parts

theorem make?_eq_some_iff {seconds : Int} {nanos : Nat} {t : Instant} :
    make? seconds nanos = some t ↔ t.seconds = seconds ∧ t.nanos = nanos := by
  unfold make?
  constructor
  · intro made
    split at made
    · cases made
      exact ⟨rfl, rfl⟩
    · cases made
  · rintro ⟨rfl, rfl⟩
    exact dif_pos t.admissible

theorem make?_self (t : Instant) : make? t.seconds t.nanos = some t :=
  make?_eq_some_iff.mpr ⟨rfl, rfl⟩

def parts (t : Instant) : Parts where
  date := Date.ofDays (t.seconds / 86400)
  hour := (t.seconds % 86400).toNat / 3600
  minute := (t.seconds % 86400).toNat / 60 % 60
  second := if second ≤ t.nanos then (t.seconds % 86400).toNat % 60 + 1 else (t.seconds % 86400).toNat % 60
  nanos := if second ≤ t.nanos then t.nanos - second else t.nanos

theorem exists_date_parts (t : Instant) : t.parts.date.exists? :=
  Date.exists_ofDays _

/-- A leap second, and nothing else, shows as second 60. -/
theorem second_parts (t : Instant) : t.parts.second ≤ 60 ∧ (t.parts.second = 60 ↔ second ≤ t.nanos) := by
  obtain ⟨-, -, -, leap⟩ := t.admissible
  simp only [parts]
  split
  next isLeap =>
    have last := leap isLeap
    omega
  next => omega

theorem parts_bounds (t : Instant) : t.parts.hour < 24 ∧ t.parts.minute < 60 ∧ t.parts.nanos < second := by
  obtain ⟨-, -, bounded, -⟩ := t.admissible
  simp only [parts]
  refine ⟨by omega, by omega, ?_⟩
  split <;> omega

theorem ofParts?_parts (t : Instant) (offset : Int) :
    ofParts? t.parts offset = make? (t.seconds - offset) t.nanos := by
  obtain ⟨-, -, -, leap⟩ := t.admissible
  obtain ⟨shown, isLeap⟩ := second_parts t
  obtain ⟨hours, minutes, -⟩ := parts_bounds t
  have nanos : (if t.parts.second = 60 then t.parts.nanos + Instant.second else t.parts.nanos) =
      t.nanos := by
    by_cases late : second ≤ t.nanos
    · rw [if_pos (isLeap.mpr late)]
      simp only [parts, if_pos late]
      omega
    · rw [if_neg (mt isLeap.mp late)]
      simp only [parts, if_neg late]
  have ofDay : t.parts.hour * 3600 + t.parts.minute * 60 +
      (if t.parts.second = 60 then 59 else t.parts.second) = (t.seconds % 86400).toNat := by
    by_cases late : second ≤ t.nanos
    · have last := leap late
      rw [if_pos (isLeap.mpr late)]
      simp only [parts]
      omega
    · rw [if_neg (mt isLeap.mp late)]
      simp only [parts, if_neg late]
      omega
  have seconds : t.parts.date.toDays * 86400 + ((t.seconds % 86400).toNat : Int) = t.seconds := by
    simp only [parts, Date.toDays_ofDays]
    omega
  simp only [ofParts?, exists_date_parts, hours, minutes, shown, nanos, ofDay, seconds, decide_true,
    Bool.and_self, Bool.not_true, Bool.false_eq_true, if_false, make?_self, Option.bind_some]

theorem ofParts?_parts_zero (t : Instant) : ofParts? t.parts 0 = some t := by
  rw [ofParts?_parts, Int.sub_zero, make?_self]

theorem localText_append (t : Instant) (rest : List Char) :
    localText t.seconds t.nanos ++ rest = dateText t.parts.date ++ 'T' :: (zeroPadded 2 t.parts.hour ++
      ':' :: (zeroPadded 2 t.parts.minute ++ ':' :: (zeroPadded 2 t.parts.second ++
        (fractionText t.parts.nanos ++ rest)))) := by
  simp only [localText, parts, List.append_assoc, List.cons_append]

@[simp]
theorem readLenient?_zuluText (t : Instant) : readLenient? t.zuluText = some t := by
  obtain ⟨hours, minutes, nanos⟩ := parts_bounds t
  have seconds := (second_parts t).1
  have visible (c : Char) (cs : List Char) (mark : isBlank c = false) : trimStart (c :: cs) = c :: cs :=
    trimStart_cons_of_not_blank cs mark
  simp only [readLenient?, zuluText, String.toList_ofList, localText_append, Option.bind_eq_bind, Option.bind_some,
    looseDate_dateText (exists_date_parts t) fun cs => visible '-' cs (by decide), dateTimeGap,
    looseMinute_zeroPadded (by omega : t.parts.hour < 100) (by omega : t.parts.minute < 100)
      fun cs => visible ':' cs (by decide),
    visible ':' _ (by decide), expect_cons, shortNumber_zeroPadded (by omega : t.parts.second < 100)]
  rw [optionalFraction_fractionText nanos (by simp; decide) (by simp)]
  simp only [Option.bind_some, visible 'Z' _ (by decide)]
  exact ofParts?_parts_zero t

end Instant

end AnomalyWatch
