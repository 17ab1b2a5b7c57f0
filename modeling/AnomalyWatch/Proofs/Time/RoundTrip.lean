import AnomalyWatch.Proofs.Text.Blank
import AnomalyWatch.Proofs.Time.Forms
import AnomalyWatch.Window

/-!
What clocks show of an instant reads back as that instant.

A clock at an offset of whole minutes shows the parts of another instant, the one at which a UTC clock would show the
same; the reader takes these parts and goes back by the offset. A UTC clock may leave out its offset, and then whatever
is zero at the end.
-/

set_option autoImplicit false
set_option relaxedAutoImplicit false

namespace AnomalyWatch.Instant

open AnomalyWatch.Text

def yearAt (t : Instant) (minutes : Int) : Int :=
  (Date.ofDays ((t.seconds + minutes * 60) / 86400)).year

def minuteText (t : Instant) : List Char :=
  dateText t.parts.date ++ 'T' :: (zeroPadded 2 t.parts.hour ++ ':' :: zeroPadded 2 t.parts.minute)

/-- At a whole minute the shorter text shows all there is. -/
def OnMinute (t : Instant) : Prop :=
  t.seconds % 60 = 0 ∧ t.nanos = 0

instance (t : Instant) : Decidable t.OnMinute :=
  inferInstanceAs (Decidable (_ ∧ _))

/-- At midnight the date shows all there is. -/
def AtMidnight (t : Instant) : Prop :=
  t.seconds % 86400 = 0 ∧ t.nanos = 0

instance (t : Instant) : Decidable t.AtMidnight :=
  inferInstanceAs (Decidable (_ ∧ _))

section Visible

private theorem visible_zeroPadded {width n : Nat} : Visible (zeroPadded width n) :=
  fun _ present => isBlank_of_isDigit (isDigit_of_mem_zeroPadded present)

private theorem visible_yearText (year : Int) : Visible (yearText year) := by
  unfold yearText
  split
  · exact visible_zeroPadded
  · split
    · exact visible_cons.mpr ⟨by decide, visible_zeroPadded⟩
    · exact visible_cons.mpr ⟨by decide, visible_zeroPadded⟩

private theorem visible_fractionText (nanos : Nat) : Visible (fractionText nanos) := by
  have marked {width n : Nat} : Visible ('.' :: zeroPadded width n) :=
    visible_cons.mpr ⟨by decide, visible_zeroPadded⟩
  unfold fractionText
  split
  · exact visible_nil
  · split
    · exact marked
    · split
      · exact marked
      · exact marked

private theorem visible_dateText (d : Date) : Visible (dateText d) := by
  have dash : isBlank '-' = false := by decide
  simp [dateText, visible_yearText, visible_zeroPadded, dash]

private theorem visible_minuteText (t : Instant) : Visible t.minuteText := by
  have colon : isBlank ':' = false := by decide
  have mark : isBlank 'T' = false := by decide
  simp [minuteText, visible_dateText, visible_zeroPadded, colon, mark]

private theorem visible_localText (seconds : Int) (nanos : Nat) : Visible (localText seconds nanos) := by
  have colon : isBlank ':' = false := by decide
  have mark : isBlank 'T' = false := by decide
  simp [localText, visible_dateText, visible_zeroPadded, visible_fractionText, colon, mark]

private theorem visible_offsetText (minutes : Int) : Visible (offsetText minutes) := by
  have colon : isBlank ':' = false := by decide
  have sign : isBlank (if minutes < 0 then '-' else '+') = false := by split <;> decide
  simp [offsetText, visible_zeroPadded, colon, sign]

end Visible

section Offset

variable {minutes : Int}

private theorem number_zeroPadded {width n : Nat} {rest : List Char} (positive : 0 < width) (small : n < 10 ^ width) :
    number width width (zeroPadded width n ++ rest) = some (n, rest) := by
  have full : (zeroPadded width n).length = width := length_zeroPadded positive small
  rw [number_append (fun _ => isDigit_of_mem_zeroPadded) (by omega) (by omega) (.inl full), digitsValue_zeroPadded]

private theorem offset_offsetText (least : -1440 < minutes) (most : minutes < 1440) :
    offset (expect ':') (offsetText minutes) = some (minutes * 60, []) := by
  have hours : minutes.natAbs / 60 < 10 ^ 2 := by omega
  have rest : minutes.natAbs % 60 < 10 ^ 2 := by omega
  have within : ¬ 59 < minutes.natAbs % 60 := by omega
  have digits : offsetDigits (expect ':') (zeroPadded 2 (minutes.natAbs / 60) ++ ':' ::
      zeroPadded 2 (minutes.natAbs % 60)) = some (minutes.natAbs * 60, []) := by
    have last : number 2 2 (zeroPadded 2 (minutes.natAbs % 60) ++ []) = some (minutes.natAbs % 60, []) :=
      number_zeroPadded (by decide) rest
    rw [List.append_nil] at last
    simp only [offsetDigits, number_zeroPadded (by decide : 0 < 2) hours, expect_cons, last, within, if_false,
      Option.bind_eq_bind, Option.bind_some]
    have whole : minutes.natAbs / 60 * 3600 + minutes.natAbs % 60 * 60 = minutes.natAbs * 60 := by omega
    rw [whole]
  unfold offsetText
  split
  next behind =>
    have value : -((minutes.natAbs * 60 : Nat) : Int) = minutes * 60 := by omega
    simp only [List.cons_append, offset, digits, Option.map_some, value]
  next ahead =>
    have value : ((minutes.natAbs * 60 : Nat) : Int) = minutes * 60 := by omega
    simp only [List.cons_append, offset, digits, Option.map_some, value]

private theorem offsetText_head (minutes : Int) :
    EndsDigits (offsetText minutes) ∧ ∀ c ∈ (offsetText minutes).head?, c ≠ '.' := by
  unfold offsetText
  split
  · exact ⟨endsDigits_cons.mpr (by decide), by simp⟩
  · exact ⟨endsDigits_cons.mpr (by decide), by simp⟩

private theorem exists_wall {t : Instant} (least : 0 ≤ t.yearAt minutes) (most : t.yearAt minutes ≤ 9999) :
    ∃ wall : Instant, wall.seconds = t.seconds + minutes * 60 ∧ wall.nanos = t.nanos := by
  obtain ⟨-, -, short, leap⟩ := t.admissible
  have there := Date.exists_ofDays ((t.seconds + minutes * 60) / 86400)
  have begun := Date.toDays_lt (a := ⟨-262143, 1, 1⟩) (.inl (by simp only [yearAt] at least ⊢; omega)) (by decide) there
  have ended := Date.toDays_lt (b := ⟨262142, 12, 31⟩) (.inl (by simp only [yearAt] at most ⊢; omega)) there (by decide)
  rw [Date.toDays_ofDays] at begun ended
  refine ⟨⟨t.seconds + minutes * 60, t.nanos, ?_, ?_, short, ?_⟩, rfl, rfl⟩
  · unfold leastSecond
    omega
  · unfold greatestSecond
    omega
  · intro late
    have last := leap late
    omega

end Offset

section Forms

variable {t : Instant} {rest : List Char}

private theorem fixedDate_dateText {d : Date} (exact : d.exists?) (least : 0 ≤ d.year) (most : d.year ≤ 9999) :
    fixedDate (dateText d ++ rest) = some (d, rest) := by
  obtain ⟨months, days⟩ := dateWidths exact
  have years : d.year.toNat < 10 ^ 4 := by omega
  have year : (d.year.toNat : Int) = d.year := by omega
  rw [dateText, yearText, if_pos ⟨least, most⟩]
  simp only [List.append_assoc, List.cons_append, fixedDate, number_zeroPadded (by decide : 0 < 4) years, expect_cons,
    number_zeroPadded (by decide : 0 < 2) months, number_zeroPadded (by decide : 0 < 2) days, Option.bind_eq_bind,
    Option.bind_some, year]
  rfl

private theorem fixedMinute_parts (t : Instant) : fixedMinute (zeroPadded 2 t.parts.hour ++ ':' ::
    (zeroPadded 2 t.parts.minute ++ rest)) = some ((t.parts.hour, t.parts.minute), rest) := by
  obtain ⟨hours, minutes, -⟩ := parts_bounds t
  simp only [fixedMinute, number_zeroPadded (by decide : 0 < 2) (by omega : t.parts.hour < 10 ^ 2), expect_cons,
    number_zeroPadded (by decide : 0 < 2) (by omega : t.parts.minute < 10 ^ 2), Option.bind_eq_bind, Option.bind_some]
  rfl

private theorem fixedForm?_textAt {minutes : Int} (least : -1440 < minutes) (most : minutes < 1440)
    (begun : 0 ≤ t.yearAt minutes) (ended : t.yearAt minutes ≤ 9999) : fixedForm? (t.textAt minutes) = some t := by
  obtain ⟨wall, seconds, nanos⟩ := exists_wall begun ended
  obtain ⟨-, -, short⟩ := parts_bounds wall
  have secondsOf := (second_parts wall).1
  obtain ⟨closes, unmarked⟩ := offsetText_head minutes
  rw [yearAt, ← seconds] at begun ended
  have within : checkedOffset (minutes * 60) = some (minutes * 60) := if_pos (by omega)
  have back : ofParts? wall.parts (minutes * 60) = some t := by
    rw [ofParts?_parts, seconds, nanos, Int.add_sub_cancel, make?_self]
  have shown := localText_append wall (offsetText minutes)
  rw [seconds, nanos] at shown
  rw [textAt, shown]
  simp only [fixedForm?_eq, fixedDate_dateText (exists_date_parts wall) begun ended, dateTimeGap, fixedMinute_parts,
    expect_cons, number_zeroPadded (by decide : 0 < 2) (by omega : wall.parts.second < 10 ^ 2),
    optionalFraction_fractionText short closes unmarked, offset_offsetText least most, within, Option.bind_eq_bind,
    Option.bind_some]
  exact back

private theorem looseDate_bare {d : Date} (exact : d.exists?) : looseDate id (dateText d ++ rest) = some (d, rest) :=
  looseDate_dateText exact fun _ => rfl

private theorem looseMinute_bare (t : Instant) : looseMinute id (zeroPadded 2 t.parts.hour ++ ':' ::
    (zeroPadded 2 t.parts.minute ++ rest)) = some ((t.parts.hour, t.parts.minute), rest) := by
  obtain ⟨hours, minutes, -⟩ := parts_bounds t
  exact looseMinute_zeroPadded (by omega) (by omega) fun _ => rfl

private theorem secondForm?_localText (t : Instant) : secondForm? (localText t.seconds t.nanos) = some t := by
  obtain ⟨-, -, nanos⟩ := parts_bounds t
  have seconds := (second_parts t).1
  have shown := localText_append t []
  rw [List.append_nil] at shown
  rw [shown]
  simp only [secondForm?, Option.bind_eq_bind, Option.bind_some, looseDate_bare (exists_date_parts t), expect_cons,
    looseMinute_bare, shortNumber_zeroPadded (by omega : t.parts.second < 100),
    optionalFraction_fractionText nanos endsDigits_nil (by simp)]
  exact ofParts?_parts_zero t

private theorem minuteForm?_minuteText (whole : t.OnMinute) : minuteForm? t.minuteText = some t := by
  obtain ⟨minute, nanos⟩ := whole
  have rest : t.parts = ⟨t.parts.date, t.parts.hour, t.parts.minute, 0, 0⟩ := by
    have early : ¬ second ≤ 0 := by decide
    simp only [parts, nanos, if_neg early, Parts.mk.injEq, true_and, and_true]
    omega
  have timed : looseMinute id (zeroPadded 2 t.parts.hour ++ ':' :: (zeroPadded 2 t.parts.minute ++ [])) = _ :=
    looseMinute_bare t
  rw [List.append_nil] at timed
  simp only [minuteForm?, minuteText, Option.bind_eq_bind, Option.bind_some, looseDate_bare (exists_date_parts t),
    expect_cons, timed]
  rw [if_neg (by simp), ← rest]
  exact ofParts?_parts_zero t

private theorem dateForm?_dateText (midnight : t.AtMidnight) : dateForm? (dateText t.parts.date) = some t := by
  obtain ⟨day, nanos⟩ := midnight
  have rest : t.parts = ⟨t.parts.date, 0, 0, 0, 0⟩ := by
    have early : ¬ second ≤ 0 := by decide
    simp only [parts, nanos, if_neg early, day, Parts.mk.injEq, true_and, and_true]
    decide
  have dated : looseDate id (dateText t.parts.date ++ []) = _ := looseDate_bare (exists_date_parts t)
  rw [List.append_nil] at dated
  simp only [dateForm?, Option.bind_eq_bind, Option.bind_some, dated]
  rw [if_neg (by simp), ← rest]
  exact ofParts?_parts_zero t

end Forms

section Reader

variable {t : Instant}

private theorem readInstant_eq_ok_iff {text : String} : readInstant text = .ok t ↔ ∃ f : Form, f.Accepts text t := by
  rw [← read?_eq_some_iff, readInstant]
  cases Instant.read? text with
  | none => simp
  | some u => simp

private theorem readInstant_of_visible {cs : List Char} (visible : Visible cs) (f : Form) (read : f.read? cs = some t) :
    readInstant (String.ofList cs) = .ok t := by
  have accepted : f.Accepts (String.ofList cs) t := by
    rw [Form.Accepts, String.toList_ofList, visible.trimChars, read]
  exact readInstant_eq_ok_iff.mpr ⟨f, accepted⟩

private theorem readInstant_surround {before after : String} (leading : allBlank before) (trailing : allBlank after)
    (text : String) : readInstant (before ++ text ++ after) = .ok t ↔ readInstant text = .ok t := by
  rw [allBlank_iff] at leading trailing
  have same : trimChars (before ++ text ++ after).toList = trimChars text.toList := by
    rw [String.toList_append, String.toList_append, trimChars_surround leading trailing]
  simp only [readInstant_eq_ok_iff, Form.Accepts, same]

/-- Whatever a clock shows of an instant is read back as that instant, also between blanks, and no text stands for two
instants. A clock at an offset shows it, and a UTC clock may leave it out, together with what is zero at the end. -/
theorem readInstant_shown (t : Instant) :
    (∀ minutes : Int, -1440 < minutes → minutes < 1440 → 0 ≤ t.yearAt minutes → t.yearAt minutes ≤ 9999 →
        readInstant (String.ofList (t.textAt minutes)) = .ok t) ∧
      readInstant (String.ofList (localText t.seconds t.nanos)) = .ok t ∧
      (t.OnMinute → readInstant (String.ofList t.minuteText) = .ok t) ∧
      (t.AtMidnight → readInstant (String.ofList (dateText t.parts.date)) = .ok t) ∧
      (∀ before text after : String, allBlank before → allBlank after →
        (readInstant (before ++ text ++ after) = .ok t ↔ readInstant text = .ok t)) ∧
      (∀ text : String, readInstant text = .ok t ↔ ∃ f : Form, f.Accepts text t) ∧
      (∀ (f g : Form) (text : String) (u : Instant), f.Accepts text t → g.Accepts text u → f = g ∧ t = u) := by
  refine ⟨fun minutes least most begun ended => ?_, ?_, fun whole => ?_, fun midnight => ?_,
    fun _ text _ leading trailing => readInstant_surround leading trailing text, fun _ => readInstant_eq_ok_iff, ?_⟩
  · have visible : Visible (t.textAt minutes) :=
      visible_append.mpr ⟨visible_localText _ _, visible_offsetText minutes⟩
    exact readInstant_of_visible visible .withOffset (fixedForm?_textAt least most begun ended)
  · exact readInstant_of_visible (visible_localText _ _) .toSecond (secondForm?_localText t)
  · exact readInstant_of_visible (visible_minuteText t) .toMinute (minuteForm?_minuteText whole)
  · exact readInstant_of_visible (visible_dateText _) .bareDate (dateForm?_dateText midnight)
  · intro f g text u read again
    obtain rfl := form_unique read again
    exact ⟨rfl, Option.some.inj (read.symm.trans again)⟩

def leapOf2016 : Instant := ⟨1483228799, 1500000000, by decide⟩

def newYear2017 : Instant := ⟨1483228800, 0, by decide⟩

/-- During the leap second a clock nine hours ahead is already in the next year; the midnight has its shortest text, and
no other reading of it. -/
theorem readInstant_turn_of_2017 :
    String.ofList (leapOf2016.textAt 540) = "2017-01-01T08:59:60.500+09:00" ∧
      readInstant (String.ofList (leapOf2016.textAt 540)) = .ok leapOf2016 ∧
      readInstant (String.ofList newYear2017.minuteText) = .ok newYear2017 ∧
      readInstant ("\t" ++ String.ofList (dateText newYear2017.parts.date) ++ " ") = .ok newYear2017 ∧
      ∃ f : Form, ∀ (g : Form) (u : Instant), g.Accepts (String.ofList (dateText newYear2017.parts.date)) u →
        f = g ∧ newYear2017 = u := by
  obtain ⟨atOffset, -⟩ := readInstant_shown leapOf2016
  obtain ⟨-, -, toMinute, bare, between, accepted, unique⟩ := readInstant_shown newYear2017
  have read := bare (by decide)
  obtain ⟨f, reads⟩ := (accepted _).mp read
  exact ⟨by decide, atOffset 540 (by decide) (by decide) (by decide) (by decide), toMinute (by decide),
    (between "\t" _ " " (by decide) (by decide)).mpr read, f, fun g u also => unique f g _ u reads also⟩

end Reader

end AnomalyWatch.Instant
