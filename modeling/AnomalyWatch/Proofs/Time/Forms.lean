import AnomalyWatch.Proofs.Time.Stamp

/-!
The four forms of a written instant exclude one another.

All of them begin with a date, and the longer ones go on where the shorter ones end. The form with an offset has its
numbers at their full width, so the readers of the other forms take the same date and time of day from it; but then an
offset is still to come where they have to be at the end of the text.
-/

set_option autoImplicit false
set_option relaxedAutoImplicit false

namespace AnomalyWatch.Instant

open AnomalyWatch.Text

inductive Form
  | withOffset | toSecond | toMinute | bareDate
  deriving DecidableEq

def Form.read? : Form → List Char → Option Instant
  | withOffset => fixedForm?
  | toSecond => secondForm?
  | toMinute => minuteForm?
  | bareDate => dateForm?

/-- The text has the form and denotes the instant; the blanks at its ends do not belong to the form. -/
def Form.Accepts (f : Form) (text : String) (t : Instant) : Prop :=
  f.read? (trimChars text.toList) = some t

/-- The only form that a text can have, by what the readers of its parts leave of it. -/
def formOf? (cs : List Char) : Option Form := do
  let (_, cs) ← looseDate id cs
  match cs with
  | [] => some .bareDate
  | _ :: cs =>
    let (_, cs) ← looseMinute id cs
    match cs with
    | [] => some .toMinute
    | _ :: cs =>
      let (_, cs) ← shortNumber cs
      let (_, cs) ← optionalFraction cs
      if cs = [] then some .toSecond else some .withOffset

section Widths

variable {least most n : Nat} {cs rest : List Char}

private theorem number_of_le {fewer : Nat} (read : number least most cs = some (n, rest)) (fits : fewer ≤ least) :
    number fewer most cs = some (n, rest) := by
  simp only [number] at read ⊢
  split at read
  · cases read
  · rename_i enough
    rw [if_neg (by omega)]
    exact read

private theorem exists_digit_of_number (positive : 0 < least) (read : number least most cs = some (n, rest)) :
    ∃ c later, cs = c :: later ∧ isDigit c = true := by
  simp only [number] at read
  split at read
  · cases read
  · rename_i enough
    cases cs with
    | nil => simp at enough; omega
    | cons c later =>
      refine ⟨c, later, rfl, ?_⟩
      cases most with
      | zero => simp at enough; omega
      | succ most =>
        cases digit : isDigit c with
        | true => rfl
        | false => simp [digit] at enough; omega

private theorem shortNumber_of_number (read : number 2 2 cs = some (n, rest)) : shortNumber cs = some (n, rest) := by
  obtain ⟨c, later, rfl, digit⟩ := exists_digit_of_number (by decide) read
  rw [shortNumber, trimStart_cons_of_not_blank later (isBlank_of_isDigit digit)]
  exact number_of_le read (by decide)

private theorem yearNumber_of_number (read : number 4 4 cs = some (n, rest)) :
    yearNumber cs = some ((n : Int), rest) := by
  obtain ⟨c, later, rfl, digit⟩ := exists_digit_of_number (by decide) read
  have visible := trimStart_cons_of_not_blank later (isBlank_of_isDigit digit)
  have plain := number_of_le read (by decide : 1 ≤ 4)
  unfold yearNumber
  rw [visible]
  split
  next minus => exact absurd ((List.cons.inj minus).1 ▸ digit) (by decide)
  next plus => exact absurd ((List.cons.inj plus).1 ▸ digit) (by decide)
  next => rw [plain, Option.map_some]

private theorem expect_eq_some_iff {c : Char} {u : Unit} : expect c cs = some (u, rest) ↔ cs = c :: rest := by
  cases cs with
  | nil => simp [expect]
  | cons d later =>
    by_cases same : d = c
    · simp [expect, same]
    · simp [expect, same]

private theorem exists_of_dateTimeGap {u : Unit} (read : dateTimeGap cs = some (u, rest)) : ∃ c, cs = c :: rest := by
  unfold dateTimeGap at read
  split at read
  · cases read
    exact ⟨_, rfl⟩
  · cases read
    exact ⟨_, rfl⟩
  · cases read
    exact ⟨_, rfl⟩
  · cases read

def fixedDate (cs : List Char) : Option (Date × List Char) := do
  let (year, cs) ← number 4 4 cs
  let ((), cs) ← expect '-' cs
  let (month, cs) ← number 2 2 cs
  let ((), cs) ← expect '-' cs
  let (day, cs) ← number 2 2 cs
  return (⟨year, month, day⟩, cs)

def fixedMinute (cs : List Char) : Option ((Nat × Nat) × List Char) := do
  let (hour, cs) ← number 2 2 cs
  let ((), cs) ← expect ':' cs
  let (minute, cs) ← number 2 2 cs
  return ((hour, minute), cs)

theorem fixedForm?_eq (cs : List Char) : fixedForm? cs = (do
    let (date, cs) ← fixedDate cs
    let ((), cs) ← dateTimeGap cs
    let ((hour, minute), cs) ← fixedMinute cs
    let ((), cs) ← expect ':' cs
    let (second, cs) ← number 2 2 cs
    let (nanos, cs) ← optionalFraction cs
    let (seconds, cs) ← offset (expect ':') cs
    let seconds ← checkedOffset seconds
    if cs ≠ [] then none else ofParts? ⟨date, hour, minute, second, nanos⟩ seconds) := by
  simp only [fixedForm?, fixedDate, fixedMinute, bind_assoc, pure_bind]

private theorem looseDate_of_fixedDate {d : Date} (read : fixedDate cs = some (d, rest)) :
    looseDate id cs = some (d, rest) := by
  simp only [fixedDate, Option.bind_eq_bind, Option.bind_eq_some_iff, Prod.exists, expect_eq_some_iff] at read
  obtain ⟨year, _, years, _, _, rfl, month, _, months, _, _, rfl, day, _, days, done⟩ := read
  cases done
  simp [looseDate, yearNumber_of_number years, shortNumber_of_number months, shortNumber_of_number days, expect_cons]

private theorem looseMinute_of_fixedMinute {time : Nat × Nat} (read : fixedMinute cs = some (time, rest)) :
    looseMinute id cs = some (time, rest) := by
  simp only [fixedMinute, Option.bind_eq_bind, Option.bind_eq_some_iff, Prod.exists, expect_eq_some_iff] at read
  obtain ⟨hour, _, hours, _, _, rfl, minute, _, minutes, done⟩ := read
  cases done
  simp [looseMinute, shortNumber_of_number hours, shortNumber_of_number minutes, expect_cons]

end Widths

section Shapes

variable {cs : List Char} {t u : Instant} {f g : Form}

private theorem formOf?_of_dateForm? (read : dateForm? cs = some t) : formOf? cs = some .bareDate := by
  simp only [dateForm?, Option.bind_eq_bind, Option.bind_eq_some_iff, Prod.exists] at read
  obtain ⟨date, rest, dated, ended⟩ := read
  split at ended
  · cases ended
  · rename_i nothing
    have nothing : rest = [] := Decidable.not_not.mp nothing
    subst nothing
    simp [formOf?, dated]

private theorem formOf?_of_minuteForm? (read : minuteForm? cs = some t) : formOf? cs = some .toMinute := by
  simp only [minuteForm?, Option.bind_eq_bind, Option.bind_eq_some_iff, Prod.exists, expect_eq_some_iff] at read
  obtain ⟨date, _, dated, _, rest, rfl, hour, minute, rest, timed, ended⟩ := read
  split at ended
  · cases ended
  · rename_i nothing
    have nothing : rest = [] := Decidable.not_not.mp nothing
    subst nothing
    simp [formOf?, dated, timed]

private theorem formOf?_of_secondForm? (read : secondForm? cs = some t) : formOf? cs = some .toSecond := by
  simp only [secondForm?, Option.bind_eq_bind, Option.bind_eq_some_iff, Prod.exists, expect_eq_some_iff] at read
  obtain ⟨date, _, dated, _, rest, rfl, hour, minute, _, timed, _, rest, rfl, second, rest, counted, nanos, rest,
    divided, ended⟩ := read
  split at ended
  · cases ended
  · rename_i nothing
    have nothing : rest = [] := Decidable.not_not.mp nothing
    subst nothing
    simp [formOf?, dated, timed, counted, divided]

private theorem formOf?_of_fixedForm? (read : fixedForm? cs = some t) : formOf? cs = some .withOffset := by
  simp only [fixedForm?_eq, Option.bind_eq_bind, Option.bind_eq_some_iff, Prod.exists, expect_eq_some_iff] at read
  obtain ⟨date, _, dated, _, ofDay, gap, hour, minute, _, timed, _, fromSecond, rfl, second, _, seconds, nanos, zone,
    divided, shift, left, zoned, -⟩ := read
  obtain ⟨c, rfl⟩ := exists_of_dateTimeGap gap
  have going : zone ≠ [] := by
    rintro rfl
    cases zoned
  simp [formOf?, looseDate_of_fixedDate dated, looseMinute_of_fixedMinute timed, shortNumber_of_number seconds, divided,
    going]

private theorem formOf?_of_read? (read : f.read? cs = some t) : formOf? cs = some f := by
  cases f with
  | withOffset => exact formOf?_of_fixedForm? read
  | toSecond => exact formOf?_of_secondForm? read
  | toMinute => exact formOf?_of_minuteForm? read
  | bareDate => exact formOf?_of_dateForm? read

/-- No text is accepted in two forms. -/
theorem form_unique (read : f.read? cs = some t) (again : g.read? cs = some u) : f = g := by
  have same := (formOf?_of_read? read).symm.trans (formOf?_of_read? again)
  exact Option.some.inj same

/-- Since the forms exclude one another, it does not matter in which order they are tried. -/
theorem read?_eq_some_iff {text : String} : Instant.read? text = some t ↔ ∃ f : Form, f.Accepts text t := by
  unfold Form.Accepts
  generalize chars : trimChars text.toList = cs
  have tried : Instant.read? text = (Form.read? .withOffset cs).or ((Form.read? .toSecond cs).or
      ((Form.read? .toMinute cs).or (Form.read? .bareDate cs))) := by
    simp only [Instant.read?, Form.read?, chars, HOrElse.hOrElse, OrElse.orElse, Option.orElse_eq_or]
  rw [tried]
  simp only [Option.or_eq_some_iff]
  constructor
  · rintro (read | ⟨-, read | ⟨-, read | ⟨-, read⟩⟩⟩)
    · exact ⟨_, read⟩
    · exact ⟨_, read⟩
    · exact ⟨_, read⟩
    · exact ⟨_, read⟩
  · rintro ⟨f, read⟩
    have other (g : Form) (differs : f ≠ g) : g.read? cs = none := by
      cases result : g.read? cs with
      | none => rfl
      | some u => exact absurd (form_unique read result) differs
    cases f with
    | withOffset => exact .inl read
    | toSecond => exact .inr ⟨other _ (by decide), .inl read⟩
    | toMinute => exact .inr ⟨other _ (by decide), .inr ⟨other _ (by decide), .inl read⟩⟩
    | bareDate => exact .inr ⟨other _ (by decide), .inr ⟨other _ (by decide), .inr ⟨other _ (by decide), read⟩⟩⟩

end Shapes

end AnomalyWatch.Instant
