import AnomalyWatch.Cron.Schedule
import AnomalyWatch.Proofs.Text.Digits
import AnomalyWatch.Proofs.Text.Words

/-!
The normal form of a cron expression.

Fields are counted by the blanks between them, and any Unicode blank counts. An expression of five fields stands for
the one with a zero in front. Normalizing changes no field besides, and a second time it changes nothing, so that it
makes no difference whether an expression or its normal form is parsed.

Inside an expression only some blanks are admitted. Behind the zero, any number of these may stand, and no other blank.
-/

set_option autoImplicit false
set_option relaxedAutoImplicit false

namespace AnomalyWatch.Cron

open AnomalyWatch.Text (isBlank isDigit trimChars words EndsDigits)

section Normal

def secondsFor (fields : Nat) : List Char :=
  if fields = 5 then ['0', ' '] else []

private theorem toList_normalize (e : String) :
    (normalize e).toList = secondsFor (words e.toList).length ++ trimChars e.toList := by
  unfold normalize secondsFor
  simp only [Text.trim, String.toList_ofList, Text.words_trimChars]
  split <;> simp

private theorem words_zero_append {gap : List Char} (present : gap ≠ []) (blank : ∀ c ∈ gap, isBlank c = true)
    (cs : List Char) : words ('0' :: gap ++ cs) = ['0'] :: words cs := by
  obtain ⟨g, more, rfl⟩ := List.exists_cons_of_ne_nil present
  obtain ⟨first, later⟩ := List.forall_mem_cons.mp blank
  calc words ('0' :: g :: more ++ cs)
    _ = words ['0'] ++ words (more ++ cs) := Text.words_append_cons first ['0'] (more ++ cs)
    _ = ['0'] :: words cs := by
      rw [Text.words_blank_append later]
      rfl

private theorem words_normalize (e : String) : words (normalize e).toList =
    (if (words e.toList).length = 5 then [['0']] else []) ++ words e.toList := by
  have space : ∀ c ∈ [' '], isBlank c = true := List.forall_mem_singleton.mpr (by decide)
  rw [toList_normalize, secondsFor, ← Text.words_trimChars e.toList]
  split
  · exact words_zero_append (List.cons_ne_nil ' ' []) space (trimChars e.toList)
  · rfl

private theorem length_words_normalize (e : String) : (words (normalize e).toList).length ≠ 5 := by
  rw [words_normalize]
  split
  next five => simp [five]
  next other => simpa using other

private theorem trimChars_ne_nil {e : String} (fields : (words e.toList).length = 5) : trimChars e.toList ≠ [] := by
  intro blank
  rw [← Text.words_trimChars, blank] at fields
  cases fields

private theorem trimChars_normalize (e : String) : trimChars (normalize e).toList = (normalize e).toList := by
  rw [toList_normalize, secondsFor]
  split
  next five => exact Text.trimChars_cons_append (by decide) [' '] (trimChars_ne_nil five)
  next => exact Text.trimChars_trimChars e.toList

private theorem normalize_normalize (e : String) : normalize (normalize e) = normalize e := by
  apply String.toList_inj.mp
  rw [toList_normalize, secondsFor, if_neg (length_words_normalize e), List.nil_append, trimChars_normalize]

end Normal

section Zero

variable {rest rest' : List Char}

private theorem skipGap_cons {c : Char} (shown : isGap c = false) (rest : List Char) :
    skipGap (c :: rest) = c :: rest :=
  List.dropWhile_cons_of_neg (by simp [shown])

private theorem number?_zero (ends : EndsDigits rest) : number? ('0' :: rest) = some (0, skipGap rest) := by
  have zero : ∀ c ∈ ['0'], isDigit c = true := List.forall_mem_singleton.mpr (by decide)
  have taken : ('0' :: rest).takeWhile isDigit = ['0'] := Text.takeWhile_digits zero ends
  have dropped : ('0' :: rest).dropWhile isDigit = rest := Text.dropWhile_digits zero ends
  simp only [number?, skipGap_cons (show isGap '0' = false by decide), taken, dropped]
  rfl

private theorem name?_zero (rest : List Char) : name? ('0' :: rest) = none := by
  simp only [name?, skipGap_cons (show isGap '0' = false by decide)]
  rfl

private theorem item?_zero (f : Field) (ends : EndsDigits rest) (ends' : EndsDigits rest')
    (same : skipGap rest = skipGap rest') : item? f ('0' :: rest) = item? f ('0' :: rest') := by
  have bounded : bounded? ('0' :: rest) = bounded? ('0' :: rest') := by
    simp only [bounded?, number?_zero ends, number?_zero ends', same]
  have span : span? f ('0' :: rest) = span? f ('0' :: rest') := bounded
  simp only [item?, span, name?_zero]

private theorem fields?_zero (ends : EndsDigits rest) (ends' : EndsDigits rest') (same : skipGap rest = skipGap rest') :
    fields? ('0' :: rest) = fields? ('0' :: rest') := by
  have first : field? .second ('0' :: rest) = field? .second ('0' :: rest') := by
    simp only [field?, skipGap_cons (show isGap '0' = false by decide), item?_zero .second ends ends' same]
  simp only [fields?, first]

private theorem schedule?_zero (rest : List Char) :
    schedule? (String.ofList ('0' :: rest)) = fields? ('0' :: rest) := by
  have unnamed : shorthand? ('0' :: rest) = none := by
    simp only [shorthand?, skipGap_cons (show isGap '0' = false by decide)]
    rfl
  simp only [schedule?, String.toList_ofList, unnamed]
  rfl

end Zero

section Foreign

variable {b c : Char} {more rest : List Char}

/-- A blank that separates fields when they are counted, but may not stand inside an expression. -/
def Foreign (b : Char) : Prop :=
  isBlank b = true ∧ isGap b = false

private theorem not_digit_of_blank (blank : isBlank b = true) : isDigit b = false := by
  apply Bool.eq_false_iff.mpr
  intro digit
  rw [Text.isBlank_of_isDigit digit] at blank
  cases blank

private theorem not_letter_of_blank (blank : isBlank b = true) : isLetter b = false := by
  simp [isBlank] at blank
  simp [isLetter]
  omega

private theorem mark?_blank (blank : isBlank b = true) (shown : isBlank c = false) : mark? c (b :: more) = none := by
  have other : b ≠ c := by
    rintro rfl
    rw [shown] at blank
    cases blank
  rw [mark?, if_neg other]

theorem Foreign.skipGap (foreign : Foreign b) (more : List Char) : skipGap (b :: more) = b :: more :=
  skipGap_cons foreign.2 more

private theorem Foreign.field?_eq_none (foreign : Foreign b) (f : Field) (more : List Char) :
    field? f (b :: more) = none := by
  have digits : (b :: more).takeWhile isDigit = [] :=
    List.takeWhile_cons_of_neg (by simp [not_digit_of_blank foreign.1])
  have letters : (b :: more).takeWhile isLetter = [] :=
    List.takeWhile_cons_of_neg (by simp [not_letter_of_blank foreign.1])
  have number : number? (b :: more) = none := by
    simp only [number?, foreign.skipGap, digits]
    rfl
  have name : name? (b :: more) = none := by
    simp only [name?, foreign.skipGap, letters]
    rfl
  have span : span? f (b :: more) = none := by
    unfold span?
    split
    next _ same =>
      obtain ⟨rfl, -⟩ := List.cons.inj same
      exact absurd foreign.1 (by decide)
    next _ same =>
      obtain ⟨rfl, -⟩ := List.cons.inj same
      exact absurd foreign.1 (by decide)
    next =>
      simp only [bounded?, number, name]
      rfl
  have item : item? f (b :: more) = none := by
    simp only [item?, span, name]
    rfl
  simp only [field?, foreign.skipGap, item]
  rfl

/-- A zero is read in front of such a blank, and the blank is what the next field meets. -/
theorem Foreign.fields?_eq_none (foreign : Foreign b) (ends : EndsDigits rest)
    (behind : Cron.skipGap rest = b :: more) :
    fields? ('0' :: rest) = none := by
  have bounded : bounded? ('0' :: rest) = some (.point 0, b :: more) := by
    simp only [bounded?, number?_zero ends, behind, mark?_blank foreign.1 (show isBlank '-' = false by decide)]
    rfl
  have span : span? .second ('0' :: rest) = some (.point 0, b :: more) := bounded
  have item : item? .second ('0' :: rest) = some (.plain (.point 0), b :: more) := by
    simp only [item?, span, mark?_blank foreign.1 (show isBlank '/' = false by decide)]
    rfl
  have alone : moreItems .second (b :: more) (b :: more).length = ([], b :: more) := by
    simp only [List.length_cons, moreItems, mark?_blank foreign.1 (show isBlank ',' = false by decide)]
    rfl
  have first : field? .second ('0' :: rest) = some ([0], b :: more) := by
    simp only [field?, skipGap_cons (show isGap '0' = false by decide), item, Option.bind_eq_bind, Option.bind_some,
      alone, foreign.skipGap]
    rfl
  simp only [fields?, first, Option.bind_eq_bind, Option.bind_some, foreign.field?_eq_none, Option.bind_none]

/-- Blanks may all stand inside an expression, or the first that may not is where a gap ends. -/
theorem gap_or_foreign {cs : List Char} (blank : ∀ c ∈ cs, isBlank c = true) : (∀ c ∈ cs, isGap c = true) ∨
    ∃ b rest, b ∈ cs ∧ Foreign b ∧ ∀ more, Cron.skipGap (cs ++ more) = b :: (rest ++ more) := by
  induction cs with
  | nil => exact .inl (by simp)
  | cons c cs ih =>
    obtain ⟨first, later⟩ := List.forall_mem_cons.mp blank
    cases admitted : isGap c with
    | false => exact .inr ⟨c, cs, by simp, ⟨first, admitted⟩, fun more => skipGap_cons admitted (cs ++ more)⟩
    | true =>
      rcases ih later with all | ⟨b, rest, present, foreign, behind⟩
      · exact .inl (List.forall_mem_cons.mpr ⟨admitted, all⟩)
      · refine .inr ⟨b, rest, by simp [present], foreign, fun more => ?_⟩
        rw [List.cons_append, Cron.skipGap, List.dropWhile_cons_of_pos admitted]
        exact behind more

end Foreign

section SixFields

variable {e gap after : String}

private theorem endsDigits_of_blank {cs : List Char} (present : cs ≠ []) (blank : ∀ c ∈ cs, isBlank c = true)
    (rest : List Char) : EndsDigits (cs ++ rest) := by
  obtain ⟨c, cs, rfl⟩ := List.exists_cons_of_ne_nil present
  exact Text.endsDigits_cons.mpr (not_digit_of_blank (blank c (by simp)))

private theorem toList_normalize_zero (fields : (words e.toList).length = 5) (present : gap ≠ "")
    (blank : Text.allBlank gap)
    (trailing : Text.allBlank after) :
    (normalize ("0" ++ gap ++ Text.trim e ++ after)).toList = '0' :: gap.toList ++ trimChars e.toList := by
  have whole : ("0" ++ gap ++ Text.trim e ++ after).toList =
      [] ++ ('0' :: gap.toList ++ trimChars e.toList) ++ after.toList := by
    simp [Text.trim]
  have kept : trimChars ("0" ++ gap ++ Text.trim e ++ after).toList = '0' :: gap.toList ++ trimChars e.toList := by
    rw [whole, Text.trimChars_surround (by simp) (Text.allBlank_iff.mp trailing),
      Text.trimChars_cons_append (by decide) gap.toList (trimChars_ne_nil fields)]
  have six : (words ("0" ++ gap ++ Text.trim e ++ after).toList).length = 6 := by
    have shown : gap.toList ≠ [] := mt String.toList_eq_nil_iff.mp present
    rw [← Text.words_trimChars, kept, words_zero_append shown (Text.allBlank_iff.mp blank), Text.words_trimChars,
      List.length_cons, fields]
  rw [toList_normalize, six, kept]
  rfl

private theorem schedule?_normalize_of_five (fields : (words e.toList).length = 5) :
    schedule? (normalize e) = fields? ('0' :: ' ' :: trimChars e.toList) := by
  have written : normalize e = String.ofList ('0' :: ' ' :: trimChars e.toList) := by
    apply String.toList_inj.mp
    rw [toList_normalize, secondsFor, if_pos fields, String.toList_ofList]
    rfl
  rw [written, schedule?_zero]

/-- With a zero in front five fields are parsed as they are without it, if only admitted blanks stand behind the zero;
otherwise they are refused. -/
theorem parse_zero_iff (fields : (words e.toList).length = 5) (present : gap ≠ "") (blank : Text.allBlank gap)
    (trailing : Text.allBlank after) {s : Schedule} :
    parse ("0" ++ gap ++ Text.trim e ++ after) = .ok s ↔ parse e = .ok s ∧ gap.toList.all isGap := by
  have blanks := Text.allBlank_iff.mp blank
  have ends : EndsDigits (gap.toList ++ trimChars e.toList) :=
    endsDigits_of_blank (mt String.toList_eq_nil_iff.mp present) blanks _
  have written : schedule? (normalize ("0" ++ gap ++ Text.trim e ++ after)) =
      fields? ('0' :: (gap.toList ++ trimChars e.toList)) := by
    rw [← schedule?_zero]
    apply congrArg schedule?
    apply String.toList_inj.mp
    rw [toList_normalize_zero fields present blank trailing, String.toList_ofList]
    rfl
  rw [parse_eq_ok_iff, parse_eq_ok_iff, written, schedule?_normalize_of_five fields, List.all_eq_true]
  rcases gap_or_foreign blanks with admitted | ⟨b, rest, inside, foreign, behind⟩
  · have skipped : skipGap (gap.toList ++ trimChars e.toList) = skipGap (' ' :: trimChars e.toList) :=
      List.dropWhile_append_of_pos admitted
    rw [fields?_zero ends (Text.endsDigits_cons.mpr (by decide)) skipped]
    exact (and_iff_left admitted).symm
  · have refused : ¬ ∀ c ∈ gap.toList, isGap c = true := by
      intro admitted
      exact Bool.false_ne_true (foreign.2.symm.trans (admitted b inside))
    rw [foreign.fields?_eq_none ends (behind _)]
    simp [refused]

end SixFields

/-- An expression and its normal form are the same expression: normalizing it again changes nothing, its fields are the
same but for a zero in front of five, and both are parsed alike. So five fields are parsed like these fields with a zero
and a gap in front; a blank that is not admitted inside an expression does not make a gap. -/
theorem normal_form (e : String) :
    normalize (normalize e) = normalize e ∧
      words (normalize e).toList = (if (words e.toList).length = 5 then [['0']] else []) ++ words e.toList ∧
      (∀ s, parse e = .ok s ↔ parse (normalize e) = .ok s) ∧
      ((words e.toList).length = 5 → (∀ s, parse e = .ok s ↔ parse ("0 " ++ Text.trim e) = .ok s) ∧
        ∀ gap after : String, gap ≠ "" → Text.allBlank gap → Text.allBlank after → ∀ s,
          (parse ("0" ++ gap ++ Text.trim e ++ after) = .ok s ↔
            parse e = .ok s ∧ gap.toList.all isGap)) := by
  refine ⟨normalize_normalize e, words_normalize e, fun s => ?_, fun fields => ⟨fun s => ?_, ?_⟩⟩
  · rw [parse_eq_ok_iff, parse_eq_ok_iff, normalize_normalize]
  · have spaced : normalize e = "0 " ++ Text.trim e := by
      rw [normalize, Text.trim, String.toList_ofList, Text.words_trimChars, if_pos fields]
    have normal : normalize ("0 " ++ Text.trim e) = normalize e := by
      rw [← spaced, normalize_normalize]
    rw [parse_eq_ok_iff, parse_eq_ok_iff, normal]
  · intro gap after present blank trailing s
    exact parse_zero_iff fields present blank trailing

/-- Every quarter of an hour: the no-break space is trimmed off the five fields, a tab is a gap behind the zero, and a
no-break space is none. -/
theorem quarter_hours_behind_zero :
    let e := "\u00a0*/15 * * * *"
    (words e.toList).length = 5 ∧
      (∃ s, s.minutes = [0, 15, 30, 45] ∧ parse e = .ok s ∧ parse ("0" ++ "\t" ++ Text.trim e ++ " ") = .ok s) ∧
      ∀ s, parse ("0" ++ "\u00a0" ++ Text.trim e ++ "") ≠ .ok s := by
  intro e
  have fields : (words e.toList).length = 5 := by decide +kernel
  obtain ⟨-, behind⟩ := (normal_form e).2.2.2 fields
  have tab := behind "\t" " " (by decide) (by decide) (by decide)
  have space := behind "\u00a0" "" (by decide) (by decide) (by decide)
  have accepted : parse e = .ok ⟨[0], [0, 15, 30, 45], Field.all .hour, Field.all .dayOfMonth, Field.all .month,
      Field.all .dayOfWeek, Field.all .year⟩ := by
    rw [parse_eq_ok_iff]
    decide +kernel
  refine ⟨fields, ⟨_, rfl, accepted, (tab _).mpr ⟨accepted, by decide⟩⟩, fun s read => ?_⟩
  exact absurd ((space s).mp read).2 (by decide)

end AnomalyWatch.Cron
