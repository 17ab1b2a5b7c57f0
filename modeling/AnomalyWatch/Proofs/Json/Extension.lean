import AnomalyWatch.Proofs.Json.TextArray

/-!
What more characters behind a document change.

A reader looks at most one character beyond what it takes, and that only for a number. A value that is not a number, and
every value with something behind it, is therefore read alike whatever follows. So a document with something visible
behind its value is no document, while blanks in front change nothing.
-/

set_option autoImplicit false
set_option relaxedAutoImplicit false

namespace AnomalyWatch.Json

open AnomalyWatch.Text (isDigit EndsDigits takeWhile_digits dropWhile_digits)
open AnomalyWatch.Json.Parser

variable {cs rest : List Char} {c : Char}

section Gaps

private theorem isBlank_of_skipBlanks (shown : skipBlanks cs = c :: rest) : isBlank c = false := by
  have head := List.head?_dropWhile_not isBlank cs
  rw [skipBlanks] at shown
  rwa [shown] at head

theorem skipBlanks_append_of_shown (shown : skipBlanks cs = c :: rest) (more : List Char) :
    skipBlanks (cs ++ more) = c :: (rest ++ more) := by
  obtain ⟨gap, blank, split⟩ := exists_blank cs
  rw [split, shown, List.append_assoc, skipBlanks_append blank]
  exact skipBlanks_cons _ (isBlank_of_skipBlanks shown)

private theorem not_blank_append (gap : List Char) {more : List Char} (visible : ¬ Blank more) :
    ¬ Blank (gap ++ more) :=
  fun blank => visible fun c present => blank c (List.mem_append_right gap present)

end Gaps

section Numbers

variable {ds : List Char}

private theorem digits_append (stops : cs.dropWhile isDigit = c :: rest) (more : List Char) :
    (cs ++ more).takeWhile isDigit = cs.takeWhile isDigit ∧
      (cs ++ more).dropWhile isDigit = c :: (rest ++ more) := by
  have split : cs ++ more = cs.takeWhile isDigit ++ c :: (rest ++ more) := by
    conv => lhs; rw [← List.takeWhile_append_dropWhile (p := isDigit) (l := cs), stops]
    simp
  have digits : ∀ d ∈ cs.takeWhile isDigit, isDigit d := fun d present => List.mem_takeWhile_imp present
  have ends : EndsDigits (c :: (rest ++ more)) := by
    have head := List.head?_dropWhile_not isDigit cs
    rw [stops] at head
    exact Text.endsDigits_cons.mpr head
  rw [split]
  exact ⟨takeWhile_digits digits ends, dropWhile_digits digits ends⟩

private theorem wholePart?_append_of_some (read : wholePart? cs = some (ds, c :: rest)) (more : List Char) :
    wholePart? (cs ++ more) = some (ds, c :: (rest ++ more)) := by
  simp only [wholePart?] at read
  have stops : cs.dropWhile isDigit = c :: rest := by
    split at read
    · cases read
    · cases read
    · exact (Prod.mk.inj (Option.some.inj read)).2
  obtain ⟨same, left⟩ := digits_append stops more
  simp only [wholePart?, same, left]
  split at read
  · cases read
  · cases read
  next unpadded => exact congrArg (fun ds => some (ds, c :: (rest ++ more))) (Prod.mk.inj (Option.some.inj read)).1

private theorem someDigits?_append_of_some (read : someDigits? cs = some (ds, c :: rest)) (more : List Char) :
    someDigits? (cs ++ more) = some (ds, c :: (rest ++ more)) := by
  simp only [someDigits?] at read
  split at read
  next => cases read
  next some =>
    obtain ⟨rfl, stops⟩ := Prod.mk.inj (Option.some.inj read)
    obtain ⟨same, left⟩ := digits_append stops more
    simp only [someDigits?, same, left, if_neg some]

private theorem fractionPart?_append_of_some (read : fractionPart? cs = some (ds, c :: rest)) (more : List Char) :
    fractionPart? (cs ++ more) = some (ds, c :: (rest ++ more)) := by
  unfold fractionPart? at read
  split at read
  next cs =>
    obtain ⟨⟨digits, after⟩, digitsRead, same⟩ := Option.map_eq_some_iff.mp read
    obtain ⟨rfl, rfl⟩ := Prod.mk.inj same
    rw [List.cons_append, fractionPart?, someDigits?_append_of_some digitsRead more]
    rfl
  next unmarked =>
    obtain ⟨rfl, rfl⟩ := Prod.mk.inj (Option.some.inj read)
    rw [List.cons_append, fractionPart?]
    rintro ds same
    obtain ⟨rfl, rfl⟩ := List.cons.inj same
    exact unmarked rest rfl

private theorem exponentPart?_append_of_some (read : exponentPart? cs = some (ds, c :: rest)) (more : List Char) :
    exponentPart? (cs ++ more) = some (ds, c :: (rest ++ more)) := by
  unfold exponentPart? at read
  split at read
  next e cs =>
    split at read
    next marked =>
      cases cs with
      | nil => cases read
      | cons s after =>
        dsimp only at read
        split at read
        next signed =>
          obtain ⟨⟨digits, after'⟩, digitsRead, same⟩ := Option.map_eq_some_iff.mp read
          obtain ⟨rfl, rfl⟩ := Prod.mk.inj same
          simp only [List.cons_append, exponentPart?, marked, signed, if_true,
            someDigits?_append_of_some digitsRead more, Option.map_some]
        next unsigned =>
          obtain ⟨⟨digits, after'⟩, digitsRead, same⟩ := Option.map_eq_some_iff.mp read
          obtain ⟨rfl, rfl⟩ := Prod.mk.inj same
          have later := someDigits?_append_of_some digitsRead more
          rw [List.cons_append] at later
          simp only [List.cons_append, exponentPart?, marked, unsigned, if_true, if_false, later, Option.map_some,
            Bool.false_eq_true]
    next unmarked =>
      obtain ⟨rfl, rfl, rfl⟩ : [] = ds ∧ e = c ∧ cs = rest := by simpa using read
      simp only [List.cons_append, exponentPart?, unmarked, if_false, Bool.false_eq_true]
  next => cases read

private theorem magnitude?_append_of_some (read : Parser.magnitude? cs = some (ds, c :: rest)) (more : List Char) :
    Parser.magnitude? (cs ++ more) = some (ds, c :: (rest ++ more)) := by
  simp only [Parser.magnitude?, Option.bind_eq_bind, Option.bind_eq_some_iff, Prod.exists, Option.pure_def,
    Option.some.injEq, Prod.mk.injEq] at read
  obtain ⟨whole, afterWhole, wholeRead, fraction, afterFraction, fractionRead, exponent, left, exponentRead, rfl, rfl⟩ :=
    read
  obtain ⟨d, afterFraction, rfl⟩ : ∃ d ds, afterFraction = d :: ds := by
    refine List.exists_cons_of_ne_nil ?_
    rintro rfl
    cases exponentRead
  obtain ⟨e, afterWhole, rfl⟩ : ∃ d ds, afterWhole = d :: ds := by
    refine List.exists_cons_of_ne_nil ?_
    rintro rfl
    cases fractionRead
  simp only [Parser.magnitude?, wholePart?_append_of_some wholeRead more, Option.bind_eq_bind, Option.bind_some]
  rw [← List.cons_append, fractionPart?_append_of_some fractionRead more]
  simp only [Option.bind_some]
  rw [← List.cons_append, exponentPart?_append_of_some exponentRead more]
  rfl

private theorem literal?_append_of_some (read : literal? cs = some (ds, c :: rest)) (more : List Char) :
    literal? (cs ++ more) = some (ds, c :: (rest ++ more)) := by
  unfold literal? at read
  split at read
  next cs =>
    obtain ⟨⟨digits, after⟩, magnitude, same⟩ := Option.map_eq_some_iff.mp read
    obtain ⟨rfl, rfl⟩ := Prod.mk.inj same
    rw [List.cons_append, literal?, magnitude?_append_of_some magnitude more]
    rfl
  next unsigned =>
    rw [literal?, magnitude?_append_of_some read more]
    intro after same
    cases cs with
    | nil => cases read
    | cons d cs =>
      obtain ⟨rfl, -⟩ := List.cons.inj same
      exact unsigned cs rfl

end Numbers

section Values

private theorem pieces_append_of_some {ps : List Piece} (read : pieces cs = some (ps, rest)) (more : List Char) :
    pieces (cs ++ more) = some (ps, rest ++ more) := by
  induction ps generalizing cs with
  | nil =>
    obtain rfl := pieces_eq_nil_iff.mp read
    rfl
  | cons p ps ih =>
    obtain ⟨written, after, rfl, piece, later⟩ := exists_of_pieces_cons read
    rw [List.append_assoc, piece.pieces_append, ih later]
    rfl

private theorem textBody?_append_of_some {content : Option String} (read : textBody? cs = some (content, rest))
    (more : List Char) : textBody? (cs ++ more) = some (content, rest ++ more) := by
  obtain ⟨⟨ps, after⟩, pieced, same⟩ := Option.map_eq_some_iff.mp read
  obtain ⟨rfl, rfl⟩ := Prod.mk.inj same
  rw [textBody?, pieces_append_of_some pieced more]
  rfl

private theorem afterWord?_append_of_some {word : List Char} (read : afterWord? word cs = some rest)
    (more : List Char) :
    afterWord? word (cs ++ more) = some (rest ++ more) := by
  unfold afterWord? at read
  split at read
  next begins =>
    obtain rfl := Option.some.inj read
    obtain ⟨after, rfl⟩ := List.isPrefixOf_iff_prefix.mp begins
    have still : word.isPrefixOf (word ++ after ++ more) = true :=
      List.isPrefixOf_iff_prefix.mpr ⟨after ++ more, (List.append_assoc ..).symm⟩
    rw [afterWord?, if_pos still]
    simp
  next => cases read

/-- Nothing that follows the value can be part of it: only a number at the end of a text might go on. -/
def Ended (v : Json) (rest : List Char) : Prop :=
  rest = [] → ∀ literal, v ≠ .number literal

private theorem ended_of_shown (v : Json) (shown : skipBlanks cs = c :: rest) : Ended v cs := by
  rintro rfl
  cases shown

/-- Whatever is read with the steps is read alike with more steps and with more text behind it. -/
structure Extends (fuel : Nat) : Prop where
  value : ∀ {cs v rest fuel'} (more : List Char), value? fuel cs = some (v, rest) → fuel ≤ fuel' → Ended v rest →
    value? fuel' (cs ++ more) = some (v, rest ++ more)
  items : ∀ {cs vs rest fuel'} (more : List Char), Parser.items? fuel cs = some (vs, rest) → fuel ≤ fuel' →
    Parser.items? fuel' (cs ++ more) = some (vs, rest ++ more)
  members : ∀ {cs ms rest fuel'} (more : List Char), members? fuel cs = some (ms, rest) → fuel ≤ fuel' →
    members? fuel' (cs ++ more) = some (ms, rest ++ more)

variable {fuel fuel' : Nat}

private theorem extends_zero : Extends 0 where
  value _ read := by cases read
  items _ read := by cases read
  members _ read := by cases read

private theorem exists_step (more : fuel + 1 ≤ fuel') : ∃ less, fuel' = less + 1 ∧ fuel ≤ less :=
  ⟨fuel' - 1, by omega, by omega⟩

private theorem items?_nil (fuel : Nat) : Parser.items? fuel [] = none := by
  cases fuel with
  | zero => rfl
  | succ fuel => cases fuel <;> rfl

private theorem members?_nil (fuel : Nat) : members? fuel [] = none := by
  cases fuel <;> rfl

private theorem value?_nil (fuel : Nat) : value? fuel [] = none := by
  cases fuel <;> rfl

private theorem exists_shown {α : Type} {read : List Char → Option α} {a : α} (nothing : read [] = none)
    (found : read (skipBlanks cs) = some a) : ∃ c rest, skipBlanks cs = c :: rest := by
  refine List.exists_cons_of_ne_nil fun empty => ?_
  rw [empty, nothing] at found
  cases found

private theorem Extends.items_behind (step : Extends fuel) {vs : List Json} (more : List Char)
    (read : Parser.items? fuel (skipBlanks cs) = some (vs, rest)) (enough : fuel ≤ fuel') :
    Parser.items? fuel' (skipBlanks (cs ++ more)) = some (vs, rest ++ more) := by
  obtain ⟨c, after, shown⟩ := exists_shown (items?_nil fuel) read
  have later := step.items more read enough
  rwa [shown, List.cons_append, ← skipBlanks_append_of_shown shown more] at later

private theorem Extends.members_behind (step : Extends fuel) {ms : List (Option String × Json)} (more : List Char)
    (read : members? fuel (skipBlanks cs) = some (ms, rest)) (enough : fuel ≤ fuel') :
    members? fuel' (skipBlanks (cs ++ more)) = some (ms, rest ++ more) := by
  obtain ⟨c, after, shown⟩ := exists_shown (members?_nil fuel) read
  have later := step.members more read enough
  rwa [shown, List.cons_append, ← skipBlanks_append_of_shown shown more] at later

private theorem Extends.value_behind (step : Extends fuel) {v : Json} (more : List Char)
    (read : value? fuel (skipBlanks cs) = some (v, rest)) (enough : fuel ≤ fuel') (ended : Ended v rest) :
    value? fuel' (skipBlanks (cs ++ more)) = some (v, rest ++ more) := by
  obtain ⟨c, after, shown⟩ := exists_shown (value?_nil fuel) read
  have later := step.value more read enough ended
  rwa [shown, List.cons_append, ← skipBlanks_append_of_shown shown more] at later

private theorem Extends.value_array (step : Extends fuel) {v : Json} (more : List Char)
    (read : value? (fuel + 1) ('[' :: cs) = some (v, rest)) (enough : fuel ≤ fuel') :
    value? (fuel' + 1) ('[' :: (cs ++ more)) = some (v, rest ++ more) := by
  rw [value?] at read ⊢
  split at read
  next closed =>
    obtain ⟨rfl, rfl⟩ := Prod.mk.inj (Option.some.inj read)
    rw [skipBlanks_append_of_shown closed more]
    rfl
  next unclosed =>
    obtain ⟨⟨items, after⟩, inside, same⟩ := Option.map_eq_some_iff.mp read
    obtain ⟨rfl, rfl⟩ := Prod.mk.inj same
    obtain ⟨c, behind, shown⟩ := exists_shown (items?_nil fuel) inside
    have later := step.items_behind more inside enough
    rw [skipBlanks_append_of_shown shown more] at later ⊢
    split
    next closed =>
      obtain ⟨rfl, -⟩ := List.cons.inj closed
      exact absurd shown (unclosed behind)
    next => rw [later, Option.map_some]

private theorem Extends.value_object (step : Extends fuel) {v : Json} (more : List Char)
    (read : value? (fuel + 1) ('\x7b' :: cs) = some (v, rest)) (enough : fuel ≤ fuel') :
    value? (fuel' + 1) ('\x7b' :: (cs ++ more)) = some (v, rest ++ more) := by
  rw [value?] at read ⊢
  split at read
  next closed =>
    obtain ⟨rfl, rfl⟩ := Prod.mk.inj (Option.some.inj read)
    rw [skipBlanks_append_of_shown closed more]
    rfl
  next unclosed =>
    obtain ⟨⟨members, after⟩, inside, same⟩ := Option.map_eq_some_iff.mp read
    obtain ⟨rfl, rfl⟩ := Prod.mk.inj same
    obtain ⟨c, behind, shown⟩ := exists_shown (members?_nil fuel) inside
    have later := step.members_behind more inside enough
    rw [skipBlanks_append_of_shown shown more] at later ⊢
    split
    next closed =>
      obtain ⟨rfl, -⟩ := List.cons.inj closed
      exact absurd shown (unclosed behind)
    next => rw [later, Option.map_some]

private theorem Extends.value_succ (step : Extends fuel) {v : Json} (more : List Char)
    (read : value? (fuel + 1) cs = some (v, rest)) (enough : fuel + 1 ≤ fuel') (ended : Ended v rest) :
    value? fuel' (cs ++ more) = some (v, rest ++ more) := by
  obtain ⟨fuel', rfl, left⟩ := exists_step enough
  have word {w behind : List Char} {named : Json}
      (found : (afterWord? w behind).map (fun rest => (named, rest)) = some (v, rest)) :
      (afterWord? w (behind ++ more)).map (fun rest => (named, rest)) = some (v, rest ++ more) := by
    obtain ⟨after, begun, same⟩ := Option.map_eq_some_iff.mp found
    obtain ⟨rfl, rfl⟩ := Prod.mk.inj same
    rw [afterWord?_append_of_some begun more, Option.map_some]
  -- The cases are the characters that a value may begin with, and a number last.
  unfold value? at read
  split at read
  next cs =>
    obtain ⟨⟨content, after⟩, body, same⟩ := Option.map_eq_some_iff.mp read
    obtain ⟨rfl, rfl⟩ := Prod.mk.inj same
    rw [List.cons_append, value?, textBody?_append_of_some body more]
    rfl
  next cs =>
    refine step.value_array more ?_ left
    rw [value?]
    exact read
  next cs =>
    refine step.value_object more ?_ left
    rw [value?]
    exact read
  next cs =>
    rw [List.cons_append, value?]
    exact word read
  next cs =>
    rw [List.cons_append, value?]
    exact word read
  next cs =>
    rw [List.cons_append, value?]
    exact word read
  next quote bracket brace null yes no =>
    obtain ⟨⟨digits, after⟩, number, same⟩ := Option.map_eq_some_iff.mp read
    obtain ⟨rfl, rfl⟩ := Prod.mk.inj same
    obtain ⟨d, after, rfl⟩ : ∃ d ds, after = d :: ds :=
      List.exists_cons_of_ne_nil fun last => ended last digits rfl
    obtain ⟨c, cs, rfl⟩ : ∃ c ds, cs = c :: ds := by
      refine List.exists_cons_of_ne_nil ?_
      rintro rfl
      cases number
    have other {e : Char} (unmatched : ∀ ds, c :: cs = e :: ds → False) :
        ∀ ds, c :: cs ++ more = e :: ds → False := by
      intro ds same
      exact unmatched cs (congrArg (· :: cs) (List.cons.inj same).1)
    rw [value?, literal?_append_of_some number more]
    · rfl
    · exact other quote
    · exact other bracket
    · exact other brace
    · exact other null
    · exact other yes
    · exact other no

private theorem Extends.items_succ (step : Extends fuel) {vs : List Json} (more : List Char)
    (read : Parser.items? (fuel + 1) cs = some (vs, rest)) (enough : fuel + 1 ≤ fuel') :
    Parser.items? fuel' (cs ++ more) = some (vs, rest ++ more) := by
  obtain ⟨fuel', rfl, left⟩ := exists_step enough
  simp only [Parser.items?, Option.bind_eq_bind, Option.bind_eq_some_iff, Prod.exists] at read
  obtain ⟨v, after, first, read⟩ := read
  split at read
  next closed =>
    obtain ⟨rfl, rfl⟩ := Prod.mk.inj (Option.some.inj read)
    have item := step.value more first left (ended_of_shown v closed)
    simp only [Parser.items?, item, Option.bind_eq_bind, Option.bind_some, skipBlanks_append_of_shown closed more]
    rfl
  next separated =>
    simp only [Option.bind_eq_some_iff, Prod.exists, Option.pure_def, Option.some.injEq, Prod.mk.injEq] at read
    obtain ⟨vs, _, later, rfl, rfl⟩ := read
    have item := step.value more first left (ended_of_shown v separated)
    simp only [Parser.items?, item, Option.bind_eq_bind, Option.bind_some, skipBlanks_append_of_shown separated more,
      step.items_behind more later left]
    rfl
  next => cases read

private theorem Extends.members_succ (step : Extends fuel) {ms : List (Option String × Json)} (more : List Char)
    (read : members? (fuel + 1) cs = some (ms, rest)) (enough : fuel + 1 ≤ fuel') :
    members? fuel' (cs ++ more) = some (ms, rest ++ more) := by
  obtain ⟨fuel', rfl, left⟩ := exists_step enough
  unfold members? at read
  split at read
  next cs =>
    simp only [Option.bind_eq_bind, Option.bind_eq_some_iff, Prod.exists] at read
    obtain ⟨key, afterKey, body, read⟩ := read
    split at read
    next colon =>
      simp only [Option.bind_eq_some_iff, Prod.exists] at read
      obtain ⟨v, after, first, read⟩ := read
      split at read
      next closed =>
        obtain ⟨rfl, rfl⟩ := Prod.mk.inj (Option.some.inj read)
        have member := step.value_behind more first left (ended_of_shown v closed)
        simp only [List.cons_append, members?, textBody?_append_of_some body more, Option.bind_eq_bind,
          Option.bind_some, skipBlanks_append_of_shown colon more, member, skipBlanks_append_of_shown closed more]
        rfl
      next separated =>
        simp only [Option.bind_eq_some_iff, Prod.exists, Option.pure_def, Option.some.injEq, Prod.mk.injEq] at read
        obtain ⟨ms, _, later, rfl, rfl⟩ := read
        have member := step.value_behind more first left (ended_of_shown v separated)
        simp only [List.cons_append, members?, textBody?_append_of_some body more, Option.bind_eq_bind,
          Option.bind_some, skipBlanks_append_of_shown colon more, member,
          skipBlanks_append_of_shown separated more, step.members_behind more later left]
        rfl
      next => cases read
    next => cases read
  next => cases read

private theorem extends_all (fuel : Nat) : Extends fuel := by
  induction fuel with
  | zero => exact extends_zero
  | succ fuel step => exact ⟨step.value_succ, step.items_succ, step.members_succ⟩

end Values

section Documents

theorem parse?_blank_append {gap : List Char} (blank : Blank gap) (cs : List Char) :
    parse? (String.ofList (gap ++ cs)) = parse? (String.ofList cs) := by
  simp only [parse?, String.toList_ofList, skipBlanks_append blank]

/-- Nothing visible may follow the value of a document, unless that is a number. -/
theorem parse?_append_eq_none {j : Json} {more : List Char} (parsed : parse? (String.ofList cs) = some j)
    (ended : ∀ literal, j ≠ .number literal) (visible : ¬ Blank more) :
    parse? (String.ofList (cs ++ more)) = none := by
  simp only [parse?, String.toList_ofList, Option.bind_eq_bind, Option.bind_eq_some_iff, Prod.exists] at parsed
  obtain ⟨v, rest, value, last⟩ := parsed
  split at last
  next =>
    obtain rfl := Option.some.inj last
    obtain ⟨c, after, shown⟩ := exists_shown (value?_nil _) value
    have wider : (skipBlanks cs).length + 1 ≤ (skipBlanks (cs ++ more)).length + 1 := by
      simp only [shown, skipBlanks_append_of_shown shown more, List.length_cons, List.length_append]
      omega
    have still := (extends_all _).value_behind more value wider fun _ => ended
    have left : ¬ (skipBlanks (rest ++ more)).isEmpty = true := fun empty =>
      not_blank_append rest visible (skipBlanks_eq_nil_iff.mp (List.isEmpty_iff.mp empty))
    simp only [parse?, String.toList_ofList, Option.bind_eq_bind, still, Option.bind_some, if_neg left]
  next => cases last

theorem parse?_eq_none_of_stray (shown : skipBlanks cs = c :: rest) (stray : Text.isBlank c) :
    parse? (String.ofList cs) = none := by
  have other (d : Char) (visible : Text.isBlank d = false) : ∀ ds, c :: rest = d :: ds → False := by
    intro ds same
    obtain ⟨rfl, -⟩ := List.cons.inj same
    rw [visible] at stray
    cases stray
  have digitless : isDigit c = false := by
    by_contra digit
    simp only [isDigit, Bool.not_eq_false, Bool.and_eq_true, decide_eq_true_eq] at digit
    simp only [Text.isBlank, Bool.or_eq_true, Bool.and_eq_true, decide_eq_true_eq, beq_iff_eq] at stray
    omega
  have unread : literal? (c :: rest) = none := by
    rw [literal?]
    · simp [Parser.magnitude?, wholePart?, digitless]
    · exact other '-' (by decide)
  have unread : value? ((c :: rest).length + 1) (c :: rest) = none := by
    rw [value?, unread]
    · rfl
    · exact other '"' (by decide)
    · exact other '[' (by decide)
    · exact other '\x7b' (by decide)
    · exact other 'n' (by decide)
    · exact other 't' (by decide)
    · exact other 'f' (by decide)
  simp only [parse?, String.toList_ofList, shown, unread, Option.bind_eq_bind, Option.bind_none]

end Documents

end AnomalyWatch.Json
