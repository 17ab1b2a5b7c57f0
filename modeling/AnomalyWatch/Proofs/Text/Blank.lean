import AnomalyWatch.Text.Blank

/-!
Trimmed text: nothing is left of a text exactly if it is blank, and more blanks at its ends change nothing. And texts
cut into pieces: what is in them, and what comes of them when more text comes behind.
-/

set_option autoImplicit false
set_option relaxedAutoImplicit false

namespace AnomalyWatch.Text

private theorem trimStart_eq_nil_iff {cs : List Char} : trimStart cs = [] ↔ ∀ c ∈ cs, isBlank c = true := by
  induction cs with
  | nil => simp [trimStart]
  | cons c cs ih =>
    rw [trimStart] at ih
    rw [trimStart, List.dropWhile_cons, List.forall_mem_cons, ← ih]
    cases isBlank c <;> simp

private theorem trimEnd_eq_nil_iff {cs : List Char} : trimEnd cs = [] ↔ ∀ c ∈ cs, isBlank c = true := by
  rw [trimEnd, List.reverse_eq_nil_iff, ← trimStart, trimStart_eq_nil_iff]
  exact forall_congr' fun c => by rw [List.mem_reverse]

theorem trimStart_trimStart (cs : List Char) : trimStart (trimStart cs) = trimStart cs := by
  induction cs with
  | nil => rfl
  | cons c cs ih =>
    cases blank : isBlank c with
    | true => simpa only [trimStart, List.dropWhile_cons_of_pos blank] using ih
    | false => simp [trimStart, blank]

theorem trimStart_cons_of_not_blank {c : Char} (cs : List Char) (visible : isBlank c = false) :
    trimStart (c :: cs) = c :: cs := by
  simp [trimStart, visible]

theorem trimChars_eq_nil_iff {cs : List Char} : trimChars cs = [] ↔ ∀ c ∈ cs, isBlank c = true := by
  rw [trimChars, trimEnd_eq_nil_iff, ← trimStart_eq_nil_iff, trimStart_trimStart, trimStart_eq_nil_iff]

private theorem trimStart_append_of_blank {before : List Char} (blank : ∀ c ∈ before, isBlank c = true)
    (cs : List Char) :
    trimStart (before ++ cs) = trimStart cs :=
  List.dropWhile_append_of_pos blank

private theorem trimEnd_append_of_blank {after : List Char} (blank : ∀ c ∈ after, isBlank c = true) (cs : List Char) :
    trimEnd (cs ++ after) = trimEnd cs := by
  have reversed : ∀ c ∈ after.reverse, isBlank c = true := fun c present => blank c (List.mem_reverse.mp present)
  rw [trimEnd, trimEnd, List.reverse_append, List.dropWhile_append_of_pos reversed]

theorem trimChars_surround {before after : List Char} (leading : ∀ c ∈ before, isBlank c = true)
    (trailing : ∀ c ∈ after, isBlank c = true) (cs : List Char) :
    trimChars (before ++ cs ++ after) = trimChars cs := by
  rw [List.append_assoc, trimChars, trimStart_append_of_blank leading]
  by_cases blank : ∀ c ∈ cs, isBlank c = true
  · rw [trimChars_eq_nil_iff.mpr blank, trimStart_append_of_blank blank, trimStart_eq_nil_iff.mpr trailing]
    rfl
  · have rest : (trimStart cs).isEmpty = false := by
      rw [List.isEmpty_eq_false_iff]
      exact mt trimStart_eq_nil_iff.mp blank
    rw [trimStart, List.dropWhile_append, ← trimStart, rest, if_neg Bool.false_ne_true,
      trimEnd_append_of_blank trailing, trimChars]

private theorem isBlank_of_mem_takeWhile {cs : List Char} : ∀ c ∈ cs.takeWhile isBlank, isBlank c = true :=
  List.all_eq_true.mp List.all_takeWhile

theorem exists_blanks_around (cs : List Char) : ∃ before after, (∀ c ∈ before, isBlank c = true) ∧
    (∀ c ∈ after, isBlank c = true) ∧ cs = before ++ trimChars cs ++ after := by
  have front : cs.takeWhile isBlank ++ trimStart cs = cs := List.takeWhile_append_dropWhile
  have back : ((trimStart cs).reverse.takeWhile isBlank ++ (trimStart cs).reverse.dropWhile isBlank).reverse =
      trimStart cs := by
    rw [List.takeWhile_append_dropWhile, List.reverse_reverse]
  rw [List.reverse_append] at back
  refine ⟨cs.takeWhile isBlank, ((trimStart cs).reverse.takeWhile isBlank).reverse, ?_, ?_, ?_⟩
  · exact isBlank_of_mem_takeWhile
  · intro c present
    exact isBlank_of_mem_takeWhile c (List.mem_reverse.mp present)
  · rw [trimChars, trimEnd, List.append_assoc, back, front]

theorem trimChars_trimChars (cs : List Char) : trimChars (trimChars cs) = trimChars cs := by
  obtain ⟨before, after, leading, trailing, split⟩ := exists_blanks_around cs
  have same := trimChars_surround leading trailing (trimChars cs)
  rw [← split] at same
  exact same.symm

def Visible (cs : List Char) : Prop :=
  ∀ c ∈ cs, isBlank c = false

@[simp]
theorem visible_nil : Visible [] := by
  simp [Visible]

@[simp]
theorem visible_cons {c : Char} {cs : List Char} : Visible (c :: cs) ↔ isBlank c = false ∧ Visible cs :=
  List.forall_mem_cons

@[simp]
theorem visible_append {cs ds : List Char} : Visible (cs ++ ds) ↔ Visible cs ∧ Visible ds :=
  List.forall_mem_append

theorem Visible.trimStart {cs : List Char} (visible : Visible cs) : trimStart cs = cs := by
  cases cs with
  | nil => rfl
  | cons c cs => exact trimStart_cons_of_not_blank cs (visible c (by simp))

theorem Visible.trimChars {cs : List Char} (visible : Visible cs) : trimChars cs = cs := by
  have reversed : Visible cs.reverse := fun c present => visible c (List.mem_reverse.mp present)
  rw [Text.trimChars, visible.trimStart, trimEnd, ← Text.trimStart, reversed.trimStart, List.reverse_reverse]

theorem allBlank_iff {s : String} : allBlank s ↔ ∀ c ∈ s.toList, isBlank c = true := by
  rw [allBlank, List.all_eq_true]

theorem isEmpty_trim (s : String) : (trim s).isEmpty = allBlank s := by
  rw [Bool.eq_iff_iff, allBlank_iff, ← trimChars_eq_nil_iff, trim, String.isEmpty_iff, ← String.toList_eq_nil_iff,
    String.toList_ofList]

section Pieces

variable {cut : Char → Bool}

theorem length_pieces (cs : List Char) : (pieces cut cs).length = cs.countP cut + 1 := by
  induction cs with
  | nil => rfl
  | cons c cs ih =>
    obtain ⟨p, ps, rest⟩ := List.exists_cons_of_ne_nil (pieces_ne_nil cut cs)
    rw [rest, List.length_cons] at ih
    rw [pieces, rest]
    split
    next cuts => rw [List.countP_cons_of_pos cuts, List.length_cons, List.length_cons, ih]
    next kept => rw [List.countP_cons_of_neg kept, List.length_cons, ih]

theorem forall_mem_pieces {P : Char → Prop} {cs : List Char} :
    (∀ p ∈ pieces cut cs, ∀ c ∈ p, P c) ↔ ∀ c ∈ cs, cut c = true ∨ P c := by
  induction cs with
  | nil => simp [pieces]
  | cons c cs ih =>
    obtain ⟨p, ps, rest⟩ := List.exists_cons_of_ne_nil (pieces_ne_nil cut cs)
    rw [rest, List.forall_mem_cons] at ih
    rw [pieces, rest, List.forall_mem_cons, ← ih]
    cases cuts : cut c with
    | true => simp
    | false => simp [and_assoc]

theorem pieces_of_whole {cs : List Char} (whole : ∀ c ∈ cs, cut c = false) : pieces cut cs = [cs] := by
  induction cs with
  | nil => rfl
  | cons c cs ih =>
    obtain ⟨kept, later⟩ := List.forall_mem_cons.mp whole
    simp [pieces, kept, ih later]

theorem pieces_append_cons {c : Char} (cuts : cut c) (cs rest : List Char) :
    pieces cut (cs ++ c :: rest) = pieces cut cs ++ pieces cut rest := by
  induction cs with
  | nil => simp [pieces, cuts]
  | cons d cs ih =>
    obtain ⟨p, ps, first⟩ := List.exists_cons_of_ne_nil (pieces_ne_nil cut cs)
    rw [first] at ih
    simp only [List.cons_append, pieces, ih, first]
    split <;> rfl

theorem pieces_append_whole {more : List Char} (whole : ∀ c ∈ more, cut c = false) (cs : List Char) :
    pieces cut (cs ++ more) = (pieces cut cs).dropLast ++ [(pieces cut cs).getLastD [] ++ more] := by
  induction cs with
  | nil => exact pieces_of_whole whole
  | cons d cs ih =>
    obtain ⟨p, ps, first⟩ := List.exists_cons_of_ne_nil (pieces_ne_nil cut cs)
    rw [first] at ih
    simp only [List.cons_append, pieces, ih, first]
    cases ps with
    | nil => split <;> rfl
    | cons q ps => split <;> rfl

end Pieces

end AnomalyWatch.Text
