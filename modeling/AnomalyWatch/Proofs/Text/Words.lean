import AnomalyWatch.Proofs.Text.Blank

/-!
The words of a text, when texts are put together: a blank between two texts keeps their words apart, and blanks at the
ends are no words. And what trimming leaves of a text is trimmed behind other text as well.
-/

set_option autoImplicit false
set_option relaxedAutoImplicit false

namespace AnomalyWatch.Text

section Words

variable {c : Char} {before after : List Char}

@[simp]
theorem words_nil : words [] = [] := rfl

theorem words_append_cons (blank : isBlank c = true) (cs rest : List Char) :
    words (cs ++ c :: rest) = words cs ++ words rest := by
  rw [words, pieces_append_cons blank, List.filter_append]
  rfl

private theorem words_cons_of_blank (blank : isBlank c = true) (cs : List Char) : words (c :: cs) = words cs := by
  have split := words_append_cons blank [] cs
  rwa [List.nil_append, words_nil, List.nil_append] at split

theorem words_blank_append (blank : ∀ c ∈ before, isBlank c = true) (cs : List Char) :
    words (before ++ cs) = words cs := by
  induction before with
  | nil => rfl
  | cons c before ih =>
    obtain ⟨first, later⟩ := List.forall_mem_cons.mp blank
    rw [List.cons_append, words_cons_of_blank first, ih later]

private theorem words_append_blank (blank : ∀ c ∈ after, isBlank c = true) (cs : List Char) :
    words (cs ++ after) = words cs := by
  cases after with
  | nil => rw [List.append_nil]
  | cons c after =>
    obtain ⟨first, later⟩ := List.forall_mem_cons.mp blank
    have nothing : words after = [] := by
      have alone := words_blank_append later []
      rwa [List.append_nil] at alone
    rw [words_append_cons first, nothing, List.append_nil]

theorem words_trimChars (cs : List Char) : words (trimChars cs) = words cs := by
  obtain ⟨before, after, leading, trailing, split⟩ := exists_blanks_around cs
  calc words (trimChars cs)
    _ = words (before ++ trimChars cs) := (words_blank_append leading _).symm
    _ = words (before ++ trimChars cs ++ after) := (words_append_blank trailing _).symm
    _ = words cs := by rw [← split]

end Words

section Trimmed

variable {c : Char} {cs : List Char}

private theorem trimEnd_trimEnd (cs : List Char) : trimEnd (trimEnd cs) = trimEnd cs := by
  rw [trimEnd, trimEnd, List.reverse_reverse, ← trimStart, ← trimStart, trimStart_trimStart]

private theorem trimEnd_append (shown : trimEnd cs ≠ []) (before : List Char) :
    trimEnd (before ++ cs) = before ++ trimEnd cs := by
  have left : (cs.reverse.dropWhile isBlank).isEmpty = false := by
    rw [List.isEmpty_eq_false_iff]
    exact mt List.reverse_eq_nil_iff.mpr shown
  rw [trimEnd, List.reverse_append, List.dropWhile_append, left, if_neg Bool.false_ne_true, List.reverse_append,
    List.reverse_reverse, trimEnd]

theorem trimChars_cons_append (start : isBlank c = false) (between : List Char) (shown : trimChars cs ≠ []) :
    trimChars (c :: between ++ trimChars cs) = c :: between ++ trimChars cs := by
  have front : trimStart (c :: between ++ trimChars cs) = c :: between ++ trimChars cs :=
    trimStart_cons_of_not_blank _ start
  have back : trimEnd (trimChars cs) = trimChars cs := trimEnd_trimEnd (trimStart cs)
  rw [trimChars, front, trimEnd_append (by rwa [back]), back]

end Trimmed

end AnomalyWatch.Text
