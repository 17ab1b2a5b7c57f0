import AnomalyWatch.Proofs.Text.Blank

/-!
Comma-separated lists of names.

One list of names has many texts: blanks may stand around every name, and entries that are nothing but blanks may stand
anywhere. Every text is a list of some names, and of no others.
-/

set_option autoImplicit false
set_option relaxedAutoImplicit false

namespace AnomalyWatch.Text

structure Listable (name : String) : Prop where
  nonempty : name ≠ ""
  trimmed : trim name = name
  unbroken : ',' ∉ name.toList

/-- The entries are the names in their order, each with blanks around it, and blank entries anywhere between them. -/
inductive Enters : List String → List String → Prop
  | nil : Enters [] []
  | blank {entry : String} {entries names : List String} (blank : allBlank entry) (rest : Enters entries names) :
      Enters (entry :: entries) names
  | name {before name after : String} {entries names : List String} (leading : allBlank before)
      (trailing : allBlank after) (rest : Enters entries names) :
      Enters ((before ++ name ++ after) :: entries) (name :: names)

/-- The text is a way to write the names as a comma-separated list. -/
def Lists (text : String) (names : List String) : Prop :=
  ∃ entries, Enters entries names ∧ text = ",".intercalate entries

section Commas

variable {cs : List Char} {entries : List (List Char)}

private theorem intercalate_pieces (cs : List Char) : [','].intercalate (pieces (· == ',') cs) = cs := by
  induction cs with
  | nil => rfl
  | cons c cs ih =>
    obtain ⟨p, ps, rest⟩ := List.exists_cons_of_ne_nil (pieces_ne_nil (· == ',') cs)
    rw [rest] at ih
    simp only [pieces, rest]
    split
    next comma =>
      obtain rfl : c = ',' := by simpa using comma
      rw [List.intercalate_cons_cons, ih]
      rfl
    next =>
      have grown : [','].intercalate ((c :: p) :: ps) = c :: [','].intercalate (p :: ps) := by
        cases ps with
        | nil => rfl
        | cons q ps => simp only [List.intercalate_cons_cons, List.cons_append]
      rw [grown, ih]

private theorem pieces_intercalate (present : entries ≠ []) (whole : ∀ e ∈ entries, ∀ c ∈ e, (c == ',') = false) :
    pieces (· == ',') ([','].intercalate entries) = entries := by
  induction entries with
  | nil => exact absurd rfl present
  | cons e entries ih =>
    obtain ⟨first, later⟩ := List.forall_mem_cons.mp whole
    cases entries with
    | nil =>
      rw [List.intercalate_singleton]
      exact pieces_of_whole first
    | cons f entries =>
      rw [List.intercalate_cons_cons, List.append_assoc, List.singleton_append, pieces_append_cons (by rfl),
        pieces_of_whole first, ih (List.cons_ne_nil f entries) later]
      rfl

private theorem not_comma_of_mem_pieces : ∀ p ∈ pieces (· == ',') cs, ∀ c ∈ p, (c == ',') = false :=
  forall_mem_pieces.mpr fun c _ => (Bool.eq_false_or_eq_true (c == ',')).imp id id

end Commas

section Names

variable {text name : String} {names entries : List String} {raw : List (List Char)}

def namesIn (raw : List (List Char)) : List String :=
  ((raw.map trimChars).filter (· ≠ [])).map String.ofList

private theorem commaList_eq_namesIn (text : String) : commaList text = namesIn (pieces (· == ',') text.toList) := rfl

private theorem namesIn_cons_of_blank {e : List Char} (blank : trimChars e = []) :
    namesIn (e :: raw) = namesIn raw := by
  simp [namesIn, blank]

private theorem namesIn_cons_of_shown {e : List Char} (shown : trimChars e ≠ []) :
    namesIn (e :: raw) = String.ofList (trimChars e) :: namesIn raw := by
  simp [namesIn, shown]

theorem Listable.trimChars (listable : Listable name) : trimChars name.toList = name.toList := by
  have trimmed := congrArg String.toList listable.trimmed
  rwa [trim, String.toList_ofList] at trimmed

theorem Listable.ne_nil (listable : Listable name) : name.toList ≠ [] :=
  mt String.toList_eq_nil_iff.mp listable.nonempty

private theorem listable_trimmed {e : List Char} (whole : ∀ c ∈ e, (c == ',') = false) (shown : trimChars e ≠ []) :
    Listable (String.ofList (Text.trimChars e)) where
  nonempty := by
    intro empty
    exact shown (String.ofList_eq_empty_iff.mp empty)
  trimmed := by
    rw [trim, String.toList_ofList, trimChars_trimChars]
  unbroken := by
    rw [String.toList_ofList]
    intro comma
    obtain ⟨before, after, -, -, split⟩ := exists_blanks_around e
    have inside : ',' ∈ e := by
      rw [split]
      simp [comma]
    exact absurd (whole ',' inside) (by decide)

private theorem listable_of_mem_namesIn (whole : ∀ e ∈ raw, ∀ c ∈ e, (c == ',') = false) :
    ∀ name ∈ namesIn raw, Listable name := by
  intro name present
  obtain ⟨kept, chosen, rfl⟩ := List.mem_map.mp present
  obtain ⟨trimmed, shown⟩ := List.mem_filter.mp chosen
  obtain ⟨e, mem, rfl⟩ := List.mem_map.mp trimmed
  exact listable_trimmed (whole e mem) (by simpa using shown)

private theorem enters_namesIn (raw : List (List Char)) : Enters (raw.map String.ofList) (namesIn raw) := by
  induction raw with
  | nil => exact .nil
  | cons e raw ih =>
    by_cases blank : trimChars e = []
    · rw [namesIn_cons_of_blank blank, List.map_cons]
      refine .blank (allBlank_iff.mpr ?_) ih
      rw [String.toList_ofList]
      exact trimChars_eq_nil_iff.mp blank
    · rw [namesIn_cons_of_shown blank, List.map_cons]
      obtain ⟨before, after, leading, trailing, split⟩ := exists_blanks_around e
      have entry : String.ofList e = String.ofList before ++ String.ofList (trimChars e) ++ String.ofList after := by
        rw [← String.ofList_append, ← String.ofList_append, ← split]
      rw [entry]
      refine .name (allBlank_iff.mpr ?_) (allBlank_iff.mpr ?_) ih
      · rwa [String.toList_ofList]
      · rwa [String.toList_ofList]

private theorem Enters.namesIn (enters : Enters entries names) (listable : ∀ name ∈ names, Listable name) :
    namesIn (entries.map String.toList) = names := by
  induction enters with
  | nil => rfl
  | blank blank _ ih =>
    rw [List.map_cons, namesIn_cons_of_blank (trimChars_eq_nil_iff.mpr (allBlank_iff.mp blank)), ih listable]
  | @name before name after _ _ leading trailing _ ih =>
    obtain ⟨first, later⟩ := List.forall_mem_cons.mp listable
    have left : trimChars (before ++ name ++ after).toList = name.toList := by
      rw [String.toList_append, String.toList_append,
        trimChars_surround (allBlank_iff.mp leading) (allBlank_iff.mp trailing), first.trimChars]
    have shown : trimChars (before ++ name ++ after).toList ≠ [] := by
      rw [left]
      exact first.ne_nil
    rw [List.map_cons, namesIn_cons_of_shown shown, left, String.ofList_toList, ih later]

private theorem not_comma_of_allBlank {s : String} (blank : allBlank s) : ∀ c ∈ s.toList, (c == ',') = false := by
  intro c present
  have space : isBlank c = true := allBlank_iff.mp blank c present
  rw [beq_eq_false_iff_ne]
  rintro rfl
  exact absurd space (by decide)

private theorem Listable.not_comma (listable : Listable name) : ∀ c ∈ name.toList, (c == ',') = false := by
  intro c present
  rw [beq_eq_false_iff_ne]
  rintro rfl
  exact listable.unbroken present

private theorem Enters.not_comma (enters : Enters entries names) (listable : ∀ name ∈ names, Listable name) :
    ∀ e ∈ entries.map String.toList, ∀ c ∈ e, (c == ',') = false := by
  induction enters with
  | nil => simp
  | blank blank _ ih =>
    rw [List.map_cons, List.forall_mem_cons]
    exact ⟨not_comma_of_allBlank blank, ih listable⟩
  | @name before name after _ _ leading trailing _ ih =>
    obtain ⟨first, later⟩ := List.forall_mem_cons.mp listable
    rw [List.map_cons, List.forall_mem_cons]
    refine ⟨fun c present => ?_, ih later⟩
    rw [String.toList_append, String.toList_append, List.mem_append, List.mem_append] at present
    rcases present with (leads | inside) | trails
    · exact not_comma_of_allBlank leading c leads
    · exact first.not_comma c inside
    · exact not_comma_of_allBlank trailing c trails

/-- Whatever way a list of names is written, these names are read; and what is read from a text is what it lists. -/
theorem commaList_eq_iff : commaList text = names ↔ (∀ name ∈ names, Listable name) ∧ Lists text names := by
  constructor
  · rintro rfl
    refine ⟨listable_of_mem_namesIn not_comma_of_mem_pieces, _, enters_namesIn _, ?_⟩
    apply String.toList_inj.mp
    rw [String.toList_intercalate, List.map_map]
    have same : (String.toList ∘ String.ofList : List Char → List Char) = id := funext fun _ => String.toList_ofList
    rw [same, List.map_id]
    exact (intercalate_pieces text.toList).symm
  · rintro ⟨listable, entries, enters, rfl⟩
    rw [commaList_eq_namesIn, String.toList_intercalate]
    by_cases empty : entries = []
    · subst empty
      cases enters
      rfl
    · have present : entries.map String.toList ≠ [] := mt List.map_eq_nil_iff.mp empty
      have cut : pieces (· == ',') (",".toList.intercalate (entries.map String.toList)) = entries.map String.toList :=
        pieces_intercalate present (enters.not_comma listable)
      rw [cut]
      exact enters.namesIn listable

example : commaList "country, browser,,device" = ["country", "browser", "device"] := by decide

theorem commaList_eq_nil_iff : commaList text = [] ↔ ∀ c ∈ text.toList, isBlank c = true ∨ c = ',' := by
  have nothing : commaList text = [] ↔ ∀ p ∈ pieces (· == ',') text.toList, ∀ c ∈ p, isBlank c = true := by
    simp [commaList_eq_namesIn, Text.namesIn, trimChars_eq_nil_iff]
  rw [nothing, forall_mem_pieces]
  simp only [beq_iff_eq, or_comm]

end Names

end AnomalyWatch.Text
