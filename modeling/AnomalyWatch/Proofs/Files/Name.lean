import AnomalyWatch.Files.Name
import AnomalyWatch.Proofs.Text.ByteOrder
import Mathlib.Data.List.TakeWhile

/-!
Which names are hidden, which have a YAML ending, and the order of names.

A dot in front hides a name only if the name is a text. An ending counts by its bytes, whatever is in front of it.
-/

set_option autoImplicit false
set_option relaxedAutoImplicit false

namespace AnomalyWatch

namespace Text

-- The other bytes of a character are never that of a dot, and neither is the first of several.
private theorem utf8EncodeChar_eq_dot_cons {c : Char} {rest more : List UInt8}
    (first : String.utf8EncodeChar c ++ more = FileName.dot :: rest) : c = '.' := by
  have bound : c.val.toNat < 1114112 := by
    rcases c.valid with low | ⟨_, high⟩
    · exact Nat.lt_trans low (by decide)
    · exact high
  refine Char.ext (UInt32.toNat_inj.mp ?_)
  simp only [String.utf8EncodeChar] at first
  generalize c.val.toNat = v at first bound
  -- A character has one to four bytes, and more than one only beyond ASCII.
  repeat' split at first
  all_goals
    have byte := congrArg UInt8.toNat (List.cons.inj first).1
    simp only [FileName.dot, UInt8.toNat_ofNat', UInt8.reduceToNat] at byte
    show v = 46
    omega

end Text

namespace FileName

def Dotted (name : FileName) : Prop :=
  ∃ rest, name.octets = dot :: rest

def IsText (name : FileName) : Prop :=
  ∃ text, name = ofText text

/-- A text that starts with a dot. -/
def Hidden (name : FileName) : Prop :=
  name.Dotted ∧ name.IsText

def IsYaml (name : FileName) : Prop :=
  ∃ stem, stem ≠ [] ∧
    (name.octets = stem ++ Text.octets ".yml" ∨ name.octets = stem ++ Text.octets ".yaml")

variable {name : FileName}

theorem isHidden_iff : name.isHidden = true ↔ name.Hidden := by
  unfold isHidden
  split
  next text read =>
    have bytes : name.octets = Text.octets text := Text.ofOctets?_eq_some_iff.mp read
    have isText : name.IsText := ⟨text, congrArg FileName.mk bytes⟩
    rw [Hidden, and_iff_left isText, Dotted, bytes, Text.octets_eq_flatMap]
    cases text.toList with
    | nil => simp
    | cons c cs =>
      rw [List.head?_cons, List.flatMap_cons, beq_iff_eq, Option.some.injEq]
      constructor
      · rintro rfl
        exact ⟨_, rfl⟩
      · rintro ⟨rest, first⟩
        exact Text.utf8EncodeChar_eq_dot_cons first
  next unread =>
    refine iff_of_false Bool.false_ne_true ?_
    rintro ⟨-, text, rfl⟩
    cases unread.symm.trans (Text.ofOctets?_eq_some_iff.mpr rfl)

theorem isHidden_eq_false_iff : name.isHidden = false ↔ ¬ name.Hidden := by
  rw [← isHidden_iff, Bool.not_eq_true]

private theorem exists_front_of_dot {bytes : List UInt8} (dotted : dot ∈ bytes) :
    ∃ front, bytes = front ++ dot :: (bytes.reverse.takeWhile (· ≠ dot)).reverse := by
  cases before : bytes.reverse.dropWhile (· ≠ dot) with
  | nil =>
    have dotless : ∀ d ∈ bytes.reverse, decide (d ≠ dot) = true := List.dropWhile_eq_nil_iff.mp before
    exact absurd (dotless dot (List.mem_reverse.mpr dotted)) (by decide)
  | cons d front =>
    have stop := List.head?_dropWhile_not (· ≠ dot) bytes.reverse
    rw [before] at stop
    obtain rfl : d = dot := by simpa using stop
    have parts := congrArg List.reverse (List.takeWhile_append_dropWhile (p := (· ≠ dot)) (l := bytes.reverse))
    rw [before, List.reverse_append, List.reverse_cons, List.append_assoc, List.reverse_reverse] at parts
    exact ⟨front.reverse, parts.symm⟩

private theorem behind_last_dot {front last : List UInt8} (dotless : dot ∉ last) :
    ((front ++ dot :: last).reverse.takeWhile (· ≠ dot)).reverse = last := by
  have kept : ∀ d ∈ last.reverse, decide (d ≠ dot) = true := by
    intro d present
    refine decide_eq_true ?_
    rintro rfl
    exact dotless (List.mem_reverse.mp present)
  rw [List.reverse_append, List.reverse_cons, List.append_assoc, List.takeWhile_append_of_pos kept]
  simp

private theorem ending?_eq_some_iff {ending : String} (dotless : dot ∉ Text.octets ending) :
    name.ending? = some ending ↔ ∃ stem, stem ≠ [] ∧ name.octets = stem ++ dot :: Text.octets ending := by
  unfold ending?
  constructor
  · intro found
    split at found
    next => cases found
    next b rest shown =>
      split at found
      next dotted =>
        obtain ⟨front, split⟩ := exists_front_of_dot (List.contains_iff_mem.mp dotted)
        rw [Text.ofOctets?_eq_some_iff.mp found] at split
        exact ⟨b :: front, List.cons_ne_nil _ _, by rw [shown, split, List.cons_append]⟩
      next => cases found
  · rintro ⟨stem, some, bytes⟩
    obtain ⟨b, more, rfl⟩ := List.exists_cons_of_ne_nil some
    rw [bytes, List.cons_append]
    simp only [behind_last_dot dotless]
    rw [if_pos (by simp), Text.ofOctets?_eq_some_iff]

theorem isYaml_iff_ending? : name.IsYaml ↔ name.ending? = some "yml" ∨ name.ending? = some "yaml" := by
  have short : Text.octets ".yml" = dot :: Text.octets "yml" := by decide +kernel
  have long : Text.octets ".yaml" = dot :: Text.octets "yaml" := by decide +kernel
  rw [ending?_eq_some_iff (by decide +kernel), ending?_eq_some_iff (by decide +kernel), ← exists_or]
  simp only [IsYaml, short, long, and_or_left]

instance : Std.IsLinearOrder FileName where
  le_refl a := Std.le_refl a.octets
  le_trans _ _ _ := Std.le_trans (α := List UInt8)
  le_antisymm _ _ before after := congrArg FileName.mk (Std.le_antisymm (α := List UInt8) before after)
  le_total a b := Std.le_total (a := a.octets) (b := b.octets)

instance : Std.LawfulOrderLT FileName where
  lt_iff a b := Std.LawfulOrderLT.lt_iff a.octets b.octets

end FileName

end AnomalyWatch
