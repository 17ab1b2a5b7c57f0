import AnomalyWatch.Proofs.Json.Literal

/-!
A written value reads back as the value it was written for, whatever follows it.

The reader's recursion is bounded by a number of steps; the length of the written form is enough of them,
since every step that is spent leaves a character behind.
-/

set_option autoImplicit false
set_option relaxedAutoImplicit false

namespace AnomalyWatch.Json

open AnomalyWatch.Text (isDigit digitValue?)
open AnomalyWatch.Json.Parser

section Texts

def withPiece (p : Piece) (r : List Piece × List Char) : List Piece × List Char :=
  (p :: r.1, r.2)

theorem pieces_short {e c : Char} (named : shortEscape? e = some c) (cs : List Char) :
    pieces ('\\' :: e :: cs) = (pieces cs).map (withPiece (.character c)) := by
  have other : e ≠ 'u' := by
    rintro rfl
    cases named
  rw [pieces]
  · simp only [named, Option.bind_eq_bind, Option.bind_some]
    cases pieces cs <;> rfl
  · rintro a b c d cs rfl -
    exact other rfl

theorem digitValue?_hexDigit (n : Nat) : digitValue? 16 (hexDigit n) = some (n % 16) := by
  have all : ∀ k < 16, digitValue? 16 (Nat.digitChar k) = some k := by decide
  exact all (n % 16) (Nat.mod_lt n (by decide))

theorem pieces_unit {a b c d : Char} {n : Nat} (digits : hexUnit? a b c d = some n) (cs : List Char) :
    pieces ('\\' :: 'u' :: a :: b :: c :: d :: cs) = (pieces cs).map (withPiece (.unit n)) := by
  simp only [pieces, digits, Option.bind_eq_bind, Option.bind_some]
  cases pieces cs <;> rfl

private theorem pieces_code {n : Nat} (small : n < 32) (cs : List Char) :
    pieces ('\\' :: 'u' :: '0' :: '0' :: hexDigit (n / 16) :: hexDigit n :: cs) =
      (pieces cs).map (withPiece (.unit n)) := by
  have zero : digitValue? 16 '0' = some 0 := by decide
  have value : ((0 * 16 + 0) * 16 + n / 16 % 16) * 16 + n % 16 = n := by omega
  have code : hexUnit? '0' '0' (hexDigit (n / 16)) (hexDigit n) = some n := by
    simp only [hexUnit?, zero, digitValue?_hexDigit, Option.bind_eq_bind, Option.bind_some, Option.pure_def,
      value]
  exact pieces_unit code cs

theorem pieces_plain {c : Char} (visible : 32 ≤ c.toNat) (quote : c ≠ '"') (backslash : c ≠ '\\')
    (cs : List Char) : pieces (c :: cs) = (pieces cs).map (withPiece (.character c)) := by
  have passed : ¬ (c.toNat < 32 || c == '\\') = true := by
    simp [backslash]
    omega
  rw [pieces, if_neg passed]
  · simp only [Option.bind_eq_bind]
    cases pieces cs <;> rfl
  · exact quote
  · rintro a b c d cs rfl -
    exact backslash rfl
  · rintro e cs rfl -
    exact backslash rfl

private theorem pieces_escaped (c : Char) :
    ∃ p, (p = .character c ∨ p = .unit c.toNat ∧ c.toNat < 32) ∧
      ∀ cs, pieces (escaped c ++ cs) = (pieces cs).map (withPiece p) := by
  unfold escaped
  split
  next => exact ⟨_, .inl rfl, pieces_short rfl⟩
  next => exact ⟨_, .inl rfl, pieces_short rfl⟩
  next => exact ⟨_, .inl rfl, pieces_short rfl⟩
  next => exact ⟨_, .inl rfl, pieces_short rfl⟩
  next => exact ⟨_, .inl rfl, pieces_short rfl⟩
  next quote backslash _ _ _ =>
    split
    next code =>
      obtain rfl : c = '\x08' := Char.toNat_inj.mp code
      exact ⟨_, .inl rfl, pieces_short rfl⟩
    next =>
      split
      next code =>
        obtain rfl : c = '\x0c' := Char.toNat_inj.mp code
        exact ⟨_, .inl rfl, pieces_short rfl⟩
      next =>
        split
        next control => exact ⟨_, .inr ⟨rfl, control⟩, pieces_code control⟩
        next visible => exact ⟨_, .inl rfl, pieces_plain (Nat.not_lt.mp visible) quote backslash⟩

private theorem pieces_flatMap_escaped (cs rest : List Char) :
    ∃ ps, pieces (cs.flatMap escaped ++ '"' :: rest) = some (ps, rest) ∧ join ps = some cs := by
  induction cs with
  | nil => exact ⟨[], rfl, rfl⟩
  | cons c cs ih =>
    obtain ⟨ps, read, joined⟩ := ih
    obtain ⟨p, named, first⟩ := pieces_escaped c
    refine ⟨p :: ps, ?_, ?_⟩
    · rw [List.flatMap_cons, List.append_assoc, first, read]
      rfl
    · rcases named with rfl | ⟨rfl, control⟩
      · simp [join, joined]
      · have single : (decide (c.toNat < 0xD800) || decide (0xDFFF < c.toNat)) = true := by
          simp
          omega
        unfold join
        simp only [if_pos single, joined, Option.map_some, Char.ofNat_toNat]

private theorem textBody?_quote (s : String) (rest : List Char) :
    textBody? (s.toList.flatMap escaped ++ '"' :: rest) = some (some s, rest) := by
  obtain ⟨ps, read, joined⟩ := pieces_flatMap_escaped s.toList rest
  simp [textBody?, read, joined]

end Texts

/-- Values that are written as documents hold them: numbers as the grammar has them, texts of characters. -/
inductive Wellformed : Json → Prop
  | null : Wellformed .null
  | bool (b : Bool) : Wellformed (.bool b)
  | number {l : Literal} (valid : l.Wellformed) : Wellformed (.number l.chars)
  | text (s : String) : Wellformed (.ofString s)
  | array {items : List Json} (valid : ∀ v ∈ items, Wellformed v) : Wellformed (.array items)
  | object {members : List (String × Json)} (valid : ∀ m ∈ members, Wellformed m.2) :
    Wellformed (.object members)

section Values

theorem skipBlanks_cons {c : Char} (cs : List Char) (visible : isBlank c = false) :
    skipBlanks (c :: cs) = c :: cs := by
  simp [skipBlanks, visible]

private theorem ne_of_start {c d : Char} (start : c = '-' ∨ isDigit c) (signless : d ≠ '-')
    (digitless : isDigit d = false) : c ≠ d := by
  rintro rfl
  rcases start with rfl | digit
  · exact signless rfl
  · rw [digitless] at digit
    cases digit

theorem Wellformed.chars_eq_cons {j : Json} (valid : j.Wellformed) :
    ∃ c cs, j.chars = c :: cs ∧ isBlank c = false ∧ c ≠ ']' := by
  cases valid with
  | null => exact ⟨_, _, rfl, by decide, by decide⟩
  | bool b => cases b <;> exact ⟨_, _, rfl, by decide, by decide⟩
  | number valid =>
    obtain ⟨c, cs, first, start⟩ := Literal.chars_eq_cons valid
    have other (d : Char) (signless : d ≠ '-') (digitless : isDigit d = false) : c ≠ d :=
      ne_of_start start signless digitless
    refine ⟨c, cs, by rw [chars, first], ?_, other ']' (by decide) (by decide)⟩
    simp [isBlank, other ' ' (by decide) (by decide), other '\n' (by decide) (by decide),
      other '\t' (by decide) (by decide), other '\r' (by decide) (by decide)]
  | text s => exact ⟨_, _, rfl, by decide, by decide⟩
  | @array items _ => cases items <;> exact ⟨_, _, rfl, by decide, by decide⟩
  | @object members _ => cases members <;> exact ⟨_, _, rfl, by decide, by decide⟩

theorem Wellformed.skipBlanks_append {j : Json} (valid : j.Wellformed) (rest : List Char) :
    skipBlanks (j.chars ++ rest) = j.chars ++ rest := by
  obtain ⟨c, cs, first, visible, -⟩ := valid.chars_eq_cons
  rw [first]
  exact skipBlanks_cons _ visible

private theorem value?_number {c : Char} (fuel : Nat) (cs : List Char) (start : c = '-' ∨ isDigit c) :
    value? (fuel + 1) (c :: cs) = (literal? (c :: cs)).map fun r => (.number r.1, r.2) := by
  have other (d : Char) (signless : d ≠ '-') (digitless : isDigit d = false) (ds : List Char) :
      c :: cs = d :: ds → False :=
    fun equal => ne_of_start start signless digitless (List.cons.inj equal).1
  rw [value?]
  · exact other '"' (by decide) (by decide)
  · exact other '[' (by decide) (by decide)
  · exact other '\x7b' (by decide) (by decide)
  · exact other 'n' (by decide) (by decide)
  · exact other 't' (by decide) (by decide)
  · exact other 'f' (by decide) (by decide)

/-- The value reads back off the front of a text, given as many steps as it has characters. -/
def ReadsBack (j : Json) : Prop :=
  ∀ fuel rest, j.chars.length ≤ fuel → EndsNumber rest → value? fuel (j.chars ++ rest) = some (j, rest)

private theorem items?_last {v : Json} (reads : v.ReadsBack) {fuel : Nat} {rest after : List Char}
    (enough : v.chars.length ≤ fuel) (ends : EndsNumber rest) (closed : skipBlanks rest = ']' :: after) :
    Parser.items? (fuel + 1) (v.chars ++ rest) = some ([v], after) := by
  simp only [Parser.items?, reads fuel rest enough ends, Option.bind_eq_bind, Option.bind_some, closed]
  rfl

private theorem items?_more {v : Json} (reads : v.ReadsBack) {fuel : Nat} {rest after : List Char}
    (enough : v.chars.length ≤ fuel) (ends : EndsNumber rest) (separated : skipBlanks rest = ',' :: after) :
    Parser.items? (fuel + 1) (v.chars ++ rest) =
      (Parser.items? fuel (skipBlanks after)).map fun r => (v :: r.1, r.2) := by
  simp only [Parser.items?, reads fuel rest enough ends, Option.bind_eq_bind, Option.bind_some, separated]
  cases Parser.items? fuel (skipBlanks after) <;> rfl

private theorem endsNumber_itemChars (vs : List Json) (rest : List Char) :
    EndsNumber (itemChars vs ++ ']' :: rest) := by
  cases vs <;> simp [itemChars] <;> decide

private theorem items?_itemChars {v : Json} {vs : List Json} (valid : ∀ w ∈ v :: vs, Wellformed w)
    (reads : ∀ w ∈ v :: vs, ReadsBack w) (fuel : Nat) (rest : List Char)
    (enough : v.chars.length + (itemChars vs).length < fuel) :
    Parser.items? fuel (v.chars ++ (itemChars vs ++ ']' :: rest)) = some (v :: vs, rest) := by
  induction vs generalizing v fuel with
  | nil =>
    obtain ⟨fuel, rfl⟩ := Nat.exists_eq_add_of_lt enough
    exact items?_last (reads v (by simp)) (by omega) (endsNumber_itemChars [] rest)
      (skipBlanks_cons _ (by decide))
  | cons w ws ih =>
    cases fuel with
    | zero => omega
    | succ fuel =>
      have long : (itemChars (w :: ws)).length = w.chars.length + (itemChars ws).length + 1 := by
        simp [itemChars]
      have later := ih (v := w) (fun u present => valid u (.tail _ present))
        (fun u present => reads u (.tail _ present)) fuel (by omega)
      have separated : skipBlanks (itemChars (w :: ws) ++ ']' :: rest) =
          ',' :: (w.chars ++ (itemChars ws ++ ']' :: rest)) := by
        rw [itemChars, List.cons_append, List.cons_append, List.append_assoc]
        exact skipBlanks_cons _ (by decide)
      rw [items?_more (reads v (by simp)) (by omega) (endsNumber_itemChars (w :: ws) rest) separated]
      simp only [(valid w (by simp)).skipBlanks_append, later, Option.map_some]

section Member

variable {k : String} {v : Json} {fuel : Nat} {rest after : List Char}

private theorem members?_last (valid : v.Wellformed) (reads : v.ReadsBack) (enough : v.chars.length ≤ fuel)
    (ends : EndsNumber rest) (closed : skipBlanks rest = '\x7d' :: after) :
    members? (fuel + 1) (quote k ++ ':' :: (v.chars ++ rest)) = some ([(some k, v)], after) := by
  simp only [members?, quote, List.cons_append, List.append_assoc, List.nil_append, textBody?_quote,
    Option.bind_eq_bind, Option.bind_some, skipBlanks_cons _ (by decide : isBlank ':' = false),
    valid.skipBlanks_append, reads fuel rest enough ends, closed]
  rfl

private theorem members?_more (valid : v.Wellformed) (reads : v.ReadsBack) (enough : v.chars.length ≤ fuel)
    (ends : EndsNumber rest) (separated : skipBlanks rest = ',' :: after) :
    members? (fuel + 1) (quote k ++ ':' :: (v.chars ++ rest)) =
      (members? fuel (skipBlanks after)).map fun r => ((some k, v) :: r.1, r.2) := by
  simp only [members?, quote, List.cons_append, List.append_assoc, List.nil_append, textBody?_quote,
    Option.bind_eq_bind, Option.bind_some, skipBlanks_cons _ (by decide : isBlank ':' = false),
    valid.skipBlanks_append, reads fuel rest enough ends, separated]
  cases members? fuel (skipBlanks after) <;> rfl

end Member

private theorem endsNumber_memberChars (ms : List (String × Json)) (rest : List Char) :
    EndsNumber (memberChars ms ++ '\x7d' :: rest) := by
  cases ms <;> simp [memberChars] <;> decide

private theorem members?_memberChars {k : String} {v : Json} {ms : List (String × Json)}
    (valid : ∀ m ∈ (k, v) :: ms, Wellformed m.2) (reads : ∀ m ∈ (k, v) :: ms, ReadsBack m.2)
    (fuel : Nat) (rest : List Char) (enough : v.chars.length + (memberChars ms).length < fuel) :
    members? fuel (quote k ++ ':' :: (v.chars ++ (memberChars ms ++ '\x7d' :: rest))) =
      some (((k, v) :: ms).map fun m => (some m.1, m.2), rest) := by
  induction ms generalizing k v fuel with
  | nil =>
    obtain ⟨fuel, rfl⟩ := Nat.exists_eq_add_of_lt enough
    exact members?_last (valid (k, v) (by simp)) (reads (k, v) (by simp)) (by omega)
      (endsNumber_memberChars [] rest) (skipBlanks_cons _ (by decide))
  | cons m ms ih =>
    obtain ⟨l, w⟩ := m
    cases fuel with
    | zero => omega
    | succ fuel =>
      have long : (memberChars ((l, w) :: ms)).length =
          (quote l).length + w.chars.length + (memberChars ms).length + 2 := by
        simp [memberChars]
        omega
      have later := ih (k := l) (v := w) (fun n present => valid n (.tail _ present))
        (fun n present => reads n (.tail _ present)) fuel (by omega)
      have start (cs : List Char) : skipBlanks (quote l ++ cs) = quote l ++ cs :=
        skipBlanks_cons _ (by decide)
      have separated : skipBlanks (memberChars ((l, w) :: ms) ++ '\x7d' :: rest) =
          ',' :: (quote l ++ ':' :: (w.chars ++ (memberChars ms ++ '\x7d' :: rest))) := by
        simp only [memberChars, List.cons_append, List.append_assoc]
        exact skipBlanks_cons _ (by decide)
      rw [members?_more (valid (k, v) (by simp)) (reads (k, v) (by simp)) (by dsimp only; omega)
        (endsNumber_memberChars ((l, w) :: ms) rest) separated]
      simp only [start, later, Option.map_some, List.map_cons]

private theorem value?_array {c : Char} (fuel : Nat) (cs : List Char) (visible : isBlank c = false)
    (unclosed : c ≠ ']') :
    value? (fuel + 1) ('[' :: c :: cs) = (Parser.items? fuel (c :: cs)).map fun r => (.array r.1, r.2) := by
  rw [value?, skipBlanks_cons _ visible]
  split
  next closed => exact absurd (List.cons.inj closed).1 unclosed
  next => rfl

private theorem value?_object (fuel : Nat) (k : String) (cs : List Char) :
    value? (fuel + 1) ('\x7b' :: (quote k ++ cs)) =
      (members? fuel (quote k ++ cs)).map fun r => (ofMembers r.1, r.2) := by
  rw [quote, List.cons_append, List.cons_append, value?, skipBlanks_cons _ (by decide)]
  rfl

private theorem ofMembers_some (ms : List (String × Json)) :
    ofMembers (ms.map fun m => (some m.1, m.2)) = .object ms := by
  have kept : (ms.map fun m => ((some m.1, m.2) : Option String × Json)).mapM (fun m => m.1.map (·, m.2)) = some ms := by
    induction ms with
    | nil => rfl
    | cons m ms ih =>
      rw [List.map_cons, List.mapM_cons, ih]
      rfl
  rw [ofMembers, kept]

/-- There is always a step to spend, since no value is written with no character. -/
theorem Wellformed.readsBack_of_step {j : Json} (valid : j.Wellformed)
    (reads : ∀ fuel rest, j.chars.length ≤ fuel + 1 → EndsNumber rest →
      value? (fuel + 1) (j.chars ++ rest) = some (j, rest)) : j.ReadsBack := by
  intro fuel rest enough ends
  cases fuel with
  | zero =>
    obtain ⟨c, cs, first, -⟩ := valid.chars_eq_cons
    rw [first] at enough
    cases enough
  | succ fuel => exact reads fuel rest enough ends

private theorem Wellformed.readsBack {j : Json} (valid : j.Wellformed) : j.ReadsBack := by
  induction valid with
  | null => exact Wellformed.null.readsBack_of_step fun _ _ _ _ => rfl
  | bool b => exact (Wellformed.bool b).readsBack_of_step fun _ _ _ _ => by cases b <;> rfl
  | number valid =>
    refine (Wellformed.number valid).readsBack_of_step fun fuel rest _ ends => ?_
    obtain ⟨c, cs, first, start⟩ := Literal.chars_eq_cons valid
    have read := Literal.literal?_append valid ends
    rw [first, List.cons_append] at read
    rw [chars, first, List.cons_append, value?_number fuel _ start, read]
    rfl
  | text s =>
    refine (Wellformed.text s).readsBack_of_step fun fuel rest _ _ => ?_
    simp only [chars, ofString, Option.getD_some, quote, List.cons_append, List.append_assoc,
      List.nil_append, value?, textBody?_quote, Option.map_some]
  | @array items valid ih =>
    refine (Wellformed.array valid).readsBack_of_step fun fuel rest enough _ => ?_
    cases items with
    | nil => rfl
    | cons v vs =>
      have size : (chars (.array (v :: vs))).length = v.chars.length + (itemChars vs).length + 2 := by
        simp [chars]
        omega
      have read := items?_itemChars valid ih fuel rest (by omega)
      obtain ⟨c, cs, first, visible, unclosed⟩ := (valid v (by simp)).chars_eq_cons
      rw [first, List.cons_append] at read
      rw [chars, first]
      simp only [List.cons_append, List.append_assoc, List.nil_append,
        value?_array fuel _ visible unclosed, read, Option.map_some]
  | @object members valid ih =>
    refine (Wellformed.object valid).readsBack_of_step fun fuel rest enough _ => ?_
    cases members with
    | nil => rfl
    | cons m ms =>
      obtain ⟨k, v⟩ := m
      have size : (chars (.object ((k, v) :: ms))).length =
          (quote k).length + v.chars.length + (memberChars ms).length + 3 := by
        simp [chars]
        omega
      have read := members?_memberChars valid ih fuel rest (by omega)
      simp only [chars, List.cons_append, List.append_assoc, List.nil_append, value?_object, read,
        Option.map_some, ofMembers_some]

end Values

/-- Reading a document gives back the value it was written for. -/
theorem parse?_render {j : Json} (valid : j.Wellformed) : parse? j.render = some j := by
  obtain ⟨c, cs, first, visible, -⟩ := valid.chars_eq_cons
  have blankless : skipBlanks j.chars = j.chars := by simpa using valid.skipBlanks_append []
  have read := valid.readsBack (j.chars.length + 1) [] (by omega) endsNumber_nil
  rw [List.append_nil] at read
  simp only [parse?, render, String.toList_ofList, blankless, Option.bind_eq_bind, read, Option.bind_some]
  rfl

section Printable

private theorem printable_escaped (c : Char) : ∀ d ∈ escaped c, 32 ≤ d.toNat := by
  have code (n : Nat) : 32 ≤ (hexDigit n).toNat := by
    have all : ∀ k < 16, 32 ≤ (Nat.digitChar k).toNat := by decide
    exact all (n % 16) (Nat.mod_lt n (by decide))
  unfold escaped
  split
  next => simp
  next => simp
  next => simp
  next => simp
  next => simp
  next =>
    split
    next => simp
    next =>
      split
      next => simp
      next =>
        split
        next => simp [code]
        next visible => simpa using Nat.not_lt.mp visible

private theorem printable_quote (s : String) : ∀ c ∈ quote s, 32 ≤ c.toNat := by
  intro c present
  simp only [quote, List.cons_append, List.mem_cons, List.mem_append, List.mem_flatMap, List.not_mem_nil,
    or_false] at present
  rcases present with rfl | ⟨d, -, written⟩ | rfl
  · decide
  · exact printable_escaped d c written
  · decide

private theorem printable_itemChars {vs : List Json} (each : ∀ v ∈ vs, ∀ c ∈ v.chars, 32 ≤ c.toNat) :
    ∀ c ∈ itemChars vs, 32 ≤ c.toNat := by
  induction vs with
  | nil => simp [itemChars]
  | cons v vs ih =>
    simp only [itemChars, List.cons_append, List.forall_mem_cons, List.forall_mem_append] at each ⊢
    exact ⟨by decide, each.1, ih each.2⟩

private theorem printable_memberChars {ms : List (String × Json)}
    (each : ∀ m ∈ ms, ∀ c ∈ m.2.chars, 32 ≤ c.toNat) : ∀ c ∈ memberChars ms, 32 ≤ c.toNat := by
  induction ms with
  | nil => simp [memberChars]
  | cons m ms ih =>
    simp only [memberChars, List.cons_append, List.forall_mem_cons, List.forall_mem_append] at each ⊢
    exact ⟨by decide, ⟨printable_quote m.1, by decide, each.1⟩, ih each.2⟩

theorem Wellformed.printable {j : Json} (valid : j.Wellformed) : ∀ c ∈ j.chars, 32 ≤ c.toNat := by
  induction valid with
  | null => simp [chars]
  | bool b => cases b <;> simp [chars]
  | number valid => exact Literal.printable_chars valid
  | text s => exact printable_quote s
  | @array items _ ih =>
    cases items with
    | nil => simp [chars]
    | cons v vs =>
      have later := printable_itemChars fun w present => ih w (.tail _ present)
      simp only [chars, List.cons_append, List.forall_mem_cons, List.forall_mem_append]
      exact ⟨by decide, ⟨ih v (by simp), later⟩, by decide, by simp⟩
  | @object members _ ih =>
    cases members with
    | nil => simp [chars]
    | cons m ms =>
      have later := printable_memberChars fun n present => ih n (.tail _ present)
      simp only [chars, List.cons_append, List.forall_mem_cons, List.forall_mem_append]
      exact ⟨by decide, ⟨⟨printable_quote m.1, by decide, ih m (by simp)⟩, later⟩, by decide, by simp⟩

end Printable

end AnomalyWatch.Json
