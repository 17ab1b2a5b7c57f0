import AnomalyWatch.Proofs.Document.AnomalyRecord

/-!
Which documents are read as arrays of texts.

The grammar is given as relations between what is written and what it stands for, without the reader: a character
stands for itself, or an escape names it, by one unit of UTF-16 or by two. The reader accepts exactly the documents of
the grammar, and finds in each the texts that it stands for.
-/

set_option autoImplicit false
set_option relaxedAutoImplicit false

namespace AnomalyWatch.Json

open AnomalyWatch.Json.Parser

section Texts

inductive WritesPiece : List Char → Piece → Prop
  | plain {c : Char} (visible : 32 ≤ c.toNat) (quote : c ≠ '"') (backslash : c ≠ '\\') :
      WritesPiece [c] (.character c)
  | short {e c : Char} (named : shortEscape? e = some c) : WritesPiece ['\\', e] (.character c)
  | code {a b c d : Char} {n : Nat} (digits : hexUnit? a b c d = some n) :
      WritesPiece ['\\', 'u', a, b, c, d] (.unit n)

/-- How a character of a text may be written: as a character, or by its unit or its pair of units. -/
inductive WritesCharacter : List Char → Char → Prop
  | character {written : List Char} {c : Char} (piece : WritesPiece written (.character c)) :
      WritesCharacter written c
  | unit {written : List Char} {n : Nat} (piece : WritesPiece written (.unit n))
      (whole : n < 0xD800 ∨ 0xDFFF < n) : WritesCharacter written (Char.ofNat n)
  | pair {first second : List Char} {n m : Nat} (high : WritesPiece first (.unit n))
      (low : WritesPiece second (.unit m)) (highest : 0xD800 ≤ n ∧ n ≤ 0xDBFF) (lowest : 0xDC00 ≤ m ∧ m ≤ 0xDFFF) :
      WritesCharacter (first ++ second) (Char.ofNat (0x10000 + (n - 0xD800) * 0x400 + (m - 0xDC00)))

inductive WritesCharacters : List Char → List Char → Prop
  | nil : WritesCharacters [] []
  | cons {first rest : List Char} {c : Char} {cs : List Char} (head : WritesCharacter first c)
      (tail : WritesCharacters rest cs) : WritesCharacters (first ++ rest) (c :: cs)

inductive WritesText : List Char → String → Prop
  | quoted {body : List Char} {s : String} (characters : WritesCharacters body s.toList) :
      WritesText ('"' :: (body ++ ['"'])) s

variable {cs rest written : List Char} {p : Piece} {ps : List Piece} {s : String}

theorem WritesPiece.pieces_append (piece : WritesPiece written p) (cs : List Char) :
    pieces (written ++ cs) = (pieces cs).map (withPiece p) := by
  cases piece with
  | plain visible quote backslash => exact pieces_plain visible quote backslash cs
  | short named => exact pieces_short named cs
  | code digits => exact pieces_unit digits cs

theorem pieces_eq_nil_iff : pieces cs = some ([], rest) ↔ cs = '"' :: rest := by
  constructor
  · intro read
    unfold pieces at read
    split at read
    next => cases read
    next =>
      cases read
      rfl
    next => simp [Option.bind_eq_some_iff] at read
    next => simp [Option.bind_eq_some_iff] at read
    next =>
      split at read
      · cases read
      · simp [Option.bind_eq_some_iff] at read
  · rintro rfl
    rfl

theorem exists_of_pieces_cons (read : pieces cs = some (p :: ps, rest)) :
    ∃ written after, cs = written ++ after ∧ WritesPiece written p ∧ pieces after = some (ps, rest) := by
  unfold pieces at read
  split at read
  next => cases read
  next => cases read
  next a b c d cs =>
    simp only [Option.bind_eq_bind, Option.bind_eq_some_iff, Option.pure_def, Option.some.injEq, Prod.mk.injEq,
      Prod.exists] at read
    obtain ⟨n, digits, ps', rest', later, same, rfl⟩ := read
    obtain ⟨rfl, rfl⟩ := List.cons.inj same
    exact ⟨_, cs, rfl, .code digits, later⟩
  next e cs _ =>
    simp only [Option.bind_eq_bind, Option.bind_eq_some_iff, Option.pure_def, Option.some.injEq, Prod.mk.injEq,
      Prod.exists] at read
    obtain ⟨c, named, ps', rest', later, same, rfl⟩ := read
    obtain ⟨rfl, rfl⟩ := List.cons.inj same
    exact ⟨_, cs, rfl, .short named, later⟩
  next c cs quote _ _ =>
    split at read
    · cases read
    next passed =>
      simp only [Option.bind_eq_bind, Option.bind_eq_some_iff, Option.pure_def, Option.some.injEq, Prod.mk.injEq,
        Prod.exists] at read
      obtain ⟨ps', rest', later, same, rfl⟩ := read
      obtain ⟨rfl, rfl⟩ := List.cons.inj same
      simp only [Bool.or_eq_true, decide_eq_true_eq, beq_iff_eq, not_or] at passed
      exact ⟨[c], cs, rfl, .plain (Nat.not_lt.mp passed.1) (fun same => quote same) passed.2, later⟩

private theorem join_unit {n : Nat} (whole : n < 0xD800 ∨ 0xDFFF < n) (ps : List Piece) :
    join (.unit n :: ps) = (join ps).map (Char.ofNat n :: ·) := by
  have single : (n < 0xD800 || 0xDFFF < n) = true := by simpa using whole
  conv => lhs; unfold join
  exact if_pos single

private theorem join_pair {n m : Nat} (highest : 0xD800 ≤ n ∧ n ≤ 0xDBFF) (lowest : 0xDC00 ≤ m ∧ m ≤ 0xDFFF)
    (ps : List Piece) : join (.unit n :: .unit m :: ps) =
      (join ps).map (Char.ofNat (0x10000 + (n - 0xD800) * 0x400 + (m - 0xDC00)) :: ·) := by
  have half : ¬ (n < 0xD800 || 0xDFFF < n) = true := by
    simp
    omega
  rw [join, if_neg half]
  exact if_pos (by simp [highest.2, lowest])

private theorem WritesCharacters.exists_pieces {cs xs : List Char} (characters : WritesCharacters cs xs)
    (rest : List Char) :
    ∃ ps, pieces (cs ++ '"' :: rest) = some (ps, rest) ∧ join ps = some xs := by
  induction characters with
  | nil => exact ⟨[], rfl, rfl⟩
  | @cons _ _ c _ head tail ih =>
    obtain ⟨ps, read, joined⟩ := ih
    cases head with
    | character piece =>
      refine ⟨.character c :: ps, ?_, ?_⟩
      · rw [List.append_assoc, piece.pieces_append, read]
        rfl
      · rw [join, joined]
        rfl
    | @unit _ n piece whole =>
      refine ⟨.unit n :: ps, ?_, ?_⟩
      · rw [List.append_assoc, piece.pieces_append, read]
        rfl
      · rw [join_unit whole, joined]
        rfl
    | @pair _ _ n m high low highest lowest =>
      refine ⟨.unit n :: .unit m :: ps, ?_, ?_⟩
      · rw [List.append_assoc, List.append_assoc, high.pieces_append, low.pieces_append, read]
        rfl
      · rw [join_pair highest lowest, joined]
        rfl

/-- What is read as a text is written as one. The induction is on how the pieces were joined, since two units may make
one character. -/
theorem writesCharacters_of_pieces {ps : List Piece} {cs xs rest : List Char} (read : pieces cs = some (ps, rest))
    (joined : join ps = some xs) : ∃ body, cs = body ++ '"' :: rest ∧ WritesCharacters body xs := by
  induction ps using join.induct generalizing cs xs with
  | case1 =>
    cases joined
    exact ⟨[], pieces_eq_nil_iff.mp read, .nil⟩
  | case2 c ps ih =>
    obtain ⟨xs, later, rfl⟩ := Option.map_eq_some_iff.mp joined
    obtain ⟨written, after, rfl, piece, read⟩ := exists_of_pieces_cons read
    obtain ⟨body, rfl, tail⟩ := ih read later
    exact ⟨written ++ body, (List.append_assoc ..).symm, .cons (.character piece) tail⟩
  | case3 n ps whole ih =>
    rw [join_unit (by simpa using whole)] at joined
    obtain ⟨xs, later, rfl⟩ := Option.map_eq_some_iff.mp joined
    obtain ⟨written, after, rfl, piece, read⟩ := exists_of_pieces_cons read
    obtain ⟨body, rfl, tail⟩ := ih read later
    exact ⟨written ++ body, (List.append_assoc ..).symm, .cons (.unit piece (by simpa using whole)) tail⟩
  | case4 n half m ps paired ih =>
    simp only [Bool.or_eq_true, decide_eq_true_eq, not_or, Nat.not_lt] at half
    simp only [Bool.and_eq_true, decide_eq_true_eq] at paired
    have highest : 0xD800 ≤ n ∧ n ≤ 0xDBFF := ⟨half.1, paired.1.1⟩
    have lowest : 0xDC00 ≤ m ∧ m ≤ 0xDFFF := ⟨paired.1.2, paired.2⟩
    rw [join_pair highest lowest] at joined
    obtain ⟨xs, later, rfl⟩ := Option.map_eq_some_iff.mp joined
    obtain ⟨first, after, rfl, high, read⟩ := exists_of_pieces_cons read
    obtain ⟨second, after, rfl, low, read⟩ := exists_of_pieces_cons read
    obtain ⟨body, rfl, tail⟩ := ih read later
    exact ⟨first ++ second ++ body, by simp, .cons (.pair high low highest lowest) tail⟩
  | case5 n half m ps unpaired =>
    rw [join, if_neg half, if_neg unpaired] at joined
    cases joined
  | case6 n ps half alone =>
    rw [join, if_neg half] at joined
    · cases joined
    · exact alone

private theorem exists_quote_of_value? {fuel : Nat} (read : value? fuel cs = some (.ofString s, rest)) :
    ∃ body, cs = '"' :: body ∧ textBody? body = some (some s, rest) := by
  unfold value? at read
  split at read
  next => cases read
  next =>
    rw [ofString] at read
    split at read
    next body => exact ⟨body, rfl, by simpa using read⟩
    next => split at read <;> simp at read
    next =>
      split at read
      next => simp at read
      next =>
        obtain ⟨⟨members, after⟩, -, same⟩ := Option.map_eq_some_iff.mp read
        rcases ofMembers_cases members with ⟨ms, shown⟩ | shown <;> simp [shown] at same
    next => simp at read
    next => simp at read
    next => simp at read
    next => simp at read

private theorem writesText_of_value? {fuel : Nat} (read : value? fuel cs = some (.ofString s, rest)) :
    ∃ written, cs = written ++ rest ∧ WritesText written s := by
  obtain ⟨cs, rfl, content⟩ := exists_quote_of_value? read
  obtain ⟨⟨ps, after⟩, pieced, same⟩ := Option.map_eq_some_iff.mp content
  obtain ⟨named, rfl⟩ := Prod.mk.inj same
  obtain ⟨xs, joined, rfl⟩ := Option.map_eq_some_iff.mp named
  obtain ⟨body, rfl, characters⟩ := writesCharacters_of_pieces pieced joined
  exact ⟨'"' :: (body ++ ['"']), by simp, .quoted (by rwa [String.toList_ofList])⟩

private theorem WritesText.value?_append (text : WritesText written s) {fuel : Nat} (rest : List Char) :
    value? (fuel + 1) (written ++ rest) = some (.ofString s, rest) := by
  cases text with
  | quoted characters =>
    obtain ⟨ps, read, joined⟩ := characters.exists_pieces rest
    simp [value?, textBody?, read, joined, ofString]

private theorem WritesText.exists_cons (text : WritesText written s) : ∃ cs, written = '"' :: cs ∧ cs ≠ [] := by
  cases text with
  | quoted characters => exact ⟨_, rfl, by simp⟩

end Texts

section Items

def Blank (cs : List Char) : Prop :=
  ∀ c ∈ cs, isBlank c = true

theorem skipBlanks_append {gap : List Char} (blank : Blank gap) (cs : List Char) :
    skipBlanks (gap ++ cs) = skipBlanks cs :=
  List.dropWhile_append_of_pos blank

theorem exists_blank (cs : List Char) : ∃ gap, Blank gap ∧ cs = gap ++ skipBlanks cs :=
  ⟨cs.takeWhile isBlank, fun _ present => List.mem_takeWhile_imp present, List.takeWhile_append_dropWhile.symm⟩

theorem skipBlanks_eq_nil_iff {cs : List Char} : skipBlanks cs = [] ↔ Blank cs := by
  constructor
  · intro none
    obtain ⟨gap, blank, split⟩ := exists_blank cs
    rw [none, List.append_nil] at split
    rwa [split]
  · intro blank
    rw [← List.append_nil cs, skipBlanks_append blank]
    rfl

/-- How the items of an array of texts may be written, up to the closing bracket. -/
inductive WritesItems : List Char → List String → Prop
  | last {written gap : List Char} {s : String} (text : WritesText written s) (blank : Blank gap) :
      WritesItems (written ++ (gap ++ [']'])) [s]
  | more {written before after rest : List Char} {s : String} {ss : List String} (text : WritesText written s)
      (blank : Blank before) (blank' : Blank after) (items : WritesItems rest ss) :
      WritesItems (written ++ (before ++ ',' :: (after ++ rest))) (s :: ss)

/-- How an array of texts may be written. -/
inductive WritesTexts : List Char → List String → Prop
  | empty {before gap after : List Char} (blank : Blank before) (blank' : Blank gap) (blank'' : Blank after) :
      WritesTexts (before ++ '[' :: (gap ++ ']' :: after)) []
  | items {before gap items after : List Char} {ss : List String} (blank : Blank before) (blank' : Blank gap)
      (written : WritesItems items ss) (blank'' : Blank after) :
      WritesTexts (before ++ '[' :: (gap ++ (items ++ after))) ss

private theorem WritesItems.exists_cons {items : List Char} {ss : List String} (written : WritesItems items ss) :
    ∃ cs, items = '"' :: cs := by
  cases written with
  | last text blank =>
    obtain ⟨cs, rfl, -⟩ := text.exists_cons
    exact ⟨_, rfl⟩
  | more text blank blank' items =>
    obtain ⟨cs, rfl, -⟩ := text.exists_cons
    exact ⟨_, rfl⟩

private theorem WritesItems.two_le_length {items : List Char} {ss : List String} (written : WritesItems items ss) :
    2 ≤ items.length := by
  cases written with
  | last text blank =>
    obtain ⟨cs, rfl, -⟩ := text.exists_cons
    simp only [List.length_append, List.length_cons]
    omega
  | more text blank blank' items =>
    obtain ⟨cs, rfl, -⟩ := text.exists_cons
    simp only [List.length_append, List.length_cons]
    omega

private theorem WritesItems.items?_append {items : List Char} {ss : List String} (written : WritesItems items ss)
    {fuel : Nat} (enough : items.length ≤ fuel) (rest : List Char) :
    Parser.items? fuel (items ++ rest) = some (ss.map ofString, rest) := by
  induction written generalizing fuel with
  | @last written gap s text blank =>
    have long := (WritesItems.last text blank).two_le_length
    obtain ⟨fuel, rfl⟩ : ∃ less, fuel = less + 1 + 1 := ⟨fuel - 2, by omega⟩
    have closed : skipBlanks (gap ++ ']' :: rest) = ']' :: rest := by
      rw [skipBlanks_append blank]
      rfl
    rw [List.append_assoc, List.append_assoc, List.singleton_append, Parser.items?, text.value?_append]
    simp only [Option.bind_eq_bind, Option.bind_some, closed]
    rfl
  | @more written before after items s ss text blank blank' more ih =>
    have long := more.two_le_length
    simp only [List.length_append, List.length_cons] at enough
    obtain ⟨fuel, rfl⟩ : ∃ less, fuel = less + 1 + 1 := ⟨fuel - 2, by omega⟩
    have separated : skipBlanks (before ++ ',' :: (after ++ (items ++ rest))) = ',' :: (after ++ (items ++ rest)) := by
      rw [skipBlanks_append blank]
      rfl
    have next : skipBlanks (after ++ (items ++ rest)) = items ++ rest := by
      obtain ⟨cs, rfl⟩ := more.exists_cons
      rw [skipBlanks_append blank']
      rfl
    have later := ih (by omega : items.length ≤ fuel + 1)
    simp only [List.append_assoc, List.cons_append]
    rw [Parser.items?, text.value?_append]
    simp only [Option.bind_eq_bind, Option.bind_some, separated, next, later]
    rfl

private theorem writesItems_of_items? {fuel : Nat} {cs rest : List Char} {ss : List String}
    (read : Parser.items? fuel cs = some (ss.map ofString, rest)) :
    ∃ items, cs = items ++ rest ∧ WritesItems items ss := by
  induction fuel generalizing cs ss with
  | zero => cases read
  | succ fuel ih =>
    simp only [Parser.items?, Option.bind_eq_bind, Option.bind_eq_some_iff, Prod.exists] at read
    obtain ⟨v, after, first, read⟩ := read
    have writes {s : String} (same : v = ofString s) : ∃ written, cs = written ++ after ∧ WritesText written s :=
      writesText_of_value? (same ▸ first)
    obtain ⟨gap, blank, split⟩ := exists_blank after
    split at read
    next closed =>
      obtain ⟨item, rfl⟩ : [v] = ss.map ofString ∧ _ = rest := by simpa using read
      obtain ⟨s, rfl, same⟩ : ∃ s, ss = [s] ∧ v = ofString s := by
        cases ss with
        | nil => cases item
        | cons s ss =>
          obtain ⟨same, none⟩ := List.cons.inj item
          exact ⟨s, by simpa using none.symm, same⟩
      obtain ⟨written, rfl, text⟩ := writes same
      rw [closed] at split
      exact ⟨written ++ (gap ++ [']']), by simp [split], .last text blank⟩
    next more separated =>
      simp only [Option.bind_eq_some_iff, Prod.exists, Option.pure_def, Option.some.injEq, Prod.mk.injEq] at read
      obtain ⟨vs, _, later, items, rfl⟩ := read
      cases ss with
      | nil => cases items
      | cons s ss =>
        obtain ⟨same, rfl⟩ := List.cons.inj items
        obtain ⟨written, rfl, text⟩ := writes same
        obtain ⟨items, start, rest⟩ := ih later
        obtain ⟨gap', blank', split'⟩ := exists_blank more
        rw [separated, split', start] at split
        exact ⟨written ++ (gap ++ ',' :: (gap' ++ items)), by simp [split], .more text blank blank' rest⟩
    next => cases read

private theorem text?_eq_some_iff {j : Json} {s : String} : j.text? = some s ↔ j = .ofString s := by
  cases j <;> simp [text?, ofString]

private theorem texts?_eq_some_iff {j : Json} {ss : List String} :
    j.texts? = some ss ↔ j = .array (ss.map ofString) := by
  constructor
  · intro read
    obtain ⟨vs, items, texts⟩ := Option.bind_eq_some_iff.mp read
    have same : vs = ss.map ofString := by
      clear read items
      induction vs generalizing ss with
      | nil =>
        cases texts
        rfl
      | cons v vs ih =>
        simp only [List.mapM_cons, Option.bind_eq_bind, Option.bind_eq_some_iff, Option.pure_def,
          Option.some.injEq] at texts
        obtain ⟨s, first, ss, later, rfl⟩ := texts
        rw [List.map_cons, ← ih later, text?_eq_some_iff.mp first]
    cases j with
    | array => exact congrArg Json.array ((Option.some.inj items).trans same)
    | _ => cases items
  · rintro rfl
    exact texts?_ofStrings ss

private theorem exists_bracket_of_value? {fuel : Nat} {cs rest : List Char} {vs : List Json}
    (read : value? (fuel + 1) cs = some (.array vs, rest)) :
    ∃ body, cs = '[' :: body ∧
      (vs = [] ∧ skipBlanks body = ']' :: rest ∨ Parser.items? fuel (skipBlanks body) = some (vs, rest)) := by
  unfold value? at read
  split at read
  next => simp at read
  next body =>
    refine ⟨body, rfl, ?_⟩
    split at read
    next closed =>
      obtain ⟨rfl, rfl⟩ : [] = vs ∧ _ = rest := by simpa using read
      exact .inl ⟨rfl, closed⟩
    next => exact .inr (by simpa [Prod.ext_iff] using read)
  next =>
    split at read
    next => simp at read
    next =>
      obtain ⟨⟨members, after⟩, -, same⟩ := Option.map_eq_some_iff.mp read
      rcases ofMembers_cases members with ⟨ms, shown⟩ | shown <;> simp [shown] at same
  next => simp at read
  next => simp at read
  next => simp at read
  next => simp at read

/-- The reader finds an array of texts in a document exactly if the grammar does, and the same texts. -/
theorem parse?_texts?_iff {raw : String} {ss : List String} :
    (parse? raw).bind texts? = some ss ↔ WritesTexts raw.toList ss := by
  constructor
  · intro read
    obtain ⟨j, parsed, texts⟩ := Option.bind_eq_some_iff.mp read
    obtain rfl := texts?_eq_some_iff.mp texts
    simp only [parse?, Option.bind_eq_bind, Option.bind_eq_some_iff, Prod.exists] at parsed
    obtain ⟨v, rest, value, last⟩ := parsed
    split at last
    next nothing =>
      obtain rfl := Option.some.inj last
      have trailing : Blank rest := skipBlanks_eq_nil_iff.mp (List.isEmpty_iff.mp nothing)
      obtain ⟨before, blank, split⟩ := exists_blank raw.toList
      obtain ⟨body, start, inside⟩ := exists_bracket_of_value? value
      obtain ⟨gap, blank', split'⟩ := exists_blank body
      rw [split, start, split']
      rcases inside with ⟨none, closed⟩ | items
      · obtain rfl : ss = [] := List.map_eq_nil_iff.mp none
        rw [closed]
        exact .empty blank blank' trailing
      · obtain ⟨items, written, valid⟩ := writesItems_of_items? items
        rw [written]
        exact .items blank blank' valid trailing
    next => cases last
  · intro written
    have reads : ∃ body rest, skipBlanks raw.toList = '[' :: body ∧ Blank rest ∧
        value? (body.length + 2) ('[' :: body) = some (.array (ss.map ofString), rest) := by
      generalize raw.toList = cs at written
      cases written with
      | @empty before gap after blank blank' blank'' =>
        refine ⟨gap ++ ']' :: after, after, ?_, blank'', ?_⟩
        · rw [skipBlanks_append blank]
          rfl
        · have closed : skipBlanks (gap ++ ']' :: after) = ']' :: after := by
            rw [skipBlanks_append blank']
            rfl
          rw [value?, closed]
          rfl
      | @items before gap items after _ blank blank' written blank'' =>
        refine ⟨gap ++ (items ++ after), after, ?_, blank'', ?_⟩
        · rw [skipBlanks_append blank]
          rfl
        · have enough : items.length ≤ (gap ++ (items ++ after)).length + 1 := by
            simp only [List.length_append]
            omega
          have inside := written.items?_append enough after
          obtain ⟨cs, rfl⟩ := written.exists_cons
          have start : skipBlanks (gap ++ ('"' :: cs ++ after)) = '"' :: cs ++ after := by
            rw [skipBlanks_append blank']
            rfl
          rw [value?, start]
          exact congrArg (Option.map fun r => (Json.array r.1, r.2)) inside
    obtain ⟨body, rest, start, trailing, value⟩ := reads
    have parsed : parse? raw = some (.array (ss.map ofString)) := by
      simp [parse?, start, value, skipBlanks_eq_nil_iff.mpr trailing]
    rw [parsed]
    exact texts?_ofStrings ss

end Items

end AnomalyWatch.Json
