import AnomalyWatch.Proofs.Json.Extension
import AnomalyWatch.Proofs.Store.Refusal
import AnomalyWatch.Proofs.Text.Blank

/-!
Rows appended to a journal that somebody else may have edited.

Reading a journal asks for no line feed behind its last line, and appending puts none in front of its rows. So the first
new row goes on with a line that was left open. That is harmless if the open line has nothing but the blanks of a JSON
document; in every other case the two make one line that nobody can read, and the journal does not open any more.
-/

set_option autoImplicit false
set_option relaxedAutoImplicit false

namespace AnomalyWatch.Journal

section Lines

/-- The characters behind the last line feed. -/
def unfinished (cs : List Char) : List Char :=
  (Text.pieces (· == '\n') cs).getLastD []

def finished (cs : List Char) : List (List Char) :=
  (Text.pieces (· == '\n') cs).dropLast.map withoutReturn

private theorem lines_eq (cs : List Char) :
    lines cs = finished cs ++ if (unfinished cs).isEmpty then [] else [unfinished cs] := rfl

private theorem length_finished (cs : List Char) : (finished cs).length = cs.count '\n' := by
  rw [finished, List.length_map, List.length_dropLast, Text.length_pieces]
  rfl

private theorem withoutReturn_append_row (open' : List Char) (a : Anomaly) :
    withoutReturn (open' ++ a.toJson.chars) = open' ++ a.toJson.chars := by
  refine if_neg fun returned => ?_
  have visible : a.toJson.chars ≠ [] := by
    rintro none
    cases none
  have last : (open' ++ a.toJson.chars).getLast? = some '\r' := by simpa using returned
  rw [List.getLast?_append_of_ne_nil _ visible] at last
  exact absurd (printable_row a '\r' (List.mem_of_getLast? last)) (by decide)

private theorem unbroken_row (a : Anomaly) : ∀ c ∈ a.toJson.chars, (c == '\n') = false := by
  intro c present
  refine beq_eq_false_iff_ne.mpr ?_
  rintro rfl
  exact absurd (printable_row a '\n' present) (by decide)

private theorem lines_append_feed (cs rest : List Char) :
    lines (cs ++ '\n' :: rest) = (Text.pieces (· == '\n') cs).map withoutReturn ++ lines rest := by
  obtain ⟨p, ps, more⟩ := List.exists_cons_of_ne_nil (Text.pieces_ne_nil (· == '\n') rest)
  have cut : Text.pieces (· == '\n') (cs ++ '\n' :: rest) = Text.pieces (· == '\n') cs ++ p :: ps := by
    rw [Text.pieces_append_cons rfl, more]
  have last : (Text.pieces (· == '\n') cs ++ p :: ps).getLastD [] = (p :: ps).getLastD [] := by
    rw [List.getLastD_eq_getLast?, List.getLastD_eq_getLast?, List.getLast?_append_of_ne_nil _ (List.cons_ne_nil p ps)]
  simp only [lines, cut, last, more, List.dropLast_append_cons, List.map_append, List.append_assoc]

private theorem lines_append_encode (cs : List Char) (a : Anomaly) (more : List Anomaly) :
    lines (cs ++ encode (a :: more)) =
      finished cs ++ (unfinished cs ++ a.toJson.chars) :: more.map fun b => b.toJson.chars := by
  have first : (Text.pieces (· == '\n') (cs ++ a.toJson.chars)).map withoutReturn =
      finished cs ++ [unfinished cs ++ a.toJson.chars] := by
    rw [Text.pieces_append_whole (unbroken_row a), List.map_append, List.map_singleton, ← unfinished,
      withoutReturn_append_row, finished]
  have behind : lines (encode more) = more.map fun b => b.toJson.chars := by
    simpa [lines_nil] using lines_encode more []
  have split : cs ++ encode (a :: more) = (cs ++ a.toJson.chars) ++ '\n' :: encode more := by
    simp [encode, line]
  rw [split, lines_append_feed, first, behind, List.append_assoc, List.singleton_append]

end Lines

section Rows

variable {path : String} {number : Nat}

private theorem rowsFrom_append (ls ms : List (List Char)) :
    rowsFrom path number (ls ++ ms) = (rowsFrom path number ls).bind fun read =>
      (rowsFrom path (number + ls.length) ms).map (read ++ ·) := by
  induction ls generalizing number with
  | nil =>
    show rowsFrom path number ms = (rowsFrom path number ms).map ([] ++ ·)
    cases rowsFrom path number ms <;> rfl
  | cons cs ls ih =>
    have counted : number + 1 + ls.length = number + (cs :: ls).length := by
      rw [List.length_cons]
      omega
    rw [List.cons_append, rowsFrom, rowsFrom, ih, counted]
    split
    next => rfl
    next =>
      split
      next => rfl
      next a _ =>
        cases rowsFrom path (number + 1) ls with
        | error e => rfl
        | ok read => cases rowsFrom path (number + (cs :: ls).length) ms <;> rfl

private theorem rows_append_encode (cs : List Char) (a : Anomaly) (more : List Anomaly) :
    rows path (cs ++ encode (a :: more)) = (rowsFrom path 1 (finished cs)).bind fun read =>
      (rowsFrom path (cs.count '\n' + 1) ((unfinished cs ++ a.toJson.chars) :: more.map fun b => b.toJson.chars)).map
        (read ++ ·) := by
  rw [rows, lines_append_encode, rowsFrom_append, length_finished, Nat.add_comm]

private theorem exists_of_bind_eq_ok {ε α β : Type} {x : Except ε α} {f : α → Except ε β} {b : β}
    (bound : x.bind f = .ok b) : ∃ a, x = .ok a ∧ f a = .ok b := by
  cases x with
  | error e => cases bound
  | ok a => exact ⟨a, rfl, bound⟩

private theorem exists_of_map_eq_ok {ε α β : Type} {x : Except ε α} {f : α → β} {b : β}
    (mapped : x.map f = .ok b) : ∃ a, x = .ok a ∧ f a = b := by
  cases x with
  | error e => cases mapped
  | ok a => exact ⟨a, rfl, Except.ok.inj mapped⟩

private theorem exists_of_rows {cs : List Char} {read : List Anomaly} (rowsRead : rows path cs = .ok read) :
    ∃ front back, rowsFrom path 1 (finished cs) = .ok front ∧
      rowsFrom path (cs.count '\n' + 1) (if (unfinished cs).isEmpty then [] else [unfinished cs]) = .ok back ∧
      read = front ++ back := by
  rw [rows, lines_eq, rowsFrom_append, length_finished, Nat.add_comm] at rowsRead
  obtain ⟨front, frontRead, rowsRead⟩ := exists_of_bind_eq_ok rowsRead
  obtain ⟨back, backRead, same⟩ := exists_of_map_eq_ok rowsRead
  exact ⟨front, back, frontRead, backRead, same.symm⟩

end Rows

section OpenLine

variable {cs : List Char}

private theorem not_blank_row (a : Anomaly) : ¬ Json.Blank a.toJson.chars := by
  intro blank
  have brace : '{' ∈ a.toJson.chars := List.mem_cons_self
  exact absurd (blank '{' brace) (by decide)

private theorem visible_append_row (cs : List Char) (a : Anomaly) : (cs ++ a.toJson.chars).all Text.isBlank = false :=
  List.all_eq_false.mpr ⟨'{', List.mem_append_right cs List.mem_cons_self, by decide⟩

private theorem isBlank_of_document {c : Char} (blank : Json.Parser.isBlank c) : Text.isBlank c = true := by
  simp only [Json.Parser.isBlank, Bool.or_eq_true, beq_iff_eq] at blank
  rcases blank with ((rfl | rfl) | rfl) | rfl <;> decide

private theorem row?_blank_append (blank : Json.Blank cs) (a : Anomaly) :
    row? (cs ++ a.toJson.chars) = Anomaly.ofJson? a.toJson := by
  rw [row?, Json.parse?_blank_append blank, ← row?, row?_row]

private theorem ne_number_of_ofJson? {j : Json} {a : Anomaly} (read : Anomaly.ofJson? j = some a)
    (literal : List Char) :
    j ≠ .number literal := by
  rintro rfl
  cases read

/-- A line that was read, or left out as blank, cannot be read with a row behind it. -/
theorem row?_append_eq_none (accepted : cs.all Text.isBlank = true ∨ ∃ b, row? cs = some b)
    (visible : ¬ Json.Blank cs) (a : Anomaly) : row? (cs ++ a.toJson.chars) = none := by
  have unread : Json.parse? (String.ofList (cs ++ a.toJson.chars)) = none := by
    rcases accepted with blank | ⟨b, read⟩
    · have some : Json.Parser.skipBlanks cs ≠ [] := fun none => visible (Json.skipBlanks_eq_nil_iff.mp none)
      obtain ⟨c, rest, shown⟩ := List.exists_cons_of_ne_nil some
      have present : c ∈ cs := by
        obtain ⟨gap, -, split⟩ := Json.exists_blank cs
        rw [split, shown]
        exact List.mem_append_right gap List.mem_cons_self
      have stray : Text.isBlank c = true := List.all_eq_true.mp blank c present
      exact Json.parse?_eq_none_of_stray (Json.skipBlanks_append_of_shown shown a.toJson.chars) stray
    · obtain ⟨j, parsed, record⟩ := Option.bind_eq_some_iff.mp read
      exact Json.parse?_append_eq_none parsed (ne_number_of_ofJson? record) (not_blank_row a)
  rw [row?, unread]
  rfl

variable {path : String} {number : Nat} {a : Anomaly} {more reread read : List Anomaly}

private theorem rowsFrom_line {line : List Char} {rest : List (List Char)} (visible : line.all Text.isBlank = false) :
    rowsFrom path number (line :: rest) =
      match row? line with
      | none => .error (.malformedRow path number "not a stored anomaly")
      | some b => (rowsFrom path (number + 1) rest).map (b :: ·) := by
  rw [rowsFrom, visible]
  rfl

private theorem accepted_of_rowsFrom {back : List Anomaly}
    (read : rowsFrom path number (if cs.isEmpty then [] else [cs]) = .ok back) :
    (cs.all Text.isBlank = true ∧ back = []) ∨ (cs.all Text.isBlank = false ∧ ∃ b, row? cs = some b) := by
  cases blank : cs.all Text.isBlank with
  | true =>
    refine .inl ⟨rfl, ?_⟩
    split at read
    next => exact (Except.ok.inj read).symm
    next =>
      rw [rowsFrom, blank] at read
      exact (Except.ok.inj read).symm
  | false =>
    refine .inr ⟨rfl, ?_⟩
    have some : cs.isEmpty = false := by
      cases cs with
      | nil => cases blank
      | cons c cs => rfl
    rw [some] at read
    cases row : row? cs with
    | some b => exact ⟨b, rfl⟩
    | none =>
      have failed : rowsFrom path number [cs] = .error (.malformedRow path number "not a stored anomaly") := by
        rw [rowsFrom_line blank, row]
      cases failed.symm.trans read

private theorem rows_append_of_blank (rowsRead : rows path cs = .ok read) (blank : Json.Blank (unfinished cs))
    (all : List.Forall₂ Anomaly.Rereads (a :: more) reread) :
    rows path (cs ++ encode (a :: more)) = .ok (read ++ reread) := by
  obtain ⟨front, back, frontRead, backRead, rfl⟩ := exists_of_rows rowsRead
  have skipped : (unfinished cs).all Text.isBlank = true :=
    List.all_eq_true.mpr fun c present => isBlank_of_document (blank c present)
  have none : back = [] := by
    rcases accepted_of_rowsFrom backRead with ⟨-, none⟩ | ⟨visible, -⟩
    · exact none
    · cases skipped.symm.trans visible
  cases all with
  | @cons _ b _ reread first later =>
    have joined : row? (unfinished cs ++ a.toJson.chars) = some b := (row?_blank_append blank a).trans first
    have behind : rowsFrom path (cs.count '\n' + 1 + 1) ((more.map fun b => b.toJson.chars) ++ []) =
        .ok (reread ++ []) := rowsFrom_rows later
    rw [List.append_nil, List.append_nil] at behind
    rw [rows_append_encode, frontRead, rowsFrom_line (visible_append_row ..), joined, none, List.append_nil]
    simp only [behind]
    rfl

private theorem rows_append_of_open (rowsRead : rows path cs = .ok read) (visible : ¬ Json.Blank (unfinished cs))
    (a : Anomaly) (more : List Anomaly) :
    rows path (cs ++ encode (a :: more)) =
      .error (.malformedRow path (cs.count '\n' + 1) "not a stored anomaly") := by
  obtain ⟨front, back, frontRead, backRead, rfl⟩ := exists_of_rows rowsRead
  have unread : row? (unfinished cs ++ a.toJson.chars) = none :=
    row?_append_eq_none ((accepted_of_rowsFrom backRead).imp And.left And.right) visible a
  rw [rows_append_encode, frontRead, rowsFrom_line (visible_append_row ..), unread]
  rfl

end OpenLine

section Files

variable {path : String} {tree tree₁ : FileTree} {l : Ledger} {batch reread : List Anomaly}

private theorem openAt_after_append (text : String) (held : Held path tree text.toUTF8) (batch : List Anomaly) :
    ∃ tree', appendAt path batch tree = (.ok (), tree') ∧
      (openAt path tree').1 = (rows path (text.toList ++ encode batch)).map Ledger.ofRows := by
  obtain ⟨tree', appended, after⟩ := appendAt_of_held held batch
  obtain ⟨tree'', reopened, -⟩ := openAt_of_held after
  have joined : text.toUTF8 ++ bytes batch = (String.ofList (text.toList ++ encode batch)).toUTF8 := by
    rw [String.ofList_append, String.ofList_toList]
    exact String.toByteArray_append.symm
  refine ⟨tree', appended, ?_⟩
  rw [reopened, joined, replay_text]

/-- Rows appended to a journal that opened open behind its rows exactly if the last line was not left open, up to the
blanks of a document. Otherwise the journal does not open, and the error names the line that was open. -/
theorem opens_after_append_iff (opened : openAt path tree = (.ok l, tree₁)) (some : batch ≠ [])
    (all : List.Forall₂ Anomaly.Rereads batch reread) :
    ∃ (text : String) (tree₂ : FileTree), Held path tree₁ text.toUTF8 ∧ appendAt path batch tree₁ = (.ok (), tree₂) ∧
      ((openAt path tree₂).1 = .ok (l.publish reread) ↔ Json.Blank (unfinished text.toList)) ∧
      (¬ Json.Blank (unfinished text.toList) → (openAt path tree₂).1 =
        .error (.malformedRow path (text.toList.count '\n' + 1) "not a stored anomaly")) := by
  obtain ⟨content, held, replayed⟩ := held_of_openAt opened
  obtain ⟨text, read, rfl, rowsRead, rfl⟩ := text_of_replay replayed
  obtain ⟨tree₂, appended, shown⟩ := openAt_after_append (String.ofList text) held batch
  obtain ⟨a, more, rfl⟩ := List.exists_cons_of_ne_nil some
  refine ⟨String.ofList text, tree₂, held, appended, ?_⟩
  rw [String.toList_ofList] at shown ⊢
  have failed (visible : ¬ Json.Blank (unfinished text)) : (openAt path tree₂).1 =
      .error (.malformedRow path (text.count '\n' + 1) "not a stored anomaly") := by
    rw [shown, rows_append_of_open rowsRead visible]
    rfl
  refine ⟨⟨fun opens => ?_, fun blank => ?_⟩, failed⟩
  · by_contra visible
    cases (failed visible).symm.trans opens
  · rw [shown, rows_append_of_blank rowsRead blank all]
    exact congrArg Except.ok (Ledger.publish_publish .empty read reread).symm

private theorem held_file (content : ByteArray) : Held "j" (.directory [(.ofText "j", .file content)]) content where
  named := by
    rw [namesOf_sample]
    exact List.cons_ne_nil _ _
  directory := by
    rw [namesOf_sample]
    exact ⟨_, rfl⟩
  file := by
    rw [namesOf_sample]
    exact .inl rfl

private theorem exists_rereads_sample :
    ∃ b, (Ledger.numbered .epoch (.unstamped ⟨["a"]⟩ .epoch .epoch 1) 1).Rereads b :=
  Anomaly.exists_rereads_numbered ⟨by decide +kernel, by decide +kernel, by decide⟩ .epoch (by decide)

/-- A blank line and a tab behind it take a row. -/
theorem opens_after_tab :
    let row := Ledger.numbered .epoch (.unstamped ⟨["a"]⟩ .epoch .epoch 1) 1
    ∃ tree₁ b tree₂, openAt "j" (.directory [(.ofText "j", .file "\n\t".toUTF8)]) = (.ok .empty, tree₁) ∧
      row.Rereads b ∧
      appendAt "j" [row] tree₁ = (.ok (), tree₂) ∧ (openAt "j" tree₂).1 = .ok (Ledger.empty.publish [b]) := by
  intro row
  obtain ⟨b, reads⟩ := exists_rereads_sample
  obtain ⟨tree₁, opened, held⟩ := openAt_of_held (held_file "\n\t".toUTF8)
  have nothing : replay "j" "\n\t".toUTF8 = .ok .empty := by
    rw [replay, Text.fromUTF8?_toUTF8]
    rfl
  rw [nothing] at opened
  obtain ⟨text, tree₂, found, appended, opens, -⟩ :=
    opens_after_append_iff opened (List.cons_ne_nil row []) (.cons reads .nil)
  obtain rfl : text = "\n\t" := String.toByteArray_inj.mp (found.unique held)
  have left : unfinished "\n\t".toList = ['\t'] := by decide +kernel
  have blank : Json.Blank (unfinished "\n\t".toList) := by
    rw [left]
    exact List.forall_mem_singleton.mpr rfl
  exact ⟨tree₁, b, tree₂, opened, reads, appended, opens.mpr blank⟩

private theorem pieces_row (a : Anomaly) : Text.pieces (· == '\n') a.toJson.chars = [a.toJson.chars] :=
  Text.pieces_append_whole (unbroken_row a) []

private theorem rows_open_row {a b : Anomaly} (path : String) (reads : a.Rereads b) :
    rows path a.toJson.chars = .ok [b] := by
  have single : lines a.toJson.chars = [a.toJson.chars] := by
    rw [lines, pieces_row]
    rfl
  have read : Anomaly.ofJson? a.toJson = some b := reads
  rw [rows, single, rowsFrom_row, read]
  rfl

/-- A row on a line that was left open is read, but not any more once another row is appended. -/
theorem lost_behind_open_row : ¬ ∀ path tree l tree₁ batch reread, openAt path tree = (.ok l, tree₁) → batch ≠ [] →
    List.Forall₂ Anomaly.Rereads batch reread →
    ∃ tree₂, appendAt path batch tree₁ = (.ok (), tree₂) ∧ (openAt path tree₂).1 = .ok (l.publish reread) := by
  intro undisturbed
  obtain ⟨b, reads⟩ := exists_rereads_sample
  let row := Ledger.numbered .epoch (.unstamped ⟨["a"]⟩ .epoch .epoch 1) 1
  have rowsRead : rows "j" row.toJson.chars = .ok [b] := rows_open_row "j" reads
  have visible : ¬ Json.Blank (unfinished row.toJson.chars) := by
    rw [unfinished, pieces_row]
    exact not_blank_row row
  have replayed : replay "j" (String.ofList row.toJson.chars).toUTF8 = .ok (.ofRows [b]) := by
    rw [replay_text, rowsRead]
    rfl
  obtain ⟨tree₁, opened, held⟩ := openAt_of_held (held_file (String.ofList row.toJson.chars).toUTF8)
  rw [replayed] at opened
  obtain ⟨tree₂, appended, opens⟩ := undisturbed _ _ _ _ [row] [b] opened (List.cons_ne_nil row []) (.cons reads .nil)
  obtain ⟨tree₃, again, shown⟩ := openAt_after_append _ held [row]
  obtain ⟨-, rfl⟩ := Prod.mk.inj (again.symm.trans appended)
  rw [String.toList_ofList, rows_append_of_open rowsRead visible, opens] at shown
  cases shown

end Files

end AnomalyWatch.Journal
