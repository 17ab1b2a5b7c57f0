import AnomalyWatch.Proofs.Document.AnomalyRecord
import AnomalyWatch.Proofs.Text.ByteOrder
import AnomalyWatch.Store.Journal
import Mathlib.Data.List.Forall2

/-!
What a journal replays to.

A written row has no control character, so it stays on its line and every line is one row. A journal that
this library wrote therefore opens exactly if each of its rows reads back on its own, and opens to those rows
in their order.
-/

set_option autoImplicit false
set_option relaxedAutoImplicit false

namespace AnomalyWatch

/-- What a stored row comes back as. -/
def Anomaly.Rereads (a b : Anomaly) : Prop :=
  Anomaly.ofJson? a.toJson = some b

namespace Journal

section Lines

variable {cs rest : List Char}

private theorem pieces_line (unbroken : ∀ c ∈ cs, 32 ≤ c.toNat) :
    Text.pieces (· == '\n') (cs ++ '\n' :: rest) = cs :: Text.pieces (· == '\n') rest := by
  induction cs with
  | nil => rfl
  | cons c cs ih =>
    obtain ⟨visible, later⟩ := List.forall_mem_cons.mp unbroken
    have other : (c == '\n') = false := by
      refine beq_eq_false_iff_ne.mpr ?_
      rintro rfl
      exact absurd visible (by decide)
    simp only [List.cons_append, Text.pieces, other, Bool.false_eq_true, if_false, ih later]

private theorem withoutReturn_of_printable (unbroken : ∀ c ∈ cs, 32 ≤ c.toNat) : withoutReturn cs = cs := by
  refine if_neg fun returned => ?_
  have last : cs.getLast? = some '\r' := by simpa using returned
  exact absurd (unbroken '\r' (List.mem_of_getLast? last)) (by decide)

private theorem lines_line (unbroken : ∀ c ∈ cs, 32 ≤ c.toNat) : lines (cs ++ '\n' :: rest) = cs :: lines rest := by
  obtain ⟨p, ps, more⟩ := List.exists_cons_of_ne_nil (Text.pieces_ne_nil (· == '\n') rest)
  simp only [lines, pieces_line unbroken, more, List.dropLast_cons_cons, List.map_cons,
    withoutReturn_of_printable unbroken, List.cons_append, List.getLastD_cons]

end Lines

theorem printable_row (a : Anomaly) : ∀ c ∈ a.toJson.chars, 32 ≤ c.toNat :=
  a.wellformed_toJson.printable

theorem lines_encode (written : List Anomaly) (rest : List Char) :
    lines (encode written ++ rest) = (written.map fun a => a.toJson.chars) ++ lines rest := by
  induction written with
  | nil => rfl
  | cons a written ih =>
    have first : encode (a :: written) ++ rest = a.toJson.chars ++ '\n' :: (encode written ++ rest) := by
      simp [encode, line]
    rw [first, lines_line (printable_row a), ih]
    rfl

theorem row?_row (a : Anomaly) : row? a.toJson.chars = Anomaly.ofJson? a.toJson := by
  have parsed := Json.parse?_render a.wellformed_toJson
  rw [row?, ← Json.render, parsed]
  rfl

section Rows

variable {path : String} {number : Nat} {a b : Anomaly} {rest : List (List Char)}

theorem rowsFrom_row : rowsFrom path number (a.toJson.chars :: rest) =
    match Anomaly.ofJson? a.toJson with
    | none => .error (.malformedRow path number "not a stored anomaly")
    | some b => (rowsFrom path (number + 1) rest).map (b :: ·) := by
  have visible : (a.toJson.chars.all Text.isBlank) = false := rfl
  rw [rowsFrom, row?_row, visible]
  rfl

theorem rowsFrom_rows {written reread : List Anomaly} (read : List.Forall₂ Anomaly.Rereads written reread) :
    rowsFrom path number ((written.map fun a => a.toJson.chars) ++ rest) =
      (rowsFrom path (number + written.length) rest).map (reread ++ ·) := by
  induction read generalizing number with
  | nil =>
    change rowsFrom path number rest = (rowsFrom path number rest).map _
    cases rowsFrom path number rest <;> rfl
  | @cons a b written reread first _ ih =>
    have reads : Anomaly.ofJson? a.toJson = some b := first
    simp only [List.map_cons, List.cons_append, rowsFrom_row, reads, ih, List.length_cons]
    rw [Nat.add_right_comm, Nat.add_assoc number]
    cases rowsFrom path _ rest <;> rfl

theorem rowsFrom_of_unreadable (path : String) (number : Nat) (rest : List (List Char))
    {written : List Anomaly} (unreadable : ∃ a ∈ written, Anomaly.ofJson? a.toJson = none) :
    ∃ place, rowsFrom path number ((written.map fun a => a.toJson.chars) ++ rest) =
      .error (.malformedRow path place "not a stored anomaly") := by
  induction written generalizing number with
  | nil => simp at unreadable
  | cons a written ih =>
    simp only [List.map_cons, List.cons_append, rowsFrom_row]
    cases first : Anomaly.ofJson? a.toJson with
    | none => exact ⟨number, rfl⟩
    | some b =>
      obtain ⟨c, present, unread⟩ := unreadable
      have later : c ∈ written := by
        rcases List.mem_cons.mp present with rfl | later
        · rw [unread] at first
          cases first
        · exact later
      obtain ⟨place, failed⟩ := ih (number + 1) ⟨c, later, unread⟩
      exact ⟨place, by rw [failed]; rfl⟩

end Rows

theorem reread_or_unreadable (written : List Anomaly) :
    (∃ reread, List.Forall₂ Anomaly.Rereads written reread) ∨
      ∃ a ∈ written, Anomaly.ofJson? a.toJson = none := by
  induction written with
  | nil => exact .inl ⟨[], .nil⟩
  | cons a written ih =>
    cases first : Anomaly.ofJson? a.toJson with
    | none => exact .inr ⟨a, by simp, first⟩
    | some b =>
      rcases ih with ⟨reread, all⟩ | ⟨c, present, unread⟩
      · exact .inl ⟨b :: reread, .cons first all⟩
      · exact .inr ⟨c, .tail _ present, unread⟩

theorem bytes_append (written more : List Anomaly) : bytes (written ++ more) = bytes written ++ bytes more := by
  simp [bytes, encode]

theorem replay_text (path : String) (text : List Char) :
    replay path (String.ofList text).toUTF8 = (rows path text).map Ledger.ofRows := by
  simp only [replay, Text.fromUTF8?_toUTF8, String.toList_ofList]

theorem lines_nil : lines [] = [] := rfl

/-- A written journal opens exactly if each of its rows reads back, and then to what they read back as. -/
theorem replay_bytes_eq_ok {path : String} {written : List Anomaly} {l : Ledger} :
    replay path (bytes written) = .ok l ↔
      ∃ reread, List.Forall₂ Anomaly.Rereads written reread ∧ l = Ledger.ofRows reread := by
  have split : lines (encode written) = (written.map fun a => a.toJson.chars) ++ [] := by
    simpa [lines_nil] using lines_encode written []
  have opened (reread : List Anomaly) (all : List.Forall₂ Anomaly.Rereads written reread) :
      replay path (bytes written) = .ok (Ledger.ofRows reread) := by
    rw [bytes, replay_text, rows, split, rowsFrom_rows all]
    exact congrArg (fun r => Except.ok (Ledger.ofRows r)) (List.append_nil reread)
  constructor
  · intro replayed
    rcases reread_or_unreadable written with ⟨reread, all⟩ | unreadable
    · rw [opened reread all] at replayed
      exact ⟨reread, all, (Except.ok.inj replayed).symm⟩
    · obtain ⟨place, failed⟩ := rowsFrom_of_unreadable path 1 [] unreadable
      rw [bytes, replay_text, rows, split, failed] at replayed
      cases replayed
  · rintro ⟨reread, all, rfl⟩
    exact opened reread all

end Journal

end AnomalyWatch
