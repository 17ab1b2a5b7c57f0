import AnomalyWatch.Proofs.Files.Tree
import AnomalyWatch.Proofs.Store.Journal
import AnomalyWatch.Store.JournalFile

/-!
The file behind a journal. Once it was opened its directory is there, so appends reach it and opening it again
finds what it was opened with and what was appended since.
-/

set_option autoImplicit false
set_option relaxedAutoImplicit false

namespace AnomalyWatch.Journal

open FileTree (namesOf)

/-- The directory of the journal is there, and the journal holds the bytes; one without bytes may be missing. -/
structure Held (path : String) (tree : FileTree) (content : ByteArray) : Prop where
  named : namesOf path ≠ []
  directory : ∃ entries, tree.get? (namesOf path).dropLast = some (.directory entries)
  file : tree.get? (namesOf path) = some (.file content) ∨
    tree.get? (namesOf path) = none ∧ content = .empty

variable {path : String} {tree tree' : FileTree} {content : ByteArray}

theorem Held.unique {other : ByteArray} (held : Held path tree content) (again : Held path tree other) :
    content = other := by
  rcases held.file with found | ⟨missing, rfl⟩ <;> rcases again.file with found' | ⟨missing', rfl⟩
  · rw [found] at found'
    cases found'
    rfl
  · cases found.symm.trans missing'
  · cases missing.symm.trans found'
  · rfl

theorem replay_empty (path : String) : replay path .empty = .ok .empty :=
  replay_bytes_eq_ok.mpr ⟨[], .nil, rfl⟩

private theorem get?_names (tree : FileTree) (named : namesOf path ≠ []) :
    tree.get? (namesOf path) = (tree.get? (namesOf path).dropLast).bind fun directory =>
      directory.get? [(namesOf path).getLast named] := by
  rw [← FileTree.get?_append, List.dropLast_append_getLast]

theorem openAt_of_held (held : Held path tree content) :
    ∃ tree', openAt path tree = (replay path content, tree') ∧ Held path tree' content := by
  obtain ⟨named, ⟨entries, directory⟩, file⟩ := held
  obtain ⟨tree', made, kept⟩ : ∃ tree', tree.makeDirectory? (namesOf path).dropLast = some tree' ∧
      tree'.get? (namesOf path).dropLast = some (.directory entries) :=
    FileTree.update?_of_get? _ directory rfl
  have same : tree'.get? (namesOf path) = tree.get? (namesOf path) := by
    rw [get?_names tree' named, get?_names tree named, kept, directory]
  refine ⟨tree', ?_, named, ⟨entries, kept⟩, same ▸ file⟩
  rcases file with found | ⟨missing, rfl⟩
  · simp only [openAt, made, same, found]
  · simp only [openAt, made, same, missing, replay_empty]

theorem held_of_openAt {l : Ledger} (opened : openAt path tree = (.ok l, tree')) :
    ∃ content, Held path tree' content ∧ replay path content = .ok l := by
  simp only [openAt] at opened
  split at opened
  next => cases opened
  next made =>
    obtain ⟨entries, shown, -⟩ := FileTree.exists_directory made
    split at opened
    next missing =>
      cases opened
      refine ⟨.empty, ⟨?_, ⟨entries, shown⟩, .inr ⟨missing, rfl⟩⟩, replay_empty path⟩
      intro unnamed
      rw [unnamed] at missing
      cases missing
    next => cases opened
    next content found =>
      obtain ⟨replayed, rfl⟩ := Prod.mk.inj opened
      refine ⟨content, ⟨?_, ⟨entries, shown⟩, .inl found⟩, replayed⟩
      intro unnamed
      rw [unnamed] at found shown
      cases found.symm.trans shown

theorem openAt_of_absent {l : Ledger} (absent : tree.get? (namesOf path) = none)
    (opened : openAt path tree = (.ok l, tree')) : l = .empty ∧ Held path tree' .empty := by
  have named : namesOf path ≠ [] := by
    intro unnamed
    rw [unnamed] at absent
    cases absent
  simp only [openAt] at opened
  split at opened
  next => cases opened
  next tree₁ made =>
    obtain ⟨entries, shown, before⟩ := FileTree.exists_directory made
    have missing : tree₁.get? (namesOf path) = none := by
      rw [get?_names tree₁ named, shown]
      rcases before with found | ⟨-, rfl⟩
      · rwa [get?_names tree named, found] at absent
      · rfl
    rw [missing] at opened
    cases opened
    exact ⟨rfl, named, ⟨entries, shown⟩, .inr ⟨missing, rfl⟩⟩

private theorem update?_names {change : Option FileTree → Option FileTree} {entries : List (FileName × FileTree)}
    {node : FileTree} (named : namesOf path ≠ [])
    (directory : tree.get? (namesOf path).dropLast = some (.directory entries))
    (changes : change (tree.get? (namesOf path)) = some node) :
    ∃ tree', FileTree.update? change (some tree) (namesOf path) = some tree' ∧
      (∃ entries, tree'.get? (namesOf path).dropLast = some (.directory entries)) ∧
      tree'.get? (namesOf path) = some node := by
  have listed : tree.get? (namesOf path) = entries.lookup ((namesOf path).getLast named) := by
    rw [get?_names tree named, directory, Option.bind_some, FileTree.get?]
    cases entries.lookup _ <;> rfl
  have inside : FileTree.update? change (some (.directory entries)) [(namesOf path).getLast named] =
      some (.directory (FileTree.place ((namesOf path).getLast named) node entries)) := by
    rw [FileTree.update?, FileTree.update?, ← listed, changes, Option.map_some]
  obtain ⟨tree', changed, shown⟩ := FileTree.update?_of_get?
    (fun t => FileTree.update? change t [(namesOf path).getLast named]) directory inside
  rw [← FileTree.update?_append, List.dropLast_append_getLast] at changed
  refine ⟨tree', changed, ⟨_, shown⟩, ?_⟩
  rw [get?_names tree' named, shown, Option.bind_some, FileTree.get?, FileTree.lookup_place]
  rfl

theorem append?_of_held (held : Held path tree content) (more : ByteArray) :
    ∃ tree', tree.append? (namesOf path) more = some tree' ∧ Held path tree' (content ++ more) := by
  obtain ⟨named, ⟨entries, directory⟩, file⟩ := held
  obtain ⟨tree', grown, parent, found⟩ : ∃ tree', tree.append? (namesOf path) more = some tree' ∧
      (∃ entries, tree'.get? (namesOf path).dropLast = some (.directory entries)) ∧
      tree'.get? (namesOf path) = some (.file (content ++ more)) := by
    rw [FileTree.append?, directory]
    refine update?_names named directory ?_
    rcases file with found | ⟨missing, rfl⟩
    · rw [found]
    · rw [missing, ByteArray.empty_append]
  exact ⟨tree', grown, named, parent, .inl found⟩

theorem appendAt_of_held (held : Held path tree content) (rows : List Anomaly) :
    ∃ tree', appendAt path rows tree = (.ok (), tree') ∧ Held path tree' (content ++ bytes rows) := by
  cases rows with
  | nil =>
    have same : content ++ bytes [] = content := ByteArray.append_empty
    exact ⟨tree, rfl, by rwa [same]⟩
  | cons a rows =>
    obtain ⟨tree', grown, held⟩ := append?_of_held held (bytes (a :: rows))
    refine ⟨tree', ?_, held⟩
    rw [appendAt, grown]
    rfl

theorem namesOf_sample : namesOf "j" = [.ofText "j"] := by
  have split : "j".splitOn "/" = ["j"] := by
    rw [String.splitOn, if_neg (by decide), String.splitOnAux, if_neg (by decide +kernel),
      if_neg (by decide +kernel), String.splitOnAux, if_pos (by decide +kernel)]
    decide +kernel
  rw [namesOf, split]
  decide +kernel

theorem absent_sample : FileTree.empty.get? (namesOf "j") = none := by
  rw [namesOf_sample]
  rfl

theorem openAt_sample : openAt "j" .empty = (.ok .empty, .empty) := by
  simp only [openAt, namesOf_sample]
  rfl

theorem held_sample : Held "j" .empty (bytes []) :=
  (openAt_of_absent absent_sample openAt_sample).2

end AnomalyWatch.Journal
