import AnomalyWatch.Files.SpecDirectory
import AnomalyWatch.Proofs.Files.Name
import Mathlib.Data.List.Nodup

/-!
Which files of a directory tree are found, and in which order.

Those are found that no hidden directory stands above. A directory comes in the place of its name, so the files stand in
the order of the names on the way to them, the names nearest to the root first; no file is found twice.
-/

set_option autoImplicit false
set_option relaxedAutoImplicit false

namespace AnomalyWatch

/-- No directory of the tree has two entries of one name. -/
inductive FileTree.Distinct : FileTree → Prop
  | file (content : ByteArray) : Distinct (.file content)
  | directory {entries : List (FileName × FileTree)} (names : (entries.map Prod.fst).Nodup)
      (inside : ∀ e ∈ entries, Distinct e.2) : Distinct (.directory entries)

namespace SpecDirectory

variable {name : FileName} {t : FileTree} {f : Found} {entries : List (FileName × FileTree)}

section Entries

private theorem mem_entries_iff_lookup (names : (entries.map Prod.fst).Nodup) :
    (name, t) ∈ entries ↔ entries.lookup name = some t := by
  induction entries with
  | nil => simp
  | cons e rest ih =>
    obtain ⟨first, node⟩ := e
    obtain ⟨absent, later⟩ := List.nodup_cons.mp names
    rw [List.mem_cons, List.lookup_cons, ih later]
    by_cases same : name = first
    · subst same
      have elsewhere : rest.lookup name ≠ some t := by
        intro found
        exact absent (List.mem_map.mpr ⟨(name, t), (ih later).mpr found, rfl⟩)
      simp [elsewhere, eq_comm]
    · have other : (name == first) = false := beq_eq_false_iff_ne.mpr same
      simp [other, same]

private theorem filesOf_eq_map (entries : List (FileName × FileTree)) :
    filesOf entries = entries.map fun e => (e.1, filesAt e.1 e.2) := by
  induction entries with
  | nil => rfl
  | cons e rest ih =>
    obtain ⟨name, node⟩ := e
    rw [filesOf, ih, List.map_cons]

private theorem mem_inOrder_filesOf : f ∈ inOrder (filesOf entries) ↔ ∃ e ∈ entries, f ∈ filesAt e.1 e.2 := by
  simp [inOrder, filesOf_eq_map, List.mem_flatMap, List.mem_mergeSort]

end Entries

section Order

private theorem exists_names_of_mem_filesAt (found : f ∈ filesAt name t) : ∃ rest, f.names = name :: rest := by
  cases t with
  | file content =>
    rw [filesAt, List.mem_singleton] at found
    exact ⟨[], by rw [found]⟩
  | directory entries =>
    rw [filesAt] at found
    split at found
    next => cases found
    next =>
      obtain ⟨g, -, rfl⟩ := List.mem_map.mp found
      exact ⟨g.names, rfl⟩

private theorem pairwise_mergeSort_names (found : List (FileName × List Found)) (names : (found.map Prod.fst).Nodup) :
    (found.mergeSort fun a b => a.1 ≤ b.1).Pairwise fun a b => a.1 < b.1 := by
  have sorted : (found.mergeSort fun a b => a.1 ≤ b.1).Pairwise fun a b => decide (a.1 ≤ b.1) = true := by
    refine List.pairwise_mergeSort ?_ ?_ found
    · intro a b c before after
      exact decide_eq_true (Std.le_trans (of_decide_eq_true before) (of_decide_eq_true after))
    · intro a b
      simpa using Std.le_total (a := a.1) (b := b.1)
  have distinct : (found.mergeSort fun a b => a.1 ≤ b.1).Pairwise fun a b => a.1 ≠ b.1 := by
    have perm := (List.mergeSort_perm found fun a b => a.1 ≤ b.1).map Prod.fst
    exact List.pairwise_map.mp (perm.nodup_iff.mpr names)
  exact (sorted.and distinct).imp fun both => Std.lt_of_le_of_ne (of_decide_eq_true both.1) both.2

private theorem pairwise_inOrder_filesOf (names : (entries.map Prod.fst).Nodup)
    (inside : ∀ e ∈ entries, (filesAt e.1 e.2).Pairwise fun f g => f.names < g.names) :
    (inOrder (filesOf entries)).Pairwise fun f g => f.names < g.names := by
  have same : (filesOf entries).map Prod.fst = entries.map Prod.fst := by
    simp [filesOf_eq_map]
  have group {d : FileName × List Found} (listed : d ∈ (filesOf entries).mergeSort fun a b => a.1 ≤ b.1) :
      ∃ e ∈ entries, d = (e.1, filesAt e.1 e.2) := by
    rw [List.mem_mergeSort, filesOf_eq_map, List.mem_map] at listed
    obtain ⟨e, present, rfl⟩ := listed
    exact ⟨e, present, rfl⟩
  refine List.pairwise_flatMap.mpr ⟨fun d listed => ?_, ?_⟩
  · obtain ⟨e, present, rfl⟩ := group listed
    exact inside e present
  · refine (pairwise_mergeSort_names (filesOf entries) (same ▸ names)).imp_of_mem ?_
    intro d d' listed listed' before f first g second
    obtain ⟨e, -, rfl⟩ := group listed
    obtain ⟨e', -, rfl⟩ := group listed'
    obtain ⟨rest, below⟩ := exists_names_of_mem_filesAt first
    obtain ⟨rest', below'⟩ := exists_names_of_mem_filesAt second
    rw [below, below']
    exact List.cons_lt_cons_iff.mpr (.inl before)

private theorem pairwise_filesAt (distinct : t.Distinct) (name : FileName) :
    (filesAt name t).Pairwise fun f g => f.names < g.names := by
  induction distinct generalizing name with
  | file content => exact List.pairwise_singleton ..
  | directory names inside ih =>
    rw [filesAt]
    split
    next => exact .nil
    next =>
      refine List.pairwise_map.mpr ((pairwise_inOrder_filesOf names fun e present => ih e present e.1).imp ?_)
      intro f g before
      exact List.cons_lt_cons_iff.mpr (.inr ⟨rfl, before⟩)

end Order

section Places

/-- The file is at the names below the node, and no directory on the way there is of the hidden ones. -/
structure FoundBelow (hidden : FileName → Prop) (t : FileTree) (f : Found) : Prop where
  named : f.names ≠ []
  there : t.get? f.names = some (.file f.content)
  visible : ∀ directory ∈ f.names.dropLast, ¬ hidden directory

/-- The file is at an entry: it is the entry itself, or below the entry, which is not hidden then. -/
def FoundAt (hidden : FileName → Prop) (name : FileName) (t : FileTree) (f : Found) : Prop :=
  (f.names = [name] ∧ t = .file f.content) ∨
    (¬ hidden name ∧ ∃ g, FoundBelow hidden t g ∧ f = g.under name)

variable {hidden : FileName → Prop}

private theorem foundBelow_directory_iff (names : (entries.map Prod.fst).Nodup) :
    FoundBelow hidden (.directory entries) f ↔ ∃ e ∈ entries, FoundAt hidden e.1 e.2 f := by
  constructor
  · rintro ⟨named, there, visible⟩
    obtain ⟨path, content⟩ := f
    obtain ⟨name, rest, rfl⟩ := List.exists_cons_of_ne_nil named
    obtain ⟨child, listed, deeper⟩ := Option.bind_eq_some_iff.mp there
    refine ⟨(name, child), (mem_entries_iff_lookup names).mpr listed, ?_⟩
    cases rest with
    | nil => exact .inl ⟨rfl, Option.some.inj deeper⟩
    | cons next rest =>
      obtain ⟨shown, later⟩ := List.forall_mem_cons.mp visible
      exact .inr ⟨shown, ⟨next :: rest, content⟩, ⟨List.cons_ne_nil _ _, deeper, later⟩, rfl⟩
  · rintro ⟨⟨name, child⟩, present, ⟨single, file⟩ | ⟨shown, g, ⟨named, there, visible⟩, rfl⟩⟩
    · have listed := (mem_entries_iff_lookup names).mp present
      refine ⟨by simp [single], ?_, by simp [single]⟩
      rw [single, FileTree.get?, listed, Option.bind_some, FileTree.get?]
      exact congrArg some file
    · have listed := (mem_entries_iff_lookup names).mp present
      refine ⟨List.cons_ne_nil _ _, ?_, ?_⟩
      · show FileTree.get? (.directory entries) (name :: g.names) = _
        rw [FileTree.get?, listed]
        exact there
      · show ∀ directory ∈ (name :: g.names).dropLast, ¬ hidden directory
        rw [List.dropLast_cons_of_ne_nil named]
        exact List.forall_mem_cons.mpr ⟨shown, visible⟩

private theorem not_foundBelow_file (content : ByteArray) : ¬ FoundBelow hidden (.file content) f := by
  rintro ⟨named, there, -⟩
  obtain ⟨next, rest, more⟩ := List.exists_cons_of_ne_nil named
  rw [more] at there
  cases there

private theorem mem_inOrder_filesOf_iff (names : (entries.map Prod.fst).Nodup)
    (each : ∀ e ∈ entries, ∀ f, f ∈ filesAt e.1 e.2 ↔ FoundAt hidden e.1 e.2 f) (f : Found) :
    f ∈ inOrder (filesOf entries) ↔ FoundBelow hidden (.directory entries) f := by
  rw [mem_inOrder_filesOf, foundBelow_directory_iff names]
  exact exists_congr fun e => and_congr_right fun present => each e present f

private theorem mem_filesAt_iff (distinct : t.Distinct) : f ∈ filesAt name t ↔ FoundAt FileName.Hidden name t f := by
  induction distinct generalizing name f with
  | file content =>
    rw [filesAt, List.mem_singleton]
    constructor
    · rintro rfl
      exact .inl ⟨rfl, rfl⟩
    · rintro (⟨single, file⟩ | ⟨-, g, below, -⟩)
      · obtain ⟨names, content⟩ := f
        cases file
        exact congrArg (Found.mk · content) single
      · exact absurd below (not_foundBelow_file content)
  | @directory entries names inside ih =>
    have below := mem_inOrder_filesOf_iff names fun e present _ => ih e present
    rw [filesAt]
    constructor
    · intro found
      split at found
      next => cases found
      next shown =>
        obtain ⟨g, present, rfl⟩ := List.mem_map.mp found
        exact .inr ⟨mt FileName.isHidden_iff.mpr shown, g, (below g).mp present, rfl⟩
    · rintro (⟨-, file⟩ | ⟨shown, g, present, rfl⟩)
      · cases file
      · rw [if_neg (mt FileName.isHidden_iff.mp shown)]
        exact List.mem_map.mpr ⟨g, (below g).mpr present, rfl⟩

variable {root : Option FileTree}

/-- A file is found exactly if it is in the root directory, below no hidden directory. -/
theorem mem_files_iff (distinct : ∀ t ∈ root, t.Distinct) :
    f ∈ files root ↔ ∃ t ∈ root, FoundBelow FileName.Hidden t f := by
  unfold files
  split
  next entries =>
    cases distinct _ rfl with
    | directory names inside =>
      simpa using mem_inOrder_filesOf_iff names (fun e present _ => mem_filesAt_iff (inside e present)) f
  next other =>
    refine iff_of_false List.not_mem_nil ?_
    rintro ⟨t, rfl, below⟩
    cases t with
    | file content => exact not_foundBelow_file content below
    | directory entries => exact other entries rfl

/-- The files come in the order of the names on the way to them, so none comes twice. -/
theorem pairwise_files (distinct : ∀ t ∈ root, t.Distinct) :
    (files root).Pairwise fun f g => f.names < g.names := by
  unfold files
  split
  next entries =>
    cases distinct _ rfl with
    | directory names inside =>
      exact pairwise_inOrder_filesOf names fun e present => pairwise_filesAt (inside e present) e.1
  next => exact .nil

end Places

end SpecDirectory

end AnomalyWatch
