import AnomalyWatch.Files.Tree

/-!
What is at a path after a change there: what the change made of what was there.
-/

set_option autoImplicit false
set_option relaxedAutoImplicit false

namespace AnomalyWatch.FileTree

theorem lookup_place (name : FileName) (node : FileTree) (entries : List (FileName × FileTree)) :
    (place name node entries).lookup name = some node := by
  induction entries with
  | nil => simp [place]
  | cons e rest ih =>
    simp only [place]
    split
    · simp
    · simp
    next after =>
      have other : (name == e.1) = false := by
        refine beq_eq_false_iff_ne.mpr fun same => ?_
        have equal : compare e.1.octets e.1.octets = .eq := Std.ReflCmp.compare_self
        rw [same] at after
        cases equal.symm.trans after
      rw [List.lookup_cons, other, ih]

theorem get?_append (t : FileTree) (path more : List FileName) :
    t.get? (path ++ more) = (t.get? path).bind fun child => child.get? more := by
  induction path generalizing t with
  | nil => rfl
  | cons name path ih =>
    cases t with
    | file content => rfl
    | directory entries =>
      simp only [List.cons_append, get?]
      cases entries.lookup name with
      | none => rfl
      | some child => exact ih child

private theorem get?_of_update? {change : Option FileTree → Option FileTree} {t : Option FileTree} {t' : FileTree}
    {path : List FileName} (changed : update? change t path = some t') :
    ∃ node, change (t.bind fun t => t.get? path) = some node ∧ t'.get? path = some node := by
  induction path generalizing t t' with
  | nil => cases t <;> exact ⟨t', changed, rfl⟩
  | cons name path ih =>
    cases t with
    | none =>
      obtain ⟨child, deeper, rfl⟩ := Option.map_eq_some_iff.mp changed
      simpa [get?] using ih deeper
    | some t =>
      cases t with
      | file content => cases changed
      | directory entries =>
        obtain ⟨child, deeper, rfl⟩ := Option.map_eq_some_iff.mp changed
        simpa [get?, lookup_place] using ih deeper

theorem update?_append (change : Option FileTree → Option FileTree) (t : Option FileTree)
    (path more : List FileName) :
    update? change t (path ++ more) = update? (fun t => update? change t more) t path := by
  induction path generalizing t with
  | nil => cases t <;> rfl
  | cons name path ih =>
    cases t with
    | none => simp only [List.cons_append, update?, ih]
    | some t => cases t <;> simp only [List.cons_append, update?, ih]

theorem update?_of_get? (change : Option FileTree → Option FileTree) {t node node' : FileTree}
    {path : List FileName} (found : t.get? path = some node) (changes : change (some node) = some node') :
    ∃ t', update? change (some t) path = some t' ∧ t'.get? path = some node' := by
  induction path generalizing t with
  | nil =>
    obtain rfl : t = node := Option.some.inj found
    exact ⟨node', by rw [update?, changes], rfl⟩
  | cons name path ih =>
    cases t with
    | file content => cases found
    | directory entries =>
      obtain ⟨child, listed, deeper⟩ := Option.bind_eq_some_iff.mp found
      obtain ⟨child', changed, shown⟩ := ih deeper
      refine ⟨directory (place name child' entries), ?_, ?_⟩
      · rw [update?, listed, changed]
        rfl
      · rw [get?, lookup_place]
        exact shown

theorem exists_directory {t t' : FileTree} {path : List FileName} (made : t.makeDirectory? path = some t') :
    ∃ entries, t'.get? path = some (directory entries) ∧
      (t.get? path = some (directory entries) ∨ t.get? path = none ∧ entries = []) := by
  obtain ⟨node, changed, shown⟩ := get?_of_update? made
  rw [Option.bind_some] at changed
  split at changed
  next => cases changed
  next entries found =>
    cases changed
    exact ⟨entries, shown, .inl found⟩
  next missing =>
    cases changed
    exact ⟨[], shown, .inr ⟨missing, rfl⟩⟩

end AnomalyWatch.FileTree
