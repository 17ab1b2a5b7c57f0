/-!
Finite maps kept in ascending order of their keys.

Storing under a key that is present replaces its value; a look-up, an erasure and the list of entries do
what their names say. A map carries the proof that its keys ascend, so no key is there twice.
-/

set_option autoImplicit false
set_option relaxedAutoImplicit false

namespace AnomalyWatch

/-- A map whose entries stand in ascending order of their keys. -/
structure SortedMap (κ ν : Type) [Ord κ] where
  entries : List (κ × ν)
  ascending : entries.Pairwise fun a b => compare a.1 b.1 = .lt

namespace SortedMap

variable {κ ν : Type} [Ord κ]

/-- The map without entries. -/
def empty : SortedMap κ ν := ⟨[], .nil⟩

instance : EmptyCollection (SortedMap κ ν) := ⟨empty⟩

instance : Inhabited (SortedMap κ ν) := ⟨empty⟩

instance [DecidableEq κ] [DecidableEq ν] : DecidableEq (SortedMap κ ν) := fun a b =>
  decidable_of_iff (a.entries = b.entries) (by cases a; cases b; simp)

def size (m : SortedMap κ ν) : Nat := m.entries.length

/-- The keys, ascending. -/
def keys (m : SortedMap κ ν) : List κ := m.entries.map Prod.fst

/-- The values, in ascending order of their keys. -/
def values (m : SortedMap κ ν) : List ν := m.entries.map Prod.snd

private def insertEntry (k : κ) (v : ν) : List (κ × ν) → List (κ × ν)
  | [] => [(k, v)]
  | (k', v') :: rest =>
    match compare k k' with
    | .lt => (k, v) :: (k', v') :: rest
    | .eq => (k, v) :: rest
    | .gt => (k', v') :: insertEntry k v rest

private theorem mem_insertEntry {k : κ} {v : ν} {e : κ × ν} {l : List (κ × ν)}
    (h : e ∈ insertEntry k v l) : e = (k, v) ∨ e ∈ l := by
  induction l with
  | nil => simpa [insertEntry] using h
  | cons x rest ih =>
    obtain ⟨k', v'⟩ := x
    simp only [insertEntry] at h
    split at h
    · simpa using h
    · simp only [List.mem_cons] at h ⊢
      rcases h with h | h
      · exact .inl h
      · exact .inr (.inr h)
    · simp only [List.mem_cons] at h ⊢
      rcases h with h | h
      · exact .inr (.inl h)
      · exact (ih h).imp id .inr

private theorem ascending_insertEntry [Std.TransOrd κ] (k : κ) (v : ν) {l : List (κ × ν)}
    (h : l.Pairwise fun a b => compare a.1 b.1 = .lt) :
    (insertEntry k v l).Pairwise fun a b => compare a.1 b.1 = .lt := by
  induction l with
  | nil => exact .cons (by simp) .nil
  | cons x rest ih =>
    obtain ⟨k', v'⟩ := x
    obtain ⟨least, ascending⟩ := List.pairwise_cons.mp h
    simp only [insertEntry]
    split
    next below =>
      refine .cons (fun e he => ?_) h
      rcases List.mem_cons.mp he with rfl | he
      · exact below
      · exact Std.TransCmp.lt_trans below (least e he)
    next equal => exact .cons (fun e he => Std.TransCmp.lt_of_eq_of_lt equal (least e he)) ascending
    next above =>
      refine .cons (fun e he => ?_) (ih ascending)
      rcases mem_insertEntry he with rfl | he
      · exact Std.OrientedCmp.gt_iff_lt.mp above
      · exact least e he

/-- Store a value under a key, replacing the value that was there. -/
def insert [Std.TransOrd κ] (m : SortedMap κ ν) (k : κ) (v : ν) : SortedMap κ ν :=
  ⟨insertEntry k v m.entries, ascending_insertEntry k v m.ascending⟩

def get? (m : SortedMap κ ν) (k : κ) : Option ν :=
  (m.entries.find? fun e => compare e.1 k == .eq).map Prod.snd

/-- A value is stored under the key. -/
def contains (m : SortedMap κ ν) (k : κ) : Bool :=
  (m.get? k).isSome

def erase (m : SortedMap κ ν) (k : κ) : SortedMap κ ν :=
  ⟨m.entries.filter fun e => compare e.1 k != .eq, m.ascending.filter _⟩

/-- The same keys, each with what the function makes of its value. -/
def mapValues {μ : Type} (f : ν → μ) (m : SortedMap κ ν) : SortedMap κ μ :=
  ⟨m.entries.map fun e => (e.1, f e.2), List.pairwise_map.mpr m.ascending⟩

/-- Store entries in turn; of two with one key the later stays. -/
def ofList [Std.TransOrd κ] (es : List (κ × ν)) : SortedMap κ ν :=
  es.foldl (fun m e => m.insert e.1 e.2) empty

theorem nodup_keys [Std.TransOrd κ] (m : SortedMap κ ν) : m.keys.Nodup := by
  refine List.pairwise_map.mpr (m.ascending.imp fun {a b} below equal => ?_)
  have same : compare b.1 b.1 = .eq := Std.ReflCmp.compare_self
  rw [equal, same] at below
  cases below

section Lookup

variable {m : SortedMap κ ν} {k k' : κ} {v : ν} {e : κ × ν}

theorem mem_entries_insert [Std.TransOrd κ] (h : e ∈ (m.insert k v).entries) :
    e = (k, v) ∨ e ∈ m.entries :=
  mem_insertEntry h

theorem mem_entries_of_get?_eq_some [Std.LawfulEqOrd κ] (h : m.get? k = some v) :
    (k, v) ∈ m.entries := by
  obtain ⟨e, found, rfl⟩ := Option.map_eq_some_iff.mp h
  have same : e.1 = k := by simpa using List.find?_some found
  exact same ▸ List.mem_of_find?_eq_some found

theorem contains_iff_mem_keys [Std.LawfulEqOrd κ] : m.contains k = true ↔ k ∈ m.keys := by
  simp only [contains, get?, keys, Option.isSome_map, List.find?_isSome, List.mem_map, beq_iff_eq,
    Std.LawfulEqOrd.compare_eq_iff_eq]

theorem get?_eq_none_iff [Std.LawfulEqOrd κ] : m.get? k = none ↔ k ∉ m.keys := by
  rw [← contains_iff_mem_keys, contains]
  simp

theorem mem_keys_iff_get? [Std.LawfulEqOrd κ] : k ∈ m.keys ↔ ∃ v, m.get? k = some v := by
  rw [← contains_iff_mem_keys, contains, Option.isSome_iff_exists]

theorem mem_entries_erase [Std.LawfulEqOrd κ] : e ∈ (m.erase k).entries ↔ e ∈ m.entries ∧ e.1 ≠ k := by
  simp [erase]

theorem mem_keys_erase [Std.LawfulEqOrd κ] : k' ∈ (m.erase k).keys ↔ k' ∈ m.keys ∧ k' ≠ k := by
  simp only [keys, List.mem_map, mem_entries_erase]
  constructor
  · rintro ⟨e, ⟨present, other⟩, rfl⟩
    exact ⟨⟨e, present, rfl⟩, other⟩
  · rintro ⟨⟨e, present, rfl⟩, other⟩
    exact ⟨e, ⟨present, other⟩, rfl⟩

theorem get?_erase [DecidableEq κ] [Std.LawfulEqOrd κ] :
    (m.erase k).get? k' = if k = k' then none else m.get? k' := by
  have kept (e : κ × ν) : decide ((compare e.1 k != .eq) = true ∧ (compare e.1 k' == .eq) = true) =
      if k = k' then false else compare e.1 k' == .eq := by
    split
    next same => simp [same]
    next other =>
      by_cases here : e.1 = k'
      · have apart : ¬ k' = k := fun same => other same.symm
        simp [here, apart]
      · simp [here]
  simp only [get?, erase, List.find?_filter, kept]
  split
  next => simp
  next => rfl

private theorem mem_keys_insertEntry [Std.LawfulEqOrd κ] {l : List (κ × ν)} :
    k' ∈ (insertEntry k v l).map Prod.fst ↔ k' = k ∨ k' ∈ l.map Prod.fst := by
  induction l with
  | nil => simp [insertEntry]
  | cons x rest ih =>
    simp only [insertEntry]
    split
    next => simp
    next equal =>
      obtain rfl : k = x.1 := Std.LawfulEqOrd.eq_of_compare equal
      simp
    next => simp only [List.map_cons, List.mem_cons, ih, or_left_comm]

theorem mem_keys_insert [Std.TransOrd κ] [Std.LawfulEqOrd κ] :
    k' ∈ (m.insert k v).keys ↔ k' = k ∨ k' ∈ m.keys :=
  mem_keys_insertEntry

private theorem find?_insertEntry [DecidableEq κ] [Std.TransOrd κ] [Std.LawfulEqOrd κ] {l : List (κ × ν)} :
    (insertEntry k v l).find? (fun e => compare e.1 k' == .eq) =
      if k = k' then some (k, v) else l.find? fun e => compare e.1 k' == .eq := by
  have decides (j : κ) : (compare j k' == .eq) = decide (j = k') := by
    rw [Bool.eq_iff_iff, beq_iff_eq, Std.LawfulEqOrd.compare_eq_iff_eq, decide_eq_true_iff]
  simp only [decides]
  induction l with
  | nil => by_cases here : k = k' <;> simp [insertEntry, here]
  | cons x rest ih =>
    simp only [insertEntry]
    split
    next => by_cases here : k = k' <;> simp [here]
    next equal =>
      obtain rfl : k = x.1 := Std.LawfulEqOrd.eq_of_compare equal
      by_cases here : x.1 = k' <;> simp [here]
    next above =>
      by_cases here : k = k'
      · subst here
        have other : x.1 ≠ k := by
          rintro rfl
          have equal : compare x.1 x.1 = .eq := Std.ReflCmp.compare_self
          rw [equal] at above
          cases above
        rw [List.find?_cons_of_neg (by simpa using other), ih, if_pos rfl, if_pos rfl]
      · rw [List.find?_cons, List.find?_cons, ih, if_neg here, if_neg here]

theorem get?_insert [DecidableEq κ] [Std.TransOrd κ] [Std.LawfulEqOrd κ] :
    (m.insert k v).get? k' = if k = k' then some v else m.get? k' := by
  rw [get?, insert, find?_insertEntry]
  split <;> rfl

theorem get?_mapValues {μ : Type} (f : ν → μ) : (m.mapValues f).get? k = (m.get? k).map f := by
  rw [get?, get?, mapValues, List.find?_map, Option.map_map, Option.map_map]
  rfl

end Lookup

/-- An entry behind all others is stored at the end. -/
private theorem insertEntry_of_greatest [Std.OrientedOrd κ] {k : κ} {v : ν} {l : List (κ × ν)}
    (greatest : ∀ e ∈ l, compare e.1 k = .lt) : insertEntry k v l = l ++ [(k, v)] := by
  induction l with
  | nil => rfl
  | cons x rest ih =>
    have above : compare k x.1 = .gt := Std.OrientedCmp.gt_iff_lt.mpr (greatest x (by simp))
    simp only [insertEntry, above, List.cons_append]
    rw [ih fun e present => greatest e (.tail _ present)]

private theorem entries_foldl_insert [Std.TransOrd κ] (es : List (κ × ν)) (m : SortedMap κ ν)
    (ascending : (m.entries ++ es).Pairwise fun a b => compare a.1 b.1 = .lt) :
    (es.foldl (fun m e => m.insert e.1 e.2) m).entries = m.entries ++ es := by
  induction es generalizing m with
  | nil => simp
  | cons e es ih =>
    have greatest : ∀ d ∈ m.entries, compare d.1 e.1 = .lt := fun d present =>
      (List.pairwise_append.mp ascending).2.2 d present e (by simp)
    have stored : (m.insert e.1 e.2).entries = m.entries ++ [e] := insertEntry_of_greatest greatest
    rw [List.foldl_cons, ih (m.insert e.1 e.2) (by simpa [stored] using ascending), stored]
    simp

/-- Storing the entries of a map in their order makes the map. -/
theorem ofList_entries [Std.TransOrd κ] (m : SortedMap κ ν) : ofList m.entries = m := by
  have entries : (ofList m.entries).entries = m.entries :=
    entries_foldl_insert m.entries empty m.ascending
  cases made : ofList m.entries
  cases m
  simp_all

end SortedMap

end AnomalyWatch
