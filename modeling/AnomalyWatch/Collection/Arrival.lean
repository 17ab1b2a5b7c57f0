/-!
Finite maps kept in the order in which their keys arrived.

Storing under a key that is present replaces its value and leaves the key in its place. A map carries the
proof that no key is there twice.
-/

set_option autoImplicit false
set_option relaxedAutoImplicit false

namespace AnomalyWatch

/-- A map whose entries stand in the order in which their keys were first stored. -/
structure ArrivalMap (κ ν : Type) where
  entries : List (κ × ν)
  distinct : (entries.map Prod.fst).Nodup

namespace ArrivalMap

variable {κ ν : Type}

/-- The map without entries. -/
def empty : ArrivalMap κ ν := ⟨[], .nil⟩

instance : EmptyCollection (ArrivalMap κ ν) := ⟨empty⟩

instance : Inhabited (ArrivalMap κ ν) := ⟨empty⟩

/-- The keys in order of arrival. -/
def keys (m : ArrivalMap κ ν) : List κ := m.entries.map Prod.fst

variable [DecidableEq κ]

private def storeEntry (k : κ) (v : ν) : List (κ × ν) → List (κ × ν)
  | [] => [(k, v)]
  | e :: rest => if e.1 = k then (k, v) :: rest else e :: storeEntry k v rest

private theorem keys_storeEntry (k : κ) (v : ν) (l : List (κ × ν)) :
    (storeEntry k v l).map Prod.fst =
      if k ∈ l.map Prod.fst then l.map Prod.fst else l.map Prod.fst ++ [k] := by
  induction l with
  | nil => rfl
  | cons e rest ih =>
    by_cases h : e.1 = k
    · simp [storeEntry, h]
    · have other : k ≠ e.1 := fun equal => h equal.symm
      simp only [storeEntry, h, if_false, List.map_cons, ih, List.mem_cons, other, false_or]
      split <;> rfl

private theorem nodup_storeEntry (k : κ) (v : ν) {l : List (κ × ν)}
    (h : (l.map Prod.fst).Nodup) : ((storeEntry k v l).map Prod.fst).Nodup := by
  rw [keys_storeEntry]
  split
  next => exact h
  next absent =>
    refine List.nodup_append.mpr ⟨h, by simp, fun a ha b hb equal => absent ?_⟩
    rw [← List.mem_singleton.mp hb, ← equal]
    exact ha

/-- Store a value; a key that is present keeps its place. -/
def insert (m : ArrivalMap κ ν) (k : κ) (v : ν) : ArrivalMap κ ν :=
  ⟨storeEntry k v m.entries, nodup_storeEntry k v m.distinct⟩

def get? (m : ArrivalMap κ ν) (k : κ) : Option ν :=
  (m.entries.find? fun e => e.1 = k).map Prod.snd

theorem keys_insert {m : ArrivalMap κ ν} {k : κ} {v : ν} :
    (m.insert k v).keys = if k ∈ m.keys then m.keys else m.keys ++ [k] :=
  keys_storeEntry k v m.entries

private theorem find?_storeEntry {k k' : κ} {v : ν} {l : List (κ × ν)} :
    (storeEntry k v l).find? (fun e => e.1 = k') = if k = k' then some (k, v) else l.find? fun e => e.1 = k' := by
  induction l with
  | nil => by_cases here : k = k' <;> simp [storeEntry, here]
  | cons e rest ih =>
    by_cases present : e.1 = k
    · by_cases here : k = k'
      · simp [storeEntry, present, here]
      · have other : e.1 ≠ k' := present ▸ here
        simp [storeEntry, present, here]
    · rw [storeEntry, if_neg present, List.find?_cons, List.find?_cons, ih]
      by_cases here : k = k'
      · have other : e.1 ≠ k' := here ▸ present
        simp [here, other]
      · simp only [if_neg here]

theorem get?_insert {m : ArrivalMap κ ν} {k k' : κ} {v : ν} :
    (m.insert k v).get? k' = if k = k' then some v else m.get? k' := by
  rw [get?, insert, find?_storeEntry]
  split <;> rfl

/-- Store entries in turn. -/
def ofList (es : List (κ × ν)) : ArrivalMap κ ν :=
  es.foldl (fun m e => m.insert e.1 e.2) empty

end ArrivalMap

end AnomalyWatch
