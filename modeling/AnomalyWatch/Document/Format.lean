import AnomalyWatch.Collection.Sorted

/-!
Reading records from documents.

A `Format` says what a node of some document notation can be read as. Records are then read alike from
every notation: by name from a mapping, where a known name may stand only once and unknown names are
passed over, or by position from a sequence, which may end early.
-/

set_option autoImplicit false
set_option relaxedAutoImplicit false

namespace AnomalyWatch

/-- What the nodes of a document notation can be read as. -/
structure Format (ν : Type) where
  /-- An unsigned 64-bit word. -/
  word? : ν → Option Nat
  text? : ν → Option String
  /-- A name out of a fixed set. -/
  choice? : ν → Option String
  flag? : ν → Option Bool
  /-- Whether the node stands for an absent value; none where it contradicts itself. -/
  absent? : ν → Option Bool
  /-- The entries of a mapping in document order. -/
  entries? : ν → Option (List (String × ν))
  /-- The items of a sequence. -/
  items? : ν → Option (List ν)

namespace Format

variable {ν : Type}

def occurrences (name : String) (entries : List (String × ν)) : Nat :=
  (entries.filter fun e => e.1 = name).length

/-- The fields of a record, by name. -/
def record? (f : Format ν) (names : List String) (v : ν) : Option (String → Option ν) :=
  match f.entries? v with
  | some entries =>
    if names.all fun name => occurrences name entries ≤ 1 then
      some fun name => entries.lookup name
    else none
  | none =>
    match f.items? v with
    | some items =>
      if items.length ≤ names.length then some fun name => (names.zip items).lookup name else none
    | none => none

/-- A field that may be missing or absent. -/
def optional? {α : Type} (f : Format ν) (read : ν → Option α) : Option ν → Option (Option α)
  | none => some none
  | some v => (f.absent? v).bind fun absent => if absent then some none else (read v).map some

/-- A field that has a default when it is missing. -/
def default? {α : Type} (default : α) (read : ν → Option α) : Option ν → Option α
  | none => some default
  | some v => read v

/-- A mapping of names to texts; of two entries with one name the later counts. -/
def textMap? (f : Format ν) (v : ν) : Option (SortedMap String String) := do
  let entries ← f.entries? v
  let texts ← entries.mapM fun e => (f.text? e.2).map fun t => (e.1, t)
  return SortedMap.ofList texts

end Format

end AnomalyWatch
