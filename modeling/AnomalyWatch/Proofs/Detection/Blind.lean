import AnomalyWatch.Proofs.Detection.Exploration
import AnomalyWatch.Proofs.Store.History

/-!
What does not depend on the store's own marks.

A store gives every row an id and a creation time. Look-ups, comparison and stamping see neither, so where the
rows of a function are the same but for these marks, its look-ups find the same and a function that does not read
them explores in the same way.
-/

set_option autoImplicit false
set_option relaxedAutoImplicit false

namespace AnomalyWatch

namespace Anomaly

def bare (a : Anomaly) : Anomaly :=
  { a with id := none, createdAt := none }

/-- The same records in the same order, but for ids and creation times. -/
def Alike (rows others : List Anomaly) : Prop :=
  rows.map bare = others.map bare

variable {rows others more moreOthers : List Anomaly}

theorem Alike.refl (rows : List Anomaly) : Alike rows rows := Eq.refl _

theorem Alike.symm (alike : Alike rows others) : Alike others rows := Eq.symm alike

theorem Alike.append (alike : Alike rows others) (further : Alike more moreOthers) :
    Alike (rows ++ more) (others ++ moreOthers) := by
  rw [Alike, List.map_append, List.map_append, alike, further]

theorem Alike.length_eq (alike : Alike rows others) : rows.length = others.length := by
  have lengths := congrArg List.length alike
  rwa [List.length_map, List.length_map] at lengths

theorem Alike.filter (alike : Alike rows others) {p : Anomaly → Bool} (unmarked : ∀ a, p a.bare = p a) :
    Alike (rows.filter p) (others.filter p) := by
  have chosen (rows : List Anomaly) : (rows.filter p).map bare = (rows.map bare).filter p := by
    rw [List.filter_map]
    exact congrArg (List.map bare) (List.filter_congr fun a _ => (unmarked a).symm)
  rw [Alike, chosen, chosen, alike]

private theorem Alike.isAmong_eq (alike : Alike rows others) (a : Anomaly) : a.isAmong rows = a.isAmong others := by
  have identities (rows : List Anomaly) : rows.map identity = (rows.map bare).map identity := by
    rw [List.map_map]
    rfl
  rw [Bool.eq_iff_iff, isAmong_iff, isAmong_iff, identities rows, identities others, alike]

end Anomaly

open Anomaly (Alike)

/-- An analysis does not read the ids and creation times of known anomalies. -/
def Detector.Blind (d : Detector) : Prop :=
  ∀ key series window known known', Alike known known' →
    d.analyze key series window known = d.analyze key series window known'

namespace Ledger

def rowsOf (l : Ledger) (functionId : Nat) : List Anomaly :=
  l.rows.filter fun a => a.functionId = some functionId

variable {l k : Ledger} {functionId : Nat}

private theorem find_eq_filter_rowsOf (l : Ledger) (q : Lookup) :
    l.find q = (l.rowsOf q.functionId).filter q.selects := by
  rw [find, rowsOf, List.filter_filter]
  refine List.filter_congr fun a _ => ?_
  cases selected : q.selects a with
  | false => rfl
  | true =>
    have named : a.functionId = some q.functionId := by
      simp only [Lookup.selects, Bool.and_eq_true, decide_eq_true_iff] at selected
      exact selected.1.1.2
    rw [decide_eq_true named]
    rfl

theorem alike_find {q : Lookup} (alike : Alike (l.rowsOf q.functionId) (k.rowsOf q.functionId)) :
    Alike (l.find q) (k.find q) := by
  rw [find_eq_filter_rowsOf, find_eq_filter_rowsOf]
  exact alike.filter fun _ => rfl

private theorem map_bare_prepare (l : Ledger) (now : Instant) (batch : List Anomaly) :
    (l.prepare now batch).map Anomaly.bare = batch.map Anomaly.bare := by
  have unmarked : Anomaly.bare ∘ (fun e : Anomaly × Nat => numbered now e.1 e.2) =
      Anomaly.bare ∘ Prod.fst := rfl
  rw [prepare, List.map_map, unmarked, ← List.map_map, List.zipIdx_map_fst]

private theorem rowsOf_publish (rows : List Anomaly) : (l.publish rows).rowsOf functionId =
    l.rowsOf functionId ++ rows.filter fun a => a.functionId = some functionId :=
  List.filter_append ..

theorem alike_publish_prepare (alike : Alike (l.rowsOf functionId) (k.rowsOf functionId))
    (now now' : Instant) (batch : List Anomaly) :
    Alike ((l.publish (l.prepare now batch)).rowsOf functionId)
      ((k.publish (k.prepare now' batch)).rowsOf functionId) := by
  have numbered : Alike (l.prepare now batch) (k.prepare now' batch) := by
    rw [Alike, map_bare_prepare, map_bare_prepare]
  rw [rowsOf_publish, rowsOf_publish]
  exact alike.append (numbered.filter fun _ => rfl)

theorem rowsOf_publish_prepare_of_other (now : Instant) {batch : List Anomaly}
    (other : ∀ a ∈ batch, a.functionId ≠ some functionId) :
    (l.publish (l.prepare now batch)).rowsOf functionId = l.rowsOf functionId := by
  have none : (l.prepare now batch).filter (fun a => a.functionId = some functionId) = [] := by
    refine List.filter_eq_nil_iff.mpr fun row entered => ?_
    obtain ⟨e, listed, rfl⟩ := List.mem_map.mp entered
    have apart := other e.1 (List.fst_mem_of_mem_zipIdx listed)
    have named : (numbered now e.1 e.2).functionId = e.1.functionId := rfl
    rwa [named, decide_eq_true_iff]
  rw [rowsOf_publish, none, List.append_nil]

end Ledger

namespace Exploration

variable {d : Detector} {window : Window} {known known' : List Anomaly}

theorem examine_congr (blind : d.Blind) (alike : Alike known known') :
    examine ⟨d, window, known⟩ = examine ⟨d, window, known'⟩ := by
  funext key series
  have judged : d.analyze key series window known = d.analyze key series window known' :=
    blind key series window known known' alike
  simp only [examine, judged]

theorem record_congr (alike : Alike known known') :
    record ⟨d, window, known⟩ = record ⟨d, window, known'⟩ := by
  have fresh : Exploration.isFresh ⟨d, window, known⟩ = Exploration.isFresh ⟨d, window, known'⟩ := by
    funext kept a
    rw [isFresh, isFresh, alike.isAmong_eq]
  funext o v
  cases v with
  | skipped _ _ => rfl
  | failed _ _ => rfl
  | analyzed _ found => simp only [record, Exploration.fresh, fresh]

end Exploration

end AnomalyWatch
