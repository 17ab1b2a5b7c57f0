import AnomalyWatch.Detection.Exploration
import AnomalyWatch.Store.Ledger
import Mathlib.Data.List.Nodup

/-!
What an exploration keeps.

Every kept anomaly was reported by some analysis and stamped with the spec, none is known, and the counters add
up. Nothing that an analysis reports is lost: it is known or it is kept. If each analysis by itself reports
different anomalies, the kept ones are different from each other.
-/

set_option autoImplicit false
set_option relaxedAutoImplicit false

namespace AnomalyWatch

namespace Anomaly

def Distinct (rows : List Anomaly) : Prop :=
  rows.Pairwise fun a b => a.same b = false

theorem same_iff {a b : Anomaly} : a.same b = true ↔ a.identity = b.identity := by
  simp [same]

theorem distinct_iff {rows : List Anomaly} : Distinct rows ↔ (rows.map identity).Nodup := by
  simp [Distinct, List.Nodup, List.pairwise_map, same]

theorem isAmong_iff {a : Anomaly} {rows : List Anomaly} :
    a.isAmong rows = true ↔ a.identity ∈ rows.map identity := by
  rw [isAmong, List.any_eq_true, List.mem_map]
  exact exists_congr fun b => and_congr_right fun _ => same_iff.trans eq_comm

theorem isAmong_eq_false_iff {a : Anomaly} {rows : List Anomaly} :
    a.isAmong rows = false ↔ a.identity ∉ rows.map identity := by
  rw [← isAmong_iff, Bool.not_eq_true]

theorem distinct_append {rows more : List Anomaly} :
    Distinct (rows ++ more) ↔ Distinct rows ∧ Distinct more ∧ ∀ a ∈ more, a.isAmong rows = false := by
  simp only [distinct_iff, List.map_append, List.nodup_append, isAmong_eq_false_iff]
  refine and_congr_right fun _ => and_congr_right fun _ => ⟨fun h a ha among => ?_, ?_⟩
  · exact h _ among _ (List.mem_map_of_mem ha) rfl
  · rintro h i hi _ hj rfl
    obtain ⟨a, ha, rfl⟩ := List.mem_map.mp hj
    exact h a ha hi

private theorem isAmong_mono {a : Anomaly} {rows more : List Anomaly} (sub : rows ⊆ more)
    (h : a.isAmong rows = true) : a.isAmong more = true := by
  rw [isAmong_iff] at h ⊢
  exact List.map_subset identity sub h

private theorem isAmong_of_mem {a : Anomaly} {rows : List Anomaly} (h : a ∈ rows) : a.isAmong rows = true :=
  isAmong_iff.mpr (List.mem_map_of_mem h)

end Anomaly

/-- Each analysis reports different anomalies, and all of them overlap the window as soon as buckets have a
length. -/
structure Detector.Faithful (d : Detector) : Prop where
  distinct : ∀ {key series window known found}, d.analyze key series window known = .ok found →
    Anomaly.Distinct (found.map (Anomaly.stamp d.spec))
  overlaps : ∀ {key series window known found}, d.spec.bucketSize ≠ 0 →
    d.analyze key series window known = .ok found →
    ∀ a ∈ found, a.start < window.stop ∧ window.start < a.stop

namespace Exploration

variable {x : Exploration}

/-- What holds at first and is kept by every way to account for something holds of the outcome. -/
theorem outcome_induction {motive : Outcome → Prop} (initial : motive .initial)
    (started : ∀ o, motive o → motive (begun o)) (failed : ∀ o, motive o → motive (refused o))
    (recorded : ∀ o key series, motive o → motive (x.record o (x.examine key series)))
    (replies : List (Except Error SeriesMap)) : motive (x.outcome replies) := by
  have visits (entries : List (DimensionKey × Series)) (o : Outcome) (h : motive o) :
      motive ((entries.map fun e => x.examine e.1 e.2).foldl x.record o) := by
    induction entries generalizing o with
    | nil => exact h
    | cons e rest ih => exact ih _ (recorded o e.1 e.2 h)
  have absorbed (reply : Except Error SeriesMap) (o : Outcome) (h : motive o) :
      motive (x.absorb o reply) := by
    cases reply with
    | error _ => exact failed _ (started o h)
    | ok m => exact visits m.entries _ (started o h)
  have all (o : Outcome) (h : motive o) : motive (replies.foldl x.absorb o) := by
    induction replies generalizing o with
    | nil => exact h
    | cons reply rest ih => exact ih _ (absorbed reply o h)
  exact all _ initial

theorem length_fresh_le (kept found : List Anomaly) : (x.fresh kept found).length ≤ found.length := by
  simpa [fresh] using List.length_filter_le (x.isFresh kept) (found.map (Anomaly.stamp x.detector.spec))

theorem found_eq_known_add_kept (replies : List (Except Error SeriesMap)) :
    (x.outcome replies).tally.anomaliesFound =
      (x.outcome replies).tally.anomaliesKnown + (x.outcome replies).results.length := by
  refine outcome_induction (motive := fun o =>
    o.tally.anomaliesFound = o.tally.anomaliesKnown + o.results.length) rfl (fun _ h => h)
    (fun _ h => h) (fun o key series h => ?_) replies
  cases x.examine key series with
  | skipped _ _ => exact h
  | failed _ _ => exact h
  | analyzed _ found =>
    have fewer := x.length_fresh_le o.results found
    simp only [record, List.length_append]
    omega

private theorem mem_fresh {kept found : List Anomaly} {a : Anomaly} :
    a ∈ x.fresh kept found ↔ (∃ b ∈ found, b.stamp x.detector.spec = a) ∧
      a.isAmong x.known = false ∧ a.isAmong kept = false := by
  simp [fresh, isFresh]

theorem reported_of_mem_results {replies : List (Except Error SeriesMap)} {a : Anomaly}
    (h : a ∈ (x.outcome replies).results) :
    a.isAmong x.known = false ∧ ∃ key series found,
      x.detector.analyze key series x.window x.known = .ok found ∧
      ∃ b ∈ found, b.stamp x.detector.spec = a := by
  refine outcome_induction (x := x) (motive := fun o => ∀ a ∈ o.results,
    a.isAmong x.known = false ∧ ∃ key series found,
      x.detector.analyze key series x.window x.known = .ok found ∧
      ∃ b ∈ found, b.stamp x.detector.spec = a) (by simp [Outcome.initial]) (fun _ h => h)
    (fun _ h => h) (fun o key series h => ?_) replies a h
  unfold examine
  split
  · exact h
  · split
    next found analyzed =>
      intro a ha
      rcases List.mem_append.mp ha with ha | ha
      · exact h a ha
      · obtain ⟨reported, unknown, _⟩ := mem_fresh.mp ha
        exact ⟨unknown, key, series, found, analyzed, reported⟩
    next => exact h

/-- A look-up over the window of an exploration misses no stored row that describes what is kept. -/
theorem isAmong_rows_of_mem_results (faithful : x.detector.Faithful)
    (positive : x.detector.spec.bucketSize ≠ 0) {l : Ledger} (looked : x.known =
      l.find ⟨x.detector.spec.collection, x.window.start, x.window.stop, x.detector.spec.id⟩)
    {replies : List (Except Error SeriesMap)} {a : Anomaly} (kept : a ∈ (x.outcome replies).results) :
    a.isAmong l.rows = false := by
  obtain ⟨unknown, key, series, found, analyzed, b, reported, rfl⟩ := reported_of_mem_results kept
  obtain ⟨begins, ends⟩ := faithful.overlaps positive analyzed b reported
  refine Anomaly.isAmong_eq_false_iff.mpr fun stored => ?_
  obtain ⟨row, present, equal⟩ := List.mem_map.mp stored
  have selected : row ∈ x.known := by
    simp only [Anomaly.identity, Anomaly.stamp, Anomaly.Identity.mk.injEq] at equal
    obtain ⟨collection, _, start, stop, function⟩ := equal
    rw [looked, Ledger.find, List.mem_filter]
    refine ⟨present, ?_⟩
    simp [Lookup.selects, collection, start, stop, function, begins, ends]
  rw [Anomaly.isAmong_eq_false_iff, ← equal] at unknown
  exact unknown (List.mem_map_of_mem selected)

theorem distinct_results (faithful : x.detector.Faithful) (replies : List (Except Error SeriesMap)) :
    Anomaly.Distinct (x.outcome replies).results := by
  refine outcome_induction (x := x) (motive := fun o => Anomaly.Distinct o.results) .nil (fun _ h => h)
    (fun _ h => h) (fun o key series h => ?_) replies
  unfold examine
  split
  · exact h
  · split
    next found analyzed =>
      refine Anomaly.distinct_append.mpr ⟨h, ?_, fun a ha => (mem_fresh.mp ha).2.2⟩
      exact (faithful.distinct analyzed).filter _
    next => exact h

private theorem results_subset_record (o : Outcome) (v : Visit) : o.results ⊆ (x.record o v).results := by
  cases v with
  | skipped _ _ => exact List.Subset.refl _
  | failed _ _ => exact List.Subset.refl _
  | analyzed _ found => exact List.subset_append_left _ _

private theorem results_subset_visits (visits : List Visit) (o : Outcome) :
    o.results ⊆ (visits.foldl x.record o).results := by
  induction visits generalizing o with
  | nil => exact List.Subset.refl _
  | cons v rest ih => exact List.Subset.trans (x.results_subset_record o v) (ih _)

private theorem results_subset_absorb (o : Outcome) (reply : Except Error SeriesMap) :
    o.results ⊆ (x.absorb o reply).results := by
  cases reply with
  | error _ => exact List.Subset.refl _
  | ok m => exact results_subset_visits _ (begun o)

private theorem results_subset_replies (replies : List (Except Error SeriesMap)) (o : Outcome) :
    o.results ⊆ (replies.foldl x.absorb o).results := by
  induction replies generalizing o with
  | nil => exact List.Subset.refl _
  | cons reply rest ih => exact List.Subset.trans (x.results_subset_absorb o reply) (ih _)

theorem known_or_kept {replies : List (Except Error SeriesMap)} {reply : SeriesMap} {key : DimensionKey}
    {series : Series} {found : List Anomaly} {b : Anomaly} (answered : .ok reply ∈ replies)
    (entry : (key, series) ∈ reply.entries) (enough : leastBuckets ≤ series.size)
    (analyzed : x.detector.analyze key series x.window x.known = .ok found) (reported : b ∈ found) :
    (b.stamp x.detector.spec).isAmong x.known = true ∨
      (b.stamp x.detector.spec).isAmong (x.outcome replies).results = true := by
  obtain ⟨before, after, rfl⟩ := List.append_of_mem answered
  obtain ⟨first, last, entries⟩ := List.append_of_mem entry
  have visited : x.examine key series = .analyzed key found := by
    simp [examine, Nat.not_lt.mpr enough, analyzed]
  by_cases known : (b.stamp x.detector.spec).isAmong x.known = true
  · exact .inl known
  refine .inr ?_
  simp only [outcome, List.foldl_append, List.foldl_cons]
  refine Anomaly.isAmong_mono (x.results_subset_replies after _) ?_
  simp only [absorb, entries, List.map_append, List.map_cons, List.foldl_append, List.foldl_cons, visited]
  refine Anomaly.isAmong_mono (x.results_subset_visits _ _) ?_
  generalize (first.map fun e => x.examine e.1 e.2).foldl x.record _ = o
  by_cases kept : (b.stamp x.detector.spec).isAmong o.results = true
  · exact Anomaly.isAmong_mono (x.results_subset_record o _) kept
  · refine Anomaly.isAmong_of_mem (List.mem_append_right _ (mem_fresh.mpr ⟨⟨b, reported, rfl⟩, ?_, ?_⟩))
    · simpa using known
    · simpa using kept

end Exploration

end AnomalyWatch
