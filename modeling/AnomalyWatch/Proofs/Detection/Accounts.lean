import AnomalyWatch.Proofs.Detection.Exploration

/-!
What the counters of an exploration count.

Each reply is one request and each key of a reply one visit, which is a skip, an analysis or a failure. Every
counter but that of known anomalies is a count over the replies and the visits alone (`Tally.Grows`), whatever is
known or kept.
-/

set_option autoImplicit false
set_option relaxedAutoImplicit false

namespace AnomalyWatch

namespace Visit

def isSkipped : Visit → Bool
  | skipped _ _ => true
  | analyzed _ _ | failed _ _ => false

def isAnalyzed : Visit → Bool
  | analyzed _ _ => true
  | skipped _ _ | failed _ _ => false

def isFailed : Visit → Bool
  | failed _ _ => true
  | skipped _ _ | analyzed _ _ => false

def analysis? : Visit → Option (DimensionKey × Except Error (List Anomaly))
  | skipped _ _ => none
  | analyzed key found => some (key, .ok found)
  | failed key cause => some (key, .error cause)

def found : Visit → List Anomaly
  | analyzed _ found => found
  | skipped _ _ | failed _ _ => []

theorem countP_kinds (visits : List Visit) :
    visits.countP isSkipped + visits.countP isAnalyzed + visits.countP isFailed = visits.length := by
  induction visits with
  | nil => rfl
  | cons v rest ih =>
    have one : (if v.isSkipped then 1 else 0) + (if v.isAnalyzed then 1 else 0) +
        (if v.isFailed then 1 else 0) = 1 := by
      cases v <;> rfl
    rw [List.countP_cons, List.countP_cons, List.countP_cons, List.length_cons]
    omega

theorem countP_isAnalyzed (visits : List Visit) :
    visits.countP isAnalyzed = (visits.filterMap analysis?).countP (·.2.isOk) := by
  rw [List.countP_filterMap]
  refine List.countP_congr fun v _ => ?_
  cases v <;> exact Iff.rfl

theorem countP_isFailed (visits : List Visit) :
    visits.countP isFailed = (visits.filterMap analysis?).countP (!·.2.isOk) := by
  rw [List.countP_filterMap]
  refine List.countP_congr fun v _ => ?_
  cases v <;> exact Iff.rfl

end Visit

/-- The counters go from one tally to another over these replies and visits. -/
structure Tally.Grows (t t' : Tally) (replies : List (Except Error SeriesMap)) (visits : List Visit) :
    Prop where
  processed : t'.requestsProcessed = t.requestsProcessed + replies.length
  refused : t'.requestsFailed = t.requestsFailed + replies.countP (!·.isOk)
  analyzed : t'.keysAnalyzed = t.keysAnalyzed + visits.countP Visit.isAnalyzed
  skipped : t'.keysSkipped = t.keysSkipped + visits.countP Visit.isSkipped
  failed : t'.keysFailed = t.keysFailed + visits.countP Visit.isFailed
  found : t'.anomaliesFound = t.anomaliesFound + (visits.flatMap Visit.found).length

namespace Tally.Grows

variable {t t' t'' : Tally} {replies replies' : List (Except Error SeriesMap)} {visits visits' : List Visit}

theorem refl (t : Tally) : Grows t t [] [] := ⟨rfl, rfl, rfl, rfl, rfl, rfl⟩

theorem trans (first : Grows t t' replies visits) (second : Grows t' t'' replies' visits') :
    Grows t t'' (replies ++ replies') (visits ++ visits') where
  processed := by rw [second.processed, first.processed, List.length_append, Nat.add_assoc]
  refused := by rw [second.refused, first.refused, List.countP_append, Nat.add_assoc]
  analyzed := by rw [second.analyzed, first.analyzed, List.countP_append, Nat.add_assoc]
  skipped := by rw [second.skipped, first.skipped, List.countP_append, Nat.add_assoc]
  failed := by rw [second.failed, first.failed, List.countP_append, Nat.add_assoc]
  found := by rw [second.found, first.found, List.flatMap_append, List.length_append, Nat.add_assoc]

end Tally.Grows

namespace Exploration

variable {x : Exploration}

def keysOf : Except Error SeriesMap → List (DimensionKey × Series)
  | .error _ => []
  | .ok reply => reply.entries

/-- The keys of all replies in their order. -/
def returned (replies : List (Except Error SeriesMap)) : List (DimensionKey × Series) :=
  replies.flatMap keysOf

def visits (x : Exploration) (replies : List (Except Error SeriesMap)) : List Visit :=
  (returned replies).map fun e => x.examine e.1 e.2

theorem visits_append (replies more : List (Except Error SeriesMap)) :
    x.visits (replies ++ more) = x.visits replies ++ x.visits more := by
  rw [visits, returned, List.flatMap_append, List.map_append]
  rfl

theorem visits_singleton (reply : Except Error SeriesMap) :
    x.visits [reply] = (keysOf reply).map fun e => x.examine e.1 e.2 := by
  rw [visits, returned, List.flatMap_singleton]

private theorem grows_record (o : Outcome) (v : Visit) : o.tally.Grows (x.record o v).tally [] [v] := by
  cases v with
  | skipped _ _ => exact ⟨rfl, rfl, rfl, rfl, rfl, rfl⟩
  | failed _ _ => exact ⟨rfl, rfl, rfl, rfl, rfl, rfl⟩
  | analyzed key found =>
    have all : ([.analyzed key found] : List Visit).flatMap Visit.found = found := List.append_nil found
    exact ⟨rfl, rfl, rfl, rfl, rfl, by rw [all]; rfl⟩

private theorem grows_foldl_record (vs : List Visit) (o : Outcome) :
    o.tally.Grows (vs.foldl x.record o).tally [] vs := by
  induction vs generalizing o with
  | nil => exact .refl _
  | cons v rest ih => exact (x.grows_record o v).trans (ih _)

private theorem grows_absorb (o : Outcome) (reply : Except Error SeriesMap) :
    o.tally.Grows (x.absorb o reply).tally [reply] (x.visits [reply]) := by
  cases reply with
  | error _ => exact ⟨rfl, rfl, rfl, rfl, rfl, rfl⟩
  | ok m =>
    have asked : o.tally.Grows (begun o).tally [.ok m] [] := ⟨rfl, rfl, rfl, rfl, rfl, rfl⟩
    rw [visits_singleton]
    exact asked.trans (x.grows_foldl_record _ _)

theorem grows_foldl_absorb (replies : List (Except Error SeriesMap)) (o : Outcome) :
    o.tally.Grows (replies.foldl x.absorb o).tally replies (x.visits replies) := by
  induction replies generalizing o with
  | nil => exact .refl _
  | cons reply rest ih =>
    have split : x.visits (reply :: rest) = x.visits [reply] ++ x.visits rest := visits_append [reply] rest
    rw [split]
    exact (x.grows_absorb o reply).trans (ih _)

private theorem isSkipped_examine (key : DimensionKey) (series : Series) :
    (x.examine key series).isSkipped = decide (series.size < leastBuckets) := by
  unfold examine
  split
  next short => exact (decide_eq_true short).symm
  next enough =>
    rw [decide_eq_false enough]
    split <;> rfl

theorem countP_isSkipped_visits (replies : List (Except Error SeriesMap)) :
    (x.visits replies).countP Visit.isSkipped =
      (returned replies).countP fun e => e.2.size < leastBuckets := by
  rw [visits, List.countP_map]
  exact List.countP_congr fun e _ => by rw [Function.comp_apply, isSkipped_examine]

private theorem analysis?_examine (key : DimensionKey) (series : Series) :
    (x.examine key series).analysis? = if leastBuckets ≤ series.size then
      some (key, x.detector.analyze key series x.window x.known) else none := by
  unfold examine
  by_cases short : series.size < leastBuckets
  · rw [if_pos short, if_neg (Nat.not_le.mpr short)]
    rfl
  · rw [if_neg short, if_pos (Nat.not_lt.mp short)]
    split
    next analyzed => rw [analyzed]; rfl
    next failed => rw [failed]; rfl

theorem filterMap_analysis?_visits (replies : List (Except Error SeriesMap)) :
    (x.visits replies).filterMap Visit.analysis? =
      ((returned replies).filter fun e => leastBuckets ≤ e.2.size).map fun e =>
        (e.1, x.detector.analyze e.1 e.2 x.window x.known) := by
  rw [visits, List.filterMap_map]
  induction returned replies with
  | nil => rfl
  | cons e rest ih =>
    by_cases enough : leastBuckets ≤ e.2.size
    · have made : (Visit.analysis? ∘ fun e => x.examine e.1 e.2) e =
          some (e.1, x.detector.analyze e.1 e.2 x.window x.known) := by
        rw [Function.comp_apply, analysis?_examine, if_pos enough]
      rw [List.filterMap_cons_some made, List.filter_cons_of_pos (by simpa using enough), List.map_cons, ih]
    · have unmade : (Visit.analysis? ∘ fun e => x.examine e.1 e.2) e = none := by
        rw [Function.comp_apply, analysis?_examine, if_neg enough]
      rw [List.filterMap_cons_none unmade, List.filter_cons_of_neg (by simpa using enough), ih]

/-- A detector is not asked about series with too few buckets. -/
theorem examine_congr_of_enough {d : Detector} (agree : ∀ key series, leastBuckets ≤ series.size →
    d.analyze key series x.window x.known = x.detector.analyze key series x.window x.known) :
    examine { x with detector := d } = x.examine := by
  funext key series
  unfold examine
  by_cases short : series.size < leastBuckets
  · rw [if_pos short, if_pos short]
  · rw [if_neg short, if_neg short, agree key series (Nat.not_lt.mp short)]

theorem record_congr_of_stamp {x' : Exploration}
    (stamps : Anomaly.stamp x.detector.spec = Anomaly.stamp x'.detector.spec) (known : x.known = x'.known) :
    x.record = x'.record := by
  have fresh : x.fresh = x'.fresh := by
    funext kept found
    have same : x.isFresh kept = x'.isFresh kept := by
      funext a
      rw [isFresh, isFresh, known]
    rw [Exploration.fresh, Exploration.fresh, stamps, same]
  funext o v
  cases v with
  | skipped _ _ => rfl
  | failed _ _ => rfl
  | analyzed _ found => simp only [record, fresh]

end Exploration

end AnomalyWatch
