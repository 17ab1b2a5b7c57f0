import AnomalyWatch.Proofs.Detection.Threshold
import AnomalyWatch.Proofs.Pass.Attendance

/-!
Threshold passes one after another store each anomaly exactly once.

Windows may overlap, repeat or cut buckets, and functions may share an id: what a pass looks up first covers
everything it can find, so it never stores what is there, and what it does not store is there already. Rows are
never removed, so a bucket that was stored once stays stored once.
-/

set_option autoImplicit false
set_option relaxedAutoImplicit false

namespace AnomalyWatch.Pass

open Dialogue (Course)

structure Turn where
  job : Job
  now : Instant
  log : Log
  outcome : Except Error Summary

/-- Passes that run one after another in front of a store. -/
inductive Succession : Store → List Turn → Store → Prop
  | nil (s : Store) : Succession s [] s
  | cons {s s' s'' : Store} {t : Turn} {rest : List Turn} (course : Course (t.job.pass t.now) t.log t.outcome)
      (attended : Attends s t.log s') (go : Succession s' rest s'') : Succession s (t :: rest) s''

theorem Succession.append {s s' s'' : Store} {turns later : List Turn} (h : Succession s turns s')
    (k : Succession s' later s'') : Succession s (turns ++ later) s'' := by
  induction h with
  | nil s => exact k
  | cons course attended _ ih => exact .cons course attended (ih k)

section Run

variable {σ : Type} (world : Surroundings (StateM σ))

def Turn.ofRun (j : Job) (now : Instant) (site : Site) (env : σ) : Turn :=
  ⟨j, now, transcript world (j.pass now) site env, ((j.pass now).run world.respond site env).1.1⟩

private theorem succession_ofRun (j : Job) (now : Instant) (site : Site) (env : σ) :
    Succession site.store [.ofRun world j now site env]
      ((j.pass now).run world.respond site env).1.2.store :=
  .cons (course_transcript ..) (attends_transcript ..) (.nil _)

end Run

theorem Attends.distinct {j : Job} {now : Instant} {log : Log} {outcome : Except Error Summary}
    {s s' : Store} (faithful : j.detector.Faithful) (course : Course (j.pass now) log outcome)
    (attended : Attends s log s') (distinct : Anomaly.Distinct s.ledger.rows) :
    Anomaly.Distinct s'.ledger.rows ∧ s.ledger.rows <+: s'.ledger.rows := by
  obtain ⟨failed, succeeded⟩ := attended.pass course
  cases outcome with
  | error e =>
    rw [failed e rfl]
    exact ⟨distinct, List.prefix_rfl⟩
  | ok summary =>
    obtain ⟨window, aggregation, instant, x, prepared, rfl, _, ledger⟩ := succeeded summary rfl
    rw [ledger]
    refine ⟨?_, List.prefix_append _ _⟩
    have positive := Job.bucketSize_ne_zero_of_prepare prepared
    have new := Anomaly.distinct_append.mpr ⟨distinct, Exploration.distinct_results faithful (replies log),
      fun a kept => Exploration.isAmong_rows_of_mem_results
        (x := ⟨j.detector, window, s.ledger.find (j.lookup window)⟩) faithful positive rfl kept⟩
    rw [Anomaly.distinct_iff] at new ⊢
    rwa [Store.map_identity_publish_prepare]

/-- After a threshold pass that succeeds, a bucket of the window whose value lies outside the band is
stored. -/
theorem Attends.stored {j : Job} {now : Instant} {log : Log} {summary : Summary} {s s' : Store}
    {spec : Spec} {band : Band} (banded : Band.ofSpec spec = .ok band)
    (built : Threshold.ofSpec spec = .ok j.detector) (course : Course (j.pass now) log (.ok summary))
    (attended : Attends s log s') {reply : SeriesMap} {key : DimensionKey} {series : Series}
    (answered : .ok reply ∈ replies log) (entry : (key, series) ∈ reply.entries)
    (enough : Exploration.leastBuckets ≤ series.size) {known found : List Anomaly}
    (analyzed : j.detector.analyze key series summary.window known = .ok found) {start : Instant}
    {value : Float} (bucket : (start, value) ∈ series.entries) (covered : summary.window.covers start)
    (excluded : band.Excludes value) :
    ∃ stop, start.shift? spec.bucketDuration = some stop ∧
      ⟨spec.collection, key, start, stop, some spec.id⟩ ∈ s'.ledger.rows.map Anomaly.identity := by
  obtain ⟨band', again, detector⟩ := Threshold.ofSpec_eq_ok built
  obtain rfl : band' = band := Except.ok.inj (again.symm.trans banded)
  obtain ⟨window, aggregation, instant, x, _, rfl, rfl, ledger⟩ := (attended.pass course).2 summary rfl
  -- A look-up returns rows of this function only, so a bucket that is known is one of its own rows.
  have own : ∀ k ∈ s.ledger.find (j.lookup window),
      k.collection = spec.collection ∧ k.functionId = some spec.id := by
    intro k found
    have selected := (List.mem_filter.mp found).2
    simp only [Lookup.selects, Bool.and_eq_true, decide_eq_true_eq, Job.lookup, detector] at selected
    exact selected.1.1
  rw [detector] at analyzed
  obtain ⟨stop, shifted, present⟩ := Threshold.known_or_kept_of_excluded
    (x := ⟨j.detector, window, s.ledger.find (j.lookup window)⟩) detector own answered entry enough analyzed
    bucket covered excluded
  refine ⟨stop, shifted, ?_⟩
  rw [ledger, Store.map_identity_publish_prepare]
  refine List.map_subset _ (List.append_subset.mpr ⟨?_, List.subset_append_right _ _⟩) present
  exact List.Subset.trans (List.filter_subset_self _) (List.subset_append_left _ _)

/-- A bucket that a successful pass has judged: it lies in the window, and the analysis of its series
succeeds. -/
inductive Turn.Judges (t : Turn) : DimensionKey → Instant → Float → Prop
  | intro {summary : Summary} {reply : SeriesMap} {key : DimensionKey} {series : Series}
      {known found : List Anomaly} {start : Instant} {value : Float} (succeeded : t.outcome = .ok summary)
      (answered : .ok reply ∈ replies t.log) (entry : (key, series) ∈ reply.entries)
      (enough : 2 ≤ series.size)
      (analyzed : t.job.detector.analyze key series summary.window known = .ok found)
      (bucket : (start, value) ∈ series.entries) (covered : summary.window.covers start) :
      Judges t key start value

theorem Succession.distinct {s s' : Store} {turns : List Turn} (run : Succession s turns s')
    (faithful : ∀ t ∈ turns, t.job.detector.Faithful) (distinct : Anomaly.Distinct s.ledger.rows) :
    Anomaly.Distinct s'.ledger.rows ∧ s.ledger.rows <+: s'.ledger.rows := by
  induction run with
  | nil s => exact ⟨distinct, List.prefix_rfl⟩
  | cons course attended _ ih =>
    obtain ⟨still, first⟩ := attended.distinct (faithful _ List.mem_cons_self) course distinct
    obtain ⟨last, rest⟩ := ih (fun t ht => faithful t (List.mem_cons_of_mem _ ht)) still
    exact ⟨last, first.trans rest⟩

theorem Succession.stored {s s' : Store} {turns : List Turn} (run : Succession s turns s')
    (threshold : ∀ t ∈ turns, ∃ spec, Threshold.ofSpec spec = .ok t.job.detector)
    (distinct : Anomaly.Distinct s.ledger.rows) {t : Turn} (ran : t ∈ turns) {key : DimensionKey}
    {start : Instant} {value : Float} (judged : t.Judges key start value) {band : Band}
    (banded : Band.ofSpec t.job.detector.spec = .ok band) (excluded : band.Excludes value) :
    ∃ stop, start.shift? t.job.detector.spec.bucketDuration = some stop ∧
      ⟨t.job.detector.spec.collection, key, start, stop, some t.job.detector.spec.id⟩ ∈
        s'.ledger.rows.map Anomaly.identity := by
  induction run with
  | nil s => cases ran
  | @cons _ _ _ t' rest course attended go ih =>
    have faithful : ∀ u ∈ t' :: rest, u.job.detector.Faithful := fun u hu =>
      (threshold u hu).elim fun _ => Threshold.faithful_of_ofSpec
    obtain ⟨still, _⟩ := attended.distinct (faithful _ List.mem_cons_self) course distinct
    rcases List.mem_cons.mp ran with rfl | ran
    · obtain ⟨spec, built⟩ := threshold t List.mem_cons_self
      obtain ⟨band', _, detector⟩ := Threshold.ofSpec_eq_ok built
      cases judged with
      | intro succeeded answered entry enough analyzed bucket covered =>
        rw [succeeded] at course
        rw [detector] at banded ⊢
        obtain ⟨stop, shifted, present⟩ :=
          attended.stored banded built course answered entry enough analyzed bucket covered excluded
        -- What the pass stored stays there, since the passes after it only append.
        obtain ⟨_, kept⟩ := go.distinct (fun u hu => faithful u (List.mem_cons_of_mem _ hu)) still
        exact ⟨stop, shifted, List.map_subset _ kept.subset present⟩
    · exact ih (fun u hu => threshold u (List.mem_cons_of_mem _ hu)) still ran

/-- Whatever threshold passes run one after another, the rows stay different from each other, and every bucket
outside the band that a successful one has judged is stored exactly once, by this pass or an earlier one, and
stays so. -/
theorem stored_exactly_once {s s' : Store} {turns : List Turn} (run : Succession s turns s')
    (threshold : ∀ t ∈ turns, ∃ spec, Threshold.ofSpec spec = .ok t.job.detector)
    (distinct : Anomaly.Distinct s.ledger.rows) :
    Anomaly.Distinct s'.ledger.rows ∧
    ∀ t ∈ turns, ∀ key start value, t.Judges key start value →
      ∀ band, Band.ofSpec t.job.detector.spec = .ok band → band.Excludes value →
        ∃ stop, start.shift? t.job.detector.spec.bucketDuration = some stop ∧
          (s'.ledger.rows.map Anomaly.identity).count
            ⟨t.job.detector.spec.collection, key, start, stop, some t.job.detector.spec.id⟩ = 1 := by
  have faithful : ∀ t ∈ turns, t.job.detector.Faithful := fun t ht =>
    (threshold t ht).elim fun _ => Threshold.faithful_of_ofSpec
  have different := (run.distinct faithful distinct).1
  refine ⟨different, fun t ran key start value judged band banded excluded => ?_⟩
  obtain ⟨stop, shifted, present⟩ := run.stored threshold distinct ran judged banded excluded
  exact ⟨stop, shifted, List.count_eq_one_of_mem (Anomaly.distinct_iff.mp different) present⟩

/-- The same pass over the same replies, twice: the first stores the bucket above the bound, the second does not
store it again. -/
theorem distinct_after_two_runs :
    let reply : SeriesMap := .ofList [(⟨["a"]⟩, .ofList [(Window.sample.start, 50), (.epoch, 5)])]
    let world : Surroundings (StateM Unit) :=
      { now := pure .epoch
        query := fun _ => pure (.ok reply)
        append := fun _ => pure (.ok ())
        guard := fun _ => pure none
        observe := fun _ => pure 0 }
    ∃ d, Threshold.ofSpec .sample = .ok d ∧
      let j : Job := ⟨"latency", d, .none⟩
      let first := (j.pass .epoch).run world.respond .empty ()
      let second := (j.pass .epoch).run world.respond first.1.2 ()
      Anomaly.Distinct second.1.2.store.ledger.rows ∧
      (second.1.2.store.ledger.rows.map Anomaly.identity).count
        ⟨"web", ⟨["a"]⟩, Window.sample.start, ⟨-3540, 0, by decide⟩, some 1⟩ = 1 := by
  intro reply world
  let pass (d : Detector) : Turn := .ofRun world ⟨"latency", d, .none⟩ .epoch .empty ()
  obtain ⟨d, built, answered, facts⟩ : ∃ d, Threshold.ofSpec .sample = .ok d ∧
      replies (pass d).log = [.ok reply] ∧
      (pass d).outcome.toOption.any fun summary => summary.window.covers Window.sample.start &&
        (d.analyze ⟨["a"]⟩ (.ofList [(Window.sample.start, 50), (.epoch, 5)]) summary.window []).isOk :=
    ⟨_, rfl, rfl, by decide +kernel⟩
  rcases succeeded : (pass d).outcome with _ | summary <;> rw [succeeded] at facts
  · cases facts
  obtain ⟨covered, analyzed⟩ := Bool.and_eq_true_iff.mp facts
  rcases judged : d.analyze _ _ summary.window [] with _ | found <;> rw [judged] at analyzed
  · cases analyzed
  obtain ⟨band, banded, detector⟩ := Threshold.ofSpec_eq_ok built
  have spec : d.spec = .sample := congrArg Detector.spec detector
  have excluded : band.Excludes 50 := by
    have violated : (Band.ofSpec .sample).toOption.any fun b => (b.violated? 50).isSome := by decide +kernel
    rw [banded] at violated
    exact Band.exists_violated_iff.mp (Option.isSome_iff_exists.mp violated)
  refine ⟨d, built, ?_⟩
  intro j first second
  have run : Succession Site.empty.store [pass d, .ofRun world j .epoch first.1.2 ()]
      second.1.2.store :=
    (succession_ofRun world j .epoch .empty ()).append (succession_ofRun world j .epoch first.1.2 ())
  obtain ⟨distinct, once⟩ := stored_exactly_once run (by simpa using ⟨⟨_, built⟩, ⟨_, built⟩⟩) .nil
  obtain ⟨stop, shifted, count⟩ := once _ List.mem_cons_self _ _ _
    (.intro succeeded (answered ▸ List.mem_singleton_self _) (List.mem_singleton_self _) (by decide) judged
      List.mem_cons_self (of_decide_eq_true covered)) band (spec ▸ banded) excluded
  change Window.sample.start.shift? d.spec.bucketDuration = some stop at shifted
  change (second.1.2.store.ledger.rows.map Anomaly.identity).count
    ⟨d.spec.collection, ⟨["a"]⟩, Window.sample.start, stop, some d.spec.id⟩ = 1 at count
  rw [spec] at shifted count
  have minute : Window.sample.start.shift? Spec.sample.bucketDuration = some ⟨-3540, 0, by decide⟩ := by
    decide +kernel
  obtain rfl := Option.some.inj (minute.symm.trans shifted)
  exact ⟨distinct, count⟩

end AnomalyWatch.Pass
