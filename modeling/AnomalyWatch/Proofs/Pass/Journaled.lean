import AnomalyWatch.Detection.Catalogue
import AnomalyWatch.Proofs.Pass.Attendance
import AnomalyWatch.Proofs.Detection.Threshold
import AnomalyWatch.Proofs.Store.Reopening

/-!
A pass over a journal.

A score is a quotient, and the journal has no literal for one that is not finite: such a row is written with a
null in place of its score, which no row may have when the journal is read. So what a pass stores is read back
exactly if all scores are finite, and one that is not makes the whole journal unreadable.
-/

set_option autoImplicit false
set_option relaxedAutoImplicit false

namespace AnomalyWatch

private theorem Ledger.exists_of_mem_prepare {l : Ledger} {now : Instant} {batch : List Anomaly} {row : Anomaly}
    (prepared : row ∈ l.prepare now batch) : ∃ a ∈ batch, ∃ id, row = numbered now a id := by
  obtain ⟨⟨a, id⟩, counted, rfl⟩ := List.mem_map.mp prepared
  exact ⟨a, List.fst_mem_of_mem_zipIdx counted, id, rfl⟩

open Journal (Held Opens TidyIn bytes)

section Kept

variable {σ : Type} {world : Surroundings (StateM σ)} {path : String} {files : σ → FileTree}

/-- Surroundings that keep rows in the journal at a path and do nothing else to it. Rows that they refuse
leave nothing behind. -/
structure Surroundings.KeepsJournal (world : Surroundings (StateM σ)) (path : String) (files : σ → FileTree) :
    Prop where
  append : TidyIn files path world.append
  now : ∀ env, files (world.now env).2 = files env
  query : ∀ request env, files (world.query request env).2 = files env
  guard : ∀ c env, files (world.guard c env).2 = files env
  observe : ∀ visit env, files (world.observe visit env).2 = files env

namespace Surroundings.KeepsJournal

variable {written : List Anomaly}

private theorem held_respond (keeps : world.KeepsJournal path files) (c : Pass.Call) (site : Site) (env : σ)
    (held : Held path (files env) (bytes written)) :
    ∃ more, Held path (files (world.respond c site env).2) (bytes (written ++ more)) ∧
      (world.respond c site env).1.2.store.ledger = site.store.ledger.publish more := by
  have idle {env' : σ} {s : Store} (same : files env' = files env) (ledger : s.ledger = site.store.ledger) :
      ∃ more, Held path (files env') (bytes (written ++ more)) ∧ s.ledger = site.store.ledger.publish more :=
    ⟨[], by rwa [List.append_nil, same], by rw [ledger, Ledger.publish_nil]⟩
  cases c with
  | query request => exact idle (keeps.query request env) rfl
  | timer job => exact idle rfl rfl
  | visited job visit =>
    rcases seen : world.observe visit env with ⟨duration, env'⟩
    have noted : files env' = files env := by simpa [seen] using keeps.observe visit env
    simp only [respond, noteVisit, bind, StateT.bind, seen]
    cases visit with
    | analyzed key found => exact idle ((keeps.now env').trans noted) rfl
    | skipped key buckets => exact idle noted rfl
    | failed key cause => exact idle noted rfl
  | store c =>
    rcases guarded : world.guard c env with ⟨refusal, env₁⟩
    have kept : files env₁ = files env := by simpa [guarded] using keeps.guard c env
    cases refusal with
    | some e =>
      simp only [respond, askStore, bind, StateT.bind, guarded]
      exact idle kept rfl
    | none =>
      rcases clock : world.now env₁ with ⟨now, env₂⟩
      have waited : files env₂ = files env := by
        rw [← kept, ← keeps.now env₁, clock]
      rcases answered : site.store.respond now world.append c env₂ with ⟨⟨reply, s'⟩, env₃⟩
      simp only [respond, askStore, bind, StateT.bind, guarded, clock, answered]
      exact Store.held_of_respond keeps.append (waited ▸ held) answered

/-- Whatever is asked, the file takes the rows that the ledger takes. -/
theorem held_run (keeps : world.KeepsJournal path files) {α : Type} (d : Pass.Step α) (site : Site) (env : σ)
    (held : Held path (files env) (bytes written)) :
    ∃ more, Held path (files (d.run world.respond site env).2) (bytes (written ++ more)) ∧
      (d.run world.respond site env).1.2.store.ledger = site.store.ledger.publish more := by
  induction d generalizing site env written with
  | done a => exact ⟨[], by rwa [List.append_nil], (Ledger.publish_nil _).symm⟩
  | ask c next ih =>
    obtain ⟨first, held, entered⟩ := keeps.held_respond c site env held
    obtain ⟨later, held, more⟩ := ih (world.respond c site env).1.1 (world.respond c site env).1.2
      (world.respond c site env).2 held
    refine ⟨first ++ later, by rwa [← List.append_assoc], ?_⟩
    rw [← Ledger.publish_publish, ← entered]
    exact more

end Surroundings.KeepsJournal

private theorem Catalogue.ofSpec_of_standard {spec : Spec} {d : Detector} (built : standard.build spec = .ok d) :
    Threshold.ofSpec spec = .ok d := by
  unfold build at built
  split at built
  next builder found =>
    have only : (_, builder) ∈ [(Text.upper Threshold.tag, Threshold.ofSpec)] :=
      SortedMap.mem_entries_of_get?_eq_some found
    obtain ⟨-, rfl⟩ := Prod.mk.inj (List.mem_singleton.mp only)
    exact built
  next => cases built

namespace Pass

private theorem scored_of_kept {x : Exploration} {spec : Spec} {band : Band}
    (detector : x.detector = ⟨spec, Threshold.analyze spec band⟩) {replies : List (Except Error SeriesMap)}
    {a : Anomaly} (kept : a ∈ (x.outcome replies).results) :
    Threshold.Scored band a ∧ a.weight = 1 ∧ a.functionId = some spec.id := by
  obtain ⟨-, key, series, found, analyzed, b, reported, rfl⟩ := Exploration.reported_of_mem_results kept
  rw [detector] at analyzed ⊢
  obtain ⟨e, -, judged⟩ := Threshold.verdict_of_mem analyzed reported
  obtain ⟨scored, weight⟩ := Threshold.scored_of_verdict judged
  exact ⟨scored, weight, rfl⟩

private theorem rereads_iff_isFinite {a : Anomaly} {now : Instant} {id : Nat} (weight : a.weight = 1)
    (function : ∀ n ∈ a.functionId, n ≤ Text.maxWord) (fits : id ≤ Text.maxWord) :
    (∃ b, (Ledger.numbered now a id).Rereads b) ↔ a.score.isFinite := by
  constructor
  · rintro ⟨b, reads⟩
    exact reads.isFinite
  · intro score
    have one : a.weight.isFinite := by
      rw [weight]
      decide +kernel
    exact Anomaly.exists_rereads_numbered ⟨score, one, function⟩ now fits

/-- After a pass that succeeded the journal opens exactly if the scores of all that it stored are finite. -/
theorem opens_after_pass_iff {spec : Spec} {d : Detector} (built : Catalogue.standard.build spec = .ok d)
    (word : spec.id ≤ Text.maxWord) (keeps : world.KeepsJournal path files) {written : List Anomaly}
    {name : String} {bounds : Bounds} {now : Instant} {site site' : Site} {env env' : σ} {summary : Summary}
    (held : Held path (files env) (bytes written)) (opens : Opens path (files env))
    (ran : (Job.pass ⟨name, d, bounds⟩ now).run world.respond site env = ((.ok summary, site'), env'))
    (room : site'.store.ledger.lastId ≤ Text.maxWord) :
    ∃ stored, site'.store.ledger = site.store.ledger.publish stored ∧
      (∃ band, Band.ofSpec spec = .ok band ∧ ∀ row ∈ stored, Threshold.Scored band row) ∧
      (Opens path (files env') ↔ ∀ row ∈ stored, row.score.isFinite) := by
  obtain ⟨band, banded, rfl⟩ := Threshold.ofSpec_eq_ok (Catalogue.ofSpec_of_standard built)
  let pass := Job.pass ⟨name, ⟨spec, Threshold.analyze spec band⟩, bounds⟩ now
  have course := course_transcript world pass site env
  have attended := attends_transcript world pass site env
  obtain ⟨more, kept, grown⟩ := keeps.held_run pass site env held
  rw [ran] at course attended kept grown
  obtain ⟨window, -, instant, x, -, rfl, -, ledger⟩ := (attended.pass course).2 summary rfl
  dsimp only at kept grown ledger
  -- The file took what the ledger took, and that is the batch of the pass.
  obtain rfl := List.append_cancel_left (congrArg Ledger.rows (grown.symm.trans ledger))
  rw [Journal.opens_iff_of_held held] at opens
  rw [ledger] at room
  refine ⟨_, ledger, ⟨band, banded, fun row stored => ?_⟩, ?_⟩
  · obtain ⟨a, found, id, rfl⟩ := Ledger.exists_of_mem_prepare stored
    exact (scored_of_kept rfl found).1
  · rw [Journal.opens_iff_of_held kept, List.forall_mem_append, and_iff_right opens]
    refine forall₂_congr fun row stored => ?_
    have bounded := (site.store.ledger.publish _).bounded row (List.mem_append_right _ stored)
    obtain ⟨a, found, id, rfl⟩ := Ledger.exists_of_mem_prepare stored
    obtain ⟨-, weight, function⟩ := scored_of_kept rfl found
    refine rereads_iff_isFinite weight (fun n named => ?_) ((bounded id rfl).trans room)
    rw [function] at named
    exact Option.some.inj named ▸ word

end Pass

end Kept

private theorem Journal.appendAt_sample : appendAt "j" = fun rows tree =>
    if rows.isEmpty then (.ok (), tree)
    else
      match tree.append? [.ofText "j"] (bytes rows) with
      | some tree => (.ok (), tree)
      | none => (.error (.inputOutput "cannot open the journal"), tree) := by
  have named (names : List FileName) (same : FileTree.namesOf "j" = names) : appendAt "j" = fun rows tree =>
      if rows.isEmpty then (.ok (), tree)
      else
        match tree.append? names (bytes rows) with
        | some tree => (.ok (), tree)
        | none => (.error (.inputOutput "cannot open the journal"), tree) := by
    subst same
    rfl
  exact named [.ofText "j"] namesOf_sample

/-- One reply to whatever is queried at the start of 1970, and a journal. -/
def Surroundings.sample (reply : SeriesMap) : Surroundings (StateM FileTree) where
  now := pure .epoch
  query _ := pure (.ok reply)
  append := Journal.appendAt "j"
  guard _ := pure none
  observe _ := pure 0

private theorem Surroundings.keepsJournal_sample (reply : SeriesMap) : (sample reply).KeepsJournal "j" id where
  append := Journal.tidy_appendAt "j"
  now _ := rfl
  query _ _ := rfl
  guard _ _ := rfl
  observe _ _ := rfl

namespace Pass

/-- The first pass of a detector over the journal; one bucket is in its window. -/
def sample (d : Detector) : (Except Error Summary × Site) × FileTree :=
  let reply : SeriesMap := .ofList [(⟨["a"]⟩, .ofList [(Window.sample.start, 50), (.epoch, 5)])]
  (Job.pass ⟨"latency", d, .none⟩ .epoch).run (Surroundings.sample reply).respond .empty .empty

/-- The sample function stores one row, whose score is four, and the journal opens. -/
theorem opens_after_sample : ∃ d, Catalogue.standard.build .sample = .ok d ∧
    (sample d).1.1.isOk ∧ (sample d).1.2.store.ledger.rows.length = 1 ∧ Opens "j" (sample d).2 := by
  obtain ⟨d, built, succeeded, one, room, finite⟩ : ∃ d, Catalogue.standard.build .sample = .ok d ∧
      (sample d).1.1.isOk ∧ (sample d).1.2.store.ledger.rows.length = 1 ∧
      (sample d).1.2.store.ledger.lastId ≤ Text.maxWord ∧
      ∀ row ∈ (sample d).1.2.store.ledger.rows, row.score.isFinite := by
    refine ⟨_, rfl, ?_⟩
    rw [sample, Surroundings.sample, Journal.appendAt_sample]
    decide +kernel
  refine ⟨d, built, succeeded, one, ?_⟩
  rcases ran : sample d with ⟨⟨outcome, site⟩, tree⟩
  rw [ran] at succeeded room finite
  cases outcome with
  | error e => cases succeeded
  | ok summary =>
    obtain ⟨stored, entered, -, opens⟩ := opens_after_pass_iff built (by decide)
      (Surroundings.keepsJournal_sample _) Journal.held_sample ⟨_, _, Journal.openAt_sample⟩ ran room
    obtain rfl : site.store.ledger.rows = stored := congrArg Ledger.rows entered
    exact opens.mpr finite

/-- A bound that is next to nothing is accepted. The score exceeds the doubles, the pass succeeds, and the
journal that was fine before does not open any more. -/
theorem poisoned_after_sample :
    let spec := { Spec.sample with properties := .ofList [("max", "1e-308")] }
    ∃ d, Catalogue.standard.build spec = .ok d ∧ Opens "j" .empty ∧ (sample d).1.1.isOk ∧
      ¬ Opens "j" (sample d).2 := by
  intro spec
  have facts : (Catalogue.standard.build spec).toOption.any fun d =>
      (sample d).1.1.isOk && (sample d).1.2.store.ledger.rows.any fun row => !row.score.isFinite := by
    simp only [sample, Surroundings.sample, Journal.appendAt_sample]
    decide +kernel
  cases built : Catalogue.standard.build spec with
  | error e =>
    rw [built] at facts
    cases facts
  | ok d =>
    obtain ⟨succeeded, row, stored, endless⟩ : (sample d).1.1.isOk = true ∧
        ∃ row ∈ (sample d).1.2.store.ledger.rows, row.score.isFinite = false := by
      simpa [built, Except.toOption] using facts
    refine ⟨d, rfl, ⟨_, _, Journal.openAt_sample⟩, succeeded, fun opens => ?_⟩
    obtain ⟨more, kept, grown⟩ : ∃ more, Held "j" (sample d).2 (bytes ([] ++ more)) ∧
        (sample d).1.2.store.ledger = Ledger.empty.publish more :=
      (Surroundings.keepsJournal_sample _).held_run (Job.pass ⟨"latency", d, .none⟩ .epoch) .empty
        FileTree.empty Journal.held_sample
    rw [grown] at stored
    obtain ⟨b, reads⟩ := (Journal.opens_iff_of_held kept).mp opens row stored
    rw [reads.isFinite] at endless
    cases endless

end Pass

end AnomalyWatch
