import AnomalyWatch.Metric.Reply
import AnomalyWatch.Proofs.Json.TextArray
import AnomalyWatch.Proofs.Text.ByteOrder
import AnomalyWatch.Proofs.Text.SignedWord
import AnomalyWatch.Proofs.Time.Stamp

/-!
What a reply of the metric service decodes to.

Two levels of text are decoded, the keys of a reply and under each key the times of its buckets, and different texts
may come to the same: a key can be spelled in many ways, and a number too. What a text stands for is said here by the
grammar of arrays of texts and by that of signed words. Decoding goes through the keys as they stand in the reply and
through the times of a key by their bytes. It fails at the first text that stands for nothing, and otherwise the last
text of each key and of each time counts.
-/

set_option autoImplicit false
set_option relaxedAutoImplicit false

namespace AnomalyWatch

section Folds

variable {α σ ε : Type} {f : σ → α → Except ε σ} {s s' : σ} {l : List α} {e : ε}

private theorem foldlM_keeps {P : List α → σ → Prop} (start : P [] s)
    (step : ∀ done s x s', P done s → f s x = .ok s' → P (done ++ [x]) s') (run : l.foldlM f s = .ok s') : P l s' := by
  have along : ∀ (rest done : List α) (s : σ), P done s → rest.foldlM f s = .ok s' → P (done ++ rest) s' := by
    intro rest
    induction rest with
    | nil =>
      intro done s holds run
      cases run
      rwa [List.append_nil]
    | cons x rest ih =>
      intro done s holds run
      rw [List.foldlM_cons] at run
      cases first : f s x with
      | error e =>
        rw [first] at run
        cases run
      | ok next =>
        rw [first] at run
        rw [List.append_cons]
        exact ih (done ++ [x]) next (step done s x next holds first) run
  exact along l [] s start run

private theorem exists_first_of_foldlM (failed : l.foldlM f s = .error e) :
    ∃ before x after s', l = before ++ x :: after ∧ before.foldlM f s = .ok s' ∧ f s' x = .error e := by
  induction l generalizing s with
  | nil => cases failed
  | cons x rest ih =>
    rw [List.foldlM_cons] at failed
    cases first : f s x with
    | error e' =>
      rw [first] at failed
      cases failed
      exact ⟨[], x, rest, s, rfl, rfl, first⟩
    | ok next =>
      rw [first] at failed
      obtain ⟨before, y, after, s', rfl, passed, fails⟩ := ih failed
      refine ⟨x :: before, y, after, s', rfl, ?_, fails⟩
      rw [List.foldlM_cons, first]
      exact passed

private theorem concat_eq_append_cons {x y : α} {before after : List α} (split : l ++ [x] = before ++ y :: after) :
    after = [] ∧ y = x ∨ ∃ earlier, after = earlier ++ [x] ∧ l = before ++ y :: earlier := by
  rcases List.eq_nil_or_concat' after with rfl | ⟨earlier, last, rfl⟩
  · obtain ⟨_, same⟩ := List.append_inj' split rfl
    exact .inl ⟨rfl, (List.cons.inj same).1.symm⟩
  · have shifted : l ++ [x] = (before ++ y :: earlier) ++ [last] := by simpa using split
    obtain ⟨same, ends⟩ := List.append_inj' shifted rfl
    exact .inr ⟨earlier, by rw [(List.cons.inj ends).1], same⟩

end Folds

namespace Instant

/-- The instant lies so many milliseconds after the start of 1970, and not in a leap second. -/
def IsMillis (t : Instant) (millis : Int) : Prop :=
  t.seconds * 1000000000 + t.nanos = millis * 1000000 ∧ t.nanos < 1000000000

private theorem ofMillis?_eq_some_iff {millis : Int} {t : Instant} : ofMillis? millis = some t ↔ t.IsMillis millis := by
  rw [ofMillis?, make?_eq_some_iff, IsMillis]
  omega

end Instant

namespace MetricReply

section Times

variable {raw : String} {t : Instant} {e : Error}

def Dates (raw : String) (t : Instant) : Prop :=
  ∃ millis, Text.NamesWord raw.toList millis ∧ t.IsMillis millis

/-- Why a text stands for no start of a bucket. -/
inductive TimeFault (raw : String) : Error → Prop
  | malformed (nameless : ∀ millis, ¬ Text.NamesWord raw.toList millis) : TimeFault raw (.malformedBucketTime raw)
  | outOfRange {millis : Int} (names : Text.NamesWord raw.toList millis)
      (beyond : ∀ t : Instant, ¬ t.IsMillis millis) : TimeFault raw (.bucketTimeOutOfRange millis)

private theorem readTime_eq_ok_iff : readTime raw = .ok t ↔ Dates raw t := by
  unfold readTime Dates
  simp only [← Text.signedWord?_eq_some_iff, ← Instant.ofMillis?_eq_some_iff]
  cases Text.signedWord? raw.toList with
  | none => simp
  | some millis => cases made : Instant.ofMillis? millis <;> simp [made]

private theorem timeFault_of_readTime (failed : readTime raw = .error e) : TimeFault raw e := by
  unfold readTime at failed
  cases read : Text.signedWord? raw.toList with
  | none =>
    rw [read] at failed
    cases failed
    refine .malformed fun millis names => ?_
    rw [← Text.signedWord?_eq_some_iff, read] at names
    cases names
  | some millis =>
    rw [read] at failed
    cases made : Instant.ofMillis? millis with
    | none =>
      simp only [made] at failed
      cases failed
      refine .outOfRange (Text.signedWord?_eq_some_iff.mp read) fun t lies => ?_
      rw [← Instant.ofMillis?_eq_some_iff, made] at lies
      cases lies
    | some time => simp [made] at failed

theorem Dates.unique {t' : Instant} (dates : Dates raw t) (dates' : Dates raw t') : t = t' := by
  rw [← readTime_eq_ok_iff] at dates dates'
  exact Except.ok.inj (dates.symm.trans dates')

private theorem TimeFault.not_dates (fault : TimeFault raw e) : ¬ Dates raw t := by
  rintro ⟨millis, names, lies⟩
  cases fault with
  | malformed nameless => exact nameless millis names
  | outOfRange names' beyond =>
    rw [← Text.signedWord?_eq_some_iff] at names names'
    cases names.symm.trans names'
    exact beyond t lies

theorem TimeFault.kind (fault : TimeFault raw e) : e.kind = .query := by
  cases fault <;> rfl

end Times

section Keys

variable {raw : String} {key : DimensionKey} {e : Error}

/-- The text is an array of texts with the values of the key. -/
def Spells (raw : String) (key : DimensionKey) : Prop :=
  Json.WritesTexts raw.toList key.values

private theorem readKey_eq_ok_iff : readKey raw = .ok key ↔ Spells raw key := by
  obtain ⟨values⟩ := key
  unfold readKey Spells
  rw [← Json.parse?_texts?_iff]
  have texts : (Json.parse? raw).bind DimensionKey.ofJson? =
      ((Json.parse? raw).bind Json.texts?).map DimensionKey.mk := by
    cases Json.parse? raw <;> rfl
  rw [texts]
  cases (Json.parse? raw).bind Json.texts? <;> simp

private theorem fault_of_readKey (failed : readKey raw = .error e) :
    e = .malformedKey raw "not an array of texts" ∧ ∀ key, ¬ Spells raw key := by
  refine ⟨?_, fun key spells => ?_⟩
  · unfold readKey at failed
    split at failed
    · cases failed
    · cases failed
      rfl
  · rw [readKey_eq_ok_iff.mpr spells] at failed
    cases failed

theorem Spells.unique {key' : DimensionKey} (spells : Spells raw key) (spells' : Spells raw key') : key = key' := by
  rw [← readKey_eq_ok_iff] at spells spells'
  exact Except.ok.inj (spells.symm.trans spells')

end Keys

section Series

variable {buckets : List (String × List Float)} {s s' : Series} {b : String × List Float} {t time : Instant} {v : Float}
  {e : Error}

/-- The series that buckets make. It holds a time if some text with values stands for it, with the first value of the
last such text. -/
structure Charts (buckets : List (String × List Float)) (s : Series) : Prop where
  dated : ∀ b ∈ buckets, ∃ t, Dates b.1 t
  holds : ∀ t, (∃ v, s.get? t = some v) ↔ ∃ b ∈ buckets, Dates b.1 t ∧ b.2 ≠ []
  value : ∀ before raw v more after t, buckets = before ++ (raw, v :: more) :: after → Dates raw t →
    (∀ b ∈ after, Dates b.1 t → b.2 = []) → s.get? t = some v

private theorem charts_nil : Charts [] ∅ where
  dated := fun b present => nomatch present
  holds t := iff_of_false (fun ⟨v, found⟩ => by cases found) fun ⟨b, present, _⟩ => nomatch present
  value before raw v more after t split := by simp at split

private theorem Charts.concat_value (charts : Charts buckets s) {raw : String} {more : List Float}
    (dates : Dates raw time) :
    Charts (buckets ++ [(raw, v :: more)]) (s.insert time v) where
  dated := List.forall_mem_append.mpr ⟨charts.dated, List.forall_mem_singleton.mpr ⟨time, dates⟩⟩
  holds t := by
    rw [SortedMap.get?_insert]
    by_cases here : time = t
    · subst here
      simp [dates]
    · have other : ¬ Dates raw t := fun dates' => here (dates.unique dates')
      rw [if_neg here, charts.holds t]
      simp [List.mem_append, or_and_right, exists_or, other]
  value before raw' w more' after t split dates' silent := by
    rw [SortedMap.get?_insert]
    rcases concat_eq_append_cons split with ⟨rfl, same⟩ | ⟨earlier, rfl, rfl⟩
    · cases same
      rw [if_pos (dates.unique dates')]
    · have other : time ≠ t := by
        rintro rfl
        have empty := silent (raw, v :: more) (by simp) dates
        cases empty
      rw [if_neg other]
      exact charts.value before raw' w more' earlier t rfl dates' fun b present =>
        silent b (List.mem_append_left _ present)

private theorem Charts.concat_empty (charts : Charts buckets s) {raw : String} (dates : Dates raw time) :
    Charts (buckets ++ [(raw, [])]) s where
  dated := List.forall_mem_append.mpr ⟨charts.dated, List.forall_mem_singleton.mpr ⟨time, dates⟩⟩
  holds t := by
    rw [charts.holds t]
    simp [List.mem_append, or_and_right, exists_or]
  value before raw' w more' after t split dates' silent := by
    rcases concat_eq_append_cons split with ⟨rfl, same⟩ | ⟨earlier, rfl, rfl⟩
    · cases same
    · exact charts.value before raw' w more' earlier t rfl dates' fun b present =>
        silent b (List.mem_append_left _ present)

theorem Charts.addBucket (charts : Charts buckets s) (added : addBucket s b = .ok s') :
    Charts (buckets ++ [b]) s' := by
  obtain ⟨raw, values⟩ := b
  unfold MetricReply.addBucket at added
  cases read : readTime raw with
  | error e =>
    rw [read] at added
    cases added
  | ok time =>
    rw [read] at added
    have dates := readTime_eq_ok_iff.mp read
    cases values with
    | nil =>
      cases added
      exact charts.concat_empty dates
    | cons v more =>
      cases added
      exact charts.concat_value dates

private theorem charts_of_readSeries {raw : RawBuckets} (read : readSeries raw = .ok s) : Charts raw.entries s :=
  foldlM_keeps charts_nil (fun _ _ _ _ charts added => charts.addBucket added) read

private theorem fault_of_addBucket (failed : MetricReply.addBucket s b = .error e) : TimeFault b.1 e := by
  unfold MetricReply.addBucket at failed
  cases read : readTime b.1 with
  | error e' =>
    rw [read] at failed
    cases failed
    exact timeFault_of_readTime read
  | ok time =>
    rw [read] at failed
    obtain ⟨raw, values⟩ := b
    cases values <;> cases failed

end Series

section Data

variable {data : List (String × RawBuckets)} {d : String × RawBuckets} {m m' : SeriesMap}
  {key : DimensionKey} {e : Error}

/-- The text of the key is an array of texts, and every text below it stands for a time, whether or not there are
values for it. -/
def Readable (d : String × RawBuckets) : Prop :=
  (∃ key, Spells d.1 key) ∧ ∀ b ∈ d.2.entries, ∃ t, Dates b.1 t

/-- What is wrong with the texts of a key: that of the key itself, or else the first of its times that stands for
nothing. -/
inductive Fault : String × RawBuckets → Error → Prop
  | key {d : String × RawBuckets} (nameless : ∀ key, ¬ Spells d.1 key) :
      Fault d (.malformedKey d.1 "not an array of texts")
  | time {d : String × RawBuckets} {key : DimensionKey} {before after : List (String × List Float)}
      {b : String × List Float} {e : Error} (spells : Spells d.1 key) (split : d.2.entries = before ++ b :: after)
      (dated : ∀ c ∈ before, ∃ t, Dates c.1 t) (fault : TimeFault b.1 e) : Fault d e

theorem Fault.kind (fault : Fault d e) : e.kind = .query := by
  cases fault with
  | key nameless => rfl
  | time _ _ _ fault => exact fault.kind

private theorem Fault.not_readable (fault : Fault d e) : ¬ Readable d := by
  rintro ⟨⟨key, spells⟩, dated⟩
  cases fault with
  | key nameless => exact nameless key spells
  | @time key before after b e _ split _ fault =>
    obtain ⟨t, dates⟩ := dated b (by rw [split]; simp)
    exact fault.not_dates dates

/-- The map that the data of a reply make. Its keys are those that are spelled, each where it appears first, and the
series of a key is that of the last text that spells it. -/
structure Decodes (data : List (String × RawBuckets)) (m : SeriesMap) : Prop where
  readable : ∀ d ∈ data, Readable d
  keys : ∃ keys : List DimensionKey, List.Forall₂ (fun d key => Spells d.1 key) data keys ∧ m.keys = keys.eraseDups
  bound : ∀ before d after key, data = before ++ d :: after → Spells d.1 key → (∀ c ∈ after, ¬ Spells c.1 key) →
    ∃ s, m.get? key = some s ∧ Charts d.2.entries s

private theorem decodes_nil : Decodes [] ∅ where
  readable := fun d present => nomatch present
  keys := ⟨[], .nil, rfl⟩
  bound before d after key split := by simp at split

private theorem eraseDups_concat (keys : List DimensionKey) (key : DimensionKey) :
    (keys ++ [key]).eraseDups = if key ∈ keys then keys.eraseDups else keys.eraseDups ++ [key] := by
  rw [List.eraseDups_append]
  by_cases present : key ∈ keys <;> simp [List.removeAll, List.eraseDups_cons, present]

theorem Decodes.concat (decodes : Decodes data m) {s : Series} (spells : Spells d.1 key)
    (charts : Charts d.2.entries s) : Decodes (data ++ [d]) (m.insert key s) where
  readable := List.forall_mem_append.mpr
    ⟨decodes.readable, List.forall_mem_singleton.mpr ⟨⟨key, spells⟩, charts.dated⟩⟩
  keys := by
    obtain ⟨keys, spelled, arrived⟩ := decodes.keys
    refine ⟨keys ++ [key], List.rel_append spelled (.cons spells .nil), ?_⟩
    rw [ArrivalMap.keys_insert, arrived, eraseDups_concat]
    simp only [List.mem_eraseDups]
  bound before c after key' split spells' silent := by
    rw [ArrivalMap.get?_insert]
    rcases concat_eq_append_cons split with ⟨rfl, rfl⟩ | ⟨earlier, rfl, rfl⟩
    · rw [if_pos (spells.unique spells')]
      exact ⟨s, rfl, charts⟩
    · have other : key ≠ key' := by
        rintro rfl
        exact silent d (by simp) spells
      rw [if_neg other]
      exact decodes.bound before c earlier key' rfl spells' fun c present => silent c (List.mem_append_left _ present)

theorem Decodes.addKey (decodes : Decodes data m) (added : addKey m d = .ok m') : Decodes (data ++ [d]) m' := by
  unfold MetricReply.addKey at added
  cases named : readKey d.1 with
  | error e =>
    rw [named] at added
    cases added
  | ok key =>
    cases read : readSeries d.2 with
    | error e =>
      rw [named, read] at added
      cases added
    | ok s =>
      rw [named, read] at added
      cases added
      exact decodes.concat (readKey_eq_ok_iff.mp named) (charts_of_readSeries read)

private theorem decodes_of_foldlM (read : data.foldlM addKey ∅ = .ok m) : Decodes data m :=
  foldlM_keeps decodes_nil (fun _ _ _ _ decodes added => decodes.addKey added) read

private theorem fault_of_addKey (failed : MetricReply.addKey m d = .error e) : Fault d e := by
  unfold MetricReply.addKey at failed
  cases named : readKey d.1 with
  | error e' =>
    rw [named] at failed
    cases failed
    obtain ⟨rfl, nameless⟩ := fault_of_readKey named
    exact .key nameless
  | ok key =>
    cases read : readSeries d.2 with
    | error e' =>
      rw [named, read] at failed
      cases failed
      obtain ⟨before, b, after, s, split, passed, fails⟩ := exists_first_of_foldlM read
      have charts : Charts before s :=
        foldlM_keeps charts_nil (fun _ _ _ _ charts added => charts.addBucket added) passed
      exact .time (readKey_eq_ok_iff.mp named) split charts.dated (fault_of_addBucket fails)
    | ok s =>
      rw [named, read] at failed
      cases failed

end Data

private theorem entries_octets_lt (buckets : RawBuckets) :
    buckets.entries.Pairwise fun a b => Text.octets a.1 < Text.octets b.1 :=
  buckets.ascending.imp fun below => Text.octets_lt_iff.mpr (compare_lt_iff_lt.mp below)

/-- Decoding a reply succeeds exactly if all its keys are arrays of texts and all times below them stand for instants,
and makes the map of its data. Otherwise it fails with a query error, which is the fault of the first key in the order
of the reply that is not readable, and below it of the key itself or else of the first time in the order of bytes. -/
theorem series_exact (r : MetricReply) :
    ((∃ m, r.series = .ok m) ↔ ∀ d ∈ r.data.entries, Readable d) ∧
    (∀ m, r.series = .ok m → Decodes r.data.entries m) ∧
    (∀ e, r.series = .error e → e.kind = .query ∧ ∃ before d after, r.data.entries = before ++ d :: after ∧
      (∀ c ∈ before, Readable c) ∧ Fault d e) ∧
    ∀ d ∈ r.data.entries, d.2.entries.Pairwise fun a b => Text.octets a.1 < Text.octets b.1 := by
  have decodes : ∀ m, r.series = .ok m → Decodes r.data.entries m := fun m read => decodes_of_foldlM read
  have faulty : ∀ e, r.series = .error e → e.kind = .query ∧ ∃ before d after,
      r.data.entries = before ++ d :: after ∧ (∀ c ∈ before, Readable c) ∧ Fault d e := by
    intro e failed
    obtain ⟨before, d, after, m, split, passed, fails⟩ := exists_first_of_foldlM failed
    have fault := fault_of_addKey fails
    exact ⟨fault.kind, before, d, after, split, (decodes_of_foldlM passed).readable, fault⟩
  refine ⟨⟨?_, ?_⟩, decodes, faulty, fun d _ => entries_octets_lt d.2⟩
  · rintro ⟨m, read⟩
    exact (decodes m read).readable
  · intro readable
    cases read : r.series with
    | ok m => exact ⟨m, rfl⟩
    | error e =>
      obtain ⟨_, before, d, after, split, _, fault⟩ := faulty e read
      exact absurd (readable d (by rw [split]; simp)) fault.not_readable

/-- One key in two spellings stands where the first stood, with the series of the second, and of three texts for one
time the last one in the order of bytes counts. -/
example :
    let r : MetricReply := ⟨[], [], .ofList [("[\"a\"]", .ofList [("1", [1])]), ("[\"b\"]", ∅),
      ("[ \"\\u0061\" ]", .ofList [("1", [2]), ("+1", [3]), ("01", [4]), ("2", [])])]⟩
    r.series.toOption.map (fun m => m.entries.map fun e => (e.1.values, e.2.entries.map fun b => (b.1.nanos, b.2))) =
      some [(["a"], [(1000000, 2)]), (["b"], [])] := by
  decide +kernel

end MetricReply

end AnomalyWatch
