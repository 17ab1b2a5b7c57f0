import AnomalyWatch.Proofs.Timing.Histogram
import AnomalyWatch.Timing.Shared

/-!
Shared histograms are histograms by name.

Who holds a handle records under the name that was looked up for it, however long ago: a later look-up of the name hands
out the same handle, and a look-up of another name another one. So it makes no difference through which look-up of a
name a duration is recorded, and what a snapshot shows is what the same entries by name come to.
-/

set_option autoImplicit false
set_option relaxedAutoImplicit false

namespace AnomalyWatch.SharedTimings

def lookups (uses : List Use) : List String :=
  uses.filterMap fun
    | .lookup name => some name
    | .record _ _ _ => none

/-- What is done under which name, when the names were looked up before. -/
def entries : List String → List Use → List Timings.Entry
  | _, [] => []
  | names, .lookup name :: uses => .opened name :: entries (names ++ [name]) uses
  | names, .record lookup duration now :: uses =>
    match names[lookup]? with
    | some name => .recorded name duration now :: entries names uses
    | none => entries names uses

def Use.name? (names : List String) : Use → Option String
  | .lookup _ => none
  | .record i _ _ => names[i]?

def durations (name : String) (uses : List Use) : List Nat :=
  (entries [] uses).filterMap (Timings.Entry.duration? name)

section Step

variable {t : SharedTimings} {name other : String} {handle : Nat}

private theorem lookup_of_some (found : t.handles.get? name = some handle) : t.lookup name = (handle, t) := by
  unfold lookup
  split
  next handle' found' =>
    obtain rfl := Option.some.inj (found.symm.trans found')
    rfl
  next missing => cases found.symm.trans missing

private theorem lookup_of_none (missing : t.handles.get? name = none) :
    t.lookup name = (t.histograms.length, t.extended name) := by
  unfold lookup
  split
  next found => cases found.symm.trans missing
  next => rfl

private theorem get?_handles_lookup (t : SharedTimings) (name other : String) :
    (t.lookup name).2.handles.get? other = if name = other then some (t.lookup name).1 else t.handles.get? other := by
  cases found : t.handles.get? name with
  | some handle =>
    rw [lookup_of_some found]
    split
    next same => rw [← same, found]
    next => rfl
  | none =>
    rw [lookup_of_none found]
    exact SortedMap.get?_insert

private theorem get?_handles_lookup_of_some (found : t.handles.get? other = some handle) (name : String) :
    (t.lookup name).2.handles.get? other = some handle := by
  rw [get?_handles_lookup]
  split
  next same =>
    subst same
    rw [lookup_of_some found]
  next => exact found

private theorem get?_snapshot (t : SharedTimings) (name : String) :
    t.snapshot.get? name = (t.handles.get? name).map fun handle => t.histograms.getD handle .empty :=
  SortedMap.get?_mapValues _

private theorem get?_snapshot_lookup (t : SharedTimings) (name other : String) : (t.lookup name).2.snapshot.get? other =
    if name = other then some ((t.snapshot.get? name).getD .empty) else t.snapshot.get? other := by
  cases found : t.handles.get? name with
  | some handle =>
    rw [lookup_of_some found]
    split
    next same => rw [← same, get?_snapshot, found, Option.map_some, Option.getD_some]
    next => rfl
  | none =>
    have handles := get?_handles_lookup t name other
    rw [lookup_of_none found] at handles ⊢
    rw [get?_snapshot, handles, get?_snapshot, get?_snapshot, found]
    split
    next => simp [extended]
    next =>
      cases old : t.handles.get? other with
      | none => rfl
      | some handle =>
        have early : handle < t.histograms.length := t.inside other handle old
        simp [extended, List.getElem?_append_left early]

private theorem get?_snapshot_record (found : t.handles.get? name = some handle) (duration : Nat) (now : Instant) :
    (t.record handle duration now).snapshot.get? other =
      if name = other then some (((t.snapshot.get? name).getD .empty).record duration now)
      else t.snapshot.get? other := by
  have kept : (t.record handle duration now).handles = t.handles := rfl
  rw [get?_snapshot, get?_snapshot, get?_snapshot, kept, found]
  split
  next same =>
    have early : handle < t.histograms.length := t.inside name handle found
    rw [← same, found]
    simp [record, List.getElem?_modify, early]
  next different =>
    cases old : t.handles.get? other with
    | none => rfl
    | some handle' =>
      have apart : handle ≠ handle' := by
        rintro rfl
        exact different (t.apart name other handle found old)
      simp [record, List.getElem?_modify, apart]

end Step

section Run

/-- Who has looked a name up holds the handle that the name has, exactly the names that were looked up have one, and
under each name the snapshot shows what the entries by name come to. -/
structure Meets (names : List String) (s : SharedTimings × List Nat) (t : Timings) : Prop where
  held : names.map s.1.handles.get? = s.2.map some
  known : ∀ name, s.1.handles.get? name = none ↔ name ∉ names
  shown : ∀ name, s.1.snapshot.get? name = t.histograms.get? name

variable {names : List String} {s : SharedTimings × List Nat} {t : Timings}

private theorem meets_empty : Meets [] (empty, []) .empty where
  held := rfl
  known _ := ⟨fun _ => List.not_mem_nil, fun _ => rfl⟩
  shown _ := rfl

theorem Meets.lookup (h : Meets names s t) (name : String) :
    Meets (names ++ [name]) (after s (.lookup name)) (t.opened name) where
  held := by
    have own : (s.1.lookup name).2.handles.get? name = some (s.1.lookup name).1 := by
      rw [get?_handles_lookup, if_pos rfl]
    have others : names.map (s.1.lookup name).2.handles.get? = names.map s.1.handles.get? := by
      apply List.map_congr_left
      intro other present
      obtain ⟨handle, found⟩ := Option.ne_none_iff_exists'.mp (mt (h.known other).mp (not_not_intro present))
      rw [found, get?_handles_lookup_of_some found]
    rw [after, List.map_append, List.map_append, others, h.held]
    simp [own]
  known other := by
    rw [after, get?_handles_lookup, List.mem_append, List.mem_singleton]
    split
    next same => simp [same]
    next different => simp [h.known other, Ne.symm different]
  shown other := by
    rw [after, get?_snapshot_lookup, Timings.opened, SortedMap.get?_insert, h.shown name, h.shown other]
    rfl

theorem Meets.record (h : Meets names s t) {handle duration : Nat} {now : Instant} {name : String}
    (found : s.1.handles.get? name = some handle) :
    Meets names (s.1.record handle duration now, s.2) (t.record name duration now) where
  held := h.held
  known := h.known
  shown other := by
    rw [get?_snapshot_record found, Timings.record, SortedMap.get?_insert, h.shown name, h.shown other]
    rfl

private theorem Meets.getElem? (h : Meets names s t) (lookup : Nat) :
    names[lookup]?.map s.1.handles.get? = s.2[lookup]?.map some := by
  have place := congrArg (·[lookup]?) h.held
  simpa only [List.getElem?_map] using place

/-- Shared histograms and histograms by name go along with each other, whatever is done. -/
theorem Meets.run (h : Meets names s t) (uses : List Use) :
    Meets (names ++ lookups uses) (uses.foldl after s) ((entries names uses).foldl .enter t) := by
  induction uses generalizing names s t with
  | nil =>
    rw [lookups, List.filterMap_nil, List.append_nil]
    exact h
  | cons use uses ih =>
    cases use with
    | lookup name =>
      have later := ih (h.lookup name)
      rwa [List.append_assoc] at later
    | record lookup duration now =>
      have place := h.getElem? lookup
      cases named : names[lookup]? with
      | none =>
        rw [named, Option.map_none] at place
        have unheld : s.2[lookup]? = none := Option.map_eq_none_iff.mp place.symm
        have idle : after s (.record lookup duration now) = s := by
          simp only [after, unheld]
        rw [List.foldl_cons, idle, entries, named]
        exact ih h
      | some name =>
        rw [named, Option.map_some] at place
        obtain ⟨handle, holds, found⟩ := Option.map_eq_some_iff.mp place.symm
        have recorded : after s (.record lookup duration now) = (s.1.record handle duration now, s.2) := by
          simp only [after, holds]
        rw [List.foldl_cons, recorded, entries, named]
        exact ih (h.record found.symm)

private theorem meets_run (uses : List Use) : Meets (lookups uses) (run uses) ((entries [] uses).foldl .enter .empty) :=
  meets_empty.run uses

private theorem Meets.same_handle_iff (h : Meets names s t) {i j : Nat} {a b : String} (first : names[i]? = some a)
    (second : names[j]? = some b) : s.2[i]? = s.2[j]? ↔ a = b := by
  have place := h.getElem? i
  have place' := h.getElem? j
  rw [first, Option.map_some] at place
  rw [second, Option.map_some] at place'
  obtain ⟨handle, holds, found⟩ := Option.map_eq_some_iff.mp place.symm
  obtain ⟨handle', holds', found'⟩ := Option.map_eq_some_iff.mp place'.symm
  rw [holds, holds', Option.some.injEq]
  constructor
  · rintro rfl
    exact s.1.apart a b handle found.symm found'.symm
  · rintro rfl
    exact Option.some.inj (found.trans found'.symm)

private theorem Meets.get?_snapshot_after (h : Meets names s t) {name : String} (present : name ∈ names) {use : Use}
    (foreign : use.name? names ≠ some name) : (after s use).1.snapshot.get? name = s.1.snapshot.get? name := by
  cases use with
  | lookup other =>
    rw [after, get?_snapshot_lookup]
    split
    next same =>
      obtain ⟨handle, found⟩ := Option.ne_none_iff_exists'.mp (mt (h.known name).mp (not_not_intro present))
      rw [same, get?_snapshot, found, Option.map_some, Option.getD_some]
    next => rfl
  | record lookup duration now =>
    have place := h.getElem? lookup
    cases holds : s.2[lookup]? with
    | none => simp only [after, holds]
    | some handle =>
      rw [holds, Option.map_some] at place
      obtain ⟨other, named, found⟩ := Option.map_eq_some_iff.mp place
      have different : other ≠ name := by
        rintro rfl
        exact foreign named
      simp only [after, holds]
      rw [get?_snapshot_record found, if_neg different]

private theorem run_concat (uses : List Use) (use : Use) : run (uses ++ [use]) = after (run uses) use := by
  rw [run, List.foldl_append]
  rfl

/-- Names may be looked up and durations be recorded in any order and through any handles. Then each name that was ever
looked up has one histogram, which tells the durations recorded under that name: how many, the least, the greatest and
the last, none of these three if there are none. What happens under other names, and more look-ups, do not change it.
Names that were never looked up have none. All of this is as if durations were recorded by name. -/
theorem snapshot_of_run (uses : List Use) :
    let s := run uses
    (∀ name ∈ lookups uses, ∃ h, s.1.snapshot.get? name = some h ∧ h.Summarizes (durations name uses) ∧
        (h.least = none ↔ h.count = 0) ∧ (h.greatest = none ↔ h.count = 0) ∧ (h.last = none ↔ h.count = 0)) ∧
      (∀ name, name ∉ lookups uses → s.1.snapshot.get? name = none) ∧
      (∀ name ∈ lookups uses, ∀ use : Use, use.name? (lookups uses) ≠ some name →
        (run (uses ++ [use])).1.snapshot.get? name = s.1.snapshot.get? name) ∧
      (∀ (i j : Nat) (a b : String), (lookups uses)[i]? = some a → (lookups uses)[j]? = some b → (s.2[i]? = s.2[j]? ↔ a = b)) ∧
      ∀ name, s.1.snapshot.get? name = ((entries [] uses).foldl Timings.enter .empty).histograms.get? name := by
  intro s
  have h : Meets (lookups uses) s ((entries [] uses).foldl .enter .empty) := meets_run uses
  refine ⟨fun name present => ?_, fun name absent => ?_, fun name present use foreign => ?_,
    fun i j a b first second => h.same_handle_iff first second, h.shown⟩
  · obtain ⟨handle, found⟩ := Option.ne_none_iff_exists'.mp (mt (h.known name).mp (not_not_intro present))
    have shown : s.1.snapshot.get? name = some (s.1.histograms.getD handle .empty) := by
      rw [get?_snapshot, found, Option.map_some]
    have start : (Timings.empty.histogram name).Summarizes [] := Histogram.summarizes_empty
    have summarizes := Timings.summarizes_foldl_enter start (entries [] uses)
    rw [Timings.histogram, ← h.shown name, shown, Option.getD_some, List.nil_append] at summarizes
    exact ⟨_, shown, summarizes, summarizes.absent_iff⟩
  · rw [get?_snapshot, (h.known name).mpr absent, Option.map_none]
  · rw [run_concat]
    exact h.get?_snapshot_after present foreign

/-- Two jobs are timed in turns, the first of them through its old handle and a new one. -/
theorem snapshot_of_two_jobs :
    let now : Instant := ⟨0, 0, by decide⟩
    let uses : List Use := [.lookup "a", .lookup "b", .record 0 7 now, .lookup "a", .record 2 5 now, .record 1 9 now]
    let s := run uses
    (∃ h, s.1.snapshot.get? "a" = some h ∧ (run (uses ++ [.record 1 3 now])).1.snapshot.get? "a" = some h ∧
        h.count = 2 ∧ h.least = some 5 ∧ h.greatest = some 7 ∧ h.last = some 5) ∧
      s.2[0]? = s.2[2]? ∧ s.2[0]? ≠ s.2[1]? ∧ s.1.snapshot.get? "c" = none := by
  intro now uses s
  obtain ⟨looked, unknown, undisturbed, handles, -⟩ := snapshot_of_run uses
  obtain ⟨h, shown, summarizes, -⟩ := looked "a" (by decide)
  have recorded : durations "a" uses = [7, 5] := rfl
  rw [recorded] at summarizes
  have later := undisturbed "a" (by decide) (.record 1 3 now) (by decide)
  have apart : ¬ s.2[0]? = s.2[1]? := mt (handles 0 1 "a" "b" rfl rfl).mp (by decide)
  exact ⟨⟨h, shown, later.trans shown, summarizes.count, summarizes.least, summarizes.greatest, summarizes.last⟩,
    (handles 0 2 "a" "a" rfl rfl).mpr rfl, apart, unknown "c" (by decide)⟩

end Run

end AnomalyWatch.SharedTimings
