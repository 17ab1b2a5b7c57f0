import AnomalyWatch.Proofs.Files.Listing
import Mathlib.Data.List.Induction
import Mathlib.Data.List.Sort
import Mathlib.Data.List.TakeWhile

/-!
What a store of specs holds after loading a directory, and what is reported of each file.

Files are judged one after the other: by their names, then by what is in them, then by the ids of the valid files in
front. A file that cannot be used takes no id. The store holds what the files offer and nothing that it held before.
-/

set_option autoImplicit false
set_option relaxedAutoImplicit false

namespace AnomalyWatch.SpecDirectory

section Judgement

variable {hidden : FileName → Prop}

private theorem skipReason?_of_hidden {name : FileName} (dotfile : name.Hidden) : skipReason? name = some "dotfile" :=
  if_pos (FileName.isHidden_iff.mpr dotfile)

private theorem skipReason?_of_isYaml {name : FileName} (shown : ¬ name.Hidden) (yaml : name.IsYaml) :
    skipReason? name = none := by
  rw [skipReason?, FileName.isHidden_eq_false_iff.mpr shown]
  rcases FileName.isYaml_iff_ending?.mp yaml with ending | ending <;> rw [ending] <;> rfl

private theorem skipReason?_of_not_isYaml {name : FileName} (shown : ¬ name.Hidden) (foreign : ¬ name.IsYaml) :
    skipReason? name = some "not a YAML file" := by
  rw [FileName.isYaml_iff_ending?, not_or] at foreign
  rw [skipReason?, FileName.isHidden_eq_false_iff.mpr shown]
  simp only [Bool.false_eq_true, if_false]
  split
  next ending => exact absurd ending foreign.1
  next ending => exact absurd ending foreign.2
  next => rfl

/-- The file is not passed over, and a spec is in it. -/
structure Found.Offers (hidden : FileName → Prop) (f : Found) (spec : Spec) : Prop where
  shown : ¬ hidden f.name
  yaml : f.name.IsYaml
  read : readSpec (FileName.pathText f.names) f.content = .ok spec

def Taken (hidden : FileName → Prop) (before : List Found) (id : Nat) : Prop :=
  ∃ g ∈ before, ∃ spec : Spec, g.Offers hidden spec ∧ spec.id = id

/-- What becomes of a file, given which names are hidden and the files in front of it. -/
inductive Judged (hidden : FileName → Prop) (before : List Found) (f : Found) : LoadStatus → Prop
  | dotfile (dotfile : hidden f.name) : Judged hidden before f (.skipped "dotfile")
  | foreign (shown : ¬ hidden f.name) (foreign : ¬ f.name.IsYaml) : Judged hidden before f (.skipped "not a YAML file")
  | broken {cause : Error} (shown : ¬ hidden f.name) (yaml : f.name.IsYaml)
      (unread : readSpec (FileName.pathText f.names) f.content = .error cause) :
    Judged hidden before f (.failed (.broken cause))
  | duplicate {spec : Spec} (offers : f.Offers hidden spec) (taken : Taken hidden before spec.id) :
    Judged hidden before f (.failed (.duplicate spec.id))
  | loaded {spec : Spec} (offers : f.Offers hidden spec) (free : ¬ Taken hidden before spec.id) :
    Judged hidden before f (.loaded spec.id)

def loadedId? (l : Load) : Option Nat :=
  match l.status with
  | .loaded id => some id
  | _ => none

/-- What is reported of the files, and which specs are held because of them. -/
structure Records (hidden : FileName → Prop) (fs : List Found) (so : Loads) : Prop where
  /-- One entry for each file, in their order. -/
  reported : so.loads.map Load.path = fs.map Found.names
  judged : ∀ before f after, fs = before ++ f :: after →
    ∃ status, so.loads[before.length]? = some ⟨f.names, status⟩ ∧ Judged hidden before f status
  /-- The first file that offers an id has its spec held under it. -/
  held : ∀ id spec, so.specs.get? id = some spec ↔
    ∃ before f after, fs = before ++ f :: after ∧ f.Offers hidden spec ∧ spec.id = id ∧ ¬ Taken hidden before id
  /-- One spec for each file that was loaded, under its id. -/
  loaded : so.specs.keys.Perm (so.loads.filterMap loadedId?)
  kept : ∀ e ∈ so.specs.entries, e.2.id = e.1 ∧ Text.allBlank e.2.collection = false
  known : ∀ id, so.specs.contains id = true ↔ Taken hidden fs id

section Step

variable {fs : List Found} {f : Found} {so : Loads} {spec : Spec} {status : LoadStatus}

private theorem split_concat {α : Type} {before after xs : List α} {a b : α} (same : xs ++ [a] = before ++ b :: after) :
    (before = xs ∧ b = a) ∨ ∃ more, xs = before ++ b :: more := by
  rcases List.eq_nil_or_concat after with rfl | ⟨more, last, rfl⟩
  · obtain ⟨rfl, one⟩ := List.append_inj' same rfl
    exact .inl ⟨rfl, (List.cons.inj one).1.symm⟩
  · rw [List.concat_eq_append, ← List.cons_append, ← List.append_assoc] at same
    exact .inr ⟨more, (List.append_inj' same rfl).1⟩

private theorem taken_concat {id : Nat} :
    Taken hidden (fs ++ [f]) id ↔ Taken hidden fs id ∨ ∃ spec : Spec, f.Offers hidden spec ∧ spec.id = id := by
  simp only [Taken, List.mem_append, List.mem_singleton, or_and_right, exists_or, exists_eq_left]

theorem Found.Offers.unique {other : Spec} (offers : f.Offers hidden spec)
    (again : f.Offers hidden other) : spec = other :=
  Except.ok.inj (offers.read.symm.trans again.read)

private theorem Found.Offers.collected (offers : f.Offers hidden spec) : Text.allBlank spec.collection = false := by
  have read := offers.read
  unfold readSpec at read
  split at read
  next => cases read
  next =>
    split at read
    next => cases read
    next =>
      split at read
      next => cases read
      next collected =>
        obtain rfl := Except.ok.inj read
        exact Bool.eq_false_iff.mpr collected

private theorem records_nil : Records hidden [] ⟨∅, []⟩ where
  reported := rfl
  judged := by simp
  held id spec := by
    refine iff_of_false (fun found => by cases found) ?_
    rintro ⟨before, f, after, none, -⟩
    simp at none
  loaded := .nil
  kept e present := by cases present
  known id := by
    refine iff_of_false (fun found => by cases found) ?_
    rintro ⟨g, present, -⟩
    cases present

private theorem Records.length_loads (records : Records hidden fs so) : so.loads.length = fs.length := by
  simpa using congrArg List.length records.reported

private theorem Records.judged_concat (records : Records hidden fs so) (judged : Judged hidden fs f status) :
    ∀ before g after, fs ++ [f] = before ++ g :: after →
      ∃ status', (so.loads ++ [⟨f.names, status⟩])[before.length]? = some ⟨g.names, status'⟩ ∧
        Judged hidden before g status' := by
  intro before g after same
  rcases split_concat same with ⟨rfl, rfl⟩ | ⟨more, rfl⟩
  · exact ⟨status, by simp [← records.length_loads], judged⟩
  · obtain ⟨status', reported, judged'⟩ := records.judged before g more rfl
    have inside : before.length < so.loads.length := (List.getElem?_eq_some_iff.mp reported).1
    exact ⟨status', by rw [List.getElem?_append_left inside, reported], judged'⟩

private theorem Records.reported_concat (records : Records hidden fs so) (f : Found) (status : LoadStatus) :
    (so.loads ++ [(⟨f.names, status⟩ : Load)]).map Load.path = (fs ++ [f]).map Found.names := by
  rw [List.map_append, List.map_append, records.reported]
  rfl

theorem Records.passed (records : Records hidden fs so) (judged : Judged hidden fs f status)
    (unloaded : loadedId? ⟨f.names, status⟩ = none)
    (old : ∀ spec : Spec, f.Offers hidden spec → Taken hidden fs spec.id) :
    Records hidden (fs ++ [f]) ⟨so.specs, so.loads ++ [⟨f.names, status⟩]⟩ where
  reported := records.reported_concat f status
  judged := records.judged_concat judged
  held id spec := by
    rw [records.held]
    constructor
    · rintro ⟨before, g, after, rfl, offers, same, free⟩
      exact ⟨before, g, after ++ [f], by simp, offers, same, free⟩
    · rintro ⟨before, g, after, split, offers, rfl, free⟩
      rcases split_concat split with ⟨rfl, rfl⟩ | ⟨more, rfl⟩
      · exact absurd (old spec offers) free
      · exact ⟨before, g, more, rfl, offers, rfl, free⟩
  loaded := by
    rw [List.filterMap_append, List.filterMap_cons_none unloaded, List.filterMap_nil, List.append_nil]
    exact records.loaded
  kept := records.kept
  known id := by
    rw [records.known, taken_concat]
    constructor
    · exact .inl
    · rintro (taken | ⟨spec, offers, rfl⟩)
      · exact taken
      · exact old spec offers

theorem Records.entered (records : Records hidden fs so) (offers : f.Offers hidden spec)
    (free : ¬ Taken hidden fs spec.id) :
    Records hidden (fs ++ [f]) ⟨so.specs.insert spec.id spec, so.loads ++ [⟨f.names, .loaded spec.id⟩]⟩ where
  reported := records.reported_concat f _
  judged := records.judged_concat (.loaded offers free)
  held id other := by
    rw [SortedMap.get?_insert]
    constructor
    · intro found
      split at found
      next same =>
        obtain rfl := Option.some.inj found
        exact ⟨fs, f, [], rfl, offers, same, same ▸ free⟩
      next =>
        obtain ⟨before, g, after, rfl, offers, same, free⟩ := (records.held id other).mp found
        exact ⟨before, g, after ++ [f], by simp, offers, same, free⟩
    · rintro ⟨before, g, after, split, offers', rfl, free'⟩
      rcases split_concat split with ⟨rfl, rfl⟩ | ⟨more, rfl⟩
      · obtain rfl := offers.unique offers'
        exact if_pos rfl
      · have other' : spec.id ≠ other.id := by
          intro same
          exact free ⟨g, by simp, other, offers', same.symm⟩
        rw [if_neg other', records.held]
        exact ⟨before, g, more, rfl, offers', rfl, free'⟩
  loaded := by
    have fresh : spec.id ∉ so.specs.keys := by
      rw [← SortedMap.contains_iff_mem_keys, records.known]
      exact free
    have grown : (so.specs.insert spec.id spec).keys.Perm (spec.id :: so.specs.keys) := by
      refine (List.perm_ext_iff_of_nodup (SortedMap.nodup_keys _) ?_).mpr fun id => ?_
      · exact List.nodup_cons.mpr ⟨fresh, SortedMap.nodup_keys _⟩
      · rw [SortedMap.mem_keys_insert, List.mem_cons]
    rw [List.filterMap_append]
    exact grown.trans ((records.loaded.cons spec.id).trans (List.perm_append_singleton ..).symm)
  kept e present := by
    rcases SortedMap.mem_entries_insert present with rfl | present
    · exact ⟨rfl, offers.collected⟩
    · exact records.kept e present
  known id := by
    rw [SortedMap.contains_iff_mem_keys, SortedMap.mem_keys_insert, ← SortedMap.contains_iff_mem_keys,
      records.known, taken_concat]
    constructor
    · rintro (rfl | taken)
      · exact .inr ⟨spec, offers, rfl⟩
      · exact .inl taken
    · rintro (taken | ⟨other, offers', rfl⟩)
      · exact .inr taken
      · exact .inl (congrArg Spec.id (offers'.unique offers))

theorem Records.step (records : Records FileName.Hidden fs so) (f : Found) :
    Records FileName.Hidden (fs ++ [f]) (loadFile so f) := by
  by_cases dotfile : f.name.Hidden
  · rw [loadFile, skipReason?_of_hidden dotfile]
    exact records.passed (.dotfile dotfile) rfl fun spec offers => absurd dotfile offers.shown
  · by_cases yaml : f.name.IsYaml
    · rw [loadFile, skipReason?_of_isYaml dotfile yaml]
      cases read : readSpec (FileName.pathText f.names) f.content with
      | error cause =>
        refine records.passed (.broken dotfile yaml read) rfl fun spec offers => ?_
        cases read.symm.trans offers.read
      | ok spec =>
        have offers : f.Offers FileName.Hidden spec := ⟨dotfile, yaml, read⟩
        dsimp only
        split
        next known =>
          have taken : Taken FileName.Hidden fs spec.id := (records.known spec.id).mp known
          refine records.passed (.duplicate offers taken) rfl fun other again => ?_
          rwa [← offers.unique again]
        next unknown => exact records.entered offers fun taken => unknown ((records.known spec.id).mpr taken)
    · rw [loadFile, skipReason?_of_not_isYaml dotfile yaml]
      exact records.passed (.foreign dotfile yaml) rfl fun spec offers => absurd offers.yaml yaml

private theorem records_foldl (fs : List Found) : Records FileName.Hidden fs (fs.foldl loadFile ⟨∅, []⟩) := by
  induction fs using List.reverseRecOn with
  | nil => exact records_nil
  | append_singleton fs f ih =>
    rw [List.foldl_append]
    exact ih.step f

end Step

end Judgement

section Stores

variable {hidden : FileName → Prop} {root root' : Option FileTree} {fs : List Found} {so : Loads}

def FoundIn (hidden : FileName → Prop) (root : Option FileTree) (f : Found) : Prop :=
  ∃ t ∈ root, FoundBelow hidden t f

/-- Two roots with files at the same places, and with the same bytes in those that are not passed over. -/
structure SameSpecs (hidden : FileName → Prop) (root root' : Option FileTree) : Prop where
  places : ∀ names, (∃ content, FoundIn hidden root ⟨names, content⟩) ↔ ∃ content, FoundIn hidden root' ⟨names, content⟩
  contents : ∀ f : Found, ¬ hidden f.name → f.name.IsYaml → (FoundIn hidden root f ↔ FoundIn hidden root' f)

/-- What loading a root directory reports and leaves in a store, where some names are hidden. -/
structure Snapshot (hidden : FileName → Prop) (root : Option FileTree) (fs : List Found) (loads : List Load)
    (specs : SortedMap Nat Spec) : Prop where
  /-- Every file that no hidden directory stands above. -/
  found : ∀ f, f ∈ fs ↔ FoundIn hidden root f
  /-- Each once, a directory in the place of its name. -/
  ordered : fs.Pairwise fun f g => f.names < g.names
  records : Records hidden fs ⟨specs, loads⟩
  ascending : (specs.values.map Spec.id).Pairwise (· < ·)
  /-- What is in a file that is passed over does not matter, and what the store held before does not either. -/
  unread : ∀ root' previous, (∀ t ∈ root', t.Distinct) → SameSpecs hidden root root' →
    (loadAll root').run previous = (loads, specs)

theorem Records.ascending (records : Records hidden fs so) : (so.specs.values.map Spec.id).Pairwise (· < ·) := by
  have ids : so.specs.values.map Spec.id = so.specs.keys := by
    simp only [SortedMap.values, SortedMap.keys, List.map_map]
    exact List.map_congr_left fun e present => (records.kept e present).1
  rw [ids]
  exact List.pairwise_map.mpr (so.specs.ascending.imp Nat.compare_eq_lt.mp)

theorem FoundIn.unique {f g : Found} (first : FoundIn hidden root f) (second : FoundIn hidden root g)
    (names : f.names = g.names) : f.content = g.content := by
  obtain ⟨t, here, below⟩ := first
  obtain ⟨t', here', below'⟩ := second
  obtain rfl : t = t' := Option.some.inj (here.symm.trans here')
  have same := below.there
  rw [names, below'.there] at same
  exact (FileTree.file.inj (Option.some.inj same)).symm

private theorem loadFile_congr (so : Loads) {f g : Found} (names : f.names = g.names)
    (contents : ¬ f.name.Hidden → f.name.IsYaml → f.content = g.content) : loadFile so f = loadFile so g := by
  have name : f.name = g.name := congrArg (fun path : List FileName => path.getLastD ⟨[]⟩) names
  by_cases dotfile : f.name.Hidden
  · rw [loadFile, loadFile, ← name, ← names, skipReason?_of_hidden dotfile]
  · by_cases yaml : f.name.IsYaml
    · rw [loadFile, loadFile, ← name, ← names, ← contents dotfile yaml]
    · rw [loadFile, loadFile, ← name, ← names, skipReason?_of_not_isYaml dotfile yaml]

private theorem foldl_loadFile_congr {fs gs : List Found} (names : fs.map Found.names = gs.map Found.names)
    (contents : ∀ f ∈ fs, ∀ g ∈ gs, f.names = g.names → ¬ f.name.Hidden → f.name.IsYaml →
      f.content = g.content) (so : Loads) : fs.foldl loadFile so = gs.foldl loadFile so := by
  induction fs generalizing gs so with
  | nil =>
    obtain rfl : gs = [] := List.map_eq_nil_iff.mp names.symm
    rfl
  | cons f fs ih =>
    cases gs with
    | nil => cases names
    | cons g gs =>
      obtain ⟨first, later⟩ := List.cons.inj names
      have head : loadFile so f = loadFile so g :=
        loadFile_congr so first (contents f List.mem_cons_self g List.mem_cons_self first)
      rw [List.foldl_cons, List.foldl_cons, head]
      exact ih later (fun f present g present' => contents f (.tail _ present) g (.tail _ present')) _

private theorem mem_names_files_iff (distinct : ∀ t ∈ root, t.Distinct) {names : List FileName} :
    names ∈ (files root).map Found.names ↔ ∃ content, FoundIn FileName.Hidden root ⟨names, content⟩ := by
  rw [List.mem_map]
  constructor
  · rintro ⟨⟨names, content⟩, present, rfl⟩
    exact ⟨content, (mem_files_iff distinct).mp present⟩
  · rintro ⟨content, found⟩
    exact ⟨_, (mem_files_iff distinct).mpr found, rfl⟩

private theorem names_files_congr (distinct : ∀ t ∈ root, t.Distinct) (distinct' : ∀ t ∈ root', t.Distinct)
    (same : SameSpecs FileName.Hidden root root') : (files root).map Found.names = (files root').map Found.names := by
  have ordered := List.pairwise_map.mpr (pairwise_files distinct)
  have ordered' := List.pairwise_map.mpr (pairwise_files distinct')
  have once := ordered.imp fun before => Std.ne_of_lt before
  have once' := ordered'.imp fun before => Std.ne_of_lt before
  have perm : ((files root).map Found.names).Perm ((files root').map Found.names) := by
    refine (List.perm_ext_iff_of_nodup once once').mpr fun names => ?_
    rw [mem_names_files_iff distinct, mem_names_files_iff distinct', same.places]
  exact perm.eq_of_pairwise (fun _ _ _ _ before after => absurd before (List.lt_asymm after)) ordered ordered'

private theorem load_congr (distinct : ∀ t ∈ root, t.Distinct) (distinct' : ∀ t ∈ root', t.Distinct)
    (same : SameSpecs FileName.Hidden root root') : load root = load root' := by
  refine foldl_loadFile_congr (names_files_congr distinct distinct' same) ?_ _
  intro f present g present' names shown yaml
  have there : FoundIn FileName.Hidden root' f := (same.contents f shown yaml).mp ((mem_files_iff distinct).mp present)
  exact there.unique ((mem_files_iff distinct').mp present') names

/-- Loading a directory replaces what the store held by a snapshot of the directory, where a name is hidden if it is a
text that starts with a dot. -/
theorem loadAll_snapshot (distinct : ∀ t ∈ root, t.Distinct) (previous : SortedMap Nat Spec) :
    ∃ fs loads specs, (loadAll root).run previous = (loads, specs) ∧ Snapshot FileName.Hidden root fs loads specs := by
  refine ⟨files root, (load root).loads, (load root).specs, rfl, ?_⟩
  have records : Records FileName.Hidden (files root) (load root) := records_foldl (files root)
  refine ⟨fun f => mem_files_iff distinct, pairwise_files distinct, records, records.ascending, ?_⟩
  intro root' previous' distinct' same
  show ((load root').loads, (load root').specs) = _
  rw [load_congr distinct distinct' same]

def sampleText : String :=
  "id: 1\ntype: THRESHOLD\nmetric: latency\ncollection: web\ncron: 0 0 * * * *\nwindow_size: 1\nwindow_unit: DAYS\n" ++
    "bucket_size: 1\nbucket_unit: HOURS\n"

private theorem exists_spec_of_text {text : String} {id : Nat}
    (read : ((Yaml.Document.parse? text).bind fun d => Spec.ofDocument? d.format d.root).any
      (fun spec => spec.id == id && !Text.allBlank spec.collection) = true) :
    ∃ spec : Spec, (∀ path, readSpec path text.toUTF8 = .ok spec) ∧ spec.id = id := by
  cases parsed : (Yaml.Document.parse? text).bind fun d => Spec.ofDocument? d.format d.root with
  | none =>
    rw [parsed] at read
    cases read
  | some spec =>
    rw [parsed] at read
    simp only [Option.any_some, Bool.and_eq_true, beq_iff_eq, Bool.not_eq_true'] at read
    refine ⟨spec, fun path => ?_, read.1⟩
    simp only [readSpec, Text.fromUTF8?_toUTF8, parsed, read.2, Bool.false_eq_true, if_false]

private theorem exists_spec_sample :
    ∃ spec : Spec, (∀ path, readSpec path sampleText.toUTF8 = .ok spec) ∧ spec.id = 1 :=
  exists_spec_of_text (by decide +kernel)

/-- Bytes at two places that are considered, behind a hidden directory and a hidden file, and in a file of another
kind. -/
def sampleRoot (content : ByteArray) : FileTree :=
  .directory [(.ofText "notes.txt", .file content), (.ofText "b.yml", .file content), (.ofText ".d.yml", .file content),
    (.ofText ".old", .directory [(.ofText "c.yml", .file content)]),
    (.ofText "a", .directory [(.ofText "c.yml", .file content)])]

private theorem distinct_single (name : FileName) (content : ByteArray) :
    (FileTree.directory [(name, .file content)]).Distinct :=
  .directory (by simp) (List.forall_mem_singleton.mpr (.file content))

private theorem distinct_sampleRoot (content : ByteArray) : (sampleRoot content).Distinct := by
  refine .directory (by simp only [List.map_cons, List.map_nil]; decide +kernel) ?_
  simp only [List.forall_mem_cons]
  exact ⟨.file _, .file _, .file _, distinct_single _ _, distinct_single _ _, by simp⟩

private theorem files_sampleRoot (content : ByteArray) : files (some (sampleRoot content)) =
    [⟨[.ofText ".d.yml"], content⟩, ⟨[.ofText "a", .ofText "c.yml"], content⟩, ⟨[.ofText "b.yml"], content⟩,
      ⟨[.ofText "notes.txt"], content⟩] := by
  have shown : (FileName.ofText "a").isHidden = false := by decide +kernel
  have hidden : (FileName.ofText ".old").isHidden = true := by decide +kernel
  -- What merging compares, in its order.
  have compared : ¬ FileName.ofText "notes.txt" ≤ .ofText "b.yml" ∧ ¬ FileName.ofText "b.yml" ≤ .ofText ".d.yml" ∧
      FileName.ofText ".old" ≤ .ofText "a" ∧ FileName.ofText ".d.yml" ≤ .ofText ".old" ∧
      ¬ FileName.ofText "b.yml" ≤ .ofText ".old" ∧ ¬ FileName.ofText "b.yml" ≤ .ofText "a" := by
    decide +kernel
  simp [files, sampleRoot, filesOf, filesAt, shown, hidden, Found.under, inOrder, List.mergeSort,
    List.MergeSort.Internal.splitInTwo, compared]

private theorem load_sampleRoot {content : ByteArray} {spec : Spec} (read : ∀ path, readSpec path content = .ok spec) :
    load (some (sampleRoot content)) =
      ⟨SortedMap.insert ∅ spec.id spec,
        [⟨[.ofText ".d.yml"], .skipped "dotfile"⟩, ⟨[.ofText "a", .ofText "c.yml"], .loaded spec.id⟩,
          ⟨[.ofText "b.yml"], .failed (.duplicate spec.id)⟩, ⟨[.ofText "notes.txt"], .skipped "not a YAML file"⟩]⟩ := by
  have dotfile : skipReason? (.ofText ".d.yml") = some "dotfile" := by decide +kernel
  have first : skipReason? (.ofText "c.yml") = none := by decide +kernel
  have second : skipReason? (.ofText "b.yml") = none := by decide +kernel
  have foreign : skipReason? (.ofText "notes.txt") = some "not a YAML file" := by decide +kernel
  have free : (∅ : SortedMap Nat Spec).contains spec.id = false := rfl
  have taken : (SortedMap.insert ∅ spec.id spec).contains spec.id = true :=
    SortedMap.contains_iff_mem_keys.mpr (SortedMap.mem_keys_insert.mpr (.inl rfl))
  rw [load, files_sampleRoot]
  simp [loadFile, Found.name, dotfile, first, second, foreign, read, free, taken]

/-- A spec of another id was held before the directory was loaded. -/
theorem snapshot_of_sample :
    let root := sampleRoot sampleText.toUTF8
    let spec : Spec :=
      { id := 9, functionType := "THRESHOLD", metric := "latency", collection := "web", cron := "0 0 * * * *"
        windowSize := 1, windowUnit := .days, windowDelay := none, windowDelayUnit := none, bucketSize := 1
        bucketUnit := .hours, exploreDimensions := none, properties := .empty, isActive := true }
    (∀ t ∈ some root, t.Distinct) ∧ ∃ fs loads specs,
      (loadAll (some root)).run (SortedMap.empty.insert 9 spec) = (loads, specs) ∧
        Snapshot FileName.Hidden (some root) fs loads specs ∧ specs.keys = [1] ∧
        loads = [⟨[.ofText ".d.yml"], .skipped "dotfile"⟩, ⟨[.ofText "a", .ofText "c.yml"], .loaded 1⟩,
          ⟨[.ofText "b.yml"], .failed (.duplicate 1)⟩, ⟨[.ofText "notes.txt"], .skipped "not a YAML file"⟩] := by
  intro root spec
  have distinct : ∀ t ∈ some root, t.Distinct := by
    rintro t ⟨⟩
    exact distinct_sampleRoot _
  obtain ⟨fs, loads, specs, run, snapshot⟩ := loadAll_snapshot distinct (SortedMap.empty.insert 9 spec)
  obtain ⟨offered, read, one⟩ := exists_spec_sample
  obtain ⟨rfl, rfl⟩ : (load (some root)).loads = loads ∧ (load (some root)).specs = specs := Prod.mk.inj run
  refine ⟨distinct, fs, _, _, run, snapshot, ?_⟩
  rw [load_sampleRoot read, one]
  exact ⟨rfl, rfl⟩

/-- Bytes in a file and in a directory whose names start with a dot and are no texts. -/
def undecodableRoot (content : ByteArray) : FileTree :=
  .directory [(⟨[0x2E, 0xFF]⟩, .directory [(.ofText "notes.txt", .file content)]),
    (⟨[0x2E, 0xFF, 0x2E, 0x79, 0x6D, 0x6C]⟩, .file content)]

private theorem distinct_undecodableRoot (content : ByteArray) : (undecodableRoot content).Distinct := by
  refine .directory (by simp only [List.map_cons, List.map_nil]; decide +kernel) ?_
  simp only [List.forall_mem_cons]
  exact ⟨distinct_single _ _, .file _, by simp⟩

private theorem files_undecodableRoot (content : ByteArray) : files (some (undecodableRoot content)) =
    [⟨[⟨[0x2E, 0xFF]⟩, .ofText "notes.txt"], content⟩, ⟨[⟨[0x2E, 0xFF, 0x2E, 0x79, 0x6D, 0x6C]⟩], content⟩] := by
  have shown : FileName.isHidden ⟨[0x2E, 0xFF]⟩ = false := by decide +kernel
  have ordered : (⟨[0x2E, 0xFF]⟩ : FileName) ≤ ⟨[0x2E, 0xFF, 0x2E, 0x79, 0x6D, 0x6C]⟩ := by decide +kernel
  simp [files, undecodableRoot, filesOf, filesAt, shown, Found.under, inOrder, List.mergeSort_of_pairwise, ordered]

private theorem load_undecodableRoot {content : ByteArray} {spec : Spec}
    (read : ∀ path, readSpec path content = .ok spec) : load (some (undecodableRoot content)) =
      ⟨SortedMap.insert ∅ spec.id spec, [⟨[⟨[0x2E, 0xFF]⟩, .ofText "notes.txt"], .skipped "not a YAML file"⟩,
        ⟨[⟨[0x2E, 0xFF, 0x2E, 0x79, 0x6D, 0x6C]⟩], .loaded spec.id⟩]⟩ := by
  have foreign : skipReason? (.ofText "notes.txt") = some "not a YAML file" := by decide +kernel
  have dotfile : skipReason? ⟨[0x2E, 0xFF, 0x2E, 0x79, 0x6D, 0x6C]⟩ = none := by decide +kernel
  have free : (∅ : SortedMap Nat Spec).contains spec.id = false := rfl
  rw [load, files_undecodableRoot]
  simp [loadFile, Found.name, foreign, dotfile, read, free]

/-- A dot in front of a name that is no text hides nothing: the file is parsed and loaded, and what is in the directory
is reported. So this is no snapshot in which every name that starts with a dot is hidden. -/
theorem undecodable_dotfile_loaded :
    let root := undecodableRoot sampleText.toUTF8
    root.Distinct ∧ ∃ loads specs, (loadAll (some root)).run ∅ = (loads, specs) ∧ specs.keys = [1] ∧
      loads = [⟨[⟨[0x2E, 0xFF]⟩, .ofText "notes.txt"], .skipped "not a YAML file"⟩,
        ⟨[⟨[0x2E, 0xFF, 0x2E, 0x79, 0x6D, 0x6C]⟩], .loaded 1⟩] ∧
      ∀ fs, ¬ Snapshot FileName.Dotted (some root) fs loads specs := by
  intro root
  obtain ⟨spec, read, one⟩ := exists_spec_sample
  have loaded := load_undecodableRoot read
  rw [one] at loaded
  refine ⟨distinct_undecodableRoot _, _, _, congrArg (fun so : Loads => (so.loads, so.specs)) loaded, rfl, rfl, ?_⟩
  intro fs snapshot
  -- The file that offers the spec is one of the two: one is below a dotted directory, the other is a dotfile.
  obtain ⟨g, present, offered, offers, -⟩ := (snapshot.records.known 1).mp rfl
  obtain ⟨t, -, below⟩ := (snapshot.found g).mp present
  have place : g.names ∈ fs.map Found.names := List.mem_map_of_mem present
  rw [← snapshot.records.reported, List.map_cons, List.map_cons, List.map_nil, List.mem_cons,
    List.mem_singleton] at place
  rcases place with inside | beside
  · exact below.visible ⟨[0x2E, 0xFF]⟩ (by rw [inside]; exact List.mem_cons_self) ⟨_, rfl⟩
  · exact offers.shown (by rw [Found.name, beside]; exact ⟨_, rfl⟩)

end Stores

end AnomalyWatch.SpecDirectory
