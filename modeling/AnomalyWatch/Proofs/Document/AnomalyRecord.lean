import AnomalyWatch.Document.AnomalyRecord
import AnomalyWatch.Proofs.Decimal.Written
import AnomalyWatch.Proofs.Json.RoundTrip
import AnomalyWatch.Proofs.Time.Stamp

/-!
An anomaly reads back from its JSON object as it was, up to its score and its weight: numbers that are not
whole are written with the digits that tell them apart, and what those digits read as is a matter of the
reader of numbers.
-/

set_option autoImplicit false
set_option relaxedAutoImplicit false

namespace AnomalyWatch

namespace Json

@[simp]
theorem text?_ofString (s : String) : text? (ofString s) = some s := rfl

@[simp]
theorem texts?_ofStrings (ss : List String) : texts? (.array (ss.map ofString)) = some ss := by
  have all : (ss.map ofString).mapM text? = some ss := by
    induction ss with
    | nil => rfl
    | cons s ss ih => simp [ih]
  exact all

private theorem word?_ofNat {n : Nat} (fits : n ≤ Text.maxWord) : word? (ofNat n) = some n := by
  have digits : (Text.decimal n).all Text.isDigit = true :=
    List.all_eq_true.mpr fun _ => Text.isDigit_of_mem_decimal
  simp [word?, ofNat, wordOf?, digits, fits]

private theorem le_of_word?_ofNat {n m : Nat} (read : word? (ofNat n) = some m) : n ≤ Text.maxWord := by
  have digits : (Text.decimal n).all Text.isDigit = true :=
    List.all_eq_true.mpr fun _ => Text.isDigit_of_mem_decimal
  have kept : (some n).filter (fun n => decide (n ≤ Text.maxWord)) = some m := by
    simpa only [word?, ofNat, wordOf?, digits, if_true, Text.digitsValue_decimal] using read
  obtain ⟨same, fits⟩ := Option.filter_eq_some_iff.mp kept
  cases same
  exact of_decide_eq_true fits

private theorem le_of_optional?_ofNat {n m : Option Nat}
    (read : format.optional? format.word? (some (ofOption ofNat n)) = some m) :
    ∀ k ∈ n, k ≤ Text.maxWord := by
  rintro k rfl
  have shown : format.optional? format.word? (some (ofOption ofNat (some k))) =
      (word? (ofNat k)).map some := rfl
  rw [shown] at read
  obtain ⟨word, wordRead, -⟩ := Option.map_eq_some_iff.mp read
  exact le_of_word?_ofNat wordRead

private theorem optional?_ofOption {α : Type} {read : Json → Option α} {write : α → Json} {o : Option α}
    (reads : ∀ a ∈ o, read (write a) = some a) (present : ∀ a, isNull (write a) = false) :
    format.optional? read (some (ofOption write o)) = some o := by
  cases o with
  | none => rfl
  | some a => simp [Format.optional?, ofOption, format, present, reads a rfl]

theorem wellformed_ofNat (n : Nat) : (ofNat n).Wellformed := by
  have number := Wellformed.number (Literal.wellformed_ofNat n)
  rwa [Literal.chars_ofNat] at number

private theorem wellformed_ofOption {α : Type} {write : α → Json} (valid : ∀ a, (write a).Wellformed)
    (o : Option α) : (ofOption write o).Wellformed := by
  cases o with
  | none => exact .null
  | some a => exact valid a

private theorem record?_object {names : List String} {members : List (String × Json)}
    (named : members.map Prod.fst = names) (distinct : names.Nodup) :
    format.record? names (.object members) = some fun name => members.lookup name := by
  have single (name : String) : Format.occurrences name members ≤ 1 := by
    have counted : Format.occurrences name members = (members.map Prod.fst).count name := by
      rw [Format.occurrences, List.count, List.countP_map, List.countP_eq_length_filter]
      rfl
    rw [counted, named]
    exact List.nodup_iff_count.mp distinct name
  simp only [Format.record?, format, entries?]
  rw [if_pos (List.all_eq_true.mpr fun name _ => decide_eq_true (single name))]

private theorem textMap?_propertiesJson (p : Properties) : format.textMap? (Spec.propertiesJson p) = some p := by
  have all : (p.entries.map fun e => (e.1, ofString e.2)).mapM
      (fun e => (text? e.2).map fun t => (e.1, t)) = some p.entries := by
    induction p.entries with
    | nil => rfl
    | cons e es ih => simp [ih]
  simp only [Format.textMap?, format, entries?, Spec.propertiesJson, all, Option.bind_eq_bind,
    Option.bind_some, Option.pure_def, SortedMap.ofList_entries]

end Json

theorem Instant.ofJson?_toJson (t : Instant) : Instant.ofJson? t.toJson = some t := by
  simp [Instant.ofJson?, Instant.toJson]

theorem DimensionKey.ofJson?_toJson (k : DimensionKey) : DimensionKey.ofJson? k.toJson = some k := by
  simp [DimensionKey.ofJson?, DimensionKey.toJson]

namespace Anomaly

structure Storable (a : Anomaly) : Prop where
  id : ∀ id ∈ a.id, id ≤ Text.maxWord
  functionId : ∀ id ∈ a.functionId, id ≤ Text.maxWord

theorem ofJson?_toJson {a : Anomaly} (storable : a.Storable) :
    ofJson? a.toJson =
      (Json.float? (.ofFloat a.score)).bind fun score =>
        (Json.float? (.ofFloat a.weight)).map fun weight => { a with score, weight } := by
  have word (n : Option Nat) (fits : ∀ k ∈ n, k ≤ Text.maxWord) :
      Json.format.optional? Json.format.word? (some (.ofOption .ofNat n)) = some n :=
    Json.optional?_ofOption (fun k given => Json.word?_ofNat (fits k given)) fun _ => rfl
  have text (s : Option String) :
      Json.format.optional? Json.format.text? (some (.ofOption .ofString s)) = some s :=
    Json.optional?_ofOption (fun _ _ => rfl) fun _ => rfl
  have instant (t : Option Instant) :
      Json.format.optional? Instant.ofJson? (some (.ofOption Instant.toJson t)) = some t :=
    Json.optional?_ofOption (fun t _ => t.ofJson?_toJson) fun _ => rfl
  obtain ⟨field, record, id, functionId, functionType, functionProperties, collection, metric, dimensions,
      start, stop, score, weight, properties, createdAt⟩ : ∃ field,
      Json.format.record? fieldNames a.toJson = some field ∧
      field "id" = some (.ofOption .ofNat a.id) ∧
      field "function_id" = some (.ofOption .ofNat a.functionId) ∧
      field "function_type" = some (.ofOption .ofString a.functionType) ∧
      field "function_properties" = some (Spec.propertiesJson a.functionProperties) ∧
      field "collection" = some (.ofString a.collection) ∧
      field "metric" = some (.ofString a.metric) ∧
      field "dimensions" = some a.dimensions.toJson ∧
      field "start_time" = some a.start.toJson ∧
      field "end_time" = some a.stop.toJson ∧
      field "score" = some (.ofFloat a.score) ∧
      field "weight" = some (.ofFloat a.weight) ∧
      field "properties" = some (.ofOption .ofString a.properties) ∧
      field "created_at" = some (.ofOption Instant.toJson a.createdAt) :=
    ⟨_, Json.record?_object rfl (by decide), rfl, rfl, rfl, rfl, rfl, rfl, rfl, rfl, rfl, rfl, rfl, rfl, rfl⟩
  have map : Format.default? .empty Json.format.textMap? (some (Spec.propertiesJson a.functionProperties)) =
      some a.functionProperties := by
    rw [Format.default?, Json.textMap?_propertiesJson]
  have named (s : String) : (some (Json.ofString s)).bind Json.format.text? = some s := rfl
  have stamp (t : Instant) : (some t.toJson).bind Instant.ofJson? = some t := by
    rw [Option.bind_some, t.ofJson?_toJson]
  have key : (some a.dimensions.toJson).bind DimensionKey.ofJson? = some a.dimensions := by
    rw [Option.bind_some, a.dimensions.ofJson?_toJson]
  have step {α : Type} {o : Option α} {v : α} (given : o = some v) (rest : α → Option Anomaly) :
      (o >>= rest) = rest v := by
    rw [given]
    rfl
  unfold ofJson?
  rw [step record, id, step (word a.id storable.id), functionId,
    step (word a.functionId storable.functionId), functionType, step (text a.functionType),
    functionProperties, step map, collection, step (named _), metric, step (named _), dimensions, step key,
    start, step (stamp _), stop, step (stamp _), score, weight, properties, createdAt, Option.bind_some,
    Option.bind_some]
  cases Json.float? (.ofFloat a.score) with
  | none => rfl
  | some s =>
    cases Json.float? (.ofFloat a.weight) with
    | none => rfl
    | some w => exact (step (text a.properties) _).trans (step (instant a.createdAt) _)

theorem storable_of_ofJson? {a b : Anomaly} (read : ofJson? a.toJson = some b) : a.Storable := by
  obtain ⟨field, record, id, functionId⟩ : ∃ field,
      Json.format.record? fieldNames a.toJson = some field ∧
      field "id" = some (.ofOption .ofNat a.id) ∧
      field "function_id" = some (.ofOption .ofNat a.functionId) :=
    ⟨_, Json.record?_object rfl (by decide), rfl, rfl⟩
  unfold ofJson? at read
  obtain ⟨shown, found, read⟩ := Option.bind_eq_some_iff.mp read
  cases record.symm.trans found
  obtain ⟨first, firstRead, read⟩ := Option.bind_eq_some_iff.mp read
  obtain ⟨second, secondRead, -⟩ := Option.bind_eq_some_iff.mp read
  exact ⟨Json.le_of_optional?_ofNat (id ▸ firstRead), Json.le_of_optional?_ofNat (functionId ▸ secondRead)⟩

theorem wellformed_toJson (a : Anomaly) : a.toJson.Wellformed := by
  have number (n : Option Nat) : (Json.ofOption .ofNat n).Wellformed :=
    Json.wellformed_ofOption Json.wellformed_ofNat n
  have text (s : Option String) : (Json.ofOption .ofString s).Wellformed :=
    Json.wellformed_ofOption .text s
  have stamp (t : Instant) : t.toJson.Wellformed := .text t.zuluText
  have instant (t : Option Instant) : (Json.ofOption Instant.toJson t).Wellformed :=
    Json.wellformed_ofOption stamp t
  have properties : (Spec.propertiesJson a.functionProperties).Wellformed := by
    refine .object fun m present => ?_
    obtain ⟨e, -, rfl⟩ := List.mem_map.mp present
    exact .text e.2
  have dimensions : a.dimensions.toJson.Wellformed := by
    refine .array fun v present => ?_
    obtain ⟨s, -, rfl⟩ := List.mem_map.mp present
    exact .text s
  refine .object fun m present => ?_
  simp only [List.mem_cons, List.not_mem_nil, or_false] at present
  rcases present with rfl | rfl | rfl | rfl | rfl | rfl | rfl | rfl | rfl | rfl | rfl | rfl | rfl
  · exact number a.id
  · exact number a.functionId
  · exact text a.functionType
  · exact properties
  · exact .text a.collection
  · exact .text a.metric
  · exact dimensions
  · exact stamp a.start
  · exact stamp a.stop
  · exact Json.wellformed_ofFloat a.score
  · exact Json.wellformed_ofFloat a.weight
  · exact text a.properties
  · exact instant a.createdAt

end Anomaly

end AnomalyWatch
