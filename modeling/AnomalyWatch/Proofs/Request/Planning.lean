import AnomalyWatch.Proofs.Text.CommaList
import AnomalyWatch.Request

/-!
The requests of a run are the declared dimensions.

A spec declares its dimensions as a comma-separated list, which has many ways to be written. All of them plan the same
requests, and a plan shows which names were declared: the whole collection comes first, and behind it each name in its
order, as often as it is declared.
-/

set_option autoImplicit false
set_option relaxedAutoImplicit false

namespace AnomalyWatch

/-- The names of the dimensions to break the metric out by, in whatever way they are written. -/
def Spec.Declares (s : Spec) (names : List String) : Prop :=
  match s.exploreDimensions with
  | some text => (∀ name ∈ names, Text.Listable name) ∧ Text.Lists text names
  | none => names = []

namespace Spec

variable {s : Spec} {names : List String}

private theorem dimensionNames_eq_iff : s.dimensionNames = names ↔ s.Declares names := by
  unfold dimensionNames Declares
  cases s.exploreDimensions with
  | none => exact eq_comm
  | some text => exact Text.commaList_eq_iff

private theorem dimensionNames_eq_nil_iff : s.dimensionNames = [] ↔
    ∀ text ∈ s.exploreDimensions, ∀ c ∈ text.toList, Text.isBlank c = true ∨ c = ',' := by
  unfold dimensionNames
  cases s.exploreDimensions with
  | none => simp
  | some text =>
    rw [Text.commaList_eq_nil_iff]
    simp

end Spec

namespace Request

variable {whole : Request} {names names' : List String}

private theorem eq_of_groupedBy_eq (r : Request) (a b : String) (same : r.groupedBy a = r.groupedBy b) : a = b :=
  Option.some.inj (congrArg groupBy same)

private theorem planned_eq_iff :
    whole :: names.map whole.groupedBy = whole :: names'.map whole.groupedBy ↔ names = names' := by
  rw [List.cons.injEq, List.map_inj_right whole.eq_of_groupedBy_eq]
  exact and_iff_right rfl

/-- A run asks for the whole collection, not broken out, and then for each declared dimension in its order, with the
same collection, aggregation and window; just these requests are planned exactly if just these names are declared, in
whatever way they are written. The whole collection stays alone exactly if no list is given or it holds nothing but
blanks and commas. -/
theorem plan_eq_iff_declares (spec : Spec) (aggregation : String) (window : Window) :
    (∀ names : List String,
      plan spec aggregation window =
          ⟨spec.collection, aggregation, window.start, window.stop, none⟩ ::
            names.map (fun name => ⟨spec.collection, aggregation, window.start, window.stop, some name⟩) ↔
        spec.Declares names) ∧
      (plan spec aggregation window = [⟨spec.collection, aggregation, window.start, window.stop, none⟩] ↔
        ∀ text ∈ spec.exploreDimensions, ∀ c ∈ text.toList, Text.isBlank c = true ∨ c = ',') := by
  have planned : ∀ names : List String, plan spec aggregation window =
      root spec aggregation window :: names.map (root spec aggregation window).groupedBy ↔
        spec.dimensionNames = names := by
    intro names
    exact planned_eq_iff
  constructor
  · intro names
    rw [← Spec.dimensionNames_eq_iff]
    exact planned names
  · rw [← Spec.dimensionNames_eq_nil_iff]
    exact planned []

end Request

end AnomalyWatch
