import AnomalyWatch.Window

/-!
The two ways to a valid window agree.

The order of two given bounds can be checked as soon as they are read, or with the window that comes of them. Given
bounds are taken as they are, so the early check meets the very window that the late one would, and no other failure
stands between them: the texts are read first on both ways, and two given bounds leave nothing to derive.
-/

set_option autoImplicit false
set_option relaxedAutoImplicit false

namespace AnomalyWatch

namespace Bounds

def check (b : Bounds) : Except Error Unit :=
  match b.start, b.stop with
  | some start, some stop => Window.validate ⟨start, stop⟩
  | _, _ => .ok ()

private theorem parse_eq (start stop : Option String) :
    parse start stop = do
      let bounds ← read start stop
      bounds.check
      return bounds := by
  unfold parse
  cases read start stop with
  | error e => rfl
  | ok bounds =>
    obtain ⟨_ | start, _ | stop⟩ := bounds <;> rfl

end Bounds

namespace Window

variable {spec : Spec} {now : Instant}

private theorem resolve_of_given (start stop : Instant) :
    resolve spec now ⟨some start, some stop⟩ = .ok ⟨start, stop⟩ := rfl

/-- The check of the window finds whatever the check of its bounds would have found. -/
theorem check_resolve_validate (bounds : Bounds) :
    (do
      bounds.check
      let w ← resolve spec now bounds
      w.validate
      return w) = do
      let w ← resolve spec now bounds
      w.validate
      return w := by
  obtain ⟨start, stop⟩ := bounds
  cases start with
  | none => rfl
  | some start =>
    cases stop with
    | none => rfl
    | some stop =>
      have same : (⟨some start, some stop⟩ : Bounds).check = Window.validate ⟨start, stop⟩ := rfl
      rw [resolve_of_given, same]
      cases valid : Window.validate ⟨start, stop⟩ with
      | error e => simp only [valid, bind, Except.bind]
      | ok _ => simp only [valid, bind, Except.bind]

/-- A window that is computed from texts and then checked, and one whose bounds are checked with their texts before it
is resolved: it is the same window or the same failure, whichever of the texts are absent, malformed, inverted or out
of range. -/
theorem compute_validate_eq_parse (spec : Spec) (now : Instant) (start stop : Option String) :
    (do
      let w ← compute spec now start stop
      w.validate
      return w) = do
      let bounds ← Bounds.parse start stop
      let w ← resolve spec now bounds
      w.validate
      return w := by
  unfold compute
  simp only [Bounds.parse_eq, bind_assoc, pure_bind]
  apply bind_congr
  intro bounds
  exact (check_resolve_validate bounds).symm

end Window

end AnomalyWatch
