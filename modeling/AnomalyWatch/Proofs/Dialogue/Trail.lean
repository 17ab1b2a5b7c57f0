import AnomalyWatch.Dialogue

/-!
Beginnings of dialogues.

A trail is a course that need not have come to its end: it leads from a dialogue to what is left of it.
Every trail goes on to a course as soon as every call has some reply, so what holds of all courses and
passes to their beginnings holds of all trails. A course of `d >>= f` is a course of `d` followed by a
course of `f`.
-/

set_option autoImplicit false
set_option relaxedAutoImplicit false

namespace AnomalyWatch.Dialogue

variable {Call : Type} {Reply : Call → Type} {α β : Type}

/-- The calls of a dialogue can be answered in this way and then leave this dialogue to do. -/
inductive Trail : Dialogue Call Reply α → List ((c : Call) × Reply c) → Dialogue Call Reply α → Prop
  | nil (d : Dialogue Call Reply α) : Trail d [] d
  | ask {c : Call} {next : Reply c → Dialogue Call Reply α} {r : Reply c}
      {rest : List ((c : Call) × Reply c)} {e : Dialogue Call Reply α} (go : Trail (next r) rest e) :
      Trail (.ask c next) (⟨c, r⟩ :: rest) e

theorem Trail.concat {d : Dialogue Call Reply α} {log : List ((c : Call) × Reply c)} {c : Call}
    {next : Reply c → Dialogue Call Reply α} (h : Trail d log (.ask c next)) (r : Reply c) :
    Trail d (log ++ [⟨c, r⟩]) (next r) := by
  generalize hd : (Dialogue.ask c next : Dialogue Call Reply α) = left at h
  induction h with
  | nil d =>
    subst hd
    exact .ask (.nil _)
  | ask _ ih => exact .ask (ih hd)

theorem Trail.exists_course [∀ c, Inhabited (Reply c)] {d e : Dialogue Call Reply α}
    {log : List ((c : Call) × Reply c)} (h : Trail d log e) :
    ∃ rest a, Course d (log ++ rest) a := by
  induction h with
  | nil d =>
    induction d with
    | done a => exact ⟨[], a, .done a⟩
    | ask c next ih =>
      obtain ⟨rest, a, course⟩ := ih default
      exact ⟨⟨c, default⟩ :: rest, a, .ask course⟩
  | ask _ ih =>
    obtain ⟨rest, a, course⟩ := ih
    exact ⟨rest, a, .ask course⟩

theorem trail_done {d : Dialogue Call Reply α} {log : List ((c : Call) × Reply c)} {a : α} :
    Trail d log (.done a) ↔ Course d log a := by
  constructor
  · intro h
    generalize ended : (Dialogue.done a : Dialogue Call Reply α) = left at h
    induction h with
    | nil d =>
      subst ended
      exact .done a
    | ask _ ih => exact .ask (ih ended)
  · intro h
    induction h with
    | done a => exact .nil _
    | ask _ ih => exact .ask ih

theorem Trail.split {d e : Dialogue Call Reply α} {log rest : List ((c : Call) × Reply c)}
    (h : Trail d (log ++ rest) e) : ∃ left, Trail d log left ∧ Trail left rest e := by
  induction log generalizing d with
  | nil => exact ⟨d, .nil d, h⟩
  | cons _ log ih =>
    cases h with
    | ask go =>
      obtain ⟨left, first, second⟩ := ih go
      exact ⟨left, .ask first, second⟩

theorem bind_assoc {γ : Type} (d : Dialogue Call Reply α) (f : α → Dialogue Call Reply β)
    (g : β → Dialogue Call Reply γ) : d >>= f >>= g = d >>= fun a => f a >>= g := by
  induction d with
  | done a => rfl
  | ask c next ih => exact congrArg (Dialogue.ask c) (funext ih)

theorem course_pure {a b : α} {log : List ((c : Call) × Reply c)} :
    Course (pure a : Dialogue Call Reply α) log b ↔ log = [] ∧ b = a := by
  constructor
  · intro h
    cases h
    exact ⟨rfl, rfl⟩
  · rintro ⟨rfl, rfl⟩
    exact .done b

theorem course_call_bind {c : Call} {f : Reply c → Dialogue Call Reply β}
    {log : List ((c : Call) × Reply c)} {b : β} :
    Course (Dialogue.call c >>= f) log b ↔ ∃ r rest, log = ⟨c, r⟩ :: rest ∧ Course (f r) rest b := by
  constructor
  · intro h
    have asked : Course (.ask c f) log b := h
    cases asked with
    | ask go => exact ⟨_, _, rfl, go⟩
  · rintro ⟨r, rest, rfl, go⟩
    exact .ask go

theorem course_bind {d : Dialogue Call Reply α} {f : α → Dialogue Call Reply β}
    {log : List ((c : Call) × Reply c)} {b : β} :
    Course (d >>= f) log b ↔ ∃ first a rest, log = first ++ rest ∧ Course d first a ∧ Course (f a) rest b := by
  induction d generalizing log with
  | done a =>
    constructor
    · exact fun h => ⟨[], a, log, rfl, .done a, h⟩
    · rintro ⟨_, _, rest, rfl, ⟨⟩, h⟩
      exact h
  | ask c next ih =>
    constructor
    · intro h
      have asked : Course (.ask c fun r => next r >>= f) log b := h
      cases asked with
      | ask go =>
        obtain ⟨first, a, rest, rfl, hd, hf⟩ := (ih _).mp go
        exact ⟨_ :: first, a, rest, rfl, .ask hd, hf⟩
    · rintro ⟨_, a, rest, rfl, hd, hf⟩
      cases hd with
      | ask go => exact .ask ((ih _).mpr ⟨_, a, rest, rfl, go, hf⟩)

end AnomalyWatch.Dialogue
