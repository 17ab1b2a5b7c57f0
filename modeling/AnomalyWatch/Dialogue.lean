/-!
Programs that talk to their surroundings.

A dialogue is either done with a result or makes a call and goes on with the reply. It says which calls are
made in which order and leaves open who answers: `Dialogue.run` lets a monad answer, and `Dialogue.Course`
is the relation between a dialogue, a list of calls with their replies, and the result they lead to.
-/

set_option autoImplicit false
set_option relaxedAutoImplicit false

namespace AnomalyWatch

/-- A program that makes calls and has a result. -/
inductive Dialogue (Call : Type) (Reply : Call → Type) (α : Type) where
  | done (result : α)
  | ask (call : Call) (next : Reply call → Dialogue Call Reply α)

namespace Dialogue

variable {Call : Type} {Reply : Call → Type} {α β : Type}

protected def bind : Dialogue Call Reply α → (α → Dialogue Call Reply β) → Dialogue Call Reply β
  | done a, f => f a
  | ask c next, f => ask c fun r => (next r).bind f

instance : Monad (Dialogue Call Reply) where
  pure := done
  bind := Dialogue.bind

def call (c : Call) : Dialogue Call Reply (Reply c) :=
  ask c done

/-- Answer every call in turn. -/
def run {m : Type → Type} [Monad m] (respond : (c : Call) → m (Reply c)) :
    Dialogue Call Reply α → m α
  | done a => pure a
  | ask c next => do
    let r ← respond c
    (next r).run respond

/-- The calls of a dialogue can be answered in this way and then lead to this result. -/
inductive Course : Dialogue Call Reply α → List ((c : Call) × Reply c) → α → Prop
  | done (a : α) : Course (.done a) [] a
  | ask {c : Call} {next : Reply c → Dialogue Call Reply α} {r : Reply c}
      {rest : List ((c : Call) × Reply c)} {a : α} (go : Course (next r) rest a) :
      Course (.ask c next) (⟨c, r⟩ :: rest) a

theorem run_bind {m : Type → Type} [Monad m] [LawfulMonad m] (respond : (c : Call) → m (Reply c))
    (d : Dialogue Call Reply α) (f : α → Dialogue Call Reply β) :
    (d >>= f).run respond = d.run respond >>= fun a => (f a).run respond := by
  induction d with
  | done a =>
    have h : (done a >>= f : Dialogue Call Reply β) = f a := rfl
    rw [h]
    exact (pure_bind a fun a => (f a).run respond).symm
  | ask c next ih =>
    have h : (ask c next >>= f) = ask c fun r => next r >>= f := rfl
    rw [h]
    simp only [run, bind_assoc, ih]

end Dialogue

end AnomalyWatch
