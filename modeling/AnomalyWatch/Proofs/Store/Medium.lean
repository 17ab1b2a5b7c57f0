import AnomalyWatch.Proofs.Store.History

/-!
A store at work on a medium.

`Works Medium` follows a store and the environment that its medium changes through a history; each call may
meet another medium out of those that `Medium` allows. The medium is asked by one kind of call alone: a commit
of an open transaction (`respond_cases`).
-/

set_option autoImplicit false
set_option relaxedAutoImplicit false

namespace AnomalyWatch

namespace Store

variable {σ : Type}

theorem respond_commit {s s' : Store} {now : Instant} {append : List Anomaly → StateM σ (Except Error Unit)}
    {ticket : Nat} {reply : Except Error Unit} {env env' : σ}
    (answered : s.respond now append (.commit ticket) env = ((reply, s'), env')) :
    (env' = env ∧ s' = s) ∨
      ∃ t, s.openTransaction ticket = .ok t ∧
        append (s.ledger.prepare now t.staged) env = (reply, env') ∧
        s' = (s.finish ticket).settle (s.ledger.prepare now t.staged) reply := by
  simp only [respond, commit] at answered
  cases taken : s.openTransaction ticket with
  | error e =>
    rw [taken] at answered
    cases answered
    exact .inl ⟨rfl, rfl⟩
  | ok t =>
    rw [taken] at answered
    rcases asked : append (s.ledger.prepare now t.staged) env with ⟨verdict, after⟩
    simp only [bind, StateT.bind, asked] at answered
    cases answered
    exact .inr ⟨t, rfl, asked, rfl⟩

theorem respond_cases {s s' : Store} {now : Instant} {append : List Anomaly → StateM σ (Except Error Unit)}
    {c : Call} {reply : Reply c} {env env' : σ}
    (answered : s.respond now append c env = ((reply, s'), env')) :
    (env' = env ∧ s'.ledger = s.ledger) ∨
      ∃ ticket t verdict, c = .commit ticket ∧ s.openTransaction ticket = .ok t ∧
        append (s.ledger.prepare now t.staged) env = (verdict, env') ∧
        s' = (s.finish ticket).settle (s.ledger.prepare now t.staged) verdict := by
  cases c with
  | begin | discard _ =>
    cases answered
    exact .inl ⟨rfl, rfl⟩
  | find ticket _ | create ticket _ | rollback ticket =>
    simp only [respond] at answered
    cases taken : s.openTransaction ticket <;>
    · rw [taken] at answered
      cases answered
      exact .inl ⟨rfl, rfl⟩
  | commit ticket =>
    rcases respond_commit answered with ⟨rfl, rfl⟩ | ⟨t, taken, asked, rfl⟩
    · exact .inl ⟨rfl, rfl⟩
    · exact .inr ⟨ticket, t, reply, rfl, taken, asked, rfl⟩

inductive Works (Medium : (List Anomaly → StateM σ (Except Error Unit)) → Prop) :
    Store × σ → History → Store × σ → Prop
  | nil (w : Store × σ) : Works Medium w [] w
  | cons {s s' : Store} {env env' : σ} {c : Call} {reply : Reply c} {rest : History} {w : Store × σ}
      {append : List Anomaly → StateM σ (Except Error Unit)} (now : Instant) (allowed : Medium append)
      (answered : s.respond now append c env = ((reply, s'), env'))
      (go : Works Medium (s', env') rest w) :
      Works Medium (s, env) (⟨c, reply⟩ :: rest) w

theorem Works.mono {Medium Wider : (List Anomaly → StateM σ (Except Error Unit)) → Prop}
    (wider : ∀ append, Medium append → Wider append) {w w' : Store × σ} {h : History}
    (works : Works Medium w h w') : Works Wider w h w' := by
  induction works with
  | nil w => exact .nil w
  | cons now allowed answered _ ih => exact .cons now (wider _ allowed) answered ih

theorem Works.serves {Medium : (List Anomaly → StateM σ (Except Error Unit)) → Prop} {w w' : Store × σ}
    {h : History} (works : Works Medium w h w') : Serves w.1 h w'.1 := by
  induction works with
  | nil w => exact .nil w.1
  | @cons s s' env env' c reply rest w append now allowed answered _ ih =>
    obtain ⟨verdict, after, same⟩ := s.respond_eq_answer now append c env
    rw [same] at answered
    have pair : s.answer now verdict c = (reply, s') := (Prod.mk.inj answered).1
    obtain rfl : (s.answer now verdict c).1 = reply := congrArg Prod.fst pair
    obtain rfl : (s.answer now verdict c).2 = s' := congrArg Prod.snd pair
    exact .cons now verdict ih

end Store

end AnomalyWatch
