import ConcretID.Library.Simulation

namespace concretid.duplex

/-- Every state a program ends with satisfies `P`, unless it has recorded an event that is not
allowed. -/
inductive Proc.Ends {β ε σ : Type} (P : σ → Prop) (allowed : ε → Prop) : Proc β ε σ → Prop where
  | pure {a : σ} (h : P a) : Ends P allowed (.pure a)
  | send {b : β} {next : Proc β ε σ} (h : Ends P allowed next) : Ends P allowed (.send b next)
  | recv {next : β → Proc β ε σ} (h : ∀ b, Ends P allowed (next b)) : Ends P allowed (.recv next)
  | emit {e : ε} {next : Proc β ε σ} (h : allowed e → Ends P allowed next) :
      Ends P allowed (.emit e next)
  | exit : Ends P allowed .exit

section ends

variable {β ε γ σ : Type} {P : σ → Prop} {allowed : ε → Prop}

/-- Any program in front of one that ends so. -/
theorem Proc.Ends.after {α : Type} (p : Proc β ε α) {f : α → Proc β ε σ}
    (h : ∀ a, (f a).Ends P allowed) : (p >>= f).Ends P allowed := by
  induction p with
  | pure a => exact h a
  | send b next ih => exact .send ih
  | recv next ih => exact .recv ih
  | emit e next ih => exact .emit fun _ => ih
  | exit => exact .exit

theorem Proc.Ends.ite {c : Prop} [Decidable c] {p q : Proc β ε σ} (hp : p.Ends P allowed)
    (hq : q.Ends P allowed) : (if c then p else q).Ends P allowed := by
  split
  · exact hp
  · exact hq

theorem Proc.Ends.move {p p' : Proc β ε σ} (h : p.Ends P allowed) {x x' out : List β} {log : List ε}
    (hmove : p.move x = some (p', x', out, log)) (hlog : ∀ e ∈ log, allowed e) :
    p'.Ends P allowed := by
  cases h with
  | pure ha => cases hmove
  | exit => cases hmove
  | send hnext => cases hmove; exact hnext
  | emit hnext => cases hmove; exact hnext (hlog _ List.mem_cons_self)
  | recv hnext =>
    cases x with
    | nil => cases hmove
    | cons b x => cases hmove; exact hnext b

/-- A server whose passes each end so, in any run of a session. -/
theorem Proc.Ends.run {serve : σ → Proc β ε σ} (hpass : ∀ a, P a → (serve a).Ends P allowed)
    {s s' : Session β ε γ σ} (hs : s.server.Ends P allowed)
    (hrun : Relation.ReflTransGen (Step serve) s s') (hlog : ∀ e ∈ s'.serverLog, allowed e) :
    s'.server.Ends P allowed := by
  induction hrun with
  | refl => exact hs
  | tail _ hstep ih =>
    have hbefore := ih fun e he => hlog e (hstep.serverLog_prefix.subset he)
    cases hstep with
    | client _ => exact hbefore
    | server hmove => exact hbefore.move hmove fun e he => hlog e (List.mem_append_right _ he)
    | again hpure =>
      rw [hpure] at hbefore
      cases hbefore with
      | pure ha => exact hpass _ ha

end ends

end concretid.duplex
