import Mathlib.Logic.Basic

namespace concretid.calls

/-- A program over an interface: at each call it waits for the answer and goes on
with it. -/
inductive Prog (ι : Type) (ρ : ι → Type) (α : Type) where
  | pure (a : α)
  | call (c : ι) (next : ρ c → Prog ι ρ α)

def Prog.bind {ι : Type} {ρ : ι → Type} {α β : Type} (p : Prog ι ρ α) (f : α → Prog ι ρ β) :
    Prog ι ρ β :=
  match p with
  | .pure a => f a
  | .call c next => .call c fun r => (next r).bind f

instance {ι : Type} {ρ : ι → Type} : Monad (Prog ι ρ) where
  pure := .pure
  bind := .bind

/-- One call. -/
def ask {ι : Type} {ρ : ι → Type} (c : ι) : Prog ι ρ (ρ c) := .call c .pure

/-- `do a = body; while (again(a))`, without a result if it still goes on after `fuel`
turns. -/
def doWhile {ι : Type} {ρ : ι → Type} {α : Type} (again : α → Bool) (body : Prog ι ρ α) :
    Nat → Prog ι ρ (Option α)
  | 0 => pure none
  | fuel + 1 => do
    let a ← body
    if again a then doWhile again body fuel else return some a

/-- The program against a state that answers its calls. -/
def Prog.run {ι σ : Type} {ρ : ι → Type} {α : Type} (answer : (c : ι) → σ → ρ c × σ) :
    Prog ι ρ α → σ → α × σ
  | .pure a, s => (a, s)
  | .call c next, s => (next (answer c s).1).run answer (answer c s).2

/-- A step repeated while its result says so, `fuel` times at most. -/
def repeatWhile {α τ : Type} (again : α → Bool) (step : τ → α × τ) : Nat → τ → Option α × τ
  | 0, t => (none, t)
  | fuel + 1, t =>
    let r := step t
    if again r.1 then repeatWhile again step fuel r.2 else (some r.1, r.2)

/-- The program keeps an invariant of the state that answers it. -/
def Prog.Keeps {ι σ : Type} {ρ : ι → Type} {α : Type} (answer : (c : ι) → σ → ρ c × σ)
    (P : σ → Prop) (p : Prog ι ρ α) : Prop :=
  ∀ s, P s → P (p.run answer s).2

/-- On related states the program does what a step of the other one does, and leaves them
related. -/
def Prog.Refines {ι σ τ : Type} {ρ : ι → Type} {α : Type} (answer : (c : ι) → σ → ρ c × σ)
    (R : σ → τ → Prop) (p : Prog ι ρ α) (step : τ → α × τ) : Prop :=
  ∀ s t, R s t → (p.run answer s).1 = (step t).1 ∧ R (p.run answer s).2 (step t).2

section run

variable {ι σ : Type} {ρ : ι → Type} {α β : Type} (answer : (c : ι) → σ → ρ c × σ)

@[simp] theorem run_pure (a : α) (s : σ) :
    (pure a : Prog ι ρ α).run answer s = (a, s) := rfl

@[simp] theorem run_ask (c : ι) (s : σ) : (ask c : Prog ι ρ (ρ c)).run answer s = answer c s := rfl

@[simp] theorem run_bind (p : Prog ι ρ α) (f : α → Prog ι ρ β) (s : σ) :
    (p >>= f).run answer s = (f (p.run answer s).1).run answer (p.run answer s).2 := by
  induction p generalizing s with
  | pure a => rfl
  | call c next ih => exact ih _ _

end run

/-- An invariant of the step is kept by its repetition. -/
theorem repeatWhile_keeps {α τ : Type} {P : τ → Prop} {again : α → Bool} {step : τ → α × τ}
    (hstep : ∀ t, P t → P (step t).2) (fuel : Nat) {t : τ} (ht : P t) :
    P (repeatWhile again step fuel t).2 := by
  induction fuel generalizing t with
  | zero => exact ht
  | succ fuel ih =>
    rw [repeatWhile]
    split
    · exact ih (hstep t ht)
    · exact hstep t ht

theorem repeatWhile_done {α τ : Type} {again : α → Bool} {step : τ → α × τ} {t : τ}
    (h : again (step t).1 = false) (fuel : Nat) :
    repeatWhile again step (fuel + 1) t = (some (step t).1, (step t).2) := by
  rw [repeatWhile, h]
  rfl

section rules

variable {ι σ τ : Type} {ρ : ι → Type} {α β : Type} {answer : (c : ι) → σ → ρ c × σ}

theorem Prog.Keeps.pure {P : σ → Prop} (a : α) : Prog.Keeps (ρ := ρ) answer P (pure a) :=
  fun _ hs => hs

theorem Prog.Keeps.bind {P : σ → Prop} {p : Prog ι ρ α} {f : α → Prog ι ρ β}
    (hp : p.Keeps answer P) (hf : ∀ a, (f a).Keeps answer P) : (p >>= f).Keeps answer P := by
  intro s hs
  rw [run_bind]
  exact hf _ _ (hp s hs)

theorem Prog.Keeps.doWhile {P : σ → Prop} {again : α → Bool} {body : Prog ι ρ α}
    (hbody : body.Keeps answer P) (fuel : Nat) : (doWhile again body fuel).Keeps answer P := by
  induction fuel with
  | zero => exact .pure none
  | succ fuel ih =>
    refine hbody.bind fun a => ?_
    split
    · exact ih
    · exact .pure (some a)

variable {R : σ → τ → Prop}

theorem Prog.Refines.pure (a : α) :
    Prog.Refines (ρ := ρ) answer R (pure a) fun t => (a, t) :=
  fun _ _ hst => ⟨rfl, hst⟩

/-- What refines a step, followed by what refines the next one for its result. -/
theorem Prog.Refines.bind {p : Prog ι ρ α} {f : α → Prog ι ρ β} {step : τ → α × τ}
    {next : α → τ → β × τ} (hp : p.Refines answer R step)
    (hf : ∀ a, (f a).Refines answer R (next a)) :
    (p >>= f).Refines answer R fun t => next (step t).1 (step t).2 := by
  intro s t hst
  obtain ⟨heq, hrel⟩ := hp s t hst
  rw [run_bind, heq]
  exact hf _ _ _ hrel

/-- What refines a step without a result, in front of what refines another one. -/
theorem Prog.Refines.before {p : Prog ι ρ Unit} {q : Prog ι ρ α} {f : τ → τ} {step : τ → α × τ}
    (hp : p.Refines answer R fun t => ((), f t)) (hq : q.Refines answer R step) :
    (do p; q).Refines answer R fun t => step (f t) :=
  hp.bind fun _ => hq

theorem Prog.Refines.doWhile {body : Prog ι ρ α} {step : τ → α × τ}
    (hbody : body.Refines answer R step) (again : α → Bool) (fuel : Nat) :
    (doWhile again body fuel).Refines answer R (repeatWhile again step fuel) := by
  induction fuel with
  | zero => exact .pure none
  | succ fuel ih =>
    intro s t hst
    obtain ⟨heq, hrel⟩ := hbody s t hst
    rw [calls.doWhile, run_bind, heq, repeatWhile]
    split
    · exact ih _ _ hrel
    · exact ⟨rfl, hrel⟩

end rules

end concretid.calls
