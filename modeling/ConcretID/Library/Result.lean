import Mathlib.Tactic.TypeStar

namespace concretid

/-- A composed computation succeeds exactly when its first part does and the
rest succeeds on its value. -/
theorem bind_eq_ok_iff {ε A B : Type} {x : Except ε A} {f : A → Except ε B} {y : B} :
    (x >>= f) = .ok y ↔ ∃ a, x = .ok a ∧ f a = .ok y := by
  cases x <;> simp [bind, Except.bind]

@[simp] theorem ok_bind {ε A B : Type} (a : A) (f : A → Except ε B) :
    ((Except.ok a : Except ε A) >>= f) = f a := rfl

@[simp] theorem error_bind {ε A B : Type} (e : ε) (f : A → Except ε B) :
    ((Except.error e : Except ε A) >>= f) = .error e := rfl

@[simp] theorem pure_eq_ok {ε A : Type} (a : A) : (pure a : Except ε A) = .ok a := rfl

/-- A computation that is seen to succeed has a value. -/
theorem exists_ok {ε A : Type} {x : Except ε A} (h : x.toBool = true) : ∃ a, x = .ok a := by
  cases x with
  | error e => cases h
  | ok a => exact ⟨a, rfl⟩

end concretid
