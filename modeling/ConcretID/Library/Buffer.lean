import Mathlib.Data.List.Induction
import Mathlib.Data.Nat.ModEq
import Mathlib.Logic.Function.Basic

namespace concretid.buffer

/-- From one place on, the cells of a circular memory hold a queue. -/
def Holds {α : Type} (n : Nat) (cell : Nat → α) (start : Nat) (queue : List α) : Prop :=
  ∀ i (h : i < queue.length), cell ((start + i) % n) = queue[i]

variable {α : Type} {n : Nat} {cell : Nat → α} {start : Nat} {queue : List α}

theorem Holds.nil : Holds n cell start [] := by
  intro i h
  cases h

/-- The cells of a queue that fits are different. -/
theorem add_mod_ne {i j : Nat} (hij : i < j) (hj : j < n) : (start + i) % n ≠ (start + j) % n := by
  intro heq
  have hmod : i % n = j % n := Nat.ModEq.add_left_cancel' start heq
  rw [Nat.mod_eq_of_lt (by omega), Nat.mod_eq_of_lt hj] at hmod
  omega

/-- The cell behind a queue that does not fill the memory takes one more. -/
theorem Holds.put (h : Holds n cell start queue) (hroom : queue.length < n) (a : α) :
    Holds n (Function.update cell ((start + queue.length) % n) a) start (queue ++ [a]) := by
  intro i hi
  rw [List.length_append, List.length_singleton] at hi
  obtain hlt | rfl := Nat.lt_succ_iff_lt_or_eq.mp hi
  · rw [Function.update_of_ne (add_mod_ne hlt hroom), List.getElem_append_left hlt]
    exact h i hlt
  · rw [Function.update_self, List.getElem_concat_length rfl]

/-- Written over, the first cell starts a queue of its own. -/
theorem Holds.one (n : Nat) (cell : Nat → α) (start : Nat) (a : α) :
    Holds n (Function.update cell (start % n) a) start [a] := by
  intro i hi
  obtain rfl : i = 0 := by simpa using hi
  exact Function.update_self _ _ _

theorem Holds.first {a : α} (h : Holds n cell start (a :: queue)) : cell (start % n) = a :=
  h 0 (Nat.zero_lt_succ _)

theorem Holds.next {a : α} (h : Holds n cell start (a :: queue)) : Holds n cell (start + 1) queue := by
  intro i hi
  have hcell := h (i + 1) (Nat.succ_lt_succ hi)
  rw [List.getElem_cons_succ] at hcell
  rwa [Nat.add_assoc, Nat.add_comm 1 i]

theorem Holds.congr {start' : Nat} (h : Holds n cell start queue) (hstart : start % n = start' % n) :
    Holds n cell start' queue := by
  intro i hi
  rw [← h i hi, Nat.add_mod start', ← hstart, ← Nat.add_mod]

/-- One list is the other without some of its blocks of a length. -/
inductive Gaps (n : Nat) : List α → List α → Prop
  | nil : Gaps n [] []
  | keep {all kept : List α} (h : Gaps n all kept) (a : α) : Gaps n (all ++ [a]) (kept ++ [a])
  | lose {all kept : List α} (h : Gaps n all kept) {lost : List α} (hlost : lost.length = n) :
      Gaps n (all ++ lost) kept

theorem Gaps.append {all kept : List α} (h : Gaps n all kept) (more : List α) :
    Gaps n (all ++ more) (kept ++ more) := by
  induction more using List.reverseRecOn with
  | nil => simpa using h
  | append_singleton more a ih =>
    rw [← List.append_assoc, ← List.append_assoc]
    exact ih.keep a

end concretid.buffer
