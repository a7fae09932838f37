import Mathlib.Data.List.Basic
import Mathlib.Data.List.TakeWhile
import Mathlib.Data.List.Count

/-!
Text in front of a separator: what `splitOn` and `idxOf` give of it.
-/

namespace concretid.library

variable {α : Type*} [DecidableEq α]

/-- The text in front of the first `c`. -/
def before (c : α) (text : List α) : List α := text.takeWhile (· ≠ c)

theorem not_mem_before (c : α) (text : List α) : c ∉ before c text := by
  intro h
  simpa using List.mem_takeWhile_imp h

theorem before_append {c : α} {text : List α} (h : c ∉ text) (rest : List α) :
    before c (text ++ rest) = text ++ before c rest :=
  List.takeWhile_append_of_pos fun _ hd => decide_eq_true fun hdc => h (hdc ▸ hd)

theorem before_append_cons {c : α} {text : List α} (h : c ∉ text) (rest : List α) :
    before c (text ++ c :: rest) = text := by
  rw [before_append h, before, List.takeWhile_cons_of_neg (by simp), List.append_nil]

theorem before_append_of_mem {c : α} {text : List α} (h : c ∈ text) (rest : List α) :
    before c (text ++ rest) = before c text := by
  obtain ⟨front, back, rfl, hfront⟩ := List.eq_append_cons_of_mem h
  rw [List.append_assoc, List.cons_append, before_append_cons hfront, before_append_cons hfront]

theorem before_eq_self {c : α} {text : List α} (h : c ∉ text) : before c text = text :=
  List.takeWhile_eq_self_iff.mpr fun _ hd => decide_eq_true fun hdc => h (hdc ▸ hd)

theorem before_append_self (c : α) (text rest : List α) : before c (text ++ c :: rest) = before c text := by
  by_cases h : c ∈ text
  · exact before_append_of_mem h _
  · rw [before_append_cons h, before_eq_self h]

theorem before_before (c d : α) (text : List α) :
    before c (before d text) = before d (before c text) := by
  simp only [before, List.takeWhile_takeWhile]
  congr 1
  funext a
  exact decide_eq_decide.mpr and_comm

theorem before_sublist (c : α) (text : List α) : (before c text).Sublist text :=
  List.takeWhile_sublist _

/-- The first part of a split text is what is in front of the first separator. -/
theorem splitOn_eq_before_cons (c : α) (text : List α) :
    ∃ parts, text.splitOn c = before c text :: parts := by
  by_cases h : c ∈ text
  · obtain ⟨front, back, rfl, hfront⟩ := List.eq_append_cons_of_mem h
    rw [before_append_cons hfront, List.splitOn_append_cons_self_of_not_mem hfront]
    exact ⟨_, rfl⟩
  · rw [before_eq_self h, List.splitOn_eq_singleton h]
    exact ⟨_, rfl⟩

/-- The index of the first separator cuts the text there. -/
theorem take_idxOf (c : α) (text : List α) : text.take (text.idxOf c) = before c text := by
  by_cases h : c ∈ text
  · obtain ⟨front, back, rfl, hfront⟩ := List.eq_append_cons_of_mem h
    rw [before_append_cons hfront, List.idxOf_append_of_notMem hfront, List.idxOf_cons_self, Nat.add_zero,
      List.take_left]
  · rw [before_eq_self h, List.idxOf_eq_length h, List.take_length]

theorem length_splitOn (c : α) (text : List α) : (text.splitOn c).length = text.count c + 1 := by
  induction text with
  | nil => rfl
  | cons d text ih =>
    rw [List.splitOn_cons_eq_if_modifyHead, List.count_cons]
    split
    · rw [List.length_cons, ih]
    · rw [List.length_modifyHead, ih, Nat.add_zero]

end concretid.library
