import Mathlib.Data.List.Basic

namespace concretid

/-- Of what there is at most once in a list there are no two different ones. -/
theorem eq_of_countP_le_one {α : Type} {p : α → Bool} {l : List α} (h : l.countP p ≤ 1) {a b : α}
    (ha : a ∈ l) (hpa : p a = true) (hb : b ∈ l) (hpb : p b = true) : a = b := by
  rw [List.countP_eq_length_filter] at h
  have hma : a ∈ l.filter p := List.mem_filter.mpr ⟨ha, hpa⟩
  have hmb : b ∈ l.filter p := List.mem_filter.mpr ⟨hb, hpb⟩
  obtain ⟨i, hi, rfl⟩ := List.getElem_of_mem hma
  obtain ⟨j, hj, rfl⟩ := List.getElem_of_mem hmb
  obtain rfl : i = j := by omega
  rfl

/-- When each part has at most one, and none after a part that has one, there is
at most one in all. -/
theorem countP_flatMap_le_one {α β : Type} {p : β → Bool} {f : α → List β} {l : List α}
    (hone : ∀ a ∈ l, (f a).countP p ≤ 1)
    (hnone : l.Pairwise fun a b => (f a).countP p ≠ 0 → (f b).countP p = 0) :
    (l.flatMap f).countP p ≤ 1 := by
  induction l with
  | nil => exact Nat.zero_le 1
  | cons a l ih =>
    obtain ⟨hlater, hrest⟩ := List.pairwise_cons.mp hnone
    rw [List.flatMap_cons, List.countP_append]
    by_cases ha : (f a).countP p = 0
    · rw [ha, Nat.zero_add]
      exact ih (fun b hb => hone b (List.mem_cons_of_mem a hb)) hrest
    · have hzero : (l.flatMap f).countP p = 0 := by
        rw [List.countP_eq_zero]
        intro x hx
        obtain ⟨b, hb, hxb⟩ := List.mem_flatMap.mp hx
        exact List.countP_eq_zero.mp (hlater b hb ha) x hxb
      rw [hzero]
      exact hone a List.mem_cons_self

end concretid
