import ConcretID.Ems.Transmission

namespace concretid.ems

/-- A swap of two positions permutes the order. -/
theorem swapOrder_perm (order : List Entry) (i j : Nat) : (swapOrder order i j).Perm order := by
  unfold swapOrder
  split
  · rename_i a b ha hb
    obtain ⟨hi, rfl⟩ := List.getElem?_eq_some_iff.mp ha
    obtain ⟨hj, rfl⟩ := List.getElem?_eq_some_iff.mp hb
    exact List.set_set_perm hi hj
  · exact .refl _

@[simp] theorem swapOrder_length (order : List Entry) (i j : Nat) :
    (swapOrder order i j).length = order.length :=
  (swapOrder_perm order i j).length_eq

theorem swapOrder_getElem? {order : List Entry} {i j : Nat} (hi : i < order.length)
    (hj : j < order.length) (k : Nat) :
    (swapOrder order i j)[k]? =
      if k = j then order[i]? else if k = i then order[j]? else order[k]? := by
  rw [swapOrder, List.getElem?_eq_getElem hi, List.getElem?_eq_getElem hj]
  simp only [List.getElem?_set, List.length_set]
  by_cases hkj : k = j
  · subst hkj
    simp [hj]
  · by_cases hki : k = i
    · subst hki
      simp [hkj, Ne.symm hkj, hi]
    · simp [hkj, hki, Ne.symm hkj, Ne.symm hki]

/-- A swap behind the first `n` positions does not touch them. -/
theorem swapOrder_take_of_le {order : List Entry} {i j n : Nat} (hi : n ≤ i) (hj : n ≤ j) :
    (swapOrder order i j).take n = order.take n := by
  unfold swapOrder
  split
  · rw [List.take_set_of_le hj, List.take_set_of_le hi]
  · rfl

/-- A swap within the first `n` positions keeps what stands in them. -/
theorem swapOrder_mem_take {order : List Entry} {i j n : Nat} (hi : i < n) (hj : j < n) (e : Entry) :
    e ∈ (swapOrder order i j).take n ↔ e ∈ order.take n := by
  have htake : (swapOrder order i j).take n = swapOrder (order.take n) i j := by
    unfold swapOrder
    rw [List.getElem?_take_of_lt hi, List.getElem?_take_of_lt hj]
    split
    · rw [List.take_set, List.take_set]
    · rfl
  rw [htake]
  exact (swapOrder_perm _ i j).mem_iff

/-- A swap before position `n` leaves what follows. -/
theorem swapOrder_drop {order : List Entry} {i j n : Nat} (hi : i < n) (hj : j < n) :
    (swapOrder order i j).drop n = order.drop n := by
  unfold swapOrder
  split
  · rw [List.drop_set_of_lt hj, List.drop_set_of_lt hi]
  · rfl

namespace Transmission

theorem promote_loop_perm (x : Nat) (order : List Entry) : (promote_loop x order).Perm order := by
  induction x generalizing order with
  | zero => exact .refl _
  | succ x ih => exact (ih _).trans (swapOrder_perm order x (x + 1))

/-- The swaps of `promote_uid_table` stay within the first `n` positions when
they start there. -/
theorem promote_loop_mem_take {x n : Nat} (hx : x < n) (order : List Entry) (e : Entry) :
    e ∈ (promote_loop x order).take n ↔ e ∈ order.take n := by
  induction x generalizing order with
  | zero => rfl
  | succ x ih =>
    rw [promote_loop, ih (by omega)]
    exact swapOrder_mem_take (by omega) hx e

/-- `promote_uid_table` moves what stands at the entry's index to the front. -/
theorem promote_loop_eq {x : Nat} {order : List Entry} (hx : x < order.length) :
    promote_loop x order = order[x] :: order.eraseIdx x := by
  induction x generalizing order with
  | zero =>
    cases order with
    | nil => simp at hx
    | cons e order => rfl
  | succ x ih =>
    have hx' : x < order.length := by omega
    have hlength : x < (swapOrder order x (x + 1)).length := by rwa [swapOrder_length]
    have hget := swapOrder_getElem? hx' hx
    rw [promote_loop, ih hlength]
    refine List.cons_eq_cons.mpr ⟨?_, ?_⟩
    · have hmoved := hget x
      rw [if_neg (by omega), if_pos rfl, List.getElem?_eq_getElem hx,
        List.getElem?_eq_getElem hlength] at hmoved
      exact Option.some.inj hmoved
    · apply List.ext_getElem?
      intro k
      rw [List.getElem?_eraseIdx, List.getElem?_eraseIdx, hget, hget]
      grind

/-- `Correct_table_order` moves the routes that still have a link to the front,
in the order they had, and cuts the table after them. -/
theorem Correct_table_order_loop_spec (t : Transmission) {base order : List Entry} {i j n : Nat}
    (hperm : order.Perm base) (hij : j ≤ i) (hin : i + n ≤ base.length)
    (htake : order.take j = (base.take i).filter fun e => (t.uid_table e).link.isSome)
    (hdrop : order.drop i = base.drop i) :
    (t.Correct_table_order_loop (List.range' i n) order j).1.Perm base ∧
      (t.Correct_table_order_loop (List.range' i n) order j).2 ≤ i + n ∧
      (t.Correct_table_order_loop (List.range' i n) order j).1.take
          (t.Correct_table_order_loop (List.range' i n) order j).2 =
        (base.take (i + n)).filter fun e => (t.uid_table e).link.isSome := by
  induction n generalizing order i j with
  | zero =>
    simp only [List.range'_zero, Correct_table_order_loop, Nat.add_zero]
    exact ⟨hperm, hij, htake⟩
  | succ n ih =>
    have hlength := hperm.length_eq
    have hi : i < order.length := by omega
    have hi' : i < base.length := by omega
    have hbase : order[i] = base[i] := by
      have hhead := congrArg (fun l => l[0]?) hdrop
      simp only [List.getElem?_drop, Nat.add_zero] at hhead
      rw [List.getElem?_eq_getElem hi, List.getElem?_eq_getElem (by omega)] at hhead
      exact Option.some.inj hhead
    have hnext : base.take (i + 1) = base.take i ++ [order[i]] := by
      rw [hbase, List.take_append_getElem (by omega)]
    rw [List.range'_succ, Correct_table_order_loop, List.getElem?_eq_getElem hi]
    have hshift : i + (n + 1) = i + 1 + n := by omega
    rw [hshift]
    dsimp only
    by_cases hlink : (t.uid_table order[i]).link.isSome
    · rw [if_pos hlink]
      by_cases hne : i = j
      · subst hne
        rw [if_neg (by simp)]
        refine ih hperm (Nat.le_refl _) (by omega) ?_ ?_
        · rw [hnext, List.filter_append, ← htake, ← List.take_append_getElem hi]
          simp [hlink]
        · rw [← List.drop_drop, hdrop, List.drop_drop]
      · rw [if_pos hne]
        refine ih ((swapOrder_perm order i j).trans hperm) (by omega) (by omega) ?_ ?_
        · have hj : j < (swapOrder order i j).length := by simp; omega
          have hmoved : (swapOrder order i j)[j] = order[i] := by
            have hget := swapOrder_getElem? hi (by omega : j < order.length) j
            rw [if_pos rfl, List.getElem?_eq_getElem hi, List.getElem?_eq_getElem hj] at hget
            exact Option.some.inj hget
          rw [← List.take_append_getElem hj, hmoved, swapOrder_take_of_le hij (Nat.le_refl j),
            htake, hnext, List.filter_append]
          simp [hlink]
        · rw [swapOrder_drop (by omega) (by omega), ← List.drop_drop, hdrop, List.drop_drop]
    · rw [if_neg hlink]
      refine ih hperm (by omega) (by omega) ?_ ?_
      · rw [hnext, List.filter_append, ← htake]
        simp [hlink]
      · rw [← List.drop_drop, hdrop, List.drop_drop]

theorem Correct_table_order_active {t : Transmission} (hlast : t.last_table ≤ t.table_order.length) :
    t.Correct_table_order.active = t.active.filter fun e => (t.uid_table e).link.isSome := by
  have hspec := t.Correct_table_order_loop_spec (i := 0) (j := 0) (n := t.last_table)
    (List.Perm.refl t.table_order) (Nat.le_refl 0) (by omega) (by simp) rfl
  simpa [active, Correct_table_order, List.range_eq_range'] using hspec.2.2

theorem Correct_table_order_perm {t : Transmission} (hlast : t.last_table ≤ t.table_order.length) :
    t.Correct_table_order.table_order.Perm t.table_order ∧
      t.Correct_table_order.last_table ≤ t.last_table := by
  have hspec := t.Correct_table_order_loop_spec (i := 0) (j := 0) (n := t.last_table)
    (List.Perm.refl t.table_order) (Nat.le_refl 0) (by omega) (by simp) rfl
  simpa [Correct_table_order, List.range_eq_range'] using And.intro hspec.1 hspec.2.1

end Transmission

end concretid.ems
