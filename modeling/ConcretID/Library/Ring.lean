import Mathlib.Data.ZMod.Defs
import Mathlib.Data.Fin.Basic
import Mathlib.Logic.Function.Basic

namespace concretid.ring

/-- A memory of the last `n` written values: `last` is the cell written most
recently and the next value goes to the cell after it. -/
structure Ring (α : Type) (n : Nat) where
  cell : Fin n → α
  last : Fin n

/-- The value written `age` writes ago. -/
def Ring.recent {α : Type} {n : Nat} [NeZero n] (r : Ring α n) (age : Nat) : α :=
  r.cell (r.last - Fin.ofNat n age)

def Ring.write {α : Type} {n : Nat} [NeZero n] (r : Ring α n) (a : α) : Ring α n :=
  { cell := Function.update r.cell (r.last + 1) a, last := r.last + 1 }

/-- Write a value unless it is among the last `room` written ones. -/
def Ring.insert {α : Type} {n : Nat} [NeZero n] [DecidableEq α] (room : Nat)
    (r : Ring α n) (a : α) : Ring α n :=
  if ∃ age < room, r.recent age = a then r else r.write a

/-- Some value that satisfies `q` was written at most `age` writes ago. -/
def Ring.Held {α : Type} {n : Nat} [NeZero n] (q : α → Prop) (age : Nat) (r : Ring α n) : Prop :=
  ∃ d ≤ age, q (r.recent d)

@[simp] theorem Ring.write_recent_zero {α : Type} {n : Nat} [NeZero n] (r : Ring α n) (a : α) :
    (r.write a).recent 0 = a := by
  simp [Ring.recent, Ring.write]

@[simp] theorem Ring.write_last {α : Type} {n : Nat} [NeZero n] (r : Ring α n) (a : α) :
    (r.write a).last = r.last + 1 := rfl

@[simp] theorem Ring.write_cell_last {α : Type} {n : Nat} [NeZero n] (r : Ring α n) (a : α) :
    (r.write a).cell (r.last + 1) = a := by
  simp [Ring.write]

/-- A write makes every value one write older, up to the one it overwrites. -/
theorem Ring.write_recent_succ {α : Type} {n : Nat} [NeZero n] (r : Ring α n) (a : α)
    {age : Nat} (hage : age + 1 < n) : (r.write a).recent (age + 1) = r.recent age := by
  have hindex : r.last + 1 - Fin.ofNat n (age + 1) = r.last - Fin.ofNat n age := by
    have hsucc : Fin.ofNat n (age + 1) = Fin.ofNat n age + 1 := by
      apply Fin.ext
      simp [Fin.ofNat, Fin.add_def]
    rw [hsucc, add_sub_add_right_eq_sub]
  have hne : r.last - Fin.ofNat n age ≠ r.last + 1 := by
    intro heq
    have hzero : Fin.ofNat n (age + 1) = 0 := by
      rw [← hindex] at heq
      simpa using heq
    have hval := congrArg Fin.val hzero
    simp [Fin.ofNat, Nat.mod_eq_of_lt hage] at hval
  simp only [Ring.recent, Ring.write, hindex, Function.update_of_ne hne]

theorem Ring.Held.mono {α : Type} {n : Nat} [NeZero n] {q : α → Prop} {age later : Nat}
    {r : Ring α n} (h : r.Held q age) (hle : age ≤ later) : r.Held q later := by
  obtain ⟨d, hd, hq⟩ := h
  exact ⟨d, by omega, hq⟩

/-- A held value lies in some cell. -/
theorem Ring.Held.mem {α : Type} {n : Nat} [NeZero n] {q : α → Prop} {age : Nat}
    {r : Ring α n} (h : r.Held q age) : ∃ i, q (r.cell i) := by
  obtain ⟨d, _, hq⟩ := h
  exact ⟨_, hq⟩

theorem Ring.write_held {α : Type} {n : Nat} [NeZero n] {q : α → Prop} {a : α}
    (r : Ring α n) (ha : q a) : (r.write a).Held q 0 :=
  ⟨0, Nat.le_refl 0, by simpa using ha⟩

/-- What has been inserted is held, no older than the insertion looks back. -/
theorem Ring.insert_held {α : Type} {n : Nat} [NeZero n] [DecidableEq α] {q : α → Prop}
    (age : Nat) (r : Ring α n) {a : α} (ha : q a) : (r.insert (age + 1) a).Held q age := by
  rw [Ring.insert]
  split
  · rename_i hrecent
    obtain ⟨d, hd, hsame⟩ := hrecent
    exact ⟨d, by omega, by rwa [hsame]⟩
  · exact (r.write_held ha).mono (Nat.zero_le age)

/-- One insertion makes a held value at most one write older. -/
theorem Ring.Held.insert {α : Type} {n : Nat} [NeZero n] [DecidableEq α] {q : α → Prop}
    {age room : Nat} {r : Ring α n} (h : r.Held q age) (hage : age + 1 < n) (a : α) :
    (r.insert room a).Held q (age + 1) := by
  rw [Ring.insert]
  split
  · exact h.mono (by omega)
  · obtain ⟨d, hd, hq⟩ := h
    refine ⟨d + 1, by omega, ?_⟩
    rwa [Ring.write_recent_succ r a (by omega)]

/-- Inserting a value of the held kind keeps the kind at most as old. -/
theorem Ring.Held.insert_same {α : Type} {n : Nat} [NeZero n] [DecidableEq α] {q : α → Prop}
    {age room : Nat} {r : Ring α n} (h : r.Held q age) {a : α} (ha : q a) :
    (r.insert room a).Held q age := by
  rw [Ring.insert]
  split
  · exact h
  · exact (r.write_held ha).mono (by omega)

/-- A held kind outlives any sequence of insertions with fewer others in it
than the ring has cells left. -/
theorem Ring.Held.insert_list {α : Type} {n : Nat} [NeZero n] [DecidableEq α] {q : α → Prop}
    [DecidablePred q] {age room : Nat} {r : Ring α n} (h : r.Held q age) (values : List α)
    (hroom : age + values.countP (fun a => ¬ q a) < n) :
    (values.foldl (Ring.insert room) r).Held q (age + values.countP (fun a => ¬ q a)) := by
  induction values generalizing age r with
  | nil => simpa using h
  | cons a values ih =>
    rw [List.foldl_cons]
    by_cases ha : q a
    · have hcount : (a :: values).countP (fun a => ¬ q a) = values.countP (fun a => ¬ q a) := by
        simp [ha]
      rw [hcount] at hroom ⊢
      exact ih (h.insert_same ha) hroom
    · have hcount : (a :: values).countP (fun a => ¬ q a) =
          values.countP (fun a => ¬ q a) + 1 := by
        simp [ha]
      rw [hcount] at hroom ⊢
      have hnext : (r.insert room a).Held q (age + 1) := h.insert (by omega) a
      exact (ih hnext (by omega)).mono (by omega)

/-- Inserting only writes what is inserted. -/
theorem Ring.insert_mem {α : Type} {n : Nat} [NeZero n] [DecidableEq α] {room : Nat}
    {r : Ring α n} {a : α} {i : Fin n} :
    (r.insert room a).cell i = r.cell i ∨ (r.insert room a).cell i = a := by
  rw [Ring.insert]
  split
  · exact .inl rfl
  · by_cases hi : i = r.last + 1
    · exact .inr (by simp [Ring.write, hi])
    · exact .inl (by simp [Ring.write, hi])

/-- The values that a sequence of insertions writes, oldest first. -/
def Ring.written {α : Type} {n : Nat} [NeZero n] [DecidableEq α] (room : Nat) :
    Ring α n → List α → List α
  | _, [] => []
  | r, a :: values =>
    if ∃ age < room, r.recent age = a then Ring.written room r values
    else a :: Ring.written room (r.write a) values

/-- Only inserted values are written. -/
theorem Ring.written_subset {α : Type} {n : Nat} [NeZero n] [DecidableEq α] {room : Nat}
    (values : List α) (r : Ring α n) : Ring.written room r values ⊆ values := by
  induction values generalizing r with
  | nil => exact List.Subset.refl _
  | cons a values ih =>
    rw [Ring.written]
    split
    · exact List.subset_cons_of_subset a (ih r)
    · exact List.cons_subset_cons a (ih _)

/-- A value among the newest ones is not written again before it has left
them. -/
theorem Ring.written_ne_recent {α : Type} {n : Nat} [NeZero n] [DecidableEq α] {room : Nat}
    (hroom : room ≤ n) (values : List α) {r : Ring α n} {age j : Nat} (hnear : age + j < room) :
    (Ring.written room r values)[j]? ≠ some (r.recent age) := by
  induction values generalizing r age j with
  | nil => simp [Ring.written]
  | cons a values ih =>
    rw [Ring.written]
    split
    · exact ih hnear
    · rename_i hfresh
      cases j with
      | zero =>
        intro hsame
        exact hfresh ⟨age, hnear, (Option.some.inj hsame).symm⟩
      | succ j =>
        rw [List.getElem?_cons_succ, ← Ring.write_recent_succ r a (by omega : age + 1 < n)]
        exact ih (by omega)

/-- Two written values at most `room` writes apart are different. -/
theorem Ring.written_spread {α : Type} {n : Nat} [NeZero n] [DecidableEq α] {room : Nat}
    (hroom : room ≤ n) (values : List α) {r : Ring α n} {i j : Nat} (hlt : i < j)
    (hnear : j ≤ i + room) (hj : j < (Ring.written room r values).length) :
    (Ring.written room r values)[i]? ≠ (Ring.written room r values)[j]? := by
  induction values generalizing r i j with
  | nil => simp [Ring.written] at hj
  | cons a values ih =>
    rw [Ring.written] at hj ⊢
    split
    · rename_i hrecent
      rw [if_pos hrecent] at hj
      exact ih hlt hnear hj
    · rename_i hfresh
      rw [if_neg hfresh, List.length_cons] at hj
      obtain ⟨j, rfl⟩ : ∃ k, j = k + 1 := ⟨j - 1, by omega⟩
      rw [List.getElem?_cons_succ]
      cases i with
      | zero =>
        have hne : (Ring.written room (r.write a) values)[j]? ≠ some ((r.write a).recent 0) :=
          Ring.written_ne_recent hroom values (by omega)
        rw [Ring.write_recent_zero] at hne
        rw [List.getElem?_cons_zero]
        exact hne.symm
      | succ i =>
        rw [List.getElem?_cons_succ]
        exact ih (by omega) (by omega) (by omega)

/-- Every window of `room + 1` written values has no value twice. -/
theorem Ring.written_window {α : Type} {n : Nat} [NeZero n] [DecidableEq α] {room : Nat}
    (hroom : room ≤ n) (values : List α) {r : Ring α n} {before window after : List α}
    (hsplit : Ring.written room r values = before ++ window ++ after)
    (hlength : window.length ≤ room + 1) : window.Nodup := by
  rw [List.nodup_iff_getElem?_ne_getElem?]
  intro i j hlt hj
  have hat : ∀ k < window.length,
      (Ring.written room r values)[before.length + k]? = window[k]? := by
    intro k hk
    rw [hsplit, List.append_assoc, List.getElem?_append_right (Nat.le_add_right _ _),
      Nat.add_sub_cancel_left, List.getElem?_append_left hk]
  rw [← hat i (by omega), ← hat j hj]
  apply Ring.written_spread hroom values (by omega) (by omega)
  rw [hsplit]
  simp only [List.length_append]
  omega

/-- After a sequence of insertions the newest cells hold what it has written,
the others are as many writes older. -/
theorem Ring.insert_list_recent {α : Type} {n : Nat} [NeZero n] [DecidableEq α] (room : Nat)
    (values : List α) (r : Ring α n) {age : Nat} (hage : age < n) :
    (age < (Ring.written room r values).length →
      (values.foldl (Ring.insert room) r).recent age ∈ Ring.written room r values) ∧
    ((Ring.written room r values).length ≤ age →
      (values.foldl (Ring.insert room) r).recent age =
        r.recent (age - (Ring.written room r values).length)) := by
  induction values generalizing r with
  | nil => exact ⟨fun h => absurd h (Nat.not_lt_zero age), fun _ => rfl⟩
  | cons a values ih =>
    rw [List.foldl_cons, Ring.written, Ring.insert]
    split
    · exact ih r
    · obtain ⟨hnew, hold⟩ := ih (r.write a)
      simp only [List.length_cons]
      constructor
      · intro hlt
        by_cases hlast : age < (Ring.written room (r.write a) values).length
        · exact List.mem_cons_of_mem a (hnew hlast)
        · have hage' : age = (Ring.written room (r.write a) values).length := by omega
          rw [hold (by omega), ← hage', Nat.sub_self, Ring.write_recent_zero]
          exact List.mem_cons_self
      · intro hle
        have hshift : age - (Ring.written room (r.write a) values).length =
            age - ((Ring.written room (r.write a) values).length + 1) + 1 := by omega
        rw [hold (by omega), hshift, Ring.write_recent_succ r a (by omega)]

/-- Every cell is some number of writes old. -/
theorem Ring.cell_recent {α : Type} {n : Nat} [NeZero n] (r : Ring α n) (i : Fin n) :
    ∃ age < n, r.recent age = r.cell i := by
  refine ⟨(r.last - i).val, (r.last - i).isLt, ?_⟩
  rw [Ring.recent, Fin.ofNat_val_eq_self, sub_sub_cancel]

end concretid.ring
