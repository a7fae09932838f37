import Mathlib.Logic.Function.Basic
import Mathlib.Data.List.Basic

namespace concretid.memory

/-- The cells of a block of memory from an offset on, read in order. -/
def load {α : Type} (d : Nat → α) (offset n : Nat) : List α :=
  (List.range n).map fun i => d (offset + i)

/-- Memory with the values of a list written from an offset on. -/
def store {α : Type} (d : Nat → α) (offset : Nat) (values : List α) : Nat → α :=
  fun i => if i < offset then d i else (values[i - offset]?).getD (d i)

/-- `for (i = 0; i < n; ++i) d[i] = d[offset + i]`, in place. -/
def copyDown {α : Type} (d : Nat → α) (offset : Nat) : Nat → Nat → α
  | 0 => d
  | n + 1 =>
    let moved := copyDown d offset n
    Function.update moved n (moved (offset + n))

/-- `for (i = n-1; i >= 0; --i) d[offset + i] = d[i]`, in place. -/
def copyUp {α : Type} (offset : Nat) : Nat → (Nat → α) → Nat → α
  | 0, d => d
  | n + 1, d => copyUp offset n (Function.update d (offset + n) (d n))

/-- `for (i = 0; i < n; ++i) d[start + i] = d[start + gap + i]`, in place. -/
def shiftDown {α : Type} (d : Nat → α) (start gap : Nat) : Nat → Nat → α
  | 0 => d
  | n + 1 =>
    let moved := shiftDown d start gap n
    Function.update moved (start + n) (moved (start + gap + n))

@[simp] theorem load_length {α : Type} (d : Nat → α) (offset n : Nat) :
    (load d offset n).length = n := by
  simp [load]

theorem load_getElem? {α : Type} (d : Nat → α) (offset n i : Nat) :
    (load d offset n)[i]? = if i < n then some (d (offset + i)) else none := by
  by_cases hi : i < n <;> simp [load, hi]

theorem load_getD {α : Type} (d : Nat → α) {n i : Nat} (hi : i < n) (a : α) :
    (load d 0 n).getD i a = d i := by
  rw [List.getD_eq_getElem?_getD, load_getElem?, if_pos hi, Option.getD_some, Nat.zero_add]

theorem load_congr {α : Type} {d e : Nat → α} {offset from' n : Nat}
    (h : ∀ i < n, d (offset + i) = e (from' + i)) : load d offset n = load e from' n := by
  apply List.ext_getElem?
  intro i
  simp only [load_getElem?]
  split
  · rw [h i ‹_›]
  · rfl

theorem load_append {α : Type} (d : Nat → α) (offset m n : Nat) :
    load d offset (m + n) = load d offset m ++ load d (offset + m) n := by
  simp [load, List.range_add, List.map_append, Nat.add_assoc]

/-- A list is not what memory holds from an offset on exactly when some element
differs. -/
theorem ne_load_iff {α : Type} {d : Nat → α} {offset : Nat} {l : List α} :
    l ≠ load d offset l.length ↔ ∃ i < l.length, l[i]? ≠ some (d (offset + i)) := by
  rw [Ne, List.ext_getElem?_iff, not_forall]
  refine exists_congr fun i => ?_
  rw [load_getElem?]
  by_cases hi : i < l.length <;> simp [hi]

/-- What is read in one go is read in two parts. -/
theorem load_eq_append {α : Type} {d : Nat → α} {offset n : Nat} {a b : List α}
    (h : load d offset n = a ++ b) :
    load d offset a.length = a ∧ load d (offset + a.length) b.length = b := by
  have hlength := congrArg List.length h
  rw [load_length, List.length_append] at hlength
  rw [hlength, load_append] at h
  exact List.append_inj h (load_length _ _ _)

@[simp] theorem load_zero {α : Type} (d : Nat → α) (offset : Nat) : load d offset 0 = [] := rfl

theorem load_succ {α : Type} (d : Nat → α) (offset n : Nat) :
    load d offset (n + 1) = d offset :: load d (offset + 1) n := by
  rw [Nat.add_comm n 1, load_append]
  rfl

theorem load_take {α : Type} (d : Nat → α) (offset : Nat) {m n : Nat} (h : m ≤ n) :
    (load d offset n).take m = load d offset m := by
  rw [← Nat.add_sub_cancel' h, load_append, List.take_left' (load_length _ _ _)]

theorem load_drop {α : Type} (d : Nat → α) (offset m n : Nat) :
    (load d offset n).drop m = load d (offset + m) (n - m) := by
  apply List.ext_getElem?
  intro i
  have hiff : m + i < n ↔ i < n - m := by omega
  rw [List.getElem?_drop, load_getElem?, load_getElem?]
  simp only [hiff, Nat.add_assoc]

theorem store_of_lt {α : Type} (d : Nat → α) {offset i : Nat} (values : List α)
    (h : i < offset) : store d offset values i = d i := by
  simp [store, h]

theorem store_of_ge {α : Type} (d : Nat → α) {offset i : Nat} (values : List α)
    (h : offset + values.length ≤ i) : store d offset values i = d i := by
  have hnone : values[i - offset]? = none := List.getElem?_eq_none (by omega)
  simp [store, hnone]

/-- What was stored is read back. -/
@[simp] theorem load_store {α : Type} (d : Nat → α) (offset : Nat) (values : List α) :
    load (store d offset values) offset values.length = values := by
  apply List.ext_getElem?
  intro i
  rw [load_getElem?]
  split
  · rename_i hi
    have hinside : ¬ offset + i < offset := by omega
    simp [store, hi, hinside]
  · rename_i hi
    exact (List.getElem?_eq_none (by omega)).symm

/-- A store leaves what lies wholly before or wholly after it. -/
theorem load_store_of_disjoint {α : Type} (d : Nat → α) {offset from' n : Nat}
    (values : List α) (h : from' + n ≤ offset ∨ offset + values.length ≤ from') :
    load (store d offset values) from' n = load d from' n := by
  apply load_congr
  intro i hi
  obtain hbefore | hafter := h
  · exact store_of_lt d values (by omega)
  · exact store_of_ge d values (by omega)

/-- `memcpy(d, e, n)`. -/
theorem store_load {α : Type} (d e : Nat → α) (n i : Nat) :
    store d 0 (load e 0 n) i = if i < n then e i else d i := by
  rw [store, if_neg (Nat.not_lt_zero i), Nat.sub_zero, load_getElem?, Nat.zero_add]
  split <;> rfl

theorem load_store_load {α : Type} (d e : Nat → α) (n : Nat) :
    load (store d 0 (load e 0 n)) 0 n = load e 0 n := by
  refine load_congr fun i hi => ?_
  rw [store_load, Nat.zero_add, if_pos hi]

/-- Two stores, the second one behind the first, are read back together. -/
theorem load_store_store {α : Type} (d : Nat → α) (first second : List α) :
    load (store (store d 0 first) first.length second) 0 (first.length + second.length) =
      first ++ second := by
  rw [load_append, Nat.zero_add, load_store, load_store_of_disjoint, load_store]
  exact .inl (Nat.le_of_eq (Nat.zero_add _))

@[simp] theorem store_nil {α : Type} (d : Nat → α) (offset : Nat) : store d offset [] = d := by
  funext i
  simp [store]

/-- A list stored whole is stored in two parts. -/
theorem store_append {α : Type} (d : Nat → α) (offset : Nat) (first second : List α) :
    store d offset (first ++ second) =
      store (store d offset first) (offset + first.length) second := by
  funext i
  by_cases hbefore : i < offset + first.length
  · rw [store_of_lt _ _ hbefore]
    by_cases hlt : i < offset
    · rw [store_of_lt _ _ hlt, store_of_lt _ _ hlt]
    · have hinside : i - offset < first.length := by omega
      simp [store, hlt, List.getElem?_append_left hinside]
  · have hafter : first.length ≤ i - offset := by omega
    have hlt : ¬ i < offset := by omega
    rw [store, if_neg hlt, store, if_neg hbefore, List.getElem?_append_right hafter,
      store_of_ge d first (Nat.le_of_not_lt hbefore), Nat.sub_sub]

theorem store_single {α : Type} (d : Nat → α) (offset : Nat) (a : α) :
    store d offset [a] = Function.update d offset a := by
  funext i
  rw [Function.update_apply]
  split
  · rename_i hi
    subst hi
    simp [store]
  · rename_i hi
    obtain hlt | hgt := Nat.lt_or_gt_of_ne hi
    · exact store_of_lt d [a] hlt
    · exact store_of_ge d [a] (by simpa using Nat.succ_le_of_lt hgt)

/-- A single value stored within what is read. -/
theorem load_store_single {α : Type} (d : Nat → α) (offset n : Nat) (a : α) :
    load (store d offset [a]) 0 n = (load d 0 n).set offset a := by
  apply List.ext_getElem?
  intro i
  rw [store_single, load_getElem?, List.getElem?_set, load_getElem?, load_length, Nat.zero_add]
  by_cases hi : i = offset
  · subst hi
    simp
  · rw [Function.update_of_ne hi, if_neg (Ne.symm hi)]

/-- Copying downwards reads every cell before it is overwritten, so the
overlap does not matter. -/
theorem copyDown_apply {α : Type} (d : Nat → α) (offset n i : Nat) :
    copyDown d offset n i = if i < n then d (offset + i) else d i := by
  induction n generalizing i with
  | zero => simp [copyDown]
  | succ n ih =>
    simp only [copyDown, Function.update_apply, ih]
    by_cases hi : i = n
    · subst hi
      have hsource : ¬ offset + i < i := by omega
      simp [hsource]
    · have hlt : i < n + 1 ↔ i < n := by omega
      simp [hi, hlt]

/-- Shifting downwards reads every cell before it is overwritten. -/
theorem shiftDown_apply {α : Type} (d : Nat → α) (start gap n i : Nat) :
    shiftDown d start gap n i = if start ≤ i ∧ i < start + n then d (i + gap) else d i := by
  induction n generalizing i with
  | zero =>
    have hempty : ¬ (start ≤ i ∧ i < start + 0) := by omega
    rw [shiftDown, if_neg hempty]
  | succ n ih =>
    simp only [shiftDown, Function.update_apply, ih]
    by_cases hi : i = start + n
    · subst hi
      have hinside : start ≤ start + n ∧ start + n < start + (n + 1) := by omega
      have hsource : ¬ (start ≤ start + gap + n ∧ start + gap + n < start + n) := by omega
      rw [if_pos rfl, if_pos hinside, if_neg hsource]
      congr 1
      omega
    · have hlt : start ≤ i ∧ i < start + (n + 1) ↔ start ≤ i ∧ i < start + n := by omega
      simp [hi, hlt]

/-- Copying upwards from the end reads every cell before it is overwritten. -/
theorem copyUp_apply {α : Type} (offset n : Nat) (d : Nat → α) (i : Nat) :
    copyUp offset n d i = if offset ≤ i ∧ i < offset + n then d (i - offset) else d i := by
  induction n generalizing d with
  | zero =>
    have hempty : ¬ (offset ≤ i ∧ i < offset + 0) := by omega
    rw [copyUp, if_neg hempty]
  | succ n ih =>
    rw [copyUp, ih]
    by_cases hlast : i = offset + n
    · subst hlast
      have hinside : offset ≤ offset + n ∧ offset + n < offset + (n + 1) := by omega
      simp [hinside]
    · by_cases hinside : offset ≤ i ∧ i < offset + n
      · have hmore : offset ≤ i ∧ i < offset + (n + 1) := by omega
        have hsource : i - offset ≠ offset + n := by omega
        rw [if_pos hinside, if_pos hmore, Function.update_of_ne hsource]
      · have hmore : ¬ (offset ≤ i ∧ i < offset + (n + 1)) := by omega
        rw [if_neg hinside, if_neg hmore, Function.update_of_ne hlast]

@[simp] theorem load_copyDown {α : Type} (d : Nat → α) (offset n : Nat) :
    load (copyDown d offset n) 0 n = load d offset n := by
  apply load_congr
  intro i hi
  simp [copyDown_apply, hi]

@[simp] theorem load_copyUp {α : Type} (d : Nat → α) (offset n : Nat) :
    load (copyUp offset n d) offset n = load d 0 n := by
  apply load_congr
  intro i hi
  simp [copyUp_apply, hi]

end concretid.memory
