import ConcretID.Library.Memory

namespace concretid.memory

/-- A list cut into blocks of a given size, each with its address. -/
def blocks {α : Type} (size addr : Nat) (l : List α) : List (Nat × List α) :=
  if l = [] ∨ size = 0 then []
  else (addr, l.take size) :: blocks size (addr + (l.take size).length) (l.drop size)
termination_by l.length
decreasing_by
  rename_i hrest
  obtain ⟨hl, hsize⟩ := not_or.mp hrest
  have hlength : 0 < l.length := List.length_pos_iff.mpr hl
  rw [List.length_drop]
  omega

@[simp] theorem blocks_nil {α : Type} (size addr : Nat) : blocks size addr ([] : List α) = [] := by
  rw [blocks, if_pos (.inl rfl)]

theorem blocks_cons {α : Type} {size : Nat} (hsize : 0 < size) (addr : Nat) {l : List α}
    (hl : l ≠ []) :
    blocks size addr l =
      (addr, l.take size) :: blocks size (addr + (l.take size).length) (l.drop size) := by
  rw [blocks, if_neg (by rintro (h | h); exacts [hl h, Nat.ne_of_gt hsize h])]

/-- Cutting into blocks is an induction on what is left of the list. -/
theorem blocks_induction {α : Type} (size : Nat) (hsize : 0 < size) {motive : List α → Prop}
    (hnil : motive []) (hdrop : ∀ l, l ≠ [] → motive (l.drop size) → motive l) (l : List α) :
    motive l := by
  induction hn : l.length using Nat.strongRecOn generalizing l with
  | _ n ih =>
    by_cases hl : l = []
    · exact hl ▸ hnil
    · have hlength : 0 < l.length := List.length_pos_iff.mpr hl
      have hshorter : (l.drop size).length < n := by rw [List.length_drop]; omega
      exact hdrop l hl (ih _ hshorter _ rfl)

/-- The blocks put together again. -/
theorem blocks_flatMap {α : Type} {size : Nat} (hsize : 0 < size) (addr : Nat) (l : List α) :
    (blocks size addr l).flatMap Prod.snd = l := by
  induction l using blocks_induction size hsize generalizing addr with
  | hnil => simp
  | hdrop l hl ih => rw [blocks_cons hsize _ hl, List.flatMap_cons, ih, List.take_append_drop]

/-- The addresses of a block. -/
def addresses {α : Type} (b : Nat × List α) : List Nat :=
  List.range' b.1 b.2.length

/-- The blocks cover each address once and in order. -/
theorem blocks_addresses {α : Type} {size : Nat} (hsize : 0 < size) (addr : Nat) (l : List α) :
    (blocks size addr l).flatMap addresses = List.range' addr l.length := by
  induction l using blocks_induction size hsize generalizing addr with
  | hnil => simp
  | hdrop l hl ih =>
    rw [blocks_cons hsize _ hl, List.flatMap_cons, ih, addresses, List.range'_append_1,
      ← List.length_append, List.take_append_drop]

/-- Blocks of whole words, of a list of whole words from a word on, lie on words. -/
theorem blocks_aligned {α : Type} {size word : Nat} (hsize : 0 < size) (hword : word ∣ size)
    {addr : Nat} {l : List α} (haddr : word ∣ addr) (hl : word ∣ l.length)
    {b : Nat × List α} (hb : b ∈ blocks size addr l) : word ∣ b.1 ∧ word ∣ b.2.length := by
  induction l using blocks_induction size hsize generalizing addr with
  | hnil => simp at hb
  | hdrop l hne ih =>
    have htake : word ∣ (l.take size).length := by
      rw [List.length_take]
      obtain h | h := Nat.le_total size l.length
      · rwa [Nat.min_eq_left h]
      · rwa [Nat.min_eq_right h]
    rw [blocks_cons hsize _ hne, List.mem_cons] at hb
    obtain rfl | hb := hb
    · exact ⟨haddr, htake⟩
    · refine ih (Nat.dvd_add haddr htake) ?_ hb
      rw [List.length_drop]
      exact Nat.dvd_sub hl hword

theorem blocks_length_le {α : Type} {size : Nat} (hsize : 0 < size) {addr : Nat} {l : List α}
    {b : Nat × List α} (hb : b ∈ blocks size addr l) : b.2.length ≤ size := by
  induction l using blocks_induction size hsize generalizing addr with
  | hnil => simp at hb
  | hdrop l hne ih =>
    rw [blocks_cons hsize _ hne, List.mem_cons] at hb
    obtain rfl | hb := hb
    · exact List.length_take_le size l
    · exact ih hb

/-- Memory that holds a list holds each of its blocks. -/
theorem blocks_load {α : Type} {size : Nat} (hsize : 0 < size) (d : Nat → α) {addr : Nat}
    {l : List α} (hl : load d addr l.length = l) {b : Nat × List α} (hb : b ∈ blocks size addr l) :
    load d b.1 b.2.length = b.2 := by
  induction l using blocks_induction size hsize generalizing addr with
  | hnil => simp at hb
  | hdrop l hne ih =>
    rw [blocks_cons hsize _ hne, List.mem_cons] at hb
    obtain ⟨htake, hdrop⟩ := load_eq_append (hl.trans (List.take_append_drop size l).symm)
    obtain rfl | hb := hb
    · exact htake
    · exact ih hdrop hb

end concretid.memory
