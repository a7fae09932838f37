import Mathlib.Tactic.IntervalCases
import ConcretID.Ems.Types
import ConcretID.Library.Ring

open concretid.ring

namespace concretid.ems

def RID_FLEX : Rid := 0xff
def RID_FIXED : Rid := ~~~RID_FLEX

/-- `RID_HASH(rid)`: the three bits above the flexible byte. -/
def RID_HASH (rid : Rid) : Fin RID_BLOCKS :=
  ⟨(rid >>> 8).toNat % RID_BLOCKS, Nat.mod_lt _ (by decide)⟩

/-- `RID_INC`: advance the flexible byte only. -/
def RID_INC (rid : Rid) : Rid := rid &&& RID_FIXED ||| (rid + 1) &&& RID_FLEX

/-- The received package ids: a ring of `RID_QTY` ids for each hash block. -/
structure RidTable where
  rid_table : Fin RID_BLOCKS → Fin RID_QTY → Rid
  last_rid : Fin RID_BLOCKS → Fin RID_QTY

namespace RidTable

def zero : RidTable := { rid_table := fun _ _ => 0, last_rid := fun _ => 0 }

/-- The loop of `exists_rid` over the cells still to be compared. -/
def exists_rid_loop (cells : Fin RID_QTY → Rid) (rid : Rid) : List (Fin RID_QTY) → Nat → Nat
  | [], ret => ret
  | i :: rest, ret =>
    if rid &&& RID_FIXED = cells i &&& RID_FIXED then
      if rid = cells i then 1 else exists_rid_loop cells rid rest 2
    else exists_rid_loop cells rid rest ret

def exists_rid (t : RidTable) (rid : Rid) : Nat :=
  exists_rid_loop (t.rid_table (RID_HASH rid)) rid (List.finRange RID_QTY) 0

def register_rid (t : RidTable) (rid : Rid) : RidTable :=
  let block := RID_HASH rid
  if ∃ i < RID_ROOM, rid = t.rid_table block (t.last_rid block - Fin.ofNat RID_QTY i) then t
  else
    { rid_table := Function.update t.rid_table block
        (Function.update (t.rid_table block) (t.last_rid block + 1) rid)
      last_rid := Function.update t.last_rid block (t.last_rid block + 1) }

/-- One block as a ring memory. -/
def block (t : RidTable) (b : Fin RID_BLOCKS) : Ring Rid RID_QTY :=
  { cell := t.rid_table b, last := t.last_rid b }

theorem exists_rid_loop_eq_one {cells : Fin RID_QTY → Rid} {rid : Rid} {rest : List (Fin RID_QTY)}
    {ret : Nat} (hret : ret ≠ 1) :
    exists_rid_loop cells rid rest ret = 1 ↔ ∃ i ∈ rest, cells i = rid := by
  induction rest generalizing ret with
  | nil => simp [exists_rid_loop, hret]
  | cons i rest ih =>
    rw [exists_rid_loop]
    split
    · split
      · rename_i _ heq
        simp [heq]
      · rename_i _ hne
        rw [ih (by decide)]
        simp [Ne.symm hne]
    · rename_i hfixed
      have hne : cells i ≠ rid := by
        rintro rfl
        exact hfixed rfl
      rw [ih hret]
      simp [hne]

theorem exists_rid_loop_eq_zero {cells : Fin RID_QTY → Rid} {rid : Rid}
    {rest : List (Fin RID_QTY)} {ret : Nat} :
    exists_rid_loop cells rid rest ret = 0 ↔
      ret = 0 ∧ ∀ i ∈ rest, cells i &&& RID_FIXED ≠ rid &&& RID_FIXED := by
  induction rest generalizing ret with
  | nil => simp [exists_rid_loop]
  | cons i rest ih =>
    rw [exists_rid_loop]
    split
    · rename_i hfixed
      split
      · simp [hfixed]
      · simp [ih, hfixed]
    · rename_i hfixed
      simp [ih, Ne.symm hfixed]

/-- `exists_rid` answers 1 exactly when its block holds the id itself. -/
theorem exists_rid_eq_one {t : RidTable} {rid : Rid} :
    t.exists_rid rid = 1 ↔ ∃ i, (t.block (RID_HASH rid)).cell i = rid := by
  rw [exists_rid, exists_rid_loop_eq_one (by decide)]
  simp [block, List.mem_finRange]

/-- `exists_rid` answers 0 exactly when its block holds no id with the same
upper 24 bits. -/
theorem exists_rid_eq_zero {t : RidTable} {rid : Rid} :
    t.exists_rid rid = 0 ↔
      ∀ i, (t.block (RID_HASH rid)).cell i &&& RID_FIXED ≠ rid &&& RID_FIXED := by
  rw [exists_rid, exists_rid_loop_eq_zero]
  simp [block, List.mem_finRange]

theorem exists_rid_loop_le {cells : Fin RID_QTY → Rid} {rid : Rid} {rest : List (Fin RID_QTY)}
    {ret : Nat} (hret : ret ≤ 2) : exists_rid_loop cells rid rest ret ≤ 2 := by
  induction rest generalizing ret with
  | nil => exact hret
  | cons i rest ih =>
    rw [exists_rid_loop]
    split
    · split
      · decide
      · exact ih (Nat.le_refl 2)
    · exact ih hret

/-- `exists_rid` answers 0, 1 or 2. -/
theorem exists_rid_le (t : RidTable) (rid : Rid) : t.exists_rid rid ≤ 2 :=
  exists_rid_loop_le (Nat.zero_le 2)

/-- Registering an id inserts it into its block's ring. -/
theorem register_rid_block_self (t : RidTable) (rid : Rid) :
    (t.register_rid rid).block (RID_HASH rid) =
      (t.block (RID_HASH rid)).insert RID_ROOM rid := by
  have hsame : (∃ i < RID_ROOM, rid =
      t.rid_table (RID_HASH rid) (t.last_rid (RID_HASH rid) - Fin.ofNat RID_QTY i)) ↔
      ∃ age < RID_ROOM, (t.block (RID_HASH rid)).recent age = rid := by
    simp only [Ring.recent, block, eq_comm]
  rw [register_rid, Ring.insert]
  by_cases h : ∃ age < RID_ROOM, (t.block (RID_HASH rid)).recent age = rid
  · rw [if_pos h, if_pos (hsame.mpr h)]
  · rw [if_neg h, if_neg (fun hi => h (hsame.mp hi))]
    simp [block, Ring.write]

/-- Registering an id leaves the other blocks alone. -/
theorem register_rid_block_of_ne (t : RidTable) {rid : Rid} {b : Fin RID_BLOCKS}
    (hne : b ≠ RID_HASH rid) : (t.register_rid rid).block b = t.block b := by
  rw [register_rid]
  split
  · rfl
  · simp [block, hne]

/-- Registering a list of ids inserts those of a block into its ring. -/
theorem register_list_block (t : RidTable) (rids : List Rid) (b : Fin RID_BLOCKS) :
    (rids.foldl register_rid t).block b =
      (rids.filter fun rid => RID_HASH rid = b).foldl (Ring.insert RID_ROOM) (t.block b) := by
  induction rids generalizing t with
  | nil => rfl
  | cons rid rids ih =>
    rw [List.foldl_cons, ih]
    by_cases hb : RID_HASH rid = b
    · subst hb
      simp [register_rid_block_self]
    · simp [hb, register_rid_block_of_ne t (Ne.symm hb)]

/-- A cell holds what it held or one of the ids registered since. -/
theorem register_list_mem (t : RidTable) (rids : List Rid) (b : Fin RID_BLOCKS)
    (i : Fin RID_QTY) :
    ((rids.foldl register_rid t).block b).cell i = (t.block b).cell i ∨
      ((rids.foldl register_rid t).block b).cell i ∈ rids := by
  induction rids generalizing t with
  | nil => exact .inl rfl
  | cons rid rids ih =>
    rw [List.foldl_cons]
    obtain hsame | hmem := ih (t.register_rid rid)
    · rw [hsame]
      by_cases hb : b = RID_HASH rid
      · subst hb
        rw [register_rid_block_self]
        exact Ring.insert_mem.imp_right fun hrid => by simp [hrid]
      · rw [register_rid_block_of_ne t hb]
        exact .inl rfl
    · exact .inr (List.mem_cons_of_mem _ hmem)

/-- An id of some kind that has been registered is held by its block until more
than eight ids of another kind have been registered there. -/
theorem register_list_holds (t : RidTable) {q : Rid → Prop} [DecidablePred q] {rid : Rid}
    (hq : q rid) (before later : List Rid)
    (hroom : later.countP (fun r => RID_HASH r = RID_HASH rid ∧ ¬ q r) ≤ RID_ROOM) :
    ∃ i, q ((((before ++ rid :: later).foldl register_rid t).block (RID_HASH rid)).cell i) := by
  rw [List.foldl_append, List.foldl_cons, register_list_block, register_rid_block_self]
  have hheld := Ring.insert_held (RID_ROOM - 1)
    ((before.foldl register_rid t).block (RID_HASH rid)) hq
  have hothers : (later.filter fun r => RID_HASH r = RID_HASH rid).countP (fun r => ¬ q r) ≤
      RID_ROOM := by
    rw [List.countP_filter]
    refine le_trans (le_of_eq (List.countP_congr fun r _ => ?_)) hroom
    simp [and_comm]
  exact (hheld.insert_list _ (by simp only [RID_ROOM, RID_QTY] at *; omega)).mem

end RidTable

/-- The flexible byte does not enter the hash. -/
theorem RID_HASH_congr {a b : Rid} (h : a &&& RID_FIXED = b &&& RID_FIXED) :
    RID_HASH a = RID_HASH b := by
  have hshift : a >>> 8 = b >>> 8 := by
    apply UInt32.toBitVec_inj.mp
    apply BitVec.eq_of_getLsbD_eq
    intro i hi
    have hbit := congrArg (fun r : UInt32 => r.toBitVec.getLsbD (8 + i)) h
    by_cases hin : 8 + i < 32
    · have hfixed : RID_FIXED.toBitVec.getLsbD (8 + i) = true := by
        have hi' : i < 24 := by omega
        interval_cases i <;> decide
      simpa [hfixed] using hbit
    · simp [BitVec.getLsbD_of_ge _ _ (Nat.le_of_not_lt hin)]
  simp [RID_HASH, hshift]

/-- How `acknowledge` compares the upper 24 bits of two ids. -/
theorem xor_fixed_eq_zero {a b : Rid} :
    (a ^^^ b) &&& RID_FIXED = 0 ↔ a &&& RID_FIXED = b &&& RID_FIXED := by
  have hdistrib : (a ^^^ b) &&& RID_FIXED = (a &&& RID_FIXED) ^^^ (b &&& RID_FIXED) := by
    apply UInt32.toBitVec_inj.mp
    apply BitVec.eq_of_getLsbD_eq
    intro i hi
    cases hfixed : RID_FIXED.toBitVec.getLsbD i <;> simp [hfixed]
  rw [hdistrib, UInt32.xor_eq_zero_iff]

/-- A retransmission keeps the upper 24 bits. -/
theorem RID_INC_fixed (rid : Rid) : RID_INC rid &&& RID_FIXED = rid &&& RID_FIXED := by
  apply UInt32.toBitVec_inj.mp
  apply BitVec.eq_of_getLsbD_eq
  intro i hi
  cases hflex : RID_FLEX.toBitVec.getLsbD i <;> simp [RID_INC, RID_FIXED, hflex]

end concretid.ems
