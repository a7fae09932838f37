import ConcretID.Com.Types
import ConcretID.Library.Ring

open concretid.ring

namespace concretid.com

/-- `h[1]%RID_BLOCKS`, the block of an id. -/
def ridBlock (h : Rid) : Fin RID_BLOCKS := ⟨h.h1.toNat % RID_BLOCKS, Nat.mod_lt _ (by decide)⟩

/-- The known package ids: a ring of `RID_QTY_PER_BLOCK` ids for each block. -/
structure RidTable where
  ridTable : Fin RID_BLOCKS → Fin RID_QTY_PER_BLOCK → Rid
  lastRid : Fin RID_BLOCKS → Fin RID_QTY_PER_BLOCK

namespace RidTable

def zero : RidTable :=
  { ridTable := fun _ _ => { h0 := 0, h1 := 0, h2 := 0, h3 := 0 }
    lastRid := fun _ => 0 }

/-- The loop of `existsRid` over the cells still to be compared. -/
def existsRid_loop (cells : Fin RID_QTY_PER_BLOCK → Rid) (h : Rid) :
    List (Fin RID_QTY_PER_BLOCK) → Nat → Nat
  | [], ret => ret
  | i :: rest, ret =>
    if CmpRid1 (cells i) h then
      if (cells i).h0 = h.h0 then 1 else existsRid_loop cells h rest 2
    else existsRid_loop cells h rest ret

def existsRid (t : RidTable) (h : Rid) : Nat :=
  existsRid_loop (t.ridTable (ridBlock h)) h (List.finRange RID_QTY_PER_BLOCK) 0

def registerRid (t : RidTable) (h : Rid) : RidTable :=
  let block := ridBlock h
  if t.ridTable block (t.lastRid block) = h then t
  else
    { ridTable := Function.update t.ridTable block
        (Function.update (t.ridTable block) (t.lastRid block + 1) h)
      lastRid := Function.update t.lastRid block (t.lastRid block + 1) }

/-- One block as a ring memory. -/
def block (t : RidTable) (b : Fin RID_BLOCKS) : Ring Rid RID_QTY_PER_BLOCK :=
  { cell := t.ridTable b, last := t.lastRid b }

theorem existsRid_loop_eq_one {cells : Fin RID_QTY_PER_BLOCK → Rid} {h : Rid}
    {rest : List (Fin RID_QTY_PER_BLOCK)} {ret : Nat} (hret : ret ≠ 1) :
    existsRid_loop cells h rest ret = 1 ↔ ∃ i ∈ rest, cells i = h := by
  induction rest generalizing ret with
  | nil => simp [existsRid_loop, hret]
  | cons i rest ih =>
    rw [existsRid_loop]
    split
    · rename_i hsame
      split
      · rename_i hfirst
        have heq : cells i = h := by
          obtain ⟨hh1, hh2, hh3⟩ := hsame
          cases hc : cells i
          cases h
          simp_all
        simp [heq]
      · rename_i hfirst
        have hne : cells i ≠ h := fun heq => hfirst (congrArg Rid.h0 heq)
        rw [ih (by decide)]
        simp [hne]
    · rename_i hother
      have hne : cells i ≠ h := by
        rintro rfl
        exact hother ⟨rfl, rfl, rfl⟩
      rw [ih hret]
      simp [hne]

/-- `existsRid` answers 1 exactly when its block holds the id itself. -/
theorem existsRid_eq_one {t : RidTable} {h : Rid} :
    t.existsRid h = 1 ↔ ∃ i, (t.block (ridBlock h)).cell i = h := by
  rw [existsRid, existsRid_loop_eq_one (by decide)]
  simp [block, List.mem_finRange]

/-- Registering an id inserts it into its block's ring, unless it is the last one there. -/
theorem registerRid_block_self (t : RidTable) (h : Rid) :
    (t.registerRid h).block (ridBlock h) = (t.block (ridBlock h)).insert 1 h := by
  have hlast : (∃ age < 1, (t.block (ridBlock h)).recent age = h) ↔
      t.ridTable (ridBlock h) (t.lastRid (ridBlock h)) = h := by
    simp [Ring.recent, block]
  rw [registerRid, Ring.insert]
  by_cases hsame : t.ridTable (ridBlock h) (t.lastRid (ridBlock h)) = h
  · rw [if_pos hsame, if_pos (hlast.mpr hsame)]
  · rw [if_neg hsame, if_neg (fun hi => hsame (hlast.mp hi))]
    simp [block, Ring.write]

/-- Registering an id leaves the other blocks alone. -/
theorem registerRid_block_of_ne (t : RidTable) {h : Rid} {b : Fin RID_BLOCKS}
    (hne : b ≠ ridBlock h) : (t.registerRid h).block b = t.block b := by
  rw [registerRid]
  split
  · rfl
  · simp [block, hne]

/-- Registering a list of ids inserts those of a block into its ring. -/
theorem register_list_block (t : RidTable) (rids : List Rid) (b : Fin RID_BLOCKS) :
    (rids.foldl registerRid t).block b =
      (rids.filter fun h => ridBlock h = b).foldl (Ring.insert 1) (t.block b) := by
  induction rids generalizing t with
  | nil => rfl
  | cons h rids ih =>
    rw [List.foldl_cons, ih]
    by_cases hb : ridBlock h = b
    · subst hb
      simp [registerRid_block_self]
    · simp [hb, registerRid_block_of_ne t (Ne.symm hb)]

/-- A registered id is recognised while at most fifteen other ids have been
registered in its block since. -/
theorem register_list_recognised (t : RidTable) {h : Rid} (later : List Rid)
    (hroom : later.countP (fun r => ridBlock r = ridBlock h ∧ r ≠ h) ≤ 15) :
    (later.foldl registerRid (t.registerRid h)).existsRid h = 1 := by
  rw [existsRid_eq_one, register_list_block, registerRid_block_self]
  have hheld := Ring.insert_held 0 (q := (· = h)) (t.block (ridBlock h)) rfl
  have hothers : (later.filter fun r => ridBlock r = ridBlock h).countP (fun r => ¬ r = h) ≤ 15 := by
    rw [List.countP_filter]
    refine le_trans (le_of_eq (List.countP_congr fun r _ => ?_)) hroom
    simp [and_comm]
  exact (hheld.insert_list _ (by simp only [RID_QTY_PER_BLOCK]; omega)).mem

end RidTable

end concretid.com
