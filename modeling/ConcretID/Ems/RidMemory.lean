import ConcretID.Ems.Process

open concretid.ring

namespace concretid.ems

namespace RidTable

/-- The table after a sequence of `register_rid` calls from boot. -/
def registered (rids : List Rid) : RidTable := rids.foldl register_rid zero

/-- The entries that a sequence of `register_rid` calls writes to a block, as
seen from the position of the newest one. -/
def writes (b : Fin RID_BLOCKS) : RidTable → List Rid → List Rid
  | _, [] => []
  | t, rid :: rids =>
    let t' := t.register_rid rid
    if t'.last_rid b = t.last_rid b then writes b t' rids
    else t'.rid_table b (t'.last_rid b) :: writes b t' rids

theorem next_ne_last (i : Fin RID_QTY) : i + 1 ≠ i := by
  revert i
  decide

/-- What is written to a block is what its ring writes of the ids of the block. -/
theorem writes_eq (t : RidTable) (rids : List Rid) (b : Fin RID_BLOCKS) :
    writes b t rids =
      Ring.written RID_ROOM (t.block b) (rids.filter fun rid => RID_HASH rid = b) := by
  induction rids generalizing t with
  | nil => rfl
  | cons rid rids ih =>
    have hlast : ∀ u : RidTable, u.last_rid b = (u.block b).last := fun _ => rfl
    have hcell : ∀ (u : RidTable) (i : Fin RID_QTY), u.rid_table b i = (u.block b).cell i :=
      fun _ _ => rfl
    rw [writes]
    simp only [hlast, hcell, ih]
    by_cases hb : RID_HASH rid = b
    · subst hb
      rw [register_rid_block_self, List.filter_cons_of_pos (by simp), Ring.written, Ring.insert]
      split
      · rw [if_pos rfl]
      · rw [Ring.write_last, if_neg (next_ne_last _), Ring.write_cell_last]
    · rw [register_rid_block_of_ne t (Ne.symm hb), if_pos rfl,
        List.filter_cons_of_neg (by simpa using hb)]

/-- The rid memory keeps what it promises: a registered id is known through
eight further registrations, and nine entries written to a block one after the
other are different. -/
theorem registered_keeps (rids : List Rid) :
    (∀ (rid : Rid) (later : List Rid), later.length ≤ 8 →
      (later.foldl register_rid ((registered rids).register_rid rid)).exists_rid rid = 1) ∧
    ∀ (b : Fin RID_BLOCKS) (before window after : List Rid),
      writes b zero rids = before ++ window ++ after → window.length = 9 → window.Nodup := by
  constructor
  · intro rid later hlength
    rw [exists_rid_eq_one]
    have hothers : later.countP (fun r => RID_HASH r = RID_HASH rid ∧ ¬ r = rid) ≤ RID_ROOM :=
      List.countP_le_length.trans hlength
    have hholds := register_list_holds zero (q := fun r => r = rid) rfl rids later hothers
    rwa [List.foldl_append, List.foldl_cons] at hholds
  · intro b before window after hsplit hlength
    rw [writes_eq] at hsplit
    exact Ring.written_window (by decide) _ hsplit (le_of_eq hlength)

theorem three_registered_keep :
    ([0x0100, 0x0900, 0x1100].foldl register_rid
        ((registered [0x0200, 0x0100]).register_rid 0x0101)).exists_rid 0x0101 = 1 ∧
      (writes 1 zero [0x0100, 0x0900, 0x0100, 0x1100, 0x1900, 0x2100, 0x2900, 0x3100, 0x3900,
        0x4100]).Nodup := by
  refine ⟨(registered_keeps _).1 _ _ (by decide), ?_⟩
  exact (registered_keeps [0x0100, 0x0900, 0x0100, 0x1100, 0x1900, 0x2100, 0x2900, 0x3100, 0x3900,
    0x4100]).2 1 [] _ [] (by simp) (by decide)

/-- Until a block has been written all over, one of its cells is still as it was
at boot. -/
theorem registered_blank {rids : List Rid} {b : Fin RID_BLOCKS}
    (hfew : (writes b zero rids).length < RID_QTY) :
    ∃ i, ((registered rids).block b).cell i = 0 := by
  have hage : RID_QTY - 1 < RID_QTY := by decide
  obtain ⟨-, hold⟩ := Ring.insert_list_recent RID_ROOM
    (rids.filter fun rid => RID_HASH rid = b) (zero.block b) hage
  rw [writes_eq] at hfew
  rw [registered, register_list_block]
  exact ⟨_, hold (by omega)⟩

/-- Once a block has been written all over, it holds registered ids only. -/
theorem registered_full {rids : List Rid} {b : Fin RID_BLOCKS}
    (hfull : RID_QTY ≤ (writes b zero rids).length) (i : Fin RID_QTY) :
    ((registered rids).block b).cell i ∈ rids := by
  obtain ⟨age, hage, hcell⟩ := ((registered rids).block b).cell_recent i
  obtain ⟨hnew, -⟩ := Ring.insert_list_recent RID_ROOM
    (rids.filter fun rid => RID_HASH rid = b) (zero.block b) hage
  rw [writes_eq] at hfull
  rw [← hcell, registered, register_list_block]
  exact List.mem_of_mem_filter (Ring.written_subset _ _ (hnew (by omega)))

/-- A cell holds what it held at boot or a registered id. -/
theorem registered_mem (rids : List Rid) (b : Fin RID_BLOCKS) (i : Fin RID_QTY) :
    ((registered rids).block b).cell i = 0 ∨ ((registered rids).block b).cell i ∈ rids :=
  register_list_mem zero rids b i

/-- What `exists_rid` answers to comes from a cell with the same upper 24 bits. -/
theorem similar_of_exists {t : RidTable} {rid : Rid} (hexists : t.exists_rid rid ≠ 0) :
    ∃ i, (t.block (RID_HASH rid)).cell i &&& RID_FIXED = rid &&& RID_FIXED := by
  by_contra hnone
  push Not at hnone
  exact hexists (exists_rid_eq_zero.mpr hnone)

end RidTable

namespace Node

/-- What `process_package` does with an accepted package of which `exists_rid`
knows nothing. -/
def process_unknown (s : Node) (package : Package) (size : Nat) (src : Uid) : Result Node := do
  let src_as_neighbor ← s.transmission.find_neighbor src
  let s := s.receiveInto package size
  if s.flag PACKAGE_INTERMEDIATE then s.process_intermediate size
  else s.process_direct size src 0 src_as_neighbor

end Node

namespace RidTable

/-- The rid memory invents nothing about an id: what it knows of it has been
registered, and a package of which no transmission has been registered is
processed, not dropped or only acknowledged. -/
structure InventsNothing (rids : List Rid) (rid : Rid) : Prop where
  known : (registered rids).exists_rid rid = 1 → rid ∈ rids
  similar : (registered rids).exists_rid rid = 2 →
    ∃ r ∈ rids, r &&& RID_FIXED = rid &&& RID_FIXED
  processed : ∀ (s : Node) (package : Package) (size : Nat) (src : Uid),
    s.rids = registered rids → package.rid = rid →
    sizeof_package ≤ size → size ≤ BUFFER_PROCESS_SIZE → s.is_blocked src = false →
    (∀ r ∈ rids, r &&& RID_FIXED ≠ rid &&& RID_FIXED) →
    s.process_package package size src =
      (s.emit (.process_package package src)).process_unknown package size src

/-- Answers that come from registered ids let unknown packages be processed. -/
theorem inventsNothing_of_answers {rids : List Rid} {rid : Rid}
    (hknown : (registered rids).exists_rid rid = 1 → rid ∈ rids)
    (hsimilar : (registered rids).exists_rid rid = 2 →
      ∃ r ∈ rids, r &&& RID_FIXED = rid &&& RID_FIXED) : InventsNothing rids rid := by
  refine ⟨hknown, hsimilar, ?_⟩
  intro s package size src hrids hrid hlarge hsmall hblocked hfresh
  have hunknown : s.rids.exists_rid package.rid = 0 := by
    rw [hrids, hrid]
    have hle := exists_rid_le (registered rids) rid
    have hne_one : (registered rids).exists_rid rid ≠ 1 := fun h => hfresh rid (hknown h) rfl
    have hne_two : (registered rids).exists_rid rid ≠ 2 := by
      intro h
      obtain ⟨r, hr, hsame⟩ := hsimilar h
      exact hfresh r hr hsame
    omega
  have hblocked' : (s.emit (.process_package package src)).is_blocked src = false := hblocked
  rw [Node.process_package, if_neg (by omega), if_neg (by omega), if_neg (by simp [hblocked'])]
  simp only [Node.emit_rids, hunknown]
  rfl

/-- The block of the ids with upper 24 bits zero. -/
theorem RID_HASH_of_upper_zero {rid : Rid} (hupper : rid &&& RID_FIXED = 0) : RID_HASH rid = 0 := by
  rw [RID_HASH_congr (b := 0) (by rw [hupper]; decide)]
  decide

/-- Where nothing is invented about an id, a cell with its upper 24 bits holds a
registered id, or it is blank and such an id has been registered. -/
theorem similar_registered {rids : List Rid} {rid : Rid}
    (hcondition : rid &&& RID_FIXED ≠ 0 ∨ RID_QTY ≤ (writes 0 zero rids).length ∨
      ∃ r ∈ rids, r &&& RID_FIXED = 0 ∧ (rid = 0 → r = 0)) {i : Fin RID_QTY}
    (hsame : ((registered rids).block (RID_HASH rid)).cell i &&& RID_FIXED = rid &&& RID_FIXED) :
    ((registered rids).block (RID_HASH rid)).cell i ∈ rids ∨
      ((registered rids).block (RID_HASH rid)).cell i = 0 ∧
        ∃ r ∈ rids, r &&& RID_FIXED = rid &&& RID_FIXED ∧ (rid = 0 → r = 0) := by
  cases registered_mem rids (RID_HASH rid) i with
  | inr hmem => exact .inl hmem
  | inl hblank =>
    have hupper : rid &&& RID_FIXED = 0 := by
      rw [← hsame, hblank]
      decide
    obtain hne | hfull | ⟨r, hr, hzero, hrid⟩ := hcondition
    · exact absurd hupper hne
    · rw [← RID_HASH_of_upper_zero hupper] at hfull
      exact .inl (registered_full hfull i)
    · exact .inr ⟨hblank, r, hr, hzero.trans hupper.symm, hrid⟩

/-- The cells are zero at boot, so an id with upper 24 bits zero is known before
it has been registered, until its block has been written all over. Of every
other id nothing is invented. -/
theorem inventsNothing_iff (rids : List Rid) (rid : Rid) :
    InventsNothing rids rid ↔
      rid &&& RID_FIXED ≠ 0 ∨ RID_QTY ≤ (writes 0 zero rids).length ∨
        ∃ r ∈ rids, r &&& RID_FIXED = 0 ∧ (rid = 0 → r = 0) := by
  constructor
  · intro hinvents
    by_contra hnone
    push Not at hnone
    obtain ⟨hupper, hfew, hfresh⟩ := hnone
    obtain ⟨i, hblank⟩ := registered_blank hfew
    rw [← RID_HASH_of_upper_zero hupper] at hblank
    by_cases hzero : rid = 0
    · have hone : (registered rids).exists_rid rid = 1 :=
        exists_rid_eq_one.mpr ⟨i, by rw [hblank, hzero]⟩
      exact (hfresh rid (hinvents.known hone) hupper).2 hzero
    · have hexists : (registered rids).exists_rid rid ≠ 0 := by
        intro hnone
        apply exists_rid_eq_zero.mp hnone i
        rw [hblank, hupper]
        decide
      have hle := exists_rid_le (registered rids) rid
      by_cases hone : (registered rids).exists_rid rid = 1
      · exact hzero (hfresh rid (hinvents.known hone) hupper).1
      · obtain ⟨r, hr, hsame⟩ := hinvents.similar (by omega)
        exact hzero (hfresh r hr (hsame.trans hupper)).1
  · intro hcondition
    refine inventsNothing_of_answers ?_ ?_
    · intro hone
      obtain ⟨i, hcell⟩ := exists_rid_eq_one.mp hone
      obtain hmem | ⟨hblank, r, hr, -, hrid⟩ :=
        similar_registered hcondition (congrArg (· &&& RID_FIXED) hcell)
      · rwa [hcell] at hmem
      · have hzero : rid = 0 := hcell.symm.trans hblank
        rwa [hzero, ← hrid hzero]
    · intro htwo
      obtain ⟨i, hcell⟩ := similar_of_exists (by rw [htwo]; decide)
      obtain hmem | ⟨-, r, hr, hsame, -⟩ := similar_registered hcondition hcell
      · exact ⟨_, hmem, hcell⟩
      · exact ⟨r, hr, hsame⟩

/-- At boot the id 0 counts as received. -/
theorem boot_knows_zero : ¬ ∀ rids rid, InventsNothing rids rid := by
  intro hall
  have hmem := (hall [] 0).known (by decide)
  exact List.not_mem_nil hmem

end RidTable

end concretid.ems
