import ConcretID.Ems.Deployment

open concretid.network

namespace concretid.ems

/-- Whether a call registers an id in the block of `rid` that is none of its kin. -/
def Event.crowds (kin : Rid → Bool) (rid : Rid) : Event → Bool
  | .register_rid other => RID_HASH other == RID_HASH rid && !kin other
  | _ => false

theorem countP_crowds (kin : Rid → Bool) (rid : Rid) (events : List Event) :
    events.countP (Event.crowds kin rid) = (events.filterMap Event.registered?).countP
      fun other => RID_HASH other = RID_HASH rid ∧ ¬ kin other = true := by
  rw [List.countP_filterMap]
  refine List.countP_congr fun e _ => ?_
  cases e <;> simp [Event.registered?, Event.crowds]

namespace Node

/-- A node's block still holds an id's kin while at most eight others have been
registered there since. -/
theorem Lives.retains {uid : Uid} {s : Node} (h : Lives uid s) (kin : Rid → Bool) {rid : Rid}
    (hkin : kin rid = true) {ids : List Rid} {later : List Event}
    (hids : s.trace.filterMap Event.registered? =
      ids ++ rid :: later.filterMap Event.registered?)
    (hroom : later.countP (Event.crowds kin rid) ≤ 8) :
    ∃ i, kin ((s.rids.block (RID_HASH rid)).cell i) = true := by
  rw [countP_crowds] at hroom
  rw [h.rids_eq, hids]
  exact RidTable.register_list_holds .zero (q := fun r => kin r = true) hkin _ _ hroom

/-- A remembered id is recognised. -/
theorem Lives.exists_rid_eq_one {uid : Uid} {s : Node} (h : Lives uid s) {rid : Rid}
    {before later : List Event} (htrace : s.trace = before ++ .register_rid rid :: later)
    (hroom : later.countP (Event.crowds (· == rid) rid) ≤ 8) : s.rids.exists_rid rid = 1 := by
  have hids : s.trace.filterMap Event.registered? =
      before.filterMap Event.registered? ++ rid :: later.filterMap Event.registered? := by
    rw [htrace, List.filterMap_append, List.filterMap_cons]
    rfl
  obtain ⟨i, hi⟩ := h.retains (· == rid) (beq_self_eq_true rid) hids hroom
  exact RidTable.exists_rid_eq_one.mpr ⟨i, beq_iff_eq.mp hi⟩

/-- An id is recognised by its upper bits while any with these is remembered. -/
theorem Lives.exists_rid_ne_zero {uid : Uid} {s : Node} (h : Lives uid s) {rid r fixed : Rid}
    (hrid : rid &&& RID_FIXED = fixed) (hr : r &&& RID_FIXED = fixed) {ids : List Rid}
    {later : List Event}
    (hids : s.trace.filterMap Event.registered? =
      ids ++ rid :: later.filterMap Event.registered?)
    (hroom : later.countP (Event.crowds (· &&& RID_FIXED == fixed) rid) ≤ 8) :
    s.rids.exists_rid r ≠ 0 := by
  obtain ⟨i, hi⟩ := h.retains (· &&& RID_FIXED == fixed) (by simpa using hrid) hids hroom
  rw [RID_HASH_congr (hrid.trans hr.symm), beq_iff_eq, ← hr] at hi
  exact fun hzero => RidTable.exists_rid_eq_zero.mp hzero i hi

/-- Upper bits that a node recognises, and that are not those of an empty cell,
it has registered. -/
theorem Lives.registered_of_exists {uid : Uid} {s : Node} (h : Lives uid s) {r fixed : Rid}
    (hr : r &&& RID_FIXED = fixed) (hfixed : fixed ≠ 0) (hexists : s.rids.exists_rid r ≠ 0) :
    ∃ rid, .register_rid rid ∈ s.trace ∧ rid &&& RID_FIXED = fixed := by
  rw [Ne, RidTable.exists_rid_eq_zero, not_forall] at hexists
  obtain ⟨i, hi⟩ := hexists
  rw [not_not, hr, h.rids_eq] at hi
  rcases RidTable.register_list_mem .zero (s.trace.filterMap Event.registered?) (RID_HASH r) i
    with hempty | hmem
  · rw [hempty] at hi
    exact absurd hi.symm (by simpa [RidTable.zero, RidTable.block] using hfixed)
  · obtain ⟨e, he, hregistered⟩ := List.mem_filterMap.mp hmem
    cases e <;> simp [Event.registered?] at hregistered
    rename_i rid
    exact ⟨rid, he, by rw [hregistered]; exact hi⟩

end Node

end concretid.ems
