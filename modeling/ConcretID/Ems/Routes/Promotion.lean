import ConcretID.Ems.Routes.Runs

namespace concretid.ems

namespace Transmission

/-- The order is a permutation and the routes in use end within it. -/
structure Ordered (t : Transmission) : Prop where
  perm : t.table_order.Perm (List.finRange UID_TABLE_SIZE)
  last_le : t.last_table ≤ UID_TABLE_SIZE

theorem Ordered.length {t : Transmission} (h : t.Ordered) : t.table_order.length = UID_TABLE_SIZE := by
  simpa using h.perm.length_eq

theorem Ordered.nodup {t : Transmission} (h : t.Ordered) : t.table_order.Nodup :=
  h.perm.nodup_iff.mpr (List.nodup_finRange _)

/-- The order after a call depends on the order before it only. -/
theorem Ordered.congr {t t' : Transmission} (h : t.Ordered) (horder : t'.table_order = t.table_order)
    (hlast : t'.last_table = t.last_table) : t'.Ordered :=
  ⟨horder ▸ h.perm, hlast ▸ h.last_le⟩

theorem Ordered.Del_neighbor {t : Transmission} (h : t.Ordered) (x : Slot) :
    (t.Del_neighbor x).Ordered := by
  have hmarked : ((t.unlink x).unroute x).table_order = t.table_order ∧
      ((t.unlink x).unroute x).last_table = t.last_table := by
    simp only [unroute, unlink]
    split <;> split <;> exact ⟨rfl, rfl⟩
  obtain ⟨horder, hlast⟩ := hmarked
  have hle : ((t.unlink x).unroute x).last_table ≤ ((t.unlink x).unroute x).table_order.length := by
    rw [hlast, horder, h.length]
    exact h.last_le
  obtain ⟨hperm, hshorter⟩ := Correct_table_order_perm hle
  rw [horder] at hperm
  rw [hlast] at hshorter
  exact ⟨hperm.trans h.perm, hshorter.trans h.last_le⟩

theorem Ordered.occupy {t : Transmission} (h : t.Ordered) (ret : Slot) (uid : Uid) :
    (t.occupy ret uid).Ordered := by
  refine h.congr ?_ ?_
  all_goals
    simp only [Transmission.occupy]
    split <;> rfl

theorem Ordered.register_neighbor {t t' : Transmission} (h : t.Ordered) {uid : Uid}
    (hcall : t.register_neighbor uid = .ok t') : t'.Ordered := by
  obtain ⟨loc, _, rfl⟩ | ⟨_, rfl⟩ := register_neighbor_cases hcall
  · exact h.congr rfl rfl
  · unfold new_neighbor
    split
    · exact h.occupy _ uid
    · exact (h.Del_neighbor t.oldest).occupy _ uid

theorem Ordered.register_uid {t : Transmission} (h : t.Ordered) (uid : Uid) (link : Option Slot)
    (name : Option (List UInt8)) : (t.register_uid uid link name).Ordered := by
  cases hfind : t.find_table_by_uid uid with
  | some e =>
    obtain ⟨hregistered, hlast⟩ := register_uid_found hfind link name
    exact h.congr hregistered.order hlast
  | none =>
    have hsize : 0 < UID_TABLE_SIZE := by decide
    have hlast := h.last_le
    have hclaim : t.claimPosition < UID_TABLE_SIZE := by
      unfold claimPosition
      split <;> omega
    have hposition : t.claimPosition < t.table_order.length := by
      rw [h.length]
      exact hclaim
    obtain ⟨hregistered, hnext⟩ :=
      register_uid_new hfind (List.getElem?_eq_getElem hposition) link name
    refine ⟨hregistered.order ▸ h.perm, ?_⟩
    rw [hnext]
    exact hclaim

/-- Every call permutes the order, whatever its swaps do to the routes. -/
theorem RouteStep.ordered {t t' : Transmission} {call : RouteCall} (h : t.Ordered)
    (hstep : RouteStep t call t') : t'.Ordered := by
  cases hstep with
  | register_neighbor hcall => exact h.register_neighbor hcall
  | Del_neighbor x => exact h.Del_neighbor x
  | register_uid uid name _ => exact h.register_uid uid _ name
  | promote_uid_table => exact ⟨(promote_loop_perm _ _).trans h.perm, h.last_le⟩
  | send_package_by_table _ hcall =>
    rw [send_package_by_table_tables hcall]
    refine ⟨?_, h.last_le⟩
    rw [setOrder_order]
    split
    · exact (swapOrder_perm _ _ _).trans h.perm
    · exact h.perm

theorem RouteRun.ordered {condition : Transmission → RouteCall → Prop} {t : Transmission}
    (hrun : RouteRun condition t) : t.Ordered := by
  induction hrun with
  | start => exact ⟨.refl _, Nat.zero_le _⟩
  | step _ _ hstep ih => exact hstep.ordered ih

/-- What promoting an entry is for: it comes first, the others keep their order
and the routes in use stay in use. -/
structure Promoted (t : Transmission) (uidt : Entry) (t' : Transmission) : Prop where
  first : t'.table_order[0]? = some uidt
  others : t'.table_order.erase uidt = t.table_order.erase uidt
  active : ∀ e, e ∈ t'.active ↔ e ∈ t.active

/-- `promote_uid_table` brings to the front what stands at the position that is
the entry's index in `uid_table`. -/
theorem Ordered.promote_order {t : Transmission} (h : t.Ordered) (uidt : Entry) :
    ∃ e, t.table_order[uidt.val]? = some e ∧
      (t.promote_uid_table uidt).table_order = e :: t.table_order.eraseIdx uidt.val := by
  have hindex : uidt.val < t.table_order.length := by
    rw [h.length]
    exact uidt.isLt
  refine ⟨t.table_order[uidt.val], List.getElem?_eq_getElem hindex, ?_⟩
  rw [promote_uid_table, setOrder_order, promote_loop_eq hindex]

/-- An entry that stands at its own index is promoted. -/
theorem Ordered.promoted {t : Transmission} (h : t.Ordered) {uidt : Entry}
    (hactive : uidt ∈ t.active) (hplace : t.table_order[uidt.val]? = some uidt) :
    Promoted t uidt (t.promote_uid_table uidt) := by
  obtain ⟨e, he, horder⟩ := h.promote_order uidt
  obtain rfl : uidt = e := by
    rw [hplace] at he
    exact Option.some.inj he
  obtain ⟨hindex, hget⟩ := List.getElem?_eq_some_iff.mp hplace
  refine ⟨by rw [horder]; rfl, ?_, ?_⟩
  · rw [horder, List.erase_cons_head]
    have herase := h.nodup.erase_getElem uidt.val hindex
    rw [hget] at herase
    exact herase.symm
  · -- its position is within the entries in use, as it is in use
    apply promote_uid_table_mem_active
    obtain ⟨i, hi, hentry⟩ := List.getElem_of_mem hactive
    have hbound : i < t.last_table ∧ i < t.table_order.length := by
      simpa [Transmission.active] using hi
    have hsame : t.table_order[i] = t.table_order[uidt.val] := by
      rw [hget, ← hentry]
      simp [Transmission.active]
    have hposition : i = uidt.val := (h.nodup.getElem_inj_iff).mp hsame
    omega

/-- In every reachable table and for every entry in use, `promote_uid_table`
does what it is for exactly when the entry's position is its index. -/
theorem promote_uid_table_correct_iff {t : Transmission} (hrun : RouteRun (fun _ _ => True) t)
    {uidt : Entry} (hactive : uidt ∈ t.active) :
    Promoted t uidt (t.promote_uid_table uidt) ↔ t.table_order[uidt.val]? = some uidt := by
  have hordered := hrun.ordered
  constructor
  · intro hpromoted
    obtain ⟨e, he, horder⟩ := hordered.promote_order uidt
    have hfirst := hpromoted.first
    rw [horder, List.getElem?_cons_zero] at hfirst
    rw [he, hfirst]
  · exact hordered.promoted hactive

/-- The one route of `oneRouteLeft` is entry 1 at position 0. Promoting it puts
entry 0, which is not in use, first. -/
theorem promote_brings_another :
    ¬ ∀ t, RouteRun (fun _ _ => True) t → ∀ uidt ∈ t.active,
      Promoted t uidt (t.promote_uid_table uidt) := by
  intro hall
  have hactive : (1 : Entry) ∈ oneRouteLeft.active := by decide
  have hpromoted := hall oneRouteLeft (oneRouteLeft_run.mono fun _ _ _ => trivial) 1 hactive
  have hfirst : (oneRouteLeft.promote_uid_table 1).table_order[0]? = some 0 := by decide
  rw [hpromoted.first] at hfirst
  simp at hfirst

/-- Of two routes the second one is entry 1 at position 1. -/
theorem twoRoutes_promoted :
    twoRoutes.table_order[1]? = some 1 ∧ Promoted twoRoutes 1 (twoRoutes.promote_uid_table 1) := by
  have hrun : RouteRun (fun _ _ => True) twoRoutes := twoRoutes_run.mono fun _ _ _ => trivial
  have hposition : twoRoutes.table_order[1]? = some 1 := by decide
  exact ⟨hposition, (promote_uid_table_correct_iff hrun (by decide)).mpr hposition⟩

end Transmission

end concretid.ems
