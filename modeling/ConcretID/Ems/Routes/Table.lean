import Mathlib.Data.Set.Insert
import ConcretID.Ems.Neighbors.Register
import ConcretID.Ems.Routes.Order

namespace concretid.ems

namespace Transmission

/-- The uids `find_table_by_uid` finds. -/
def routes (t : Transmission) : Set Uid := { uid | (t.find_table_by_uid uid).isSome }

/-- The uids of the routes that do not go through a slot. -/
def routesAvoiding (t : Transmission) (x : Slot) : Set Uid :=
  { uid | ∃ e ∈ t.active, (t.uid_table e).uid = uid ∧ (t.uid_table e).link ≠ some x }

/-- The routing table is well formed: `table_order` is a permutation and the
routes in use have different uids and links to neighbours in the table. -/
structure RoutesOk (t : Transmission) : Prop where
  order_perm : t.table_order.Perm (List.finRange UID_TABLE_SIZE)
  last_le : t.last_table ≤ UID_TABLE_SIZE
  distinct : ∀ e ∈ t.active, ∀ e' ∈ t.active, (t.uid_table e).uid = (t.uid_table e').uid → e = e'
  linked : ∀ e ∈ t.active, ∃ l, (t.uid_table e).link = some l ∧ t.live l

theorem mem_routes {t : Transmission} {uid : Uid} :
    uid ∈ t.routes ↔ ∃ e ∈ t.active, (t.uid_table e).uid = uid := by
  simp [routes, find_table_by_uid, List.find?_isSome]

/-- Tables with the same entries in use and the same uids have the same routes. -/
theorem routes_congr {t t' : Transmission} (hactive : ∀ e, e ∈ t'.active ↔ e ∈ t.active)
    (huid : ∀ e ∈ t.active, (t'.uid_table e).uid = (t.uid_table e).uid) : t'.routes = t.routes := by
  ext uid
  rw [mem_routes, mem_routes]
  constructor
  · rintro ⟨e, he, rfl⟩
    exact ⟨e, (hactive e).mp he, (huid e ((hactive e).mp he)).symm⟩
  · rintro ⟨e, he, rfl⟩
    exact ⟨e, (hactive e).mpr he, huid e he⟩

theorem RoutesOk.order_length {t : Transmission} (h : t.RoutesOk) :
    t.table_order.length = UID_TABLE_SIZE := by
  simpa using h.order_perm.length_eq

theorem RoutesOk.order_nodup {t : Transmission} (h : t.RoutesOk) : t.table_order.Nodup :=
  h.order_perm.nodup_iff.mpr (List.nodup_finRange _)

/-- A call that permutes the order within the entries in use keeps the table
well formed. -/
theorem RoutesOk.of_order {t t' : Transmission} (h : t.RoutesOk)
    (hperm : t'.table_order.Perm t.table_order) (hlast : t'.last_table = t.last_table)
    (hactive : ∀ e, e ∈ t'.active ↔ e ∈ t.active) (htable : t'.uid_table = t.uid_table)
    (htime : t'.neighbor_time = t.neighbor_time) : t'.RoutesOk := by
  refine ⟨hperm.trans h.order_perm, hlast ▸ h.last_le, ?_, ?_⟩
  · intro e he e' he' huid
    rw [htable] at huid
    exact h.distinct e ((hactive e).mp he) e' ((hactive e').mp he') huid
  · intro e he
    obtain ⟨l, hlink, hlive⟩ := h.linked e ((hactive e).mp he)
    exact ⟨l, by rw [htable, hlink], by simpa [live, htime] using hlive⟩

theorem initial_routesOk : initial.RoutesOk := by
  refine ⟨.refl _, Nat.zero_le _, ?_, ?_⟩ <;> simp [active, initial, init_transmission]

/-! ## Promoting and sending -/

theorem promote_uid_table_mem_active {t : Transmission} {uidt : Entry}
    (hin : uidt.val < t.last_table) (e : Entry) :
    e ∈ (t.promote_uid_table uidt).active ↔ e ∈ t.active :=
  promote_loop_mem_take hin t.table_order e

/-- What sending by the table does to the tables: a swap of the order. -/
theorem send_package_by_table_tables {t t' : Transmission} {capacity size : Nat}
    {b : PackageBuffer} {uidt : Entry} {result : PackageBuffer × Nat × Datagram}
    (hcall : t.send_package_by_table capacity b size (some uidt) = .ok (t', result)) :
    t' = t.setOrder
      (if uidt.val ≠ 0 then swapOrder t.table_order uidt.val (uidt.val - 1) else t.table_order) := by
  simp only [Transmission.send_package_by_table] at hcall
  split at hcall
  · cases hcall
  · obtain ⟨⟨b', size'⟩, _, hrest⟩ := bind_eq_ok_iff.mp hcall
    exact (congrArg Prod.fst (Except.ok.inj hrest)).symm

theorem send_package_by_table_mem_active {t t' : Transmission} {capacity size : Nat}
    {b : PackageBuffer} {uidt : Entry} {result : PackageBuffer × Nat × Datagram}
    (hside : uidt.val ≠ t.last_table)
    (hcall : t.send_package_by_table capacity b size (some uidt) = .ok (t', result)) (e : Entry) :
    e ∈ t'.active ↔ e ∈ t.active := by
  rw [send_package_by_table_tables hcall]
  simp only [active, setOrder_order, setOrder_last]
  by_cases hzero : uidt.val ≠ 0
  · rw [if_pos hzero]
    obtain hlt | hgt := Nat.lt_or_gt_of_ne hside
    · exact swapOrder_mem_take hlt (by omega) e
    · rw [swapOrder_take_of_le (by omega) (by omega)]
  · rw [if_neg hzero]

/-! ## Deleting a neighbour -/

/-- The routes in use after `Del_neighbor` are those not through the slot, in
the order they had. -/
theorem Del_neighbor_active {t : Transmission} (h : t.RoutesOk) (x : Slot) :
    (t.Del_neighbor x).active = t.active.filter fun e => (t.uid_table e).link ≠ some x := by
  have hunlink : ((t.unlink x).unroute x).active = t.active := by
    simp only [active, unroute, unlink]
    split <;> split <;> rfl
  have htable : (t.unlink x).uid_table = t.uid_table ∧ (t.unlink x).active = t.active := by
    simp only [active, unlink]
    split <;> split <;> exact ⟨rfl, rfl⟩
  have hlast : ((t.unlink x).unroute x).last_table ≤ ((t.unlink x).unroute x).table_order.length := by
    have hle : t.last_table ≤ t.table_order.length := by
      rw [h.order_length]
      exact h.last_le
    simp only [unroute, unlink]
    split <;> split <;> exact hle
  have hactive := Correct_table_order_active hlast
  rw [hunlink] at hactive
  change ((t.unlink x).unroute x).Correct_table_order.active = _
  rw [hactive]
  apply List.filter_congr
  intro e he
  obtain ⟨l, hl, _⟩ := h.linked e he
  simp only [unroute, htable.1, htable.2, he, true_and]
  rw [hl]
  by_cases hx : l = x
  · simp [hx]
  · simp [hx, hl]

theorem Del_neighbor_table {t : Transmission} (x : Slot) {e : Entry} :
    ((t.Del_neighbor x).uid_table e).uid = (t.uid_table e).uid ∧
      ((t.uid_table e).link ≠ some x → (t.Del_neighbor x).uid_table e = t.uid_table e) := by
  have htable : (t.unlink x).uid_table = t.uid_table := by
    simp only [unlink]
    split <;> split <;> rfl
  simp only [Del_neighbor, release, Correct_table_order, unroute, htable]
  constructor
  · split <;> rfl
  · intro hx
    simp [hx]

theorem Del_neighbor_time (t : Transmission) (x : Slot) :
    (t.Del_neighbor x).neighbor_time = Function.update t.neighbor_time x 0xff := by
  simp only [Del_neighbor, release, Correct_table_order, unroute, unlink]
  split <;> split <;> rfl

theorem Del_neighbor_routes {t : Transmission} (h : t.RoutesOk) (x : Slot) :
    (t.Del_neighbor x).routes = t.routesAvoiding x := by
  ext uid
  rw [mem_routes, Del_neighbor_active h]
  constructor
  · rintro ⟨e, he, huid⟩
    obtain ⟨hactive, hlink⟩ := List.mem_filter.mp he
    rw [(Del_neighbor_table x).1] at huid
    exact ⟨e, hactive, huid, by simpa using hlink⟩
  · rintro ⟨e, hactive, huid, hlink⟩
    exact ⟨e, List.mem_filter.mpr ⟨hactive, by simpa using hlink⟩,
      by rw [(Del_neighbor_table x).1, huid]⟩

theorem RoutesOk.Del_neighbor {t : Transmission} (h : t.RoutesOk) (x : Slot) :
    (t.Del_neighbor x).RoutesOk := by
  have hle : t.last_table ≤ t.table_order.length := by
    rw [h.order_length]
    exact h.last_le
  have hcorrect : (t.Del_neighbor x).table_order.Perm t.table_order ∧
      (t.Del_neighbor x).last_table ≤ t.last_table := by
    have hspec : ∀ u : Transmission, u.last_table = t.last_table → u.table_order = t.table_order →
        u.Correct_table_order.table_order.Perm t.table_order ∧
          u.Correct_table_order.last_table ≤ t.last_table := by
      intro u hlast horder
      have hu := Correct_table_order_perm (t := u) (by rw [hlast, horder]; exact hle)
      rwa [hlast, horder] at hu
    refine hspec ((t.unlink x).unroute x) ?_ ?_
    · simp only [unroute, unlink]
      split <;> split <;> rfl
    · simp only [unroute, unlink]
      split <;> split <;> rfl
  have hmem : ∀ e, e ∈ (t.Del_neighbor x).active →
      e ∈ t.active ∧ (t.uid_table e).link ≠ some x := by
    intro e he
    rw [Del_neighbor_active h] at he
    obtain ⟨hactive, hlink⟩ := List.mem_filter.mp he
    exact ⟨hactive, by simpa using hlink⟩
  refine ⟨hcorrect.1.trans h.order_perm, hcorrect.2.trans h.last_le, ?_, ?_⟩
  · intro e he e' he' huid
    rw [(Del_neighbor_table x).1, (Del_neighbor_table x).1] at huid
    exact h.distinct e (hmem e he).1 e' (hmem e' he').1 huid
  · intro e he
    obtain ⟨hactive, hlink⟩ := hmem e he
    obtain ⟨l, hl, hlive⟩ := h.linked e hactive
    refine ⟨l, by rw [(Del_neighbor_table x).2 hlink, hl], ?_⟩
    have hne : l ≠ x := by
      rintro rfl
      exact hlink hl
    simpa [live, Del_neighbor_time, hne] using hlive

/-! ## Registering -/

/-- Occupying a slot leaves the routes and uses one more slot. -/
theorem RoutesOk.occupy {t : Transmission} (h : t.RoutesOk) (ret : Slot) (uid : Uid) :
    (t.occupy ret uid).RoutesOk ∧ (t.occupy ret uid).routes = t.routes := by
  have hsame : (t.occupy ret uid).table_order = t.table_order ∧
      (t.occupy ret uid).last_table = t.last_table ∧
      (t.occupy ret uid).uid_table = t.uid_table := by
    simp only [Transmission.occupy]
    split <;> exact ⟨rfl, rfl, rfl⟩
  obtain ⟨horder, hlast, htable⟩ := hsame
  have hactive : (t.occupy ret uid).active = t.active := by
    rw [active, horder, hlast, active]
  refine ⟨⟨horder ▸ h.order_perm, hlast ▸ h.last_le, ?_, ?_⟩, ?_⟩
  · rw [hactive, htable]
    exact h.distinct
  · rw [hactive, htable]
    intro e he
    obtain ⟨l, hl, hlive⟩ := h.linked e he
    refine ⟨l, hl, ?_⟩
    by_cases hlr : l = ret
    · subst hlr
      simp [live, Valid_num]
    · simpa [live, hlr] using hlive
  · exact routes_congr (fun e => by rw [hactive]) (fun e _ => by rw [htable])

theorem RoutesOk.register_neighbor {t t' : Transmission} (h : t.RoutesOk) {uid : Uid}
    (hcall : t.register_neighbor uid = .ok t') :
    t'.RoutesOk ∧ (t'.routes = t.routes ∨
      t.trash = none ∧ t'.routes = t.routesAvoiding t.oldest) := by
  obtain ⟨loc, _, rfl⟩ | ⟨_, rfl⟩ := register_neighbor_cases hcall
  · refine ⟨⟨h.order_perm, h.last_le, h.distinct, ?_⟩, .inl (routes_congr (fun _ => .rfl) fun _ _ => rfl)⟩
    intro e he
    obtain ⟨l, hl, hlive⟩ := h.linked e he
    refine ⟨l, hl, ?_⟩
    by_cases hloc : l = loc
    · subst hloc
      simp [live, Valid_num]
    · simpa [live, hloc] using hlive
  · unfold new_neighbor
    split
    · rename_i ret _
      exact ⟨(h.occupy ret uid).1, .inl (h.occupy ret uid).2⟩
    · rename_i htrash
      have hdeleted := h.Del_neighbor t.oldest
      refine ⟨(hdeleted.occupy t.oldest uid).1, .inr ⟨htrash, ?_⟩⟩
      rw [(hdeleted.occupy t.oldest uid).2, Del_neighbor_routes h]

/-- What `register_uid` does to the tables: it writes the entry `e` only. -/
structure Registered (t t' : Transmission) (uid : Uid) (link : Option Slot) (e : Entry) : Prop where
  order : t'.table_order = t.table_order
  time : t'.neighbor_time = t.neighbor_time
  uid_eq : (t'.uid_table e).uid = uid
  link_eq : (t'.uid_table e).link = link
  others : ∀ e', e' ≠ e → t'.uid_table e' = t.uid_table e'

/-- A uid that has a route keeps its entry. -/
theorem register_uid_found {t : Transmission} {uid : Uid} {e : Entry}
    (hfind : t.find_table_by_uid uid = some e) (link : Option Slot) (name : Option (List UInt8)) :
    Registered t (t.register_uid uid link name) uid link e ∧
      (t.register_uid uid link name).last_table = t.last_table := by
  have huid : (t.uid_table e).uid = uid := by simpa using List.find?_some hfind
  unfold register_uid
  rw [hfind]
  refine ⟨⟨rfl, rfl, ?_, ?_, ?_⟩, rfl⟩
  · simpa using huid
  · simp
  · intro e' hne
    simp [hne]

/-- A new uid gets the entry at `claimPosition`. -/
theorem register_uid_new {t : Transmission} {uid : Uid} {e : Entry}
    (hfind : t.find_table_by_uid uid = none) (hclaim : t.table_order[t.claimPosition]? = some e)
    (link : Option Slot) (name : Option (List UInt8)) :
    Registered t (t.register_uid uid link name) uid link e ∧
      (t.register_uid uid link name).last_table = t.claimPosition + 1 := by
  unfold register_uid
  rw [hfind, hclaim]
  refine ⟨⟨rfl, rfl, ?_, ?_, ?_⟩, rfl⟩
  · simp
  · simp
  · intro e' hne
    simp [hne]

/-- The entry a new uid gets stands behind the routes that are kept: all routes
in use, or all but the last one when the table is full. -/
theorem RoutesOk.claim {t : Transmission} (h : t.RoutesOk) :
    ∃ e kept, t.table_order[t.claimPosition]? = some e ∧ t.claimPosition < UID_TABLE_SIZE ∧
      t.table_order.take (t.claimPosition + 1) = kept ++ [e] ∧ e ∉ kept ∧
      (t.active = kept ∨ t.last_table = UID_TABLE_SIZE ∧ t.active = kept ++ [e]) := by
  have hlength := h.order_length
  have hlast := h.last_le
  have hsize : 0 < UID_TABLE_SIZE := by decide
  have hposition : t.claimPosition < t.table_order.length := by
    unfold claimPosition
    split <;> omega
  have htake := List.take_append_getElem hposition
  refine ⟨t.table_order[t.claimPosition], t.table_order.take t.claimPosition,
    List.getElem?_eq_getElem hposition, hlength ▸ hposition, htake.symm, ?_, ?_⟩
  · have hnodup := h.order_nodup
    rw [← List.take_append_drop (t.claimPosition + 1) t.table_order, ← htake] at hnodup
    have hprefix := (List.nodup_append.mp hnodup).1
    intro hmem
    exact (List.disjoint_of_nodup_append hprefix) hmem (List.mem_singleton_self _)
  · by_cases hfull : t.last_table = UID_TABLE_SIZE
    · refine .inr ⟨hfull, ?_⟩
      have hclaim : t.claimPosition + 1 = t.last_table := by
        unfold claimPosition
        rw [if_pos hfull]
        omega
      rw [htake, hclaim, active]
    · refine .inl ?_
      rw [active, claimPosition, if_neg hfull]

/-- Registering a route keeps the table well formed. -/
theorem RoutesOk.register_uid {t : Transmission} (h : t.RoutesOk) (uid : Uid) {link : Slot}
    (hlive : t.live link) (name : Option (List UInt8)) :
    (t.register_uid uid (some link) name).RoutesOk := by
  generalize ht' : t.register_uid uid (some link) name = t'
  cases hfind : t.find_table_by_uid uid with
  | some e =>
    obtain ⟨hreg, hlast⟩ := register_uid_found hfind (some link) name
    rw [ht'] at hreg hlast
    have hactive : t'.active = t.active := by rw [active, hreg.order, hlast, active]
    have heuid : (t.uid_table e).uid = uid := by simpa using List.find?_some hfind
    have huids : ∀ e', (t'.uid_table e').uid = (t.uid_table e').uid := by
      intro e'
      by_cases hee : e' = e
      · rw [hee, hreg.uid_eq, heuid]
      · rw [hreg.others e' hee]
    refine ⟨hreg.order ▸ h.order_perm, hlast ▸ h.last_le, ?_, ?_⟩
    · intro e₁ he₁ e₂ he₂ huid
      rw [hactive] at he₁ he₂
      rw [huids, huids] at huid
      exact h.distinct e₁ he₁ e₂ he₂ huid
    · intro e' he'
      rw [hactive] at he'
      by_cases hee : e' = e
      · exact ⟨link, by rw [hee, hreg.link_eq], by simpa [live, hreg.time] using hlive⟩
      · obtain ⟨l, hl, hlive'⟩ := h.linked e' he'
        exact ⟨l, by rw [hreg.others e' hee, hl], by simpa [live, hreg.time] using hlive'⟩
  | none =>
    obtain ⟨e, kept, hclaim, hposition, htake, hnotin, hkept⟩ := h.claim
    obtain ⟨hreg, hlast⟩ := register_uid_new hfind hclaim (some link) name
    rw [ht'] at hreg hlast
    have hactive : t'.active = kept ++ [e] := by rw [active, hreg.order, hlast, htake]
    have hold : ∀ e' ∈ kept, e' ∈ t.active ∧ t'.uid_table e' = t.uid_table e' := by
      intro e' he'
      refine ⟨?_, hreg.others e' (fun heq => hnotin (heq ▸ he'))⟩
      obtain hk | ⟨_, hk⟩ := hkept <;> rw [hk]
      · exact he'
      · exact List.mem_append_left _ he'
    have hfresh : ∀ e' ∈ kept, (t'.uid_table e').uid ≠ uid := by
      intro e' he' huid
      obtain ⟨hin, hsame⟩ := hold e' he'
      have hroute : uid ∈ t.routes := mem_routes.mpr ⟨e', hin, by rw [← hsame, huid]⟩
      simp [routes, hfind] at hroute
    refine ⟨hreg.order ▸ h.order_perm, by omega, ?_, ?_⟩
    · intro e₁ he₁ e₂ he₂ huid
      rw [hactive, List.mem_append, List.mem_singleton] at he₁ he₂
      obtain he₁ | rfl := he₁ <;> rcases he₂ with he₂ | rfl
      · rw [(hold e₁ he₁).2, (hold e₂ he₂).2] at huid
        exact h.distinct e₁ (hold e₁ he₁).1 e₂ (hold e₂ he₂).1 huid
      · exact absurd (huid.trans hreg.uid_eq) (hfresh e₁ he₁)
      · exact absurd (huid.symm.trans hreg.uid_eq) (hfresh e₂ he₂)
      · rfl
    · intro e' he'
      rw [hactive, List.mem_append, List.mem_singleton] at he'
      obtain he' | rfl := he'
      · obtain ⟨hin, hsame⟩ := hold e' he'
        obtain ⟨l, hl, hlive'⟩ := h.linked e' hin
        exact ⟨l, by rw [hsame, hl], by simpa [live, hreg.time] using hlive'⟩
      · exact ⟨link, hreg.link_eq, by simpa [live, hreg.time] using hlive⟩

/-- Registering a route adds its uid. A full table loses the last route for a
new uid. -/
theorem RoutesOk.register_uid_routes {t : Transmission} (h : t.RoutesOk) (uid : Uid)
    (link : Option Slot) (name : Option (List UInt8)) :
    (t.register_uid uid link name).routes = insert uid t.routes ∨
      t.last_table = UID_TABLE_SIZE ∧ uid ∉ t.routes ∧ ∃ last, t.active.getLast? = some last ∧
        (t.register_uid uid link name).routes =
          insert uid (t.routes \ {(t.uid_table last).uid}) := by
  generalize ht' : t.register_uid uid link name = t'
  cases hfind : t.find_table_by_uid uid with
  | some e =>
    obtain ⟨hreg, hlast⟩ := register_uid_found hfind link name
    rw [ht'] at hreg hlast
    have heuid : (t.uid_table e).uid = uid := by simpa using List.find?_some hfind
    refine .inl ?_
    rw [Set.insert_eq_of_mem (mem_routes.mpr ⟨e, List.mem_of_find?_eq_some hfind, heuid⟩)]
    refine routes_congr (fun e' => by rw [active, hreg.order, hlast, active]) fun e' _ => ?_
    by_cases hee : e' = e
    · rw [hee, hreg.uid_eq, heuid]
    · rw [hreg.others e' hee]
  | none =>
    obtain ⟨e, kept, hclaim, _, htake, hnotin, hkept⟩ := h.claim
    obtain ⟨hreg, hlast⟩ := register_uid_new hfind hclaim link name
    rw [ht'] at hreg hlast
    have hactive : t'.active = kept ++ [e] := by rw [active, hreg.order, hlast, htake]
    have hsame : ∀ e' ∈ kept, t'.uid_table e' = t.uid_table e' :=
      fun e' he' => hreg.others e' (fun heq => hnotin (heq ▸ he'))
    have hroutes : ∀ v, v ∈ t'.routes ↔ v = uid ∨ ∃ e' ∈ kept, (t.uid_table e').uid = v := by
      intro v
      rw [mem_routes, hactive]
      constructor
      · rintro ⟨e', he', huid⟩
        rw [List.mem_append, List.mem_singleton] at he'
        obtain he' | rfl := he'
        · exact .inr ⟨e', he', by rw [← hsame e' he', huid]⟩
        · exact .inl (huid.symm.trans hreg.uid_eq)
      · rintro (rfl | ⟨e', he', huid⟩)
        · exact ⟨e, by simp, hreg.uid_eq⟩
        · exact ⟨e', List.mem_append_left _ he', by rw [hsame e' he', huid]⟩
    obtain hk | ⟨hfull, hk⟩ := hkept
    · refine .inl ?_
      ext v
      rw [hroutes, Set.mem_insert_iff, mem_routes, hk]
    · refine .inr ⟨hfull, by simp [routes, hfind], e, by rw [hk]; simp, ?_⟩
      ext v
      rw [hroutes, Set.mem_insert_iff, Set.mem_sdiff, mem_routes, Set.mem_singleton_iff, hk]
      refine or_congr .rfl ⟨?_, ?_⟩
      · rintro ⟨e', he', rfl⟩
        refine ⟨⟨e', List.mem_append_left _ he', rfl⟩, ?_⟩
        intro huid
        have heq : e' = e := by
          refine h.distinct e' ?_ e ?_ huid <;> rw [hk] <;> simp [he']
        exact hnotin (heq ▸ he')
      · rintro ⟨⟨e', he', rfl⟩, hne⟩
        rw [List.mem_append, List.mem_singleton] at he'
        obtain he' | rfl := he'
        · exact ⟨e', he', rfl⟩
        · exact absurd rfl hne

end Transmission

end concretid.ems
