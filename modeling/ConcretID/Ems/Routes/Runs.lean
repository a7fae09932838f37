import ConcretID.Ems.Routes.Table

namespace concretid.ems

/-- The calls that change the routing table. Neighbours come into the table by
`register_neighbor`, which deletes one when it has to evict it. -/
inductive RouteCall where
  | register_neighbor (uid : Uid)
  | Del_neighbor (x : Slot)
  | register_uid (uid : Uid) (link : Slot) (name : Option (List UInt8))
  | promote_uid_table (uidt : Entry)
  | send_package_by_table (capacity : Nat) (b : PackageBuffer) (size : Nat) (uidt : Entry)

namespace Transmission

/-- An entry one of the two lookups returns. -/
def Found (t : Transmission) (uidt : Entry) : Prop :=
  (∃ uid, t.find_table_by_uid uid = some uidt) ∨ ∃ name, t.find_table_by_name name = some uidt

/-- One call. Routes are registered over a neighbour in the table, and sent
through or promoted as a lookup returned them. -/
inductive RouteStep (t : Transmission) : RouteCall → Transmission → Prop where
  | register_neighbor {uid : Uid} {t' : Transmission} (hcall : t.register_neighbor uid = .ok t') :
      RouteStep t (.register_neighbor uid) t'
  | Del_neighbor (x : Slot) : RouteStep t (.Del_neighbor x) (t.Del_neighbor x)
  | register_uid (uid : Uid) {link : Slot} (name : Option (List UInt8)) (hlive : t.live link) :
      RouteStep t (.register_uid uid link name) (t.register_uid uid (some link) name)
  | promote_uid_table {uidt : Entry} (hfound : t.Found uidt) :
      RouteStep t (.promote_uid_table uidt) (t.promote_uid_table uidt)
  | send_package_by_table {capacity : Nat} {b : PackageBuffer} {size : Nat} {uidt : Entry}
      {t' : Transmission} {result : PackageBuffer × Nat × Datagram} (hfound : t.Found uidt)
      (hcall : t.send_package_by_table capacity b size (some uidt) = .ok (t', result)) :
      RouteStep t (.send_package_by_table capacity b size uidt) t'

/-- The runs from `init_transmission` all of whose calls meet a condition. -/
inductive RouteRun (condition : Transmission → RouteCall → Prop) : Transmission → Prop where
  | start : RouteRun condition initial
  | step {t t' : Transmission} {call : RouteCall} (hrun : RouteRun condition t)
      (hcondition : condition t call) (hstep : RouteStep t call t') : RouteRun condition t'

/-- `promote_uid_table` and `send_package_by_table` take the entry's index in
`uid_table` for its position in `table_order`. The swaps this leads to stay on
one side of the end of the routes in use. -/
def SwapsInUse (t : Transmission) : RouteCall → Prop
  | .promote_uid_table uidt => uidt.val < t.last_table
  | .send_package_by_table _ _ _ uidt => uidt.val ≠ t.last_table
  | _ => True

/-- How a call may change the set of routes. -/
def RoutesChange (t : Transmission) (call : RouteCall) (t' : Transmission) : Prop :=
  match call with
  | .register_neighbor _ =>
    t'.routes = t.routes ∨ t.trash = none ∧ t'.routes = t.routesAvoiding t.oldest
  | .Del_neighbor x => t'.routes = t.routesAvoiding x
  | .register_uid uid _ _ =>
    t'.routes = insert uid t.routes ∨
      t.last_table = UID_TABLE_SIZE ∧ uid ∉ t.routes ∧ ∃ last, t.active.getLast? = some last ∧
        t'.routes = insert uid (t.routes \ {(t.uid_table last).uid})
  | .promote_uid_table _ => t'.routes = t.routes
  | .send_package_by_table .. => t'.routes = t.routes

/-- Whatever entry a lookup returned, promoting it or sending through it
permutes the order. -/
theorem RouteStep.order_perm {t t' : Transmission} {call : RouteCall} (h : t.RoutesOk)
    (hstep : RouteStep t call t') : t'.table_order.Perm (List.finRange UID_TABLE_SIZE) ∧
      t'.last_table ≤ UID_TABLE_SIZE := by
  cases hstep with
  | register_neighbor hcall =>
    exact ⟨(h.register_neighbor hcall).1.order_perm, (h.register_neighbor hcall).1.last_le⟩
  | Del_neighbor x => exact ⟨(h.Del_neighbor x).order_perm, (h.Del_neighbor x).last_le⟩
  | register_uid uid name hlive =>
    exact ⟨(h.register_uid uid hlive name).order_perm, (h.register_uid uid hlive name).last_le⟩
  | promote_uid_table => exact ⟨(promote_loop_perm _ _).trans h.order_perm, h.last_le⟩
  | send_package_by_table _ hcall =>
    rw [send_package_by_table_tables hcall]
    refine ⟨?_, h.last_le⟩
    rw [setOrder_order]
    split
    · exact (swapOrder_perm _ _ _).trans h.order_perm
    · exact h.order_perm

/-- A call whose swaps stay on one side of the end of the routes in use keeps
the table well formed and changes the routes as it should. -/
theorem RouteStep.routesOk {t t' : Transmission} {call : RouteCall} (h : t.RoutesOk)
    (hcondition : SwapsInUse t call) (hstep : RouteStep t call t') :
    t'.RoutesOk ∧ RoutesChange t call t' := by
  cases hstep with
  | register_neighbor hcall => exact h.register_neighbor hcall
  | Del_neighbor x => exact ⟨h.Del_neighbor x, Del_neighbor_routes h x⟩
  | register_uid uid name hlive =>
    exact ⟨h.register_uid uid hlive name, h.register_uid_routes uid _ name⟩
  | promote_uid_table =>
    have hactive := promote_uid_table_mem_active hcondition
    exact ⟨h.of_order (promote_loop_perm _ _) rfl hactive rfl rfl,
      routes_congr hactive fun _ _ => rfl⟩
  | send_package_by_table _ hcall =>
    have hactive := send_package_by_table_mem_active hcondition hcall
    have htables := send_package_by_table_tables hcall
    refine ⟨h.of_order ?_ ?_ hactive ?_ ?_, routes_congr hactive ?_⟩
    · rw [htables, setOrder_order]
      split
      · exact swapOrder_perm _ _ _
      · exact .refl _
    all_goals simp [htables]

/-- In every run in which no promoting or sending swaps across the end of the
routes in use, the table is well formed in every state, and every such call
changes the routes as it should. -/
theorem RouteRun.routes_correct {t : Transmission} (hrun : RouteRun SwapsInUse t) :
    t.RoutesOk ∧ ∀ call t', SwapsInUse t call → RouteStep t call t' → RoutesChange t call t' := by
  have hok : t.RoutesOk := by
    induction hrun with
    | start => exact initial_routesOk
    | step _ hcondition hstep ih => exact (RouteStep.routesOk ih hcondition hstep).1
  exact ⟨hok, fun _ _ hcondition hstep => (RouteStep.routesOk hok hcondition hstep).2⟩

/-- A neighbour in slot 0 and one in slot 1, and a route through each. -/
def twoRoutes : Transmission :=
  let t := (initial.new_neighbor (linkLocal 0 0)).new_neighbor (linkLocal 0 1)
  let t := t.register_uid (linkLocal 1 0) (some 0) none
  t.register_uid (linkLocal 1 1) (some 1) none

/-- With the first neighbour deleted, the route left is entry 1 at position 0. -/
def oneRouteLeft : Transmission := twoRoutes.Del_neighbor 0

theorem register_neighbor_new {t : Transmission} {uid : Uid}
    (hfind : t.find_neighbor uid = .ok none) :
    t.register_neighbor uid = .ok (t.new_neighbor uid) := by
  simp [Transmission.register_neighbor, hfind]

theorem RouteRun.call {condition : Transmission → RouteCall → Prop} {t t' : Transmission}
    (hrun : RouteRun condition t) (call : RouteCall) (hcondition : condition t call)
    (hstep : RouteStep t call t') : RouteRun condition t' :=
  .step hrun hcondition hstep

/-- A run of allowed calls from the start. -/
theorem twoRoutes_run : RouteRun SwapsInUse twoRoutes := by
  let t₁ := initial.new_neighbor (linkLocal 0 0)
  let t₂ := t₁.new_neighbor (linkLocal 0 1)
  let t₃ := t₂.register_uid (linkLocal 1 0) (some 0) none
  have h₁ : RouteRun SwapsInUse t₁ :=
    RouteRun.start.call (.register_neighbor (linkLocal 0 0)) trivial
      (.register_neighbor (register_neighbor_new (by decide)))
  have h₂ : RouteRun SwapsInUse t₂ :=
    h₁.call (.register_neighbor (linkLocal 0 1)) trivial
      (.register_neighbor (register_neighbor_new (by decide)))
  have h₃ : RouteRun SwapsInUse t₃ :=
    h₂.call (.register_uid (linkLocal 1 0) 0 none) trivial (.register_uid _ none (by decide))
  exact h₃.call (.register_uid (linkLocal 1 1) 1 none) trivial (.register_uid _ none (by decide))

theorem oneRouteLeft_run : RouteRun SwapsInUse oneRouteLeft :=
  twoRoutes_run.call (.Del_neighbor 0) trivial (.Del_neighbor 0)

theorem RouteRun.mono {condition weaker : Transmission → RouteCall → Prop} {t : Transmission}
    (hrun : RouteRun condition t) (hweaker : ∀ t call, condition t call → weaker t call) :
    RouteRun weaker t := by
  induction hrun with
  | start => exact .start
  | step _ hcondition hstep ih => exact .step ih (hweaker _ _ hcondition) hstep

/-- Promoting the one route left drops it and brings back the route of the
deleted neighbour, whose link is the free marker. -/
theorem promote_drops_route :
    ¬ ∀ t, RouteRun (fun _ _ => True) t → t.RoutesOk ∧
      ∀ call t', RouteStep t call t' → RoutesChange t call t' := by
  intro hall
  obtain ⟨_, hchange⟩ := hall oneRouteLeft (oneRouteLeft_run.mono fun _ _ _ => trivial)
  have hfound : oneRouteLeft.Found 1 := .inl ⟨linkLocal 1 1, by decide⟩
  have hkept : (oneRouteLeft.promote_uid_table 1).routes = oneRouteLeft.routes :=
    hchange _ _ (.promote_uid_table hfound)
  have hbefore : linkLocal 1 1 ∈ oneRouteLeft.routes := by
    show (oneRouteLeft.find_table_by_uid (linkLocal 1 1)).isSome = true
    decide
  rw [← hkept] at hbefore
  have hafter : (oneRouteLeft.promote_uid_table 1).find_table_by_uid (linkLocal 1 1) = none := by
    decide
  simp [routes, hafter] at hbefore

/-- A package on its way, which a route does not wrap again. -/
def relayed : PackageBuffer := ⟨0, PACKAGE_INTERMEDIATE, fun _ => 0⟩

/-- The second route promoted, and the first one brought back by a package sent
through it. -/
def promotedRoutes : Transmission :=
  let t := twoRoutes.promote_uid_table 1
  t.setOrder (swapOrder t.table_order 1 0)

theorem promotedRoutes_run : RouteRun SwapsInUse promotedRoutes := by
  have hpromoted : RouteRun SwapsInUse (twoRoutes.promote_uid_table 1) :=
    twoRoutes_run.call (.promote_uid_table 1) (show 1 < twoRoutes.last_table by decide)
      (.promote_uid_table (.inl ⟨linkLocal 1 1, by decide⟩))
  have hinUse : (twoRoutes.promote_uid_table 1).SwapsInUse (.send_package_by_table 140 relayed 21 1) :=
    show 1 ≠ (twoRoutes.promote_uid_table 1).last_table by decide
  refine hpromoted.call _ hinUse ?_
  exact .send_package_by_table (.inl ⟨linkLocal 1 1, by decide⟩) rfl

theorem promotedRoutes_routesOk :
    promotedRoutes.active = [0, 1] ∧ promotedRoutes.RoutesOk ∧
      ∀ call t', SwapsInUse promotedRoutes call → RouteStep promotedRoutes call t' →
        RoutesChange promotedRoutes call t' :=
  ⟨by decide, RouteRun.routes_correct promotedRoutes_run⟩

end Transmission

end concretid.ems
