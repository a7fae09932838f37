import ConcretID.Ems.Effects
import ConcretID.Ems.Receive
import ConcretID.Ems.Routes.Order

open concretid.memory

namespace concretid.ems

namespace Transmission

/-- The entries in use once `promote_uid_table` has moved the one at the index
of `e` to the front. -/
def activePromoted (t : Transmission) (e : Entry) : List Entry :=
  (t.table_order[e.val]?.toList ++ t.table_order.eraseIdx e.val).take t.last_table

/-- The route for the source of an announcement, looked up after the route for
its end has been promoted. -/
def sourceRoute (t : Transmission) (e : Entry) (source : Uid) : Option Entry :=
  (t.promote_uid_table e).find_table_by_uid source

/-- The tables once both routes have been promoted. -/
def promoteBoth (t : Transmission) (e : Entry) (source : Uid) : Transmission :=
  match t.sourceRoute e source with
  | some e' => (t.promote_uid_table e).promote_uid_table e'
  | none => t.promote_uid_table e

theorem sourceRoute_eq {t : Transmission} (horder : t.table_order.length = UID_TABLE_SIZE)
    (e : Entry) (source : Uid) :
    t.sourceRoute e source =
      (t.activePromoted e).find? fun e' => (t.uid_table e').uid == source := by
  have he : e.val < t.table_order.length := by
    rw [horder]
    exact e.isLt
  rw [sourceRoute, find_table_by_uid, active, promote_uid_table, activePromoted,
    promote_loop_eq he, List.getElem?_eq_getElem he]
  rfl

/-- Promoting only changes the order. -/
@[simp] theorem promoteBoth_uid_table (t : Transmission) (e : Entry) (source : Uid) :
    (t.promoteBoth e source).uid_table = t.uid_table := by
  unfold promoteBoth
  split <;> rfl

@[simp] theorem promoteBoth_neighbor (t : Transmission) (e : Entry) (source : Uid) :
    (t.promoteBoth e source).neighbor = t.neighbor := by
  unfold promoteBoth
  split <;> rfl

end Transmission

namespace Node

/-- Whether the package in the receive buffer is an announcement with a source. -/
def Announces (s : Node) : Prop := s.type = .ANNOUNCEMENT ∧ s.flag PACKAGE_IDENTIFIED = true

/-- What relaying comes down to: without a route for the end nothing is sent,
with one the package is sent by the table. For an announcement the route sent
through is that of its source. -/
theorem process_intermediate_eq {s : Node} {size : Nat}
    (hsize : sizeof_package + sizeof_intermediate_head ≤ size) :
    (s.transmission.find_table_by_uid (uidAt s.buffer.data 0) = none →
      s.process_intermediate size = .ok (s.register_rid s.buffer.rid)) ∧
    ∀ e, s.transmission.find_table_by_uid (uidAt s.buffer.data 0) = some e →
      (¬ s.Announces → s.process_intermediate size =
        (s.register_rid s.buffer.rid).send_package_by_table .process size (some e) >>=
          fun result => .ok result.1) ∧
      (s.Announces → s.process_intermediate size =
        ((s.register_rid s.buffer.rid).setTransmission (s.transmission.promoteBoth e
            (uidAt s.buffer.data sizeof_intermediate_head))).send_package_by_table .process size
          (s.transmission.sourceRoute e (uidAt s.buffer.data sizeof_intermediate_head)) >>=
          fun result => .ok result.1) := by
  have hlong : ¬ size < sizeof_package + sizeof_intermediate_head := by omega
  unfold process_intermediate
  rw [if_neg hlong]
  dsimp only
  refine ⟨?_, ?_⟩
  · intro hfind
    rw [register_rid_transmission, register_rid_buffer, hfind]
  · intro e hfind
    rw [register_rid_transmission, register_rid_buffer, hfind]
    dsimp only
    refine ⟨?_, ?_⟩
    · intro hkind
      rw [if_neg (show ¬ ((s.register_rid s.buffer.rid).type = .ANNOUNCEMENT ∧
        (s.register_rid s.buffer.rid).flag PACKAGE_IDENTIFIED = true) from hkind)]
      rfl
    · intro hkind
      rw [if_pos (show (s.register_rid s.buffer.rid).type = .ANNOUNCEMENT ∧
        (s.register_rid s.buffer.rid).flag PACKAGE_IDENTIFIED = true from hkind)]
      simp only [promote_uid_table, ok_bind, Transmission.promoteBoth, Transmission.sourceRoute,
        register_rid_buffer, register_rid_transmission, setTransmission_buffer,
        setTransmission_transmission]
      cases (s.transmission.promote_uid_table e).find_table_by_uid
          (uidAt s.buffer.data sizeof_intermediate_head) <;> rfl

/-- A package with an intermediate head is sent from the receive buffer
whenever the entry exists and has a link, and to that link only. -/
theorem send_intermediate_iff {s : Node} {size : Nat} {uidt : Option Entry} {dest : Uid}
    (hflag : hasFlag s.buffer.flags PACKAGE_INTERMEDIATE = true)
    (hmin : sizeof_package + sizeof_intermediate_head ≤ size) (hmax : size ≤ BUFFER_PROCESS_SIZE) :
    (∃ s' size' p, s.send_package_by_table .process size uidt = .ok (s', size') ∧
      s'.trace = s.trace ++ [.send_package .process p dest]) ↔
    ∃ e l, uidt = some e ∧ (s.transmission.uid_table e).link = some l ∧
      s.transmission.neighbor l = dest := by
  constructor
  · rintro ⟨s', size', p, hsend, htrace⟩
    obtain ⟨e, l, value, order, he, hlink, _, rfl⟩ := send_package_by_table_cases hsend
    refine ⟨e, l, he, hlink, ?_⟩
    have hlast := List.append_cancel_left htrace
    simp only [List.cons.injEq, Event.send_package.injEq, and_true, true_and] at hlast
    exact hlast.2
  · rintro ⟨e, l, rfl, hlink, rfl⟩
    have hroom : size ≤ Buffer.process.capacity + sizeof_package := hmax
    obtain ⟨result, hwrap⟩ := wrapFor_intermediate_ok (s.transmission.uid_table e)
      ((s.transmission.uid_table e).uid == s.transmission.neighbor l) hflag hmin hroom
      (Nat.lt_of_le_of_lt hmax (by decide))
    obtain ⟨s', size', hsend⟩ := send_package_by_table_ok hlink hwrap
    obtain ⟨e', l', value, order, he, hlink', _, rfl⟩ := send_package_by_table_cases hsend
    obtain rfl := Option.some.inj he
    obtain rfl := Option.some.inj (hlink.symm.trans hlink')
    exact ⟨_, size', _, hsend, rfl⟩

/-- The package is handed to the next hop of the route for its end, as the only
transmission, when there is such a route; without one nothing is sent. -/
def Relays (s : Node) (package : Package) (src : Uid) : Prop :=
  ∃ s', s.process_package package package.size src = .ok s' ∧
    match s.transmission.find_table_by_uid package.head with
    | none => s.transmitted s' = []
    | some e => ∃ l p, (s.transmission.uid_table e).link = some l ∧
        s.transmitted s' = [{ package := p, dest := s.transmission.neighbor l }]

/-- The source of an announcement, as it lies in the receive buffer behind the
intermediate head. -/
def announcedSource (s : Node) (package : Package) (src : Uid) : Uid :=
  uidAt (s.accept package package.size src).buffer.data sizeof_intermediate_head

/-- When relaying goes right: looking for the sender ends, and a package with a
route for its end fits the buffer and has a link there. An announcement with a
source also needs a route for the source, over the same neighbour. -/
def Relayable (s : Node) (package : Package) (src : Uid) : Prop :=
  (package.size ≤ BUFFER_PROCESS_SIZE → ∃ loc, s.transmission.find_neighbor src = .ok loc) ∧
  ∀ e, s.transmission.find_table_by_uid package.head = some e →
    package.size ≤ BUFFER_PROCESS_SIZE ∧ ∃ l, (s.transmission.uid_table e).link = some l ∧
      (typeOf package.flags = .ANNOUNCEMENT ∧ hasFlag package.flags PACKAGE_IDENTIFIED = true →
        ∃ e' l', (s.transmission.activePromoted e).find? (fun e' =>
            (s.transmission.uid_table e').uid == s.announcedSource package src) = some e' ∧
          (s.transmission.uid_table e').link = some l' ∧
          s.transmission.neighbor l' = s.transmission.neighbor l)

/-- Sending through an entry is one transmission to its link. -/
theorem transmitted_once_iff {s r : Node} {package : Package} {size : Nat} {src dest : Uid}
    {uidt : Option Entry}
    (htrace : r.trace = s.trace ++ [.process_package package src, .register_rid package.rid])
    (hflag : hasFlag r.buffer.flags PACKAGE_INTERMEDIATE = true)
    (hmin : sizeof_package + sizeof_intermediate_head ≤ size) (hmax : size ≤ BUFFER_PROCESS_SIZE) :
    (∃ s', (r.send_package_by_table .process size uidt >>= fun result => .ok result.1) = .ok s' ∧
      ∃ p, s.transmitted s' = [{ package := p, dest }]) ↔
    ∃ e l, uidt = some e ∧ (r.transmission.uid_table e).link = some l ∧
      r.transmission.neighbor l = dest := by
  rw [← send_intermediate_iff hflag hmin hmax]
  constructor
  · rintro ⟨s', hcall, p, hsent⟩
    obtain ⟨⟨s₁, size'⟩, hsend, hdone⟩ := bind_eq_ok_iff.mp hcall
    obtain rfl := Except.ok.inj hdone
    obtain ⟨e, l, value, order, _, _, _, rfl⟩ := send_package_by_table_cases hsend
    refine ⟨_, size', value.package size', hsend, ?_⟩
    have hdest : r.transmission.neighbor l = dest := by
      simp only [transmitted, emit_trace, setPackageBuffer_trace, setTransmission_trace, htrace,
        List.append_assoc, List.drop_left] at hsent
      simp only [List.filterMap_cons, Event.sent?, List.filterMap_nil, List.cons_append,
        List.nil_append, List.cons.injEq, Datagram.mk.injEq] at hsent
      exact hsent.1.2
    rw [← hdest]
    rfl
  · rintro ⟨s', size', p, hsend, hnew⟩
    refine ⟨s', by rw [hsend]; rfl, p, ?_⟩
    rw [transmitted, hnew, htrace, List.append_assoc, List.drop_left]
    rfl

/-- Relaying is right exactly when the condition above holds: for an
announcement the pointer to the route for the end is reused for the route of
the source, so the package goes where the source is, or through a null pointer. -/
theorem relays_iff {s : Node} {package : Package} {src : Uid}
    (hinter : package.intermediate = true) (hblocked : s.is_blocked src = false)
    (hnew : s.rids.exists_rid package.rid ≠ 1)
    (hhead : sizeof_package + sizeof_intermediate_head ≤ package.size)
    (horder : s.transmission.table_order.length = UID_TABLE_SIZE) :
    s.Relays package src ↔ s.Relayable package src := by
  unfold Relays Relayable
  by_cases hmax : package.size ≤ BUFFER_PROCESS_SIZE
  · have haccept : ¬ s.Rejects package package.size src := by
      simp only [Rejects, hblocked, hnew, or_false, Bool.false_eq_true, not_or]
      simp only [sizeof_package, sizeof_intermediate_head] at hhead ⊢
      omega
    rw [process_package_accepted haccept]
    cases hneighbor : s.transmission.find_neighbor src with
    | error e => simp [hmax]
    | ok loc =>
      rw [ok_bind, if_pos hinter]
      have hend := accept_head s src hhead
      obtain ⟨hnone, hsome⟩ := process_intermediate_eq
        (s := s.accept package package.size src) hhead
      rw [hend] at hnone hsome
      cases hfind : s.transmission.find_table_by_uid package.head with
      | none =>
        rw [hnone hfind]
        simp [transmitted, Event.sent?]
      | some e =>
        obtain ⟨hplain, hannounce⟩ := hsome e hfind
        have hflag : hasFlag (s.accept package package.size src).buffer.flags
            PACKAGE_INTERMEDIATE = true := hinter
        simp only [Option.some.injEq, forall_eq', hmax, true_and, forall_const,
          Except.ok.injEq, exists_eq']
        have hsends : (∃ s', (s.accept package package.size src).process_intermediate
              package.size = .ok s' ∧ ∃ l p, (s.transmission.uid_table e).link = some l ∧
                s.transmitted s' = [{ package := p, dest := s.transmission.neighbor l }]) ↔
            ∃ l, (s.transmission.uid_table e).link = some l ∧
              ∃ s', (s.accept package package.size src).process_intermediate package.size = .ok s' ∧
                ∃ p, s.transmitted s' = [{ package := p, dest := s.transmission.neighbor l }] := by
          grind
        rw [hsends]
        refine exists_congr fun l => and_congr_right fun hlink => ?_
        by_cases hkind : (s.accept package package.size src).Announces
        · have htrace : (((s.accept package package.size src).register_rid
              package.rid).setTransmission (s.transmission.promoteBoth e
                (s.announcedSource package src))).trace =
              s.trace ++ [.process_package package src, .register_rid package.rid] := by simp
          rw [hannounce hkind]
          apply (transmitted_once_iff htrace hflag hhead hmax).trans
          have hkind' : typeOf package.flags = .ANNOUNCEMENT ∧
              hasFlag package.flags PACKAGE_IDENTIFIED = true := hkind
          simp only [accept_transmission, Transmission.sourceRoute_eq horder,
            setTransmission_transmission, Transmission.promoteBoth_uid_table,
            Transmission.promoteBoth_neighbor, hkind', and_self, forall_const]
          rfl
        · have htrace : ((s.accept package package.size src).register_rid package.rid).trace =
              s.trace ++ [.process_package package src, .register_rid package.rid] := by simp
          rw [hplain hkind]
          apply (transmitted_once_iff htrace hflag hhead hmax).trans
          have hkind' : ¬ (typeOf package.flags = .ANNOUNCEMENT ∧
              hasFlag package.flags PACKAGE_IDENTIFIED = true) := hkind
          simp [hkind', hlink]
  · have hreject : s.Rejects package package.size src := .inr (.inl (by omega))
    rw [process_package_rejected hreject]
    cases hfind : s.transmission.find_table_by_uid package.head <;>
      simp [hmax, transmitted, List.filterMap_cons, Event.sent?]

/-- A node with the neighbours `fe80::1` and `fe80::2` that has heard of a route
to `fe80::103` over the first one. -/
def relayNode : Node :=
  let s := boot (linkLocal 0 9) (init_settings (nameOf [])) fun _ => 0
  let t := (s.transmission.new_neighbor (linkLocal 0 1)).new_neighbor (linkLocal 0 2)
  s.setTransmission (t.register_uid (linkLocal 1 3) (some 0) none)

/-- A package for `fe80::103` from `fe80::104`. -/
def relayPackage (type : PackageType) : Package :=
  { rid := 0x1234
    flags := PACKAGE_INTERMEDIATE ||| PACKAGE_IDENTIFIED ||| type.code
    data := (linkLocal 1 3).toList ++ (linkLocal 1 4).toList }

set_option maxRecDepth 20000 in
/-- A message takes the route for its end. -/
theorem relays_message : relayNode.Relays (relayPackage .MSG) (linkLocal 0 2) := by
  refine (relays_iff (by decide) (by decide) (by decide) (by decide) (by decide)).mpr ⟨?_, ?_⟩
  · intro _
    exact ⟨some 1, by decide⟩
  · intro e hfind
    have he : relayNode.transmission.find_table_by_uid (relayPackage .MSG).head = some 0 := by
      decide
    obtain rfl := Option.some.inj (he.symm.trans hfind)
    exact ⟨by decide, 0, by decide, fun hkind => absurd hkind (by decide)⟩

set_option maxRecDepth 20000 in
/-- An announcement on the same way is not relayed: the node has no route for
its source, and the null pointer is sent through. -/
theorem announcement_not_relayed :
    ¬ ∀ (s : Node) (package : Package) (src : Uid), package.intermediate = true →
      s.is_blocked src = false → s.rids.exists_rid package.rid ≠ 1 →
      sizeof_package + sizeof_intermediate_head ≤ package.size → s.Relays package src := by
  intro hall
  obtain ⟨s', hcall, _⟩ := hall relayNode (relayPackage .ANNOUNCEMENT) (linkLocal 0 2)
    (by decide) (by decide) (by decide) (by decide)
  have hfault : (relayNode.process_package (relayPackage .ANNOUNCEMENT)
      (relayPackage .ANNOUNCEMENT).size (linkLocal 0 2)).map (fun _ => ()) =
        .error .null_pointer := by
    decide
  rw [hcall] at hfault
  cases hfault

end Node

end concretid.ems
