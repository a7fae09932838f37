import ConcretID.Ems.Deployment

open concretid.network

namespace concretid.ems

/-- A neighbour request that travels on, with its depth as the last byte. -/
structure Package.Explores (p : Package) : Prop where
  direct : p.intermediate = false
  type_eq : p.type = .NEIGHBOR_REQUEST
  length : p.offset < p.data.length

/-- Passing it on counts its depth down. -/
theorem Package.Explores.forwarded {p : Package} (h : p.Explores) :
    p.forwarded.Explores ∧ p.forwarded.depth = p.depth - 1 := by
  have hoffset : p.forwarded.offset = p.offset := by
    unfold Package.offset Package.identified
    rw [Package.forwarded_flags]
  refine ⟨⟨?_, ?_, ?_⟩, ?_⟩
  · simpa [Package.intermediate] using h.direct
  · rw [Package.type, Package.forwarded_flags]
    exact h.type_eq
  · rw [hoffset, Package.forwarded_length]
    exact h.length
  · have hlength := h.length
    rw [Package.depth, hoffset, Package.forwarded, if_pos h.type_eq]
    simp [List.getD_eq_getElem?_getD, hlength]

/-- A node passes a neighbour request on only with a depth, and one less. -/
theorem Outcome.explores {s : Node} {p q : Package} {src dest : Uid} {deeds : List Event}
    (h : Outcome s p src deeds) (hp : p.Explores)
    (hsend : .send_package .process q dest ∈ deeds) :
    q = p.forwarded ∧ p.depth ≠ 0 := by
  cases h.mem hsend with
  | relay l hintermediate =>
    rw [hp.direct] at hintermediate
    cases hintermediate
  | handled _ _ hdeed =>
    cases hdeed with
    | flood _ hdepth => exact ⟨rfl, (hdepth hp.type_eq).2⟩

theorem depth_toNat_lt {d : UInt8} (h : d ≠ 0) : (d - 1).toNat < d.toNat := by
  have hpos : 1 ≤ d := by
    rw [UInt8.le_iff_toNat_le]
    exact Nat.pos_of_ne_zero fun hzero => h (UInt8.toNat_inj.mp hzero)
  rw [UInt8.toNat_sub_of_le _ _ hpos]
  have hd := UInt8.le_iff_toNat_le.mp hpos
  simp only [UInt8.toNat_one] at hd ⊢
  omega

/-- What `discovery_neighborhood` transmits. -/
theorem discovery_transmitted (s : Node) (d : UInt8) :
    s.transmitted (s.discovery_neighborhood d) =
      [{ package :=
          { rid := s.nextRid
            flags := PACKAGE_IDENTIFIED ||| PackageType.NEIGHBOR_REQUEST.code
            data := s.my_uid.toList ++ [d] }
         dest := broadcast_uid }] :=
  identified_transmitted s .NEIGHBOR_REQUEST [d]

theorem discovery_explores {s : Node} {d : UInt8} {msg : Datagram}
    (hsent : s.transmitted (s.discovery_neighborhood d) = [msg]) :
    msg.package.Explores ∧ msg.package.depth = d := by
  rw [discovery_transmitted, List.cons.injEq] at hsent
  have hflags : msg.package.flags = PACKAGE_IDENTIFIED ||| PackageType.NEIGHBOR_REQUEST.code := by
    rw [← hsent.1]
  have hoffset : msg.package.offset = s.my_uid.toList.length := by
    rw [Package.offset, Package.identified, hflags, List.Vector.toList_length]
    decide
  refine ⟨⟨?_, ?_, ?_⟩, ?_⟩
  · rw [Package.intermediate, hflags]
    decide
  · rw [Package.type, hflags]
    decide
  · rw [hoffset, ← hsent.1, List.length_append]
    exact Nat.lt_succ_self _
  · rw [Package.depth, hoffset, ← hsent.1]
    simp [List.getD_eq_getElem?_getD]

open Node

namespace Deployment

/-- A copy of a discovery, and what it was made from. -/
theorem copy_explores {ι : Type} {D : Deployment ι} {i j : ι} {s s' : Node} {m m' : Datagram}
    {out : List (Bool × Datagram)} (hreceive : D.protocol.receive i s j m s' out)
    (hcopy : (true, m') ∈ out) (hm : m.package.Explores) :
    m'.package.Explores ∧ m.package.depth ≠ 0 ∧ m'.package.depth = m.package.depth - 1 := by
  obtain ⟨hcall, rfl⟩ := hreceive
  obtain ⟨deeds, hhandles, houtcome⟩ := process_package_outcome hcall
  have hsend := hhandles.copied hcopy
  obtain heq | hdeed := List.mem_cons.mp hsend
  · cases heq
  · obtain ⟨hforwarded, hdepth⟩ := houtcome.explores hm hdeed
    obtain ⟨hexplores, hless⟩ := hm.forwarded
    rw [hforwarded]
    exact ⟨hexplores, hdepth, hless⟩

/-- Every reception of a copy of a discovery is at most its depth and one edge
away from the originator. Each copy has a smaller depth than the one it was
made from, and none is made from one with depth 0. -/
theorem discovery_bounded {ι : Type} [DecidableEq ι] {D : Deployment ι}
    {c : Config ι Node Datagram} (h : Reachable D.protocol c) {i : ι} {d : UInt8} {s : Node}
    {msg : Datagram} (hsent : s.transmitted (s.discovery_neighborhood d) = [msg]) :
    (∀ a ∈ c.arrivals, a.packet.root = .origin i msg →
      ∃ n ≤ d.toNat + 1, Walk D.adj n i a.receiver) ∧
    ∀ j m received, .copy j m received ∈ c.air → received.root = .origin i msg →
      received.msg.package.depth ≠ 0 ∧ m.package.depth < received.msg.package.depth := by
  obtain ⟨hexplores, hdepth⟩ := discovery_explores hsent
  have hbudget : ∀ m ∈ c.air, m.root = .origin i msg →
      m.msg.package.Explores ∧ m.hops + m.msg.package.depth.toNat ≤ d.toNat := by
    intro m hm hroot
    have hhops := h.hops_le (fun m => m.package.Explores) (fun m => m.package.depth.toNat)
      (fun _ _ _ _ _ _ _ hreceive hcopy hkind => by
        obtain ⟨hkind', hne, hless⟩ := copy_explores hreceive hcopy hkind
        refine ⟨hkind', ?_⟩
        rw [hless]
        exact depth_toNat_lt hne) hm
    rw [hroot, Packet.origin_msg, hdepth] at hhops
    exact hhops hexplores
  refine ⟨?_, ?_⟩
  · intro a ha hroot
    obtain ⟨hair, ⟨hadj, _⟩, _⟩ := h.arrival ha
    have hedge : ∀ j k (m : Datagram), D.protocol.hears j k m → D.adj j k :=
      fun _ _ _ hhears => hhears.1
    have hwalk := h.walk hedge hair
    rw [hroot, Packet.origin_sender] at hwalk
    have hbound := (hbudget a.packet hair hroot).2
    exact ⟨a.packet.hops + 1, by omega, hwalk.step hadj⟩
  · intro j m received hcopy hroot
    obtain ⟨a, ha, hreceiver, hpacket, out, hreceive, hmem⟩ := h.copy hcopy
    have hkind := (hbudget received (h.copy_source hcopy) hroot).1
    obtain ⟨_, hne, hless⟩ := copy_explores hreceive hmem hkind
    refine ⟨hne, ?_⟩
    rw [hless, UInt8.lt_iff_toNat_lt]
    exact depth_toNat_lt hne

/-! ## A row of three nodes -/

section

variable {ι : Type} [DecidableEq ι]

/-- A node makes a call, if it goes through. -/
def act (c : Config ι Node Datagram) (i : ι) (k : Call) : Config ι Node Datagram :=
  match k.run (c.node i) with
  | .ok s =>
    { node := Function.update c.node i s
      air := c.air ++ ((c.node i).transmitted s).map (Packet.origin i)
      arrivals := c.arrivals }
  | .error _ => c

theorem reachable_act {D : Deployment ι} {c : Config ι Node Datagram} (h : Reachable D.protocol c) (i : ι) (k : Call) :
    Reachable D.protocol (act c i k) := by
  unfold act
  split
  · rename_i hcall
    exact h.step (.act ⟨k, hcall, rfl⟩)
  · exact h

/-- A node hears the `n`-th package on the air, if it can. -/
def hear (D : Deployment ι) [DecidableRel D.adj] (c : Config ι Node Datagram) (i : ι) (n : Nat) :
    Config ι Node Datagram :=
  match c.air[n]? with
  | none => c
  | some m =>
    if D.adj m.sender i ∧ (m.msg.dest = D.uid i ∨ m.msg.dest = broadcast_uid) then
      match (c.node i).process_package m.msg.package m.msg.package.size (D.uid m.sender) with
      | .ok s =>
        { node := Function.update c.node i s
          air := c.air ++ (((c.node i).since s).filterMap Event.transmission?).map (emitted i m)
          arrivals := c.arrivals ++ [{ receiver := i, packet := m, before := c.node i, after := s }] }
      | .error _ => c
    else c

theorem reachable_hear {D : Deployment ι} [DecidableRel D.adj] {c : Config ι Node Datagram}
    (h : Reachable D.protocol c) (i : ι) (n : Nat) : Reachable D.protocol (D.hear c i n) := by
  unfold hear
  split
  · exact h
  · rename_i m hm
    split_ifs with hhears
    · split
      · rename_i hcall
        exact h.step (.receive (List.mem_of_getElem? hm) hhears ⟨hcall, rfl⟩)
      · exact h
    · exact h

end

/-- Three nodes, each of which hears the next one. -/
def row : Deployment (Fin 3) where
  uid i := linkLocal 0 (UInt8.ofNat (i + 1))
  adj i j := i.val + 1 = j.val ∨ j.val + 1 = i.val
  uid_injective := by decide
  uid_ne_broadcast := by decide
  uid_ne_null := by decide

instance : DecidableRel row.adj := fun i j =>
  inferInstanceAs (Decidable (i.val + 1 = j.val ∨ j.val + 1 = i.val))

def rowNode (i : Fin 3) : Node :=
  boot (row.uid i) (init_settings (nameOf [])) fun n => UInt8.ofNat (n + 1 + 100 * i)

def rowStart : Config (Fin 3) Node Datagram := { node := rowNode, air := [], arrivals := [] }

/-- A first discovery makes the first node known to the second one. -/
def rowKnown : Config (Fin 3) Node Datagram :=
  row.hear (row.hear (row.hear (act rowStart 0 (.discovery_neighborhood 1)) 1 0) 0 1) 1 2

/-- The second node passes on the next one, and the third node hears it. -/
def rowDiscovered : Config (Fin 3) Node Datagram :=
  row.hear (row.hear (act rowKnown 0 (.discovery_neighborhood 1)) 1 4) 2 5

theorem rowDiscovered_reachable : Reachable row.protocol rowDiscovered := by
  have hstart : Reachable row.protocol rowStart := .start fun _ => ⟨_, _, rfl⟩
  have hknown : Reachable row.protocol rowKnown :=
    reachable_hear (reachable_hear (reachable_hear (reachable_act hstart 0 _) 1 0) 0 1) 1 2
  exact reachable_hear (reachable_hear (reachable_act hknown 0 _) 1 4) 2 5

theorem row_discovered :
    ∃ msg, (rowKnown.node 0).transmitted ((rowKnown.node 0).discovery_neighborhood 1) = [msg] ∧
      (∃ a ∈ rowDiscovered.arrivals, a.receiver = 2 ∧ a.packet.root = .origin 0 msg ∧ a.packet.hops = 1 ∧
        ∃ n ≤ 2, Walk row.adj n 0 2) ∧
      ∀ j m received, .copy j m received ∈ rowDiscovered.air → received.root = .origin 0 msg →
        received.msg.package.depth ≠ 0 ∧ m.package.depth < received.msg.package.depth := by
  have hsent := discovery_transmitted (rowKnown.node 0) 1
  obtain ⟨hreach, hcopies⟩ := discovery_bounded rowDiscovered_reachable (i := 0) hsent
  refine ⟨_, hsent, ?_, hcopies⟩
  have harrival : ∃ a ∈ rowDiscovered.arrivals, a.receiver = 2 ∧ a.packet.root = .origin 0
      { package :=
          { rid := (rowKnown.node 0).nextRid
            flags := PACKAGE_IDENTIFIED ||| PackageType.NEIGHBOR_REQUEST.code
            data := (rowKnown.node 0).my_uid.toList ++ [1] }
        dest := broadcast_uid } ∧ a.packet.hops = 1 := by decide +kernel
  obtain ⟨a, ha, hreceiver, hroot, hhops⟩ := harrival
  obtain ⟨n, hn, hwalk⟩ := hreach a ha hroot
  rw [hreceiver] at hwalk
  exact ⟨a, ha, hreceiver, hroot, hhops, n, hn, hwalk⟩

end Deployment

end concretid.ems
