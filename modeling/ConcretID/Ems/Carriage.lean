import ConcretID.Library.Count
import ConcretID.Ems.Handshake
import ConcretID.Ems.Retention

open concretid.network

namespace concretid.ems

open Node

/-- A package of a slot on its way to its end. -/
structure Datagram.Carried (m : Datagram) (last : Uid) : Prop where
  kind : m.package.type ∈ Sendout.kinds
  end_eq : m.package.finalDest m.dest = last
  bypass : m.package.intermediate = true → m.dest ≠ m.package.head
  ne_broadcast : m.dest ≠ broadcast_uid

/-- What has arrived where it is addressed has reached its end, and only that. -/
theorem Datagram.Carried.arrived {m : Datagram} {last : Uid} (h : m.Carried last) :
    m.package.intermediate = false ↔ m.dest = last := by
  have hend := h.end_eq
  unfold Package.finalDest at hend
  cases hflag : m.package.intermediate with
  | false => simpa [hflag] using hend
  | true =>
    rw [hflag, if_pos rfl] at hend
    simpa [← hend] using h.bypass hflag

theorem kinds_cases {type : PackageType} (h : type ∈ Sendout.kinds) :
    type = .MSG ∨ type = .COMMAND := by
  simpa [Sendout.kinds] using h

namespace Deployment

/-- A slot of a node has been filled with a package whose upper bits are those of
no other package of the network. -/
structure Sends {ι : Type} (c : Config ι Node Datagram) (i : ι) (k : Fin SENDOUT_QTY)
    (fixed : Rid) : Prop where
  head : ∃ rid, .make_package_head (.sendout k) rid ∈ (c.node i).trace ∧ rid &&& RID_FIXED = fixed
  once : (c.node i).trace.countP (Event.makes fixed) ≤ 1
  others : ∀ j ≠ i, (c.node j).trace.countP (Event.makes fixed) = 0

/-- Packages of the given upper bits are made in that slot only. -/
theorem Sends.unique {ι : Type} {c : Config ι Node Datagram} {i : ι} {k : Fin SENDOUT_QTY}
    {fixed : Rid} (h : Sends c i k fixed) {j : ι} {b : Buffer} {rid : Rid}
    (hmade : .make_package_head b rid ∈ (c.node j).trace) (hfixed : rid &&& RID_FIXED = fixed) :
    j = i ∧ b = .sendout k := by
  have hmakes : Event.makes fixed (.make_package_head b rid) = true := by
    simpa [Event.makes] using hfixed
  by_cases hj : j = i
  · subst hj
    obtain ⟨rid', hhead, hfixed'⟩ := h.head
    have hsame := eq_of_countP_le_one h.once hmade hmakes hhead (by simpa [Event.makes] using hfixed')
    exact ⟨rfl, (Event.make_package_head.inj hsame).1⟩
  · have hnone := List.countP_eq_zero.mp (h.others j hj) _ hmade
    exact absurd hmakes hnone

/-- Whatever a node has sent from a buffer of its own was made there. -/
theorem made {ι : Type} {D : Deployment ι} {i : ι} {s : Node} (h : D.Settled i s) {b : Buffer}
    {p : Package} {dest : Uid} (hb : b ≠ .process) (he : .send_package b p dest ∈ s.trace) :
    ∃ rid, .make_package_head b rid ∈ s.trace ∧ rid &&& RID_FIXED = p.rid &&& RID_FIXED := by
  cases b with
  | process => exact absurd rfl hb
  | messages => exact ⟨p.rid, h.headed p dest he, rfl⟩
  | sendout k =>
    obtain ⟨timing, a, _, hfree, hrun⟩ := h.lives.slot_run k
    obtain ⟨rid, hhead, hfixed⟩ := (hrun.headed hfree).1 p dest
      (List.mem_filter.mpr ⟨he, by simp [Event.ofSlot]⟩)
    exact ⟨rid, (List.mem_filter.mp hhead).1, hfixed⟩

/-- Every package on the air with a slot's upper bits is on its way to one end. -/
theorem carried {ι : Type} [DecidableEq ι] {D : Deployment ι} {c : Config ι Node Datagram}
    (h : Reachable D.protocol c) {i : ι} {k : Fin SENDOUT_QTY} {fixed : Rid}
    (hsends : Sends c i k fixed) :
    ∃ last, ∀ m ∈ c.air, m.msg.package.rid &&& RID_FIXED = fixed → m.msg.Carried last := by
  obtain ⟨timing, a, hproper, hfree, hrun⟩ := (settled h i).lives.slot_run k
  have hunique : ((c.node i).trace.filter (Event.ofSlot k)).countP (Event.makes fixed) ≤ 1 :=
    le_trans (List.Sublist.countP_le List.filter_sublist) hsends.once
  obtain ⟨type, data, hkind, hserves⟩ := hrun.serves hproper hfree hunique
  obtain ⟨last, hlast⟩ := hserves.sends
  refine ⟨last, fun m hm hfixed => ?_⟩
  induction m with
  | origin j msg =>
    obtain ⟨b, hb, he, hown⟩ := origin_own h hm
    obtain ⟨rid, hmade, hrid⟩ := made (settled h j) hb he
    obtain ⟨rfl, rfl⟩ := hsends.unique hmade (hrid.trans hfixed)
    obtain ⟨hcontent, hend, hbypass, _⟩ := hlast _ _
      (List.mem_filter.mpr ⟨he, by simp [Event.ofSlot]⟩) hfixed
    refine ⟨?_, hend, hbypass, ?_⟩
    · rw [Packet.origin_msg, ← Package.content_type, hcontent]
      show typeOf (PACKAGE_ACKLY ||| PACKAGE_IDENTIFIED ||| type.code) ∈ Sendout.kinds
      obtain rfl | rfl := hkind <;> decide
    · rw [Packet.origin_msg]
      generalize msg.dest = dest at hown
      obtain ⟨s, hsettled, hown⟩ | ⟨a, _, _, deeds, hheard, hown⟩ := hown
      · cases hown with
        | slot k p l => exact hsettled.neighbor_ne_broadcast l
      · cases hown with
        | slot k p l => exact hheard.settled.neighbor_ne_broadcast l
  | copy j msg received ih =>
    obtain ⟨a, _, _, rfl, deeds, hheard, hsend⟩ := copy_deed h hm
    have hair := h.copy_source hm
    obtain ⟨q, dest⟩ := msg
    rw [Packet.copy_msg] at hfixed ⊢
    dsimp only at hsend hfixed
    cases hheard.outcome.mem hsend with
    | relay l hintermediate hcontent hend =>
      have hrid := congrArg Package.rid hcontent
      rw [Package.content_rid, Package.content_rid] at hrid
      obtain ⟨hkind', hlast', _, _⟩ := ih hair (by rw [← hrid, hfixed])
      have htype : q.type = a.packet.msg.package.type := by
        rw [← Package.content_type, hcontent, Package.content_type]
      have hother : a.packet.msg.package.type ≠ .ANNOUNCEMENT := by
        obtain hmsg | hcommand := kinds_cases hkind'
        · simp [hmsg]
        · simp [hcommand]
      obtain ⟨hfinal, hbypass⟩ := hend hother
      rw [Package.finalDest, if_pos hintermediate] at hlast'
      exact ⟨by rwa [htype], by rw [hfinal, hlast'], hbypass,
        hheard.settled.neighbor_ne_broadcast l⟩
    | handled _ _ hdeed =>
      cases hdeed with
      | flood hfloods =>
        rw [Package.forwarded_rid] at hfixed
        have hkind' := (ih hair hfixed).kind
        unfold Package.floods at hfloods
        obtain hmsg | hcommand := kinds_cases hkind'
        · simp [hmsg] at hfloods
        · simp [hcommand] at hfloods

end Deployment

end concretid.ems
