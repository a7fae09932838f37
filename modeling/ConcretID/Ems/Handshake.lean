import ConcretID.Ems.Deployment

open concretid.chain concretid.network

namespace concretid.ems

open Node

/-- The two answers of the handshake. -/
def Package.Echoes (p : Package) : Prop := p.type = .ECHO ∨ p.type = .REECHO

/-- A node of its own sends an echo to whom it answers only, and bare. -/
theorem Mail.echoes {c : Context} {p : Package} {dest : Uid} (h : Mail c p dest) (hp : p.Echoes) :
    c.answers dest ∧ p.intermediate = false := by
  cases h with
  | echo hanswers => exact ⟨hanswers, by simp [Package.intermediate]⟩
  | reecho hanswers => exact ⟨hanswers, by simp [Package.intermediate]⟩
  | ack l hacks hcontent =>
    rw [Package.Echoes, ← Package.content_type, hcontent] at hp
    simp [Package.type] at hp
  | announcement l name hcontent =>
    rw [Package.Echoes, ← Package.content_type, hcontent] at hp
    simp [Package.type] at hp
  | broadcast_ack => simp [Package.Echoes, Package.type] at hp
  | uid_request => simp [Package.Echoes, Package.type] at hp
  | name_request => simp [Package.Echoes, Package.type] at hp
  | discovery => simp [Package.Echoes, Package.type] at hp
  | neighbor_request => simp [Package.Echoes, Package.type] at hp
  | broadcast_msg => simp [Package.Echoes, Package.type] at hp

/-- The table of a node holds a uid: a slot in use has it, or looking for it
finds one. -/
def Node.Knows (s : Node) (uid : Uid) : Prop :=
  (∃ x, s.transmission.live x ∧ s.transmission.neighbor x = uid) ∨
    ∃ x, s.transmission.find_neighbor uid = .ok (some x)

theorem Node.Knows.neighbor {s : Node} {uid : Uid} (h : s.Knows uid) :
    ∃ x, s.transmission.neighbor x = uid := by
  obtain ⟨x, _, hx⟩ | ⟨x, hfind⟩ := h
  · exact ⟨x, hx⟩
  · refine ⟨x, ?_⟩
    unfold Transmission.find_neighbor at hfind
    split at hfind
    · rename_i loc hwalk
      rw [Except.ok.inj hfind] at hwalk
      simpa using walk_found hwalk
    · cases hfind

namespace Deployment

/-- What a slot of a node has sent is a message or a command. -/
theorem slot_type {ι : Type} [DecidableEq ι] {D : Deployment ι} {c : Config ι Node Datagram}
    (h : Reachable D.protocol c) {i : ι} {k : Fin SENDOUT_QTY} {p : Package} {dest : Uid}
    (he : .send_package (.sendout k) p dest ∈ (c.node i).trace) : p.type ∈ Sendout.kinds := by
  obtain ⟨timing, a, _, hfree, hrun⟩ := (settled h i).lives.slot_run k
  exact (hrun.typed hfree).1 p dest (List.mem_filter.mpr ⟨he, by simp [Event.ofSlot]⟩)

/-- Every echo on the air is bare and goes to a node its sender has heard. -/
theorem echo_answers {ι : Type} [DecidableEq ι] {D : Deployment ι} {c : Config ι Node Datagram}
    (h : Reachable D.protocol c) {m : Packet ι Datagram} (hm : m ∈ c.air)
    (hecho : m.msg.package.Echoes) : m.msg.package.intermediate = false ∧
      ∃ a ∈ c.arrivals, a.receiver = m.sender ∧ m.msg.dest = D.uid a.packet.sender := by
  induction m with
  | origin i msg =>
    obtain ⟨b, hb, he, hown⟩ := origin_own h hm
    cases b with
    | process => exact absurd rfl hb
    | sendout k =>
      have hkind := slot_type h he
      obtain htype | htype := hecho <;> rw [Packet.origin_msg] at htype <;>
        rw [htype] at hkind <;> simp [Sendout.kinds] at hkind
    | messages =>
      obtain ⟨s, _, hown⟩ | ⟨a, ha, hreceiver, deeds, _, hown⟩ := hown
      · cases hown with
        | mail hmail => exact (hmail.echoes hecho).1.elim
      · cases hown with
        | mail hmail =>
          obtain ⟨hanswers, hdirect⟩ := hmail.echoes hecho
          exact ⟨hdirect, a, ha, hreceiver, hanswers⟩
  | copy i msg received ih =>
    -- no node passes an echo on: a bare one is not flooded, and none is wrapped
    exfalso
    obtain ⟨a, ha, _, hpacket, deeds, hheard, hsend⟩ := copy_deed h hm
    have hair := h.copy_source hm
    rw [Packet.copy_msg, Package.Echoes] at hecho
    rw [← hpacket] at ih hair
    generalize msg.package = p at hsend hecho
    generalize msg.dest = dest at hsend
    cases hheard.outcome.mem hsend with
    | relay l hinter hcontent =>
      rw [← Package.content_type, hcontent, Package.content_type] at hecho
      have hdirect := (ih hair hecho).1
      rw [hinter] at hdirect
      cases hdirect
    | handled _ _ hdeed =>
      cases hdeed with
      | flood hfloods =>
        rw [Package.type, Package.forwarded_flags] at hecho
        unfold Package.floods Package.type at hfloods
        obtain htype | htype := hecho <;> simp [htype] at hfloods

/-- Whenever a node's table holds another node, each of the two has received a
package transmitted by the other. -/
theorem neighbors_heard {ι : Type} [DecidableEq ι] {D : Deployment ι}
    {c : Config ι Node Datagram} (h : Reachable D.protocol c) {i j : ι}
    (hknows : (c.node i).Knows (D.uid j)) :
    (∃ a ∈ c.arrivals, a.receiver = i ∧ a.packet.sender = j) ∧
      ∃ a ∈ c.arrivals, a.receiver = j ∧ a.packet.sender = i := by
  obtain ⟨x, hx⟩ := hknows.neighbor
  have hregistered : .register_neighbor (D.uid j) ∈ (c.node i).trace := by
    obtain hnull | hmem := (settled h i).lives.neighbor_cases x
    · exact absurd (hx.symm.trans hnull) (D.uid_ne_null j)
    · rwa [hx] at hmem
  obtain ⟨s, _, hown⟩ | hcall | ⟨a, ha, hreceiver, hmem⟩ := event_cases h hregistered
  · cases hown
  · obtain heq | heq | ⟨cmd, heq⟩ := hcall <;> cases heq
  · obtain ⟨deeds, hheard⟩ := heard h ha
    obtain heq | hdeed | ⟨hown, _⟩ := hheard.mem hmem
    · cases heq
    · cases hheard.outcome.mem hdeed with
      | handled hdirect hnew hdeed =>
        generalize huid : D.uid j = uid at hdeed
        cases hdeed with
        | register_neighbor hecho =>
          have hsender := D.uid_injective huid
          obtain ⟨_, b, hb, hreceiver', hdest⟩ := echo_answers h (h.arrival ha).1 hecho
          refine ⟨⟨a, ha, hreceiver, hsender.symm⟩, b, hb, hreceiver'.trans hsender.symm, ?_⟩
          obtain hmine | hall := hheard.dest
          · rw [hdest, hreceiver] at hmine
            exact D.uid_injective hmine
          · exact absurd (hdest.symm.trans hall) (D.uid_ne_broadcast _)
    · cases hown

/-- A request of the first node, the answer of the second one that does not know
it, the echo to that and the echo to the echo. -/
def pairRequest : Datagram :=
  { package :=
      { rid := 0x4030201
        flags := PACKAGE_IDENTIFIED ||| PackageType.UID_REQUEST.code
        data := (pair.uid 0).toList ++ (linkLocal 9 9).toList }
    dest := broadcast_uid }

def pairAnswer : Datagram :=
  { package := { rid := 0x68676665, flags := PackageType.NEIGHBOR_REQUEST.code, data := [] }
    dest := pair.uid 0 }

def pairEcho : Datagram :=
  { package := { rid := 0x8070605, flags := PackageType.ECHO.code, data := [] }
    dest := pair.uid 1 }

def pairReecho : Datagram :=
  { package := { rid := 0x6c6b6a69, flags := PackageType.REECHO.code, data := [] }
    dest := pair.uid 0 }

/-- The first node when it has sent its echo. -/
def pairEchoed : Node :=
  received (called (pairNode 0) (.send_uid_request (linkLocal 9 9))) pairAnswer.package (pair.uid 1)

/-- The second node when it has registered the first one. -/
def pairRegistered : Node :=
  received (received (pairNode 1) pairRequest.package (pair.uid 0)) pairEcho.package (pair.uid 0)

set_option maxRecDepth 20000 in
theorem pair_registered : PairAt pairEchoed pairRegistered (.origin 1 pairReecho) := by
  have hrequested : PairAt _ _ (.origin 0 pairRequest) :=
    .start (pair_act (k := .send_uid_request (linkLocal 9 9)) (by decide) (by decide))
  have hanswered : PairAt _ _ (.origin 1 pairAnswer) :=
    hrequested.second rfl (.inr rfl)
      (pair_receive (o := [(false, pairAnswer)]) (by decide) (by decide)) (by simp [emitted])
  have hechoed : PairAt pairEchoed _ (.origin 0 pairEcho) :=
    hanswered.first rfl (.inl rfl)
      (pair_receive (o := [(false, pairEcho)]) (by decide) (by decide)) (by simp [emitted])
  exact hechoed.second rfl (.inl rfl)
    (pair_receive (o := [(false, pairReecho)]) (by decide) (by decide)) (by simp [emitted])

set_option maxRecDepth 20000 in
/-- After a handshake the second node knows the first one. -/
theorem pair_handshake : ∃ c, Reachable pair.protocol c ∧
    (∃ a ∈ c.arrivals, a.receiver = 1 ∧ a.packet.sender = 0) ∧
      ∃ a ∈ c.arrivals, a.receiver = 0 ∧ a.packet.sender = 1 := by
  obtain ⟨c, hreach, _, hsecond, _⟩ := pair_registered
  refine ⟨c, hreach, neighbors_heard hreach (.inr ⟨0, ?_⟩)⟩
  rw [hsecond]
  decide

end Deployment

end concretid.ems
