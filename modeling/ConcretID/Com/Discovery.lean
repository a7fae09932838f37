import ConcretID.Com.Flooding

open concretid.memory concretid.network
open concretid.ems (Uid)

namespace concretid.com

/-- The neighbour request with an id and a depth. -/
def request (rid : Rid) (depth : UInt8) : Message :=
  { package := rid.bytes ++ [PackageType.NEIGHBOR_REQUEST_M.code, depth]
    dest := none }

/-- The byte where a neighbour request has its depth. -/
def Message.depth (m : Message) : UInt8 := m.package.getD PACKAGE_HEAD 0

namespace Node

/-- The command `D` with a digit shares the request with that depth. -/
theorem discover_transmitted {s : Node} {r : Region} {offset : Nat} {digit : UInt8}
    (hletter : s.memory r offset = 0x44) (hdigit : s.memory r (offset + 1) = digit)
    (hrange : 0x30 ≤ digit ∧ digit ≤ 0x39) :
    s.transmitted (s.executeCmd r offset) = [(false, request s.nextRid (digit - 0x30))] := by
  have hbody : depthOf digit = [digit - 0x30] := if_pos hrange
  have hcall : s.executeCmd r offset =
      (s.emit (.executeCmd (stringAt (s.memory r) offset))).share .NEIGHBOR_REQUEST_M
        [digit - 0x30] := by
    rw [← hbody, ← discoverCmd_eq, executeCmd, hletter]
    dsimp only
    rw [show (s.emit (.executeCmd (stringAt (s.memory r) offset))).memory r (offset + 1) = digit by
      rw [← hdigit]
      cases r <;> rfl]
    rfl
  have hlen : PACKAGE_HEAD + [digit - 0x30].length ≤ UIP_BUFSIZE := by
    change PACKAGE_HEAD + 1 ≤ UIP_BUFSIZE
    decide
  have hacts := (Acts.emit s (e := .executeCmd (stringAt (s.memory r) offset)) rfl rfl).trans
    (acts_share _ (t := .NEIGHBOR_REQUEST_M) rfl hlen)
  rw [transmitted, hcall, hacts.since_eq]
  rfl

/-- What is marked as a copy has been shared from `uip_appdata`. -/
theorem mem_transmitted {s s' : Node} {new : List Event} (h : Acts s s' new) {m : Message} :
    (true, m) ∈ s.transmitted s' ↔
      .SharePackage .uip_appdata m.package ∈ new ∧ m.dest = none := by
  rw [transmitted, h.since_eq, List.mem_filterMap]
  constructor
  · rintro ⟨e, he, htransmission⟩
    cases e with
    | SharePackage r package =>
      simp only [Event.transmission?, Option.some.injEq, Prod.mk.injEq, decide_eq_true_eq] at htransmission
      obtain ⟨rfl, rfl⟩ := htransmission
      exact ⟨he, rfl⟩
    | SendPackage => simp [Event.transmission?] at htransmission
    | _ => cases htransmission
  · rintro ⟨hmem, hdest⟩
    refine ⟨_, hmem, ?_⟩
    cases m
    simp_all [Event.transmission?]

/-- Nothing comes of an announcement without an address. -/
theorem receive_short {s : Node} {m : Datagram} (htype : m.type = some .ANNOUNCEMENT_M)
    (hshort : m.len < PACKAGE_HEAD + UID_SIZE) :
    ∃ new, Acts s (s.receive m) new ∧ ∀ e ∈ new, e.responds = false := by
  obtain ⟨new, hacts, hreaction⟩ := receive_reaction s m
  refine ⟨new, hacts, ?_⟩
  cases hreaction with
  | dropped => simp
  | retried => simp [Event.responds]
  | worked _ hnew => simpa [Event.responds] using hnew
  | passed _ hkind =>
    obtain ⟨-, hlong⟩ | hkind | hkind := hkind
    · omega
    · rw [htype] at hkind
      cases hkind
    · rw [htype] at hkind
      cases hkind
  | announced _ hkind =>
    rw [htype] at hkind
    rcases hkind with hkind | hkind <;> cases hkind
  | explored _ hkind =>
    rw [htype] at hkind
    cases hkind
  | acked _ hkind =>
    rw [htype] at hkind
    obtain hkind | hkind := hkind <;> cases hkind

/-- A neighbour request is passed on exactly if it is accepted where the
address does not begin with a 1, as what `echoed` says. -/
theorem copied_iff {s : Node} {m : Datagram} (htype : m.type = some .NEIGHBOR_REQUEST_M)
    (hbody : PACKAGE_HEAD < m.len) {msg : Message} :
    (true, msg) ∈ s.transmitted (s.receive m) ↔
      s.Accepts m ∧ s.myIp.head ≠ 1 ∧ msg = { package := s.echoed m, dest := none } := by
  by_cases haccepts : s.Accepts m
  · rw [mem_transmitted (receive_explored haccepts htype)]
    have hecho : .SharePackage .uip_appdata msg.package ∈ .registerRid m.rid ::
        (s.announcing ++ s.echoing m) ↔ .SharePackage .uip_appdata msg.package ∈ s.echoing m := by
      simp [announcing, sharing]
    rw [hecho, echoing]
    by_cases hone : s.myIp.head = 1
    · rw [if_pos (.inr ((sub_one_eq_zero _).mpr hone))]
      simp [hone]
    · have hnot : ¬ (m.len = PACKAGE_HEAD ∨ s.myIp.head - 1 = 0) := by
        rintro (hlen | hzero)
        · exact Nat.ne_of_gt hbody hlen
        · exact hone ((sub_one_eq_zero _).mp hzero)
      rw [if_neg hnot]
      cases msg
      simp [haccepts, hone]
  · have hnone : ∀ new, Acts s (s.receive m) new → (∀ e ∈ new, e.relays = false) →
        ¬ (true, msg) ∈ s.transmitted (s.receive m) := by
      intro new hacts hnew hmem
      have hshared := ((mem_transmitted hacts).mp hmem).1
      exact absurd (hnew _ hshared) (by simp [Event.relays])
    refine iff_of_false ?_ fun h => haccepts h.1
    obtain heq | ⟨-, heq⟩ := receive_of_rejects haccepts
    · exact hnone [] (heq ▸ .of_eq rfl rfl rfl) (by simp)
    · exact hnone _ (heq ▸ acts_seen s m) (by simp [Event.relays])

/-- The byte at the depth of what is passed on. -/
theorem echoed_depth (s : Node) {m : Datagram} (hbody : PACKAGE_HEAD < m.len) :
    (s.echoed m).getD PACKAGE_HEAD 0 = s.myIp.head - 1 := by
  rw [echoed, load_getD _ (lt_min hbody (by decide)), store_single, Function.update_self]

/-- What is passed on has the letter of an announcement. -/
theorem echoed_letter (s : Node) {m : Datagram} (hlen : PACKAGE_HEAD ≤ m.len) :
    (s.echoed m).getD RID_SIZE 0 = PackageType.ANNOUNCEMENT_M.code := by
  rw [echoed, load_getD _ (lt_min hlen (by decide)), store_of_lt _ _ (by decide)]
  simp [store, made, Rid.bytes]

end Node

theorem Datagram.Holds.getD {d : Datagram} {m : Message} {src : Uid} (h : d.Holds m src) {i : Nat}
    (hi : i < d.len) : m.package.getD i 0 = d.data i := by
  rw [← h.content, load_getD _ hi]

/-- A request as it arrives. -/
theorem Datagram.Holds.request_type {d : Datagram} {rid : Rid} {depth : UInt8} {src : Uid}
    (h : d.Holds (request rid depth) src) :
    d.len = PACKAGE_HEAD + 1 ∧ d.type = some .NEIGHBOR_REQUEST_M := by
  have hlen : d.len = PACKAGE_HEAD + 1 := h.len
  have hletter : d.letter = PackageType.NEIGHBOR_REQUEST_M.code :=
    (h.getD (i := RID_SIZE) (by rw [hlen]; decide)).symm
  exact ⟨hlen, by rw [Datagram.type, hletter, PackageType.ofCode_code]⟩

namespace Deployment

/-- A node accepts the message of an arrival. -/
def Accepted {ι : Type} (D : Deployment ι) (a : Arrival ι Node Message) : Prop :=
  ∃ d : Datagram, d.Holds a.packet.msg (D.ip a.packet.sender) ∧ a.before.Accepts d

/-- A copy that a node has made of a request. -/
structure RequestCopy {ι : Type} (D : Deployment ι) (c : Config ι Node Message) (o : ι) (rid : Rid)
    (depth : UInt8) (i : ι) (msg : Message) : Prop where
  arrival : ∃ a ∈ c.arrivals, a.receiver = i ∧ a.packet = .origin o (request rid depth) ∧ D.Accepted a
  address : (D.ip i).head ≠ 1
  depth_eq : msg.depth = (D.ip i).head - 1
  length : msg.package.length = PACKAGE_HEAD + 1
  letter : msg.package.getD RID_SIZE 0 = PackageType.ANNOUNCEMENT_M.code

theorem RequestCopy.type {ι : Type} {D : Deployment ι} {c : Config ι Node Message} {o : ι}
    {rid : Rid} {depth : UInt8} {i : ι} {msg : Message} (h : D.RequestCopy c o rid depth i msg)
    {d : Datagram} {src : Uid} (hholds : d.Holds msg src) : d.type = some .ANNOUNCEMENT_M := by
  have hletter : d.letter = PackageType.ANNOUNCEMENT_M.code := by
    rw [← h.letter, hholds.getD (by rw [hholds.len, h.length]; decide)]
    rfl
  rw [Datagram.type, hletter, PackageType.ofCode_code]

/-- Every copy of a request has been made by a node that has received the
request itself: the copy is announced as an announcement, too short for one. -/
theorem copy_of_request {ι : Type} [DecidableEq ι] {D : Deployment ι} {c : Config ι Node Message}
    (h : Reachable D.protocol c) {o : ι} {rid : Rid} {depth : UInt8} {i : ι} {msg : Message}
    {m : Packet ι Message} (hcopy : .copy i msg m ∈ c.air)
    (hroot : m.root = .origin o (request rid depth)) :
    m = .origin o (request rid depth) ∧ D.RequestCopy c o rid depth i msg := by
  induction m generalizing i msg with
  | origin j msg' =>
    have hrequest : Packet.origin j msg' = .origin o (request rid depth) := hroot
    refine ⟨hrequest, ?_⟩
    rw [hrequest] at hcopy
    obtain ⟨a, ha, rfl, hpacket, out, ⟨d, hholds, hafter, rfl⟩, hmem⟩ := h.copy hcopy
    rw [hafter] at hmem
    obtain ⟨hlen, htype⟩ := hholds.request_type
    have hbody : PACKAGE_HEAD < d.len := by rw [hlen]; exact Nat.lt_succ_self _
    obtain ⟨haccepts, haddress, rfl⟩ := (Node.copied_iff htype hbody).mp hmem
    have hip : a.before.myIp = D.ip a.receiver := (arrival_lives h ha).1.myIp_eq
    refine ⟨⟨a, ha, rfl, hpacket, d, ?_, haccepts⟩, ?_, ?_, ?_, ?_⟩
    · rwa [hpacket]
    · rwa [← hip]
    · rw [Message.depth, Node.echoed_depth _ hbody, hip]
    · change (a.before.echoed d).length = PACKAGE_HEAD + 1
      rw [Node.echoed, load_length, hlen]
      decide
    · exact Node.echoed_letter _ (Nat.le_of_lt hbody)
  | copy j msg' m' ih =>
    obtain ⟨-, hechoed⟩ := ih (h.copy_source hcopy) hroot
    obtain ⟨a, ha, -, -, out, ⟨d, hholds, hafter, rfl⟩, hmem⟩ := h.copy hcopy
    rw [hafter] at hmem
    obtain ⟨new, hacts, hnew⟩ := Node.receive_short (s := a.before) (hechoed.type hholds)
      (by rw [hholds.len, Packet.copy_msg, hechoed.length]; decide)
    have hshared := hnew _ ((Node.mem_transmitted hacts).mp hmem).1
    cases hshared

/-- What a depth is to bound: who announces itself, the depths of the copies and
how far they travel. -/
structure Bounded {ι : Type} (D : Deployment ι) (c : Config ι Node Message) (o : ι) (rid : Rid)
    (depth : UInt8) : Prop where
  near : ∀ a ∈ c.arrivals, a.packet.root = .origin o (request rid depth) →
    .announceMe ∈ a.before.since a.after →
    ∃ k ≤ max 1 depth.toNat, Walk D.adj k o a.receiver
  less : ∀ i msg m, .copy i msg m ∈ c.air → m.root = .origin o (request rid depth) →
    msg.depth < m.msg.depth
  within : ∀ m ∈ c.air, m.root = .origin o (request rid depth) → m.copied = true →
    m.hops + 1 ≤ depth.toNat

/-- Only nodes that hear the originator announce themselves. -/
theorem announced_near {ι : Type} [DecidableEq ι] {D : Deployment ι} {c : Config ι Node Message}
    (h : Reachable D.protocol c) {o : ι} {rid : Rid} {depth : UInt8} {a : Arrival ι Node Message}
    (ha : a ∈ c.arrivals) (hroot : a.packet.root = .origin o (request rid depth))
    (hannounces : .announceMe ∈ a.before.since a.after) : D.adj o a.receiver := by
  obtain ⟨hair, hhears, out, d, hholds, hafter, -⟩ := h.arrival ha
  cases hpacket : a.packet with
  | origin j msg =>
    rw [hpacket] at hroot hhears
    obtain ⟨rfl, -⟩ := Packet.origin.inj hroot
    exact hhears.1
  | copy j msg m =>
    rw [hpacket] at hroot hair hholds
    obtain ⟨-, hechoed⟩ := copy_of_request h hair hroot
    obtain ⟨new, hacts, hnew⟩ := Node.receive_short (s := a.before) (hechoed.type hholds)
      (by rw [hholds.len, Packet.copy_msg, hechoed.length]; decide)
    rw [hafter, Node.step_datagram, hacts.since_eq] at hannounces
    cases hnew _ hannounces

theorem two_le_of_lt {x depth : UInt8} (hone : x ≠ 1) (hless : x - 1 < depth) : 2 ≤ depth.toNat := by
  have hpos : 0 < (x - 1).toNat := by
    refine Nat.pos_of_ne_zero fun hzero => hone ((Node.sub_one_eq_zero x).mp ?_)
    exact UInt8.toNat_inj.mp hzero
  have hlt := UInt8.lt_iff_toNat_lt.mp hless
  omega

/-- A neighbour request stays within its depth exactly if each node that
accepts it has an address that begins with a 1 or whose first byte, counted
down, is less than the depth: it is that byte that is counted down and shared,
with the announcement that has been made in the place of the request. -/
theorem discovery_bounded_iff {ι : Type} [DecidableEq ι] {D : Deployment ι}
    {c : Config ι Node Message} (h : Reachable D.protocol c) {o : ι} {rid : Rid} {depth : UInt8} :
    D.Bounded c o rid depth ↔
      ∀ a ∈ c.arrivals, a.packet = .origin o (request rid depth) → D.Accepted a →
        (D.ip a.receiver).head = 1 ∨ (D.ip a.receiver).head - 1 < depth := by
  constructor
  · rintro hbounded a ha hpacket ⟨d, hholds, haccepts⟩
    by_contra hnot
    obtain ⟨hone, hge⟩ := not_or.mp hnot
    obtain ⟨out, ⟨d', hholds', hafter, rfl⟩, hair⟩ := h.arrival_emitted ha
    obtain ⟨haccepts', -, -⟩ := hholds.accepts hholds' haccepts
    rw [hpacket] at hholds' hair
    obtain ⟨hlen, htype⟩ := hholds'.request_type
    have hbody : PACKAGE_HEAD < d'.len := by rw [hlen]; exact Nat.lt_succ_self _
    have hip : a.before.myIp = D.ip a.receiver := (arrival_lives h ha).1.myIp_eq
    have hsent := (Node.copied_iff htype hbody).mpr ⟨haccepts', by rwa [hip], rfl⟩
    rw [← Node.step_datagram, ← hafter] at hsent
    have hless := hbounded.less _ _ _ (hair _ hsent) rfl
    rw [Message.depth, Node.echoed_depth _ hbody, hip] at hless
    exact hge hless
  · intro hcondition
    have hcopy : ∀ i msg m, .copy i msg m ∈ c.air → m.root = .origin o (request rid depth) →
        m = .origin o (request rid depth) ∧ msg.depth < depth ∧ 2 ≤ depth.toNat := by
      intro i msg m hair hroot
      obtain ⟨rfl, ⟨a, ha, rfl, hpacket, haccepted⟩, haddress, hdepth, -, -⟩ :=
        copy_of_request h hair hroot
      have hless := (hcondition a ha hpacket haccepted).resolve_left haddress
      exact ⟨rfl, by rwa [hdepth], two_le_of_lt haddress hless⟩
    refine ⟨fun a ha hroot hannounces => ?_, fun i msg m hair hroot => ?_, ?_⟩
    · exact ⟨1, le_max_left _ _, .step (.refl o) (announced_near h ha hroot hannounces)⟩
    · obtain ⟨rfl, hless, -⟩ := hcopy i msg m hair hroot
      exact hless
    · intro m hair hroot hcopied
      cases m with
      | origin => cases hcopied
      | copy i msg m =>
        obtain ⟨rfl, -, htwo⟩ := hcopy i msg m hair hroot
        exact htwo

/-- The request of `D2` is passed on with the depth 253. -/
theorem duo_deepened : ∃ c, Reachable duo.protocol c ∧
    .copy 1 duoEcho (.origin 0 (request (ridOf duoRequest.package) 2)) ∈ c.air ∧
    duoEcho.depth = 253 := by
  obtain ⟨c, hreach, -, -, hair⟩ := duo_echoed
  exact ⟨c, hreach, hair, rfl⟩

theorem duo_unbounded : ∃ c, Reachable duo.protocol c ∧
    ¬ duo.Bounded c 0 (ridOf duoRequest.package) 2 := by
  obtain ⟨c, hreach, -, harrivals, -⟩ := duo_echoed
  refine ⟨c, hreach, fun hbounded => ?_⟩
  have haccepted : duo.Accepted duoArrival :=
    ⟨duoDatagram, ⟨rfl, rfl, by decide⟩, by decide, by decide, by decide, by decide⟩
  have hcondition := (discovery_bounded_iff hreach).mp hbounded duoArrival
    (by rw [harrivals]; exact List.mem_singleton_self _) rfl haccepted
  exact absurd hcondition (by decide)

end Deployment

end concretid.com
