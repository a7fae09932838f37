import ConcretID.Ems.Flooding

open concretid.network

namespace concretid.ems

/-! ## What the four originators broadcast -/

/-- A broadcast of a node, as it goes from node to node. -/
structure Package.Spreads (uid : Uid) (p : Package) : Prop where
  direct : p.intermediate = false
  complete : p.short = false
  fits : p.size ≤ BUFFER_PROCESS_SIZE
  kind : p.type = .BROADCAST_MSG ∨ p.source = some uid ∧
    (p.type = .NAME_REQUEST ∧ p.body.length = NAME_SIZE ∨
      p.type = .UID_REQUEST ∧ p.body.length = UID_SIZE ∨
      p.type = .NEIGHBOR_REQUEST ∧ p.body.length = 1)

/-- Passing it on keeps it one. -/
theorem Package.Spreads.forwarded {uid : Uid} {p : Package} (h : p.Spreads uid) :
    p.forwarded.Spreads uid := by
  have htype : p.forwarded.type = p.type := by rw [Package.type, Package.forwarded_flags]; rfl
  have hidentified : p.forwarded.identified = p.identified := by
    rw [Package.identified, Package.forwarded_flags]
    rfl
  have hbody : p.forwarded.body.length = p.body.length := by
    rw [Package.body_length, Package.body_length, Package.forwarded_length, Package.offset,
      hidentified, Package.offset]
  refine ⟨?_, ?_, ?_, ?_⟩
  · rw [Package.intermediate, Package.forwarded_flags]
    exact h.direct
  · rw [Package.short, hidentified, Package.forwarded_length]
    exact h.complete
  · rw [Package.size, Package.forwarded_length]
    exact h.fits
  · rw [htype, hbody, Package.forwarded_source]
    exact h.kind

/-- An identified package of a node spreads. -/
theorem spreads_identified {uid : Uid} {rid : Rid} {type : PackageType} {bytes : List UInt8}
    (hfits : bytes.length ≤ UID_SIZE) (hkind : type = .NAME_REQUEST ∧ bytes.length = NAME_SIZE ∨
      type = .UID_REQUEST ∧ bytes.length = UID_SIZE ∨
      type = .NEIGHBOR_REQUEST ∧ bytes.length = 1) :
    Package.Spreads uid
      { rid
        flags := PACKAGE_IDENTIFIED ||| type.code
        data := uid.toList ++ bytes } := by
  have hidentified : Package.identified
      { rid, flags := PACKAGE_IDENTIFIED ||| type.code, data := uid.toList ++ bytes } = true :=
    (hasFlag_identified_code type).2
  refine ⟨(hasFlag_identified_code type).1, ?_, ?_, .inr ⟨?_, ?_⟩⟩
  · simp [Package.short, sizeof_identified_head]
  · simp only [Package.size, List.length_append, List.Vector.toList_length, UID_SIZE,
      sizeof_package, BUFFER_PROCESS_SIZE] at *
    omega
  · rw [Package.source, if_pos hidentified, Package.head, uidAt_append]
  · have htype : Package.type
        { rid, flags := PACKAGE_IDENTIFIED ||| type.code, data := uid.toList ++ bytes } = type :=
      typeOf_identified_code type
    have hbody : Package.body
        { rid, flags := PACKAGE_IDENTIFIED ||| type.code, data := uid.toList ++ bytes } = bytes := by
      rw [Package.body, Package.offset, if_pos hidentified]
      exact List.drop_left' (List.Vector.toList_length uid)
    rw [htype, hbody]
    exact hkind

/-- What the four originators transmit spreads. -/
theorem Call.originates_spreads {s s' : Node} {call : Call} {msg : Datagram}
    (hkind : call.originates = true) (hcall : call.run s = .ok s') (hmsg : msg ∈ s.transmitted s') :
    msg.package.Spreads s.my_uid := by
  cases call with
  | send_broadcast_msg text =>
    obtain ⟨hroom, hsent⟩ := broadcast_transmitted hcall
    rw [hsent, List.mem_singleton] at hmsg
    have hflags : msg.package.flags = PackageType.BROADCAST_MSG.code := by
      rw [hmsg]
      exact UInt8.zero_or
    refine ⟨?_, ?_, ?_, .inl ?_⟩
    · rw [Package.intermediate, hflags]
      decide
    · rw [Package.short, Package.identified, hflags]
      simp
    · have hdata : msg.package.data = cstring text := by rw [hmsg]
      have hcapacity : Buffer.messages.capacity ≤ BUFFER_PROCESS_SIZE - sizeof_package := by decide
      rw [Package.size, hdata]
      omega
    · rw [Package.type, hflags, typeOf_code]
  | send_name_request name =>
    obtain rfl := Except.ok.inj hcall
    have hsent := identified_transmitted s .NAME_REQUEST (strncpy name NAME_SIZE)
    rw [strncpy_length] at hsent
    rw [Node.send_name_request, hsent, List.mem_singleton] at hmsg
    rw [hmsg]
    exact spreads_identified (by rw [strncpy_length]) (.inl ⟨rfl, strncpy_length _ _⟩)
  | send_uid_request uid =>
    obtain rfl := Except.ok.inj hcall
    have hsent := identified_transmitted s .UID_REQUEST uid.toList
    rw [List.Vector.toList_length] at hsent
    rw [Node.send_uid_request, hsent, List.mem_singleton] at hmsg
    rw [hmsg]
    exact spreads_identified (by rw [List.Vector.toList_length])
      (.inr (.inl ⟨rfl, List.Vector.toList_length _⟩))
  | discovery_neighborhood depth =>
    obtain rfl := Except.ok.inj hcall
    have hsent := identified_transmitted s .NEIGHBOR_REQUEST [depth]
    rw [Node.discovery_neighborhood, show (1 : Nat) = [depth].length from rfl, hsent,
      List.mem_singleton] at hmsg
    rw [hmsg]
    exact spreads_identified (Nat.le_add_left 1 15) (.inr (.inr ⟨rfl, rfl⟩))
  | check_send_out => cases hkind
  | check_transmission => cases hkind
  | execute_cmd => cases hkind
  | send_out_by_name => cases hkind

/-! ## A broadcast that comes back -/

/-- Whether a call treats a package as new: it prints it, passes it on, or
enters a route for `uid`. -/
def Event.news (uid : Uid) : Event → Bool
  | .message _ _ _ => true
  | .send_package .process _ _ => true
  | .register_uid source _ => source == uid
  | _ => false

/-- What keeps a node from treating a broadcast from `src` as new: its upper
bits are in the ring, `src` is blocked, or it is no plain message and `src` is no
neighbour. -/
def Node.Recognises (s : Node) (p : Package) (src : Uid) : Prop :=
  s.rids.exists_rid p.rid ≠ 0 ∨ s.is_blocked src = true ∨
    p.type ≠ .BROADCAST_MSG ∧ s.transmission.find_neighbor src = .ok none

theorem Event.news_deed {uid : Uid} {e : Event} (h : e.news uid = true) : e.deed = true := by
  unfold Event.news at h
  split at h
  · rfl
  · rfl
  · rfl
  · cases h

/-- What a node does with a broadcast of `uid`: nothing that is news for a
package it recognises, and otherwise at least one such thing. -/
theorem Outcome.news_iff {s : Node} {p : Package} {src uid : Uid} {deeds : List Event}
    (h : Outcome s p src deeds) (hspreads : p.Spreads uid) :
    (∀ e ∈ deeds, e.news uid = false) ↔ s.Recognises p src := by
  cases h with
  | rejected hreject =>
    apply iff_of_true (by simp)
    obtain hshort | hlong | hblocked | hseen := hreject
    · simp [Package.size] at hshort
    · exact absurd hspreads.fits (by omega)
    · exact .inr (.inl hblocked)
    · exact .inl (by simp [hseen])
  | relayed _ hintermediate =>
    rw [hspreads.direct] at hintermediate
    cases hintermediate
  | @handled _ link haccept _ hfind hcourse =>
    cases hcourse with
    | short hshort =>
      rw [hspreads.complete] at hshort
      cases hshort
    | refused _ _ hlink hrefused =>
      refine iff_of_true (by simp) (.inr (.inr ⟨?_, by rw [hfind, hlink]⟩))
      rintro htype
      rw [Package.refused, htype] at hrefused
      cases hrefused
    | again _ hrid => exact iff_of_true (by simp [Event.news]) (.inl (by simp [hrid]))
    | @new deeds _ hrid hopen hdeeds =>
      have hzero := exists_rid_eq_zero_of_new haccept hrid
      have hunblocked : s.is_blocked src ≠ true :=
        fun hblocked => haccept (.inr (.inr (.inl hblocked)))
      unfold Deeds at hdeeds
      obtain htype | ⟨hsource, hkind⟩ := hspreads.kind
      · -- printed and passed on, whoever sends it
        simp only [htype] at hdeeds
        refine iff_of_false ?_ ?_
        · intro hnone
          have hprint := hnone (.message "broadcast msg" p.source (cstring p.body))
            (by simp [hdeeds])
          cases hprint
        · rintro (hknown | hblocked | ⟨hother, _⟩)
          · exact hknown hzero
          · exact hunblocked hblocked
          · exact hother htype
      · have hroutes : p.routes link = [.register_uid uid link] := by
          simp [Package.routes, hsource]
        have hnews : Event.register_uid uid link ∈ deeds →
            ¬ ∀ e ∈ .register_rid p.rid :: deeds, e.news uid = false := by
          intro hmem hnone
          have hroute := hnone _ (List.mem_cons_of_mem _ hmem)
          simp [Event.news] at hroute
        cases link with
        | none =>
          -- the requests are refused from a stranger, and the last comes to nothing
          refine iff_of_true ?_ (.inr (.inr ⟨?_, hfind⟩))
          · have hempty : deeds = [] := by
              obtain ⟨htype, _⟩ | ⟨htype, _⟩ | ⟨htype, _⟩ := hkind
              · simp [Package.refused, htype] at hopen
              · simp [Package.refused, htype] at hopen
              · simpa [htype] using hdeeds
            simp [hempty, Event.news]
          · rcases hkind with ⟨htype, _⟩ | ⟨htype, _⟩ | ⟨htype, _⟩ <;> simp [htype]
        | some l =>
          refine iff_of_false (hnews ?_) ?_
          · obtain ⟨htype, hbody⟩ | ⟨htype, hbody⟩ | ⟨htype, hbody⟩ := hkind
            · simp only [htype, hroutes, hbody] at hdeeds
              obtain rfl | rfl := hdeeds <;> simp
            · simp only [htype, hroutes, hbody] at hdeeds
              obtain rfl | rfl := hdeeds <;> simp
            · simp only [htype, hroutes, hbody] at hdeeds
              rw [if_pos ⟨trivial, rfl⟩] at hdeeds
              simp [hdeeds]
          · rintro (hknown | hblocked | ⟨_, hstranger⟩)
            · exact hknown hzero
            · exact hunblocked hblocked
            · rw [hfind] at hstranger
              cases hstranger

namespace Deployment

/-- A node has broadcast this with one of the four originators. -/
def Originates {ι : Type} (D : Deployment ι) (i : ι) (msg : Datagram) : Prop :=
  ∃ s s' call, s.my_uid = D.uid i ∧ Call.originates call = true ∧ call.run s = .ok s' ∧
    msg ∈ s.transmitted s'

/-- A reception of a package that goes back to a broadcast of its receiver. -/
def Returns {ι : Type} (D : Deployment ι) (a : Arrival ι Node Datagram) : Prop :=
  ∃ msg, D.Originates a.receiver msg ∧ a.packet.root = .origin a.receiver msg

/-- In a reception the receiver prints nothing, passes nothing on and enters no
route for itself. -/
def Ignores {ι : Type} (D : Deployment ι) (a : Arrival ι Node Datagram) : Prop :=
  ∀ e ∈ a.before.since a.after, e.news (D.uid a.receiver) = false

/-- Whatever a broadcast has been passed on as still spreads. -/
theorem spreads {ι : Type} [DecidableEq ι] {D : Deployment ι} {c : Config ι Node Datagram}
    (h : Reachable D.protocol c) {i : ι} {msg : Datagram} (horiginates : D.Originates i msg)
    {m : Packet ι Datagram} (hm : m ∈ c.air) (hroot : m.root = .origin i msg) :
    m.msg.package.Spreads (D.uid i) ∧ m.msg.package.rid = msg.package.rid := by
  induction m with
  | origin j msg' =>
    obtain ⟨s, s', call, huid, hkind, hcall, hmem⟩ := horiginates
    obtain ⟨rfl, rfl⟩ := Packet.origin.inj hroot
    rw [← huid]
    exact ⟨Call.originates_spreads hkind hcall hmem, rfl⟩
  | copy j msg' received ih =>
    obtain ⟨hspreads, hrid⟩ := ih (h.copy_source hm) hroot
    obtain ⟨a, _, _, rfl, deeds, hheard, hdeed⟩ := copy_deed h hm
    rw [Packet.copy_msg]
    generalize msg'.package = q, msg'.dest = dest at hdeed
    cases hheard.outcome.mem hdeed with
    | relay l hintermediate =>
      rw [hspreads.direct] at hintermediate
      cases hintermediate
    | handled _ _ hdeed =>
      cases hdeed with
      | flood => exact ⟨hspreads.forwarded, by rw [Package.forwarded_rid, hrid]⟩

/-- A node ignores its own broadcast exactly when it recognises it. -/
theorem ignores_iff {ι : Type} [DecidableEq ι] {D : Deployment ι} {c : Config ι Node Datagram}
    (h : Reachable D.protocol c) {a : Arrival ι Node Datagram} (ha : a ∈ c.arrivals)
    (hreturns : D.Returns a) :
    D.Ignores a ↔ a.before.Recognises a.packet.msg.package (D.uid a.packet.sender) := by
  obtain ⟨msg, horiginates, hroot⟩ := hreturns
  obtain ⟨deeds, hheard⟩ := heard h ha
  rw [← hheard.outcome.news_iff (spreads h horiginates (h.arrival ha).1 hroot).1]
  refine ⟨fun hignores e he => hignores e (hheard.deed_mem he), fun hnone e he => ?_⟩
  · obtain rfl | hdeed | ⟨hown, _⟩ := hheard.mem he
    · rfl
    · exact hnone e hdeed
    · cases hnews : e.news (D.uid a.receiver) with
      | false => rfl
      | true =>
        rw [Event.news_deed hnews] at hown
        cases hown

/-- In a run no node treats its own broadcasts as new exactly when each is
recognised whenever it comes back. -/
theorem own_packages_ignored_iff {ι : Type} [DecidableEq ι] {D : Deployment ι}
    {c : Config ι Node Datagram} (h : Reachable D.protocol c) :
    (∀ a ∈ c.arrivals, D.Returns a → D.Ignores a) ↔
      ∀ a ∈ c.arrivals, D.Returns a →
        a.before.Recognises a.packet.msg.package (D.uid a.packet.sender) :=
  forall₂_congr fun _ ha => forall_congr' fun hreturns => ignores_iff h ha hreturns

/-- The reception of the first node's greeting when the second one has passed
it on. -/
def pairReturn : Arrival (Fin 2) Node Datagram where
  receiver := 0
  packet := .copy 1 pairGreeting (.origin 0 pairGreeting)
  before := pairGreeted
  after := received pairGreeted pairGreeting.package (pair.uid 1)

set_option maxRecDepth 20000 in
theorem pair_returned : ∃ c, Reachable pair.protocol c ∧ pairReturn ∈ c.arrivals := by
  have hreturn : pair.protocol.receive 0 pairGreeted 1 pairGreeting _ [(true, pairGreeting)] :=
    pair_receive (by decide) (by decide)
  exact ⟨_, pair_passed.step (.receive (i := 0) (m := pairReturn.packet) (by simp [pairPassed, pairReturn])
    ⟨pair_adj (by decide), .inr rfl⟩ hreturn), List.mem_append_right _ (List.mem_singleton_self _)⟩

set_option maxRecDepth 20000 in
theorem pairReturn_returns : pair.Returns pairReturn :=
  ⟨pairGreeting, ⟨pairNode 0, pairGreeted, .send_broadcast_msg [104, 105], rfl, rfl,
    called_eq (by decide), by decide⟩, rfl⟩

set_option maxRecDepth 20000 in
theorem pairReturn_prints :
    Event.message "broadcast msg" none [104, 105] ∈ pairReturn.before.since pairReturn.after := by
  decide

set_option maxRecDepth 20000 in
/-- The first node of the pair prints its own greeting and passes it on. -/
theorem pair_prints_own : ∃ c, Reachable pair.protocol c ∧
    ∃ a ∈ c.arrivals, pair.Returns a ∧ ¬ pair.Ignores a ∧
      .message "broadcast msg" none [104, 105] ∈ a.before.since a.after ∧
        .send_package .process pairGreeting.package broadcast_uid ∈ a.before.since a.after := by
  obtain ⟨c, hreach, hmem⟩ := pair_returned
  refine ⟨c, hreach, _, hmem, pairReturn_returns, fun hignores => ?_, pairReturn_prints, by decide⟩
  cases hignores _ pairReturn_prints

/-- It does so because it does not recognise it. -/
theorem pair_own_unrecognised : ∃ c, Reachable pair.protocol c ∧
    ¬ ∀ a ∈ c.arrivals, pair.Returns a →
      a.before.Recognises a.packet.msg.package (pair.uid a.packet.sender) := by
  obtain ⟨c, hreach, hmem⟩ := pair_returned
  refine ⟨c, hreach, fun hall => ?_⟩
  have hignores := (own_packages_ignored_iff hreach).mpr hall _ hmem pairReturn_returns
  cases hignores _ pairReturn_prints

end Deployment

end concretid.ems
