import ConcretID.Ems.Calls
import ConcretID.Ems.Neighbors.History
import ConcretID.Library.Network

open concretid.network

namespace concretid.ems

/-- Nodes with their addresses, and which of them hear which. -/
structure Deployment (ι : Type) where
  uid : ι → Uid
  adj : ι → ι → Prop
  uid_injective : Function.Injective uid
  uid_ne_broadcast : ∀ i, uid i ≠ broadcast_uid
  uid_ne_null : ∀ i, uid i ≠ null_uid

/-- A transmission; the flag says whether it is sent from the receive buffer. -/
def Event.transmission? : Event → Option (Bool × Datagram)
  | .send_package b package dest => some (b == .process, { package, dest })
  | _ => none

theorem Event.sent?_eq (e : Event) : e.sent? = e.transmission?.map Prod.snd := by
  cases e <;> rfl

namespace Node

/-- The calls between two states of a node. -/
def since (before after : Node) : List Event := after.trace.drop before.trace.length

/-- A node that has just been switched on, with nothing saved. -/
def Booted (uid : Uid) (s : Node) : Prop :=
  ∃ name random, s = boot uid (init_settings name) random

end Node

/-- The nodes of a deployment as a protocol. A package reaches those that hear
its sender and that it is addressed to. -/
def Deployment.protocol {ι : Type} (D : Deployment ι) : Protocol ι Node Datagram where
  start i s := Node.Booted (D.uid i) s
  act _ s s' out := ∃ call, Call.run s call = .ok s' ∧ out = s.transmitted s'
  receive _ s j m s' out :=
    s.process_package m.package m.package.size (D.uid j) = .ok s' ∧
      out = (s.since s').filterMap Event.transmission?
  hears i j m := D.adj i j ∧ (m.dest = D.uid j ∨ m.dest = broadcast_uid)

namespace Node

/-! ## One node's history -/

theorem Acts.since_eq {s s' : Node} {new : List Event} (h : Acts s s' new) : s.since s' = new := by
  rw [since, h.trace_eq, List.drop_left]

theorem Acts.grows {s s' : Node} {new : List Event} (h : Acts s s' new) : s.trace <+: s'.trace :=
  ⟨new, h.trace_eq.symm⟩

/-- What a node's history says about its state. -/
structure Lives (uid : Uid) (s : Node) : Prop where
  acts : ∃ s₀, Booted uid s₀ ∧ Acts s₀ s s.trace

theorem Lives.of_booted {uid : Uid} {s : Node} (h : Booted uid s) : Lives uid s := by
  refine ⟨s, h, ?_⟩
  obtain ⟨name, random, rfl⟩ := h
  exact .refl _

theorem Lives.step {uid : Uid} {s s' : Node} {new : List Event} (h : Lives uid s)
    (hacts : Acts s s' new) : Lives uid s' := by
  obtain ⟨s₀, hbooted, hlived⟩ := h.acts
  refine ⟨s₀, hbooted, ?_⟩
  rw [hacts.trace_eq]
  exact hlived.trans hacts

theorem Lives.my_uid_eq {uid : Uid} {s : Node} (h : Lives uid s) : s.my_uid = uid := by
  obtain ⟨s₀, ⟨name, random, rfl⟩, hacts⟩ := h.acts
  exact hacts.my_uid_eq

/-- The received ids are what the history registered. -/
theorem Lives.rids_eq {uid : Uid} {s : Node} (h : Lives uid s) :
    s.rids = (s.trace.filterMap Event.registered?).foldl RidTable.register_rid .zero := by
  obtain ⟨s₀, ⟨name, random, rfl⟩, hacts⟩ := h.acts
  exact hacts.rids_eq

/-- The settings a node boots with let its slots count. -/
theorem init_timing_proper (name : Name) : (init_settings name).timing.Proper := by
  have hname : (init_settings name).timing = (init_settings (nameOf [])).timing := rfl
  rw [hname]
  exact ⟨by decide, by decide⟩

theorem Lives.timing_proper {uid : Uid} {s : Node} (h : Lives uid s) : s.me.timing.Proper := by
  obtain ⟨s₀, ⟨name, random, rfl⟩, hacts⟩ := h.acts
  rw [hacts.timing_eq]
  exact init_timing_proper name

/-- Each slot has been through a run of its machine since it was free at first. -/
theorem Lives.slot_run {uid : Uid} {s : Node} (h : Lives uid s) (i : Fin SENDOUT_QTY) :
    ∃ timing a, Timing.Proper timing ∧ a.time = 0 ∧
      SlotRun timing uid i a (s.trace.filter (Event.ofSlot i)) (s.sendout_package i) := by
  obtain ⟨s₀, ⟨name, random, rfl⟩, hacts⟩ := h.acts
  exact ⟨_, _, init_timing_proper name, rfl, hacts.slot i⟩

theorem Lives.neighbors {uid : Uid} {s : Node} (h : Lives uid s) :
    Transmission.initial.neighborhood.Run (s.trace.filter Event.ages)
      s.transmission.neighborhood := by
  obtain ⟨s₀, ⟨name, random, rfl⟩, hacts⟩ := h.acts
  exact hacts.neighbors

/-- Every slot holds the null address or a uid the node has registered. -/
theorem Lives.neighbor_cases {uid : Uid} {s : Node} (h : Lives uid s) (x : Slot) :
    s.transmission.neighbor x = null_uid ∨
      .register_neighbor (s.transmission.neighbor x) ∈ s.trace := by
  obtain hnull | hmem := h.neighbors.uid_cases x
  · exact .inl hnull
  · exact .inr (List.mem_filter.mp hmem).1

/-- The calls between two states are the deeds and what the node did of its own. -/
theorem Handles.mem {c : Context} {s s' : Node} {deeds : List Event} (h : Handles c s s' deeds)
    {e : Event} (he : e ∈ s.since s') : e ∈ deeds ∨ (e.deed = false ∧ Own c e) := by
  obtain ⟨new, hacts, hown, _, rfl⟩ := h
  rw [hacts.since_eq] at he
  cases hdeed : e.deed with
  | true => exact .inl (List.mem_filter.mpr ⟨he, hdeed⟩)
  | false => exact .inr ⟨rfl, hown e he hdeed⟩

theorem Handles.headed {c : Context} {s s' : Node} {deeds : List Event} (h : Handles c s s' deeds) :
    Headed (s.since s') := by
  obtain ⟨new, hacts, _, hheaded, _⟩ := h
  rwa [hacts.since_eq]

theorem Handles.acts {c : Context} {s s' : Node} {deeds : List Event} (h : Handles c s s' deeds) :
    Acts s s' (s.since s') := by
  obtain ⟨new, hacts, _⟩ := h
  rwa [hacts.since_eq]

/-- All deeds are among the calls. -/
theorem Handles.deed_mem {c : Context} {s s' : Node} {deeds : List Event} (h : Handles c s s' deeds)
    {e : Event} (he : e ∈ deeds) : e ∈ s.since s' ∧ e.deed = true := by
  obtain ⟨new, hacts, _, _, rfl⟩ := h
  rw [hacts.since_eq]
  exact List.mem_filter.mp he

/-- Calls of a kind that a node does not do of its own are the deeds of that kind. -/
theorem Handles.filter_eq {c : Context} {s s' : Node} {deeds : List Event} (h : Handles c s s' deeds)
    {q : Event → Bool} (hq : ∀ e, q e = true → e.deed = true) :
    (s.since s').filter q = deeds.filter q := by
  obtain ⟨new, hacts, _, _, rfl⟩ := h
  rw [hacts.since_eq, List.filter_filter]
  refine List.filter_congr fun e _ => ?_
  cases hqe : q e with
  | true => simp [hq e hqe]
  | false => simp

theorem Handles.countP_eq {c : Context} {s s' : Node} {deeds : List Event} (h : Handles c s s' deeds)
    {q : Event → Bool} (hq : ∀ e, q e = true → e.deed = true) :
    (s.since s').countP q = deeds.countP q := by
  rw [List.countP_eq_length_filter, h.filter_eq hq, ← List.countP_eq_length_filter]

/-- The ids a call registers are those of its deeds. -/
theorem Handles.registered_eq {c : Context} {s s' : Node} {deeds : List Event}
    (h : Handles c s s' deeds) :
    (s.since s').filterMap Event.registered? = deeds.filterMap Event.registered? := by
  obtain ⟨new, hacts, _, _, rfl⟩ := h
  rw [hacts.since_eq, List.filterMap_filter]
  refine List.filterMap_congr fun e _ => ?_
  cases e with
  | send_package b _ _ => cases b <;> rfl
  | _ => rfl

/-- What is sent from the receive buffer is a deed. -/
theorem Handles.copied {c : Context} {s s' : Node} {deeds : List Event} (h : Handles c s s' deeds)
    {m : Datagram} (hm : (true, m) ∈ (s.since s').filterMap Event.transmission?) :
    .send_package .process m.package m.dest ∈ deeds := by
  obtain ⟨e, he, hsent⟩ := List.mem_filterMap.mp hm
  have heq : e = .send_package .process m.package m.dest := by
    cases e <;> simp [Event.transmission?] at hsent
    simp [hsent.1, ← hsent.2]
  rw [heq] at he
  obtain hdeed | ⟨hown, _⟩ := h.mem he
  · exact hdeed
  · cases hown

/-- What a call does not do. -/
theorem call_deed {call : Call} {e : Event} (he : e ∈ call.deeds) :
    e = .check_send_out ∨ e = .check_transmission ∨ ∃ cmd, e = .execute_cmd cmd := by
  cases call <;> simp [Call.deeds] at he <;> simp [he]

end Node

open Node

/-- A node of a deployment with what its history has been. -/
structure Deployment.Settled {ι : Type} (D : Deployment ι) (i : ι) (s : Node) : Prop where
  lives : Lives (D.uid i) s
  registered : ∀ uid, .register_neighbor uid ∈ s.trace → ∃ j, uid = D.uid j
  headed : Headed s.trace

namespace Deployment

/-- Whoever a node keeps as a neighbour is a node. -/
theorem Settled.neighbor_cases {ι : Type} {D : Deployment ι} {i : ι} {s : Node} (h : D.Settled i s)
    (x : Slot) : s.transmission.neighbor x = null_uid ∨ ∃ j, s.transmission.neighbor x = D.uid j :=
  (h.lives.neighbor_cases x).imp_right (h.registered _)

theorem Settled.neighbor_ne_broadcast {ι : Type} {D : Deployment ι} {i : ι} {s : Node}
    (h : D.Settled i s) (x : Slot) : s.transmission.neighbor x ≠ broadcast_uid := by
  obtain hnull | ⟨j, hj⟩ := h.neighbor_cases x
  · rw [hnull]
    decide
  · rw [hj]
    exact D.uid_ne_broadcast j

theorem Settled.of_booted {ι : Type} {D : Deployment ι} {i : ι} {s : Node}
    (h : D.protocol.start i s) : D.Settled i s := by
  refine ⟨.of_booted h, fun uid hmem => ?_, ?_⟩ <;> obtain ⟨name, random, rfl⟩ := h
  · cases hmem
  · exact .nil

theorem Settled.step {ι : Type} {D : Deployment ι} {i : ι} {s s' : Node} (h : D.Settled i s)
    (hacts : Acts s s' (s.since s'))
    (hregistered : ∀ uid, .register_neighbor uid ∈ s.since s' → ∃ j, uid = D.uid j)
    (hheaded : Headed (s.since s')) : D.Settled i s' := by
  refine ⟨h.lives.step hacts, fun uid hmem => ?_, ?_⟩ <;> rw [hacts.trace_eq] at *
  · obtain hold | hnew := List.mem_append.mp hmem
    · exact h.registered uid hold
    · exact hregistered uid hnew
  · exact h.headed.append hheaded

theorem Settled.act {ι : Type} {D : Deployment ι} {i : ι} {s s' : Node} {out : List Datagram}
    (h : D.Settled i s) (hact : D.protocol.act i s s' out) : D.Settled i s' := by
  obtain ⟨call, hcall, _⟩ := hact
  have hhandles := Call.handles hcall
  refine h.step hhandles.acts (fun uid hmem => ?_) hhandles.headed
  obtain hdeed | ⟨hown, _⟩ := hhandles.mem hmem
  · obtain heq | heq | ⟨cmd, heq⟩ := call_deed hdeed <;> cases heq
  · cases hown

theorem Settled.receive {ι : Type} {D : Deployment ι} {i j : ι} {s s' : Node} {m : Datagram}
    {out : List (Bool × Datagram)} (h : D.Settled i s) (hreceive : D.protocol.receive i s j m s' out) :
    D.Settled i s' := by
  obtain ⟨deeds, hhandles, houtcome⟩ := process_package_outcome hreceive.1
  refine h.step hhandles.acts (fun uid hmem => ⟨j, ?_⟩) hhandles.headed
  obtain hdeed | ⟨hown, _⟩ := hhandles.mem hmem
  · obtain heq | hdeed := List.mem_cons.mp hdeed
    · cases heq
    · cases houtcome.mem hdeed with
      | handled hdirect hnew hdeed =>
        cases hdeed
        rfl
  · cases hown

theorem settled {ι : Type} [DecidableEq ι] {D : Deployment ι} {c : Config ι Node Datagram}
    (h : Reachable D.protocol c) (i : ι) : D.Settled i (c.node i) :=
  h.node_invariant (fun _ _ => .of_booted) (fun _ _ _ _ hs hact => hs.act hact)
    (fun _ _ _ _ _ _ hs hreceive => hs.receive hreceive) i

/-! ## Receptions -/

/-- What a node may do of its own while it handles a package with these deeds. -/
def replyContext {ι : Type} (D : Deployment ι) (a : Arrival ι Node Datagram)
    (deeds : List Event) : Context :=
  a.before.context (· = D.uid a.packet.sender) fun r =>
    r = a.packet.msg.package.rid ∧ a.packet.msg.package.intermediate = false ∧ deeds ≠ []

/-- A reception in a run with the deeds it came to. -/
structure Heard {ι : Type} (D : Deployment ι) (a : Arrival ι Node Datagram)
    (deeds : List Event) : Prop where
  settled : D.Settled a.receiver a.before
  adj : D.adj a.packet.sender a.receiver
  dest : a.packet.msg.dest = D.uid a.receiver ∨ a.packet.msg.dest = broadcast_uid
  handles : Handles (D.replyContext a deeds) a.before a.after
    (.process_package a.packet.msg.package (D.uid a.packet.sender) :: deeds)
  outcome : Outcome a.before a.packet.msg.package (D.uid a.packet.sender) deeds

theorem heard {ι : Type} [DecidableEq ι] {D : Deployment ι} {c : Config ι Node Datagram}
    (h : Reachable D.protocol c) {a : Arrival ι Node Datagram} (ha : a ∈ c.arrivals) :
    ∃ deeds, D.Heard a deeds := by
  obtain ⟨_, ⟨hadj, hdest⟩, out, hcall, _⟩ := h.arrival ha
  have hsettled := (h.arrival_invariant (I := D.Settled) (fun _ _ => .of_booted)
    (fun _ _ _ _ hs hact => hs.act hact) (fun _ _ _ _ _ _ hs hreceive => hs.receive hreceive) ha).1
  obtain ⟨deeds, hhandles, houtcome⟩ := process_package_outcome hcall
  exact ⟨deeds, hsettled, hadj, hdest, hhandles, houtcome⟩

/-- A call made during a reception is the reception itself, one of its deeds, or
something the node does of its own. -/
theorem Heard.mem {ι : Type} {D : Deployment ι} {a : Arrival ι Node Datagram} {deeds : List Event}
    (h : D.Heard a deeds) {e : Event} (he : e ∈ a.before.since a.after) :
    e = .process_package a.packet.msg.package (D.uid a.packet.sender) ∨ e ∈ deeds ∨
      (e.deed = false ∧ Own (D.replyContext a deeds) e) := by
  obtain hdeed | hown := h.handles.mem he
  · obtain heq | hmem := List.mem_cons.mp hdeed
    · exact .inl heq
    · exact .inr (.inl hmem)
  · exact .inr (.inr hown)

/-- What a call that returns does to a node's history. -/
theorem act_prefix {ι : Type} {D : Deployment ι} {i : ι} {s s' : Node} {out : List Datagram}
    (hact : D.protocol.act i s s' out) : s.trace <+: s'.trace := by
  obtain ⟨call, hcall, _⟩ := hact
  exact (Call.handles hcall).acts.grows

theorem receive_prefix {ι : Type} {D : Deployment ι} {i j : ι} {s s' : Node} {m : Datagram}
    {out : List (Bool × Datagram)} (hreceive : D.protocol.receive i s j m s' out) :
    s.trace <+: s'.trace := by
  obtain ⟨deeds, hhandles, _⟩ := process_package_outcome hreceive.1
  exact hhandles.acts.grows

/-- A node's receptions come one after the other. -/
theorem ordered {ι : Type} [DecidableEq ι] {D : Deployment ι} {c : Config ι Node Datagram}
    (h : Reachable D.protocol c) :
    (∀ a ∈ c.arrivals, a.after.trace <+: (c.node a.receiver).trace) ∧
      c.arrivals.Pairwise fun a b => a.receiver = b.receiver → a.after.trace <+: b.before.trace :=
  h.arrivals_ordered (fun s s' => s.trace <+: s'.trace) (fun _ => List.prefix_refl _)
    (fun _ _ _ => List.IsPrefix.trans) (fun _ _ _ _ => act_prefix) fun _ _ _ _ _ _ => receive_prefix

theorem Heard.deed_mem {ι : Type} {D : Deployment ι} {a : Arrival ι Node Datagram}
    {deeds : List Event} (h : D.Heard a deeds) {e : Event} (he : e ∈ deeds) :
    e ∈ a.before.since a.after :=
  (h.handles.deed_mem (List.mem_cons_of_mem _ he)).1

/-! ## Where calls and packages come from -/

/-- A call in a node's history was made by the node on its own, is one of the
calls it started, or was made in a reception. -/
theorem event_cases {ι : Type} [DecidableEq ι] {D : Deployment ι} {c : Config ι Node Datagram}
    (h : Reachable D.protocol c) {i : ι} {e : Event} (he : e ∈ (c.node i).trace) :
    (∃ s, D.Settled i s ∧ Own s.alone e) ∨
      (e = .check_send_out ∨ e = .check_transmission ∨ ∃ cmd, e = .execute_cmd cmd) ∨
      ∃ a ∈ c.arrivals, a.receiver = i ∧ e ∈ a.before.since a.after := by
  have hevent := h.event (I := D.Settled) Node.trace (fun _ _ => .of_booted)
    (fun _ _ _ _ hs hact => hs.act hact) (fun _ _ _ _ _ _ hs hreceive => hs.receive hreceive)
    ?_ (fun _ _ _ _ => act_prefix) (fun _ _ _ _ _ _ => receive_prefix) he
  · obtain ⟨s, s', out, hsettled, ⟨call, hcall, _⟩, hmem⟩ | harrival := hevent
    · obtain hdeed | ⟨_, hown⟩ := (Call.handles hcall).mem hmem
      · exact .inr (.inl (call_deed hdeed))
      · exact .inl ⟨s, hsettled, hown⟩
    · exact .inr (.inr harrival)
  · rintro j s ⟨name, random, rfl⟩
    rfl

/-- A node's history shows exactly what it has put on the air, and which of it
was sent from the receive buffer. -/
theorem sent {ι : Type} [DecidableEq ι] {D : Deployment ι} {c : Config ι Node Datagram}
    (h : Reachable D.protocol c) (i : ι) :
    (c.air.filter fun m => m.sender = i).map (fun m => (m.copied, m.msg)) =
      (c.node i).trace.filterMap Event.transmission? := by
  refine h.sent (fun s => s.trace.filterMap Event.transmission?) ?_ ?_ ?_ i
  · rintro j s ⟨name, random, rfl⟩
    rfl
  · rintro j s s' out ⟨call, hcall, rfl⟩
    have hhandles := Call.handles hcall
    rw [hhandles.acts.trace_eq, List.filterMap_append, transmitted, ← since, List.map_filterMap]
    refine congrArg _ (List.filterMap_congr fun e he => ?_)
    rw [Event.sent?_eq]
    cases hsent : e.transmission? with
    | none => rfl
    | some sent =>
      obtain ⟨flag, m⟩ := sent
      cases flag with
      | false => rfl
      | true =>
        have hdeed : e.deed = true ∧ ¬ ∃ cmd, e = .execute_cmd cmd := by
          cases e <;> simp [Event.transmission?] at hsent
          simp [hsent.1, Event.deed]
        obtain hmem | ⟨hown, _⟩ := hhandles.mem he
        · obtain rfl | rfl | hcmd := call_deed hmem
          · cases hsent
          · cases hsent
          · exact absurd hcmd hdeed.2
        · rw [hdeed.1] at hown
          cases hown
  · rintro j s k m s' out ⟨hcall, rfl⟩
    obtain ⟨deeds, hhandles, _⟩ := process_package_outcome hcall
    rw [hhandles.acts.trace_eq, List.filterMap_append]

/-- Every package on the air was sent by its sender, from the receive buffer if
it is a copy. -/
theorem packet_event {ι : Type} [DecidableEq ι] {D : Deployment ι} {c : Config ι Node Datagram}
    (h : Reachable D.protocol c) {m : Packet ι Datagram} (hm : m ∈ c.air) :
    ∃ b, .send_package b m.msg.package m.msg.dest ∈ (c.node m.sender).trace ∧
      (b == .process) = m.copied := by
  have hmem : (m.copied, m.msg) ∈ (c.node m.sender).trace.filterMap Event.transmission? := by
    rw [← sent h m.sender]
    exact List.mem_map_of_mem (List.mem_filter.mpr ⟨hm, by simp⟩)
  obtain ⟨e, he, hsent⟩ := List.mem_filterMap.mp hmem
  cases e <;> simp [Event.transmission?] at hsent
  rename_i b package dest
  obtain ⟨hb, hmsg⟩ := hsent
  rw [← hmsg]
  exact ⟨b, he, hb⟩

/-- Every package a node has sent is on the air. -/
theorem event_packet {ι : Type} [DecidableEq ι] {D : Deployment ι} {c : Config ι Node Datagram}
    (h : Reachable D.protocol c) {i : ι} {b : Buffer} {p : Package} {dest : Uid}
    (he : .send_package b p dest ∈ (c.node i).trace) :
    ∃ m ∈ c.air, m.sender = i ∧ m.msg = { package := p, dest } ∧ m.copied = (b == .process) := by
  have hmem : (b == .process, ({ package := p, dest } : Datagram)) ∈
      (c.air.filter fun m => m.sender = i).map (fun m => (m.copied, m.msg)) := by
    rw [sent h i]
    exact List.mem_filterMap.mpr ⟨_, he, rfl⟩
  obtain ⟨m, hm, hsent⟩ := List.mem_map.mp hmem
  obtain ⟨hair, hsender⟩ := List.mem_filter.mp hm
  simp only [Prod.mk.injEq] at hsent
  exact ⟨m, hair, by simpa using hsender, hsent.2, hsent.1⟩

/-- A package that is no copy was sent by its sender of its own: when it was
alone, or in a reception. -/
theorem origin_own {ι : Type} [DecidableEq ι] {D : Deployment ι} {c : Config ι Node Datagram}
    (h : Reachable D.protocol c) {i : ι} {msg : Datagram} (hm : Packet.origin i msg ∈ c.air) :
    ∃ b, b ≠ .process ∧ .send_package b msg.package msg.dest ∈ (c.node i).trace ∧
      ((∃ s, D.Settled i s ∧ Own s.alone (.send_package b msg.package msg.dest)) ∨
        ∃ a ∈ c.arrivals, a.receiver = i ∧ ∃ deeds, D.Heard a deeds ∧
          Own (D.replyContext a deeds) (.send_package b msg.package msg.dest)) := by
  obtain ⟨b, he, hb⟩ := packet_event h hm
  have hb' : b ≠ .process := by
    rintro rfl
    cases hb
  have hdeed : Event.deed (.send_package b msg.package msg.dest) = false := by
    cases b with
    | process => exact absurd rfl hb'
    | messages => rfl
    | sendout => rfl
  refine ⟨b, hb', he, ?_⟩
  obtain halone | hcall | ⟨a, ha, hreceiver, hmem⟩ := event_cases h he
  · exact .inl halone
  · obtain heq | heq | ⟨cmd, heq⟩ := hcall <;> cases heq
  · obtain ⟨deeds, hheard⟩ := heard h ha
    refine .inr ⟨a, ha, hreceiver, deeds, hheard, ?_⟩
    obtain heq | hdone | ⟨_, hown⟩ := hheard.mem hmem
    · cases heq
    · have htrue := (hheard.handles.deed_mem (List.mem_cons_of_mem _ hdone)).2
      rw [Packet.origin_msg, hdeed] at htrue
      cases htrue
    · exact hown

/-- A copy was sent in a reception of what it is a copy of, as one of its deeds. -/
theorem copy_deed {ι : Type} [DecidableEq ι] {D : Deployment ι} {c : Config ι Node Datagram}
    (h : Reachable D.protocol c) {i : ι} {msg : Datagram} {m : Packet ι Datagram}
    (hm : Packet.copy i msg m ∈ c.air) :
    ∃ a ∈ c.arrivals, a.receiver = i ∧ a.packet = m ∧ ∃ deeds, D.Heard a deeds ∧
      .send_package .process msg.package msg.dest ∈ deeds := by
  obtain ⟨a, ha, hreceiver, hpacket, out, ⟨_, rfl⟩, hmem⟩ := h.copy hm
  obtain ⟨deeds, hheard⟩ := heard h ha
  refine ⟨a, ha, hreceiver, hpacket, deeds, hheard, ?_⟩
  obtain heq | hdeed := List.mem_cons.mp (hheard.handles.copied hmem)
  · cases heq
  · exact hdeed

/-! ## Two nodes that hear each other -/

/-- The node after a call of its own. -/
def called (s : Node) (call : Call) : Node :=
  match call.run s with
  | .ok s' => s'
  | .error _ => s

/-- The node after a package has come from `src`. -/
def received (s : Node) (p : Package) (src : Uid) : Node :=
  match s.process_package p p.size src with
  | .ok s' => s'
  | .error _ => s

def pair : Deployment (Fin 2) where
  uid i := linkLocal 0 (if i = 0 then 1 else 2)
  adj i j := i ≠ j
  uid_injective := by decide
  uid_ne_broadcast := by decide
  uid_ne_null := by decide

/-- The nodes of the pair as they are switched on. -/
def pairNode (i : Fin 2) : Node :=
  boot (pair.uid i) (init_settings (nameOf [])) fun n =>
    UInt8.ofNat (n + if i = 0 then 1 else 101)

theorem pair_adj {i j : Fin 2} (h : i ≠ j) : pair.adj i j := h

theorem called_eq {s : Node} {call : Call} (hok : (call.run s).toBool = true) :
    call.run s = .ok (called s call) := by
  obtain ⟨s', hs'⟩ := exists_ok hok
  rw [called, hs']

theorem received_eq {s : Node} {p : Package} {src : Uid}
    (hok : (s.process_package p p.size src).toBool = true) :
    s.process_package p p.size src = .ok (received s p src) := by
  obtain ⟨s', hs'⟩ := exists_ok hok
  rw [received, hs']

/-- A call that goes through is a step of the node. -/
theorem pair_act {i : Fin 2} {s : Node} {k : Call} {o : List Datagram}
    (hok : (k.run s).toBool = true) (hout : s.transmitted (called s k) = o) :
    pair.protocol.act i s (called s k) o :=
  ⟨k, called_eq hok, hout.symm⟩

/-- A reception that goes through is a step of the receiver. -/
theorem pair_receive {i j : Fin 2} {s : Node} {m : Datagram} {o : List (Bool × Datagram)}
    (hok : (s.process_package m.package m.package.size (pair.uid j)).toBool = true)
    (hout : (s.since (received s m.package (pair.uid j))).filterMap Event.transmission? = o) :
    pair.protocol.receive i s j m (received s m.package (pair.uid j)) o := by
  exact ⟨received_eq hok, hout.symm⟩

theorem pair_start : Reachable pair.protocol { node := pairNode, air := [], arrivals := [] } :=
  .start fun _ => ⟨_, _, rfl⟩

/-- The pair comes to be in these states in some run, with a package on the air. -/
def PairAt (first second : Node) (m : Packet (Fin 2) Datagram) : Prop :=
  ∃ c, Reachable pair.protocol c ∧ c.node 0 = first ∧ c.node 1 = second ∧ m ∈ c.air

theorem PairAt.start {s' : Node} {msg : Datagram}
    (hact : pair.protocol.act 0 (pairNode 0) s' [msg]) : PairAt s' (pairNode 1) (.origin 0 msg) :=
  ⟨_, pair_start.step (.act hact), by simp, rfl, by simp⟩

theorem PairAt.call {s s' t : Node} {m : Packet (Fin 2) Datagram} {msg : Datagram}
    (h : PairAt s t m) (hact : pair.protocol.act 0 s s' [msg]) : PairAt s' t (.origin 0 msg) := by
  obtain ⟨c, hreach, rfl, rfl, _⟩ := h
  exact ⟨_, hreach.step (.act hact), by simp, rfl, by simp⟩

/-- The first node receives a package of the second one, which may be followed
by another. -/
theorem PairAt.first {s s' t : Node} {m m' : Packet (Fin 2) Datagram}
    {out : List (Bool × Datagram)} (h : PairAt s t m) (hsender : m.sender = 1)
    (hdest : m.msg.dest = pair.uid 0 ∨ m.msg.dest = broadcast_uid)
    (hreceive : pair.protocol.receive 0 s 1 m.msg s' out) (hnext : m' ∈ m :: out.map (emitted 0 m)) :
    PairAt s' t m' := by
  obtain ⟨c, hreach, rfl, rfl, hair⟩ := h
  rw [← hsender] at hreceive
  refine ⟨_, hreach.step (.receive hair ⟨?_, hdest⟩ hreceive), by simp, rfl, ?_⟩
  · rw [hsender]
    exact pair_adj (by decide)
  · obtain rfl | hnew := List.mem_cons.mp hnext
    · exact List.mem_append_left _ hair
    · exact List.mem_append_right _ hnew

theorem PairAt.second {s t t' : Node} {m m' : Packet (Fin 2) Datagram}
    {out : List (Bool × Datagram)} (h : PairAt s t m) (hsender : m.sender = 0)
    (hdest : m.msg.dest = pair.uid 1 ∨ m.msg.dest = broadcast_uid)
    (hreceive : pair.protocol.receive 1 t 0 m.msg t' out) (hnext : m' ∈ m :: out.map (emitted 1 m)) :
    PairAt s t' m' := by
  obtain ⟨c, hreach, rfl, rfl, hair⟩ := h
  rw [← hsender] at hreceive
  refine ⟨_, hreach.step (.receive hair ⟨?_, hdest⟩ hreceive), rfl, by simp, ?_⟩
  · rw [hsender]
    exact pair_adj (by decide)
  · obtain rfl | hnew := List.mem_cons.mp hnext
    · exact List.mem_append_left _ hair
    · exact List.mem_append_right _ hnew

end Deployment

end concretid.ems
