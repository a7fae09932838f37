import ConcretID.Ems.Retention

open concretid.network

namespace concretid.ems

/-- Whether a call passes on a package with this id from the receive buffer. -/
def Event.passes (rid : Rid) : Event → Bool
  | .send_package .process p _ => p.rid == rid
  | _ => false

theorem Event.passes_relays {rid : Rid} {e : Event} (h : e.passes rid = true) :
    e.relays = true := by
  unfold Event.passes at h
  split at h
  · rfl
  · cases h

theorem Event.relays_deed {e : Event} (h : e.relays = true) : e.deed = true := by
  unfold Event.relays at h
  split at h
  · rfl
  · cases h

/-- What is passed on keeps its id. -/
theorem Outcome.passes_rid {s : Node} {p : Package} {src : Uid} {deeds : List Event}
    (h : Outcome s p src deeds) {rid : Rid} {e : Event} (he : e ∈ deeds)
    (hpasses : e.passes rid = true) : p.rid = rid := by
  cases h.mem he with
  | registered => cases hpasses
  | relay l hintermediate hcontent hend =>
    have hrid := congrArg Package.rid hcontent
    rw [Package.content_rid, Package.content_rid] at hrid
    rw [← hrid]
    exact beq_iff_eq.mp hpasses
  | handled hdirect hnew hdeed =>
    cases hdeed with
    | flood =>
      rw [← Package.forwarded_rid]
      exact beq_iff_eq.mp hpasses
    | message => cases hpasses
    | execute_cmd => cases hpasses
    | register_uid => cases hpasses
    | register_neighbor => cases hpasses
    | acknowledge => cases hpasses

/-- A package is passed on at most once, and registered by then. -/
theorem Outcome.passes_le {s : Node} {p : Package} {src : Uid} {deeds : List Event}
    (h : Outcome s p src deeds) (rid : Rid) :
    deeds.countP (Event.passes rid) ≤ 1 ∧
      (deeds.countP (Event.passes rid) ≠ 0 → p.rid = rid ∧ .register_rid rid ∈ deeds) := by
  obtain rfl | ⟨rest, hdeeds, _, hrelays⟩ := h.registers
  · simp
  · have hrest : deeds.countP (Event.passes rid) = rest.countP (Event.passes rid) := by
      rw [hdeeds]
      rfl
    refine ⟨?_, fun hpasses => ?_⟩
    · rw [hrest]
      exact le_trans (List.countP_mono_left fun e _ => Event.passes_relays) hrelays
    · obtain ⟨e, he, hpass⟩ := List.countP_pos_iff.mp (Nat.pos_of_ne_zero hpasses)
      have hrid := h.passes_rid he hpass
      refine ⟨hrid, ?_⟩
      rw [hdeeds, ← hrid]
      exact List.mem_cons_self

/-- What a node has passed on with an id is at most one package, and the node
has registered the id. -/
structure Node.PassedOnce (rid : Rid) (s : Node) : Prop where
  once : s.trace.countP (Event.passes rid) ≤ 1
  registered : s.trace.countP (Event.passes rid) ≠ 0 → .register_rid rid ∈ s.trace

namespace Deployment

/-- No node registers more than eight other ids in an id's block between
registering the id and the last time it arrives. -/
def Remembers {ι : Type} (c : Config ι Node Datagram) (rid : Rid) : Prop :=
  ∀ a ∈ c.arrivals, a.packet.msg.package.rid = rid →
    ∀ before later, a.before.trace = before ++ .register_rid rid :: later →
      later.countP (Event.crowds (· == rid) rid) ≤ 8

/-- The calls a node makes of its own pass nothing on. -/
theorem act_passes {ι : Type} {D : Deployment ι} {i : ι} {s s' : Node} {out : List Datagram}
    (hact : D.protocol.act i s s' out) {rid : Rid} (h : s.PassedOnce rid) : s'.PassedOnce rid := by
  obtain ⟨call, hcall, _⟩ := hact
  have hhandles := Call.handles hcall
  have hnone : (s.since s').countP (Event.passes rid) = 0 := by
    rw [List.countP_eq_zero]
    intro e he hpasses
    obtain hmem | ⟨hdeed, _⟩ := hhandles.mem he
    · obtain rfl | rfl | ⟨cmd, rfl⟩ := Node.call_deed hmem <;> cases hpasses
    · rw [Event.relays_deed (Event.passes_relays hpasses)] at hdeed
      cases hdeed
  have htrace := hhandles.acts.trace_eq
  refine ⟨?_, fun hpassed => ?_⟩
  · rw [htrace, List.countP_append, hnone]
    exact h.once
  · rw [htrace, List.countP_append, hnone] at hpassed
    rw [htrace]
    exact List.mem_append_left _ (h.registered hpassed)

/-- A reception passes on only what the node does not remember. -/
theorem receive_passes {ι : Type} {D : Deployment ι} {i j : ι} {s s' : Node} {m : Datagram}
    {out : List (Bool × Datagram)} (hreceive : D.protocol.receive i s j m s' out) {rid : Rid} (h : s.PassedOnce rid)
    (hremembers : m.package.rid = rid → .register_rid rid ∈ s.trace →
      s.rids.exists_rid rid = 1) : s'.PassedOnce rid := by
  obtain ⟨deeds, hhandles, houtcome⟩ := Node.process_package_outcome hreceive.1
  have hcount : (s.since s').countP (Event.passes rid) = deeds.countP (Event.passes rid) :=
    hhandles.countP_eq fun e he => Event.relays_deed (Event.passes_relays he)
  have htrace := hhandles.acts.trace_eq
  obtain ⟨hle, hpassed⟩ := houtcome.passes_le rid
  by_cases hnone : deeds.countP (Event.passes rid) = 0
  · refine ⟨?_, fun hcounted => ?_⟩
    · rw [htrace, List.countP_append, hcount, hnone]
      exact h.once
    · rw [htrace, List.countP_append, hcount, hnone] at hcounted
      rw [htrace]
      exact List.mem_append_left _ (h.registered hcounted)
  · obtain ⟨hrid, hregisters⟩ := hpassed hnone
    have hfresh : s.trace.countP (Event.passes rid) = 0 := by
      by_contra hseen
      have hknown := hremembers hrid (h.registered hseen)
      rw [← hrid] at hknown
      cases houtcome with
      | rejected => exact hnone rfl
      | relayed haccept => exact haccept (.inr (.inr (.inr hknown)))
      | handled haccept => exact haccept (.inr (.inr (.inr hknown)))
    refine ⟨?_, fun _ => ?_⟩
    · rw [htrace, List.countP_append, hcount, hfresh]
      omega
    · rw [htrace]
      exact List.mem_append_right _ (hhandles.deed_mem (List.mem_cons_of_mem _ hregisters)).1

/-- Step by step, no node passes an id on a second time. -/
theorem passed_once {ι : Type} [DecidableEq ι] {D : Deployment ι} {c : Config ι Node Datagram}
    (h : Reachable D.protocol c) {rid : Rid} (hremembers : Remembers c rid) (i : ι) :
    (c.node i).PassedOnce rid := by
  induction h generalizing i with
  | start hinit =>
    obtain ⟨name, random, hbooted⟩ := hinit i
    have htrace := congrArg Node.trace hbooted
    exact ⟨by simp [htrace, Node.boot], fun hpassed => absurd (by simp [htrace, Node.boot]) hpassed⟩
  | step hreach hstep ih =>
    have hbefore := ih fun a ha => hremembers a (hstep.arrivals_subset ha)
    cases hstep with
    | @act j s out hact =>
      by_cases hi : i = j
      · subst hi
        simpa using act_passes hact (hbefore i)
      · simpa [hi] using hbefore i
    | @receive j m s out hair hhears hreceive =>
      by_cases hi : i = j
      · subst hi
        have hsettled := settled hreach i
        have hnew := hremembers _ (List.mem_append_right _ (List.mem_singleton_self _))
        have hpassed : s.PassedOnce rid := by
          refine receive_passes hreceive (hbefore i) fun hrid hregistered => ?_
          obtain ⟨before, later, htrace⟩ := List.append_of_mem hregistered
          exact hsettled.lives.exists_rid_eq_one htrace (hnew hrid before later htrace)
        simpa using hpassed
      · simpa [hi] using hbefore i

/-- Each node passes a package on at most once, so one flood is at most one
transmission by each node and the first one. -/
theorem flood_bounded {ι : Type} [DecidableEq ι] [Fintype ι] {D : Deployment ι}
    {c : Config ι Node Datagram} (h : Reachable D.protocol c) {rid : Rid}
    (hremembers : Remembers c rid) :
    (∀ i, (c.node i).trace.countP (Event.passes rid) ≤ 1) ∧
      (c.air.countP (fun m => !m.copied && m.msg.package.rid == rid) ≤ 1 →
        c.air.countP (fun m => m.msg.package.rid == rid) ≤ Fintype.card ι + 1) := by
  have hnodes : ∀ i, (c.node i).trace.countP (Event.passes rid) ≤ 1 :=
    fun i => (passed_once h hremembers i).once
  refine ⟨hnodes, fun horigin => ?_⟩
  have hcopies : c.air.countP (fun m => m.copied && m.msg.package.rid == rid) ≤
      Fintype.card ι := by
    refine countP_le_card fun i => le_trans (le_of_eq ?_) (hnodes i)
    have hsent := congrArg (List.countP fun sent : Bool × Datagram =>
      sent.1 && sent.2.package.rid == rid) (sent h i)
    rw [List.countP_map, List.countP_filterMap] at hsent
    refine hsent.trans (List.countP_congr fun e _ => ?_)
    cases e with
    | send_package b p dest => cases b <;> simp [Event.transmission?, Event.passes]
    | _ => simp [Event.transmission?, Event.passes]
  have hsplit := List.countP_eq_countP_filter_add c.air (fun m => m.msg.package.rid == rid)
    Packet.copied
  rw [List.countP_filter, List.countP_filter] at hsplit
  simp only [Bool.and_comm _ (Packet.copied _), Bool.and_comm _ (!Packet.copied _)] at hsplit
  omega

/-- Nodes that have done little remember all ids. -/
theorem remembers_of_short {ι : Type} {c : Config ι Node Datagram} {rid : Rid}
    (h : ∀ a ∈ c.arrivals, a.before.trace.length ≤ 9) : Remembers c rid := by
  intro a ha _ before later htrace
  have hlength := h a ha
  rw [htrace, List.length_append, List.length_cons] at hlength
  exact le_trans List.countP_le_length (by omega)

/-- The message the first node of the pair broadcasts. -/
def pairGreeting : Datagram :=
  { package := { rid := 0x4030201, flags := PackageType.BROADCAST_MSG.code, data := [104, 105] }
    dest := broadcast_uid }

/-- The first node once it has sent it. -/
def pairGreeted : Node := called (pairNode 0) (.send_broadcast_msg [104, 105])

/-- The second node has received the greeting and passed it on. -/
def pairPassed : Config (Fin 2) Node Datagram where
  node := Function.update (Function.update pairNode 0 pairGreeted) 1
    (received (pairNode 1) pairGreeting.package (pair.uid 0))
  air := [.origin 0 pairGreeting, .copy 1 pairGreeting (.origin 0 pairGreeting)]
  arrivals :=
    [{ receiver := 1
       packet := .origin 0 pairGreeting
       before := pairNode 1
       after := received (pairNode 1) pairGreeting.package (pair.uid 0) }]

set_option maxRecDepth 20000 in
theorem pair_passed : Reachable pair.protocol pairPassed := by
  have hgreet : pair.protocol.act 0 (pairNode 0) pairGreeted [pairGreeting] :=
    pair_act (by decide) (by decide)
  have hpass : pair.protocol.receive 1 (pairNode 1) 0 pairGreeting _ [(true, pairGreeting)] :=
    pair_receive (by decide) (by decide)
  have hgreeted := pair_start.step (.act hgreet)
  have hpassed := hgreeted.step (.receive (m := .origin 0 pairGreeting)
    (List.mem_singleton_self _) ⟨pair_adj (by decide), .inr rfl⟩ hpass)
  exact hpassed

set_option maxRecDepth 20000 in
/-- A greeting that arrives twice is passed on once. -/
theorem pair_flooded : ∃ c, Reachable pair.protocol c ∧ c.arrivals.length = 2 ∧
    (c.node 1).trace.countP (Event.passes 0x4030201) ≤ 1 ∧
      c.air.countP (fun m => m.msg.package.rid == 0x4030201) ≤ 3 := by
  have hignore : pair.protocol.receive 1 (received (pairNode 1) pairGreeting.package (pair.uid 0))
      0 pairGreeting _ [] := pair_receive (by decide) (by decide)
  have hignored := pair_passed.step (.receive (i := 1) (m := .origin 0 pairGreeting)
    (by simp [pairPassed]) ⟨pair_adj (by decide), .inr rfl⟩ hignore)
  have hflood := @flood_bounded _ _ _ _ _ hignored 0x4030201 (remembers_of_short ?_)
  · exact ⟨_, hignored, rfl, hflood.1 1, hflood.2 (by decide)⟩
  · intro a ha
    simp only [pairPassed, List.cons_append, List.nil_append, List.mem_cons, List.not_mem_nil,
      or_false] at ha
    obtain rfl | rfl := ha <;> decide

end Deployment

end concretid.ems
