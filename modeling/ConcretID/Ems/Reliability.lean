import ConcretID.Ems.Carriage

open concretid.network

namespace concretid.ems

open Node

/-! ## Printing and executing -/

/-- Whether a call prints or executes what a package carries. -/
def Event.effect : Event → Bool
  | .message _ _ _ => true
  | .execute_cmd _ => true
  | _ => false

theorem Event.effect_deed {e : Event} (h : e.effect = true) : e.deed = true := by
  cases e <;> first | rfl | cases h

/-- A package has at most one effect. -/
theorem Deeds.effects_le {p : Package} {src : Uid} {link : Option Slot} {deeds : List Event}
    (h : Deeds p src link deeds) : deeds.countP Event.effect ≤ 1 := by
  by_cases hnone : ∀ e ∈ deeds, e.effect = false
  · rw [List.countP_eq_zero.mpr fun e he => by simp [hnone e he]]
    exact Nat.zero_le 1
  · simp only [not_forall, Bool.not_eq_false] at hnone
    obtain ⟨e, he, heffect⟩ := hnone
    have hdeed := h.mem he
    unfold Deeds at h
    -- only messages and commands have an effect
    cases hdeed with
    | register_uid => cases heffect
    | register_neighbor => cases heffect
    | acknowledge => cases heffect
    | flood => cases heffect
    | execute_cmd cmd htype =>
      simp only [htype] at h
      simp [h, Event.effect]
    | message title text htype =>
      obtain htype | htype | htype := htype <;> simp only [htype] at h
      · simp [h, Event.effect]
      · obtain rfl | ⟨text, rfl⟩ | rfl := h <;> simp [Event.effect]
      · simp [h, Event.effect, List.countP_cons]

/-- Only a package whose upper bits are not known has an effect, and it is
registered then. -/
theorem Outcome.effects {s : Node} {p : Package} {src : Uid} {deeds : List Event}
    (h : Outcome s p src deeds) :
    deeds.countP Event.effect ≤ 1 ∧
      (deeds.countP Event.effect ≠ 0 →
        s.rids.exists_rid p.rid = 0 ∧ deeds.filterMap Event.registered? = [p.rid]) := by
  refine ⟨?_, fun heffect => ?_⟩
  · cases h with
    | rejected => exact Nat.zero_le 1
    | relayed _ _ hpassage => cases hpassage <;> simp [Event.effect]
    | handled _ _ _ hcourse =>
      cases hcourse with
      | short => exact Nat.zero_le 1
      | refused => exact Nat.zero_le 1
      | again => simp [Event.effect]
      | new _ _ _ hdeeds => simpa [Event.effect] using hdeeds.effects_le
  · obtain ⟨e, he, heffect⟩ := List.countP_pos_iff.mp (Nat.pos_of_ne_zero heffect)
    refine ⟨?_, ?_⟩
    · cases h.mem he with
      | registered => cases heffect
      | relay => cases heffect
      | handled _ hnew => exact hnew
    · obtain rfl | ⟨rest, rfl, hrest, _⟩ := h.registers
      · cases he
      · simp [Event.registered?, hrest]

/-! ## Acknowledgements -/

/-- A package that acknowledges ids with these upper bits. -/
structure Package.Acks (p : Package) (fixed : Rid) : Prop where
  kind : p.type = .ACK ∨ p.type = .BROADCAST_ACK
  acked : p.content.acked &&& RID_FIXED = fixed

theorem Package.Acks.of_content {p q : Package} {fixed : Rid} (h : q.Acks fixed)
    (hcontent : q.content = p.content) : p.Acks fixed := by
  refine ⟨?_, ?_⟩
  · rw [← Package.content_type, ← hcontent, Package.content_type]
    exact h.kind
  · rw [← hcontent]
    exact h.acked

theorem Package.Acks.of_direct {p : Package} {fixed : Rid} (hdirect : p.intermediate = false)
    (hkind : p.type = .ACK ∨ p.type = .BROADCAST_ACK) (hacked : p.acked &&& RID_FIXED = fixed) :
    p.Acks fixed :=
  ⟨hkind, by rwa [Package.content_of_direct hdirect]⟩

theorem acked_ridBytes (r rid : Rid) {type : PackageType} :
    Package.acked { rid := r, flags := type.code, data := ridBytes rid } = rid := by
  have hoffset : Package.offset { rid := r, flags := type.code, data := ridBytes rid } = 0 := by
    simp [Package.offset, Package.identified]
  rw [Package.acked, hoffset]
  exact ridAt_ridBytes (fun _ => 0) 0 rid

/-- A node acknowledges of its own only what it may. -/
theorem Mail.acks {c : Context} {p : Package} {dest : Uid} (h : Mail c p dest) {fixed : Rid}
    (hacks : p.Acks fixed) : ∃ r, c.acks r ∧ r &&& RID_FIXED = fixed := by
  obtain ⟨hkind, hacked⟩ := hacks
  cases h with
  | ack l hmay hcontent =>
    rw [hcontent, acked_ridBytes] at hacked
    exact ⟨_, hmay, hacked⟩
  | broadcast_ack hmay =>
    refine ⟨_, hmay, ?_⟩
    rw [Package.content_of_direct (by simp [Package.intermediate]), acked_ridBytes] at hacked
    exact hacked
  | announcement l name hcontent =>
    rw [← Package.content_type, hcontent] at hkind
    simp [Package.type] at hkind
  | echo => simp [Package.type] at hkind
  | reecho => simp [Package.type] at hkind
  | uid_request => simp [Package.type] at hkind
  | name_request => simp [Package.type] at hkind
  | discovery => simp [Package.type] at hkind
  | neighbor_request => simp [Package.type] at hkind
  | broadcast_msg => simp [Package.type] at hkind

namespace Deployment

/-! ## At most once -/

/-- Packages with these upper bits. -/
def marked {ι : Type} (fixed : Rid) (a : Arrival ι Node Datagram) : Prop :=
  a.packet.msg.package.rid &&& RID_FIXED = fixed

instance {ι : Type} (fixed : Rid) : DecidablePred (marked (ι := ι) fixed) :=
  fun _ => inferInstanceAs (Decidable (_ = _))

/-- How often a node has printed or executed packages with these upper bits. -/
def effects {ι : Type} [DecidableEq ι] (c : Config ι Node Datagram) (j : ι) (fixed : Rid) : Nat :=
  ((c.arrivals.filter fun a => a.receiver = j ∧ marked fixed a).flatMap
    fun a => a.before.since a.after).countP Event.effect

/-- Between two arrivals of packages with these upper bits a node registers at
most eight other ids in their block. -/
def Retains {ι : Type} (c : Config ι Node Datagram) (j : ι) (fixed : Rid) : Prop :=
  ∀ a ∈ c.arrivals, ∀ b ∈ c.arrivals, a.receiver = j → b.receiver = j → marked fixed a →
    marked fixed b → ∀ between, b.before.trace = a.after.trace ++ between →
      between.countP (Event.crowds (· &&& RID_FIXED == fixed) a.packet.msg.package.rid) ≤ 8

/-- While a node retains its ids it prints or executes a package at most once. -/
theorem effects_le {ι : Type} [DecidableEq ι] {D : Deployment ι} {c : Config ι Node Datagram}
    (h : Reachable D.protocol c) {j : ι} {fixed : Rid} (hretains : Retains c j fixed) :
    effects c j fixed ≤ 1 := by
  have hcount : ∀ {a deeds}, D.Heard a deeds →
      (a.before.since a.after).countP Event.effect = deeds.countP Event.effect := by
    intro a deeds hheard
    rw [hheard.handles.countP_eq fun e => Event.effect_deed, List.countP_cons]
    rfl
  have hmem : ∀ {a}, a ∈ c.arrivals.filter (fun a => a.receiver = j ∧ marked fixed a) →
      a ∈ c.arrivals ∧ a.receiver = j ∧ marked fixed a := by
    intro a ha
    simpa using ha
  refine countP_flatMap_le_one (fun a ha => ?_) ?_
  · obtain ⟨deeds, hheard⟩ := heard h (hmem ha).1
    rw [hcount hheard]
    exact hheard.outcome.effects.1
  · apply ((ordered h).2.filter _).imp_of_mem
    intro a b hma hmb hordered heffect
    obtain ⟨ha, hreceiver, hmarked⟩ := hmem hma
    obtain ⟨hb, hreceiver', hmarked'⟩ := hmem hmb
    obtain ⟨between, hbetween⟩ := hordered (hreceiver.trans hreceiver'.symm)
    obtain ⟨deeds, hheard⟩ := heard h ha
    obtain ⟨deeds', hheard'⟩ := heard h hb
    rw [hcount hheard] at heffect
    rw [hcount hheard']
    by_contra hagain
    obtain ⟨_, hregistered⟩ := hheard.outcome.effects.2 heffect
    have hids : b.before.trace.filterMap Event.registered? =
        a.before.trace.filterMap Event.registered? ++
          a.packet.msg.package.rid :: between.filterMap Event.registered? := by
      rw [← hbetween, hheard.handles.acts.trace_eq, List.filterMap_append, List.filterMap_append,
        hheard.handles.registered_eq, List.append_assoc]
      exact congrArg _ (congrArg (· ++ _) hregistered)
    have hknown := hheard'.settled.lives.exists_rid_ne_zero hmarked hmarked' hids
      (hretains a ha b hb hreceiver hreceiver' hmarked hmarked' between hbetween.symm)
    exact hknown (hheard'.outcome.effects.2 hagain).1

/-! ## Acknowledged only after -/

/-- A reception in which a package with these upper bits is printed or executed. -/
def Processes {ι : Type} (a : Arrival ι Node Datagram) (fixed : Rid) : Prop :=
  marked fixed a ∧ ∃ e ∈ a.before.since a.after, e.effect = true

/-- A slot's package is handled at its end, and passed on anywhere else. -/
theorem Heard.at_end {ι : Type} {D : Deployment ι} {a : Arrival ι Node Datagram}
    {deeds : List Event} (h : D.Heard a deeds) {last : Uid} (hcarried : a.packet.msg.Carried last) :
    a.packet.msg.package.intermediate = false ↔ D.uid a.receiver = last := by
  rw [hcarried.arrived, h.dest.resolve_right hcarried.ne_broadcast]

/-- What is not ignored at its end is processed, unless its upper bits are known. -/
theorem Heard.processes {ι : Type} {D : Deployment ι} {a : Arrival ι Node Datagram}
    {deeds : List Event} (h : D.Heard a deeds) {last : Uid} (hcarried : a.packet.msg.Carried last)
    (hdirect : a.packet.msg.package.intermediate = false) (hdeeds : deeds ≠ []) :
    (∃ e ∈ deeds, e.effect = true) ∨ a.before.rids.exists_rid a.packet.msg.package.rid = 2 := by
  cases h.outcome with
  | rejected => exact absurd rfl hdeeds
  | relayed _ hintermediate =>
    rw [hdirect] at hintermediate
    cases hintermediate
  | handled _ _ _ hcourse =>
    cases hcourse with
    | short => exact absurd rfl hdeeds
    | refused => exact absurd rfl hdeeds
    | again _ hrid => exact .inr hrid
    | new _ _ _ hnew =>
      unfold Deeds at hnew
      obtain htype | htype := kinds_cases hcarried.kind <;> simp only [htype] at hnew
      · exact .inl ⟨_, by rw [hnew]; exact List.mem_cons_of_mem _ List.mem_cons_self, rfl⟩
      · exact .inl ⟨_, by rw [hnew]; exact List.mem_cons_of_mem _ List.mem_cons_self, rfl⟩

/-- Upper bits that the end of a slot's package has registered belong to a
package it has processed. The induction is on the receptions so far: a package
that is only registered again was registered in an earlier one. -/
theorem registered_processed {ι : Type} [DecidableEq ι] {D : Deployment ι}
    {c : Config ι Node Datagram} (h : Reachable D.protocol c) {fixed : Rid} (hfixed : fixed ≠ 0)
    {last : Uid} (hcarried : ∀ m ∈ c.air, m.msg.package.rid &&& RID_FIXED = fixed →
      m.msg.Carried last) {j : ι} (hj : D.uid j = last) {r : Rid}
    (hr : .register_rid r ∈ (c.node j).trace) (hmarked : r &&& RID_FIXED = fixed) :
    ∃ a ∈ c.arrivals, a.receiver = j ∧ Processes a fixed := by
  induction hlength : c.arrivals.length using Nat.strong_induction_on generalizing c r with
  | _ n ih =>
    obtain ⟨s, _, hown⟩ | hcall | ⟨a, ha, hreceiver, hmem⟩ := event_cases h hr
    · cases hown
    · obtain heq | heq | ⟨cmd, heq⟩ := hcall <;> cases heq
    · obtain ⟨deeds, hheard⟩ := heard h ha
      have hdeed : .register_rid r ∈ deeds := by
        obtain heq | hdeed | ⟨hown, _⟩ := hheard.mem hmem
        · cases heq
        · exact hdeed
        · cases hown
      have hrid : a.packet.msg.package.rid = r := by
        cases hheard.outcome.mem hdeed with
        | registered => rfl
        | handled _ _ hdeed => cases hdeed
      have hthis : marked fixed a := by rwa [marked, hrid]
      have hcarry := hcarried _ (h.arrival ha).1 hthis
      have hdirect := (hheard.at_end hcarry).mpr (by rw [hreceiver, hj])
      rcases hheard.processes hcarry hdirect (List.ne_nil_of_mem hdeed) with
        ⟨e, he, heffect⟩ | hagain
      · exact ⟨a, ha, hreceiver, hthis, e, hheard.deed_mem he, heffect⟩
      · obtain ⟨r', hr', hmarked'⟩ := hheard.settled.lives.registered_of_exists hthis hfixed
          (by rw [hagain]; decide)
        obtain ⟨before, later, hsplit⟩ := List.append_of_mem ha
        obtain ⟨c₀, hreach, harrivals, hnode, _, hair⟩ := h.arrival_split hsplit
        rw [hreceiver] at hnode
        rw [← hnode] at hr'
        obtain ⟨a', ha', hrest⟩ := ih c₀.arrivals.length
          (by rw [← hlength, hsplit, harrivals]; simp) hreach
          (fun m hm => hcarried m (hair m hm)) hr' hmarked' rfl
        rw [harrivals] at ha'
        exact ⟨a', by rw [hsplit]; exact List.mem_append_left _ ha', hrest⟩

/-- An acknowledgement goes out only for a package that its end has processed. -/
theorem acked_processed {ι : Type} [DecidableEq ι] {D : Deployment ι}
    {c : Config ι Node Datagram} (h : Reachable D.protocol c) {fixed : Rid} (hfixed : fixed ≠ 0)
    {last : Uid} (hcarried : ∀ m ∈ c.air, m.msg.package.rid &&& RID_FIXED = fixed →
      m.msg.Carried last) {m : Packet ι Datagram} (hm : m ∈ c.air)
    (hacks : m.msg.package.Acks fixed) :
    ∃ a ∈ c.arrivals, D.uid a.receiver = last ∧ Processes a fixed := by
  induction m with
  | origin i msg =>
    obtain ⟨b, hb, he, hown⟩ := origin_own h hm
    cases b with
    | process => exact absurd rfl hb
    | sendout k =>
      have hkind := slot_type h he
      obtain htype | htype := hacks.kind <;> rw [Packet.origin_msg] at htype <;>
        rw [htype] at hkind <;> simp [Sendout.kinds] at hkind
    | messages =>
      obtain ⟨s, _, hown⟩ | ⟨a, ha, _, deeds, hheard, hown⟩ := hown
      · cases hown with
        | mail hmail =>
          obtain ⟨r, hnobody, _⟩ := hmail.acks hacks
          exact hnobody.elim
      · cases hown with
        | mail hmail =>
          obtain ⟨r, ⟨rfl, hdirect, hdeeds⟩, hmarked⟩ := hmail.acks hacks
          have hcarry := hcarried _ (h.arrival ha).1 hmarked
          have hend := (hheard.at_end hcarry).mp hdirect
          obtain ⟨e, hmem, heffect⟩ | hagain := hheard.processes hcarry hdirect hdeeds
          · exact ⟨a, ha, hend, hmarked, e, hheard.deed_mem hmem, heffect⟩
          · obtain ⟨r', hr', hmarked'⟩ := hheard.settled.lives.registered_of_exists hmarked hfixed
              (by rw [hagain]; decide)
            have hlater : .register_rid r' ∈ (c.node a.receiver).trace :=
              (hheard.handles.acts.grows.trans ((ordered h).1 a ha)).subset hr'
            obtain ⟨a', ha', hreceiver', hprocesses⟩ :=
              registered_processed h hfixed hcarried hend hlater hmarked'
            exact ⟨a', ha', by rw [hreceiver', hend], hprocesses⟩
  | copy i msg received ih =>
    obtain ⟨a, _, _, rfl, deeds, hheard, hsend⟩ := copy_deed h hm
    apply ih (h.copy_source hm)
    obtain ⟨q, dest⟩ := msg
    rw [Packet.copy_msg] at hacks
    dsimp only at hsend hacks
    cases hheard.outcome.mem hsend with
    | relay l hintermediate hcontent => exact hacks.of_content hcontent
    | handled _ _ hdeed =>
      cases hdeed with
      | flood hfloods =>
        have htype : a.packet.msg.package.type ≠ .NEIGHBOR_REQUEST := by
          have hkind := hacks.kind
          rw [Package.type, Package.forwarded_flags] at hkind
          rw [Package.type]
          obtain htype | htype := hkind <;> simp [htype]
        rwa [Package.forwarded_eq htype] at hacks

/-- What a slot sends is printed or executed at most once by a node that retains
its ids, and acknowledged only after the package's end has done so. -/
theorem sent_out_reliably {ι : Type} [DecidableEq ι] {D : Deployment ι}
    {c : Config ι Node Datagram} (h : Reachable D.protocol c) {i : ι} {k : Fin SENDOUT_QTY}
    {fixed : Rid} (hfixed : fixed ≠ 0) (hsends : Sends c i k fixed) :
    ∃ last, (∀ m ∈ c.air, m.msg.package.rid &&& RID_FIXED = fixed →
        m.msg.package.finalDest m.msg.dest = last) ∧
      (∀ j, Retains c j fixed → effects c j fixed ≤ 1) ∧
      ∀ j n r, .acknowledge n r ∈ (c.node j).trace → r &&& RID_FIXED = fixed →
        ∃ a ∈ c.arrivals, D.uid a.receiver = last ∧ Processes a fixed := by
  obtain ⟨last, hcarried⟩ := carried h hsends
  refine ⟨last, fun m hm hmarked => (hcarried m hm hmarked).end_eq,
    fun j hretains => effects_le h hretains, fun j n r hacknowledged hmarked => ?_⟩
  obtain ⟨s, _, hown⟩ | hcall | ⟨a, ha, _, hmem⟩ := event_cases h hacknowledged
  · cases hown
  · obtain heq | heq | ⟨cmd, heq⟩ := hcall <;> cases heq
  · obtain ⟨deeds, hheard⟩ := heard h ha
    apply acked_processed h hfixed hcarried (h.arrival ha).1
    obtain heq | hdeed | ⟨hown, _⟩ := hheard.mem hmem
    · cases heq
    · cases hheard.outcome.mem hdeed with
      | handled hdirect _ hdeed =>
        cases hdeed with
        | acknowledge n htype hlength => exact .of_direct hdirect htype hmarked
    · cases hown

/-! ## The pair exchanges a message -/

/-- The first node's question for the second one's address, and its answer. -/
def pairQuestion : Datagram :=
  { package :=
      { rid := 0xc0b0a09
        flags := PACKAGE_IDENTIFIED ||| PackageType.UID_REQUEST.code
        data := (pair.uid 0).toList ++ (pair.uid 1).toList }
    dest := broadcast_uid }

def pairAnnouncement : Datagram :=
  { package :=
      { rid := 0x706f6e6d
        flags := PACKAGE_IDENTIFIED ||| PackageType.ANNOUNCEMENT.code
        data := (pair.uid 1).toList ++ List.replicate NAME_SIZE 0 }
    dest := pair.uid 0 }

/-- The first node when it has a route to the second one, and the second when it
has one to the first. -/
def pairSource : Node :=
  received (called (received pairEchoed pairReecho.package (pair.uid 1))
    (.send_uid_request (pair.uid 1))) pairAnnouncement.package (pair.uid 1)

def pairTarget : Node := received pairRegistered pairQuestion.package (pair.uid 0)

set_option maxRecDepth 20000 in
theorem pair_introduced : PairAt pairSource pairTarget (.origin 1 pairAnnouncement) := by
  have hknown : PairAt _ _ (.origin 1 pairReecho) :=
    pair_registered.first rfl (.inl rfl) (pair_receive (o := []) (by decide) (by decide)) (by simp)
  have hasked : PairAt _ _ (.origin 0 pairQuestion) :=
    hknown.call (pair_act (k := .send_uid_request (pair.uid 1)) (by decide) (by decide))
  have hannounced : PairAt _ _ (.origin 1 pairAnnouncement) :=
    hasked.second rfl (.inr rfl)
      (pair_receive (o := [(false, pairAnnouncement)]) (by decide) (by decide))
      (by simp [emitted])
  exact hannounced.first rfl (.inl rfl) (pair_receive (o := []) (by decide) (by decide)) (by simp)

/-- A message to the second node, and its acknowledgement. -/
def pairMessage : Datagram :=
  { package :=
      { rid := 0x100f0e0d
        flags := PACKAGE_ACKLY ||| PACKAGE_IDENTIFIED ||| PackageType.MSG.code
        data := (pair.uid 0).toList ++ [104, 105] }
    dest := pair.uid 1 }

def pairAck : Datagram :=
  { package :=
      { rid := 0x74737271
        flags := PackageType.ACK.code
        data := ridBytes 0x100f0e0d }
    dest := pair.uid 0 }

set_option maxRecDepth 20000 in
/-- When the message is acknowledged, the second node has printed it. -/
theorem pair_acknowledged : ∃ c, Reachable pair.protocol c ∧
    .acknowledge 0 0x100f0e0d ∈ (c.node 0).trace ∧
      ∃ a ∈ c.arrivals, pair.uid a.receiver = pair.uid 1 ∧ Processes a 0x100f0e00 := by
  have hsent : PairAt _ _ (.origin 0 pairMessage) :=
    pair_introduced.call
      (pair_act (k := .send_out_by_name [] [104, 105] .MSG (.inl rfl)) (by decide) (by decide))
  have hprinted : PairAt _ _ (.origin 1 pairAck) :=
    hsent.second rfl (.inl rfl)
      (pair_receive (o := [(false, pairAck)]) (by decide) (by decide)) (by simp [emitted])
  have hacknowledged : PairAt _ _ (.origin 1 pairAck) :=
    hprinted.first rfl (.inl rfl) (pair_receive (o := []) (by decide) (by decide)) (by simp)
  obtain ⟨c, hreach, hfirst, hsecond, _⟩ := hacknowledged
  have hsends : Sends c 0 0 0x100f0e00 := by
    refine ⟨⟨0x100f0e0d, ?_, by decide⟩, ?_, fun j hj => ?_⟩
    · rw [hfirst]
      decide
    · rw [hfirst]
      decide
    · obtain rfl : j = 1 := by omega
      rw [hsecond]
      decide
  have hacked : .acknowledge 0 0x100f0e0d ∈ (c.node 0).trace := by
    rw [hfirst]
    decide
  have hmessage : .send_package (.sendout 0) pairMessage.package (pair.uid 1) ∈ (c.node 0).trace := by
    rw [hfirst]
    decide
  obtain ⟨last, hend, _, hacks⟩ := sent_out_reliably hreach (by decide) hsends
  obtain ⟨m, hm, _, hmsg, _⟩ := event_packet hreach hmessage
  have hlast := hend m hm (by rw [hmsg]; decide)
  rw [hmsg] at hlast
  obtain ⟨a, ha, huid, hprocesses⟩ := hacks 0 0 _ hacked (by decide)
  exact ⟨c, hreach, hacked, a, ha, huid.trans hlast.symm, hprocesses⟩

end Deployment

end concretid.ems
