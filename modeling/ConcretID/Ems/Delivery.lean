import Mathlib.Logic.Relation
import ConcretID.Ems.Conveyance
import ConcretID.Ems.Occupation

open concretid.memory

namespace concretid.ems

/-- While a slot is not filled again it goes on to serve what it serves. -/
theorem SlotRun.serves_on {timing : Timing} {uid : Uid} {i : Fin SENDOUT_QTY} {a b : Sendout}
    {fixed : Rid} {flags : UInt8} {data : List UInt8} {before events : List Event}
    (hproper : timing.Proper) (hrun : SlotRun timing uid i a events b)
    (ha : a.Serves i fixed flags data before)
    (hother : ∀ rid, .make_package_head (.sendout i) rid ∉ events) :
    b.Serves i fixed flags data (before ++ events) := by
  induction hrun with
  | refl => rwa [List.append_nil]
  | step _ hstep ih =>
    rw [← List.append_assoc]
    refine hstep.serves hproper (ih fun rid hmem => ?_) fun rid hmem => ?_
    · exact hother rid (List.mem_append_left _ hmem)
    · exact absurd (List.mem_append_right _ hmem) (hother rid)

namespace Node

/-- One thing a node does: a call it starts itself, or a reception. -/
inductive Does (s s' : Node) : Prop where
  | call (call : Call) (hcall : call.run s = .ok s')
  | receive (p : Package) (src : Uid) (hcall : s.process_package p p.size src = .ok s')

/-- What a node becomes by any number of calls and receptions. -/
abbrev Runs : Node → Node → Prop := Relation.ReflTransGen Does

theorem Does.acts {s s' : Node} (h : Does s s') : Acts s s' (s.since s') := by
  cases h with
  | call call hcall => exact (Call.handles hcall).acts
  | receive p src hcall =>
    obtain ⟨deeds, hhandles, _⟩ := process_package_outcome hcall
    exact hhandles.acts

theorem Runs.acts {s s' : Node} (h : Runs s s') : Acts s s' (s.since s') := by
  induction h with
  | refl =>
    rw [since, List.drop_length]
    exact .refl s
  | tail _ hdoes ih =>
    have hall := ih.trans hdoes.acts
    rw [hall.since_eq]
    exact hall

theorem Runs.lives {uid : Uid} {s₀ s : Node} (hboot : Booted uid s₀) (h : Runs s₀ s) :
    Lives uid s :=
  (Lives.of_booted hboot).step h.acts

/-! ## The source -/

/-- `send_out_by_name` of data that fits into a free slot. -/
theorem send_out_by_name_eq {s : Node} {k : Fin SENDOUT_QTY} (hslot : s.freeSlot = some k)
    (name : List UInt8) {data : List UInt8} (hdata : data.length ≤ 23) (type : PackageType) :
    s.send_out_by_name name data type =
      let built := s.filled k (sizeof_package + (sizeof_identified_head + data.length)) type data
      match s.transmission.find_table_by_name name with
      | some uidt => built.solveSlot k uidt >>= fun s => .ok (s, true)
      | none => .ok ((built.setSendout k { built.sendout_package k with
          key := nameOf name, time := built.me.timing.solving }).send_name_request name, true) := by
  have hsize : (data.length + sizeof_package + sizeof_identified_head) % 2 ^ 16 =
      sizeof_package + (sizeof_identified_head + data.length) := by
    simp only [sizeof_package, sizeof_identified_head]
    omega
  have hfits : ¬ SENDOUT_BUFFER_SIZE <
      (sizeof_package + (sizeof_identified_head + data.length) + sizeof_intermediate_head) %
        2 ^ 16 := by
    simp only [SENDOUT_BUFFER_SIZE, sizeof_package, sizeof_identified_head, sizeof_intermediate_head]
    omega
  have hroom : ¬ (Buffer.sendout k).capacity < sizeof_identified_head + data.length := by
    simp only [Buffer.capacity, SENDOUT_BUFFER_SIZE, sizeof_package, sizeof_identified_head]
    omega
  rw [freeSlot] at hslot
  unfold Node.send_out_by_name
  rw [hslot]
  dsimp only
  rw [hsize, if_neg hfits, if_neg hroom]
  rw [← Node.filled, filled_transmission]
  cases s.transmission.find_table_by_name name <;> rfl

/-- Between two states a message has been built in a slot, which serves it. -/
structure Posted (s s₁ : Node) (k : Fin SENDOUT_QTY) (data : List UInt8) : Prop where
  heads : ∀ rid, .make_package_head (.sendout k) rid ∈ s.since s₁ → rid = s.nextRid
  serves : (s₁.sendout_package k).Serves k (s.nextRid &&& RID_FIXED) messageFlags
    (s.my_uid.toList ++ data) (s.since s₁)

theorem Touches.since_eq {s s' : Node} {i : Fin SENDOUT_QTY} {new : List Event}
    (h : Touches s s' i new) : s.since s' = new := by
  rw [since, h.trace_eq, List.drop_left]

/-- What a slot holds before and after its message is sent to the uid of a route. -/
theorem solveSlot_sends {s s₁ : Node} {k : Fin SENDOUT_QTY} {size : Nat} {data : List UInt8}
    {e : Entry} (hsize : size = sizeof_package + (sizeof_identified_head + data.length))
    (hroom : size + sizeof_intermediate_head ≤ SENDOUT_BUFFER_SIZE)
    (hsolve : (s.filled k size .MSG data).solveSlot k e = .ok s₁) :
    ∃ (b : Sendout) (dest : Uid), b.Filled s.my_uid s.nextRid .MSG data ∧
      b.key = (s.transmission.uid_table e).uid ∧
      b.time = s.me.timing.sending ∧ b.Sent b.key dest (s₁.sendout_package k) ∧
      s.since s₁ = [.make_package_head (.sendout k) s.nextRid,
        .send_package (.sendout k)
          ((s₁.sendout_package k).package.package (s₁.sendout_package k).size) dest] := by
  obtain ⟨htouch, hfilled⟩ := Touches.fill s k (.inl rfl) hsize hroom
  unfold Node.solveSlot at hsolve
  obtain ⟨l, c, hsent, rfl, hsend⟩ := Touches.sendSlot hsolve (by simp [Node.setSendout])
  have hnew := ((htouch.then_setSendout _).trans hsend).since_eq
  rw [setSendout_self, htouch.me_eq, htouch.uid_table_eq] at hsent
  refine ⟨_, _, hfilled (s.transmission.uid_table e).uid s.me.timing.sending, rfl, ?_, hsent, hnew⟩
  dsimp only

/-- A message whose name is found is sent over the route it has. -/
theorem posted_solved {s s₁ : Node} {k : Fin SENDOUT_QTY} {size : Nat} {data : List UInt8}
    {e : Entry} (hproper : s.me.timing.Proper)
    (hsize : size = sizeof_package + (sizeof_identified_head + data.length))
    (hroom : size + sizeof_intermediate_head ≤ SENDOUT_BUFFER_SIZE)
    (hsolve : (s.filled k size .MSG data).solveSlot k e = .ok s₁) :
    Posted s s₁ k data ∧ ∃ p dest, .send_package (.sendout k) p dest ∈ s.since s₁ ∧
      p.rid = s.nextRid ∧ p.finalDest dest = (s.transmission.uid_table e).uid := by
  obtain ⟨b, dest, hfilled, hkey, hclock, hsent, hnew⟩ := solveSlot_sends hsize hroom hsolve
  have htime : 0 ≤ b.time := by
    rw [hclock]
    exact Int.le_of_lt hproper.sending_pos
  have hserves : (s₁.sendout_package k).Serves k (s.nextRid &&& RID_FIXED) messageFlags
      (s.my_uid.toList ++ data) ([] ++ s.since s₁) := by
    refine hsent.serves hfilled.carries htime ?_ ⟨b.key, ?_⟩
    swap
    · intro p d hmem
      cases hmem
    intro p d hmem
    rw [hnew] at hmem
    simpa using hmem
  let c := s₁.sendout_package k
  refine ⟨⟨?_, hserves⟩, c.package.package c.size, dest, ?_, ?_, ?_⟩
  · intro rid hmem
    rw [hnew] at hmem
    simpa using hmem
  · rw [hnew]
    exact List.mem_cons_of_mem _ (List.mem_singleton_self _)
  · exact hsent.rid_eq.trans hfilled.rid_eq
  · rw [(hsent.carries hfilled.carries htime).2.1, hsent.key_eq, hkey]

/-- Asking for a name leaves the slots alone. -/
theorem send_name_request_shows (s : Node) (name : List UInt8) :
    (s.send_name_request name).sendout_package = s.sendout_package ∧
      ∃ p, (s.send_name_request name).trace = s.trace ++
        [.make_package_head .messages s.nextRid, .send_package .messages p broadcast_uid] := by
  refine ⟨?_, ?_⟩
  · simp [Node.send_name_request, Node.send_package, Node.writeData, setPackageBuffer]
  · exact ⟨_, by simp [Node.send_name_request, Node.send_package, Node.writeData]; rfl⟩

/-- A message whose name is not found waits in its slot. -/
theorem posted_waiting {s : Node} {k : Fin SENDOUT_QTY} {size : Nat} {data : List UInt8}
    (name : List UInt8) (hsize : size = sizeof_package + (sizeof_identified_head + data.length))
    (hroom : size + sizeof_intermediate_head ≤ SENDOUT_BUFFER_SIZE) :
    let built := s.filled k size .MSG data
    Posted s ((built.setSendout k { built.sendout_package k with
      key := nameOf name, time := built.me.timing.solving }).send_name_request name) k data := by
  intro built
  obtain ⟨htouch, hfilled⟩ := Touches.fill s k (.inl rfl) hsize hroom
  let waiting := built.setSendout k { built.sendout_package k with
    key := nameOf name, time := built.me.timing.solving }
  obtain ⟨hslots, p, htrace⟩ := send_name_request_shows waiting name
  have hnew : s.since (waiting.send_name_request name) =
      [.make_package_head (.sendout k) s.nextRid, .make_package_head .messages waiting.nextRid,
        .send_package .messages p broadcast_uid] := by
    rw [since, htrace, (htouch.then_setSendout _).trace_eq, List.append_assoc, List.drop_left]
    rfl
  have hheld : (waiting.sendout_package k).Filled s.my_uid s.nextRid .MSG data := by
    rw [setSendout_self]
    exact hfilled _ _
  refine ⟨?_, ?_⟩
  · intro rid hmem
    rw [hnew] at hmem
    simpa using hmem
  · rw [hslots]
    refine hheld.serves fun q d hmem => ?_
    rw [hnew] at hmem
    simp at hmem

theorem Runs.since_trans {s s₁ s₂ : Node} (h : Runs s s₁) (h' : Runs s₁ s₂) :
    s.since s₂ = s.since s₁ ++ s₁.since s₂ :=
  (h.acts.trans h'.acts).since_eq

/-- Everything a slot sends while it is not filled again is the message built in
it, and all of it goes to one end. -/
theorem Posted.sends {uid : Uid} {s s₁ s₂ : Node} {k : Fin SENDOUT_QTY} {data : List UInt8}
    (h : Posted s s₁ k data) (hlives : Lives uid s) (hfree : (s.sendout_package k).time = 0)
    (hposted : Runs s s₁) (hafter : Runs s₁ s₂)
    (hkept : ∀ rid, .make_package_head (.sendout k) rid ∉ s₁.since s₂) :
    ∃ last, ∀ p dest, .send_package (.sendout k) p dest ∈ s.since s₂ →
      Underway (messagePackage p.rid uid data) last { package := p, dest } := by
  have hsince := hposted.since_trans hafter
  have hproper : s₁.me.timing.Proper := by
    rw [hposted.acts.timing_eq]
    exact hlives.timing_proper
  have hserves := (hafter.acts.slot k).serves_on hproper h.serves fun rid hmem =>
    hkept rid (List.mem_filter.mp hmem).1
  obtain ⟨last, hlast⟩ := hserves.sends
  refine ⟨last, fun p dest hmem => ?_⟩
  -- the only package the slot has been filled with since
  have hfixed : p.rid &&& RID_FIXED = s.nextRid &&& RID_FIXED := by
    have hslot : .send_package (.sendout k) p dest ∈ (s.since s₂).filter (Event.ofSlot k) :=
      List.mem_filter.mpr ⟨hmem, by simp [Event.ofSlot]⟩
    have hall : Acts s s₂ (s.since s₂) := Runs.acts (hposted.trans hafter)
    obtain ⟨rid, hhead, hrid⟩ := ((hall.slot k).headed hfree).1 p dest hslot
    have hmade := (List.mem_filter.mp hhead).1
    rw [hsince, List.mem_append] at hmade
    rw [← hrid, h.heads rid (hmade.resolve_right (hkept rid))]
  have hsent : .send_package (.sendout k) p dest ∈
      s.since s₁ ++ (s₁.since s₂).filter (Event.ofSlot k) := by
    rw [hsince, List.mem_append] at hmem
    rw [List.mem_append, List.mem_filter]
    exact hmem.imp_right fun hlater => ⟨hlater, by simp [Event.ofSlot]⟩
  obtain ⟨hcontent, hend, hbypass, _⟩ := hlast p dest hsent hfixed
  rw [hlives.my_uid_eq] at hcontent
  exact ⟨hcontent, hend, hbypass⟩

theorem messagePackage_portable (rid : Rid) (source : Uid) {data : List UInt8}
    (hdata : data.length ≤ 23) : Portable (messagePackage rid source data) := by
  refine ⟨?_, ?_, ?_⟩
  · intro hnil
    have hlength := congrArg List.length hnil
    simp [messagePackage] at hlength
  · rw [messagePackage_size]
    simp only [sizeof_package, sizeof_identified_head, sizeof_intermediate_head, BUFFER_PROCESS_SIZE]
    omega
  · rw [messagePackage_type]
    decide

/-! ## From the source to the end -/

/-- A datagram sent for `last` comes out of a chain of relays bare and with the
message as it was built, and the end prints exactly its text. -/
def Delivered (source last : Uid) (data : List UInt8) (relays : List Node) (t : Node)
    (m : Datagram) : Prop :=
  convey relays source m = some (lastHop relays source,
      { package := messagePackage m.package.rid source data, dest := last }) ∧
    t.effectsOf (lastHop relays source) (messagePackage m.package.rid source data) =
      some [.message "new msg" (some source) data]

theorem Underway.delivered_iff {source last : Uid} {data : List UInt8} {relays : List Node}
    {t : Node} {m : Datagram}
    (h : Underway (messagePackage m.package.rid source data) last m) (hdata : data.length ≤ 23)
    (hnul : 0 ∉ data) (hleads : Leads last m.package.rid relays source m.dest)
    (hawaits : t.Awaits (lastHop relays source) m.package.rid) :
    Delivered source last data relays t m ↔ AllSearch relays source ∧ t.Answers source := by
  have hportable := messagePackage_portable m.package.rid source hdata
  have hsize : (messagePackage m.package.rid source data).size ≤ BUFFER_PROCESS_SIZE :=
    Nat.le_trans (Nat.le_add_right _ _) hportable.room
  obtain ⟨hpasses, hstuck⟩ := h.convey_iff hportable hleads
  obtain ⟨hprints, hfails⟩ := hawaits.effectsOf_iff hnul hsize
  constructor
  · rintro ⟨hconveyed, hprinted⟩
    refine ⟨?_, ?_⟩
    · by_contra hnone
      rw [hstuck hnone] at hconveyed
      cases hconveyed
    · by_contra hnone
      rw [hfails hnone] at hprinted
      cases hprinted
  · rintro ⟨hsearch, hanswers⟩
    exact ⟨hpasses hsearch, hprints hanswers⟩

/-- `send_out_by_name` takes a short message when a slot is free and the route of
its name, if there is one, has a link. -/
theorem send_out_by_name_posts {uid : Uid} {s : Node} {k : Fin SENDOUT_QTY}
    {name data : List UInt8} (hlives : Lives uid s) (hslot : s.freeSlot = some k)
    (hdata : data.length ≤ 23)
    (hroute : ∀ e, s.transmission.find_table_by_name name = some e →
      (s.transmission.uid_table e).link.isSome = true) :
    ∃ s₁, s.send_out_by_name name data .MSG = .ok (s₁, true) ∧ Posted s s₁ k data ∧
      ∀ e, s.transmission.find_table_by_name name = some e →
        ∃ p dest, .send_package (.sendout k) p dest ∈ s.since s₁ ∧ p.rid = s.nextRid ∧
          p.finalDest dest = (s.transmission.uid_table e).uid := by
  have hroom : sizeof_package + (sizeof_identified_head + data.length) + sizeof_intermediate_head ≤
      SENDOUT_BUFFER_SIZE := by
    simp only [SENDOUT_BUFFER_SIZE, sizeof_package, sizeof_identified_head, sizeof_intermediate_head]
    omega
  rw [send_out_by_name_eq hslot name hdata]
  dsimp only
  cases hfind : s.transmission.find_table_by_name name with
  | none =>
    refine ⟨_, rfl, posted_waiting name rfl hroom, ?_⟩
    intro e he
    cases he
  | some e =>
    have hkeeps := s.filled_keeps k .MSG rfl hroom
    have hlink : ((s.filled k (sizeof_package + (sizeof_identified_head + data.length)) .MSG
        data).transmission.uid_table e).link.isSome = true := by
      rw [filled_transmission]
      exact hroute e hfind
    obtain ⟨s₁, hsolve⟩ := Node.solveSlot_ok s.my_uid data hkeeps hlink
    obtain ⟨hposted, hsent⟩ := posted_solved hlives.timing_proper rfl hroom hsolve
    refine ⟨s₁, by dsimp only; rw [hsolve, ok_bind], hposted, ?_⟩
    intro e' he'
    obtain rfl := Option.some.inj he'
    exact hsent

/-- A short message built in a free slot is delivered, whenever the slot sends it,
along every chain of relays with routes to its end that all find out who sent
it to them, to an end that can acknowledge it or knows no way to. -/
theorem message_delivered_iff {uid : Uid} {s₀ s : Node} (hboot : Booted uid s₀)
    (hreached : Runs s₀ s) {k : Fin SENDOUT_QTY} (hslot : s.freeSlot = some k)
    {name data : List UInt8} (hdata : data.length ≤ 23) (hnul : 0 ∉ data)
    (hroute : ∀ e, s.transmission.find_table_by_name name = some e →
      (s.transmission.uid_table e).link.isSome = true) :
    ∃ s₁, s.send_out_by_name name data .MSG = .ok (s₁, true) ∧
      ∀ s₂, Runs s₁ s₂ → (∀ rid, .make_package_head (.sendout k) rid ∉ s₁.since s₂) →
        ∃ last, (∀ e, s.transmission.find_table_by_name name = some e →
            (s.transmission.uid_table e).uid = last) ∧
          ∀ p dest, .send_package (.sendout k) p dest ∈ s.since s₂ →
            ∀ relays t, Leads last p.rid relays uid dest →
              t.Awaits (lastHop relays uid) p.rid →
              (Delivered uid last data relays t { package := p, dest } ↔
                AllSearch relays uid ∧ t.Answers uid) := by
  have hlives := Runs.lives hboot hreached
  obtain ⟨s₁, hsend, hposted, hsolved⟩ := send_out_by_name_posts hlives hslot hdata hroute
  have hfirst : Runs s s₁ := .single (.call (.send_out_by_name name data .MSG (.inl rfl))
    (by simp [Call.run, hsend]))
  refine ⟨s₁, hsend, fun s₂ hafter hkept => ?_⟩
  obtain ⟨last, hlast⟩ := hposted.sends hlives (freeSlot_time hslot) hfirst hafter hkept
  refine ⟨last, fun e hfind => ?_, fun p dest hmem relays t hleads hawaits => ?_⟩
  · obtain ⟨p, dest, hmem, _, hend⟩ := hsolved e hfind
    have hlater : .send_package (.sendout k) p dest ∈ s.since s₂ := by
      rw [hfirst.since_trans hafter]
      exact List.mem_append_left _ hmem
    exact hend.symm.trans (hlast p dest hlater).end_eq
  · exact (hlast p dest hmem).delivered_iff hdata hnul hleads hawaits

end Node

namespace Deployment

open Node

/-! ## A message over one relay -/

/-- The addresses of a source, a relay and an end. -/
def sourceUid : Uid := linkLocal 0 8

def relayUid : Uid := linkLocal 1 0

def endUid : Uid := linkLocal 0 1

/-- The relay's echo, and the end's announcement of the name `far`, which the
relay passes on. -/
def relayEcho : Package := { rid := 0x100, flags := PackageType.ECHO.code, data := [] }

def farAnnouncement : Package :=
  { rid := 0x200
    flags := PACKAGE_IDENTIFIED ||| PackageType.ANNOUNCEMENT.code
    data := endUid.toList ++ [102, 97, 114] }

/-- The source as it is switched on. -/
def farBoot : Node := boot sourceUid (init_settings (nameOf [])) fun n => UInt8.ofNat (n + 1)

/-- The source when it has a route to the end over the relay. -/
def farSource : Node := received (received farBoot relayEcho relayUid) farAnnouncement relayUid

/-- The message as the source sends it to the relay. -/
def farPackage : Package :=
  { rid := 0x8070605
    flags := messageFlags ||| PACKAGE_INTERMEDIATE
    data := endUid.toList ++ sourceUid.toList ++ [104, 105] }

/-- A relay with these neighbours and a route to the end, which is the second of them. -/
def relayWith (neighbors : List Uid) : Node :=
  let s := boot relayUid (init_settings (nameOf [])) fun _ => 0
  match Transmission.initial.registrations neighbors with
  | .ok t => s.setTransmission (t.register_uid endUid (some 1) none)
  | .error _ => s

/-- The end with the relay as its neighbour. -/
def farTarget : Node :=
  let s := boot endUid (init_settings (nameOf [])) fun _ => 0
  s.setTransmission (s.transmission.new_neighbor relayUid)

theorem farBoot_booted : Booted sourceUid farBoot := ⟨_, _, rfl⟩

set_option maxRecDepth 20000 in
theorem farSource_reached : Runs farBoot farSource :=
  .tail (.single (.receive relayEcho relayUid (received_eq (by decide))))
    (.receive farAnnouncement relayUid (received_eq (by decide)))

set_option maxRecDepth 20000 in
theorem farSource_routes : farSource.freeSlot = some 0 ∧
    farSource.transmission.find_table_by_name [102, 97, 114] = some 0 ∧
      (farSource.transmission.uid_table 0).uid = endUid ∧
        (farSource.transmission.uid_table 0).link = some 0 := by
  decide

set_option maxRecDepth 20000 in
/-- Whatever `send_out_by_name` leaves, it has sent the message to the relay. -/
theorem farSource_sends {s₁ : Node}
    (h : farSource.send_out_by_name [102, 97, 114] [104, 105] .MSG = .ok (s₁, true)) :
    .send_package (.sendout 0) farPackage relayUid ∈ farSource.since s₁ := by
  have hsends : (farSource.send_out_by_name [102, 97, 114] [104, 105] .MSG).toOption.map
      (fun r => farSource.since r.1) = some [.make_package_head (.sendout 0) 0x8070605,
        .send_package (.sendout 0) farPackage relayUid] := by
    decide
  rw [h] at hsends
  have hnew := Option.some.inj hsends
  dsimp only at hnew
  rw [hnew]
  exact List.mem_cons_of_mem _ (List.mem_singleton_self _)

set_option maxRecDepth 20000 in
theorem farTarget_awaits : farTarget.Awaits relayUid farPackage.rid :=
  ⟨by decide, by decide, 0, by decide⟩

set_option maxRecDepth 20000 in
theorem relayWith_leads {neighbors : List Uid}
    (hneighbors : neighbors = [linkLocal 0 2, endUid] ∨ neighbors = nineNeighbors) :
    Leads endUid farPackage.rid [relayWith neighbors] sourceUid relayUid := by
  obtain rfl | rfl := hneighbors
  · exact ⟨by decide, by decide, by decide, by decide, endUid,
      ⟨0, 1, by decide, by decide, by decide⟩, rfl⟩
  · exact ⟨by decide, by decide, by decide, by decide, endUid,
      ⟨0, 1, by decide, by decide, by decide⟩, rfl⟩

set_option maxRecDepth 20000 in
/-- With two neighbours the relay lets the message through to the end. -/
theorem far_message_delivered : Delivered sourceUid endUid [104, 105]
    [relayWith [linkLocal 0 2, endUid]] farTarget { package := farPackage, dest := relayUid } := by
  obtain ⟨hslot, hfind, huid, hlink⟩ := farSource_routes
  have hroute : ∀ e, farSource.transmission.find_table_by_name [102, 97, 114] = some e →
      (farSource.transmission.uid_table e).link.isSome = true := by
    intro e he
    obtain rfl := Option.some.inj (hfind.symm.trans he)
    rw [hlink]
    rfl
  have hshort : ([104, 105] : List UInt8).length ≤ 23 := by decide
  obtain ⟨s₁, hsend, hdelivers⟩ := message_delivered_iff farBoot_booted
    farSource_reached hslot hshort (by decide) hroute
  have hkept : ∀ rid, .make_package_head (.sendout 0) rid ∉ s₁.since s₁ := by
    intro rid hmem
    rw [since, List.drop_length] at hmem
    cases hmem
  obtain ⟨last, hlast, hall⟩ := hdelivers s₁ .refl hkept
  obtain rfl := (hlast 0 hfind).symm.trans huid
  refine (hall farPackage relayUid (farSource_sends hsend) _ farTarget (relayWith_leads (.inl rfl))
    farTarget_awaits).mpr ⟨⟨⟨none, by decide⟩, trivial⟩, ?_⟩
  intro e he
  have hnone : farTarget.transmission.find_table_by_uid sourceUid = none := by decide
  rw [hnone] at he
  cases he

set_option maxRecDepth 20000 in
/-- With nine neighbours it looks for the source for ever. -/
theorem far_message_lost : ¬ ∀ (uid : Uid) (s₀ s s₁ : Node) (k : Fin SENDOUT_QTY)
    (name data : List UInt8) (e : Entry), Booted uid s₀ → Runs s₀ s → s.freeSlot = some k →
    data.length ≤ 23 → 0 ∉ data → s.transmission.find_table_by_name name = some e →
    s.send_out_by_name name data .MSG = .ok (s₁, true) →
    ∀ p dest, .send_package (.sendout k) p dest ∈ s.since s₁ → ∀ relays t,
      Leads (s.transmission.uid_table e).uid p.rid relays uid dest →
      t.Awaits (lastHop relays uid) p.rid →
      Delivered uid (s.transmission.uid_table e).uid data relays t { package := p, dest } := by
  intro hall
  obtain ⟨hslot, hfind, huid, hlink⟩ := farSource_routes
  have hsends : (farSource.send_out_by_name [102, 97, 114] [104, 105] .MSG).toOption.map Prod.snd =
      some true := by
    decide
  cases hsend : farSource.send_out_by_name [102, 97, 114] [104, 105] .MSG with
  | error =>
    rw [hsend] at hsends
    cases hsends
  | ok r =>
    obtain ⟨s₁, accepted⟩ := r
    rw [hsend] at hsends
    obtain rfl : accepted = true := Option.some.inj hsends
    have hdelivered := hall sourceUid farBoot farSource s₁ 0 _ _ 0 farBoot_booted
      farSource_reached hslot (by decide) (by decide) hfind hsend farPackage relayUid (farSource_sends hsend)
      [relayWith nineNeighbors] farTarget (by rw [huid]; exact relayWith_leads (.inr rfl))
      farTarget_awaits
    have hlost : convey [relayWith nineNeighbors] sourceUid
        { package := farPackage, dest := relayUid } = none := by
      decide
    have hconveyed := hdelivered.1
    rw [hlost] at hconveyed
    cases hconveyed

end Deployment

end concretid.ems
