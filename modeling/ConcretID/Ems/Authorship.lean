import ConcretID.Ems.Reliability

open concretid.memory concretid.network

namespace concretid.ems

open Node

/-! ## What a slot sends -/

/-- The package carries what the node with the uid has packed into a slot. -/
structure Package.Packed (p : Package) (uid : Uid) (type : PackageType) (data : List UInt8) : Prop where
  kind : type = .MSG ∨ type = .COMMAND
  content_eq : p.content =
    { rid := p.rid
      flags := PACKAGE_ACKLY ||| PACKAGE_IDENTIFIED ||| type.code
      data := uid.toList ++ data }

/-- The slot holds it. -/
structure Sendout.Packed (a : Sendout) (uid : Uid) (type : PackageType) (data : List UInt8) : Prop where
  kind : type = .MSG ∨ type = .COMMAND
  carries : a.Carries (a.package.rid &&& RID_FIXED) (PACKAGE_ACKLY ||| PACKAGE_IDENTIFIED ||| type.code)
    (uid.toList ++ data)

theorem Sendout.Filled.packed {a : Sendout} {uid : Uid} {rid : Rid} {type : PackageType} {data : List UInt8}
    (h : a.Filled uid rid type data) : a.Packed uid type data := by
  have hcarries := h.carries
  rw [← h.rid_eq] at hcarries
  exact ⟨h.kind, hcarries⟩

/-- What is sent from a slot carries what the slot holds, past its end only with a
head that names it. -/
theorem Sendout.Sent.packed {a b : Sendout} {uid dest : Uid} {type : PackageType} {data : List UInt8}
    (h : a.Sent a.key dest b) (ha : a.Packed uid type data) (htime : 0 ≤ a.time) :
    b.Packed uid type data ∧ (b.package.package b.size).Packed uid type data ∧
      ((b.package.package b.size).intermediate = true → dest ≠ (b.package.package b.size).head) := by
  obtain ⟨hcarries, _, hbypass⟩ := h.carries ha.carries htime
  rw [← h.rid_eq] at hcarries
  exact ⟨⟨ha.kind, hcarries⟩, ⟨ha.kind, hcarries.content_eq⟩, hbypass⟩

/-- A slot in use holds something packed. -/
def Sendout.Loaded (a : Sendout) (uid : Uid) : Prop := a.time ≠ 0 → ∃ type data, a.Packed uid type data

/-- A transmission of something packed. -/
def Package.Posted (p : Package) (uid dest : Uid) : Prop :=
  (∃ type data, p.Packed uid type data) ∧ (p.intermediate = true → dest ≠ p.head)

theorem SlotStep.posted {timing : Timing} {uid : Uid} {i : Fin SENDOUT_QTY} {a b : Sendout}
    {new : List Event} (hproper : timing.Proper) (hstep : SlotStep timing uid i a new b)
    (ha : a.Loaded uid) :
    b.Loaded uid ∧ ∀ p dest, .send_package (.sendout i) p dest ∈ new → p.Posted uid dest := by
  -- a step that sends, sends what the slot then holds
  have hsends : ∀ {a : Sendout} {dest : Uid}, a.Sent a.key dest b → 0 ≤ a.time →
      (∃ type data, a.Packed uid type data) →
      (∀ p d, .send_package (.sendout i) p d ∈ new → p = b.package.package b.size ∧ d = dest) →
      b.Loaded uid ∧ ∀ p d, .send_package (.sendout i) p d ∈ new → p.Posted uid d := by
    rintro a dest hsent htime ⟨type, data, hpacked⟩ hnew
    obtain ⟨hb, hp, hbypass⟩ := hsent.packed hpacked htime
    refine ⟨fun _ => ⟨type, data, hb⟩, fun p d hmem => ?_⟩
    obtain ⟨rfl, rfl⟩ := hnew p d hmem
    exact ⟨⟨type, data, hp⟩, hbypass⟩
  cases hstep with
  | free => exact ⟨fun hused => absurd rfl hused, by simp⟩
  | refuse size hfree => exact ⟨fun hused => absurd hfree hused, by simp⟩
  | @count time htime =>
    refine ⟨fun _ => ?_, by simp⟩
    obtain ⟨type, data, hkind, hfixed, hcontent, hsized, hroom, hwrapped⟩ := ha (by omega)
    refine ⟨type, data, hkind, hfixed, hcontent, hsized, hroom, fun hset => ⟨?_, (hwrapped hset).2⟩⟩
    have hpos := (hwrapped hset).1
    dsimp only
    omega
  | wait hfree hfilled htime => exact ⟨fun _ => ⟨_, _, hfilled.packed⟩, by simp⟩
  | start hfree hfilled htime hsent =>
    refine hsends hsent ?_ ⟨_, _, hfilled.packed⟩ (by simp)
    rw [htime]
    exact Int.le_of_lt hproper.sending_pos
  | @solve _ key dest htime hsent =>
    obtain ⟨type, data, hkind, hfixed, hcontent, hsized, hroom, hwrapped⟩ := ha (by omega)
    have hpacked : { a with key, time := timing.sending : Sendout }.Packed uid type data := by
      refine ⟨hkind, hfixed, hcontent, hsized, hroom, fun hset => ?_⟩
      -- a package that still waits for its name is bare
      have hwaited := (hwrapped hset).1
      omega
    have hpos : 0 ≤ ({ a with key, time := timing.sending } : Sendout).time := by
      dsimp only
      exact Int.le_of_lt hproper.sending_pos
    exact hsends hsent hpos ⟨type, data, hpacked⟩ (by simp)
  | @resend _ dest htime hsent =>
    obtain ⟨type, data, hkind, hcarries⟩ := ha (by omega)
    have hinc := hcarries.resend htime
    rw [← RID_INC_fixed] at hinc
    have hpos : 0 ≤ a.time - 1 := by omega
    exact hsends hsent hpos ⟨type, data, hkind, hinc⟩ (by simp)

/-- A slot that was free sends nothing but what it was filled with. -/
theorem SlotRun.posted {timing : Timing} {uid : Uid} {i : Fin SENDOUT_QTY} {a b : Sendout}
    {events : List Event} (hproper : timing.Proper) (hrun : SlotRun timing uid i a events b)
    (hfree : a.time = 0) :
    b.Loaded uid ∧ ∀ p dest, .send_package (.sendout i) p dest ∈ events → p.Posted uid dest := by
  induction hrun with
  | refl => exact ⟨fun hused => absurd hfree hused, by simp⟩
  | step hrun hstep ih =>
    obtain ⟨hloaded, hsends⟩ := hstep.posted hproper ih.1
    refine ⟨hloaded, fun p dest hmem => ?_⟩
    obtain hold | hnew := List.mem_append.mp hmem
    · exact ih.2 p dest hold
    · exact hsends p dest hnew

/-! ## What a package says to its end -/

namespace Package.Packed

variable {p : Package} {uid : Uid} {type : PackageType} {data : List UInt8}

theorem flags_spec (type : PackageType) : typeOf (PACKAGE_ACKLY ||| PACKAGE_IDENTIFIED ||| type.code) = type ∧
    hasFlag (PACKAGE_ACKLY ||| PACKAGE_IDENTIFIED ||| type.code) PACKAGE_IDENTIFIED = true := by
  cases type <;> decide

theorem type_eq (h : p.Packed uid type data) : p.type = type := by
  rw [← Package.content_type, h.content_eq]
  exact (flags_spec type).1

/-- The source and the body of a package that has arrived. -/
theorem arrived (h : p.Packed uid type data) (hdirect : p.intermediate = false) :
    p.source = some uid ∧ p.body = data := by
  have hp := h.content_eq
  rw [Package.content_of_direct hdirect] at hp
  have hflags := congrArg Package.flags hp
  have hdata := congrArg Package.data hp
  dsimp only at hflags hdata
  have hidentified : p.identified = true := by
    rw [Package.identified, hflags]
    exact (flags_spec type).2
  refine ⟨?_, ?_⟩
  · rw [Package.source, if_pos hidentified, Package.head, hdata, uidAt_append]
  · rw [Package.body, Package.offset, if_pos hidentified, hdata]
    exact List.drop_left' uid.2

/-- Carrying the same is being packed by the same. -/
theorem of_content {q : Package} (h : p.Packed uid type data) (hcontent : q.content = p.content) :
    q.Packed uid type data := by
  refine ⟨h.kind, ?_⟩
  have hrid := congrArg Package.rid hcontent
  rw [Package.content_rid, Package.content_rid] at hrid
  rw [hcontent, h.content_eq, hrid]

end Package.Packed

theorem Package.Posted.kind {p : Package} {uid dest : Uid} (h : p.Posted uid dest) : p.type ∈ Sendout.kinds := by
  obtain ⟨⟨type, data, hpacked⟩, -⟩ := h
  rw [hpacked.type_eq]
  obtain hkind | hkind := hpacked.kind <;> simp [Sendout.kinds, hkind]

/-- What is printed or executed for a package is a deed of its type. -/
theorem Outcome.deeds {s : Node} {p : Package} {src : Uid} {deeds : List Event} {e : Event}
    (h : Outcome s p src deeds) (he : e ∈ deeds)
    (hshows : (∃ title sender text, e = .message title sender text) ∨ ∃ cmd, e = .execute_cmd cmd) :
    p.intermediate = false ∧ ∃ link new, Deeds p src link new ∧ e ∈ new := by
  have hne : e ≠ .register_rid p.rid := by
    obtain ⟨title, sender, text, rfl⟩ | ⟨cmd, rfl⟩ := hshows <;> simp
  cases h with
  | rejected => cases he
  | relayed _ _ hpassage =>
    cases hpassage with
    | short => cases he
    | stuck => exact absurd (List.mem_singleton.mp he) hne
    | relay l =>
      obtain ⟨title, sender, text, rfl⟩ | ⟨cmd, rfl⟩ := hshows <;> simp at he
  | handled _ hdirect _ hcourse =>
    refine ⟨hdirect, ?_⟩
    cases hcourse with
    | short => cases he
    | refused => cases he
    | again => exact absurd (List.mem_singleton.mp he) hne
    | new _ _ _ hdeeds =>
      obtain heq | hmem := List.mem_cons.mp he
      · exact absurd heq hne
      · exact ⟨_, _, hdeeds, hmem⟩

/-- The line printed for a package tells what it says. -/
theorem Outcome.message {s : Node} {p : Package} {src : Uid} {deeds : List Event} {title : String}
    {sender : Option Uid} {text : List UInt8} (h : Outcome s p src deeds)
    (he : .message title sender text ∈ deeds) :
    p.intermediate = false ∧ sender = p.source ∧
      ((p.type = .MSG ∧ title = "new msg" ∧ text = cstring p.body) ∨ p.type = .MSG_TO ∨
        (p.type = .BROADCAST_MSG ∧ title = "broadcast msg" ∧ text = cstring p.body)) := by
  obtain ⟨hdirect, link, new, hdeeds, hmem⟩ := h.deeds he (.inl ⟨title, sender, text, rfl⟩)
  refine ⟨hdirect, ?_⟩
  cases hdeeds.mem hmem with
  | message _ _ htype =>
    refine ⟨rfl, ?_⟩
    unfold Deeds at hdeeds
    obtain htype | htype | htype := htype
    · simp only [htype] at hdeeds
      rw [hdeeds, List.mem_singleton] at hmem
      exact .inl ⟨htype, (Event.message.inj hmem).1, (Event.message.inj hmem).2.2⟩
    · exact .inr (.inl htype)
    · simp only [htype] at hdeeds
      simp only [hdeeds, List.mem_cons, Event.message.injEq, true_and, reduceCtorEq, List.not_mem_nil,
        or_false] at hmem
      exact .inr (.inr ⟨htype, hmem⟩)

/-- The command executed for a package is the one it carries. -/
theorem Outcome.command {s : Node} {p : Package} {src : Uid} {deeds : List Event} {cmd : List UInt8}
    (h : Outcome s p src deeds) (he : .execute_cmd cmd ∈ deeds) :
    p.intermediate = false ∧ p.type = .COMMAND ∧ cmd = cstring p.body := by
  obtain ⟨hdirect, link, new, hdeeds, hmem⟩ := h.deeds he (.inr ⟨cmd, rfl⟩)
  refine ⟨hdirect, ?_⟩
  cases hdeeds.mem hmem with
  | execute_cmd _ htype =>
    unfold Deeds at hdeeds
    simp only [htype] at hdeeds
    rw [hdeeds, List.mem_singleton] at hmem
    exact ⟨htype, Event.execute_cmd.inj hmem⟩

/-! ## Where messages come from -/

namespace Deployment

/-- A slot of the node has sent a package of this type and with this data, for this end. -/
def Posts {ι : Type} (D : Deployment ι) (c : Config ι Node Datagram) (i : ι) (type : PackageType)
    (data : List UInt8) (last : Uid) : Prop :=
  ∃ k p dest, .send_package (.sendout k) p dest ∈ (c.node i).trace ∧ p.Packed (D.uid i) type data ∧
    p.finalDest dest = last

/-- The node has sent everyone a text of its own. -/
def Broadcasts {ι : Type} (c : Config ι Node Datagram) (i : ι) (text : List UInt8) : Prop :=
  ∃ p, .send_package .messages p broadcast_uid ∈ (c.node i).trace ∧
    p.flags = PackageType.BROADCAST_MSG.code ∧ p.data = text

/-- What `messages.c` sends is no message and no command, or a broadcast. -/
theorem mail_type {c : Context} {p : Package} {dest : Uid} (h : Mail c p dest) :
    p.type ∉ Sendout.kinds ∧ p.type ≠ .MSG_TO ∧
      (p.type = .BROADCAST_MSG → p.flags = PackageType.BROADCAST_MSG.code ∧ dest = broadcast_uid) := by
  cases h with
  | ack l hacks hcontent => 
    rw [← Package.content_type, hcontent]
    simp [Package.type, Sendout.kinds]
  | announcement l name hcontent => 
    rw [← Package.content_type, hcontent]
    simp [Package.type, Sendout.kinds]
  | broadcast_ack => simp [Package.type, Sendout.kinds]
  | echo => simp [Package.type, Sendout.kinds]
  | reecho => simp [Package.type, Sendout.kinds]
  | uid_request => simp [Package.type, Sendout.kinds]
  | name_request => simp [Package.type, Sendout.kinds]
  | discovery => simp [Package.type, Sendout.kinds]
  | neighbor_request => simp [Package.type, Sendout.kinds]
  | broadcast_msg => simp [Package.type, Sendout.kinds]

/-- A package on the air that is no neighbour request carries what its root carries. -/
theorem content_root {ι : Type} [DecidableEq ι] {D : Deployment ι} {c : Config ι Node Datagram}
    (h : Reachable D.protocol c) {m : Packet ι Datagram} (hm : m ∈ c.air)
    (htype : m.msg.package.type ≠ .NEIGHBOR_REQUEST) :
    ∃ i msg, .origin i msg ∈ c.air ∧ m.msg.package.content = msg.package.content := by
  induction m with
  | origin i msg => exact ⟨i, msg, hm, rfl⟩
  | copy i msg received ih =>
    obtain ⟨a, _, _, rfl, deeds, hheard, hsend⟩ := copy_deed h hm
    have hair := h.copy_source hm
    obtain ⟨q, dest⟩ := msg
    rw [Packet.copy_msg] at htype ⊢
    dsimp only at hsend htype ⊢
    cases hheard.outcome.mem hsend with
    | relay l _ hcontent =>
      rw [← Package.content_type, hcontent, Package.content_type] at htype
      obtain ⟨j, root, hroot, hsame⟩ := ih hair htype
      exact ⟨j, root, hroot, hcontent.trans hsame⟩
    | handled _ _ hdeed =>
      cases hdeed with
      | flood =>
        rw [Package.type, Package.forwarded_flags] at htype
        rw [Package.forwarded_eq htype]
        exact ih hair htype

/-- A package that is no copy was posted by a slot or is one of `messages.c`. -/
theorem origin_sent {ι : Type} [DecidableEq ι] {D : Deployment ι} {c : Config ι Node Datagram}
    (h : Reachable D.protocol c) {i : ι} {msg : Datagram} (hm : .origin i msg ∈ c.air) :
    (∃ k, .send_package (.sendout k) msg.package msg.dest ∈ (c.node i).trace ∧
      msg.package.Posted (D.uid i) msg.dest ∧ msg.dest ≠ broadcast_uid) ∨
    (.send_package .messages msg.package msg.dest ∈ (c.node i).trace ∧
      ∃ context, Mail context msg.package msg.dest) := by
  obtain ⟨b, hb, he, hown⟩ := origin_own h hm
  cases b with
  | process => exact absurd rfl hb
  | sendout k =>
    obtain ⟨timing, a, hproper, hfree, hrun⟩ := (settled h i).lives.slot_run k
    refine .inl ⟨k, he, ?_, ?_⟩
    · exact (hrun.posted hproper hfree).2 _ _ (List.mem_filter.mpr ⟨he, by simp [Event.ofSlot]⟩)
    · generalize msg.dest = dest at hown
      obtain ⟨s, hsettled, hown⟩ | ⟨a, _, _, deeds, hheard, hown⟩ := hown
      · cases hown with
        | slot k p l => exact hsettled.neighbor_ne_broadcast l
      · cases hown with
        | slot k p l => exact hheard.settled.neighbor_ne_broadcast l
  | messages =>
    refine .inr ⟨he, ?_⟩
    obtain ⟨s, _, hown⟩ | ⟨a, _, _, deeds, _, hown⟩ := hown
    · cases hown with
      | mail hmail => exact ⟨_, hmail⟩
    · cases hown with
      | mail hmail => exact ⟨_, hmail⟩

/-- No node sends a package of the type MSG_TO. -/
theorem type_ne_msg_to {ι : Type} [DecidableEq ι] {D : Deployment ι} {c : Config ι Node Datagram}
    (h : Reachable D.protocol c) {m : Packet ι Datagram} (hm : m ∈ c.air) :
    m.msg.package.type ≠ .MSG_TO := by
  intro htype
  obtain ⟨i, msg, hroot, hcontent⟩ := content_root h hm (by simp [htype])
  rw [← Package.content_type, hcontent, Package.content_type] at htype
  obtain ⟨k, -, hposted, -⟩ | ⟨-, context, hmail⟩ := origin_sent h hroot
  · have hkind := hposted.kind
    rw [htype] at hkind
    simp [Sendout.kinds] at hkind
  · exact (mail_type hmail).2.1 htype

/-- A message or a command on the air was posted by the node it names, and is on its way to
the end it was posted for. -/
theorem carried_posted {ι : Type} [DecidableEq ι] {D : Deployment ι} {c : Config ι Node Datagram}
    (h : Reachable D.protocol c) {m : Packet ι Datagram} (hm : m ∈ c.air)
    (hkind : m.msg.package.type ∈ Sendout.kinds) :
    ∃ i type data last, D.Posts c i type data last ∧ m.msg.Carried last ∧
      m.msg.package.Packed (D.uid i) type data := by
  induction m with
  | origin i msg =>
    rw [Packet.origin_msg] at hkind ⊢
    obtain ⟨k, he, ⟨⟨type, data, hpacked⟩, hbypass⟩, hdest⟩ | ⟨-, context, hmail⟩ := origin_sent h hm
    · exact ⟨i, type, data, _, ⟨k, _, _, he, hpacked, rfl⟩, ⟨hkind, rfl, hbypass, hdest⟩, hpacked⟩
    · exact absurd hkind (mail_type hmail).1
  | copy i msg received ih =>
    obtain ⟨a, _, _, rfl, deeds, hheard, hsend⟩ := copy_deed h hm
    have hair := h.copy_source hm
    obtain ⟨q, dest⟩ := msg
    rw [Packet.copy_msg] at hkind ⊢
    dsimp only at hsend hkind ⊢
    cases hheard.outcome.mem hsend with
    | relay l hintermediate hcontent hend =>
      have htype : q.type = a.packet.msg.package.type := by
        rw [← Package.content_type, hcontent, Package.content_type]
      rw [htype] at hkind
      obtain ⟨j, type, data, last, hposts, hcarried, hpacked⟩ := ih hair hkind
      have hother : a.packet.msg.package.type ≠ .ANNOUNCEMENT := by
        obtain hmsg | hcommand := kinds_cases hkind
        · simp [hmsg]
        · simp [hcommand]
      obtain ⟨hfinal, hbypass⟩ := hend hother
      have hlast := hcarried.end_eq
      rw [Package.finalDest, if_pos hintermediate] at hlast
      exact ⟨j, type, data, last, hposts,
        ⟨htype ▸ hkind, hfinal.trans hlast, hbypass, hheard.settled.neighbor_ne_broadcast l⟩,
        hpacked.of_content hcontent⟩
    | handled _ _ hdeed =>
      cases hdeed with
      | flood hfloods =>
        rw [Package.type, Package.forwarded_flags] at hkind
        unfold Package.floods Package.type at hfloods
        obtain hmsg | hcommand := kinds_cases hkind
        · simp [hmsg] at hfloods
        · simp [hcommand] at hfloods

/-- A broadcast on the air is a text of some node. -/
theorem broadcast_root {ι : Type} [DecidableEq ι] {D : Deployment ι} {c : Config ι Node Datagram}
    (h : Reachable D.protocol c) {m : Packet ι Datagram} (hm : m ∈ c.air)
    (htype : m.msg.package.type = .BROADCAST_MSG) (hdirect : m.msg.package.intermediate = false) :
    m.msg.package.flags = PackageType.BROADCAST_MSG.code ∧ ∃ i, Broadcasts c i m.msg.package.data := by
  obtain ⟨i, msg, hroot, hcontent⟩ := content_root h hm (by simp [htype])
  rw [← Package.content_type, hcontent, Package.content_type] at htype
  obtain ⟨k, -, hposted, -⟩ | ⟨he, context, hmail⟩ := origin_sent h hroot
  · have hkind := hposted.kind
    rw [htype] at hkind
    simp [Sendout.kinds] at hkind
  · obtain ⟨hflags, hdest⟩ := (mail_type hmail).2.2 htype
    have hbare : msg.package.intermediate = false := by
      rw [Package.intermediate, hflags]
      decide
    rw [Package.content_of_direct hdirect, Package.content_of_direct hbare] at hcontent
    rw [hcontent]
    refine ⟨hflags, i, msg.package, ?_, hflags, rfl⟩
    rwa [← hdest]

/-- What a node prints or executes for a package that came for it: what was posted for it. -/
theorem heard_posted {ι : Type} [DecidableEq ι] {D : Deployment ι} {c : Config ι Node Datagram}
    (h : Reachable D.protocol c) {a : Arrival ι Node Datagram} (ha : a ∈ c.arrivals)
    (hkind : a.packet.msg.package.type ∈ Sendout.kinds) (hdirect : a.packet.msg.package.intermediate = false) :
    ∃ i, a.packet.msg.package.source = some (D.uid i) ∧
      D.Posts c i a.packet.msg.package.type a.packet.msg.package.body (D.uid a.receiver) := by
  obtain ⟨deeds, hheard⟩ := heard h ha
  obtain ⟨i, type, data, last, hposts, hcarried, hpacked⟩ := carried_posted h (h.arrival ha).1 hkind
  obtain ⟨hsource, hbody⟩ := hpacked.arrived hdirect
  have hlast : last = D.uid a.receiver := by
    rw [← hcarried.arrived.mp hdirect]
    exact hheard.dest.resolve_right hcarried.ne_broadcast
  refine ⟨i, hsource, ?_⟩
  rwa [hpacked.type_eq, hbody, ← hlast]

/-- Whatever a node prints as a message was sent by the node it names, with that text and
to no other node, and so was every command it executes for another; whatever it prints as
a broadcast some node has sent to all. -/
theorem messages_authentic {ι : Type} [DecidableEq ι] {D : Deployment ι} {c : Config ι Node Datagram}
    (h : Reachable D.protocol c) :
    (∀ j title sender text, .message title sender text ∈ (c.node j).trace →
      (title = "new msg" ∧ ∃ i data, sender = some (D.uid i) ∧ text = cstring data ∧
        D.Posts c i .MSG data (D.uid j)) ∨
      (title = "broadcast msg" ∧ sender = none ∧ ∃ i data, text = cstring data ∧ Broadcasts c i data)) ∧
    ∀ a ∈ c.arrivals, ∀ cmd, .execute_cmd cmd ∈ a.before.since a.after →
      ∃ i data, cmd = cstring data ∧ D.Posts c i .COMMAND data (D.uid a.receiver) := by
  refine ⟨fun j title sender text hmem => ?_, fun a ha cmd hmem => ?_⟩
  · obtain ⟨s, _, hown⟩ | hcall | ⟨a, ha, rfl, hsince⟩ := event_cases h hmem
    · cases hown
    · obtain heq | heq | ⟨cmd, heq⟩ := hcall <;> cases heq
    · obtain ⟨deeds, hheard⟩ := heard h ha
      obtain heq | hdeed | ⟨hown, _⟩ := hheard.mem hsince
      · cases heq
      · obtain ⟨hdirect, rfl, ⟨htype, rfl, rfl⟩ | htype | ⟨htype, rfl, rfl⟩⟩ := hheard.outcome.message hdeed
        · obtain ⟨i, hsource, hposts⟩ := heard_posted h ha (by simp [htype, Sendout.kinds]) hdirect
          rw [htype] at hposts
          exact .inl ⟨rfl, i, _, hsource, rfl, hposts⟩
        · exact absurd htype (type_ne_msg_to h (h.arrival ha).1)
        · obtain ⟨hflags, i, hbroadcasts⟩ := broadcast_root h (h.arrival ha).1 htype hdirect
          have hidentified : a.packet.msg.package.identified = false := by
            rw [Package.identified, hflags]
            decide
          refine .inr ⟨rfl, ?_, i, _, ?_, hbroadcasts⟩
          · rw [Package.source, hidentified]
            rfl
          · rw [Package.body, Package.offset, hidentified]
            rfl
      · cases hown
  · obtain ⟨deeds, hheard⟩ := heard h ha
    obtain heq | hdeed | ⟨hown, _⟩ := hheard.mem hmem
    · cases heq
    · obtain ⟨hdirect, htype, rfl⟩ := hheard.outcome.command hdeed
      obtain ⟨i, -, hposts⟩ := heard_posted h ha (by simp [htype, Sendout.kinds]) hdirect
      rw [htype] at hposts
      exact ⟨i, _, rfl, hposts⟩
    · cases hown

set_option maxRecDepth 20000 in
/-- The second node of the pair prints what the first one has sent it. -/
theorem pair_authentic : ∃ c, Reachable pair.protocol c ∧
    .message "new msg" (some (pair.uid 0)) [104, 105] ∈ (c.node 1).trace ∧
      ∃ i data, some (pair.uid 0) = some (pair.uid i) ∧ [104, 105] = cstring data ∧
        pair.Posts c i .MSG data (pair.uid 1) := by
  have hsent : PairAt _ _ (.origin 0 pairMessage) :=
    pair_introduced.call
      (pair_act (k := .send_out_by_name [] [104, 105] .MSG (.inl rfl)) (by decide) (by decide))
  have hprinted : PairAt _ _ (.origin 1 pairAck) :=
    hsent.second rfl (.inl rfl)
      (pair_receive (o := [(false, pairAck)]) (by decide) (by decide)) (by simp [emitted])
  obtain ⟨c, hreach, -, hsecond, -⟩ := hprinted
  have hmessage : .message "new msg" (some (pair.uid 0)) [104, 105] ∈ (c.node 1).trace := by
    rw [hsecond]
    decide
  refine ⟨c, hreach, hmessage, ?_⟩
  obtain ⟨-, hposted⟩ | ⟨hbroadcast, -⟩ := (messages_authentic hreach).1 1 _ _ _ hmessage
  · exact hposted
  · exact absurd hbroadcast (by decide)

end Deployment

end concretid.ems
