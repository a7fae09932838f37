import ConcretID.Ems.Authorship
import ConcretID.Ems.Delivery
import ConcretID.Ems.Naming

open concretid.memory concretid.network

namespace concretid.ems

open Node

namespace Package.Announces

variable {p : Package} {uid : Uid} {name : Name}

/-- An announcement that has come says whose it is and the name. -/
theorem taught (h : p.Announces uid name) {source : Uid} {text : List UInt8} (hteaches : p.Teaches source text) :
    source = uid ∧ text = cstring name.toList := by
  have hdata : p.data = uid.toList ++ strncpy name.toList NAME_SIZE := by
    have hcontent := h
    rwa [Package.Announces, Package.content_of_direct hteaches.direct] at hcontent
  have hidentified : p.identified = true := by
    have hsource := hteaches.source_eq
    unfold Package.source at hsource
    split at hsource
    · assumption
    · cases hsource
  have hsource := hteaches.source_eq
  rw [Package.source, if_pos hidentified, Package.head, hdata, uidAt_append] at hsource
  have hbody : p.body = strncpy name.toList NAME_SIZE := by
    rw [Package.body, Package.offset, if_pos hidentified, hdata]
    exact List.drop_left' uid.2
  refine ⟨(Option.some.inj hsource).symm, ?_⟩
  rw [hteaches.text_eq, hbody, cstring_announced]

/-- Carrying the same is announcing the same. -/
theorem of_content {q : Package} (h : p.Announces uid name) (hcontent : q.content = p.content) :
    q.Announces uid name := by
  rw [Package.Announces, hcontent]
  exact h

end Package.Announces

/-! ## Sending to a name -/

/-- What a slot holds without a head it may hold for any uid. -/
theorem Sendout.Packed.rekey {a : Sendout} {uid : Uid} {type : PackageType} {data : List UInt8}
    (h : a.Packed uid type data) (hbare : hasFlag a.package.flags PACKAGE_INTERMEDIATE = false) (key : Uid)
    (time : Int) : ({ a with key, time } : Sendout).Packed uid type data := by
  obtain ⟨hkind, hfixed, hcontent, hsized, hroom, -⟩ := h
  refine ⟨hkind, hfixed, hcontent, hsized, hroom, fun hset => ?_⟩
  dsimp only at hset
  rw [hbare] at hset
  cases hset

namespace Node

/-- A slot sends what it holds to its uid. -/
theorem sendSlot_sent {s s' : Node} {i : Fin SENDOUT_QTY} {uidt : Entry} {uid : Uid} {type : PackageType}
    {data : List UInt8} (hpacked : (s.sendout_package i).Packed uid type data)
    (htime : 0 ≤ (s.sendout_package i).time)
    (hkey : (s.transmission.uid_table uidt).uid = (s.sendout_package i).key) (h : s.sendSlot i uidt = .ok s') :
    ∃ p dest, Touches s s' i [.send_package (.sendout i) p dest] ∧
      p.finalDest dest = (s.transmission.uid_table uidt).uid := by
  obtain ⟨l, c, hsent, -, htouch⟩ := Touches.sendSlot h hkey
  obtain ⟨-, hend, -⟩ := hsent.carries hpacked.carries htime
  refine ⟨_, _, htouch, ?_⟩
  rw [hend, hsent.key_eq, hkey]

/-- A slot whose name has been found sends what it holds to the uid of the entry. -/
theorem solveSlot_sent {s s' : Node} {i : Fin SENDOUT_QTY} {uidt : Entry} {uid : Uid} {type : PackageType}
    {data : List UInt8} (hproper : s.me.timing.Proper) (hpacked : (s.sendout_package i).Packed uid type data)
    (hbare : hasFlag (s.sendout_package i).package.flags PACKAGE_INTERMEDIATE = false)
    (h : s.solveSlot i uidt = .ok s') :
    ∃ p dest, Touches s s' i [.send_package (.sendout i) p dest] ∧
      p.finalDest dest = (s.transmission.uid_table uidt).uid := by
  have hset := hpacked.rekey hbare (s.transmission.uid_table uidt).uid s.me.timing.sending
  have htime : 0 ≤ s.me.timing.sending := Int.le_of_lt hproper.sending_pos
  unfold Node.solveSlot at h
  dsimp only at h
  obtain ⟨p, dest, htouch, hend⟩ := @sendSlot_sent _ s' i uidt uid type data
    (by rwa [setSendout_self]) (by rw [setSendout_self]; dsimp only; exact htime)
    (by rw [setSendout_self]; rfl) h
  exact ⟨p, dest, (Touches.setSendout s i _).trans htouch, hend⟩

/-- An entry found by a name that has a text has that text. -/
theorem find_table_by_name_text {t : Transmission} {name : List UInt8} {e : Entry}
    (h : t.find_table_by_name name = some e) :
    (t.uid_table e).text = cstring (name.take NAME_SIZE) := by
  have hfound := List.find?_some h
  have hname : (t.uid_table e).name.toList.length = NAME_SIZE := (t.uid_table e).name.2
  rw [strncmp_eq, beq_iff_eq, List.take_of_length_le (Nat.le_of_eq hname)] at hfound
  exact hfound

theorem hasFlag_waiting (type : PackageType) :
    hasFlag (PACKAGE_ACKLY ||| PACKAGE_IDENTIFIED ||| type.code) PACKAGE_INTERMEDIATE = false := by
  cases type <;> decide

theorem filled_bare (s : Node) (i : Fin SENDOUT_QTY) (size : Nat) (type : PackageType) (data : List UInt8) :
    hasFlag ((s.filled i size type data).sendout_package i).package.flags PACKAGE_INTERMEDIATE = false := by
  rw [filled_package]
  exact hasFlag_waiting type

/-- A package that has to wait for its name is not sent. -/
theorem waiting_sent_none (s : Node) (i k : Fin SENDOUT_QTY) (size : Nat) (type : PackageType)
    (name data : List UInt8) (p : Package) (dest : Uid) :
    .send_package (.sendout k) p dest ∉ s.since (((s.filled i size type data).setSendout i
      { (s.filled i size type data).sendout_package i with
        key := nameOf name, time := (s.filled i size type data).me.timing.solving }).send_name_request name) := by
  intro hmem
  generalize hslot : ({ (s.filled i size type data).sendout_package i with
    key := nameOf name, time := (s.filled i size type data).me.timing.solving } : Sendout) = slot at hmem
  obtain ⟨-, q, htrace⟩ := send_name_request_shows ((s.filled i size type data).setSendout i slot) name
  have htouch := (Touches.filled s i size type data).then_setSendout slot
  rw [since, htrace, htouch.trace_eq, List.append_assoc, List.drop_left] at hmem
  simp at hmem

/-- What a call of `send_out_by_name` sends goes to the uid of an entry with the name. -/
theorem send_out_by_name_sent {s s' : Node} {name data : List UInt8} {type : PackageType} {accepted : Bool}
    (hproper : s.me.timing.Proper) (hkind : type = .MSG ∨ type = .COMMAND)
    (h : s.send_out_by_name name data type = .ok (s', accepted)) {k : Fin SENDOUT_QTY} {p : Package} {dest : Uid}
    (hmem : .send_package (.sendout k) p dest ∈ s.since s') :
    ∃ e, p.finalDest dest = (s.transmission.uid_table e).uid ∧
      (s.transmission.uid_table e).text = cstring (name.take NAME_SIZE) := by
  cases send_out_by_name_offered h with
  | full => simp [since] at hmem
  | refuse hslot size => simp [since, Node.setSendout] at hmem
  | @solve i hslot size hsize hroom _ _ _ =>
    have hdata : data.length ≤ 23 := by
      simp only [sizeof_package, sizeof_identified_head, sizeof_intermediate_head, SENDOUT_BUFFER_SIZE] at *
      omega
    rw [send_out_by_name_eq hslot name hdata type] at h
    dsimp only at h
    split at h
    · rename_i e hfind
      obtain ⟨s₁, hsolve, hdone⟩ := bind_eq_ok_iff.mp h
      obtain ⟨rfl, -⟩ := Prod.mk.inj (Except.ok.inj hdone)
      obtain ⟨htouch, hfilled⟩ := Touches.fill s i hkind rfl (hsize ▸ hroom)
      obtain ⟨q, d, hsend, hend⟩ := solveSlot_sent (by rwa [htouch.me_eq])
        (hfilled _ _).packed (filled_bare s i _ type data) hsolve
      rw [(htouch.trans hsend).since_eq] at hmem
      simp only [List.singleton_append, List.mem_cons, reduceCtorEq, Event.send_package.injEq,
        Buffer.sendout.injEq, List.not_mem_nil, or_false, false_or] at hmem
      obtain ⟨-, rfl, rfl⟩ := hmem
      rw [htouch.uid_table_eq] at hend
      exact ⟨e, hend, find_table_by_name_text hfind⟩
    · obtain ⟨rfl, -⟩ := Prod.mk.inj (Except.ok.inj h)
      exact absurd hmem (waiting_sent_none _ _ _ _ _ _ _ _ _)
  | @wait i hslot size hsize hroom _ hbuilt =>
    subst hbuilt
    exact absurd hmem (waiting_sent_none _ _ _ _ _ _ _ _ _)

/-- What one round of `check_send_out` leaves and sends: nothing from another slot, and from
one that waits for a name only to the uid of an entry with that name. -/
structure Checked (s s' : Node) (i : Fin SENDOUT_QTY) : Prop where
  table_eq : s'.transmission.uid_table = s.transmission.uid_table
  me_eq : s'.me = s.me
  my_uid_eq : s'.my_uid = s.my_uid
  others : ∀ j, j ≠ i → s'.sendout_package j = s.sendout_package j
  sends : ∃ new, s'.trace = s.trace ++ new ∧ ∀ k p dest, .send_package (.sendout k) p dest ∈ new →
    k = i ∧ ((s.sendout_package i).time < 0 → ∃ e, p.finalDest dest = (s.transmission.uid_table e).uid ∧
      (s.transmission.uid_table e).text = cstring (s.sendout_package i).key.toList)

theorem Checked.of_touches {s s' : Node} {i : Fin SENDOUT_QTY} {new : List Event} (h : Touches s s' i new)
    (hsends : ∀ k p dest, .send_package (.sendout k) p dest ∈ new →
      k = i ∧ ((s.sendout_package i).time < 0 → ∃ e, p.finalDest dest = (s.transmission.uid_table e).uid ∧
        (s.transmission.uid_table e).text = cstring (s.sendout_package i).key.toList)) : Checked s s' i :=
  ⟨h.uid_table_eq, h.me_eq, h.my_uid_eq, h.others, new, h.trace_eq, hsends⟩

/-- A slot that is counted, and then perhaps a letter about it. -/
theorem Checked.of_letter {s s' : Node} {i : Fin SENDOUT_QTY} (slot : Sendout) {flags : UInt8}
    {type : PackageType} {offset : Nat} {bytes : List UInt8} {size : Nat} {dest : Uid}
    (h : s' = (((s.setSendout i slot).make_package_head .messages flags type).writeData .messages offset
      bytes).send_package .messages size dest) : Checked s s' i := by
  subst h
  refine ⟨by simp [Node.send_package, Node.writeData, Node.setSendout], ?_, ?_, ?_, ?_⟩
  · simp [Node.send_package, Node.writeData, Node.setSendout, emit]
  · simp [Node.send_package, Node.writeData, Node.setSendout, emit]
  · intro j hj
    simp [Node.send_package, Node.writeData, Node.setSendout, Node.make_package_head, setPackageBuffer, emit, hj]
  · refine ⟨_, by simp [Node.send_package, Node.writeData, Node.setSendout]; rfl, ?_⟩
    intro k p d hmem
    simp at hmem

theorem check_send_out_slot_checked {s s' : Node} {i : Fin SENDOUT_QTY} (hproper : s.me.timing.Proper)
    (hloaded : (s.sendout_package i).Loaded s.my_uid) (h : s.check_send_out_slot i = .ok s') :
    Checked s s' i := by
  have hcounted : ∀ slot, Checked s (s.setSendout i slot) i :=
    fun slot => .of_touches (.setSendout s i slot) (by simp)
  unfold Node.check_send_out_slot at h
  dsimp only at h
  split at h
  · rename_i hneg
    split at h
    · -- the name is found
      rename_i e hfind
      obtain ⟨type, data, hpacked⟩ := hloaded (by omega)
      have hbare : hasFlag (s.sendout_package i).package.flags PACKAGE_INTERMEDIATE = false := by
        by_contra hset
        have hwrapped := hpacked.carries.wrapped (by simpa using hset)
        omega
      obtain ⟨p, dest, htouch, hend⟩ := solveSlot_sent hproper hpacked hbare h
      refine .of_touches htouch fun k q d hmem => ?_
      obtain ⟨hk, rfl, rfl⟩ := Event.send_package.inj (List.mem_singleton.mp hmem)
      have hkey : (s.sendout_package i).key.toList.take NAME_SIZE = (s.sendout_package i).key.toList :=
        List.take_of_length_le (Nat.le_of_eq (s.sendout_package i).key.2)
      have htext := find_table_by_name_text hfind
      rw [hkey] at htext
      exact ⟨Buffer.sendout.inj hk, fun _ => ⟨e, hend, htext⟩⟩
    · split at h
      · cases h
      · split at h
        · obtain rfl := Except.ok.inj h
          exact .of_letter _ rfl
        · obtain rfl := Except.ok.inj h
          exact hcounted _
  · rename_i hneg
    split at h
    · split at h
      · cases h
      · split at h
        · split at h
          · -- the route is known: send again
            rename_i e hfind
            obtain ⟨l, c, -, -, htouch⟩ := Touches.sendSlot h
              (by simpa [Node.setSendout, Node.setPackageBuffer] using find_table_by_uid_eq hfind)
            refine .of_touches (((Touches.setSendout s i _).trans (.setPackageBuffer _ i _)).trans htouch) ?_
            intro k p d hmem
            obtain ⟨hk, -⟩ := Event.send_package.inj (List.mem_singleton.mp hmem)
            exact ⟨Buffer.sendout.inj hk, fun hwaits => absurd hwaits hneg⟩
          · obtain rfl := Except.ok.inj h
            exact .of_letter _ rfl
        · obtain rfl := Except.ok.inj h
          exact hcounted _
    · obtain rfl := Except.ok.inj h
      exact ⟨rfl, rfl, rfl, fun _ _ => rfl, [], by simp, by simp⟩

/-- What a round over all slots sends for a slot that waits for a name goes to the uid of an
entry with that name. -/
theorem check_send_out_sent {s s' : Node} (hproper : s.me.timing.Proper)
    (hloaded : ∀ k, (s.sendout_package k).Loaded s.my_uid) (h : s.check_send_out = .ok s')
    {k : Fin SENDOUT_QTY} (hwaits : (s.sendout_package k).time < 0) {p : Package} {dest : Uid}
    (hmem : .send_package (.sendout k) p dest ∈ s.since s') :
    ∃ e, p.finalDest dest = (s.transmission.uid_table e).uid ∧
      (s.transmission.uid_table e).text = cstring (s.sendout_package k).key.toList := by
  obtain ⟨s₁, hfirst, hsecond⟩ := bind_eq_ok_iff.mp h
  have hone : Checked (s.emit .check_send_out) s₁ 0 := check_send_out_slot_checked hproper (hloaded 0) hfirst
  have hsame : s₁.sendout_package 1 = s.sendout_package 1 := hone.others 1 (by decide)
  have htwo : Checked s₁ s' 1 :=
    check_send_out_slot_checked (by rw [hone.me_eq]; exact hproper)
      (by rw [hsame, hone.my_uid_eq]; exact hloaded 1) hsecond
  obtain ⟨new₁, htrace₁, hsends₁⟩ := hone.sends
  obtain ⟨new₂, htrace₂, hsends₂⟩ := htwo.sends
  rw [since, htrace₂, htrace₁, emit_trace, List.append_assoc, List.append_assoc, List.drop_left] at hmem
  simp only [List.mem_append, List.mem_singleton, reduceCtorEq, false_or] at hmem
  obtain hmem | hmem := hmem
  · obtain ⟨rfl, hsends⟩ := hsends₁ k p dest hmem
    exact hsends hwaits
  · obtain ⟨rfl, hsends⟩ := hsends₂ k p dest hmem
    rw [hsame, hone.table_eq] at hsends
    exact hsends hwaits

end Node

namespace Deployment

/-! ## What nodes call themselves -/

/-- The text was a node's name when it handled some package. -/
def HadName {ι : Type} (c : Config ι Node Datagram) (j : ι) (text : List UInt8) : Prop :=
  ∃ a ∈ c.arrivals, a.receiver = j ∧ cstring a.before.me.name.toList = text

/-- Some node has the uid and had the name. -/
def Genuine {ι : Type} (D : Deployment ι) (c : Config ι Node Datagram) (uid : Uid) (text : List UInt8) : Prop :=
  ∃ j, D.uid j = uid ∧ HadName c j text

theorem Genuine.later {ι : Type} [DecidableEq ι] {D : Deployment ι} {c c' : Config ι Node Datagram} {uid : Uid}
    {text : List UInt8} (h : D.Genuine c uid text) (hstep : Step D.protocol c c') : D.Genuine c' uid text := by
  obtain ⟨j, huid, a, ha, hreceiver, hname⟩ := h
  exact ⟨j, huid, a, hstep.arrivals_subset ha, hreceiver, hname⟩

/-- Every announcement a node has sent of its own is of its own uid and name. -/
theorem announced {ι : Type} [DecidableEq ι] {D : Deployment ι} {c : Config ι Node Datagram}
    (h : Reachable D.protocol c) (i : ι) (p : Package) (dest : Uid)
    (hmem : .send_package .messages p dest ∈ (c.node i).trace) (htype : p.type = .ANNOUNCEMENT) :
    ∃ a ∈ c.arrivals, a.receiver = i ∧ p.Announces (D.uid i) a.before.me.name := by
  induction h generalizing i p dest with
  | @start node hstart =>
    obtain ⟨name, random, hbooted⟩ : D.protocol.start i (node i) := hstart i
    dsimp only at hmem
    rw [hbooted] at hmem
    cases hmem
  | @step c c' hreach hstep ih =>
    have hold : .send_package .messages p dest ∈ (c.node i).trace →
        ∃ a ∈ c'.arrivals, a.receiver = i ∧ p.Announces (D.uid i) a.before.me.name := by
      intro hmem
      obtain ⟨a, ha, hrest⟩ := ih i p dest hmem htype
      exact ⟨a, hstep.arrivals_subset ha, hrest⟩
    obtain hsame | ⟨out, call, hcall, -⟩ | ⟨a, ha, hreceiver, -, hbefore, out, hcall, -⟩ := hstep.node_cases i
    · exact hold (hsame ▸ hmem)
    · have hnames : Names (fun _ => False) (fun _ _ => False) (c.node i) (c'.node i) := .call hcall
      exact hold ((hnames.told p dest hmem htype).resolve_right id)
    · obtain hkept | hnew := (Names.process_package hcall).told p dest hmem htype
      · exact hold hkept
      · rw [(settled hreach i).lives.my_uid_eq, ← hbefore] at hnew
        exact ⟨a, ha, hreceiver, hnew⟩

/-- What an announcement on the air teaches is genuine. -/
theorem taught_genuine {ι : Type} [DecidableEq ι] {D : Deployment ι} {c : Config ι Node Datagram}
    (h : Reachable D.protocol c) {m : Packet ι Datagram} (hm : m ∈ c.air) {uid : Uid} {text : List UInt8}
    (hteaches : m.msg.package.Teaches uid text) : D.Genuine c uid text := by
  have htype := hteaches.type_eq
  obtain ⟨i, msg, hroot, hcontent⟩ := content_root h hm (by simp [htype])
  rw [← Package.content_type, hcontent, Package.content_type] at htype
  obtain ⟨k, -, hposted, -⟩ | ⟨he, -⟩ := origin_sent h hroot
  · have hkind := hposted.kind
    rw [htype] at hkind
    simp [Sendout.kinds] at hkind
  · obtain ⟨a, ha, hreceiver, hannounces⟩ := announced h i _ _ he htype
    obtain ⟨huid, htext⟩ := (hannounces.of_content hcontent).taught hteaches
    exact ⟨i, huid.symm, a, ha, hreceiver, htext.symm⟩

/-- Every name in a node's table is one that the node with that uid had. -/
theorem table_genuine {ι : Type} [DecidableEq ι] {D : Deployment ι} {c : Config ι Node Datagram}
    (h : Reachable D.protocol c) (i : ι) (e : Entry) :
    ((c.node i).transmission.uid_table e).text = [] ∨
      D.Genuine c ((c.node i).transmission.uid_table e).uid ((c.node i).transmission.uid_table e).text := by
  induction h generalizing i e with
  | @start node hstart =>
    obtain ⟨name, random, hbooted⟩ : D.protocol.start i (node i) := hstart i
    dsimp only
    rw [hbooted]
    exact .inl (cstring_replicate NAME_SIZE)
  | @step c c' hreach hstep ih =>
    have hold := (ih i e).imp_right fun hgenuine => hgenuine.later hstep
    have hkept : ∀ {tells : Package → Prop} {learns : Uid → List UInt8 → Prop},
        Names tells learns (c.node i) (c'.node i) → (∀ uid text, learns uid text → D.Genuine c' uid text) →
        ((c'.node i).transmission.uid_table e).text = [] ∨
          D.Genuine c' ((c'.node i).transmission.uid_table e).uid
            ((c'.node i).transmission.uid_table e).text := by
      intro tells learns hnames hlearns
      obtain hnone | ⟨huid, htext⟩ | hnew := hnames.kept e
      · exact .inl hnone
      · rw [huid, htext]
        exact hold
      · exact .inr (hlearns _ _ hnew)
    obtain hsame | ⟨out, call, hcall, -⟩ | ⟨a, _, _, hair, _, out, hcall, -⟩ := hstep.node_cases i
    · rw [hsame]
      exact hold
    · have hnames : Names (fun _ => False) (fun _ _ => False) (c.node i) (c'.node i) := .call hcall
      exact hkept hnames nofun
    · exact hkept (Names.process_package hcall) fun uid text hteaches =>
        taught_genuine (hreach.step hstep) (hstep.air_subset hair) hteaches

/-- What `send_out_by_name` sends for a name, and `check_send_out` for one that waits in a
slot, goes to a node that had that name. -/
theorem sent_by_name {ι : Type} [DecidableEq ι] {D : Deployment ι} {c : Config ι Node Datagram}
    (h : Reachable D.protocol c) (i : ι) :
    (∀ name data type s' accepted, cstring (name.take NAME_SIZE) ≠ [] → type = .MSG ∨ type = .COMMAND →
      (c.node i).send_out_by_name name data type = .ok (s', accepted) →
      ∀ k p dest, .send_package (.sendout k) p dest ∈ (c.node i).since s' →
        ∃ j, p.finalDest dest = D.uid j ∧ HadName c j (cstring (name.take NAME_SIZE))) ∧
    ∀ k s', ((c.node i).sendout_package k).time < 0 →
      cstring ((c.node i).sendout_package k).key.toList ≠ [] → (c.node i).check_send_out = .ok s' →
      ∀ p dest, .send_package (.sendout k) p dest ∈ (c.node i).since s' →
        ∃ j, p.finalDest dest = D.uid j ∧
          HadName c j (cstring ((c.node i).sendout_package k).key.toList) := by
  have hlives := (settled h i).lives
  have hnamed : ∀ {p : Package} {dest : Uid} {text : List UInt8}, text ≠ [] →
      (∃ e, p.finalDest dest = ((c.node i).transmission.uid_table e).uid ∧
        ((c.node i).transmission.uid_table e).text = text) →
      ∃ j, p.finalDest dest = D.uid j ∧ HadName c j text := by
    rintro p dest text htext ⟨e, hend, rfl⟩
    obtain ⟨j, huid, hname⟩ := (table_genuine h i e).resolve_left htext
    exact ⟨j, hend.trans huid.symm, hname⟩
  refine ⟨fun name data type s' accepted hname hkind hcall k p dest hmem => hnamed hname ?_,
    fun k s' hwaits hname hcall p dest hmem => hnamed hname ?_⟩
  · exact send_out_by_name_sent hlives.timing_proper hkind hcall hmem
  · refine check_send_out_sent hlives.timing_proper (fun k => ?_) hcall hwaits hmem
    obtain ⟨timing, a, hproper, hfree, hrun⟩ := hlives.slot_run k
    rw [hlives.my_uid_eq]
    exact (hrun.posted hproper hfree).1

/-- The second node of the pair after a command of its own that sends nothing. -/
theorem PairAt.alone {s t t' : Node} {m : Packet (Fin 2) Datagram} (h : PairAt s t m)
    (hact : pair.protocol.act 1 t t' []) : PairAt s t' m := by
  obtain ⟨c, hreach, rfl, rfl, hair⟩ := h
  exact ⟨_, hreach.step (.act hact), rfl, by simp, List.mem_append_left _ hair⟩

/-- The second node's answer once it has the name `x`, and a message to that name. -/
def pairNamed : Datagram :=
  { package :=
      { rid := 1953722993
        flags := PACKAGE_IDENTIFIED ||| PackageType.ANNOUNCEMENT.code
        data := (pair.uid 1).toList ++ strncpy [120] NAME_SIZE }
    dest := pair.uid 0 }

def pairQuestionAgain : Datagram :=
  { package := { pairQuestion.package with rid := 269422093 }
    dest := broadcast_uid }

def pairToName : Package :=
  { rid := 336794129
    flags := PACKAGE_ACKLY ||| PACKAGE_IDENTIFIED ||| PackageType.MSG.code
    data := (pair.uid 0).toList ++ [104, 105] }

set_option maxRecDepth 20000 in
/-- A message to `x` goes to the second node after that has taken the name. -/
theorem pair_sent_by_name : ∃ c, Reachable pair.protocol c ∧
    (∃ s', (c.node 0).send_out_by_name [120] [104, 105] .MSG = .ok (s', true) ∧
      .send_package (.sendout 0) pairToName (pair.uid 1) ∈ (c.node 0).since s') ∧
    ∃ j, pairToName.finalDest (pair.uid 1) = pair.uid j ∧ HadName c j [120] := by
  have hrenamed : PairAt _ _ (.origin 1 pairAnnouncement) :=
    pair_introduced.alone (pair_act
      (k := .execute_cmd (chars ['s', 'e', 't', ' ', 'n', 'a', 'm', 'e', ' ', 'x'])) (by decide) (by decide))
  have hasked : PairAt _ _ (.origin 0 pairQuestionAgain) :=
    hrenamed.call (pair_act (k := .send_uid_request (pair.uid 1)) (by decide) (by decide))
  have hanswered : PairAt _ _ (.origin 1 pairNamed) :=
    hasked.second rfl (.inr rfl)
      (pair_receive (o := [(false, pairNamed)]) (by decide) (by decide)) (by simp [emitted])
  have hknown : PairAt _ _ (.origin 1 pairNamed) :=
    hanswered.first rfl (.inl rfl) (pair_receive (o := []) (by decide) (by decide)) (by simp)
  obtain ⟨c, hreach, hfirst, -, -⟩ := hknown
  obtain ⟨⟨s', accepted⟩, hcall⟩ : ∃ r, (c.node 0).send_out_by_name [120] [104, 105] .MSG = .ok r := by
    apply exists_ok
    rw [hfirst]
    decide
  have hresult : ((c.node 0).send_out_by_name [120] [104, 105] .MSG).toOption.map (fun r =>
      decide (r.2 = true ∧ .send_package (.sendout 0) pairToName (pair.uid 1) ∈ (c.node 0).since r.1)) =
        some true := by
    rw [hfirst]
    decide
  rw [hcall] at hresult
  obtain ⟨rfl, hmem⟩ := of_decide_eq_true (Option.some.inj hresult)
  exact ⟨c, hreach, ⟨s', hcall, hmem⟩,
    (sent_by_name hreach 0).1 [120] [104, 105] .MSG s' true (by decide) (.inl rfl) hcall 0 _ _ hmem⟩

end Deployment

end concretid.ems
