import ConcretID.Ems.Mail

open concretid.memory

namespace concretid.ems

namespace Node

/-- An action on one slot: what it shows in the trace, and that it changes
neither ids, neighbours, the receive buffer nor the other slots. -/
structure Touches (s s' : Node) (i : Fin SENDOUT_QTY) (new : List Event) : Prop where
  trace_eq : s'.trace = s.trace ++ new
  my_uid_eq : s'.my_uid = s.my_uid
  me_eq : s'.me = s.me
  rids_eq : s'.rids = s.rids
  neighborhood_eq : s'.transmission.neighborhood = s.transmission.neighborhood
  uid_table_eq : s'.transmission.uid_table = s.transmission.uid_table
  buffer_eq : s'.buffer = s.buffer
  others : ∀ j, j ≠ i → s'.sendout_package j = s.sendout_package j

theorem Touches.trans {s s' s'' : Node} {i : Fin SENDOUT_QTY} {new later : List Event}
    (h : Touches s s' i new) (h' : Touches s' s'' i later) : Touches s s'' i (new ++ later) := by
  refine ⟨?_, ?_, ?_, ?_, ?_, ?_, ?_, ?_⟩
  · rw [h'.trace_eq, h.trace_eq, List.append_assoc]
  · rw [h'.my_uid_eq, h.my_uid_eq]
  · rw [h'.me_eq, h.me_eq]
  · rw [h'.rids_eq, h.rids_eq]
  · rw [h'.neighborhood_eq, h.neighborhood_eq]
  · rw [h'.uid_table_eq, h.uid_table_eq]
  · rw [h'.buffer_eq, h.buffer_eq]
  · intro j hj
    rw [h'.others j hj, h.others j hj]

/-- An action on a slot is a step of the slot's machine. -/
theorem Touches.quiet {s s' : Node} {i : Fin SENDOUT_QTY} {new : List Event}
    (h : Touches s s' i new)
    (hnew : ∀ e ∈ new, e.registered? = none ∧ e.ages = false ∧ ∀ j, e.ofSlot j = (i == j))
    (hstep : SlotStep s.me.timing s.my_uid i (s.sendout_package i) new (s'.sendout_package i)) :
    Quiet s s' new := by
  have hids : new.filterMap Event.registered? = [] := by
    rw [List.filterMap_eq_nil_iff]
    exact fun e he => (hnew e he).1
  have hages : new.filter Event.ages = [] := by
    rw [List.filter_eq_nil_iff]
    exact fun e he => by simp [(hnew e he).2.1]
  refine ⟨⟨h.trace_eq, h.my_uid_eq, by rw [h.me_eq], by rw [hids, h.rids_eq]; rfl,
    by rw [hages, h.neighborhood_eq]; exact .refl, ?_⟩, h.buffer_eq⟩
  intro j
  by_cases hj : j = i
  · subst hj
    have hall : new.filter (Event.ofSlot j) = new := by
      rw [List.filter_eq_self]
      exact fun e he => by simp [(hnew e he).2.2 j]
    rw [hall]
    exact hstep.run
  · have hnone : new.filter (Event.ofSlot j) = [] := by
      rw [List.filter_eq_nil_iff]
      exact fun e he => by simp [(hnew e he).2.2 j, Ne.symm hj]
    rw [hnone, h.others j hj]
    exact .refl

theorem Touches.setSendout (s : Node) (i : Fin SENDOUT_QTY) (slot : Sendout) :
    Touches s (s.setSendout i slot) i [] :=
  ⟨by simp [Node.setSendout], rfl, rfl, rfl, rfl, rfl, rfl, fun j hj => by simp [Node.setSendout, hj]⟩

theorem Touches.then_setSendout {s s' : Node} {i : Fin SENDOUT_QTY} {new : List Event}
    (h : Touches s s' i new) (slot : Sendout) : Touches s (s'.setSendout i slot) i new := by
  simpa using h.trans (.setSendout s' i slot)

@[simp] theorem setSendout_self (s : Node) (i : Fin SENDOUT_QTY) (slot : Sendout) :
    (s.setSendout i slot).sendout_package i = slot := by
  simp [Node.setSendout]

theorem Touches.make_package_head (s : Node) (i : Fin SENDOUT_QTY) (flags : UInt8)
    (type : PackageType) : Touches s (s.make_package_head (.sendout i) flags type) i
      [.make_package_head (.sendout i) s.nextRid] := by
  refine ⟨by simp, by simp, by simp, by simp, by simp, by simp, ?_, ?_⟩
  · simp [Node.make_package_head, setPackageBuffer]
  · intro j hj
    simp [Node.make_package_head, setPackageBuffer, hj]

theorem Touches.writeData (s : Node) (i : Fin SENDOUT_QTY) (offset : Nat) (bytes : List UInt8) :
    Touches s (s.writeData (.sendout i) offset bytes) i [] := by
  refine ⟨by simp [Node.writeData], rfl, rfl, rfl, rfl, rfl, rfl, ?_⟩
  intro j hj
  simp [Node.writeData, setPackageBuffer, hj]

/-- Sending a slot's package for the slot's uid. -/
theorem Touches.sendSlot {s s' : Node} {i : Fin SENDOUT_QTY} {uidt : Entry}
    (h : s.sendSlot i uidt = .ok s')
    (hkey : (s.transmission.uid_table uidt).uid = (s.sendout_package i).key) :
    ∃ l c, (s.sendout_package i).Sent (s.sendout_package i).key (s.transmission.neighbor l) c ∧
      s'.sendout_package i = c ∧
      Touches s s' i [.send_package (.sendout i) (c.package.package c.size)
        (s.transmission.neighbor l)] := by
  obtain ⟨⟨s₁, size⟩, hsend, hdone⟩ := bind_eq_ok_iff.mp h
  obtain rfl := Except.ok.inj hdone
  obtain ⟨e, l, value, order, he, _, hwrap, rfl⟩ := send_package_by_table_cases hsend
  obtain rfl := Option.some.inj he
  rw [hkey] at hwrap
  let c : Sendout := { s.sendout_package i with package := value, size }
  refine ⟨l, c, ⟨⟨_, hkey, hwrap⟩, rfl, rfl⟩, ?_, ⟨?_, rfl, rfl, rfl, rfl, rfl, rfl, ?_⟩⟩
  · simp [Node.setSendout, setPackageBuffer, emit, setTransmission, c]
  · simp [Node.setSendout, c]
  · intro j hj
    simp [Node.setSendout, setPackageBuffer, emit, setTransmission, hj]

/-- A package built in a slot: what `send_out_by_name` does before it looks for
the name. -/
def filled (s : Node) (i : Fin SENDOUT_QTY) (size : Nat) (type : PackageType)
    (data : List UInt8) : Node :=
  ((s.setSendout i { s.sendout_package i with size }).make_package_head (.sendout i)
    (PACKAGE_ACKLY ||| PACKAGE_IDENTIFIED) type).writeData (.sendout i) sizeof_identified_head data

theorem Touches.filled (s : Node) (i : Fin SENDOUT_QTY) (size : Nat) (type : PackageType)
    (data : List UInt8) :
    Touches s (s.filled i size type data) i [.make_package_head (.sendout i) s.nextRid] :=
  ((Touches.setSendout s i { s.sendout_package i with size }).trans
    (.make_package_head _ i (PACKAGE_ACKLY ||| PACKAGE_IDENTIFIED) type)).trans
      (.writeData _ i sizeof_identified_head data)

theorem filled_package (s : Node) (i : Fin SENDOUT_QTY) (size : Nat) (type : PackageType)
    (data : List UInt8) :
    ((s.filled i size type data).sendout_package i).package =
      { rid := s.nextRid
        flags := PACKAGE_ACKLY ||| PACKAGE_IDENTIFIED ||| type.code
        data := store (store (s.sendout_package i).package.data 0 s.my_uid.toList)
          sizeof_identified_head data } := by
  have hidentified : hasFlag (PACKAGE_ACKLY ||| PACKAGE_IDENTIFIED) PACKAGE_IDENTIFIED = true := by
    decide
  have hbuffer : ((s.filled i size type data).sendout_package i).package =
      (s.filled i size type data).packageBuffer (.sendout i) := rfl
  rw [hbuffer]
  simp only [Node.filled, Node.writeData, setPackageBuffer_self, make_package_head_packageBuffer,
    hidentified, if_true]
  simp [Node.setSendout, packageBuffer, nextRid]

theorem filled_size (s : Node) (i : Fin SENDOUT_QTY) (size : Nat) (type : PackageType)
    (data : List UInt8) : ((s.filled i size type data).sendout_package i).size = size := by
  simp [Node.filled, Node.writeData, setPackageBuffer, Node.make_package_head, Node.setSendout, emit]

@[simp] theorem filled_transmission (s : Node) (i : Fin SENDOUT_QTY) (size : Nat)
    (type : PackageType) (data : List UInt8) :
    (s.filled i size type data).transmission = s.transmission := by
  simp [Node.filled, Node.writeData, Node.setSendout]

/-- Building a package in a free slot. -/
theorem Touches.fill (s : Node) (i : Fin SENDOUT_QTY) {size : Nat} {type : PackageType}
    {data : List UInt8} (hkind : type = .MSG ∨ type = .COMMAND)
    (hsize : size = sizeof_package + (sizeof_identified_head + data.length))
    (hroom : size + sizeof_intermediate_head ≤ SENDOUT_BUFFER_SIZE) :
    let s₃ := s.filled i size type data
    Touches s s₃ i [.make_package_head (.sendout i) s.nextRid] ∧
      ∀ key time, { s₃.sendout_package i with key, time : Sendout }.Filled s.my_uid s.nextRid
        type data := by
  intro s₃
  refine ⟨.filled s i size type data, ?_⟩
  intro key time
  have hpackage := filled_package s i size type data
  have hsizes := filled_size s i size type data
  refine ⟨hkind, ?_, ?_, ?_, ?_, ?_⟩
  · simp [s₃, hpackage]
  · simp [s₃, hpackage]
  · simp only [s₃, hsizes]
    exact hsize
  · simp only [s₃, hsizes]
    exact hroom
  · simp only [s₃, hpackage]
    have hbytes := load_store_store (s.sendout_package i).package.data s.my_uid.toList data
    rwa [List.Vector.toList_length] at hbytes

/-- A step of a slot's machine is something the node does on its own account. -/
theorem Touches.replies {c : Context} {s s' : Node} {i : Fin SENDOUT_QTY} {new : List Event}
    (h : Touches s s' i new) (hfits : c.Fits s)
    (hnew : ∀ e ∈ new, (∃ rid, e = .make_package_head (.sendout i) rid) ∨
      ∃ p l, e = .send_package (.sendout i) p (s.transmission.neighbor l))
    (hstep : SlotStep s.me.timing s.my_uid i (s.sendout_package i) new (s'.sendout_package i)) :
    Replies c s s' := by
  refine ⟨new, h.quiet ?_ hstep, ?_, ?_⟩
  · intro e he
    obtain ⟨rid, rfl⟩ | ⟨p, l, rfl⟩ := hnew e he <;> exact ⟨rfl, rfl, fun _ => rfl⟩
  · intro e he
    obtain ⟨rid, rfl⟩ | ⟨p, l, rfl⟩ := hnew e he
    · exact .head rid (by simp)
    · rw [hfits.neighbor_eq]
      exact .slot i p l
  · intro p dest hmem
    obtain ⟨rid, heq⟩ | ⟨p', l, heq⟩ := hnew _ hmem <;> cases heq

theorem Touches.setPackageBuffer (s : Node) (i : Fin SENDOUT_QTY) (value : PackageBuffer) :
    Touches s (s.setPackageBuffer (.sendout i) value) i [] := by
  refine ⟨by simp, rfl, rfl, rfl, rfl, rfl, rfl, ?_⟩
  intro j hj
  simp [Node.setPackageBuffer, hj]

/-- Sending once the name of a slot has been found. -/
theorem Touches.solveSlot {s s' : Node} {i : Fin SENDOUT_QTY} {uidt : Entry}
    (h : s.solveSlot i uidt = .ok s') :
    ∃ key l c, ({ s.sendout_package i with key, time := s.me.timing.sending } : Sendout).Sent key
        (s.transmission.neighbor l) c ∧ s'.sendout_package i = c ∧
      Touches s s' i [.send_package (.sendout i) (c.package.package c.size)
        (s.transmission.neighbor l)] := by
  unfold Node.solveSlot at h
  obtain ⟨l, c, hsent, hc, htouch⟩ := Touches.sendSlot h (by simp [Node.setSendout])
  rw [setSendout_self] at hsent
  exact ⟨_, l, c, hsent, hc, (Touches.setSendout s i _).trans htouch⟩

theorem find_table_by_uid_eq {t : Transmission} {uid : Uid} {e : Entry}
    (h : t.find_table_by_uid uid = some e) : (t.uid_table e).uid = uid := by
  have hfound := List.find?_some h
  simpa using hfound

/-- What one round of `check_send_out` does with a slot: nothing when it is free;
before its name is solved send or wait, and now and then ask for the name; from
then on wait, and now and then send again or ask for the uid. -/
inductive CheckedSlot (s : Node) (i : Fin SENDOUT_QTY) : Node → Prop where
  | idle (hfree : (s.sendout_package i).time = 0) : CheckedSlot s i s
  | solved {s' : Node} {key : Uid} {l : Slot} (hneg : (s.sendout_package i).time < 0)
      (hsent : ({ s.sendout_package i with key, time := s.me.timing.sending } : Sendout).Sent key
        (s.transmission.neighbor l) (s'.sendout_package i))
      (htouch : Touches s s' i
        [.send_package (.sendout i)
          ((s'.sendout_package i).package.package (s'.sendout_package i).size)
          (s.transmission.neighbor l)]) : CheckedSlot s i s'
  | counted {time : Int} (htime : (s.sendout_package i).time < 0 ∧
      time = (s.sendout_package i).time + 1 ∨
        0 < (s.sendout_package i).time ∧ time = (s.sendout_package i).time - 1) :
      CheckedSlot s i (s.setSendout i { s.sendout_package i with time })
  | name_asked (hneg : (s.sendout_package i).time < 0) (name : List UInt8) :
      CheckedSlot s i ((s.setSendout i
        { s.sendout_package i with time := (s.sendout_package i).time + 1 }).send_name_request name)
  | uid_asked (hpos : 0 < (s.sendout_package i).time) (uid : Uid) :
      CheckedSlot s i ((s.setSendout i
        { s.sendout_package i with time := (s.sendout_package i).time - 1 }).send_uid_request uid)
  | resent {s' : Node} {l : Slot} (hpos : 0 < (s.sendout_package i).time)
      (hdue : ((s.sendout_package i).time - 1).tmod s.me.time_to_send.toNat = 0)
      (hsent : ({ s.sendout_package i with
        time := (s.sendout_package i).time - 1
        package := { (s.sendout_package i).package with
          rid := RID_INC (s.sendout_package i).package.rid } } : Sendout).Sent
        (s.sendout_package i).key (s.transmission.neighbor l) (s'.sendout_package i))
      (htouch : Touches s s' i
        [.send_package (.sendout i)
          ((s'.sendout_package i).package.package (s'.sendout_package i).size)
          (s.transmission.neighbor l)]) : CheckedSlot s i s'

theorem check_send_out_slot_cases {s s' : Node} {i : Fin SENDOUT_QTY}
    (h : s.check_send_out_slot i = .ok s') : CheckedSlot s i s' := by
  unfold Node.check_send_out_slot at h
  dsimp only at h
  split at h
  · rename_i hneg
    split at h
    · obtain ⟨key, l, c, hsent, rfl, htouch⟩ := Touches.solveSlot h
      exact .solved hneg hsent htouch
    · split at h
      · cases h
      · split at h
        · obtain rfl := Except.ok.inj h
          exact .name_asked hneg _
        · obtain rfl := Except.ok.inj h
          exact .counted (.inl ⟨hneg, rfl⟩)
  · split at h
    · rename_i hpos
      split at h
      · cases h
      · split at h
        · rename_i hdue
          split at h
          · -- the route is known: send again
            rename_i uidt hfind
            obtain ⟨l, c, hsent, rfl, htouch⟩ := Touches.sendSlot h
              (by simpa [Node.setSendout, Node.setPackageBuffer] using find_table_by_uid_eq hfind)
            have hsame : ((s.setSendout i { s.sendout_package i with
                  time := (s.sendout_package i).time - 1 }).setPackageBuffer (.sendout i)
                { (s.sendout_package i).package with
                  rid := RID_INC (s.sendout_package i).package.rid }).sendout_package i =
                { s.sendout_package i with
                  time := (s.sendout_package i).time - 1
                  package := { (s.sendout_package i).package with
                    rid := RID_INC (s.sendout_package i).package.rid } } := by
              simp [Node.setSendout, Node.setPackageBuffer]
            rw [hsame] at hsent
            exact .resent hpos hdue hsent (((Touches.setSendout s i { s.sendout_package i with
              time := (s.sendout_package i).time - 1 }).trans
                (.setPackageBuffer _ i { (s.sendout_package i).package with
                  rid := RID_INC (s.sendout_package i).package.rid })).trans htouch)
          · obtain rfl := Except.ok.inj h
            exact .uid_asked hpos _
        · obtain rfl := Except.ok.inj h
          exact .counted (.inr ⟨hpos, rfl⟩)
    · obtain rfl := Except.ok.inj h
      exact .idle (by omega)

/-- One round of `check_send_out` is one step of the slot, and perhaps a request. -/
theorem Replies.check_send_out_slot {c : Context} {s s' : Node} {i : Fin SENDOUT_QTY}
    (hfits : c.Fits s) (h : s.check_send_out_slot i = .ok s') : Replies c s s' := by
  have hcount : ∀ time, ((s.sendout_package i).time < 0 ∧ time = (s.sendout_package i).time + 1 ∨
      0 < (s.sendout_package i).time ∧ time = (s.sendout_package i).time - 1) →
      Replies c s (s.setSendout i { s.sendout_package i with time }) := by
    intro time htime
    apply (Touches.setSendout s i _).replies hfits (by simp)
    rw [setSendout_self]
    exact .count htime
  cases check_send_out_slot_cases h with
  | idle => exact .refl c s
  | solved hneg hsent htouch => exact htouch.replies hfits (by simp) (.solve hneg hsent)
  | counted htime => exact hcount _ htime
  | name_asked hneg name =>
    have hcounted := hcount _ (.inl ⟨hneg, rfl⟩)
    exact hcounted.trans (.send_name_request (hcounted.fits hfits) _)
  | uid_asked hpos uid =>
    have hcounted := hcount _ (.inr ⟨hpos, rfl⟩)
    exact hcounted.trans (.send_uid_request (hcounted.fits hfits) _)
  | resent hpos hdue hsent htouch => exact htouch.replies hfits (by simp) (.resend hpos hsent)

theorem Replies.check_send_out_slots {c : Context} {s s' : Node} (hfits : c.Fits s)
    (h : (s.check_send_out_slot 0 >>= fun s₁ => s₁.check_send_out_slot 1) = .ok s') :
    Replies c s s' := by
  obtain ⟨s₁, hfirst, hsecond⟩ := bind_eq_ok_iff.mp h
  have hreplies := Replies.check_send_out_slot hfits hfirst
  exact hreplies.trans (.check_send_out_slot (hreplies.fits hfits) hsecond)

/-- What `send_out_by_name` does: refuse, fill a free slot and ask for the name,
or fill it and send over the route the name has. -/
inductive SendsOut (s : Node) (name : List UInt8) (type : PackageType) (data : List UInt8) :
    Node → Bool → Prop where
  | full : SendsOut s name type data s false
  | refuse (i : Fin SENDOUT_QTY) (size : Nat) (hfree : (s.sendout_package i).time = 0) :
      SendsOut s name type data (s.setSendout i { s.sendout_package i with size }) false
  | wait {s₁ : Node} (i : Fin SENDOUT_QTY) (hfree : (s.sendout_package i).time = 0)
      (htouch : Touches s s₁ i [.make_package_head (.sendout i) s.nextRid])
      (hfilled : (s₁.sendout_package i).Filled s.my_uid s.nextRid type data)
      (htime : (s₁.sendout_package i).time = s.me.timing.solving) :
      SendsOut s name type data (s₁.send_name_request name) true
  | start {s₁ : Node} {b : Sendout} (i : Fin SENDOUT_QTY) (l : Slot)
      (hfree : (s.sendout_package i).time = 0) (hfilled : b.Filled s.my_uid s.nextRid type data)
      (htime : b.time = s.me.timing.sending)
      (hsent : b.Sent b.key (s.transmission.neighbor l) (s₁.sendout_package i))
      (htouch : Touches s s₁ i
        [.make_package_head (.sendout i) s.nextRid,
          .send_package (.sendout i)
            ((s₁.sendout_package i).package.package (s₁.sendout_package i).size)
            (s.transmission.neighbor l)]) : SendsOut s name type data s₁ true

/-- The slot `send_out_by_name` takes: the first one with time 0. -/
def freeSlot (s : Node) : Option (Fin SENDOUT_QTY) :=
  (List.finRange SENDOUT_QTY).find? fun i => (s.sendout_package i).time == 0

theorem freeSlot_time {s : Node} {i : Fin SENDOUT_QTY} (h : s.freeSlot = some i) :
    (s.sendout_package i).time = 0 := by
  have hfound := List.find?_some h
  simpa using hfound

/-- The ways through `send_out_by_name`, with the sizes computed: all slots in
use, too much data, or a package built in a free slot and sent or waiting for
its name. -/
inductive Offered (s : Node) (name data : List UInt8) (type : PackageType) : Node → Bool → Prop where
  | full : Offered s name data type s false
  | refuse {i : Fin SENDOUT_QTY} (hslot : s.freeSlot = some i) (size : Nat) :
      Offered s name data type (s.setSendout i { s.sendout_package i with size }) false
  | solve {i : Fin SENDOUT_QTY} (hslot : s.freeSlot = some i) {size : Nat}
      (hsize : size = sizeof_package + (sizeof_identified_head + data.length))
      (hroom : size + sizeof_intermediate_head ≤ SENDOUT_BUFFER_SIZE) {uidt : Entry} {s' : Node}
      (hsolve : (s.filled i size type data).solveSlot i uidt = .ok s') :
      Offered s name data type s' true
  | wait {i : Fin SENDOUT_QTY} (hslot : s.freeSlot = some i) {size : Nat}
      (hsize : size = sizeof_package + (sizeof_identified_head + data.length))
      (hroom : size + sizeof_intermediate_head ≤ SENDOUT_BUFFER_SIZE) {s₃ : Node}
      (hbuilt : s₃ = s.filled i size type data) :
      Offered s name data type
        ((s₃.setSendout i { s₃.sendout_package i with
          key := nameOf name, time := s₃.me.timing.solving }).send_name_request name) true

theorem send_out_by_name_offered {s s' : Node} {name data : List UInt8} {type : PackageType}
    {accepted : Bool} (h : s.send_out_by_name name data type = .ok (s', accepted)) :
    Offered s name data type s' accepted := by
  unfold Node.send_out_by_name at h
  split at h
  · simp only [Except.ok.injEq, Prod.mk.injEq] at h
    obtain ⟨rfl, rfl⟩ := h
    exact .full
  · rename_i i hfind
    dsimp only at h
    split at h
    · simp only [Except.ok.injEq, Prod.mk.injEq] at h
      obtain ⟨rfl, rfl⟩ := h
      exact .refuse hfind _
    · rename_i hfits
      split at h
      · cases h
      · rename_i hroom
        -- the size fits, so none of its sums has wrapped around
        have hlength : data.length ≤ 39 := by
          simp only [Buffer.capacity, sizeof_package, sizeof_identified_head,
            SENDOUT_BUFFER_SIZE] at hroom
          omega
        generalize hsize : (data.length + sizeof_package + sizeof_identified_head) % 2 ^ 16 = size
          at h hfits
        have hsize' : size = sizeof_package + (sizeof_identified_head + data.length) := by
          simp only [sizeof_package, sizeof_identified_head] at hsize ⊢
          omega
        have hroom' : size + sizeof_intermediate_head ≤ SENDOUT_BUFFER_SIZE := by
          simp only [sizeof_intermediate_head, SENDOUT_BUFFER_SIZE, sizeof_package,
            sizeof_identified_head] at hfits hsize' ⊢
          omega
        split at h
        · obtain ⟨s₁, hsolve, hdone⟩ := bind_eq_ok_iff.mp h
          simp only [pure_eq_ok, Except.ok.injEq, Prod.mk.injEq] at hdone
          obtain ⟨rfl, rfl⟩ := hdone
          exact .solve hfind hsize' hroom' hsolve
        · simp only [Except.ok.injEq, Prod.mk.injEq] at h
          obtain ⟨rfl, rfl⟩ := h
          exact .wait hfind hsize' hroom' rfl

theorem send_out_by_name_cases {s s' : Node} {name data : List UInt8} {type : PackageType}
    {accepted : Bool} (hkind : type = .MSG ∨ type = .COMMAND)
    (h : s.send_out_by_name name data type = .ok (s', accepted)) :
    SendsOut s name type data s' accepted := by
  cases send_out_by_name_offered h with
  | full => exact .full
  | refuse hslot size => exact .refuse _ size (freeSlot_time hslot)
  | @solve i hslot size hsize hroom _ _ hsolve =>
    obtain ⟨htouch, hfilled⟩ := Touches.fill s i hkind hsize hroom
    obtain ⟨key, l, c, hsent, rfl, hsend⟩ := Touches.solveSlot hsolve
    have hall := htouch.trans hsend
    rw [htouch.me_eq] at hsent
    have hneighbor := congrArg Transmission.Neighborhood.uid htouch.neighborhood_eq
    simp only [Transmission.neighborhood] at hneighbor
    rw [hneighbor] at hsent hall
    refine .start i l (freeSlot_time hslot) (hfilled key s.me.timing.sending) ?_ hsent hall
    dsimp only
  | @wait i hslot size hsize hroom _ hbuilt =>
    subst hbuilt
    obtain ⟨htouch, hfilled⟩ := Touches.fill s i hkind hsize hroom
    refine .wait i (freeSlot_time hslot) (htouch.then_setSendout _) ?_ ?_
    · rw [setSendout_self]
      exact hfilled _ _
    · rw [setSendout_self, htouch.me_eq]

/-- Everything `send_out_by_name` does is the node's own. -/
theorem SendsOut.replies {c : Context} {s s' : Node} {name data : List UInt8} {type : PackageType}
    {accepted : Bool} (h : SendsOut s name type data s' accepted) (hfits : c.Fits s) :
    Replies c s s' := by
  cases h with
  | full => exact .refl c s
  | refuse i size hfree =>
    apply (Touches.setSendout s i _).replies hfits (by simp)
    rw [setSendout_self]
    exact .refuse size hfree
  | wait i hfree htouch hfilled htime =>
    have hfill := htouch.replies hfits (by simp) (.wait hfree hfilled htime)
    exact hfill.trans (.send_name_request (hfill.fits hfits) name)
  | start i l hfree hfilled htime hsent htouch =>
    refine htouch.replies hfits ?_ (.start hfree hfilled htime hsent)
    intro e he
    simp only [List.mem_cons, List.not_mem_nil, or_false] at he
    obtain rfl | rfl := he
    · exact .inl ⟨_, rfl⟩
    · exact .inr ⟨_, l, rfl⟩

/-! ## Commands -/

/-- A change of settings or of the blocked list shows nowhere in the trace. -/
theorem Replies.silent (c : Context) {s s' : Node} (htrace : s'.trace = s.trace)
    (huid : s'.my_uid = s.my_uid) (htiming : s'.me.timing = s.me.timing) (hrids : s'.rids = s.rids)
    (htransmission : s'.transmission = s.transmission)
    (hsendout : s'.sendout_package = s.sendout_package) (hbuffer : s'.buffer = s.buffer) :
    Replies c s s' := by
  refine ⟨[], ⟨⟨by simp [htrace], huid, htiming, by simp [hrids], ?_, ?_⟩, hbuffer⟩, by simp, .nil⟩
  · rw [htransmission]
    exact .refl
  · intro i
    rw [hsendout]
    exact .refl

theorem Replies.cmd_echo (c : Context) (s : Node) (arg : List UInt8) :
    Replies c s (s.cmd_echo arg) := by
  unfold Node.cmd_echo
  split
  · exact .print c s _
  · exact .refl c s

theorem Replies.cmd_send_out {c : Context} {s s' : Node} {type : PackageType} {arg : List UInt8}
    (hfits : c.Fits s) (hkind : type = .MSG ∨ type = .COMMAND)
    (h : s.cmd_send_out type arg = .ok s') : Replies c s s' := by
  unfold Node.cmd_send_out at h
  split at h
  · obtain rfl := Except.ok.inj h
    exact .refl c s
  · dsimp only at h
    split at h
    · obtain rfl := Except.ok.inj h
      exact .refl c s
    · obtain ⟨⟨s₁, accepted⟩, hsend, hdone⟩ := bind_eq_ok_iff.mp h
      obtain rfl := Except.ok.inj hdone
      exact (send_out_by_name_cases hkind hsend).replies hfits

theorem Replies.cmd_set (c : Context) (s : Node) (arg : List UInt8) :
    Replies c s (s.cmd_set arg) := by
  unfold Node.cmd_set
  split
  · exact .refl c s
  · split
    · exact .silent c rfl rfl rfl rfl rfl rfl rfl
    · split
      · exact .silent c rfl rfl rfl rfl rfl rfl rfl
      · split
        · split
          · exact .silent c rfl rfl rfl rfl rfl rfl rfl
          · exact .refl c s
        · exact .refl c s

theorem Replies.cmd_get (c : Context) (s : Node) (arg : List UInt8) :
    Replies c s (s.cmd_get arg) := by
  unfold Node.cmd_get
  split
  · exact .refl c s
  · split
    · exact .print c s _
    · split
      · exact .print c s _
      · split
        · exact .print c s _
        · exact .refl c s

/-- Printing one line for each of a list of things. -/
theorem Replies.print_all {α : Type} (c : Context) {f : Node → α → Node}
    (hf : ∀ s a, Replies c s (f s a)) (s : Node) (list : List α) :
    Replies c s (list.foldl f s) := by
  induction list generalizing s with
  | nil => exact .refl c s
  | cons a list ih => exact (hf s a).trans (ih (f s a))

theorem Replies.cmd_list (c : Context) (s : Node) (arg : List UInt8) :
    Replies c s (s.cmd_list arg) := by
  unfold Node.cmd_list
  split
  · exact .refl c s
  · split
    · exact .print_all c (fun s e => .print c s _) s _
    · split
      · refine .print_all c (fun s i => ?_) s _
        split
        · exact .print c s _
        · exact .refl c s
      · exact .refl c s

theorem Replies.cmd_block (c : Context) (s : Node) (arg : List UInt8) :
    Replies c s (s.cmd_block arg) := by
  unfold Node.cmd_block
  split
  · exact .refl c s
  · exact .silent c rfl rfl rfl rfl rfl rfl rfl

theorem Replies.cmd_discovery {c : Context} {s : Node} (hfits : c.Fits s) (arg : List UInt8) :
    Replies c s (s.cmd_discovery arg) := by
  unfold Node.cmd_discovery
  split
  · exact .refl c s
  · exact .discovery_neighborhood hfits _

/-- Everything a command does is the node's own. -/
theorem Replies.execute_cmd {c : Context} {s s' : Node} {cmd : List UInt8} (hfits : c.Fits s)
    (h : s.execute_cmd cmd = .ok s') : Replies c (s.emit (.execute_cmd cmd)) s' := by
  have hprint : Replies c (s.emit (.execute_cmd cmd))
      ((s.emit (.execute_cmd cmd)).emit (.print [.bytes cmd])) := .print c _ _
  have hfits' : c.Fits ((s.emit (.execute_cmd cmd)).emit (.print [.bytes cmd])) :=
    ⟨hfits.uid_eq, hfits.neighbor_eq⟩
  apply hprint.trans
  unfold Node.execute_cmd at h
  dsimp only at h
  split at h
  · obtain rfl := Except.ok.inj h
    exact .cmd_echo c _ _
  split at h
  · exact .cmd_send_out hfits' (.inl rfl) h
  split at h
  · exact .cmd_send_out hfits' (.inr rfl) h
  split at h
  · obtain rfl := Except.ok.inj h
    exact .cmd_set c _ _
  split at h
  · obtain rfl := Except.ok.inj h
    exact .cmd_get c _ _
  split at h
  · obtain rfl := Except.ok.inj h
    exact .cmd_list c _ _
  split at h
  · obtain rfl := Except.ok.inj h
    exact .cmd_block c _ _
  split at h
  · obtain rfl := Except.ok.inj h
    exact .cmd_discovery hfits' _
  · obtain rfl := Except.ok.inj h
    exact .refl c _

end Node

end concretid.ems
