import ConcretID.Ems.Outcome

open concretid.memory

namespace concretid.ems

namespace Transmission

def setTime (t : Transmission) (time : Slot → UInt8) : Transmission := { t with neighbor_time := time }

/-- The time of a slot once a tick has been counted. -/
def counted (time : UInt8) : UInt8 := if Valid_num time then time + 1 else time

@[simp] theorem setTime_setTime (t : Transmission) (time later : Slot → UInt8) :
    (t.setTime time).setTime later = t.setTime later := rfl

end Transmission

namespace Node

/-! ## A tick of `check_transmission` -/

def setTime (s : Node) (time : Slot → UInt8) : Node :=
  s.setTransmission (s.transmission.setTime time)

/-- What a node does on its own account does not depend on the times of its
neighbours. -/
theorem Replies.setTime {c : Context} {s s' : Node} (h : Replies c s s') (time : Slot → UInt8) :
    Replies c (s.setTime time) (s'.setTime time) := by
  obtain ⟨new, hquiet, hown, hhead⟩ := h
  have hages : new.filter Event.ages = [] := by
    rw [List.filter_eq_nil_iff]
    exact fun e he => by simp [(hown e he).ages_eq]
  have hsame := hquiet.acts.neighborhood_eq fun e he => (hown e he).ages_eq
  obtain ⟨⟨htrace, huid, htiming, hrids, _, hslot⟩, hbuffer⟩ := hquiet
  refine ⟨new, ⟨⟨htrace, huid, htiming, hrids, ?_, hslot⟩, hbuffer⟩, hown, hhead⟩
  have htimes : (s'.setTime time).transmission.neighborhood =
      (s.setTime time).transmission.neighborhood := by
    have hparts : { s'.transmission.neighborhood with time } =
        { s.transmission.neighborhood with time } := by rw [hsame]
    exact hparts
  rw [hages, htimes]
  exact .refl

/-- One slot's tick counts its time and perhaps asks the neighbour: the branch
that deletes it comes after a test that already holds whenever its own does. -/
theorem check_transmission_slot_cases (s : Node) (i : Slot) :
    let aged := s.setTime (Function.update s.transmission.neighbor_time i
      (Transmission.counted (s.transmission.neighbor_time i)))
    s.check_transmission_slot i = aged ∨
      s.check_transmission_slot i = aged.send_neighboor_request_to (s.transmission.neighbor i) := by
  intro aged
  unfold check_transmission_slot
  by_cases hvalid : Valid_num (s.transmission.neighbor_time i) = true
  · rw [if_pos hvalid]
    have haged : aged = s.setTransmission { s.transmission with
        neighbor_time := Function.update s.transmission.neighbor_time i
          (s.transmission.neighbor_time i + 1) } := by
      simp only [aged, setTime, Transmission.setTime, Transmission.counted, if_pos hvalid]
    dsimp only
    rw [← haged]
    split
    · exact .inr rfl
    · rename_i hfresh
      rw [if_neg]
      · exact .inl rfl
      · intro hold
        have hle : (s.transmission.neighbor_time i + 1).toNat ≤ aged.me.neighbor_good_till.toNat :=
          UInt8.le_iff_toNat_le.mp (UInt8.not_lt.mp hfresh)
        omega
  · rw [if_neg hvalid]
    left
    simp only [aged, setTime, Transmission.setTime, Transmission.counted, if_neg hvalid,
      Function.update_eq_self]
    rfl

@[simp] theorem send_neighboor_request_to_transmission (s : Node) (uid : Uid) :
    (s.send_neighboor_request_to uid).transmission = s.transmission := by
  simp [send_neighboor_request_to, send_package]

@[simp] theorem setTime_transmission (s : Node) (time : Slot → UInt8) :
    (s.setTime time).transmission = s.transmission.setTime time := rfl

theorem setTime_self (s : Node) : s.setTime s.transmission.neighbor_time = s := rfl

/-- The ticks of some slots count their times and are otherwise the node's own. -/
theorem check_transmission_slots (c : Context) {slots : List Slot} (hnodup : slots.Nodup) (s : Node) :
    let aged := s.setTime fun i =>
      if i ∈ slots then Transmission.counted (s.transmission.neighbor_time i)
      else s.transmission.neighbor_time i
    Replies c aged (slots.foldl check_transmission_slot s) ∧
      (slots.foldl check_transmission_slot s).transmission = aged.transmission := by
  induction slots generalizing s with
  | nil =>
    intro aged
    have hsame : aged = s := by simp [aged, setTime_self]
    rw [hsame]
    exact ⟨.refl c s, rfl⟩
  | cons i slots ih =>
    intro aged
    obtain ⟨hfresh, hrest⟩ := List.nodup_cons.mp hnodup
    let first := s.setTime (Function.update s.transmission.neighbor_time i
      (Transmission.counted (s.transmission.neighbor_time i)))
    have hslot : Replies c first (s.check_transmission_slot i) ∧
        (s.check_transmission_slot i).transmission = first.transmission := by
      obtain hquiet | hasks := check_transmission_slot_cases s i
      · rw [hquiet]
        exact ⟨.refl c _, rfl⟩
      · rw [hasks]
        exact ⟨.send_neighboor_request_to c _ _, by simp [first]⟩
    obtain ⟨hreplies, htransmission⟩ := hslot
    obtain ⟨hlater, htables⟩ := ih hrest (s.check_transmission_slot i)
    have htimes : (fun j => if j ∈ slots then
          Transmission.counted ((s.check_transmission_slot i).transmission.neighbor_time j)
        else (s.check_transmission_slot i).transmission.neighbor_time j) =
        fun j => if j ∈ i :: slots then Transmission.counted (s.transmission.neighbor_time j)
          else s.transmission.neighbor_time j := by
      funext j
      rw [htransmission]
      by_cases hj : j = i
      · subst hj
        simp [first, setTime, Transmission.setTime, hfresh]
      · simp [first, setTime, Transmission.setTime, hj]
    rw [htimes] at hlater htables
    refine ⟨(hreplies.setTime _).trans hlater, ?_⟩
    rw [List.foldl_cons, htables]
    simp only [setTime, htransmission]
    rfl

/-- A tick changes the tables by counting the times, and nothing else. -/
theorem check_transmission_transmission (s : Node) :
    s.check_transmission.transmission = s.transmission.setTime fun i =>
      Transmission.counted (s.transmission.neighbor_time i) := by
  have hslots := (check_transmission_slots (s.context (fun _ => False) fun _ => False)
    (List.nodup_finRange NEIGHBORHOOD_SIZE) (s.emit .check_transmission)).2
  simp only [List.mem_finRange, if_true, setTime_transmission, emit_transmission] at hslots
  unfold Node.check_transmission
  generalize (List.finRange NEIGHBORHOOD_SIZE).foldl check_transmission_slot
    (s.emit .check_transmission) = s₁ at hslots ⊢
  dsimp only
  split
  · simpa [send_neighboor_request_to_all, send_package] using hslots
  · exact hslots

theorem Handles.check_transmission (c : Context) (s : Node) :
    Handles c s s.check_transmission [.check_transmission] := by
  have hslots := (check_transmission_slots c (List.nodup_finRange NEIGHBORHOOD_SIZE)
    (s.emit .check_transmission)).1
  simp only [List.mem_finRange, if_true, emit_transmission] at hslots
  have hticked : Handles c s ((s.emit .check_transmission).setTime fun i =>
      Transmission.counted (s.transmission.neighbor_time i)) [.check_transmission] :=
    .one ⟨rfl, rfl, rfl, rfl, .tick .refl, fun i => .refl⟩ rfl
  refine hticked.then_replies (hslots.trans ?_)
  unfold Node.check_transmission
  generalize (List.finRange NEIGHBORHOOD_SIZE).foldl check_transmission_slot
    (s.emit .check_transmission) = s₁
  dsimp only
  split
  · refine .trans ?_ (.send_neighboor_request_to_all c _)
    exact .silent c rfl rfl rfl rfl rfl rfl rfl
  · exact .silent c rfl rfl rfl rfl rfl rfl rfl

end Node

/-! ## The calls a node starts itself -/

/-- What the main loop, the timers and the user have a node do. -/
inductive Call where
  | check_send_out
  | check_transmission
  | execute_cmd (cmd : List UInt8)
  | send_broadcast_msg (msg : List UInt8)
  | send_name_request (name : List UInt8)
  | send_uid_request (uid : Uid)
  | discovery_neighborhood (depth : UInt8)
  | send_out_by_name (name data : List UInt8) (type : PackageType)
      (hkind : type = .MSG ∨ type = .COMMAND)

def Call.run (s : Node) : Call → Result Node
  | .check_send_out => s.check_send_out
  | .check_transmission => .ok s.check_transmission
  | .execute_cmd cmd => s.execute_cmd cmd
  | .send_broadcast_msg msg => s.send_broadcast_msg msg
  | .send_name_request name => .ok (s.send_name_request name)
  | .send_uid_request uid => .ok (s.send_uid_request uid)
  | .discovery_neighborhood depth => .ok (s.discovery_neighborhood depth)
  | .send_out_by_name name data type _ => do
    let (s, _) ← s.send_out_by_name name data type
    return s

/-- The events that show which call it was. -/
def Call.deeds : Call → List Event
  | .check_send_out => [.check_send_out]
  | .check_transmission => [.check_transmission]
  | .execute_cmd cmd => [.execute_cmd cmd]
  | _ => []

/-- A node on its own answers nobody and acknowledges nothing. -/
def Node.alone (s : Node) : Context := s.context (fun _ => False) fun _ => False

theorem Call.handles {s s' : Node} {call : Call} (h : call.run s = .ok s') :
    Node.Handles s.alone s s' call.deeds := by
  have hfits : s.alone.Fits s := s.context_fits _ _
  cases call with
  | check_send_out =>
    have hcalled : Node.Handles s.alone s (s.emit .check_send_out) [.check_send_out] :=
      .one (Node.Quiet.emit s rfl rfl fun _ => rfl).acts rfl
    exact hcalled.then_replies
      (Node.Replies.check_send_out_slots ⟨hfits.uid_eq, hfits.neighbor_eq⟩ h)
  | check_transmission =>
    obtain rfl := Except.ok.inj h
    exact .check_transmission s.alone s
  | execute_cmd cmd => exact Node.handles_command hfits h
  | send_broadcast_msg msg => exact .of_replies (.send_broadcast_msg h)
  | send_name_request name =>
    obtain rfl := Except.ok.inj h
    exact .of_replies (.send_name_request hfits name)
  | send_uid_request uid =>
    obtain rfl := Except.ok.inj h
    exact .of_replies (.send_uid_request hfits uid)
  | discovery_neighborhood depth =>
    obtain rfl := Except.ok.inj h
    exact .of_replies (.discovery_neighborhood hfits depth)
  | send_out_by_name name data type hkind =>
    obtain ⟨⟨s₁, accepted⟩, hsend, hdone⟩ := bind_eq_ok_iff.mp h
    obtain rfl := Except.ok.inj hdone
    exact .of_replies ((Node.send_out_by_name_cases hkind hsend).replies hfits)

/-! ## The broadcasts a node originates -/

/-- The four calls that broadcast a package for others to pass on. -/
def Call.originates : Call → Bool
  | .send_broadcast_msg _ | .send_name_request _ | .send_uid_request _ => true
  | .discovery_neighborhood _ => true
  | _ => false

/-- What a package with an identified head is sent as. -/
theorem identified_transmitted (s : Node) (type : PackageType) (bytes : List UInt8) :
    s.transmitted (((s.make_package_head .messages PACKAGE_IDENTIFIED type).writeData .messages
        sizeof_identified_head bytes).send_package .messages
          (sizeof_package + sizeof_identified_head + bytes.length) broadcast_uid) =
      [{ package :=
          { rid := s.nextRid
            flags := PACKAGE_IDENTIFIED ||| type.code
            data := s.my_uid.toList ++ bytes }
         dest := broadcast_uid }] := by
  have hpackage := Node.package_identified s type bytes
  unfold Node.send_package Node.transmitted
  rw [hpackage]
  simp [Node.writeData, Event.sent?, List.filterMap_cons]

/-- What `send_broadcast_msg` transmits is the text, which fits in its buffer. -/
theorem broadcast_transmitted {s s' : Node} {msg : List UInt8}
    (h : s.send_broadcast_msg msg = .ok s') :
    (cstring msg).length < Buffer.messages.capacity ∧
      s.transmitted s' =
        [{ package :=
            { rid := s.nextRid
              flags := 0 ||| PackageType.BROADCAST_MSG.code
              data := cstring msg }
           dest := broadcast_uid }] := by
  have hpackage := Node.package_plain s .BROADCAST_MSG (cstring msg) [0]
  unfold Node.send_broadcast_msg at h
  dsimp only at h
  split at h
  · cases h
  · rename_i hfits
    obtain rfl := Except.ok.inj h
    refine ⟨by omega, ?_⟩
    unfold Node.send_package Node.transmitted
    rw [hpackage]
    simp [Node.writeData, Event.sent?, List.filterMap_cons]

end concretid.ems
