import ConcretID.Ems.Deeds

open concretid.memory

namespace concretid.ems

namespace Node

theorem Acts.fits {c : Context} {s s' : Node} {new : List Event} (h : Acts s s' new)
    (hages : ∀ e ∈ new, e.ages = false) (hfits : c.Fits s) : c.Fits s' :=
  ⟨by rw [h.my_uid_eq, hfits.uid_eq],
    (congrArg Transmission.Neighborhood.uid (h.neighborhood_eq hages)).trans hfits.neighbor_eq⟩

theorem Replies.buffer_eq {c : Context} {s s' : Node} (h : Replies c s s') :
    s'.buffer = s.buffer := by
  obtain ⟨_, hquiet, _, _⟩ := h
  exact hquiet.buffer_eq

theorem Replies.ackIfAckly {c : Context} {s s' : Node} (hfits : c.Fits s)
    (hacks : c.acks s.buffer.rid) (h : s.ackIfAckly = .ok s') : Replies c s s' := by
  unfold Node.ackIfAckly at h
  split at h
  · exact .send_ack hfits hacks h
  · obtain rfl := Except.ok.inj h
    exact .refl c s

theorem Handles.register_rid (c : Context) (s : Node) (rid : Rid) :
    Handles c s (s.register_rid rid) [.register_rid rid] :=
  .one (Quiet.register_rid s rid).acts rfl

theorem Handles.register_uid (c : Context) (s : Node) (uid : Uid) (link : Option Slot)
    (name : Option (List UInt8)) : Handles c s (s.register_uid uid link name) [.register_uid uid link] :=
  .one (Quiet.register_uid s uid link name).acts rfl

/-- Passing on what the receive buffer holds. -/
theorem Handles.flood {c : Context} {s : Node} {p q : Package} (hbuffer : s.buffer.package p.size = q) :
    Handles c s (s.send_package .process p.size broadcast_uid)
      [.send_package .process q broadcast_uid] := by
  have hsend := Quiet.send_package s (b := .process) (by simp) p.size broadcast_uid
  rw [show (s.packageBuffer .process).package p.size = q from hbuffer] at hsend
  exact .one hsend.acts rfl

/-- The line printed for a message, with the text as it came. -/
theorem Handles.printMessage {c : Context} {s : Node} {p : Package} (h : s.Holds p)
    (hshort : p.short = false) (title : String) (offset len : Nat) :
    Handles c s (s.printMessage title offset len)
      [.message title p.source (cstring (load s.buffer.data (p.offset + offset) len))] := by
  rw [← h.ident_eq hshort, ← h.offset_eq]
  exact .one (Quiet.emit s rfl rfl fun _ => rfl).acts rfl

theorem Handles.registerSource {c : Context} {s : Node} {p : Package} (h : s.Holds p)
    (hshort : p.short = false) (hfits : c.Fits s) (link : Option Slot) :
    Handles c s (s.registerSource link) (p.routes link) ∧ (s.registerSource link).Holds p ∧
      c.Fits (s.registerSource link) := by
  unfold Node.registerSource Package.routes
  rw [h.ident_eq hshort]
  cases p.source with
  | none => exact ⟨.silent (.refl s), h, hfits⟩
  | some source =>
    have hquiet := Quiet.register_uid s source link none
    exact ⟨.register_uid c s source link none, h.of_buffer hquiet.buffer_eq,
      hquiet.acts.fits (List.forall_mem_singleton.mpr rfl) hfits⟩

/-- A request is answered or passed on. -/
theorem Handles.answerRequest {c : Context} {s s' : Node} {p : Package} {forMe : Bool}
    (h : s.Holds p) (hfits : c.Fits s) (hcall : s.answerRequest p.size forMe = .ok s') :
    ∃ deeds, Handles c s s' deeds ∧
      (deeds = [] ∨ deeds = [.send_package .process p broadcast_uid]) := by
  unfold Node.answerRequest at hcall
  split at hcall
  · split at hcall
    · obtain ⟨s₁, hpromote, hannounce⟩ := bind_eq_ok_iff.mp hcall
      have hpromoted : Replies c s s₁ := .promote_uid_table hpromote
      exact ⟨[], .of_replies (hpromoted.trans
        (.announce_me_to (hpromoted.fits hfits) hannounce)), .inl rfl⟩
    · obtain rfl := Except.ok.inj hcall
      exact ⟨[], .silent (.refl s), .inl rfl⟩
  · obtain rfl := Except.ok.inj hcall
    exact ⟨_, .flood h, .inr rfl⟩

/-- `acknowledge` frees the slot whose package has the upper bits of the id. -/
theorem acknowledge_cases (s : Node) (rid : Rid) :
    s.acknowledge rid = (s, false) ∨
    ∃ i s', s.acknowledge rid = (s', true) ∧ Quiet s s' [.acknowledge i rid] ∧
      (s.sendout_package i).package.rid &&& RID_FIXED = rid &&& RID_FIXED ∧
      (s'.sendout_package i).time = 0 := by
  unfold Node.acknowledge
  split
  · rename_i i hfind
    refine .inr ⟨i, _, rfl, ⟨⟨rfl, rfl, rfl, rfl, .refl, ?_⟩, rfl⟩, ?_, by simp⟩
    · intro j
      have hfreed : SlotRun s.me.timing s.my_uid j (s.sendout_package j) []
          ((s.setSendout i { s.sendout_package i with time := 0 }).sendout_package j) := by
        by_cases hj : j = i
        · subst hj
          rw [setSendout_self]
          exact (SlotStep.free _).run
        · rw [(Touches.setSendout s i _).others j hj]
          exact .refl
      simpa [Event.ofSlot] using hfreed
    · have hmatch := List.find?_some hfind
      simp only [beq_iff_eq] at hmatch
      exact (xor_fixed_eq_zero.mp hmatch).symm
  · exact .inl rfl

theorem Holds.acked_eq {s : Node} {p : Package} (h : s.Holds p)
    (hlength : p.body.length = RID_SIZE) : ridAt s.buffer.data s.dataOffset = p.acked := by
  have hbytes : p.data.length - p.offset = RID_SIZE := by simpa [Package.body] using hlength
  have hbyte : ∀ k < RID_SIZE, s.buffer.data (p.offset + k) = p.data.getD (p.offset + k) 0 :=
    fun k hk => h.byte_eq (by omega)
  have hfirst := hbyte 0 (by decide)
  rw [Nat.add_zero] at hfirst
  rw [h.offset_eq, Package.acked, ridAt, ridAt, hbyte 3 (by decide), hbyte 2 (by decide),
    hbyte 1 (by decide), hfirst]

/-! ## The types -/

/-- A message is acknowledged and then printed. -/
theorem handles_msg {c : Context} {s s' : Node} {p : Package} (h : s.Holds p)
    (hshort : p.short = false) (hfits : c.Fits s) (hacks : c.acks p.rid)
    (hcall : (s.ackIfAckly >>= fun s₁ =>
      .ok (s₁.printMessage "new msg" 0 (p.data.length - p.offset))) = .ok s') :
    Handles c s s' [.message "new msg" p.source (cstring p.body)] := by
  obtain ⟨s₁, hack, hdone⟩ := bind_eq_ok_iff.mp hcall
  obtain rfl := Except.ok.inj hdone
  have hacked := Replies.ackIfAckly hfits (by rwa [h.rid_eq]) hack
  have hholds := h.of_buffer hacked.buffer_eq
  have hprint := Handles.printMessage (c := c) hholds hshort "new msg" 0 (p.data.length - p.offset)
  rw [Nat.add_zero, hholds.body_eq] at hprint
  exact hprint.after_replies hacked

/-- A command is acknowledged and then executed. -/
theorem handles_command {c : Context} {s s' : Node} {cmd : List UInt8} (hfits : c.Fits s)
    (hcall : s.execute_cmd cmd = .ok s') : Handles c s s' [.execute_cmd cmd] := by
  have hcmd : Handles c s (s.emit (.execute_cmd cmd)) [.execute_cmd cmd] :=
    .one (Quiet.emit s rfl rfl fun _ => rfl).acts rfl
  exact hcmd.then_replies (.execute_cmd hfits hcall)

/-- A neighbour request that travels on has its depth counted down in place. -/
theorem Holds.count_depth {s : Node} {p : Package} (h : s.Holds p)
    (htype : p.type = .NEIGHBOR_REQUEST) (hlength : p.body.length = 1) :
    s.buffer.data s.dataOffset = p.depth ∧
      (s.writeData .process s.dataOffset [s.buffer.data s.dataOffset - 1]).Holds p.forwarded := by
  rw [Package.body_length] at hlength
  have hdepth : s.buffer.data s.dataOffset = p.depth := by
    rw [h.offset_eq]
    exact h.byte_eq (by omega)
  refine ⟨hdepth, ?_⟩
  have hsize : p.size - sizeof_package = p.data.length := by simp [Package.size]
  have hforwarded : p.forwarded.size = p.size := by simp [Package.size]
  rw [Holds, hforwarded, hdepth, h.offset_eq, Package.forwarded, if_pos htype]
  simp only [Node.writeData, packageBuffer, setPackageBuffer, PackageBuffer.package, hsize,
    h.rid_eq, h.flags_eq, load_store_single, h.data_eq]

theorem handles_depth {c : Context} {s s' : Node} {p : Package} {link : Option Slot}
    (h : s.Holds p) (hshort : p.short = false) (htype : p.type = .NEIGHBOR_REQUEST)
    (hfits : c.Fits s) (hlength : p.body.length = 1)
    (hcall : (let depth := s.buffer.data s.dataOffset
      let s := s.writeData .process s.dataOffset [depth - 1]
      let s := if depth ≠ 0 then s.send_package .process p.size broadcast_uid else s
      match s.ident with
      | some source => (s.register_uid source link none).announce_me_to source
      | none => .ok s) = .ok s') :
    Handles c s s' ((if p.depth ≠ 0 then
      [.send_package .process p.forwarded broadcast_uid] else []) ++ p.routes link) := by
  obtain ⟨hdepth, hcounted⟩ := h.count_depth htype hlength
  have hsize : p.forwarded.size = p.size := by simp [Package.size]
  have hshort' : p.forwarded.short = false := by
    rw [← hshort]
    simp [Package.short, Package.identified]
  dsimp only at hcall
  rw [hdepth] at hcall hcounted
  have hwritten : Handles c s (s.writeData .process s.dataOffset [p.depth - 1]) [] :=
    .silent (.writeData_process _ _ _)
  have hfits' : c.Fits (s.writeData .process s.dataOffset [p.depth - 1]) :=
    ⟨hfits.uid_eq, hfits.neighbor_eq⟩
  generalize s.writeData .process s.dataOffset [p.depth - 1] = s₁ at hcall hcounted hwritten hfits'
  have hpassed : ∃ s₂, s₂ = (if p.depth ≠ 0 then s₁.send_package .process p.size broadcast_uid
        else s₁) ∧ s₂.Holds p.forwarded ∧ c.Fits s₂ ∧
      Handles c s₁ s₂ (if p.depth ≠ 0 then
        [.send_package .process p.forwarded broadcast_uid] else []) := by
    refine ⟨_, rfl, ?_⟩
    split
    · exact ⟨hcounted, ⟨hfits'.uid_eq, hfits'.neighbor_eq⟩, .flood (by rw [← hsize]; exact hcounted)⟩
    · exact ⟨hcounted, hfits', .silent (.refl s₁)⟩
  obtain ⟨s₂, hs₂, hholds, hfits₂, hflood⟩ := hpassed
  rw [← hs₂, hholds.ident_eq hshort', Package.forwarded_source] at hcall
  have hsent : Handles c s s₂ _ := hwritten.trans hflood
  apply hsent.trans
  unfold Package.routes
  cases hsource : p.source with
  | none =>
    rw [hsource] at hcall
    obtain rfl := Except.ok.inj hcall
    exact .silent (.refl s₂)
  | some source =>
    rw [hsource] at hcall
    have hquiet := Quiet.register_uid s₂ source link none
    exact (Handles.register_uid c s₂ source link none).then_replies
      (.announce_me_to (hquiet.acts.fits (List.forall_mem_singleton.mpr rfl) hfits₂) hcall)

/-- A request from a neighbour enters the route back and is answered or passed on. -/
theorem handles_request {c : Context} {s s₁ s' : Node} {p : Package} {link : Option Slot}
    {forMe : Bool} (h : s.Holds p) (hshort : p.short = false) (hfits : c.Fits s)
    (hterminate : ∀ r, r = s.registerSource link → r.Holds p → c.Fits r →
      Handles c r s₁ [] ∧ s₁.Holds p ∧ c.Fits s₁)
    (hcall : s₁.answerRequest p.size forMe = .ok s') :
    ∃ deeds, Handles c s s' deeds ∧ (deeds = p.routes link ∨
      deeds = p.routes link ++ [.send_package .process p broadcast_uid]) := by
  obtain ⟨hroutes, hholds, hfits'⟩ := Handles.registerSource h hshort hfits link
  obtain ⟨hsilent, hholds₁, hfits₁⟩ := hterminate _ rfl hholds hfits'
  obtain ⟨deeds, hanswer, hdeeds⟩ := Handles.answerRequest hholds₁ hfits₁ hcall
  refine ⟨_, (hroutes.trans hsilent).trans hanswer, ?_⟩
  obtain rfl | rfl := hdeeds
  · exact .inl (by simp)
  · exact .inr (by simp)

/-- A package with a command is acknowledged and then executed. -/
theorem handles_package_command {c : Context} {s s' : Node} {p : Package} {src : Uid}
    {link : Option Slot} (h : s.Holds p) (hshort : p.short = false) (hfits : c.Fits s)
    (hacks : c.acks s.buffer.rid) (htype : p.type = .COMMAND)
    (hcall : s.process_type p.size src link (p.data.length - p.offset) = .ok s') :
    Handles c s s' [.execute_cmd (cstring p.body)] := by
  unfold Node.process_type at hcall
  rw [h.type_eq, htype] at hcall
  dsimp only at hcall
  obtain ⟨s₁, hack, hrest⟩ := bind_eq_ok_iff.mp hcall
  obtain ⟨s₂, hterminate, hexecute⟩ := bind_eq_ok_iff.mp hrest
  have hacked := Replies.ackIfAckly hfits hacks hack
  have hholds₁ := h.of_buffer hacked.buffer_eq
  obtain ⟨hacts, hholds, hsame, _⟩ := terminate_cases hholds₁ hshort hterminate
  have hfits' : c.Fits s₂ := hacts.fits (by simp) (hacked.fits hfits)
  rw [hholds.offset_eq, hholds.body_eq] at hexecute
  have hdone : Handles c s s' ([] ++ _) :=
    (Handles.silent hacts).trans (handles_command hfits' hexecute) |>.after_replies hacked
  exact hdone

/-- A neighbour request with a depth comes to deeds only over a link. -/
theorem handles_neighbor_request {c : Context} {s s' : Node} {p : Package} {src : Uid}
    {link : Option Slot} (h : s.Holds p) (hshort : p.short = false) (hfits : c.Fits s)
    (hanswers : c.answers src) (htype : p.type = .NEIGHBOR_REQUEST)
    (hcall : s.process_type p.size src link (p.data.length - p.offset) = .ok s') :
    Handles c s s' (if p.body.length = 1 ∧ link.isSome then
      (if p.depth ≠ 0 then [.send_package .process p.forwarded broadcast_uid] else []) ++
        p.routes link else []) := by
  unfold Node.process_type at hcall
  rw [h.type_eq, htype] at hcall
  dsimp only at hcall
  rw [← Package.body_length] at hcall
  split at hcall
  · rename_i hlength
    split at hcall
    · rename_i hlink
      rw [if_pos ⟨hlength, hlink⟩]
      exact handles_depth h hshort htype hfits hlength hcall
    · rename_i hlink
      obtain rfl := Except.ok.inj hcall
      rw [if_neg fun hboth => hlink hboth.2]
      exact .of_replies (.send_neighboor_request_to c s src)
  · rename_i hlength
    rw [if_neg fun hboth => hlength hboth.1]
    split at hcall
    · obtain rfl := Except.ok.inj hcall
      exact .of_replies (.send_echo_to hanswers s)
    · obtain rfl := Except.ok.inj hcall
      exact .silent (.refl s)

/-- An announcement enters the route to its source. -/
theorem handles_announcement {c : Context} {s s' : Node} {p : Package} {src : Uid}
    {link : Option Slot} (h : s.Holds p) (hshort : p.short = false) (htype : p.type = .ANNOUNCEMENT)
    (hcall : s.process_type p.size src link (p.data.length - p.offset) = .ok s') :
    Handles c s s' (p.routes link) := by
  unfold Node.process_type at hcall
  rw [h.type_eq, htype] at hcall
  dsimp only at hcall
  rw [h.ident_eq hshort] at hcall
  cases hsource : p.source with
  | none =>
    rw [hsource] at hcall
    obtain rfl := Except.ok.inj hcall
    rw [Package.routes, hsource]
    exact .silent (.refl s)
  | some source =>
    rw [hsource] at hcall
    rw [Package.routes, hsource]
    dsimp only at hcall
    split at hcall
    · obtain ⟨s₁, hterminate, hpromote⟩ := bind_eq_ok_iff.mp hcall
      obtain ⟨hacts, hholds, _, _⟩ := terminate_cases h hshort hterminate
      exact ((Handles.silent hacts).trans (.register_uid c s₁ source link _)).then_replies
        (.promote_uid_table hpromote)
    · exact (Handles.register_uid c s source link none).then_replies (.promote_uid_table hcall)

/-- The id an acknowledgement carries is looked up in the slots. -/
theorem Holds.acknowledge_cases {s : Node} {p : Package} (c : Context) (h : s.Holds p)
    (hlength : p.body.length = RID_SIZE) :
    s.acknowledge (ridAt s.buffer.data s.dataOffset) = (s, false) ∨
      ∃ i s₁, s.acknowledge (ridAt s.buffer.data s.dataOffset) = (s₁, true) ∧
        Handles c s s₁ [.acknowledge i p.acked] := by
  rw [h.acked_eq hlength]
  obtain hunknown | ⟨i, s₁, hknown, hquiet, _⟩ := Node.acknowledge_cases s p.acked
  · exact .inl hunknown
  · exact .inr ⟨i, s₁, hknown, .one hquiet.acts rfl⟩

/-- Every type comes to its deeds. -/
theorem process_type_deeds {c : Context} {s s' : Node} {p : Package} {src : Uid}
    {link : Option Slot} (h : s.Holds p) (hshort : p.short = false) (hfits : c.Fits s)
    (hanswers : c.answers src) (hacks : c.acks p.rid)
    (hcall : s.process_type p.size src link (p.data.length - p.offset) = .ok s') :
    ∃ deeds, Handles c s s' deeds ∧ Deeds p src link deeds := by
  have hacks' : c.acks s.buffer.rid := by rwa [h.rid_eq]
  have hplain : p.type ≠ .NEIGHBOR_REQUEST →
      Handles c s (s.send_package .process p.size broadcast_uid)
        [.send_package .process p.forwarded broadcast_uid] := by
    intro htype
    rw [Package.forwarded_eq htype]
    exact .flood h
  have hnone : Handles c s s [] := .silent (.refl s)
  have hprocess := hcall
  unfold Node.process_type at hcall
  unfold Deeds
  rw [h.type_eq] at hcall
  cases htype : p.type <;> rw [htype] at hcall hplain <;> dsimp only at hcall ⊢
  case SEQUENCE => exact ⟨[], .of_replies (.ackIfAckly hfits hacks' hcall), rfl⟩
  case BASE64 => exact ⟨[], .of_replies (.ackIfAckly hfits hacks' hcall), rfl⟩
  case MSG => exact ⟨_, handles_msg h hshort hfits hacks hcall, rfl⟩
  case COMMAND => exact ⟨_, handles_package_command h hshort hfits hacks' htype hprocess, rfl⟩
  case MSG_TO =>
    split at hcall
    · obtain rfl := Except.ok.inj hcall
      exact ⟨_, hnone, .inl rfl⟩
    · split at hcall
      · obtain ⟨s₁, hack, hdone⟩ := bind_eq_ok_iff.mp hcall
        obtain rfl := Except.ok.inj hdone
        have hacked := Replies.ackIfAckly hfits hacks' hack
        have hprint := Handles.printMessage (c := c) (h.of_buffer hacked.buffer_eq) hshort "new msg"
          UID_SIZE (p.data.length - p.offset - UID_SIZE)
        exact ⟨_, hprint.after_replies hacked, .inr (.inl ⟨_, rfl⟩)⟩
      · obtain rfl := Except.ok.inj hcall
        exact ⟨_, hplain (by simp), .inr (.inr rfl)⟩
  case BROADCAST_MSG =>
    obtain rfl := Except.ok.inj hcall
    have hprint := Handles.printMessage (c := c) h hshort "broadcast msg" 0 (p.data.length - p.offset)
    rw [Nat.add_zero, h.body_eq] at hprint
    rw [Package.forwarded_eq (by simp [htype])]
    exact ⟨_, hprint.trans (.flood h), rfl⟩
  case NAME_REQUEST =>
    rw [Package.body_length]
    split at hcall
    · rename_i hempty
      obtain rfl := Except.ok.inj hcall
      refine ⟨_, hnone, ?_⟩
      rw [if_pos hempty]
    · rename_i hbody
      obtain ⟨s₁, hterminate, hanswer⟩ := bind_eq_ok_iff.mp hcall
      obtain ⟨deeds, hhandles, hdeeds⟩ := handles_request h hshort hfits
        (fun r hr hholds hfits' => by
          rw [← hr] at hterminate
          obtain ⟨hacts, hholds₁, _, _⟩ := terminate_cases hholds hshort hterminate
          exact ⟨.silent hacts, hholds₁, hacts.fits (by simp) hfits'⟩) hanswer
      refine ⟨deeds, hhandles, ?_⟩
      rw [if_neg hbody, Package.forwarded_eq (by simp [htype])]
      exact hdeeds
  case UID_REQUEST =>
    rw [Package.body_length]
    split at hcall
    · rename_i hlength
      obtain rfl := Except.ok.inj hcall
      refine ⟨_, hnone, ?_⟩
      rw [if_pos hlength]
    · rename_i hlength
      obtain ⟨deeds, hhandles, hdeeds⟩ := handles_request h hshort hfits
        (fun r hr hholds hfits' => by
          rw [← hr]
          exact ⟨.silent (.refl r), hholds, hfits'⟩) hcall
      refine ⟨deeds, hhandles, ?_⟩
      rw [if_neg hlength, Package.forwarded_eq (by simp [htype])]
      exact hdeeds
  case NEIGHBOR_REQUEST =>
    refine ⟨_, handles_neighbor_request h hshort hfits hanswers htype hprocess, ?_⟩
    split <;> rfl
  case ECHO =>
    obtain ⟨s₁, hregister, hdone⟩ := bind_eq_ok_iff.mp hcall
    obtain rfl := Except.ok.inj hdone
    have hneighbor : Handles c s s₁ [.register_neighbor src] :=
      .one (Quiet.register_neighbor hregister).acts rfl
    exact ⟨_, hneighbor.then_replies (.send_reecho_to hanswers s₁), rfl⟩
  case REECHO => exact ⟨_, .one (Quiet.register_neighbor hcall).acts rfl, rfl⟩
  case ANNOUNCEMENT => exact ⟨_, handles_announcement h hshort htype hprocess, rfl⟩
  case ACK =>
    rw [Package.body_length]
    split at hcall
    · obtain rfl := Except.ok.inj hcall
      exact ⟨_, hnone, .inl rfl⟩
    · rename_i hlength
      rw [not_not] at hlength
      obtain rfl := Except.ok.inj hcall
      obtain hunknown | ⟨i, s₁, hknown, hfreed⟩ :=
        h.acknowledge_cases c (by rw [Package.body_length, hlength])
      · rw [hunknown]
        exact ⟨_, hnone, .inl rfl⟩
      · rw [hknown]
        exact ⟨_, hfreed, .inr ⟨i, hlength, rfl⟩⟩
  case BROADCAST_ACK =>
    rw [Package.body_length]
    split at hcall
    · obtain rfl := Except.ok.inj hcall
      exact ⟨_, hnone, .inl rfl⟩
    · rename_i hlength
      rw [not_not] at hlength
      obtain hunknown | ⟨i, s₁, hknown, hfreed⟩ :=
        h.acknowledge_cases c (by rw [Package.body_length, hlength])
      · rw [hunknown] at hcall
        obtain rfl := Except.ok.inj hcall
        exact ⟨_, hplain (by simp), .inr (.inr rfl)⟩
      · rw [hknown] at hcall
        obtain rfl := Except.ok.inj hcall
        exact ⟨_, hfreed, .inr (.inl ⟨i, hlength, rfl⟩)⟩
  case NACK =>
    obtain rfl := Except.ok.inj hcall
    exact ⟨_, hnone, rfl⟩
  case FIRST =>
    obtain rfl := Except.ok.inj hcall
    exact ⟨_, hnone, rfl⟩

end Node

end concretid.ems
