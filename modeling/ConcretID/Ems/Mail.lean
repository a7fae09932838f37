import ConcretID.Ems.Effects

open concretid.memory

namespace concretid.ems

/-- What the packages a node sends may refer to: the node's uid and neighbours,
whom it may answer and which packages it may acknowledge. -/
structure Context where
  uid : Uid
  neighbor : Slot → Uid
  answers : Uid → Prop
  acks : Rid → Prop

/-- The context is that of a node. -/
structure Context.Fits (c : Context) (s : Node) : Prop where
  uid_eq : s.my_uid = c.uid
  neighbor_eq : s.transmission.neighbor = c.neighbor

/-- The packages of `messages.c` with their destinations: everything a node
sends from `messages_buffer`. -/
inductive Mail (c : Context) : Package → Uid → Prop where
  | ack {p : Package} (l : Slot) {rid : Rid} (hacks : c.acks rid)
      (hcontent : p.content =
        { rid := p.rid, flags := PackageType.ACK.code, data := ridBytes rid }) :
      Mail c p (c.neighbor l)
  | broadcast_ack {r rid : Rid} (hacks : c.acks rid) :
      Mail c { rid := r, flags := PackageType.BROADCAST_ACK.code, data := ridBytes rid }
        broadcast_uid
  | announcement {p : Package} (l : Slot) (name : List UInt8)
      (hcontent : p.content =
        { rid := p.rid
          flags := PACKAGE_IDENTIFIED ||| PackageType.ANNOUNCEMENT.code
          data := c.uid.toList ++ name }) : Mail c p (c.neighbor l)
  | echo {r : Rid} {dest : Uid} (hanswers : c.answers dest) :
      Mail c { rid := r, flags := PackageType.ECHO.code, data := [] } dest
  | reecho {r : Rid} {dest : Uid} (hanswers : c.answers dest) :
      Mail c { rid := r, flags := PackageType.REECHO.code, data := [] } dest
  | uid_request {r : Rid} (uid : Uid) :
      Mail c
        { rid := r
          flags := PACKAGE_IDENTIFIED ||| PackageType.UID_REQUEST.code
          data := c.uid.toList ++ uid.toList } broadcast_uid
  | name_request {r : Rid} (name : List UInt8) (hname : name.length = NAME_SIZE) :
      Mail c
        { rid := r
          flags := PACKAGE_IDENTIFIED ||| PackageType.NAME_REQUEST.code
          data := c.uid.toList ++ name } broadcast_uid
  | discovery {r : Rid} (depth : UInt8) :
      Mail c
        { rid := r
          flags := PACKAGE_IDENTIFIED ||| PackageType.NEIGHBOR_REQUEST.code
          data := c.uid.toList ++ [depth] } broadcast_uid
  | neighbor_request {r : Rid} (dest : Uid) :
      Mail c { rid := r, flags := PackageType.NEIGHBOR_REQUEST.code, data := [] } dest
  | broadcast_msg {r : Rid} (text : List UInt8) :
      Mail c { rid := r, flags := PackageType.BROADCAST_MSG.code, data := text } broadcast_uid

/-- What a node does on its own account: it builds packages, sends those of
`messages.c` and those of the slots, and prints. -/
inductive Own (c : Context) : Event → Prop where
  | head {b : Buffer} (rid : Rid) (hbuffer : b ≠ .process) : Own c (.make_package_head b rid)
  | mail {p : Package} {dest : Uid} (hmail : Mail c p dest) :
      Own c (.send_package .messages p dest)
  | slot (i : Fin SENDOUT_QTY) (p : Package) (l : Slot) :
      Own c (.send_package (.sendout i) p (c.neighbor l))
  | print (line : List Out) : Own c (.print line)

/-- Every package sent from `messages_buffer` has just been built there. -/
def Headed (new : List Event) : Prop :=
  ∀ p dest, .send_package .messages p dest ∈ new → .make_package_head .messages p.rid ∈ new

theorem Own.ages_eq {c : Context} {e : Event} (h : Own c e) : e.ages = false := by
  cases h <;> rfl

theorem Headed.append {new later : List Event} (h : Headed new) (h' : Headed later) :
    Headed (new ++ later) := by
  intro p dest hmem
  obtain hold | hlater := List.mem_append.mp hmem
  · exact List.mem_append_left _ (h p dest hold)
  · exact List.mem_append_right _ (h' p dest hlater)

theorem Headed.nil : Headed [] := by
  intro p dest hmem
  simp at hmem

namespace Node

/-- A node goes from one state to another by doing things of its own. -/
def Replies (c : Context) (s s' : Node) : Prop :=
  ∃ new, Quiet s s' new ∧ (∀ e ∈ new, Own c e) ∧ Headed new

theorem Replies.refl (c : Context) (s : Node) : Replies c s s :=
  ⟨[], .refl s, by simp, .nil⟩

theorem Replies.trans {c : Context} {s s' s'' : Node} (h : Replies c s s')
    (h' : Replies c s' s'') : Replies c s s'' := by
  obtain ⟨new, hquiet, hown, hhead⟩ := h
  obtain ⟨later, hquiet', hown', hhead'⟩ := h'
  refine ⟨new ++ later, hquiet.trans hquiet', ?_, hhead.append hhead'⟩
  intro e he
  obtain hold | hlater := List.mem_append.mp he
  · exact hown e hold
  · exact hown' e hlater

/-- The context stays that of the node. -/
theorem Replies.fits {c : Context} {s s' : Node} (h : Replies c s s') (hfits : c.Fits s) :
    c.Fits s' := by
  obtain ⟨new, hquiet, hown, _⟩ := h
  have hsame := hquiet.acts.neighborhood_eq fun e he => (hown e he).ages_eq
  exact ⟨by rw [hquiet.acts.my_uid_eq, hfits.uid_eq],
    (congrArg Transmission.Neighborhood.uid hsame).trans hfits.neighbor_eq⟩

/-- One event that is no transmission from `messages_buffer`. -/
theorem Replies.one {c : Context} {s s' : Node} {e : Event} (hquiet : Quiet s s' [e])
    (hown : Own c e) (hsilent : ∀ p dest, e ≠ .send_package .messages p dest) :
    Replies c s s' := by
  refine ⟨[e], hquiet, by simpa using hown, ?_⟩
  intro p dest hmem
  exact absurd (List.mem_singleton.mp hmem).symm (hsilent p dest)

theorem Replies.print (c : Context) (s : Node) (line : List Out) :
    Replies c s (s.emit (.print line)) :=
  .one (.emit s rfl rfl fun _ => rfl) (.print line) (by simp)

theorem Replies.promote_uid_table {c : Context} {s s' : Node} {uidt : Option Entry}
    (h : s.promote_uid_table uidt = .ok s') : Replies c s s' :=
  ⟨[], .promote_uid_table h, by simp, .nil⟩

/-- A package built in `messages_buffer` and sent from there. -/
theorem Replies.letter {c : Context} {s s₁ s' : Node} {flags : UInt8} {type : PackageType}
    {p : Package} {dest : Uid} (hwrite : Quiet (s.make_package_head .messages flags type) s₁ [])
    (hsend : Quiet s₁ s' [.send_package .messages p dest]) (hrid : p.rid = s.nextRid)
    (hmail : Mail c p dest) : Replies c s s' := by
  have hquiet := ((Quiet.make_package_head s flags type).trans hwrite).trans hsend
  refine ⟨_, hquiet, ?_, ?_⟩
  · intro e he
    simp only [List.append_nil, List.cons_append, List.nil_append, List.mem_cons,
      List.not_mem_nil, or_false] at he
    obtain rfl | rfl := he
    · exact .head _ (by simp)
    · exact .mail hmail
  · intro q d hmem
    simp only [List.append_nil, List.cons_append, List.nil_append, List.mem_cons, reduceCtorEq,
      List.not_mem_nil, or_false, false_or, Event.send_package.injEq, true_and] at hmem ⊢
    rw [hmem.1, hrid]

/-! ## The packages of `messages.c` -/

theorem package_bare (s : Node) (flags : UInt8) (type : PackageType) :
    ((s.make_package_head .messages flags type).packageBuffer .messages).package sizeof_package =
      { rid := s.nextRid, flags := flags ||| type.code, data := [] } := by
  simp [PackageBuffer.package, load]

theorem package_plain (s : Node) (type : PackageType) (bytes : List UInt8) (more : List UInt8) :
    (((s.make_package_head .messages 0 type).writeData .messages 0 (bytes ++ more)).packageBuffer
      .messages).package (sizeof_package + bytes.length) =
      { rid := s.nextRid, flags := 0 ||| type.code, data := bytes } := by
  have hidentified : hasFlag 0 PACKAGE_IDENTIFIED = false := by decide
  have hbytes : load (store (s.packageBuffer .messages).data 0 (bytes ++ more)) 0 bytes.length =
      bytes := by
    have hall := load_store (s.packageBuffer .messages).data 0 (bytes ++ more)
    rw [List.length_append, load_append] at hall
    exact List.append_inj_left hall (load_length _ _ _)
  simp [PackageBuffer.package, writeData, hidentified, hbytes]

theorem package_identified (s : Node) (type : PackageType) (bytes : List UInt8) :
    (((s.make_package_head .messages PACKAGE_IDENTIFIED type).writeData .messages
      sizeof_identified_head bytes).packageBuffer .messages).package
        (sizeof_package + sizeof_identified_head + bytes.length) =
      { rid := s.nextRid
        flags := PACKAGE_IDENTIFIED ||| type.code
        data := s.my_uid.toList ++ bytes } := by
  have hidentified : hasFlag PACKAGE_IDENTIFIED PACKAGE_IDENTIFIED = true := by decide
  have hsize : sizeof_package + sizeof_identified_head + bytes.length - sizeof_package =
      s.my_uid.toList.length + bytes.length := by
    rw [List.Vector.toList_length, Nat.add_assoc, Nat.add_sub_cancel_left]
  have hbytes := load_store_store (s.packageBuffer .messages).data s.my_uid.toList bytes
  rw [List.Vector.toList_length] at hbytes hsize
  simp [PackageBuffer.package, writeData, hidentified, hsize, hbytes]

theorem Replies.send_echo_to {c : Context} {dest : Uid} (hanswers : c.answers dest) (s : Node) :
    Replies c s (s.send_echo_to dest) := by
  have hsend := Quiet.send_package (s.make_package_head .messages 0 .ECHO)
    (b := .messages) (by simp) sizeof_package dest
  rw [package_bare] at hsend
  exact .letter (.refl _) hsend rfl (.echo hanswers)

theorem Replies.send_reecho_to {c : Context} {dest : Uid} (hanswers : c.answers dest) (s : Node) :
    Replies c s (s.send_reecho_to dest) := by
  have hsend := Quiet.send_package (s.make_package_head .messages 0 .REECHO)
    (b := .messages) (by simp) sizeof_package dest
  rw [package_bare] at hsend
  exact .letter (.refl _) hsend rfl (.reecho hanswers)

theorem Replies.send_neighboor_request_to (c : Context) (s : Node) (dest : Uid) :
    Replies c s (s.send_neighboor_request_to dest) := by
  have hsend := Quiet.send_package (s.make_package_head .messages 0 .NEIGHBOR_REQUEST)
    (b := .messages) (by simp) sizeof_package dest
  rw [package_bare] at hsend
  exact .letter (.refl _) hsend rfl (.neighbor_request dest)

theorem Replies.send_neighboor_request_to_all (c : Context) (s : Node) :
    Replies c s s.send_neighboor_request_to_all :=
  .send_neighboor_request_to c s broadcast_uid

theorem Replies.send_uid_request {c : Context} {s : Node} (hfits : c.Fits s) (uid : Uid) :
    Replies c s (s.send_uid_request uid) := by
  have hpackage := package_identified s .UID_REQUEST uid.toList
  rw [List.Vector.toList_length] at hpackage
  have hsend := Quiet.send_package
    ((s.make_package_head .messages PACKAGE_IDENTIFIED .UID_REQUEST).writeData .messages
      sizeof_identified_head uid.toList) (b := .messages) (by simp)
    (sizeof_package + sizeof_identified_head + UID_SIZE) broadcast_uid
  rw [hpackage, hfits.uid_eq] at hsend
  exact .letter (.writeData _ _ _) hsend rfl (.uid_request uid)

theorem Replies.send_name_request {c : Context} {s : Node} (hfits : c.Fits s)
    (name : List UInt8) : Replies c s (s.send_name_request name) := by
  have hpackage := package_identified s .NAME_REQUEST (strncpy name NAME_SIZE)
  rw [strncpy_length] at hpackage
  have hsend := Quiet.send_package
    ((s.make_package_head .messages PACKAGE_IDENTIFIED .NAME_REQUEST).writeData .messages
      sizeof_identified_head (strncpy name NAME_SIZE)) (b := .messages) (by simp)
    (sizeof_package + sizeof_identified_head + NAME_SIZE) broadcast_uid
  rw [hpackage, hfits.uid_eq] at hsend
  exact .letter (.writeData _ _ _) hsend rfl (.name_request _ (strncpy_length _ _))

theorem Replies.discovery_neighborhood {c : Context} {s : Node} (hfits : c.Fits s)
    (depth : UInt8) : Replies c s (s.discovery_neighborhood depth) := by
  have hpackage := package_identified s .NEIGHBOR_REQUEST [depth]
  have hsend := Quiet.send_package
    ((s.make_package_head .messages PACKAGE_IDENTIFIED .NEIGHBOR_REQUEST).writeData .messages
      sizeof_identified_head [depth]) (b := .messages) (by simp)
    (sizeof_package + sizeof_identified_head + 1) broadcast_uid
  rw [show (1 : Nat) = [depth].length from rfl, hpackage, hfits.uid_eq] at hsend
  exact .letter (.writeData _ _ _) hsend rfl (.discovery depth)

theorem Replies.send_broadcast_msg {c : Context} {s s' : Node} {msg : List UInt8}
    (h : s.send_broadcast_msg msg = .ok s') : Replies c s s' := by
  unfold Node.send_broadcast_msg at h
  dsimp only at h
  split at h
  · cases h
  · obtain rfl := Except.ok.inj h
    have hsend := Quiet.send_package
      ((s.make_package_head .messages 0 .BROADCAST_MSG).writeData .messages 0
        (cstring msg ++ [0])) (b := .messages) (by simp)
      (sizeof_package + (cstring msg).length) broadcast_uid
    rw [package_plain] at hsend
    exact .letter (.writeData _ _ _) hsend rfl (.broadcast_msg (cstring msg))

/-- The package of an acknowledgement or an announcement, sent by the table. -/
theorem Quiet.mailed_by_table {s s' : Node} {size size' : Nat} {uidt : Option Entry}
    {package : Package} (h : s.send_package_by_table .messages size uidt = .ok (s', size'))
    (hpackage : (s.packageBuffer .messages).package size = package)
    (hdirect : package.intermediate = false) (hmin : sizeof_package ≤ size)
    (hbound : size + sizeof_intermediate_head < 2 ^ 16) :
    ∃ p l, Quiet s s' [.send_package .messages p (s.transmission.neighbor l)] ∧
      p.content = package ∧ p.rid = package.rid := by
  have hflag : hasFlag s.messages_buffer.flags PACKAGE_INTERMEDIATE = false := by
    rw [← hpackage] at hdirect
    exact hdirect
  obtain ⟨p, l, hquiet, hcontent⟩ := Quiet.send_package_by_table h
    ⟨hmin, fun hset => absurd hset (by simp [hflag])⟩ hbound
  have hpackage' : s.messages_buffer.package size = package := hpackage
  rw [hpackage', Package.content_of_direct hdirect] at hcontent
  refine ⟨p, l, hquiet, hcontent, ?_⟩
  rw [← hcontent, Package.content_rid]

theorem Replies.send_ack {c : Context} {s s' : Node} {pkg : PackageBuffer} (hfits : c.Fits s)
    (hacks : c.acks pkg.rid) (h : s.send_ack pkg = .ok s') : Replies c s s' := by
  unfold Node.send_ack at h
  have hsize : sizeof_package + RID_SIZE = sizeof_package + (ridBytes pkg.rid).length := rfl
  split at h
  · split at h
    · rename_i uidt _
      obtain ⟨⟨s₁, size'⟩, hsend, hdone⟩ := bind_eq_ok_iff.mp h
      obtain rfl := Except.ok.inj hdone
      have hpackage := package_plain s .ACK (ridBytes pkg.rid) []
      rw [List.append_nil, ← hsize] at hpackage
      obtain ⟨p, l, hquiet, hcontent, hrid⟩ := Quiet.mailed_by_table hsend hpackage
        (by simp only [Package.intermediate]; decide) (by decide) (by decide)
      refine .letter (.writeData _ _ _) hquiet hrid ?_
      have hneighbor : ((s.make_package_head .messages 0 .ACK).writeData .messages 0
          (ridBytes pkg.rid)).transmission.neighbor l = c.neighbor l := by
        simp [Node.writeData, hfits.neighbor_eq]
      rw [hneighbor]
      refine .ack l hacks ?_
      rw [hcontent, hrid]
      simp
    · obtain rfl := Except.ok.inj h
      exact .refl c s
  · obtain rfl := Except.ok.inj h
    have hpackage := package_plain s .BROADCAST_ACK (ridBytes pkg.rid) []
    rw [List.append_nil, ← hsize] at hpackage
    have hsend := Quiet.send_package
      ((s.make_package_head .messages 0 .BROADCAST_ACK).writeData .messages 0 (ridBytes pkg.rid))
      (b := .messages) (by simp) (sizeof_package + RID_SIZE) broadcast_uid
    rw [hpackage] at hsend
    refine .letter (.writeData _ _ _) hsend rfl ?_
    simpa using Mail.broadcast_ack (r := s.nextRid) hacks

theorem Replies.announce_me_to {c : Context} {s s' : Node} {uid : Uid} (hfits : c.Fits s)
    (h : s.announce_me_to uid = .ok s') : Replies c s s' := by
  unfold Node.announce_me_to at h
  split at h
  · obtain rfl := Except.ok.inj h
    exact .refl c s
  · obtain ⟨⟨s₁, size'⟩, hsend, hdone⟩ := bind_eq_ok_iff.mp h
    obtain rfl := Except.ok.inj hdone
    rw [make_package_head_me] at hsend
    have hpackage := package_identified s .ANNOUNCEMENT (strncpy s.me.name.toList NAME_SIZE)
    rw [strncpy_length] at hpackage
    obtain ⟨p, l, hquiet, hcontent, hrid⟩ := Quiet.mailed_by_table hsend hpackage
      (by simp only [Package.intermediate]; decide) (by decide) (by decide)
    refine .letter (.writeData _ _ _) hquiet hrid ?_
    have hneighbor : ((s.make_package_head .messages PACKAGE_IDENTIFIED .ANNOUNCEMENT).writeData
        .messages sizeof_identified_head (strncpy s.me.name.toList NAME_SIZE)).transmission.neighbor
          l = c.neighbor l := by
      simp [Node.writeData, hfits.neighbor_eq]
    rw [hneighbor]
    refine .announcement l (strncpy s.me.name.toList NAME_SIZE) ?_
    rw [hcontent, hrid, hfits.uid_eq]

end Node

end concretid.ems
