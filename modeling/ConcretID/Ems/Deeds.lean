import ConcretID.Ems.Receive
import ConcretID.Ems.Sending

open concretid.memory

namespace concretid.ems

/-! ## What a package says -/

namespace Package

def type (p : Package) : PackageType := typeOf p.flags

/-- The type does not depend on the intermediate head. -/
@[simp] theorem content_type (p : Package) : p.content.type = p.type := by
  simp [type]

def identified (p : Package) : Bool := hasFlag p.flags PACKAGE_IDENTIFIED

/-- The source in an identified package's head. -/
def source (p : Package) : Option Uid := if p.identified then some p.head else none

/-- Where the body starts. -/
def offset (p : Package) : Nat := if p.identified then sizeof_identified_head else 0

def body (p : Package) : List UInt8 := p.data.drop p.offset

/-- Too short for the head its flags announce. -/
def short (p : Package) : Bool := p.identified && p.data.length < sizeof_identified_head

/-- The depth of a neighbour request that travels on. -/
def depth (p : Package) : UInt8 := p.data.getD p.offset 0

/-- The id an acknowledgement is for. -/
def acked (p : Package) : Rid := ridAt (fun i => p.data.getD i 0) p.offset

/-- What nodes turn away with a neighbour request when it comes from a node
that is no neighbour. -/
def refused (p : Package) : Bool :=
  match p.type with
  | .NAME_REQUEST | .UID_REQUEST | .ANNOUNCEMENT => true
  | .SEQUENCE | .FIRST | .MSG | .ACK | .NACK | .COMMAND | .BASE64 => hasFlag p.flags PACKAGE_ACKLY
  | .MSG_TO | .BROADCAST_MSG | .NEIGHBOR_REQUEST | .ECHO | .REECHO | .BROADCAST_ACK => false

/-- Whether packages of this type are passed on to everyone. -/
def floods (p : Package) : Bool :=
  match p.type with
  | .MSG_TO | .BROADCAST_MSG | .NAME_REQUEST | .UID_REQUEST | .NEIGHBOR_REQUEST | .BROADCAST_ACK =>
    true
  | _ => false

/-- The package as a node passes it on to everyone. -/
def forwarded (p : Package) : Package :=
  if p.type = .NEIGHBOR_REQUEST then { p with data := p.data.set p.offset (p.depth - 1) } else p

@[simp] theorem forwarded_rid (p : Package) : p.forwarded.rid = p.rid := by
  unfold forwarded
  split <;> rfl

@[simp] theorem forwarded_flags (p : Package) : p.forwarded.flags = p.flags := by
  unfold forwarded
  split <;> rfl

@[simp] theorem forwarded_length (p : Package) : p.forwarded.data.length = p.data.length := by
  unfold forwarded
  split
  · simp
  · rfl

/-- The routes a package's source is entered with. -/
def routes (p : Package) (link : Option Slot) : List Event :=
  (p.source.map fun uid => Event.register_uid uid link).toList

theorem offset_le {p : Package} (h : p.short = false) : p.offset ≤ p.data.length := by
  unfold short at h
  unfold offset
  split
  · rename_i hidentified
    simpa [hidentified] using h
  · exact Nat.zero_le _

theorem body_length {p : Package} : p.body.length = p.data.length - p.offset := by
  simp [body]

theorem forwarded_eq {p : Package} (htype : p.type ≠ .NEIGHBOR_REQUEST) :
    p.forwarded = p := by
  rw [forwarded, if_neg htype]

/-- The source of a package that is passed on stays the same. -/
theorem forwarded_source {p : Package} : p.forwarded.source = p.source := by
  unfold source identified
  rw [forwarded_flags]
  split
  · rename_i hidentified
    refine congrArg some (uidAt_congr fun i hi => ?_)
    have hne : p.offset ≠ i := by
      rw [offset, identified, if_pos hidentified]
      exact Nat.ne_of_gt hi
    unfold forwarded
    split
    · simp [List.getElem?_set_ne hne]
    · rfl
  · rfl

end Package

/-! ## What a node does because of a call -/

/-- Everything but what a node does on its own account. -/
def Event.deed : Event → Bool
  | .make_package_head _ _ => false
  | .send_package .process _ _ => true
  | .send_package _ _ _ => false
  | .print _ => false
  | _ => true

theorem Own.deed_eq {c : Context} {e : Event} (h : Own c e) : e.deed = false := by
  cases h <;> rfl

namespace Node

/-- The context of what a node sends in the course of a call. -/
def context (s : Node) (answers : Uid → Prop) (acks : Rid → Prop) : Context :=
  { uid := s.my_uid
    neighbor := s.transmission.neighbor
    answers
    acks }

theorem context_fits (s : Node) (answers : Uid → Prop) (acks : Rid → Prop) :
    (s.context answers acks).Fits s := ⟨rfl, rfl⟩

/-- What a node may do of its own with fewer packages to acknowledge it may do
with more. -/
theorem own_context_mono {s : Node} {answers : Uid → Prop} {acks acks' : Rid → Prop} {e : Event}
    (h : Own (s.context answers acks) e) (hacks : ∀ r, acks r → acks' r) :
    Own (s.context answers acks') e := by
  cases h with
  | head rid hbuffer => exact .head rid hbuffer
  | slot i p l => exact .slot i p l
  | print line => exact .print line
  | mail hmail =>
    refine .mail ?_
    cases hmail with
    | ack l hrid hcontent => exact .ack l (hacks _ hrid) hcontent
    | broadcast_ack hrid => exact .broadcast_ack (hacks _ hrid)
    | announcement l name hcontent => exact .announcement l name hcontent
    | echo hanswers => exact .echo hanswers
    | reecho hanswers => exact .reecho hanswers
    | uid_request uid => exact .uid_request uid
    | name_request name hname => exact .name_request name hname
    | discovery depth => exact .discovery depth
    | neighbor_request => exact .neighbor_request _
    | broadcast_msg text => exact .broadcast_msg text

/-- A node goes from one state to another with these deeds, and otherwise does
things of its own. -/
def Handles (c : Context) (s s' : Node) (deeds : List Event) : Prop :=
  ∃ new, Acts s s' new ∧ (∀ e ∈ new, e.deed = false → Own c e) ∧ Headed new ∧
    new.filter Event.deed = deeds

theorem Handles.of_replies {c : Context} {s s' : Node} (h : Replies c s s') : Handles c s s' [] := by
  obtain ⟨new, hquiet, hown, hhead⟩ := h
  refine ⟨new, hquiet.acts, fun e he _ => hown e he, hhead, ?_⟩
  rw [List.filter_eq_nil_iff]
  exact fun e he => by simp [(hown e he).deed_eq]

theorem Handles.trans {c : Context} {s s' s'' : Node} {deeds later : List Event}
    (h : Handles c s s' deeds) (h' : Handles c s' s'' later) : Handles c s s'' (deeds ++ later) := by
  obtain ⟨new, hacts, hown, hhead, rfl⟩ := h
  obtain ⟨new', hacts', hown', hhead', rfl⟩ := h'
  refine ⟨new ++ new', hacts.trans hacts', ?_, hhead.append hhead', List.filter_append _ _⟩
  intro e he
  obtain hold | hnew := List.mem_append.mp he
  · exact hown e hold
  · exact hown' e hnew

theorem Handles.then_replies {c : Context} {s s' s'' : Node} {deeds : List Event}
    (h : Handles c s s' deeds) (h' : Replies c s' s'') : Handles c s s'' deeds := by
  simpa using h.trans (.of_replies h')

theorem Handles.after_replies {c : Context} {s s' s'' : Node} {deeds : List Event}
    (h : Replies c s s') (h' : Handles c s' s'' deeds) : Handles c s s'' deeds := by
  simpa using (Handles.of_replies h).trans h'

theorem Handles.context_mono {s₀ s s' : Node} {answers : Uid → Prop} {acks acks' : Rid → Prop}
    {deeds : List Event} (h : Handles (s₀.context answers acks) s s' deeds)
    (hacks : ∀ r, acks r → acks' r) : Handles (s₀.context answers acks') s s' deeds := by
  obtain ⟨new, hacts, hown, hrest⟩ := h
  exact ⟨new, hacts, fun e he hdeed => own_context_mono (hown e he hdeed) hacks, hrest⟩

/-- An action that shows nowhere. -/
theorem Handles.silent {c : Context} {s s' : Node} (h : Acts s s' []) : Handles c s s' [] :=
  ⟨[], h, by simp, .nil, rfl⟩

/-- One deed. -/
theorem Handles.one {c : Context} {s s' : Node} {e : Event} (h : Acts s s' [e])
    (hdeed : e.deed = true) : Handles c s s' [e] := by
  refine ⟨[e], h, ?_, ?_, by simp [hdeed]⟩
  · intro e' he' hown
    rw [List.mem_singleton.mp he', hdeed] at hown
    cases hown
  · intro p dest hmem
    rw [← List.mem_singleton.mp hmem] at hdeed
    cases hdeed

/-! ## The package in the receive buffer -/

/-- The receive buffer holds a package. -/
def Holds (s : Node) (p : Package) : Prop := s.buffer.package p.size = p

theorem Holds.of_buffer {s s' : Node} {p : Package} (h : s.Holds p) (hbuffer : s'.buffer = s.buffer) :
    s'.Holds p := by
  rw [Holds, hbuffer]
  exact h

theorem Holds.rid_eq {s : Node} {p : Package} (h : s.Holds p) : s.buffer.rid = p.rid :=
  congrArg Package.rid h

theorem Holds.flags_eq {s : Node} {p : Package} (h : s.Holds p) : s.buffer.flags = p.flags :=
  congrArg Package.flags h

theorem Holds.data_eq {s : Node} {p : Package} (h : s.Holds p) :
    load s.buffer.data 0 p.data.length = p.data := by
  have hdata := congrArg Package.data h
  rw [PackageBuffer.package_data] at hdata
  simpa [Package.size] using hdata

theorem Holds.byte_eq {s : Node} {p : Package} (h : s.Holds p) {i : Nat} (hi : i < p.data.length) :
    s.buffer.data i = p.data.getD i 0 := by
  have hbyte : (load s.buffer.data 0 p.data.length)[i]? = p.data[i]? := by rw [h.data_eq]
  rw [load_getElem?, if_pos hi, Nat.zero_add] at hbyte
  rw [List.getD_eq_getElem?_getD, ← hbyte]
  rfl

theorem Holds.type_eq {s : Node} {p : Package} (h : s.Holds p) : s.type = p.type := by
  rw [Node.type, h.flags_eq, Package.type]

theorem Holds.flag_eq {s : Node} {p : Package} (h : s.Holds p) (f : UInt8) :
    s.flag f = hasFlag p.flags f := by
  rw [Node.flag, h.flags_eq]

theorem Holds.offset_eq {s : Node} {p : Package} (h : s.Holds p) : s.dataOffset = p.offset := by
  rw [Node.dataOffset, h.flag_eq]
  rfl

theorem Holds.ident_eq {s : Node} {p : Package} (h : s.Holds p) (hshort : p.short = false) :
    s.ident = p.source := by
  have hle := Package.offset_le hshort
  unfold Node.ident Package.source
  rw [h.flag_eq, ← Package.identified]
  cases hidentified : p.identified with
  | false => rfl
  | true =>
    rw [if_pos rfl, if_pos rfl, Package.head]
    refine congrArg some (uidAt_congr ?_)
    intro i hi
    rw [Package.offset, if_pos hidentified] at hle
    rw [Nat.zero_add]
    exact h.byte_eq (Nat.lt_of_lt_of_le hi hle)

/-- The bytes after the heads are the package's body. -/
theorem Holds.body_eq {s : Node} {p : Package} (h : s.Holds p) :
    load s.buffer.data p.offset (p.data.length - p.offset) = p.body := by
  have hdrop := load_drop s.buffer.data 0 p.offset p.data.length
  rw [Nat.zero_add] at hdrop
  rw [← hdrop, h.data_eq]
  rfl

/-- Writing behind the package does not change it. -/
theorem Holds.writeData {s : Node} {p : Package} (h : s.Holds p) {offset : Nat}
    (hoffset : p.data.length ≤ offset) (bytes : List UInt8) :
    (s.writeData .process offset bytes).Holds p := by
  have hsize : p.size - sizeof_package = p.data.length := by simp [Package.size]
  have hload : load (store s.buffer.data offset bytes) 0 p.data.length = p.data := by
    rw [load_store_of_disjoint _ _ (.inl (by omega)), h.data_eq]
  unfold Holds
  simp only [Node.writeData, packageBuffer, setPackageBuffer, PackageBuffer.package, hsize, hload,
    h.rid_eq, h.flags_eq]

theorem Acts.writeData_process (s : Node) (offset : Nat) (bytes : List UInt8) :
    Acts s (s.writeData .process offset bytes) [] := by
  refine ⟨?_, rfl, rfl, rfl, .refl, fun i => .refl⟩
  simp [Node.writeData]

/-- `data[len] = 0` behind the package leaves it as it is. -/
theorem terminate_cases {s s' : Node} {p : Package} (h : s.Holds p) (hshort : p.short = false)
    (hcall : s.terminate (p.data.length - p.offset) = .ok s') :
    Acts s s' [] ∧ s'.Holds p ∧ s'.transmission = s.transmission ∧ s'.me = s.me := by
  have hle := Package.offset_le hshort
  unfold Node.terminate at hcall
  split at hcall
  · obtain rfl := Except.ok.inj hcall
    refine ⟨.writeData_process _ _ _, h.writeData ?_ _, rfl, rfl⟩
    rw [h.offset_eq]
    omega
  · cases hcall

end Node

/-! ## The deeds of a package -/

/-- What handling a package that is new and meant for this node comes to, for
each type: `src` is its sender and `link` the sender's slot, if it has one. -/
def Deeds (p : Package) (src : Uid) (link : Option Slot) (deeds : List Event) : Prop :=
  let flood : Event := .send_package .process p.forwarded broadcast_uid
  match p.type with
  | .SEQUENCE | .NACK | .BASE64 | .FIRST => deeds = []
  | .MSG => deeds = [.message "new msg" p.source (cstring p.body)]
  | .MSG_TO => deeds = [] ∨ (∃ text, deeds = [.message "new msg" p.source text]) ∨ deeds = [flood]
  | .BROADCAST_MSG => deeds = [.message "broadcast msg" p.source (cstring p.body), flood]
  | .NAME_REQUEST =>
    if p.body.length = 0 then deeds = [] else deeds = p.routes link ∨ deeds = p.routes link ++ [flood]
  | .UID_REQUEST =>
    if p.body.length ≠ UID_SIZE then deeds = [] else deeds = p.routes link ∨ deeds = p.routes link ++ [flood]
  | .NEIGHBOR_REQUEST =>
    if p.body.length = 1 ∧ link.isSome then
      deeds = (if p.depth ≠ 0 then [flood] else []) ++ p.routes link
    else deeds = []
  | .ECHO | .REECHO => deeds = [.register_neighbor src]
  | .ANNOUNCEMENT => deeds = p.routes link
  | .ACK => deeds = [] ∨ ∃ i, p.body.length = RID_SIZE ∧ deeds = [.acknowledge i p.acked]
  | .BROADCAST_ACK =>
    deeds = [] ∨ (∃ i, p.body.length = RID_SIZE ∧ deeds = [.acknowledge i p.acked]) ∨
      deeds = [flood]
  | .COMMAND => deeds = [.execute_cmd (cstring p.body)]

/-- One deed of a package, with the types that have it. -/
inductive Deed (p : Package) (src : Uid) (link : Option Slot) : Event → Prop where
  | message (title : String) (text : List UInt8)
      (htype : p.type = .MSG ∨ p.type = .MSG_TO ∨ p.type = .BROADCAST_MSG) :
      Deed p src link (.message title p.source text)
  | execute_cmd (cmd : List UInt8) (htype : p.type = .COMMAND) : Deed p src link (.execute_cmd cmd)
  | register_uid {source : Uid} (hsource : p.source = some source) :
      Deed p src link (.register_uid source link)
  | register_neighbor (htype : p.type = .ECHO ∨ p.type = .REECHO) :
      Deed p src link (.register_neighbor src)
  | acknowledge (i : Fin SENDOUT_QTY) (htype : p.type = .ACK ∨ p.type = .BROADCAST_ACK)
      (hlength : p.body.length = RID_SIZE) : Deed p src link (.acknowledge i p.acked)
  | flood (hfloods : p.floods = true)
      (hdepth : p.type = .NEIGHBOR_REQUEST → p.body.length = 1 ∧ p.depth ≠ 0) :
      Deed p src link (.send_package .process p.forwarded broadcast_uid)

/-- The routes entered for a package are for its source. -/
theorem Deed.of_routes {p : Package} {src : Uid} {link : Option Slot} {e : Event}
    (he : e ∈ p.routes link) : Deed p src link e := by
  unfold Package.routes at he
  cases hsource : p.source with
  | none => simp [hsource] at he
  | some source =>
    obtain rfl : e = .register_uid source link := by simpa [hsource] using he
    exact .register_uid hsource

theorem Deeds.mem {p : Package} {src : Uid} {link : Option Slot} {deeds : List Event} {e : Event}
    (h : Deeds p src link deeds) (he : e ∈ deeds) : Deed p src link e := by
  unfold Deeds at h
  have hflood : p.floods = true → p.type ≠ .NEIGHBOR_REQUEST →
      Deed p src link (.send_package .process p.forwarded broadcast_uid) :=
    fun hfloods hother => .flood hfloods fun htype => absurd htype hother
  have hrequest : ∀ {deeds}, (deeds = p.routes link ∨
        deeds = p.routes link ++
          [.send_package .process p.forwarded broadcast_uid]) →
      p.floods = true → p.type ≠ .NEIGHBOR_REQUEST → e ∈ deeds → Deed p src link e := by
    rintro deeds (rfl | rfl) hfloods hother hmem
    · exact .of_routes hmem
    · obtain hroute | hsend := List.mem_append.mp hmem
      · exact .of_routes hroute
      · rw [List.mem_singleton.mp hsend]
        exact hflood hfloods hother
  cases htype : p.type <;> simp only [htype] at h
  case SEQUENCE | NACK | BASE64 | FIRST => simp [h] at he
  case MSG =>
    rw [h, List.mem_singleton] at he
    rw [he]
    exact .message _ _ (.inl htype)
  case MSG_TO =>
    obtain rfl | ⟨text, rfl⟩ | rfl := h
    · simp at he
    · rw [List.mem_singleton.mp he]
      exact .message _ _ (.inr (.inl htype))
    · rw [List.mem_singleton.mp he]
      exact hflood (by simp [Package.floods, htype]) (by simp [htype])
  case BROADCAST_MSG =>
    subst h
    obtain rfl | hsend := List.mem_cons.mp he
    · exact .message _ _ (.inr (.inr htype))
    · rw [List.mem_singleton.mp hsend]
      exact hflood (by simp [Package.floods, htype]) (by simp [htype])
  case NAME_REQUEST =>
    split at h
    · simp [h] at he
    · exact hrequest h (by simp [Package.floods, htype]) (by simp [htype]) he
  case UID_REQUEST =>
    split at h
    · simp [h] at he
    · exact hrequest h (by simp [Package.floods, htype]) (by simp [htype]) he
  case NEIGHBOR_REQUEST =>
    split at h
    · rename_i hboth
      subst h
      obtain hsend | hroute := List.mem_append.mp he
      · split at hsend
        · rename_i hdepth
          rw [List.mem_singleton.mp hsend]
          exact .flood (by simp [Package.floods, htype]) fun _ => ⟨hboth.1, hdepth⟩
        · simp at hsend
      · exact .of_routes hroute
    · simp [h] at he
  case ECHO =>
    rw [h, List.mem_singleton] at he
    rw [he]
    exact .register_neighbor (.inl htype)
  case REECHO =>
    rw [h, List.mem_singleton] at he
    rw [he]
    exact .register_neighbor (.inr htype)
  case ANNOUNCEMENT =>
    rw [h] at he
    exact .of_routes he
  case ACK =>
    obtain rfl | ⟨i, hlength, rfl⟩ := h
    · simp at he
    · rw [List.mem_singleton.mp he]
      exact .acknowledge i (.inl htype) hlength
  case BROADCAST_ACK =>
    obtain rfl | ⟨i, hlength, rfl⟩ | rfl := h
    · simp at he
    · rw [List.mem_singleton.mp he]
      exact .acknowledge i (.inr htype) hlength
    · rw [List.mem_singleton.mp he]
      exact hflood (by simp [Package.floods, htype]) (by simp [htype])
  case COMMAND =>
    rw [h, List.mem_singleton] at he
    rw [he]
    exact .execute_cmd _ htype

/-- Whether a call passes on what the receive buffer holds. -/
def Event.relays : Event → Bool
  | .send_package .process _ _ => true
  | _ => false

/-- A package is passed on at most once. -/
theorem Deeds.relays_le {p : Package} {src : Uid} {link : Option Slot} {deeds : List Event}
    (h : Deeds p src link deeds) : deeds.countP Event.relays ≤ 1 := by
  have hroutes : (p.routes link).countP Event.relays = 0 := by
    unfold Package.routes
    cases p.source <;> rfl
  have hrequest : ∀ {deeds}, (deeds = p.routes link ∨
        deeds = p.routes link ++
          [.send_package .process p.forwarded broadcast_uid]) →
      deeds.countP Event.relays ≤ 1 := by
    rintro deeds (rfl | rfl)
    · rw [hroutes]
      exact Nat.zero_le 1
    · rw [List.countP_append, hroutes]
      exact Nat.le_refl 1
  unfold Deeds at h
  cases htype : p.type <;> simp only [htype] at h
  case SEQUENCE | NACK | BASE64 | FIRST => simp [h]
  case MSG | ECHO | REECHO | COMMAND => simp [h, Event.relays]
  case MSG_TO => obtain rfl | ⟨text, rfl⟩ | rfl := h <;> simp [Event.relays]
  case BROADCAST_MSG => simp [h, Event.relays]
  case NAME_REQUEST | UID_REQUEST =>
    split at h
    · simp [h]
    · exact hrequest h
  case NEIGHBOR_REQUEST =>
    split at h
    · rw [h, List.countP_append, hroutes]
      split <;> simp [Event.relays]
    · simp [h]
  case ANNOUNCEMENT =>
    rw [h, hroutes]
    exact Nat.zero_le 1
  case ACK => obtain rfl | ⟨i, _, rfl⟩ := h <;> simp [Event.relays]
  case BROADCAST_ACK => obtain rfl | ⟨i, _, rfl⟩ | rfl := h <;> simp [Event.relays]

end concretid.ems
