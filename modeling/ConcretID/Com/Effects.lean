import ConcretID.Com.Handler

open concretid.memory
open concretid.ems (Uid cstring strncpy strncpy_length)

namespace concretid.com

/-- The id at the front of a package. -/
def ridOf (package : List UInt8) : Rid := ridAt (fun i => package.getD i 0) 0

/-- The types of packages that are shared with everyone in reach. -/
def PackageType.flooded : PackageType → Bool
  | NAME_REQUEST_M | IP_REQUEST_M | ANNOUNCEMENT_M | NEIGHBOR_REQUEST_M => true
  | _ => false

def Event.registered? : Event → Option Rid
  | .registerRid rid => some rid
  | _ => none

/-- Whether a call makes a package to be shared, or shares one made here. -/
def Event.makes : Event → Bool
  | .initPackage t _ => t.flooded
  | .SharePackage .buf _ => true
  | _ => false

/-- Whether a call answers or passes on what has been received. -/
def Event.responds : Event → Bool
  | .announceMe | .sendAck _ => true
  | .SharePackage r _ => r ≠ .buf
  | _ => false

/-- Calls among which every package made to be shared is shared right away. -/
inductive Shared : List Event → Prop where
  | nil : Shared []
  | made {t : PackageType} {rid : Rid} {package : List UInt8} {rest : List Event}
      (hflooded : t.flooded = true) (hrid : ridOf package = rid) (hrest : Shared rest) :
      Shared (.initPackage t rid :: .registerRid rid :: .SharePackage .buf package :: rest)
  | other {e : Event} {rest : List Event} (hother : e.makes = false) (hrest : Shared rest) :
      Shared (e :: rest)

theorem Shared.append {a b : List Event} (ha : Shared a) (hb : Shared b) : Shared (a ++ b) := by
  induction ha with
  | nil => exact hb
  | made hflooded hrid _ ih => exact .made hflooded hrid ih
  | other hother _ ih => exact .other hother ih

/-- What a node's calls do to what it keeps for good: the calls are recorded,
and the ids registered among them enter the table. -/
structure Node.Acts (s s' : Node) (new : List Event) : Prop where
  trace_eq : s'.trace = s.trace ++ new
  myIp_eq : s'.myIp = s.myIp
  rids_eq : s'.rids = (new.filterMap Event.registered?).foldl RidTable.registerRid s.rids
  shared : Shared new

namespace Node

theorem Acts.refl (s : Node) : Acts s s [] :=
  ⟨(List.append_nil _).symm, rfl, rfl, .nil⟩

theorem Acts.trans {s s' s'' : Node} {a b : List Event} (h : Acts s s' a) (h' : Acts s' s'' b) :
    Acts s s'' (a ++ b) := by
  refine ⟨?_, h'.myIp_eq.trans h.myIp_eq, ?_, h.shared.append h'.shared⟩
  · rw [h'.trace_eq, h.trace_eq, List.append_assoc]
  · rw [h'.rids_eq, h.rids_eq, List.filterMap_append, List.foldl_append]

/-- A step that only touches memory, slots or the address table. -/
theorem Acts.of_eq {s s' : Node} (htrace : s'.trace = s.trace) (hmyIp : s'.myIp = s.myIp)
    (hrids : s'.rids = s.rids) : Acts s s' [] :=
  ⟨by rw [htrace, List.append_nil], hmyIp, hrids, .nil⟩

theorem Acts.emit (s : Node) {e : Event} (hmakes : e.makes = false)
    (hregistered : e.registered? = none) : Acts s (s.emit e) [e] := by
  refine ⟨rfl, rfl, ?_, .other hmakes .nil⟩
  simp [hregistered, Node.emit]

theorem acts_write (s : Node) (r : Region) (offset : Nat) (bytes : List UInt8) :
    Acts s (s.write r offset bytes) [] := by
  cases r <;> exact .of_eq rfl rfl rfl

theorem acts_setMemory (s : Node) (r : Region) (d : Nat → UInt8) :
    Acts s (s.setMemory r d) [] := by
  cases r <;> exact .of_eq rfl rfl rfl

theorem acts_SendPackage (s : Node) (data : Region) (len : Nat) (ip : Uid) :
    Acts s (s.SendPackage data len ip)
      [.registerRid (ridAt (s.memory data) 0), .SendPackage data (s.packet data len) ip] := by
  have hpacket : (s.registerRid (ridAt (s.memory data) 0)).packet data len = s.packet data len := by
    cases data <;> rfl
  refine ⟨?_, rfl, rfl, .other rfl (.other rfl .nil)⟩
  rw [← hpacket]
  simp [SendPackage, uip_udp_packet_send, emit, registerRid]

/-- Passing on the package that has been received. -/
theorem acts_pass (s : Node) (len : Nat) :
    Acts s (s.SharePackage .uip_appdata len)
      [.registerRid (ridAt s.uip_appdata 0), .SharePackage .uip_appdata (s.packet .uip_appdata len)] := by
  refine ⟨?_, rfl, rfl, .other rfl (.other rfl .nil)⟩
  simp [SharePackage, uip_udp_packet_send, emit, registerRid, memory, packet]

theorem acts_initPackage (s : Node) {t : PackageType} (ht : t.flooded = false) :
    Acts s (s.initPackage t) [.initPackage t s.nextRid] :=
  ⟨rfl, rfl, rfl, .other ht .nil⟩

/-! ## Packages made to be shared -/

/-- Make a package of a flooded type in `buf` and share it. -/
def share (s : Node) (t : PackageType) (body : List UInt8) : Node :=
  ((s.initPackage t).write .buf PACKAGE_HEAD body).SharePackage .buf (PACKAGE_HEAD + body.length)

/-- The package `share` makes. -/
def made (s : Node) (t : PackageType) (body : List UInt8) : List UInt8 :=
  s.nextRid.bytes ++ [t.code] ++ body

/-- The calls of `share`. -/
def sharing (s : Node) (t : PackageType) (body : List UInt8) : List Event :=
  [.initPackage t s.nextRid, .registerRid s.nextRid, .SharePackage .buf (s.made t body)]

theorem ridOf_bytes (rid : Rid) (rest : List UInt8) : ridOf (rid.bytes ++ rest) = rid := rfl

theorem ridAt_store_bytes (d : Nat → UInt8) (rid : Rid) (rest : List UInt8) :
    ridAt (store d 0 (rid.bytes ++ rest)) 0 = rid := by
  simp [ridAt, store, Rid.bytes]

theorem identified_of_flooded {t : PackageType} (ht : t.flooded = true) : identified t = false := by
  cases t <;> first | rfl | cases ht

/-- What `share` leaves in `buf` is what it sends. -/
theorem share_packet (s : Node) {t : PackageType} {body : List UInt8} (ht : t.flooded = true)
    (hbody : PACKAGE_HEAD + body.length ≤ UIP_BUFSIZE) :
    ((s.initPackage t).write .buf PACKAGE_HEAD body).packet .buf (PACKAGE_HEAD + body.length) =
      s.made t body ∧
    ridAt ((s.initPackage t).write .buf PACKAGE_HEAD body).buf 0 = s.nextRid := by
  have hbuf : ((s.initPackage t).write .buf PACKAGE_HEAD body).buf =
      store (store s.buf 0 (s.nextRid.bytes ++ [t.code])) PACKAGE_HEAD body := by
    simp [initPackage, write, setMemory, memory, emit, identified_of_flooded ht]
  refine ⟨?_, ?_⟩
  · rw [packet, memory, hbuf, Nat.min_eq_left hbody]
    exact load_store_store s.buf (s.nextRid.bytes ++ [t.code]) body
  · rw [hbuf]
    simp [ridAt, store, Rid.bytes]

theorem acts_share (s : Node) {t : PackageType} {body : List UInt8} (ht : t.flooded = true)
    (hbody : PACKAGE_HEAD + body.length ≤ UIP_BUFSIZE) :
    Acts s (s.share t body) (s.sharing t body) := by
  obtain ⟨hpacket, hrid⟩ := share_packet s ht hbody
  have htrace : (s.share t body).trace = ((s.initPackage t).write .buf PACKAGE_HEAD body).trace ++
      [.registerRid (ridAt ((s.initPackage t).write .buf PACKAGE_HEAD body).buf 0)] ++
      [.SharePackage .buf (((s.initPackage t).write .buf PACKAGE_HEAD body).packet .buf
        (PACKAGE_HEAD + body.length))] := rfl
  refine ⟨?_, rfl, ?_, .made ht (ridOf_bytes _ _) .nil⟩
  · rw [htrace, hrid, hpacket]
    simp [write, setMemory, initPackage, emit, sharing]
  · show RidTable.registerRid s.rids (ridAt ((s.initPackage t).write .buf PACKAGE_HEAD body).buf 0) = _
    rw [hrid]
    rfl

/-- A package that is shared overwrites the one that has been received. -/
theorem share_uip_appdata (s : Node) {t : PackageType} {body : List UInt8} (ht : t.flooded = true)
    (hbody : PACKAGE_HEAD + body.length ≤ UIP_BUFSIZE) :
    (s.share t body).uip_appdata = store s.uip_appdata 0 (s.made t body) := by
  rw [← (share_packet s ht hbody).1]
  rfl

theorem sendNameRequest_eq (s : Node) (name : List UInt8) :
    s.sendNameRequest name = s.share .NAME_REQUEST_M (strncpy name NAME_SIZE) := by
  rw [sendNameRequest, share, strncpy_length]

theorem sendIpRequest_eq (s : Node) (ip : Uid) :
    s.sendIpRequest ip = s.share .IP_REQUEST_M ip.toList := by
  rw [sendIpRequest, share, List.Vector.toList_length]

/-- The body of a node's announcement. -/
def announcement (s : Node) : List UInt8 := s.myIp.toList ++ strncpy s.myName.toList NAME_SIZE

@[simp] theorem announcement_length (s : Node) : s.announcement.length = UID_SIZE + NAME_SIZE := by
  rw [announcement, List.length_append, List.Vector.toList_length, strncpy_length]

theorem announceMe_eq (s : Node) :
    s.announceMe = (s.emit .announceMe).share .ANNOUNCEMENT_M s.announcement := by
  rw [share, announcement_length]
  rfl

theorem acts_announceMe (s : Node) :
    Acts s s.announceMe (.announceMe :: s.sharing .ANNOUNCEMENT_M s.announcement) := by
  rw [announceMe_eq]
  exact (Acts.emit s (e := .announceMe) rfl rfl).trans (acts_share _ rfl (by rw [announcement_length]; decide))

/-! ## What a node does of its own -/

/-- Calls without an answer to what has been received. -/
def Works (s s' : Node) : Prop := ∃ new, Acts s s' new ∧ ∀ e ∈ new, e.responds = false

theorem Works.refl (s : Node) : Works s s := ⟨[], .refl s, by simp⟩

theorem Works.trans {s s' s'' : Node} (h : Works s s') (h' : Works s' s'') : Works s s'' := by
  obtain ⟨a, ha, hown⟩ := h
  obtain ⟨b, hb, hown'⟩ := h'
  refine ⟨a ++ b, ha.trans hb, fun e he => ?_⟩
  obtain hmem | hmem := List.mem_append.mp he
  · exact hown e hmem
  · exact hown' e hmem

theorem Works.of_acts {s s' : Node} (h : Acts s s' []) : Works s s' := ⟨[], h, by simp⟩

theorem Works.emit (s : Node) {e : Event} (hmakes : e.makes = false)
    (hregistered : e.registered? = none) (hresponds : e.responds = false) : Works s (s.emit e) :=
  ⟨[e], .emit s hmakes hregistered, by simpa using hresponds⟩

theorem Works.uart0 (s : Node) (out : Out) : Works s (s.emit (.uart0 out)) :=
  .emit s rfl rfl rfl

theorem works_share (s : Node) {t : PackageType} {body : List UInt8} (ht : t.flooded = true)
    (hbody : PACKAGE_HEAD + body.length ≤ UIP_BUFSIZE) : Works s (s.share t body) :=
  ⟨_, acts_share s ht hbody, by simp [sharing, Event.responds]⟩

theorem works_initPackage (s : Node) {t : PackageType} (ht : t.flooded = false) :
    Works s (s.initPackage t) :=
  ⟨_, acts_initPackage s ht, by simp [Event.responds]⟩

theorem works_SendPackage (s : Node) (data : Region) (len : Nat) (ip : Uid) :
    Works s (s.SendPackage data len ip) :=
  ⟨_, acts_SendPackage s data len ip, by simp [Event.responds]⟩

theorem acts_setSlot (s : Node) (i : Fin SENDOUT_SIZE) (sb : SendBuf) : Acts s (s.setSlot i sb) [] :=
  .of_eq rfl rfl rfl

theorem acts_insertMeshHead (s : Node) (data : Region) (n : Nat) :
    Acts s (s.insertMeshHead data n) [] := by
  induction n generalizing s with
  | zero => exact .refl s
  | succ n ih =>
    have hrest := ih
      { s with
        buf := Function.update s.buf (RID_SIZE + n + MESH_HEAD_SIZE) (s.memory data (RID_SIZE + n)) }
    exact ⟨hrest.trace_eq, hrest.myIp_eq, hrest.rids_eq, hrest.shared⟩

theorem works_sendPackageByTable (s : Node) (data : Region) (len : Nat) (ipt : Fin IPTABLE_SIZE) :
    Works s (s.sendPackageByTable data len ipt) := by
  have hcall := Works.emit s (e := .sendPackageByTable data (ridAt (s.memory data) 0)) rfl rfl rfl
  rw [sendPackageByTable]
  apply hcall.trans
  dsimp only
  split
  · split
    · exact ((Works.of_acts (acts_insertMeshHead _ _ _)).trans (.of_acts (acts_write _ _ _ _))).trans
        (works_SendPackage _ _ _ _)
    · exact works_SendPackage _ _ _ _
  · split
    · exact (Works.of_acts (acts_setMemory _ _ _)).trans (works_SendPackage _ _ _ _)
    · exact works_SendPackage _ _ _ _

theorem works_sendNameRequest (s : Node) (name : List UInt8) : Works s (s.sendNameRequest name) := by
  rw [sendNameRequest_eq]
  exact works_share s rfl (by rw [strncpy_length]; decide)

theorem works_sendIpRequest (s : Node) (ip : Uid) : Works s (s.sendIpRequest ip) := by
  rw [sendIpRequest_eq]
  exact works_share s rfl (by rw [List.Vector.toList_length]; decide)

theorem acts_registerInner (s : Node) (len : Nat) : Acts s (s.registerInner len) [] := by
  rw [registerInner]
  split <;> exact .of_eq rfl rfl rfl

theorem works_forward (s : Node) (len : Nat) : Works s (s.forward len) := by
  have hcall := Works.emit s (e := .forward (ridAt s.uip_appdata 0)) rfl rfl rfl
  rw [forward]
  apply hcall.trans
  split
  · exact .refl _
  · apply (Works.of_acts (acts_registerInner _ len)).trans
    dsimp only
    split
    · exact works_sendPackageByTable _ _ _ _
    · exact .refl _

/-! ## Slots -/

theorem works_acknowledge (s : Node) (rid : Rid) : Works s (s.acknowledge rid) := by
  have hcall := Works.emit s (e := .acknowledge rid) rfl rfl rfl
  rw [acknowledge]
  apply hcall.trans
  split
  · exact .of_acts (acts_setSlot _ _ _)
  · exact .refl _

theorem works_solve (s : Node) (i : Fin SENDOUT_SIZE) : Works s (s.solve i) := by
  rw [solve]
  dsimp only
  split
  · split
    · exact (Works.of_acts (acts_setSlot _ _ _)).trans (works_sendPackageByTable _ _ _ _)
    · exact works_sendNameRequest _ _
  · exact .refl _

theorem works_transmit (s : Node) (i : Fin SENDOUT_SIZE) : Works s (s.transmit i) := by
  rw [transmit]
  dsimp only
  split
  · split
    · exact (Works.of_acts (acts_setSlot _ _ _)).trans (works_sendPackageByTable _ _ _ _)
    · exact works_sendIpRequest _ _
  · exact .refl _

theorem works_CheckSendOut1 (s : Node) (i : Fin SENDOUT_SIZE) : Works s (s.CheckSendOut1 i) :=
  (works_solve s i).trans (works_transmit _ i)

theorem works_checkSendOut (s : Node) (i : Fin SENDOUT_SIZE) : Works s (s.checkSendOut i) := by
  rw [checkSendOut]
  split
  · exact .refl _
  · exact (Works.of_acts (acts_setSlot _ _ _)).trans (works_CheckSendOut1 _ _)

theorem works_foldl {α : Type} {f : Node → α → Node} (hf : ∀ s a, Works s (f s a)) (l : List α)
    (s : Node) : Works s (l.foldl f s) := by
  apply List.foldlRecOn l f (motive := Works s) (.refl s)
  intro s' h a _
  exact h.trans (hf s' a)

theorem works_checkSendOutAll (s : Node) : Works s s.checkSendOutAll :=
  works_foldl works_checkSendOut _ s

theorem works_safeSendByName (s : Node) (data : Region) (len : Nat) (name : List UInt8) :
    Works s (s.safeSendByName data len name).1 := by
  rw [safeSendByName]
  split
  · exact (Works.of_acts (acts_setSlot _ _ _)).trans (works_CheckSendOut1 _ _)
  · exact .refl _

/-! ## Commands -/

theorem works_sendText (s : Node) (r : Region) (cmd : Nat) {t : PackageType}
    (ht : t.flooded = false) (room counted : Nat) : Works s (s.sendText r cmd t room counted) := by
  rw [sendText]
  dsimp only
  split
  · exact .refl _
  · have hended := Works.of_acts (acts_write s r (cmd + (wordAt (s.memory r) cmd).length) [0])
    refine hended.trans ((works_initPackage _ ht).trans ?_)
    split
    · exact (Works.of_acts (acts_write _ _ _ _)).trans (works_safeSendByName _ _ _ _)
    · exact (Works.of_acts (acts_write _ _ _ _)).trans (works_safeSendByName _ _ _ _)

/-- The body of the neighbour request a digit asks for. -/
def depthOf (digit : UInt8) : List UInt8 :=
  if 0x30 ≤ digit ∧ digit ≤ 0x39 then [digit - 0x30] else []

theorem discoverCmd_eq (s : Node) (digit : UInt8) :
    s.discoverCmd digit = s.share .NEIGHBOR_REQUEST_M (depthOf digit) := by
  have hnone : ∀ d : Nat → UInt8, store d PACKAGE_HEAD [] = d := fun d => by
    funext i
    simp [store]
  rw [discoverCmd, share, depthOf]
  split
  · rfl
  · simp [write, setMemory, hnone, memory]

theorem depthOf_le (digit : UInt8) : (depthOf digit).length ≤ 1 := by
  rw [depthOf]
  split <;> simp

theorem depthOf_length (digit : UInt8) : PACKAGE_HEAD + (depthOf digit).length ≤ UIP_BUFSIZE := by
  have hlength := depthOf_le digit
  simp only [PACKAGE_HEAD, RID_SIZE, UIP_BUFSIZE]
  omega

theorem works_discoverCmd (s : Node) (digit : UInt8) : Works s (s.discoverCmd digit) := by
  rw [discoverCmd_eq]
  exact works_share s rfl (depthOf_length digit)

theorem works_blockCmd (s : Node) (name : List UInt8) : Works s (s.blockCmd name) := by
  rw [blockCmd]
  split
  · rename_i ipt _
    have hblocked : Acts s { s with blocked := (s.table.iptable ipt).ipaddr } [] :=
      .of_eq rfl rfl rfl
    exact (Works.of_acts hblocked).trans (.uart0 _ _)
  · exact .uart0 _ _

theorem works_executeCmd (s : Node) (r : Region) (offset : Nat) :
    Works s (s.executeCmd r offset) := by
  have hcall := Works.emit s (e := .executeCmd (stringAt (s.memory r) offset)) rfl rfl rfl
  rw [executeCmd]
  apply hcall.trans
  split
  · exact .of_acts (.of_eq rfl rfl rfl)
  · exact (Works.uart0 _ _).trans (.uart0 _ _)
  · exact works_sendText _ _ _ rfl _ _
  · exact works_discoverCmd _ _
  · exact works_foldl (fun s i => .emit s rfl rfl rfl) _ _
  · exact works_blockCmd _ _
  · exact works_sendText _ _ _ rfl _ _
  · exact .refl _

theorem works_getc0 (s : Node) (x : UInt8) : Works s (s.getc0 x) := by
  rw [getc0]
  split
  · split
    · exact .of_acts (.of_eq rfl rfl rfl)
    · exact .refl _
  · split
    · apply (Works.of_acts (acts_write s .cmd s.cmdPt [0])).trans
      exact (works_executeCmd _ _ _).trans (.of_acts (.of_eq rfl rfl rfl))
    · split
      · exact .of_acts (.of_eq rfl rfl rfl)
      · exact .refl _

/-- The line printed for an identified package in memory. -/
def identifiedLine (d : Nat → UInt8) (len : Nat) : List Event :=
  [.uart0 (.text "New Package from "), .uart0 (.hex (load d PACKAGE_HEAD UID_SIZE)),
    .uart0 (.text ":"), .uart0 (.bytes (cstring (load d (PACKAGE_HEAD + UID_SIZE) len))),
    .uart0 .newline]

theorem acts_printIdentified (s : Node) (len : Nat) :
    Acts s (s.printIdentified len) (identifiedLine s.uip_appdata len) := by
  refine ⟨?_, ?_, ?_, ?_⟩
  · simp only [printIdentified, puts0, emit, identifiedLine, List.append_assoc, List.cons_append,
      List.nil_append]
  · simp only [printIdentified, puts0, emit]
  · simp only [identifiedLine, List.filterMap_cons, Event.registered?, List.filterMap_nil,
      List.foldl_nil, printIdentified, puts0, emit]
  · exact .other rfl (.other rfl (.other rfl (.other rfl (.other rfl .nil))))

end Node

end concretid.com
