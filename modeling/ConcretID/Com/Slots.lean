import ConcretID.Com.Mesh

open concretid.memory
open concretid.ems (Uid)

namespace concretid.com

/-- The slot a region is the data of. -/
def Region.slot? : Region → Option (Fin SENDOUT_SIZE)
  | .sendOut i => some i
  | _ => none

theorem Region.slot?_ne {r : Region} {i : Fin SENDOUT_SIZE} (hr : r ≠ .sendOut i) :
    r.slot? ≠ some i := by
  cases r with
  | sendOut j => simpa [Region.slot?] using hr
  | _ => simp [Region.slot?]

/-- The slot whose package a call sends. -/
def Event.slot? : Event → Option (Fin SENDOUT_SIZE)
  | .sendPackageByTable r _ | .SendPackage r _ _ => r.slot?
  | _ => none

namespace Node

/-- What `sendPackageByTable` comes down to: one `SendPackage`, of `buf` or of
the region itself, whose bytes move only if it is a mesh package. -/
theorem sendPackageByTable_inv (s : Node) (data : Region) (len : Nat) (ipt : Fin IPTABLE_SIZE) :
    ∃ (s' : Node) (r : Region) (len' : Nat) (link : Uid),
      s.sendPackageByTable data len ipt = s'.SendPackage r len' link ∧
      Acts s s' [.sendPackageByTable data (ridAt (s.memory data) 0)] ∧
      (r = .buf ∧ s'.sendOut = s.sendOut ∨ r = data ∧ len' = len ∧ s' = s.called data ∨
        r = data ∧ s.memory data RID_SIZE = PackageType.MESH_M.code ∧
          s' = (s.called data).setMemory data (shiftDown (s.memory data) PACKAGE_HEAD MESH_HEAD_SIZE
            (len - (PACKAGE_HEAD + MESH_HEAD_SIZE)))) := by
  have hcalled := acts_called s data
  rw [sendPackageByTable_eq]
  split
  · split
    · refine ⟨_, _, _, _, rfl, ?_, .inl ⟨rfl, ?_⟩⟩
      · exact hcalled.trans ((acts_insertMeshHead _ _ _).trans (acts_write _ _ _ _))
      · rw [insertMeshHead_eq]
        rfl
    · exact ⟨_, _, _, _, rfl, hcalled, .inr (.inl ⟨rfl, rfl, rfl⟩)⟩
  · split
    · rename_i hmesh
      exact ⟨_, _, _, _, rfl, hcalled.trans (acts_setMemory _ _ _), .inr (.inr ⟨rfl, hmesh, rfl⟩)⟩
    · exact ⟨_, _, _, _, rfl, hcalled, .inr (.inl ⟨rfl, rfl, rfl⟩)⟩

/-! ## The other slots -/

/-- Nothing happens to slot `i`, and nothing is sent from it. -/
structure Frames (i : Fin SENDOUT_SIZE) (s s' : Node) : Prop where
  slot : s'.sendOut i = s.sendOut i
  acts : ∃ new, Acts s s' new ∧ ∀ e ∈ new, e.slot? ≠ some i

theorem Frames.of_acts {i : Fin SENDOUT_SIZE} {s s' : Node} {new : List Event} (h : Acts s s' new)
    (hslot : s'.sendOut i = s.sendOut i) (hnew : ∀ e ∈ new, e.slot? ≠ some i) : Frames i s s' :=
  ⟨hslot, new, h, hnew⟩

theorem Frames.refl (i : Fin SENDOUT_SIZE) (s : Node) : Frames i s s :=
  .of_acts (.refl s) rfl (by simp)

theorem Frames.trans {i : Fin SENDOUT_SIZE} {s s' s'' : Node} (h : Frames i s s')
    (h' : Frames i s' s'') : Frames i s s'' := by
  obtain ⟨hslot, a, ha, hother⟩ := h
  obtain ⟨hslot', b, hb, hother'⟩ := h'
  refine .of_acts (ha.trans hb) (hslot'.trans hslot) fun e he => ?_
  exact (List.mem_append.mp he).elim (hother e) (hother' e)

/-- A step that touches neither the slots nor what is kept for good. -/
theorem Frames.of_eq {i : Fin SENDOUT_SIZE} {s s' : Node} (h : Acts s s' [])
    (hslot : s'.sendOut = s.sendOut) : Frames i s s' :=
  .of_acts h (congrFun hslot i) (by simp)

theorem Frames.emit {i : Fin SENDOUT_SIZE} (s : Node) {e : Event} (hmakes : e.makes = false)
    (hregistered : e.registered? = none) (hslot : e.slot? = none) : Frames i s (s.emit e) :=
  .of_acts (.emit s hmakes hregistered) rfl (by simp [hslot])

theorem setMemory_sendOut {i : Fin SENDOUT_SIZE} (s : Node) {r : Region} (hr : r ≠ .sendOut i)
    (d : Nat → UInt8) : (s.setMemory r d).sendOut i = s.sendOut i := by
  cases r with
  | sendOut j => exact Function.update_of_ne (fun hij => hr (by rw [hij])) _ _
  | _ => rfl

theorem frames_write {i : Fin SENDOUT_SIZE} (s : Node) {r : Region} (hr : r ≠ .sendOut i)
    (offset : Nat) (bytes : List UInt8) : Frames i s (s.write r offset bytes) :=
  .of_acts (acts_write s r offset bytes) (setMemory_sendOut s hr _) (by simp)

@[simp] theorem setSlot_self (s : Node) (i : Fin SENDOUT_SIZE) (sb : SendBuf) :
    (s.setSlot i sb).sendOut i = sb :=
  Function.update_self _ _ _

theorem setSlot_of_ne (s : Node) {i j : Fin SENDOUT_SIZE} (hij : i ≠ j) (sb : SendBuf) :
    (s.setSlot j sb).sendOut i = s.sendOut i :=
  Function.update_of_ne hij _ _

theorem frames_setSlot {i j : Fin SENDOUT_SIZE} (s : Node) (hij : i ≠ j) (sb : SendBuf) :
    Frames i s (s.setSlot j sb) :=
  .of_acts (acts_setSlot s j sb) (setSlot_of_ne s hij sb) (by simp)

theorem frames_share {i : Fin SENDOUT_SIZE} (s : Node) {t : PackageType} {body : List UInt8}
    (ht : t.flooded = true) (hbody : PACKAGE_HEAD + body.length ≤ UIP_BUFSIZE) :
    Frames i s (s.share t body) :=
  .of_acts (acts_share s ht hbody) rfl (by simp [sharing, Event.slot?])

theorem frames_SendPackage {i : Fin SENDOUT_SIZE} (s : Node) {r : Region} (hr : r ≠ .sendOut i)
    (len : Nat) (ip : Uid) : Frames i s (s.SendPackage r len ip) := by
  refine .of_acts (acts_SendPackage s r len ip) rfl fun e he => ?_
  obtain rfl | rfl := List.mem_pair.mp he
  · simp [Event.slot?]
  · exact Region.slot?_ne hr

theorem frames_called {i : Fin SENDOUT_SIZE} (s : Node) {r : Region} (hr : r ≠ .sendOut i) :
    Frames i s (s.called r) :=
  .of_acts (acts_called s r) rfl fun e he => by
    rw [List.mem_singleton.mp he]
    exact Region.slot?_ne hr

theorem frames_sendPackageByTable {i : Fin SENDOUT_SIZE} (s : Node) {r : Region}
    (hr : r ≠ .sendOut i) (len : Nat) (ipt : Fin IPTABLE_SIZE) :
    Frames i s (s.sendPackageByTable r len ipt) := by
  obtain ⟨s', r', len', link, heq, hacts, hcases⟩ := sendPackageByTable_inv s r len ipt
  have hcall := (frames_called s hr).acts
  obtain ⟨new, hnew, hother⟩ := hcall
  have hsame : new = [.sendPackageByTable r (ridAt (s.memory r) 0)] := by
    rw [← hnew.since_eq, (acts_called s r).since_eq]
  rw [heq]
  obtain ⟨rfl, hslots⟩ | ⟨rfl, -, rfl⟩ | ⟨rfl, -, rfl⟩ := hcases
  · exact (Frames.of_acts hacts (congrFun hslots i) (hsame ▸ hother)).trans
      (frames_SendPackage _ (by simp) _ _)
  · exact (frames_called s hr).trans (frames_SendPackage _ hr _ _)
  · refine (frames_called s hr).trans (Frames.trans ?_ (frames_SendPackage _ hr _ _))
    exact .of_acts (acts_setMemory _ _ _) (setMemory_sendOut _ hr _) (by simp)

theorem frames_sendNameRequest {i : Fin SENDOUT_SIZE} (s : Node) (name : List UInt8) :
    Frames i s (s.sendNameRequest name) := by
  rw [sendNameRequest_eq]
  exact frames_share s rfl (by rw [ems.strncpy_length]; decide)

theorem frames_sendIpRequest {i : Fin SENDOUT_SIZE} (s : Node) (ip : Uid) :
    Frames i s (s.sendIpRequest ip) := by
  rw [sendIpRequest_eq]
  exact frames_share s rfl (by rw [List.Vector.toList_length]; decide)

theorem frames_announceMe {i : Fin SENDOUT_SIZE} (s : Node) : Frames i s s.announceMe :=
  .of_acts (acts_announceMe s) rfl (by simp [sharing, Event.slot?])

theorem frames_pass {i : Fin SENDOUT_SIZE} (s : Node) (len : Nat) :
    Frames i s (s.SharePackage .uip_appdata len) :=
  .of_acts (acts_pass s len) rfl (by simp [Event.slot?])

theorem frames_initPackage {i : Fin SENDOUT_SIZE} (s : Node) {t : PackageType}
    (ht : t.flooded = false) : Frames i s (s.initPackage t) :=
  .of_acts (acts_initPackage s ht) rfl (by simp [Event.slot?])

theorem frames_sendAck {i : Fin SENDOUT_SIZE} (s : Node) : Frames i s s.sendAck := by
  have hcall := Frames.emit (i := i) s (e := .sendAck (ridAt s.uip_appdata 0)) rfl rfl rfl
  rw [sendAck]
  refine hcall.trans ((frames_initPackage _ (t := .ACKNOWLEDGE_M) rfl).trans ?_)
  apply (frames_write _ (r := .buf) (by simp) PACKAGE_HEAD (load s.uip_appdata 0 RID_SIZE)).trans
  split
  · exact frames_sendPackageByTable _ (by simp) _ _
  · exact .refl _ _

theorem frames_forward {i : Fin SENDOUT_SIZE} (s : Node) (len : Nat) :
    Frames i s (s.forward len) := by
  have hcall := Frames.emit (i := i) s (e := .forward (ridAt s.uip_appdata 0)) rfl rfl rfl
  rw [forward]
  apply hcall.trans
  split
  · exact .refl _ _
  · have hinner : (registerInner (s.emit (.forward (ridAt s.uip_appdata 0))) len).sendOut =
        s.sendOut := by
      rw [registerInner]
      split <;> rfl
    apply (Frames.of_eq (acts_registerInner _ len) hinner).trans
    dsimp only
    split
    · exact frames_sendPackageByTable _ (by simp) _ _
    · exact .refl _ _

theorem sendOut_ne {i j : Fin SENDOUT_SIZE} (hij : i ≠ j) : Region.sendOut j ≠ .sendOut i :=
  fun heq => hij (Region.sendOut.inj heq).symm

theorem frames_solve {i j : Fin SENDOUT_SIZE} (s : Node) (hij : i ≠ j) :
    Frames i s (s.solve j) := by
  rw [solve]
  dsimp only
  split
  · split
    · exact (frames_setSlot s hij _).trans (frames_sendPackageByTable _ (sendOut_ne hij) _ _)
    · exact frames_sendNameRequest s _
  · exact .refl i s

theorem frames_transmit {i j : Fin SENDOUT_SIZE} (s : Node) (hij : i ≠ j) :
    Frames i s (s.transmit j) := by
  rw [transmit]
  dsimp only
  split
  · split
    · exact (frames_setSlot s hij _).trans (frames_sendPackageByTable _ (sendOut_ne hij) _ _)
    · exact frames_sendIpRequest s _
  · exact .refl i s

theorem frames_CheckSendOut1 {i j : Fin SENDOUT_SIZE} (s : Node) (hij : i ≠ j) :
    Frames i s (s.CheckSendOut1 j) :=
  (frames_solve s hij).trans (frames_transmit _ hij)

theorem frames_checkSendOut {i j : Fin SENDOUT_SIZE} (s : Node) (hij : i ≠ j) :
    Frames i s (s.checkSendOut j) := by
  rw [checkSendOut]
  split
  · exact .refl i s
  · exact (frames_setSlot s hij _).trans (frames_CheckSendOut1 _ hij)

theorem frames_foldl {α : Type} {i : Fin SENDOUT_SIZE} {f : Node → α → Node} (l : List α)
    (hf : ∀ a ∈ l, ∀ s, Frames i s (f s a)) (s : Node) : Frames i s (l.foldl f s) := by
  apply List.foldlRecOn l f (motive := Frames i s) (.refl i s)
  intro s' h a ha
  exact h.trans (hf a ha s')

/-- A package is put into a slot that is free. -/
theorem newSendBuf_free {s : Node} {j : Fin SENDOUT_SIZE} (h : s.newSendBuf = some j) :
    (s.sendOut j).timeLeft = 0 := by
  simpa using List.find?_some h

theorem frames_safeSendByName {i : Fin SENDOUT_SIZE} {s : Node} (hused : (s.sendOut i).timeLeft ≠ 0)
    (r : Region) (len : Nat) (name : List UInt8) :
    Frames i s (s.safeSendByName r len name).1 := by
  rw [safeSendByName]
  split
  · rename_i j hfree
    have hij : i ≠ j := by
      rintro rfl
      exact hused (newSendBuf_free hfree)
    exact (frames_setSlot s hij _).trans (frames_CheckSendOut1 _ hij)
  · exact .refl i s

theorem frames_sendText {i : Fin SENDOUT_SIZE} {s : Node} (hused : (s.sendOut i).timeLeft ≠ 0)
    {r : Region} (hr : r ≠ .sendOut i) (cmd : Nat) {t : PackageType} (ht : t.flooded = false)
    (room counted : Nat) : Frames i s (s.sendText r cmd t room counted) := by
  rw [sendText]
  dsimp only
  split
  · exact .refl i s
  · have hinit := (frames_write s hr (cmd + (wordAt (s.memory r) cmd).length) [0]).trans
      (frames_initPackage _ ht)
    have hsend : ∀ (bytes : List UInt8) (len : Nat) (name : List UInt8), Frames i s
        ((((s.write r (cmd + (wordAt (s.memory r) cmd).length) [0]).initPackage t).write .buf
          (packOffset t) bytes).safeSendByName .buf len name).1 := by
      intro bytes len name
      have hfilled := hinit.trans (frames_write _ (r := .buf) (by simp) (packOffset t) bytes)
      refine hfilled.trans (frames_safeSendByName ?_ _ _ _)
      rwa [hfilled.slot]
    split
    · exact hsend _ _ _
    · exact hsend _ _ _

theorem frames_executeCmd {i : Fin SENDOUT_SIZE} {s : Node} (hused : (s.sendOut i).timeLeft ≠ 0)
    {r : Region} (hr : r ≠ .sendOut i) (offset : Nat) : Frames i s (s.executeCmd r offset) := by
  have hcall := Frames.emit (i := i) s (e := .executeCmd (stringAt (s.memory r) offset)) rfl rfl rfl
  have hprint : ∀ (s : Node) (out : Out), Frames i s (s.emit (.uart0 out)) :=
    fun s out => .emit s rfl rfl rfl
  rw [executeCmd]
  apply hcall.trans
  split
  · exact .of_eq (.of_eq rfl rfl rfl) rfl
  · exact (hprint _ _).trans (hprint _ _)
  · exact frames_sendText (s := s.emit _) hused hr _ (t := .IDENTIFIED_PACKAGE_M) rfl _ _
  · rw [discoverCmd_eq]
    exact frames_share _ rfl (depthOf_length _)
  · exact frames_foldl _ (fun a _ s => .emit s rfl rfl rfl) _
  · rw [blockCmd]
    split
    · have hdone : ∀ (s : Node) (blocked : Uid), Frames i s { s with blocked } :=
        fun s blocked => .of_eq (.of_eq rfl rfl rfl) rfl
      exact (hdone _ _).trans (hprint _ _)
    · exact hprint _ _
  · exact frames_sendText (s := s.emit _) hused hr _ (t := .COMMAND_M) rfl _ _
  · exact .refl _ _

theorem frames_getc0 {i : Fin SENDOUT_SIZE} {s : Node} (hused : (s.sendOut i).timeLeft ≠ 0)
    (x : UInt8) : Frames i s (s.getc0 x) := by
  have hkept : ∀ (s : Node) (cmdPt : Nat), Frames i s { s with cmdPt } :=
    fun s cmdPt => .of_eq (.of_eq rfl rfl rfl) rfl
  have hcmd : Region.cmd ≠ .sendOut i := by simp
  rw [getc0]
  split
  · split
    · exact (hkept s _).trans (frames_write _ hcmd _ _)
    · exact .refl i s
  · split
    · have hended := frames_write s hcmd s.cmdPt [0]
      exact (hended.trans (frames_executeCmd (by rwa [hended.slot]) hcmd 0)).trans (hkept _ _)
    · split
      · exact (frames_write s hcmd s.cmdPt [x]).trans (hkept _ _)
      · exact .refl i s

/-- An acknowledgement that does not free the slot leaves it alone. -/
theorem frames_acknowledge {i : Fin SENDOUT_SIZE} {s : Node} {rid : Rid}
    (hused : ((s.acknowledge rid).sendOut i).timeLeft ≠ 0) : Frames i s (s.acknowledge rid) := by
  have hcall := Frames.emit (i := i) s (e := .acknowledge rid) rfl rfl rfl
  rw [acknowledge] at hused ⊢
  apply hcall.trans
  dsimp only at hused ⊢
  split
  · rename_i j heq
    simp only [heq] at hused
    by_cases hij : i = j
    · subst hij
      exact absurd (by rw [setSlot_self]) hused
    · exact frames_setSlot _ hij _
  · exact .refl _ _

theorem frames_arrived {i : Fin SENDOUT_SIZE} (s : Node) (m : Datagram) : Frames i s (s.arrived m) :=
  .of_eq (.of_eq rfl rfl rfl) rfl

theorem frames_seen {i : Fin SENDOUT_SIZE} (s : Node) (m : Datagram) : Frames i s (s.seen m) :=
  .of_acts (acts_seen s m) rfl (by simp [Event.slot?])

theorem frames_handle {i : Fin SENDOUT_SIZE} {s : Node} (hused : (s.sendOut i).timeLeft ≠ 0)
    (len eRid : Nat) (type : Option PackageType)
    (hkept : type = some .ACKNOWLEDGE_M → ((s.handle len eRid type).sendOut i).timeLeft ≠ 0) :
    Frames i s (s.handle len eRid type) := by
  have hbuf : Region.uip_appdata ≠ .sendOut i := by simp
  have hprint : ∀ (s : Node) (out : Out), Frames i s (s.emit (.uart0 out)) :=
    fun s out => .emit s rfl rfl rfl
  have hlearnt : ∀ (s : Node) (ip link : Uid) (d : Option (List UInt8)),
      Frames i s (s.registerIp ip link d) := fun s ip link d => .of_eq (.of_eq rfl rfl rfl) rfl
  rw [handle.eq_def]
  cases type with
  | none => exact .refl i s
  | some t =>
    cases t with
    | ANNOUNCEMENT_M =>
      dsimp only
      split
      · exact frames_write s hbuf _ _
      · exact ((frames_write s hbuf _ _).trans (hlearnt _ _ _ _)).trans (frames_pass _ _)
    | NEIGHBOR_REQUEST_M =>
      dsimp only
      rw [neighborRequest]
      apply (frames_announceMe s).trans
      dsimp only
      split
      · exact .refl i _
      · refine (frames_write _ hbuf PACKAGE_HEAD
          [s.announceMe.uip_appdata PACKAGE_HEAD - 1]).trans ?_
        split
        · exact frames_pass _ _
        · exact .refl i _
    | NAME_REQUEST_M =>
      dsimp only
      apply (frames_write s hbuf (PACKAGE_HEAD + len) [0]).trans
      split
      · exact frames_announceMe _
      · exact frames_pass _ _
    | IP_REQUEST_M =>
      dsimp only
      split
      · exact frames_announceMe s
      · exact frames_pass s _
    | ACKNOWLEDGE_M => exact frames_acknowledge (hkept rfl)
    | PACKAGE_M =>
      dsimp only
      split
      · exact (hprint _ _).trans ((hprint _ _).trans (hprint _ _))
      · exact .refl i s
    | MESH_M => exact frames_forward s _
    | IDENTIFIED_PACKAGE_M =>
      dsimp only
      refine Frames.trans ?_ ((hlearnt _ _ _ _).trans (frames_sendAck _))
      split
      · exact .of_acts (acts_printIdentified s len) rfl (by simp [identifiedLine, Event.slot?])
      · exact .refl i s
    | COMMAND_M =>
      dsimp only
      refine Frames.trans ?_ ((hlearnt _ _ _ _).trans (frames_sendAck _))
      split
      · exact frames_executeCmd hused hbuf _
      · exact .refl i s

/-- A datagram that does not free the slot leaves it alone. -/
theorem frames_receive {i : Fin SENDOUT_SIZE} {s : Node} (hused : (s.sendOut i).timeLeft ≠ 0)
    (m : Datagram) (hkept : ((s.receive m).sendOut i).timeLeft ≠ 0) : Frames i s (s.receive m) := by
  by_cases haccepts : s.Accepts m
  · rw [haccepts.receive_eq] at hkept ⊢
    exact (frames_seen s m).trans (frames_handle (s := s.seen m) hused _ _ _ fun _ => hkept)
  · obtain heq | ⟨-, heq⟩ := receive_of_rejects haccepts
    · rw [heq]
      exact frames_arrived s m
    · rw [heq]
      exact frames_seen s m

end Node

end concretid.com
