import Mathlib.Data.List.GetD
import ConcretID.Com.Mesh

open concretid.memory
open concretid.ems (Uid linkLocal)

namespace concretid.com

/-- Whether a call delivers a package: it is printed or executed. -/
def Event.delivers : Event → Bool
  | .uart0 _ | .executeCmd _ => true
  | _ => false

namespace Node

/-! ## Retransmissions -/

/-- What a retransmission is for: a lost acknowledgement or a lost hop is made
up for, and nothing is delivered twice. -/
structure Repairs (s : Node) (m : Datagram) : Prop where
  undelivered : m.type ≠ some .MESH_M → ∀ e ∈ s.since (s.receive m), e.delivers = false
  acked : m.type ≠ some .MESH_M → .sendAck m.rid ∈ s.since (s.receive m)
  forwarded : m.type = some .MESH_M → .forward m.rid ∈ s.since (s.receive m)

/-- A package that is known but for the first byte of its id gets no further
than the id table. -/
theorem receive_retried {s : Node} {m : Datagram} (hknown : s.rids.existsRid m.rid = 2)
    (htype : m.type ≠ some .PACKAGE_M) :
    ∀ e ∈ s.since (s.receive m), e = .registerRid m.rid := by
  have hrejects : ¬ s.Accepts m := fun haccepts => htype (haccepts.retried hknown)
  have hacts : Acts s (s.arrived m) [] := .of_eq rfl rfl rfl
  obtain heq | ⟨_, heq⟩ := receive_of_rejects hrejects
  · rw [heq, hacts.since_eq]
    simp
  · rw [heq, (acts_seen s m).since_eq]
    simp

/-- No retransmission of an identified package, a command or a mesh package
repairs anything: it is dropped before the `switch`. -/
theorem retransmission_unrepaired {s : Node} {m : Datagram} (hknown : s.rids.existsRid m.rid = 2)
    (htype : m.type = some .IDENTIFIED_PACKAGE_M ∨ m.type = some .COMMAND_M ∨
      m.type = some .MESH_M) : ¬ s.Repairs m := by
  intro hrepairs
  have hother : m.type ≠ some .PACKAGE_M := by
    obtain h | h | h := htype <;> rw [h] <;> decide
  have hnothing := receive_retried hknown hother
  by_cases hmesh : m.type = some .MESH_M
  · cases hnothing _ (hrepairs.forwarded hmesh)
  · cases hnothing _ (hrepairs.acked hmesh)

/-- A node that has seen the id `11 2 3 4`. -/
def acquainted : Node :=
  (boot (linkLocal 0 2) (ems.nameOf [97]) (fun _ => 0)).registerRid
    { h0 := 11
      h1 := 2
      h2 := 3
      h3 := 4 }

/-- An identified package with the id `12 2 3 4`, from `fe80::1`. -/
def retransmitted : Datagram :=
  { src := linkLocal 0 1
    data := store (fun _ => 0) 0
      ([12, 2, 3, 4, PackageType.IDENTIFIED_PACKAGE_M.code] ++ (linkLocal 0 1).toList ++ [104, 105])
    len := 23 }

/-- It is dropped. -/
theorem retransmitted_dropped :
    acquainted.rids.existsRid retransmitted.rid = 2 ∧
      retransmitted.type = some .IDENTIFIED_PACKAGE_M ∧
      acquainted.since (acquainted.receive retransmitted) = [.registerRid retransmitted.rid] ∧
      .sendAck retransmitted.rid ∉ acquainted.since (acquainted.receive retransmitted) := by
  decide

theorem retransmitted_unrepaired : ¬ acquainted.Repairs retransmitted :=
  retransmission_unrepaired (by decide) (.inl (by decide))

/-! ## Acknowledgements -/

/-- The letter of a package, and the one behind its mesh head if it has one,
that are not those of an acknowledgement. -/
def Plain (letter inner : UInt8) : Prop :=
  letter ≠ PackageType.ACKNOWLEDGE_M.code ∧
    (letter = PackageType.MESH_M.code → inner ≠ PackageType.ACKNOWLEDGE_M.code)

/-- Where the letter of a package behind a mesh head lies. -/
abbrev INNER : Nat := RID_SIZE + MESH_HEAD_SIZE

def PlainAt (d : Nat → UInt8) : Prop := Plain (d RID_SIZE) (d INNER)

def PlainPackage (p : List UInt8) : Prop := Plain (p.getD RID_SIZE 0) (p.getD INNER 0)

/-- The package without the mesh head it may have. -/
def unmeshed (p : List UInt8) : List UInt8 :=
  if p.getD RID_SIZE 0 = PackageType.MESH_M.code
  then p.take RID_SIZE ++ p.drop (RID_SIZE + MESH_HEAD_SIZE) else p

/-- The acknowledgement of an id: the type, and the id as the body. -/
def Acknowledges (p : List UInt8) (rid : Rid) : Prop :=
  p.getD RID_SIZE 0 = PackageType.ACKNOWLEDGE_M.code ∧ p.drop PACKAGE_HEAD = rid.bytes

/-- What an identified package or a command is to be answered with: an
acknowledgement that frees the slot of the sender which holds the package. -/
def Answers (s : Node) (m : Datagram) : Prop :=
  ∃ p ∈ s.sent (s.receive m), Acknowledges (unmeshed p) m.rid ∧
    ∀ (sender : Node) (d : Datagram) (i : Fin SENDOUT_SIZE), d.package = unmeshed p →
      sender.Accepts d → 0 < (sender.sendOut i).timeLeft →
      ridAt (sender.sendOut i).data 0 = m.rid → ((sender.receive d).sendOut i).timeLeft = 0

/-- What is plain acknowledges nothing. -/
theorem PlainPackage.not_acknowledges {p : List UInt8} (h : PlainPackage p) (rid : Rid) :
    ¬ Acknowledges (unmeshed p) rid := by
  rintro ⟨hletter, _⟩
  rw [unmeshed] at hletter
  split at hletter
  · rename_i hmesh
    apply h.2 hmesh
    have hlong : RID_SIZE < p.length := by
      by_contra hshort
      rw [List.getD_eq_default _ _ (Nat.le_of_not_lt hshort)] at hmesh
      exact absurd hmesh (by decide)
    rw [← hletter, List.getD_append_right _ _ _ _ (by simp), List.length_take,
      Nat.min_eq_left (Nat.le_of_lt hlong), Nat.sub_self]
    simp [List.getD_eq_getElem?_getD]
  · exact h.1 hletter

theorem plain_zero {letter : UInt8} (h : letter ≠ PackageType.ACKNOWLEDGE_M.code) :
    Plain letter 0 := ⟨h, fun _ => by decide⟩

/-- A letter other than the two stands for itself. -/
theorem plain_of_ne {letter inner : UInt8} (hack : letter ≠ PackageType.ACKNOWLEDGE_M.code)
    (hmesh : letter ≠ PackageType.MESH_M.code) : Plain letter inner :=
  ⟨hack, fun h => absurd h hmesh⟩

/-- A byte that is read from a package, or the zero behind a short one. -/
theorem packet_getD (s : Node) (data : Region) (len i : Nat) :
    (s.packet data len).getD i 0 = if i < min len UIP_BUFSIZE then s.memory data i else 0 := by
  rw [List.getD_eq_getElem?_getD, packet, load_getElem?, Nat.zero_add]
  split <;> rfl

theorem plain_packet {s : Node} (data : Region) (len : Nat) (hplain : PlainAt (s.memory data)) :
    PlainPackage (s.packet data len) := by
  rw [PlainPackage, packet_getD, packet_getD]
  split
  · split
    · exact hplain
    · exact plain_zero hplain.1
  · exact plain_of_ne (by decide) (by decide)

/-- Calls that send nothing but what is plain, and leave it in `uip_appdata`. -/
structure Unacking (s s' : Node) : Prop where
  acts : ∃ new, Acts s s' new ∧ ∀ p ∈ new.filterMap Event.sent?, PlainPackage p
  kept : PlainAt s.uip_appdata → PlainAt s'.uip_appdata

theorem Unacking.trans {s s' s'' : Node} (h : Unacking s s') (h' : Unacking s' s'') :
    Unacking s s'' := by
  obtain ⟨a, ha, hplain⟩ := h.acts
  obtain ⟨b, hb, hplain'⟩ := h'.acts
  refine ⟨⟨a ++ b, ha.trans hb, fun p hp => ?_⟩, fun hplain => h'.kept (h.kept hplain)⟩
  rw [List.filterMap_append] at hp
  exact (List.mem_append.mp hp).elim (hplain p) (hplain' p)

/-- Calls that send nothing and do not touch `uip_appdata`. -/
theorem Unacking.of_acts {s s' : Node} {new : List Event} (h : Acts s s' new)
    (hnone : new.filterMap Event.sent? = []) (huip : s'.uip_appdata = s.uip_appdata) :
    Unacking s s' :=
  ⟨⟨new, h, by simp [hnone]⟩, fun hplain => by rwa [huip]⟩

theorem Unacking.refl (s : Node) : Unacking s s := .of_acts (.refl s) rfl rfl

/-- A package that is shared is plain, and lies in `uip_appdata` afterwards. -/
theorem unacking_share (s : Node) {t : PackageType} {body : List UInt8} (ht : t.flooded = true)
    (hbody : PACKAGE_HEAD + body.length ≤ UIP_BUFSIZE) : Unacking s (s.share t body) := by
  refine ⟨⟨_, acts_share s ht hbody, by simp [sharing, Event.sent?]⟩, fun _ => ?_⟩
  have hletter : (s.share t body).uip_appdata RID_SIZE = t.code := by
    rw [share_uip_appdata s ht hbody]
    simp [store, made, Rid.bytes]
  rw [PlainAt, hletter]
  refine plain_of_ne ?_ ?_
  · cases t <;> first | decide | cases ht
  · cases t <;> first | decide | cases ht

/-- What is sent lies in `uip_appdata` afterwards. -/
theorem SendPackage_uip_appdata (s : Node) (data : Region) (len : Nat) (ip : Uid) (i : Nat) :
    (s.SendPackage data len ip).uip_appdata i =
      if i < min len UIP_BUFSIZE then s.memory data i else s.uip_appdata i := by
  rw [← store_load]
  cases data <;> rfl

theorem unacking_SendPackage {s : Node} {data : Region} {len : Nat} (ip : Uid)
    (hplain : PlainAt (s.memory data))
    (hlong : s.memory data RID_SIZE = PackageType.MESH_M.code → INNER < len) :
    Unacking s (s.SendPackage data len ip) := by
  refine ⟨⟨_, acts_SendPackage s data len ip, ?_⟩, fun huip => ?_⟩
  · simpa [Event.sent?] using plain_packet data len hplain
  · rw [PlainAt, SendPackage_uip_appdata, SendPackage_uip_appdata]
    by_cases hletter : RID_SIZE < min len UIP_BUFSIZE
    · rw [if_pos hletter]
      refine ⟨hplain.1, fun hmesh => ?_⟩
      rw [if_pos (lt_min (hlong hmesh) (by decide))]
      exact hplain.2 hmesh
    · have hinner : ¬ INNER < min len UIP_BUFSIZE := fun h =>
        hletter (lt_of_le_of_lt (by decide) h)
      rw [if_neg hletter, if_neg hinner]
      exact huip

theorem unacking_called (s : Node) (data : Region) : Unacking s (s.called data) :=
  .of_acts (acts_called s data) rfl rfl

/-- Behind a mesh head a package keeps its letter. -/
theorem meshed_plain {p : List UInt8} {dest : Uid} (hlen : PACKAGE_HEAD ≤ p.length)
    (hletter : p.getD RID_SIZE 0 ≠ PackageType.ACKNOWLEDGE_M.code) (rest : List UInt8) :
    PlainPackage (meshed p dest ++ rest) := by
  have hfirst : (p.take RID_SIZE).length = RID_SIZE := by
    rw [List.length_take, Nat.min_eq_left (Nat.le_of_lt hlen)]
  have hhead : (p.take RID_SIZE ++ [PackageType.MESH_M.code] ++ dest.toList).length = INNER := by
    rw [List.length_append, List.length_append, hfirst, List.Vector.toList_length]
    rfl
  have hmesh : (meshed p dest ++ rest).getD RID_SIZE 0 = PackageType.MESH_M.code := by
    rw [meshed, List.append_assoc, List.append_assoc, List.append_assoc,
      List.getD_append_right _ _ _ _ (Nat.le_of_eq hfirst), hfirst]
    rfl
  have hinner : (meshed p dest ++ rest).getD INNER 0 = p.getD RID_SIZE 0 := by
    rw [meshed, List.append_assoc, List.getD_append_right _ _ _ _ (Nat.le_of_eq hhead), hhead,
      Nat.sub_self, List.getD_append _ _ _ _ (by rw [List.length_drop]; exact Nat.sub_pos_of_lt hlen)]
    simp [List.getD_eq_getElem?_getD]
  rw [PlainPackage, hmesh, hinner]
  exact ⟨by decide, fun _ => hletter⟩

theorem plainAt_of_load {d : Nat → UInt8} {n : Nat} (hn : INNER < n)
    (h : PlainPackage (load d 0 n)) : PlainAt d := by
  rwa [PlainPackage, load_getD d hn, load_getD d (lt_trans (by decide) hn)] at h

theorem unacking_sendPackageByTable {s : Node} {data : Region} {len : Nat}
    (ipt : Fin IPTABLE_SIZE) (hplain : PlainAt (s.memory data))
    (hother : s.memory data RID_SIZE ≠ PackageType.MESH_M.code) (hlen : PACKAGE_HEAD ≤ len)
    (hshort : len ≤ BUF_SIZE) : Unacking s (s.sendPackageByTable data len ipt) := by
  by_cases hroute : (s.table.iptable ipt).ipaddr = (s.table.iptable ipt).link
  · rw [sendPackageByTable_direct hroute hother]
    refine (unacking_called s data).trans (unacking_SendPackage _ ?_ fun hmesh => ?_)
    · rwa [called_memory]
    · rw [called_memory] at hmesh
      exact absurd hmesh hother
  · obtain ⟨d, heq, hcontent⟩ := sendPackageByTable_meshed hroute hother hlen hshort
    have hlong : INNER < len + PackageType.MESH_M.code.toNat :=
      lt_of_lt_of_le (by decide) (Nat.le_add_left _ _)
    have hletter : (load (s.memory data) 0 len).getD RID_SIZE 0 = s.memory data RID_SIZE :=
      load_getD _ (Nat.lt_of_succ_le hlen) 0
    have hd : PlainAt d := by
      apply plainAt_of_load hlong
      rw [hcontent]
      exact meshed_plain (by rwa [load_length]) (by rw [hletter]; exact hplain.1) _
    have hcalled : Unacking s ({ s.called data with buf := d } : Node) :=
      (unacking_called s data).trans (.of_acts (.of_eq rfl rfl rfl) rfl rfl)
    rw [heq]
    exact hcalled.trans (unacking_SendPackage _ hd fun _ => hlong)

/-- The data of a slot that holds an identified package or a command. -/
structure Loaded (sb : SendBuf) : Prop where
  plain : PlainAt sb.data
  other : sb.data RID_SIZE ≠ PackageType.MESH_M.code
  len : PACKAGE_HEAD ≤ sb.len
  short : sb.len ≤ BUF_SIZE

theorem unacking_setSlot (s : Node) (i : Fin SENDOUT_SIZE) (sb : SendBuf) :
    Unacking s (s.setSlot i sb) :=
  .of_acts (acts_setSlot s i sb) rfl rfl

/-- Sending what has just been put into a slot. -/
theorem unacking_sendSlot (s : Node) (i : Fin SENDOUT_SIZE) (sb : SendBuf) (h : Loaded sb)
    (ipt : Fin IPTABLE_SIZE) :
    Unacking s ((s.setSlot i sb).sendPackageByTable (.sendOut i) sb.len ipt) ∧
      ((s.setSlot i sb).sendPackageByTable (.sendOut i) sb.len ipt).sendOut i = sb := by
  have hset : (s.setSlot i sb).sendOut i = sb := Function.update_self _ _ _
  have hdata : (s.setSlot i sb).memory (.sendOut i) = sb.data := congrArg SendBuf.data hset
  have hother : (s.setSlot i sb).memory (.sendOut i) RID_SIZE ≠ PackageType.MESH_M.code := by
    rw [hdata]
    exact h.other
  refine ⟨(unacking_setSlot s i sb).trans ?_, ?_⟩
  · exact unacking_sendPackageByTable ipt (by rw [hdata]; exact h.plain) hother h.len h.short
  · rw [sendPackageByTable_sendOut _ _ hother, hset]

theorem unacking_sendNameRequest (s : Node) (name : List UInt8) :
    Unacking s (s.sendNameRequest name) := by
  rw [sendNameRequest_eq]
  exact unacking_share s rfl (by rw [ems.strncpy_length]; decide)

theorem unacking_sendIpRequest (s : Node) (ip : Uid) : Unacking s (s.sendIpRequest ip) := by
  rw [sendIpRequest_eq]
  exact unacking_share s rfl (by rw [List.Vector.toList_length]; decide)

theorem unacking_solve {s : Node} {i : Fin SENDOUT_SIZE} (h : Loaded (s.sendOut i)) :
    Unacking s (s.solve i) ∧ Loaded ((s.solve i).sendOut i) := by
  rw [solve]
  dsimp only
  split
  · split
    · rename_i ipt _
      obtain ⟨hsend, hkept⟩ := unacking_sendSlot s i
        { s.sendOut i with
          timeLeft := ACK_TIME * ACK_TRIES
          key := (s.table.iptable ipt).ipaddr } ⟨h.plain, h.other, h.len, h.short⟩ ipt
      refine ⟨hsend, ?_⟩
      rw [hkept]
      exact ⟨h.plain, h.other, h.len, h.short⟩
    · exact ⟨unacking_sendNameRequest s _, h⟩
  · exact ⟨.refl s, h⟩

theorem unacking_transmit {s : Node} {i : Fin SENDOUT_SIZE} (h : Loaded (s.sendOut i)) :
    Unacking s (s.transmit i) := by
  rw [transmit]
  dsimp only
  split
  · split
    · refine (unacking_sendSlot s i
        { s.sendOut i with
          data := Function.update (s.sendOut i).data 0 ((s.sendOut i).data 0 + 1) } ?_ _).1
      exact ⟨h.plain, h.other, h.len, h.short⟩
    · exact unacking_sendIpRequest s _
  · exact .refl s

/-- A command's package goes out from its slot. -/
theorem unacking_safeSendByName (s : Node) {len : Nat} (name : List UInt8)
    (hletter : s.buf RID_SIZE ≠ PackageType.ACKNOWLEDGE_M.code)
    (hother : s.buf RID_SIZE ≠ PackageType.MESH_M.code) (hlen : PACKAGE_HEAD ≤ len)
    (hshort : len ≤ BUF_SIZE) : Unacking s (s.safeSendByName .buf len name).1 := by
  rw [safeSendByName]
  split
  · rename_i i _
    have hloaded : ∀ key timeLeft, Loaded
        { key
          data := store (s.sendOut i).data 0 (load s.buf 0 len)
          len
          timeLeft } := by
      intro key timeLeft
      have hread : store (s.sendOut i).data 0 (load s.buf 0 len) RID_SIZE = s.buf RID_SIZE := by
        rw [store_load, if_pos (Nat.lt_of_succ_le hlen)]
      refine ⟨?_, ?_, hlen, hshort⟩
      · dsimp only [PlainAt]
        rw [hread]
        exact plain_of_ne hletter hother
      · dsimp only
        rw [hread]
        exact hother
    have hchecked : ∀ sb, Loaded sb → Unacking s ((s.setSlot i sb).CheckSendOut1 i) := by
      intro sb hsb
      have hset : Loaded ((s.setSlot i sb).sendOut i) := by
        rwa [show (s.setSlot i sb).sendOut i = sb from Function.update_self _ _ _]
      obtain ⟨hsolve, hsolved⟩ := unacking_solve hset
      exact (unacking_setSlot s i sb).trans (hsolve.trans (unacking_transmit hsolved))
    dsimp only
    split
    · exact hchecked _ (hloaded _ _)
    · exact hchecked _ (hloaded _ _)
  · exact .refl s

/-- `initPackage` puts the letter where `buf` is read for it. -/
theorem initPackage_letter (s : Node) {t : PackageType}
    (ht : t = .IDENTIFIED_PACKAGE_M ∨ t = .COMMAND_M) (bytes : List UInt8) :
    ((s.initPackage t).write .buf (packOffset t) bytes).buf RID_SIZE = t.code := by
  have hoffset : RID_SIZE < packOffset t := by obtain rfl | rfl := ht <;> decide
  have hread : ((s.initPackage t).write .buf (packOffset t) bytes).buf RID_SIZE =
      (s.initPackage t).buf RID_SIZE := store_of_lt _ _ hoffset
  rw [hread]
  simp [initPackage, emit, store, Rid.bytes]

/-- The NUL that ends a name makes nothing an acknowledgement. -/
theorem unacking_ended (s : Node) (r : Region) (offset : Nat) :
    Unacking s (s.write r offset [0]) := by
  have hother : (s.write r offset [0]).uip_appdata = s.uip_appdata →
      Unacking s (s.write r offset [0]) := .of_acts (acts_write s r offset [0]) rfl
  cases r with
  | buf => exact hother rfl
  | cmd => exact hother rfl
  | sendOut => exact hother rfl
  | uip_appdata =>
    refine ⟨⟨[], acts_write s _ offset [0], by simp⟩, fun hplain => ?_⟩
    have hwritten : (s.write .uip_appdata offset [0]).uip_appdata =
        Function.update s.uip_appdata offset 0 := store_single _ _ _
    rw [PlainAt, hwritten, Function.update_apply, Function.update_apply]
    split
    · exact plain_of_ne (by decide) (by decide)
    · split
      · exact plain_zero hplain.1
      · exact hplain

theorem unacking_sendText (s : Node) (r : Region) (cmd : Nat) {t : PackageType} {room counted : Nat}
    (ht : t = .IDENTIFIED_PACKAGE_M ∨ t = .COMMAND_M) (hcounted : PACKAGE_HEAD ≤ counted)
    (hroom : counted + room ≤ BUF_SIZE) : Unacking s (s.sendText r cmd t room counted) := by
  have hack : t.code ≠ PackageType.ACKNOWLEDGE_M.code := by obtain rfl | rfl := ht <;> decide
  have hmesh : t.code ≠ PackageType.MESH_M.code := by obtain rfl | rfl := ht <;> decide
  have hflooded : t.flooded = false := by obtain rfl | rfl := ht <;> rfl
  have hsend : ∀ (s : Node) (bytes : List UInt8) (len : Nat) (name : List UInt8),
      PACKAGE_HEAD ≤ len → len ≤ BUF_SIZE →
      Unacking s (((s.initPackage t).write .buf (packOffset t) bytes).safeSendByName .buf len name).1 := by
    intro s bytes len name hlen hshort
    have hletter := initPackage_letter s ht bytes
    have hmade : Unacking s ((s.initPackage t).write .buf (packOffset t) bytes) :=
      .of_acts ((acts_initPackage s hflooded).trans (acts_write _ _ _ _)) rfl rfl
    refine hmade.trans (unacking_safeSendByName _ name ?_ ?_ hlen hshort)
    · rwa [hletter]
    · rwa [hletter]
  rw [sendText]
  dsimp only
  split
  · exact .refl s
  · apply (unacking_ended s r (cmd + (wordAt (s.memory r) cmd).length)).trans
    split
    · exact hsend _ _ _ _ (by omega) (by omega)
    · exact hsend _ _ _ _ (by decide) (by decide)

theorem unacking_executeCmd (s : Node) (r : Region) (offset : Nat) :
    Unacking s (s.executeCmd r offset) := by
  have hcall : Unacking s (s.emit (.executeCmd (stringAt (s.memory r) offset))) :=
    .of_acts (.emit s rfl rfl) rfl rfl
  have huart : ∀ (s : Node) (out : Out), Unacking s (s.emit (.uart0 out)) :=
    fun s out => .of_acts (.emit s rfl rfl) rfl rfl
  rw [executeCmd]
  apply hcall.trans
  split
  · exact .of_acts (.of_eq rfl rfl rfl) rfl rfl
  · exact (huart _ _).trans (huart _ _)
  · exact unacking_sendText _ _ _ (.inl rfl) (by decide) (by decide)
  · rw [discoverCmd_eq]
    exact unacking_share _ rfl (depthOf_length _)
  · apply List.foldlRecOn _ _ (motive := Unacking _) (.refl _)
    intro s' h i _
    exact h.trans (.of_acts (.emit s' rfl rfl) rfl rfl)
  · rw [blockCmd]
    split
    · exact .of_acts ⟨rfl, rfl, rfl, .other rfl .nil⟩ rfl rfl
    · exact huart _ _
  · exact unacking_sendText _ _ _ (.inr rfl) (by decide) (by decide)
  · exact .refl _

/-- The first bytes of what lies in `uip_appdata`, sent as `sendAck` does. -/
theorem sendPackageByTable_plain {s : Node} (hplain : PlainAt s.uip_appdata)
    (ipt : Fin IPTABLE_SIZE) :
    ∃ new, Acts s (s.sendPackageByTable .uip_appdata (PACKAGE_HEAD + RID_SIZE) ipt) new ∧
      ∀ p ∈ new.filterMap Event.sent?, PlainPackage p := by
  have hcontent : PlainAt (s.memory .uip_appdata) := hplain
  by_cases htype : s.memory .uip_appdata RID_SIZE = PackageType.MESH_M.code
  · have hpacket : ∀ (s' : Node) (len : Nat) (ip : Uid),
        Acts s s' [.sendPackageByTable .uip_appdata (ridAt (s.memory .uip_appdata) 0)] →
        s'.memory .uip_appdata = s.uip_appdata →
        ∃ new, Acts s (s'.SendPackage .uip_appdata len ip) new ∧
          ∀ p ∈ new.filterMap Event.sent?, PlainPackage p := by
      intro s' len ip hacts hsame
      refine ⟨_, hacts.trans (acts_SendPackage s' .uip_appdata len ip), ?_⟩
      have hsent := plain_packet (s := s') .uip_appdata len (by rwa [hsame])
      simpa [Event.sent?] using hsent
    rw [sendPackageByTable_eq]
    split
    · rw [if_neg (not_not.mpr htype)]
      exact hpacket _ _ _ (acts_called _ _) (called_memory _ _ _)
    · exact hpacket _ _ _ ((acts_called _ _).trans (acts_setMemory _ _ _)) (setMemory_memory _ _ _)
  · exact (unacking_sendPackageByTable ipt hcontent htype (by decide) (by decide)).acts

/-- The acknowledgement, made in `buf`. -/
def acking (s : Node) : Node :=
  ((s.emit (.sendAck (ridAt s.uip_appdata 0))).initPackage .ACKNOWLEDGE_M).write .buf PACKAGE_HEAD
    (load s.uip_appdata 0 RID_SIZE)

theorem sendAck_eq (s : Node) :
    s.sendAck =
      match s.table.findTableByIp (ems.uidAt s.uip_appdata PACKAGE_HEAD) with
      | some ipt => s.acking.sendPackageByTable .uip_appdata (PACKAGE_HEAD + RID_SIZE) ipt
      | none => s.acking := rfl

theorem acts_acking (s : Node) :
    Acts s s.acking [.sendAck (ridAt s.uip_appdata 0), .initPackage .ACKNOWLEDGE_M s.nextRid] :=
  ((Acts.emit s rfl rfl).trans (acts_initPackage _ rfl)).trans (acts_write _ _ _ _)

/-- What `sendAck` sends is what has been received, or what has just been sent. -/
theorem sendAck_plain {s : Node} (hplain : PlainAt s.uip_appdata) :
    ∃ new, Acts s s.sendAck new ∧ ∀ p ∈ new.filterMap Event.sent?, PlainPackage p := by
  rw [sendAck_eq]
  split
  · rename_i ipt _
    obtain ⟨new, hacts, hsent⟩ := sendPackageByTable_plain (s := s.acking) hplain ipt
    exact ⟨_, (acts_acking s).trans hacts, by simpa [Event.sent?] using hsent⟩
  · exact ⟨_, acts_acking s, by simp [Event.sent?]⟩

/-- Every package a node sends while it handles an identified package or a
command is plain. -/
theorem receive_plain {s : Node} {m : Datagram}
    (htype : m.type = some .IDENTIFIED_PACKAGE_M ∨ m.type = some .COMMAND_M) :
    ∀ p ∈ s.sent (s.receive m), PlainPackage p := by
  have hletter : PlainAt m.data := by
    have hcode : m.letter ≠ PackageType.ACKNOWLEDGE_M.code ∧
        m.letter ≠ PackageType.MESH_M.code := by
      obtain h | h := htype <;> rw [PackageType.code_of_ofCode h] <;> decide
    exact plain_of_ne hcode.1 hcode.2
  have hseen : Acts s (s.seen m) [.registerRid m.rid] := acts_seen s m
  have hreply : ∀ s', Unacking (s.seen m) s' → ∀ p ∈ s.sent ((s'.registerIp
      (ems.uidAt s'.uip_appdata PACKAGE_HEAD) s'.srcipaddr none).sendAck), PlainPackage p := by
    intro s' hunacking p hp
    obtain ⟨first, hfirst, hplain⟩ := hunacking.acts
    obtain ⟨last, hlast, hplain'⟩ := sendAck_plain (s := s'.registerIp
      (ems.uidAt s'.uip_appdata PACKAGE_HEAD) s'.srcipaddr none) (hunacking.kept hletter)
    have hlearnt : Acts s' (s'.registerIp (ems.uidAt s'.uip_appdata PACKAGE_HEAD) s'.srcipaddr
      none) [] := .of_eq rfl rfl rfl
    have hacts := hseen.trans (hfirst.trans (hlearnt.trans hlast))
    rw [sent, hacts.since_eq] at hp
    simp only [List.filterMap_append, List.filterMap_cons, Event.sent?, List.filterMap_nil,
      List.nil_append] at hp
    exact (List.mem_append.mp hp).elim (hplain p) (hplain' p)
  by_cases haccepts : s.Accepts m
  · rw [haccepts.receive_eq]
    obtain h | h := htype
    · rw [h]
      apply hreply _
      split
      · exact .of_acts (acts_printIdentified _ _) rfl rfl
      · exact .refl _
    · rw [h]
      apply hreply _
      split
      · exact unacking_executeCmd _ _ _
      · exact .refl _
  · obtain heq | ⟨_, heq⟩ := receive_of_rejects haccepts
    · have hnone : Acts s (s.arrived m) [] := .of_eq rfl rfl rfl
      rw [heq, sent, hnone.since_eq]
      simp
    · rw [heq, sent, hseen.since_eq]
      simp [Event.sent?]

/-- No identified package and no command is answered with an acknowledgement:
`sendAck` makes one in `buf` and sends the beginning of the package received. -/
theorem packages_unanswered {s : Node} {m : Datagram}
    (htype : m.type = some .IDENTIFIED_PACKAGE_M ∨ m.type = some .COMMAND_M) : ¬ s.Answers m := by
  rintro ⟨p, hp, hack, _⟩
  exact (receive_plain htype p hp).not_acknowledges m.rid hack

/-- A node that hears `fe80::1` for the first time. -/
def listener : Node := boot (linkLocal 0 2) (ems.nameOf [97]) (fun n => UInt8.ofNat (n + 1))

/-- The source gets the first nine bytes of its own package back. -/
theorem listener_echoes :
    (listener.receive retransmitted).table.findTableByIp (linkLocal 0 1) = some 0 ∧
      listener.sent (listener.receive retransmitted) =
        [[12, 2, 3, 4, PackageType.IDENTIFIED_PACKAGE_M.code, 0xfe, 0x80, 0, 0]] := by
  decide

theorem listener_unanswered : ¬ listener.Answers retransmitted :=
  packages_unanswered (.inl (by decide))

end Node

end concretid.com
