import Mathlib.Data.Fintype.Pigeonhole
import ConcretID.Com.Retries
import ConcretID.Com.ReverseRoutes

open concretid.memory
open concretid.ems (Uid uidAt linkLocal)

namespace concretid.com

/-- The bytes of the body that the handling of a type reads. -/
def PackageType.needs : PackageType → Nat
  | ANNOUNCEMENT_M | IP_REQUEST_M | IDENTIFIED_PACKAGE_M | COMMAND_M => UID_SIZE
  | ACKNOWLEDGE_M => RID_SIZE
  | MESH_M => MESH_HEAD_SIZE
  | NAME_REQUEST_M | PACKAGE_M | NEIGHBOR_REQUEST_M => 0

/-- A package whose body is shorter than its type needs. -/
def Datagram.Malformed (m : Datagram) : Prop :=
  ∃ t, m.type = some t ∧ m.len < PACKAGE_HEAD + t.needs

/-- The same package from the same node, whatever lies behind it. -/
structure Datagram.Alike (m m' : Datagram) : Prop where
  src : m'.src = m.src
  len : m'.len = m.len
  data : ∀ i < m.len, m'.data i = m.data i

/-- Whether a call sends or prints. -/
def Event.leaves : Event → Bool
  | .SendPackage _ _ _ | .SharePackage _ _ | .uart0 _ | .list _ _ _ => true
  | _ => false

namespace Node

/-- A node without the receive buffer, and with what it has sent and printed. -/
def outcome (s : Node) : Node :=
  { s with
    uip_appdata := fun _ => 0
    trace := s.trace.filter Event.leaves }

/-- A malformed package leaves the tables and the name as they are, and what
lies behind it makes no difference. -/
structure Withstands (s : Node) (m : Datagram) : Prop where
  table : (s.receive m).table = s.table
  sendOut : (s.receive m).sendOut = s.sendOut
  myName : (s.receive m).myName = s.myName
  received : ∀ m', m.Alike m' → (s.receive m').outcome = (s.receive m).outcome

/-- The packages whose missing bytes are not used, or cannot make a difference:
those of the types that check their length, a request for an address that is not
that of the node as far as it goes, and an acknowledgement of an id that no
waiting slot begins with. -/
def Tolerates (s : Node) (m : Datagram) : Prop :=
  match m.type with
  | some .IDENTIFIED_PACKAGE_M | some .COMMAND_M => False
  | some .IP_REQUEST_M => ¬ load m.data PACKAGE_HEAD (m.len - PACKAGE_HEAD) <+: s.myIp.toList
  | some .ACKNOWLEDGE_M => ∀ i, 0 < (s.sendOut i).timeLeft →
      ¬ load m.data PACKAGE_HEAD (m.len - PACKAGE_HEAD) <+: load (s.sendOut i).data 0 RID_SIZE
  | _ => True

end Node

/-- The last byte of an address at the front of a body. -/
abbrev lastByte : Nat := PACKAGE_HEAD + (UID_SIZE - 1)

theorem uidAt_lastByte {d e : Nat → UInt8} (h : uidAt d PACKAGE_HEAD = uidAt e PACKAGE_HEAD) :
    d lastByte = e lastByte := by
  have hlast := congrArg (fun uid : Uid => uid.toList[UID_SIZE - 1]?) h
  exact Option.some.inj hlast

namespace Datagram

theorem Alike.refl (m : Datagram) : m.Alike m := ⟨rfl, rfl, fun _ _ => rfl⟩

theorem Alike.trans {m m' m'' : Datagram} (h : m.Alike m') (h' : m'.Alike m'') : m.Alike m'' :=
  ⟨h'.src.trans h.src, h'.len.trans h.len,
    fun i hi => (h'.data i (by rw [h.len]; exact hi)).trans (h.data i hi)⟩

theorem Alike.head {m m' : Datagram} (h : m.Alike m') (hlen : PACKAGE_HEAD ≤ m.len) :
    m'.rid = m.rid ∧ m'.letter = m.letter := by
  refine ⟨Node.ridAt_congr fun i hi => h.data i ?_, h.data RID_SIZE hlen⟩
  exact Nat.lt_of_lt_of_le hi (Nat.le_trans (Nat.le_succ _) hlen)

theorem Alike.package {m m' : Datagram} (h : m.Alike m') : m'.package = m.package := by
  rw [Datagram.package, Datagram.package, h.len]
  refine load_congr fun i hi => ?_
  rw [Nat.zero_add]
  exact h.data i (Nat.lt_of_lt_of_le hi (Nat.min_le_left _ _))

theorem Alike.body {m m' : Datagram} (h : m.Alike m') :
    load m'.data PACKAGE_HEAD (m.len - PACKAGE_HEAD) = load m.data PACKAGE_HEAD (m.len - PACKAGE_HEAD) :=
  load_congr fun i hi => h.data _ (by omega)

/-- A package is alike with other bytes behind it. -/
theorem alike_update (m : Datagram) {k : Nat} (hk : m.len ≤ k) (x : UInt8) :
    m.Alike { m with data := Function.update m.data k x } :=
  ⟨rfl, rfl, fun _ hi => Function.update_of_ne (by omega) _ _⟩

/-- A body that is the beginning of some bytes is completed to them. -/
theorem alike_completed (m : Datagram) {bytes : List UInt8} (hlen : PACKAGE_HEAD ≤ m.len)
    (hbytes : load m.data PACKAGE_HEAD (m.len - PACKAGE_HEAD) <+: bytes) :
    m.Alike { m with data := store m.data PACKAGE_HEAD bytes } := by
  refine ⟨rfl, rfl, fun i hi => ?_⟩
  dsimp only
  by_cases hhead : i < PACKAGE_HEAD
  · exact store_of_lt _ _ hhead
  · have hlt : i - PACKAGE_HEAD < m.len - PACKAGE_HEAD := by omega
    have hbyte : bytes[i - PACKAGE_HEAD]? = some (m.data i) := by
      obtain ⟨rest, hrest⟩ := hbytes
      rw [← hrest, List.getElem?_append_left (by rw [load_length]; exact hlt), load_getElem?, if_pos hlt,
        Nat.add_sub_cancel' (Nat.not_lt.mp hhead)]
    rw [store, if_neg hhead, hbyte, Option.getD_some]

end Datagram

namespace Node

/-! ## Packages that are dropped -/

theorem outcome_arrived {s : Node} {m m' : Datagram} (h : m.Alike m') :
    (s.arrived m').outcome = (s.arrived m).outcome := by
  rw [outcome, outcome, arrived, arrived, h.src]

theorem outcome_seen {s : Node} {m m' : Datagram} (h : m.Alike m') (hlen : PACKAGE_HEAD ≤ m.len) :
    (s.seen m').outcome = (s.seen m).outcome := by
  rw [outcome, outcome, seen, seen, h.src, (h.head hlen).1]
  rfl

theorem outcome_emit (s : Node) {e : Event} (he : e.leaves = false) : (s.emit e).outcome = s.outcome := by
  simp [outcome, emit, he]

/-- A package alike is accepted alike. -/
theorem Accepts.alike {s : Node} {m m' : Datagram} (h : s.Accepts m) (halike : m.Alike m') :
    s.Accepts m' ∧ m'.rid = m.rid ∧ m'.type = m.type := by
  obtain ⟨hrid, hletter⟩ := halike.head h.len
  have htype : m'.type = m.type := by rw [Datagram.type, Datagram.type, hletter]
  refine ⟨⟨?_, ?_, ?_, ?_⟩, hrid, htype⟩
  · rw [halike.src]
    exact h.src
  · rw [halike.len]
    exact h.len
  · rw [hrid]
    exact h.fresh
  · rw [hrid, htype]
    exact h.retried

theorem rejected_withstands {s : Node} {m : Datagram} (h : ¬ s.Accepts m) : s.Withstands m := by
  have hrejected := receive_of_rejects h
  refine ⟨?_, ?_, ?_, fun m' halike => ?_⟩
  · obtain heq | ⟨-, heq⟩ := hrejected <;> rw [heq] <;> rfl
  · obtain heq | ⟨-, heq⟩ := hrejected <;> rw [heq] <;> rfl
  · obtain heq | ⟨-, heq⟩ := hrejected <;> rw [heq] <;> rfl
  · have harrived := outcome_arrived (s := s) halike
    rw [receive_eq s m, receive_eq s m', halike.src, halike.len]
    by_cases hsrc : s.blocked = m.src
    · rw [if_pos hsrc, if_pos hsrc]
      exact harrived
    rw [if_neg hsrc, if_neg hsrc]
    by_cases hlen : m.len < PACKAGE_HEAD
    · rw [if_pos hlen, if_pos hlen]
      exact harrived
    obtain ⟨hrid, hletter⟩ := halike.head (Nat.not_lt.mp hlen)
    rw [if_neg hlen, if_neg hlen, hrid, hletter]
    by_cases hfresh : s.rids.existsRid m.rid = 1
    · rw [if_pos hfresh, if_pos hfresh]
      exact harrived
    rw [if_neg hfresh, if_neg hfresh]
    by_cases hswitch : m.letter ≠ PackageType.PACKAGE_M.code ∧ s.rids.existsRid m.rid = 2
    · rw [if_pos hswitch, if_pos hswitch]
      exact outcome_seen halike (Nat.not_lt.mp hlen)
    · exact absurd (accepts_of_tests hsrc hlen hfresh hswitch) h

/-- A package withstood: what any package alike comes to keeps the tables, and
shows the same. -/
theorem withstands_of_receive {s : Node} {m : Datagram} {received : Datagram → Node}
    (hreceive : ∀ m', m.Alike m' → s.receive m' = received m') (htable : (received m).table = s.table)
    (hsendOut : (received m).sendOut = s.sendOut) (hmyName : (received m).myName = s.myName)
    (houtcome : ∀ m', m.Alike m' → (received m').outcome = (received m).outcome) :
    s.Withstands m := by
  have hown := hreceive m (.refl m)
  refine ⟨?_, ?_, ?_, fun m' halike => ?_⟩
  · rw [hown, htable]
  · rw [hown, hsendOut]
  · rw [hown, hmyName]
  · rw [hreceive m' halike, hown, houtcome m' halike]

/-! ## Types that check their length -/

theorem announcement_withstands {s : Node} {m : Datagram} (h : s.Accepts m)
    (htype : m.type = some .ANNOUNCEMENT_M) (hshort : m.len < PACKAGE_HEAD + UID_SIZE) :
    s.Withstands m := by
  have hreceive : ∀ m', m.Alike m' →
      s.receive m' = (s.seen m').write .uip_appdata (PACKAGE_HEAD + (m.len - PACKAGE_HEAD)) [0] := by
    intro m' halike
    obtain ⟨haccepts, -, htype'⟩ := h.alike halike
    rw [haccepts.receive_eq, htype', htype, halike.len, handle]
    apply if_pos
    have hlen := h.len
    simp only [PACKAGE_HEAD, RID_SIZE, UID_SIZE] at hlen hshort ⊢
    omega
  refine withstands_of_receive hreceive rfl rfl rfl fun m' halike => ?_
  exact outcome_seen halike h.len

theorem mesh_withstands {s : Node} {m : Datagram} (h : s.Accepts m)
    (htype : m.type = some .MESH_M) (hshort : m.len < PACKAGE_HEAD + MESH_HEAD_SIZE) :
    s.Withstands m := by
  have hreceive : ∀ m', m.Alike m' → s.receive m' = (s.seen m').emit (.forward m.rid) := by
    intro m' halike
    obtain ⟨haccepts, hrid, htype'⟩ := h.alike halike
    rw [haccepts.receive_eq, htype', htype, halike.len, handle, forward,
      Nat.sub_add_cancel h.len, ← hrid]
    exact if_pos hshort
  refine withstands_of_receive hreceive rfl rfl rfl fun m' halike => ?_
  rw [outcome_emit _ rfl, outcome_emit _ rfl]
  exact outcome_seen halike h.len

/-! ## Requests for an address -/

/-- The bytes at `data` are an address that begins with what has been received. -/
theorem body_prefix {m : Datagram} {uid : Uid} (hshort : m.len < PACKAGE_HEAD + UID_SIZE)
    (huid : uidAt m.data PACKAGE_HEAD = uid) :
    load m.data PACKAGE_HEAD (m.len - PACKAGE_HEAD) <+: uid.toList := by
  have hlist : load m.data PACKAGE_HEAD UID_SIZE = uid.toList := congrArg List.Vector.toList huid
  rw [← hlist, ← load_take _ _ (show m.len - PACKAGE_HEAD ≤ UID_SIZE by omega)]
  exact List.take_prefix _ _

theorem outcome_pass {s : Node} {m m' : Datagram} (h : m.Alike m') (hlen : PACKAGE_HEAD ≤ m.len) :
    ((s.seen m').SharePackage .uip_appdata m.len).outcome =
      ((s.seen m).SharePackage .uip_appdata m.len).outcome := by
  have hrid : ridAt m'.data 0 = ridAt m.data 0 := (h.head hlen).1
  have hpackage : load m'.data 0 (min m.len UIP_BUFSIZE) = load m.data 0 (min m.len UIP_BUFSIZE) := by
    have hpackage := h.package
    rw [Datagram.package, Datagram.package, h.len] at hpackage
    exact hpackage
  simp only [outcome, SharePackage, uip_udp_packet_send, packet, memory, seen, registerRid, emit,
    Datagram.rid, hrid, hpackage, h.src]

theorem seen_pass (s : Node) (m : Datagram) :
    ((s.seen m).SharePackage .uip_appdata m.len).table = s.table ∧
      ((s.seen m).SharePackage .uip_appdata m.len).sendOut = s.sendOut ∧
      ((s.seen m).SharePackage .uip_appdata m.len).myName = s.myName := by
  dsimp only [SharePackage, uip_udp_packet_send, registerRid, emit, seen]
  exact ⟨rfl, rfl, rfl⟩

/-- What a request for an address comes to. -/
theorem receive_ip_request {s : Node} {m m' : Datagram} (h : s.Accepts m)
    (htype : m.type = some .IP_REQUEST_M) (halike : m.Alike m') :
    s.receive m' =
      if uidAt m'.data PACKAGE_HEAD = s.myIp then (s.seen m').announceMe
      else (s.seen m').SharePackage .uip_appdata m.len := by
  obtain ⟨haccepts, -, htype'⟩ := h.alike halike
  rw [haccepts.receive_eq, htype', htype, halike.len, handle, Nat.sub_add_cancel h.len]
  rfl

/-- What is sent and printed shows whether the address was that of the node. -/
theorem outcome_announceMe_ne (s : Node) (m m' : Datagram) (len : Nat) :
    (s.seen m').announceMe.outcome ≠ ((s.seen m).SharePackage .uip_appdata len).outcome := by
  intro heq
  have htrace := congrArg Node.trace heq
  dsimp only [outcome] at htrace
  rw [(acts_announceMe _).trace_eq, (acts_pass _ _).trace_eq, (acts_seen s m).trace_eq,
    (acts_seen s m').trace_eq] at htrace
  simp [sharing, Event.leaves, List.filter_cons] at htrace

theorem ip_request_withstands_iff {s : Node} {m : Datagram} (h : s.Accepts m)
    (htype : m.type = some .IP_REQUEST_M) (hshort : m.len < PACKAGE_HEAD + UID_SIZE) :
    s.Withstands m ↔
      ¬ load m.data PACKAGE_HEAD (m.len - PACKAGE_HEAD) <+: s.myIp.toList := by
  constructor
  · intro hwithstands hprefix
    have hlen := h.len
    simp only [PACKAGE_HEAD, RID_SIZE, UID_SIZE] at hlen hshort
    have hsame := m.alike_completed h.len hprefix
    have hown : uidAt (store m.data PACKAGE_HEAD s.myIp.toList) PACKAGE_HEAD = s.myIp := by
      apply List.Vector.toList_injective
      have hread := load_store m.data PACKAGE_HEAD s.myIp.toList
      rw [List.Vector.toList_length] at hread
      exact hread
    have hchanged := hsame.trans (Datagram.alike_update _ (k := lastByte) (by exact Nat.le_of_lt_succ hshort)
      (store m.data PACKAGE_HEAD s.myIp.toList lastByte + 1))
    have hother : uidAt (Function.update (store m.data PACKAGE_HEAD s.myIp.toList) lastByte
        (store m.data PACKAGE_HEAD s.myIp.toList lastByte + 1)) PACKAGE_HEAD ≠ s.myIp := by
      rw [← hown]
      intro heq
      have hlast := uidAt_lastByte heq
      rw [Function.update_self] at hlast
      cases (UInt8.add_right_inj _).mp (hlast.trans (UInt8.add_zero _).symm)
    have houtcome := (hwithstands.received _ hsame).trans (hwithstands.received _ hchanged).symm
    rw [receive_ip_request h htype hsame, receive_ip_request h htype hchanged] at houtcome
    rw [if_pos hown, if_neg hother] at houtcome
    exact outcome_announceMe_ne _ _ _ _ houtcome
  · intro hother
    have hreceive : ∀ m', m.Alike m' →
        s.receive m' = (s.seen m').SharePackage .uip_appdata m.len := by
      intro m' halike
      rw [receive_ip_request h htype halike]
      refine if_neg fun heq => hother ?_
      have hbody := body_prefix (halike.len.trans_lt hshort) heq
      rw [halike.len, halike.body] at hbody
      exact hbody
    obtain ⟨htable, hsendOut, hmyName⟩ := s.seen_pass m
    refine withstands_of_receive hreceive htable hsendOut hmyName fun m' halike => ?_
    exact outcome_pass halike h.len

/-! ## Acknowledgements -/

theorem receive_acknowledgement {s : Node} {m m' : Datagram} (h : s.Accepts m)
    (htype : m.type = some .ACKNOWLEDGE_M) (halike : m.Alike m') :
    s.receive m' = (s.seen m').acknowledge (ridAt m'.data PACKAGE_HEAD) := by
  obtain ⟨haccepts, -, htype'⟩ := h.alike halike
  rw [haccepts.receive_eq, htype', htype, halike.len, handle]
  rfl

theorem ridAt_eq_iff {d e : Nat → UInt8} {offset from' : Nat} :
    ridAt d offset = ridAt e from' ↔ load d offset RID_SIZE = load e from' RID_SIZE := by
  simp [ridAt, load, List.range_succ]

theorem acknowledge_of_unknown {s : Node} {rid : Rid}
    (h : ∀ i, 0 < (s.sendOut i).timeLeft → rid ≠ ridAt (s.sendOut i).data 0) :
    s.acknowledge rid = s.emit (.acknowledge rid) := by
  rw [acknowledge]
  dsimp only
  split
  · rename_i i hfind
    have hfound := List.find?_some hfind
    rw [decide_eq_true_eq] at hfound
    exact absurd hfound.2 (h i hfound.1)
  · rfl

theorem acknowledge_sendOut_ne {s : Node} {rid : Rid} {i : Fin SENDOUT_SIZE}
    (hwaits : 0 < (s.sendOut i).timeLeft) (hrid : rid = ridAt (s.sendOut i).data 0) :
    (s.acknowledge rid).sendOut ≠ s.sendOut := by
  intro hkept
  rw [acknowledge] at hkept
  dsimp only at hkept
  split at hkept
  · rename_i j hfind
    have hfreed := congrArg SendBuf.timeLeft (congrFun hkept j)
    rw [setSlot_self] at hfreed
    have hfound := List.find?_some hfind
    rw [decide_eq_true_eq] at hfound
    exact absurd hfreed (Int.ne_of_lt hfound.1)
  · rename_i hnone
    exact List.find?_eq_none.mp hnone i (List.mem_finRange i) (decide_eq_true ⟨hwaits, hrid⟩)

theorem acknowledgement_withstands_iff {s : Node} {m : Datagram} (h : s.Accepts m)
    (htype : m.type = some .ACKNOWLEDGE_M) (hshort : m.len < PACKAGE_HEAD + RID_SIZE) :
    s.Withstands m ↔ ∀ i, 0 < (s.sendOut i).timeLeft →
      ¬ load m.data PACKAGE_HEAD (m.len - PACKAGE_HEAD) <+: load (s.sendOut i).data 0 RID_SIZE := by
  constructor
  · intro hwithstands i hwaits hprefix
    have hsame := m.alike_completed h.len hprefix
    have hrid : ridAt (store m.data PACKAGE_HEAD (load (s.sendOut i).data 0 RID_SIZE)) PACKAGE_HEAD =
        ridAt (s.sendOut i).data 0 := by
      have hread := load_store m.data PACKAGE_HEAD (load (s.sendOut i).data 0 RID_SIZE)
      rw [load_length] at hread
      exact ridAt_eq_iff.mpr hread
    have hkept := (congrArg Node.sendOut (hwithstands.received _ hsame)).trans hwithstands.sendOut
    change (s.receive _).sendOut = s.sendOut at hkept
    rw [receive_acknowledgement h htype hsame] at hkept
    exact acknowledge_sendOut_ne (s := s.seen _) hwaits hrid hkept
  · intro hother
    have hreceive : ∀ m', m.Alike m' →
        s.receive m' = (s.seen m').emit (.acknowledge (ridAt m'.data PACKAGE_HEAD)) := by
      intro m' halike
      rw [receive_acknowledgement h htype halike]
      refine acknowledge_of_unknown fun i hwaits hrid => hother i hwaits ?_
      have hread : load m'.data PACKAGE_HEAD RID_SIZE = load (s.sendOut i).data 0 RID_SIZE :=
        ridAt_eq_iff.mp hrid
      rw [← hread, ← halike.body, ← load_take _ _ (show m.len - PACKAGE_HEAD ≤ RID_SIZE by omega)]
      exact List.take_prefix _ _
    refine withstands_of_receive hreceive rfl rfl rfl fun m' halike => ?_
    rw [outcome_emit _ rfl, outcome_emit _ rfl]
    exact outcome_seen halike h.len

/-! ## Types that do not check their length -/

/-- A word ends at a NUL or at a space. -/
theorem word_end (d : Nat → UInt8) (offset n : Nat)
    (hlt : ((stringFrom d offset n).takeWhile (· ≠ 0x20)).length < n) :
    d (offset + ((stringFrom d offset n).takeWhile (· ≠ 0x20)).length) = 0 ∨
      d (offset + ((stringFrom d offset n).takeWhile (· ≠ 0x20)).length) = 0x20 := by
  induction n generalizing offset with
  | zero => exact absurd hlt (Nat.not_lt_zero _)
  | succ n ih =>
    rw [stringFrom] at hlt ⊢
    by_cases hnul : d offset = 0
    · rw [if_pos hnul]
      exact .inl hnul
    · rw [if_neg hnul] at hlt ⊢
      by_cases hspace : d offset = 0x20
      · rw [List.takeWhile_cons_of_neg (by simpa using hspace)]
        exact .inr hspace
      · rw [List.takeWhile_cons_of_pos (by simpa using hspace), List.length_cons] at hlt ⊢
        have hrest := ih (offset + 1) (Nat.lt_of_succ_lt_succ hlt)
        rw [Nat.add_assoc, Nat.add_comm 1] at hrest
        exact hrest

/-- A slot that was free has been filled. -/
def Fills (s s' : Node) : Prop := ∃ i, (s.sendOut i).timeLeft = 0 ∧ (s'.sendOut i).timeLeft ≠ 0

theorem Fills.of_sendOut {s s₁ s' : Node} (h : s₁.Fills s') (hsendOut : s₁.sendOut = s.sendOut) :
    s.Fills s' := by
  obtain ⟨i, hfree, hfilled⟩ := h
  rw [hsendOut] at hfree
  exact ⟨i, hfree, hfilled⟩

theorem safeSendByName_fills (s : Node) (data : Region) (len : Nat) (name : List UInt8) :
    (s.safeSendByName data len name).1 = s ∨ s.Fills (s.safeSendByName data len name).1 := by
  cases hfree : s.newSendBuf with
  | none =>
    refine .inl ?_
    rw [safeSendByName, hfree]
  | some i =>
    refine .inr ⟨i, newSendBuf_free hfree, ?_⟩
    obtain ⟨key, timeLeft, htime, heq⟩ := safeSendByName_eq hfree data len name
    rw [heq]
    obtain ⟨new, hholds⟩ := holds_CheckSendOut1 (s.setSlot i
      { key, data := store (s.sendOut i).data 0 (load (s.memory data) 0 len), len, timeLeft }) i
    apply hholds.used
    rw [setSlot_self]
    exact filled_used htime

/-- The commands that send a text fill a slot, or leave all of the receive buffer
but the space behind the name. -/
theorem sendText_keeps {s : Node} {cmd k : Nat} (hk : k < cmd + XDATA_SIZE)
    (hspace : s.uip_appdata k ≠ 0x20) (t : PackageType) (room counted : Nat) :
    (s.sendText .uip_appdata cmd t room counted).uip_appdata k = s.uip_appdata k ∨
      s.Fills (s.sendText .uip_appdata cmd t room counted) := by
  rw [sendText]
  dsimp only
  split
  · exact .inl rfl
  · rename_i hnul
    have hne : k ≠ cmd + (wordAt s.uip_appdata cmd).length := by
      intro heq
      rcases word_end s.uip_appdata cmd XDATA_SIZE (by rw [wordAt, stringAt] at heq; omega)
        with hend | hend
      · exact hnul hend
      · exact hspace (by rw [heq]; exact hend)
    have hended : ∀ bytes : List UInt8,
        (((s.write .uip_appdata (cmd + (wordAt s.uip_appdata cmd).length) [0]).initPackage t).write .buf
          (packOffset t) bytes).uip_appdata k = s.uip_appdata k := by
      intro bytes
      obtain hlt | hgt := Nat.lt_or_gt_of_ne hne
      · exact store_of_lt _ _ hlt
      · exact store_of_ge _ _ hgt
    have hsent : ∀ (bytes : List UInt8) (len : Nat) (name : List UInt8) (s' : Node),
        s' = ((((s.write .uip_appdata (cmd + (wordAt s.uip_appdata cmd).length) [0]).initPackage t).write
          .buf (packOffset t) bytes).safeSendByName .buf len name).1 →
        s'.uip_appdata k = s.uip_appdata k ∨ s.Fills s' := by
      rintro bytes len name s' rfl
      rcases safeSendByName_fills (((s.write .uip_appdata (cmd + (wordAt s.uip_appdata cmd).length)
        [0]).initPackage t).write .buf (packOffset t) bytes) .buf len name with hfull | hfills
      · rw [hfull]
        exact .inl (hended bytes)
      · refine .inr (hfills.of_sendOut ?_)
        dsimp only [initPackage, write, setMemory, emit]
    split
    · exact hsent _ _ _ _ rfl
    · exact hsent _ _ _ _ rfl

/-- A command fills a slot, or leaves the receive buffer behind its first byte,
but for the space behind a name. -/
theorem executeCmd_keeps {s : Node} {offset k : Nat} (hbehind : PACKAGE_HEAD + 1 ≤ k)
    (hk : k < offset + 1 + XDATA_SIZE) (hspace : s.uip_appdata k ≠ 0x20) :
    (s.executeCmd .uip_appdata offset).uip_appdata k = s.uip_appdata k ∨
      s.Fills (s.executeCmd .uip_appdata offset) := by
  rw [executeCmd]
  dsimp only
  split
  · exact .inl rfl
  · exact .inl rfl
  · exact sendText_keeps (s := s.emit _) hk hspace _ _ _
  · refine .inl ?_
    rw [discoverCmd_eq, share_uip_appdata _ rfl (depthOf_length _)]
    apply store_of_ge _ _
    have hlength := depthOf_le (s.memory .uip_appdata (offset + 1))
    simp only [made, Rid.bytes, List.length_append, List.length_cons, List.length_nil]
    simp only [PACKAGE_HEAD, RID_SIZE] at hbehind
    change 0 + (0 + 1 + 1 + 1 + 1 + (0 + 1) + (depthOf (s.memory .uip_appdata (offset + 1))).length) ≤ k
    omega
  · refine .inl (congrFun ?_ k)
    refine List.foldlRecOn _ _ (motive := fun s' : Node => s'.uip_appdata = s.uip_appdata) rfl ?_
    intro s' hkept i _
    exact hkept
  · refine .inl ?_
    rw [blockCmd]
    split <;> rfl
  · exact sendText_keeps (s := s.emit _) hk hspace _ _ _
  · exact .inl rfl

theorem sendAck_table (s : Node) : s.sendAck.table = s.table := by
  rw [sendAck]
  split
  · rw [sendPackageByTable_table]
    rfl
  · rfl

/-- A source that is registered, and acknowledged, has an entry. -/
theorem registered_entry (s : Node) :
    ∃ j, ((s.registerIp (uidAt s.uip_appdata PACKAGE_HEAD) s.srcipaddr none).sendAck.table.iptable
      j).ipaddr.toList[UID_SIZE - 1]? = some (s.uip_appdata lastByte) := by
  obtain ⟨j, hfind, -⟩ := s.table.register_routes
    { ip := uidAt s.uip_appdata PACKAGE_HEAD, link := s.srcipaddr, d := none }
  have hip := IpTable.findTableByIp_ipaddr hfind
  refine ⟨j, ?_⟩
  rw [sendAck_table]
  exact congrArg (fun uid : Uid => uid.toList[UID_SIZE - 1]?) hip

/-- An identified package or a command that fills no slot has an address entered
that ends with a byte behind the package. -/
theorem malformed_entry {s : Node} {m : Datagram} (h : s.Accepts m)
    (htype : m.type = some .IDENTIFIED_PACKAGE_M ∨ m.type = some .COMMAND_M)
    (hspace : m.data lastByte ≠ 0x20) (hkept : (s.receive m).sendOut = s.sendOut) :
    ∃ j, ((s.receive m).table.iptable j).ipaddr.toList[UID_SIZE - 1]? = some (m.data lastByte) := by
  have hentry : ∀ s' : Node, s'.uip_appdata lastByte = m.data lastByte →
      ∃ j, ((s'.registerIp (uidAt s'.uip_appdata PACKAGE_HEAD) s'.srcipaddr none).sendAck.table.iptable
        j).ipaddr.toList[UID_SIZE - 1]? = some (m.data lastByte) := by
    intro s' hbyte
    rw [← hbyte]
    exact s'.registered_entry
  have hunfilled : ∀ s' : Node, (s.seen m).Fills s' →
      ((s'.registerIp (uidAt s'.uip_appdata PACKAGE_HEAD) s'.srcipaddr none).sendAck).sendOut ≠
        s.sendOut := by
    rintro s' ⟨i, hfree, hfilled⟩ heq
    have hslot := (frames_sendAck (i := i)
      (s'.registerIp (uidAt s'.uip_appdata PACKAGE_HEAD) s'.srcipaddr none)).slot
    rw [heq] at hslot
    exact hfilled ((congrArg SendBuf.timeLeft hslot).symm.trans hfree)
  rw [h.receive_eq] at hkept ⊢
  obtain htype | htype := htype
  · rw [htype, handle]
    apply hentry _
    split <;> rfl
  · rw [htype, handle] at hkept ⊢
    split at hkept
    · rename_i hnew
      rw [if_pos hnew]
      have hkeeps := executeCmd_keeps (s := s.seen m) (k := lastByte) (by decide)
        (show lastByte < PACKAGE_HEAD + 1 + XDATA_SIZE by decide) hspace
      obtain hbyte | hfills := hkeeps
      · exact hentry _ hbyte
      · exact absurd hkept (hunfilled _ hfills)
    · rename_i hknown
      rw [if_neg hknown]
      exact hentry _ rfl

/-- No table has room for the addresses that the bytes behind such a package can
make of it. -/
theorem unchecked_not_withstands {s : Node} {m : Datagram} (h : s.Accepts m)
    (htype : m.type = some .IDENTIFIED_PACKAGE_M ∨ m.type = some .COMMAND_M)
    (hshort : m.len < PACKAGE_HEAD + UID_SIZE) : ¬ s.Withstands m := by
  intro hwithstands
  have hbehind : m.len ≤ lastByte := Nat.le_of_lt_succ hshort
  have hspace : ∀ n : Fin (IPTABLE_SIZE + 1), UInt8.ofNat n.val ≠ 0x20 := by decide
  have hdistinct : ∀ n k : Fin (IPTABLE_SIZE + 1), UInt8.ofNat n.val = UInt8.ofNat k.val → n = k := by
    decide
  have hentries : ∀ n : Fin (IPTABLE_SIZE + 1), ∃ j,
      (s.table.iptable j).ipaddr.toList[UID_SIZE - 1]? = some (UInt8.ofNat n.val) := by
    intro n
    have hsame := m.alike_update hbehind (UInt8.ofNat n.val)
    obtain ⟨haccepts, -, htype'⟩ := h.alike hsame
    have houtcome := hwithstands.received _ hsame
    have htable := (congrArg Node.table houtcome).trans hwithstands.table
    have hkept := (congrArg Node.sendOut houtcome).trans hwithstands.sendOut
    have hbyte : Function.update m.data lastByte (UInt8.ofNat n.val) lastByte = UInt8.ofNat n.val :=
      Function.update_self _ _ _
    obtain ⟨j, hentry⟩ := malformed_entry haccepts (by rw [htype']; exact htype)
      (ne_of_eq_of_ne hbyte (hspace n)) hkept
    refine ⟨j, ?_⟩
    rw [← hbyte, ← htable]
    exact hentry
  choose entry hentry using hentries
  obtain ⟨n, k, hne, hsame⟩ := Fintype.exists_ne_map_eq_of_card_lt entry (by simp)
  refine hne (hdistinct n k (Option.some.inj ?_))
  rw [← hentry n, ← hentry k, hsame]

/-- A package that is too short does no harm exactly if it is dropped, or of a type
that checks its length, or by chance tells the missing bytes from those compared
with them. -/
theorem withstands_iff {s : Node} {m : Datagram} (hshort : m.Malformed) :
    s.Withstands m ↔ (s.Accepts m → s.Tolerates m) := by
  by_cases haccepts : s.Accepts m
  · rw [forall_prop_of_true haccepts, Tolerates]
    obtain ⟨t, htype, hlen⟩ := hshort
    rw [htype]
    cases t with
    | ANNOUNCEMENT_M => exact iff_of_true (announcement_withstands haccepts htype hlen) trivial
    | MESH_M => exact iff_of_true (mesh_withstands haccepts htype hlen) trivial
    | IP_REQUEST_M => exact ip_request_withstands_iff haccepts htype hlen
    | ACKNOWLEDGE_M => exact acknowledgement_withstands_iff haccepts htype hlen
    | IDENTIFIED_PACKAGE_M =>
      exact iff_of_false (unchecked_not_withstands haccepts (.inl htype) hlen) id
    | COMMAND_M => exact iff_of_false (unchecked_not_withstands haccepts (.inr htype) hlen) id
    | NAME_REQUEST_M | PACKAGE_M | NEIGHBOR_REQUEST_M =>
      exact absurd haccepts.len (Nat.not_le.mpr hlen)
  · exact iff_of_true (rejected_withstands haccepts) fun h => absurd h haccepts

/-- A node that knows nobody yet. -/
def newcomer : Node := boot (linkLocal 0 1) (ems.nameOf [97]) fun _ => 0

/-- A package that consists of its head, in front of the address an earlier one
has left in the buffer. -/
def headOnly (letter : UInt8) : Datagram :=
  { src := linkLocal 0 2
    data := fun i => ([1, 2, 3, 4, letter] ++ (linkLocal 0 9).toList).getD i 0
    len := PACKAGE_HEAD }

/-- An acknowledgement without an id does no harm to a node that waits for none. -/
theorem headOnly_acknowledgement : newcomer.Withstands (headOnly PackageType.ACKNOWLEDGE_M.code) :=
  (withstands_iff ⟨.ACKNOWLEDGE_M, rfl, by decide⟩).mpr fun _ => by
    rw [Tolerates, show (headOnly PackageType.ACKNOWLEDGE_M.code).type = some .ACKNOWLEDGE_M from rfl]
    intro i hwaits
    exact absurd hwaits (Int.lt_irrefl 0)

/-- An identified package without an address gives the node an entry for the
address of an earlier one. -/
theorem headOnly_registered :
    (headOnly PackageType.IDENTIFIED_PACKAGE_M.code).Malformed ∧
      ((newcomer.receive (headOnly PackageType.IDENTIFIED_PACKAGE_M.code)).table.iptable 0).ipaddr =
        linkLocal 0 9 ∧
      ¬ newcomer.Withstands (headOnly PackageType.IDENTIFIED_PACKAGE_M.code) := by
  have hentry : ((newcomer.receive (headOnly PackageType.IDENTIFIED_PACKAGE_M.code)).table.iptable
      0).ipaddr = linkLocal 0 9 := by decide
  refine ⟨⟨.IDENTIFIED_PACKAGE_M, rfl, by decide⟩, hentry, fun hwithstands => ?_⟩
  rw [hwithstands.table] at hentry
  revert hentry
  decide

end Node

end concretid.com
