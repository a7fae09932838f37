import ConcretID.Com.Effects

open concretid.memory
open concretid.ems (Uid)

namespace concretid.com

/-- The bytes of a received package. -/
def Datagram.package (m : Datagram) : List UInt8 := load m.data 0 (min m.len UIP_BUFSIZE)

/-- What a received package is. -/
def Datagram.type (m : Datagram) : Option PackageType := PackageType.ofCode m.letter

namespace Node

/-- The calls of `announceMe`. -/
def announcing (s : Node) : List Event :=
  .announceMe :: s.sharing .ANNOUNCEMENT_M s.announcement

/-- What the second half of `case NEIGHBOR_REQUEST_M` shares: the announcement
that has just left, over the bytes of the request, with its first byte counted
down. -/
def echoed (s : Node) (m : Datagram) : List UInt8 :=
  load (store (store m.data 0 (s.made .ANNOUNCEMENT_M s.announcement)) PACKAGE_HEAD
    [s.myIp.head - 1]) 0 (min m.len UIP_BUFSIZE)

/-- The calls that share it. -/
def echoing (s : Node) (m : Datagram) : List Event :=
  if m.len = PACKAGE_HEAD ∨ s.myIp.head - 1 = 0 then []
  else [.registerRid s.nextRid, .SharePackage .uip_appdata (s.echoed m)]

/-- What `tcpip_handler` looks into: it is not blocked, not too short and not
known, and known up to the first byte of its id only if it is a `PACKAGE_M`. -/
structure Accepts (s : Node) (m : Datagram) : Prop where
  src : s.blocked ≠ m.src
  len : PACKAGE_HEAD ≤ m.len
  fresh : s.rids.existsRid m.rid ≠ 1
  retried : s.rids.existsRid m.rid = 2 → m.type = some .PACKAGE_M

/-- The calls a received package leads to. -/
inductive Reaction (s : Node) (m : Datagram) : List Event → Prop where
  | dropped (hrejects : ¬ s.Accepts m) : Reaction s m []
  | retried (hrejects : ¬ s.Accepts m) (hknown : s.rids.existsRid m.rid = 2) :
      Reaction s m [.registerRid m.rid]
  | worked (haccepts : s.Accepts m) {new : List Event} (hnew : ∀ e ∈ new, e.responds = false) :
      Reaction s m (.registerRid m.rid :: new)
  | passed (haccepts : s.Accepts m)
      (htype : m.type = some .ANNOUNCEMENT_M ∧ PACKAGE_HEAD + UID_SIZE ≤ m.len ∨
        m.type = some .NAME_REQUEST_M ∨ m.type = some .IP_REQUEST_M) :
      Reaction s m
        [.registerRid m.rid, .registerRid m.rid, .SharePackage .uip_appdata m.package]
  | announced (haccepts : s.Accepts m)
      (htype : m.type = some .NAME_REQUEST_M ∨ m.type = some .IP_REQUEST_M) :
      Reaction s m (.registerRid m.rid :: s.announcing)
  | explored (haccepts : s.Accepts m) (htype : m.type = some .NEIGHBOR_REQUEST_M) :
      Reaction s m (.registerRid m.rid :: (s.announcing ++ s.echoing m))
  | acked (haccepts : s.Accepts m)
      (htype : m.type = some .IDENTIFIED_PACKAGE_M ∨ m.type = some .COMMAND_M) {rid : Rid}
      {first last : List Event} (hfirst : ∀ e ∈ first, e.responds = false)
      (hlast : ∀ e ∈ last, e.responds = false) :
      Reaction s m (.registerRid m.rid :: (first ++ .sendAck rid :: last))

/-- The id is registered on the way. -/
def seen (s : Node) (m : Datagram) : Node :=
  { s with
    uip_appdata := m.data
    srcipaddr := m.src }.registerRid m.rid

theorem acts_seen (s : Node) (m : Datagram) : Acts s (s.seen m) [.registerRid m.rid] :=
  ⟨rfl, rfl, rfl, .other rfl .nil⟩

theorem acts_sendAck (s : Node) : ∃ last, Acts s s.sendAck (.sendAck (ridAt s.uip_appdata 0) :: last) ∧
    ∀ e ∈ last, e.responds = false := by
  have hcall := Acts.emit s (e := .sendAck (ridAt s.uip_appdata 0)) rfl rfl
  suffices hrest : Works (s.emit (.sendAck (ridAt s.uip_appdata 0))) s.sendAck by
    obtain ⟨last, hacts, hlast⟩ := hrest
    exact ⟨last, hcall.trans hacts, hlast⟩
  rw [sendAck]
  apply (works_initPackage _ (t := .ACKNOWLEDGE_M) rfl).trans
  apply (Works.of_acts (acts_write _ .buf PACKAGE_HEAD (load s.uip_appdata 0 RID_SIZE))).trans
  split
  · exact works_sendPackageByTable _ _ _ _
  · exact .refl _

/-- A NUL written behind the package leaves the package. -/
theorem package_ended (m : Datagram) (hlen : PACKAGE_HEAD ≤ m.len) :
    load (store m.data (PACKAGE_HEAD + (m.len - PACKAGE_HEAD)) [0]) 0
      (min (m.len - PACKAGE_HEAD + PACKAGE_HEAD) UIP_BUFSIZE) = m.package := by
  rw [Nat.sub_add_cancel hlen, Nat.add_sub_cancel' hlen]
  exact load_store_of_disjoint _ _ (.inl (by rw [Nat.zero_add]; exact Nat.min_le_left _ _))

theorem ridAt_congr {d e : Nat → UInt8} (h : ∀ i < RID_SIZE, d i = e i) :
    ridAt d 0 = ridAt e 0 := by
  simp only [ridAt, Nat.zero_add, h 0 (by decide), h 1 (by decide), h 2 (by decide),
    h 3 (by decide)]

/-- Passing on the package received, with a NUL written behind it or not. -/
theorem acts_passed {s s' : Node} (m : Datagram) (hlen : PACKAGE_HEAD ≤ m.len)
    (hs' : Acts s s' [])
    (hdata : s'.uip_appdata = m.data ∨
      s'.uip_appdata = store m.data (PACKAGE_HEAD + (m.len - PACKAGE_HEAD)) [0]) :
    Acts s (s'.SharePackage .uip_appdata (m.len - PACKAGE_HEAD + PACKAGE_HEAD))
      [.registerRid m.rid, .SharePackage .uip_appdata m.package] := by
  have hpass := hs'.trans (acts_pass s' (m.len - PACKAGE_HEAD + PACKAGE_HEAD))
  have hpackage : s'.packet .uip_appdata (m.len - PACKAGE_HEAD + PACKAGE_HEAD) = m.package := by
    rw [packet, memory]
    obtain h | h := hdata
    · rw [h, Nat.sub_add_cancel hlen, Datagram.package]
    · rw [h, package_ended m hlen]
  have hrid : ridAt s'.uip_appdata 0 = m.rid := by
    refine ridAt_congr fun i hi => ?_
    obtain h | h := hdata
    · rw [h]
    · rw [h, store_of_lt _ _ (by simp only [PACKAGE_HEAD]; omega)]
  rw [hrid, hpackage] at hpass
  exact hpass

/-- The announcement is in `uip_appdata` when the depth is counted down there. -/
theorem acts_neighborRequest (s : Node) (m : Datagram) (hlen : PACKAGE_HEAD ≤ m.len) :
    Acts (s.seen m) ((s.seen m).neighborRequest (m.len - PACKAGE_HEAD))
      (s.announcing ++ s.echoing m) := by
  have hannounce : Acts (s.seen m) (s.seen m).announceMe s.announcing := acts_announceMe _
  have hdata : (s.seen m).announceMe.uip_appdata =
      store m.data 0 (s.made .ANNOUNCEMENT_M s.announcement) := by
    rw [announceMe_eq, share_uip_appdata _ rfl (by rw [announcement_length]; decide)]
    rfl
  have hdepth : (s.seen m).announceMe.uip_appdata PACKAGE_HEAD = s.myIp.head := by
    obtain ⟨first, rest, hip⟩ := List.Vector.exists_eq_cons s.myIp
    rw [hdata]
    simp [store, made, announcement, Rid.bytes, hip]
  apply hannounce.trans
  rw [neighborRequest, hdepth]
  by_cases hbody : m.len = PACKAGE_HEAD
  · have hnone : s.echoing m = [] := if_pos (.inl hbody)
    rw [hnone, if_pos (Nat.sub_eq_zero_of_le (Nat.le_of_eq hbody))]
    exact .refl _
  · have hmore : m.len - PACKAGE_HEAD ≠ 0 := by omega
    by_cases hzero : s.myIp.head - 1 = 0
    · have hnone : s.echoing m = [] := if_pos (.inr hzero)
      rw [hnone]
      simp only [hmore, hzero, if_false, ne_eq, not_true_eq_false]
      exact acts_write _ _ _ _
    · have hecho : s.echoing m =
          [.registerRid s.nextRid, .SharePackage .uip_appdata (s.echoed m)] :=
        if_neg (not_or.mpr ⟨hbody, hzero⟩)
      rw [hecho]
      simp only [hmore, hzero, if_false, ne_eq, not_false_eq_true, if_true]
      have hcounted := acts_write (s.seen m).announceMe .uip_appdata PACKAGE_HEAD [s.myIp.head - 1]
      have hpass := hcounted.trans (acts_pass _ (m.len - PACKAGE_HEAD + PACKAGE_HEAD))
      have hcontent : ((s.seen m).announceMe.write .uip_appdata PACKAGE_HEAD
          [s.myIp.head - 1]).uip_appdata =
          store (store m.data 0 (s.made .ANNOUNCEMENT_M s.announcement)) PACKAGE_HEAD
            [s.myIp.head - 1] := by
        rw [← hdata]
        rfl
      have hrid : ridAt ((s.seen m).announceMe.write .uip_appdata PACKAGE_HEAD
          [s.myIp.head - 1]).uip_appdata 0 = s.nextRid := by
        rw [hcontent, ← ridAt_store_bytes m.data s.nextRid
          (PackageType.ANNOUNCEMENT_M.code :: s.announcement)]
        refine ridAt_congr fun i hi => ?_
        rw [store_of_lt _ _ (by simp only [PACKAGE_HEAD]; omega), made, List.append_assoc]
        rfl
      have hpackage : ((s.seen m).announceMe.write .uip_appdata PACKAGE_HEAD
          [s.myIp.head - 1]).packet .uip_appdata (m.len - PACKAGE_HEAD + PACKAGE_HEAD) =
          s.echoed m := by
        rw [packet, memory, hcontent, Nat.sub_add_cancel hlen, echoed]
      rw [hrid, hpackage] at hpass
      exact hpass

/-- The datagram as it lies in `uip_buf`. -/
def arrived (s : Node) (m : Datagram) : Node :=
  { s with
    uip_appdata := m.data
    srcipaddr := m.src }

theorem receive_eq (s : Node) (m : Datagram) :
    s.receive m =
      if s.blocked = m.src then s.arrived m
      else if m.len < PACKAGE_HEAD then s.arrived m
      else if s.rids.existsRid m.rid = 1 then s.arrived m
      else if m.letter ≠ PackageType.PACKAGE_M.code ∧ s.rids.existsRid m.rid = 2 then s.seen m
      else (s.seen m).handle (m.len - PACKAGE_HEAD) (s.rids.existsRid m.rid) m.type := rfl

/-- What is accepted gets to the `switch`. -/
theorem Accepts.receive_eq {s : Node} {m : Datagram} (h : s.Accepts m) :
    s.receive m = (s.seen m).handle (m.len - PACKAGE_HEAD) (s.rids.existsRid m.rid) m.type := by
  have hswitch : ¬ (m.letter ≠ PackageType.PACKAGE_M.code ∧ s.rids.existsRid m.rid = 2) :=
    fun ⟨hother, hknown⟩ => hother (PackageType.code_of_ofCode (h.retried hknown))
  rw [Node.receive_eq, if_neg h.src, if_neg (Nat.not_lt.mpr h.len), if_neg h.fresh, if_neg hswitch]

/-- What passes the tests in front of the `switch` is accepted. -/
theorem accepts_of_tests {s : Node} {m : Datagram} (hsrc : s.blocked ≠ m.src)
    (hlen : ¬ m.len < PACKAGE_HEAD) (hfresh : s.rids.existsRid m.rid ≠ 1)
    (hswitch : ¬ (m.letter ≠ PackageType.PACKAGE_M.code ∧ s.rids.existsRid m.rid = 2)) :
    s.Accepts m := by
  refine ⟨hsrc, Nat.not_lt.mp hlen, hfresh, fun hknown => ?_⟩
  have hletter : m.letter = PackageType.PACKAGE_M.code := by
    by_contra hother
    exact hswitch ⟨hother, hknown⟩
  rw [Datagram.type, hletter, PackageType.ofCode_code]

/-- What is not accepted is dropped, at most its id is registered. -/
theorem receive_of_rejects {s : Node} {m : Datagram} (h : ¬ s.Accepts m) :
    s.receive m = s.arrived m ∨ s.rids.existsRid m.rid = 2 ∧ s.receive m = s.seen m := by
  rw [receive_eq]
  by_cases hsrc : s.blocked = m.src
  · exact .inl (if_pos hsrc)
  · rw [if_neg hsrc]
    by_cases hlen : m.len < PACKAGE_HEAD
    · exact .inl (if_pos hlen)
    · rw [if_neg hlen]
      by_cases hfresh : s.rids.existsRid m.rid = 1
      · exact .inl (if_pos hfresh)
      · rw [if_neg hfresh]
        by_cases hswitch : m.letter ≠ PackageType.PACKAGE_M.code ∧ s.rids.existsRid m.rid = 2
        · exact .inr ⟨hswitch.2, if_pos hswitch⟩
        · exact absurd (accepts_of_tests hsrc hlen hfresh hswitch) h

/-- What a node does with a package, and that it keeps what it keeps for good. -/
theorem receive_reaction (s : Node) (m : Datagram) :
    ∃ new, Acts s (s.receive m) new ∧ Reaction s m new := by
  by_cases haccepts : s.Accepts m
  · have hseen := acts_seen s m
    have hworked : ∀ {s' : Node}, Works (s.seen m) s' →
        ∃ new, Acts s s' new ∧ Reaction s m new := by
      rintro s' ⟨new, hacts, hnew⟩
      exact ⟨_, hseen.trans hacts, .worked haccepts hnew⟩
    have hacked : (m.type = some .IDENTIFIED_PACKAGE_M ∨ m.type = some .COMMAND_M) →
        ∀ s', Works (s.seen m) s' →
        ∃ new, Acts s ((s'.registerIp (ems.uidAt s'.uip_appdata PACKAGE_HEAD) s'.srcipaddr
          none).sendAck) new ∧ Reaction s m new := by
      rintro htype s' ⟨first, hacts, hfirst⟩
      obtain ⟨last, hack, hlast⟩ := acts_sendAck
        (s'.registerIp (ems.uidAt s'.uip_appdata PACKAGE_HEAD) s'.srcipaddr none)
      have hlearnt : Acts s' (s'.registerIp (ems.uidAt s'.uip_appdata PACKAGE_HEAD) s'.srcipaddr
        none) [] := .of_eq rfl rfl rfl
      exact ⟨_, hseen.trans (hacts.trans (hlearnt.trans hack)), .acked haccepts htype hfirst hlast⟩
    rw [haccepts.receive_eq]
    cases htype : m.type with
    | none => exact hworked (.refl _)
    | some t =>
      cases t with
      | ANNOUNCEMENT_M =>
        rw [handle]
        dsimp only
        split
        · exact hworked (.of_acts (acts_write _ _ _ _))
        · rename_i hshort
          have hlen : PACKAGE_HEAD + UID_SIZE ≤ m.len := by
            have hle := haccepts.len
            omega
          have hwritten := acts_write (s.seen m) .uip_appdata (PACKAGE_HEAD + (m.len - PACKAGE_HEAD)) [0]
          refine ⟨_, hseen.trans (acts_passed m haccepts.len ?_ (.inr rfl)),
            .passed haccepts (.inl ⟨htype, hlen⟩)⟩
          exact hwritten.trans (.of_eq rfl rfl rfl)
      | NEIGHBOR_REQUEST_M =>
        exact ⟨_, hseen.trans (acts_neighborRequest s m haccepts.len), .explored haccepts htype⟩
      | NAME_REQUEST_M =>
        have hwritten := acts_write (s.seen m) .uip_appdata (PACKAGE_HEAD + (m.len - PACKAGE_HEAD)) [0]
        rw [handle]
        split
        · exact ⟨_, hseen.trans (hwritten.trans (acts_announceMe _)), .announced haccepts (.inl htype)⟩
        · exact ⟨_, hseen.trans (acts_passed m haccepts.len hwritten (.inr rfl)),
            .passed haccepts (.inr (.inl htype))⟩
      | IP_REQUEST_M =>
        rw [handle]
        split
        · exact ⟨_, hseen.trans (acts_announceMe _), .announced haccepts (.inr htype)⟩
        · exact ⟨_, hseen.trans (acts_passed m haccepts.len (.refl _) (.inl rfl)),
            .passed haccepts (.inr (.inr htype))⟩
      | ACKNOWLEDGE_M => exact hworked (works_acknowledge _ _)
      | PACKAGE_M =>
        apply hworked
        rw [handle]
        split
        · exact (Works.uart0 _ _).trans ((Works.uart0 _ _).trans (.uart0 _ _))
        · exact .refl _
      | MESH_M => exact hworked (works_forward _ _)
      | IDENTIFIED_PACKAGE_M =>
        apply hacked (.inl htype) _
        split
        · exact ⟨_, acts_printIdentified _ _, by simp [identifiedLine, Event.responds]⟩
        · exact .refl _
      | COMMAND_M =>
        apply hacked (.inr htype) _
        split
        · exact works_executeCmd _ _ _
        · exact .refl _
  · obtain heq | ⟨hknown, heq⟩ := receive_of_rejects haccepts
    · rw [heq]
      exact ⟨[], .of_eq rfl rfl rfl, .dropped haccepts⟩
    · rw [heq]
      exact ⟨_, acts_seen s m, .retried haccepts hknown⟩

end Node

end concretid.com
