import Mathlib.Data.Fin.Basic
import ConcretID.Com.Slots

open concretid.memory
open concretid.ems (Uid linkLocal)

namespace concretid.com

/-- The id under which a call transmits the package of slot `i`. -/
def Event.transmits? (i : Fin SENDOUT_SIZE) : Event → Option Rid
  | .sendPackageByTable r rid => if r = .sendOut i then some rid else none
  | _ => none

/-- The ids under which the package of slot `i` is transmitted, in order. -/
def tried (i : Fin SENDOUT_SIZE) (new : List Event) : List Rid := new.filterMap (Event.transmits? i)

theorem tried_append (i : Fin SENDOUT_SIZE) (a b : List Event) :
    tried i (a ++ b) = tried i a ++ tried i b :=
  List.filterMap_append

theorem tried_of_slot?_ne {i : Fin SENDOUT_SIZE} {new : List Event}
    (hnew : ∀ e ∈ new, e.slot? ≠ some i) : tried i new = [] := by
  refine List.filterMap_eq_nil_iff.mpr fun e he => ?_
  cases e with
  | sendPackageByTable r rid =>
    have hr : r ≠ .sendOut i := by
      rintro rfl
      exact hnew _ he rfl
    simp [Event.transmits?, hr]
  | _ => rfl

namespace Node

/-- The transmissions of slot `i` between two states of a node. -/
def transmissions (before after : Node) (i : Fin SENDOUT_SIZE) : List Rid :=
  tried i (before.since after)

/-- How a slot holds on to its package while it retries: only the first byte of
the id changes, and it is the one last transmitted; what goes out of the slot
is its package. A mesh package is shortened in place when it is sent directly. -/
structure Holds (i : Fin SENDOUT_SIZE) (s s' : Node) (new : List Event) : Prop where
  acts : Acts s s' new
  len : (s'.sendOut i).len = (s.sendOut i).len
  kept : ∀ k, 0 < k →
    k < PACKAGE_HEAD ∨ (s.sendOut i).data RID_SIZE ≠ PackageType.MESH_M.code →
    (s'.sendOut i).data k = (s.sendOut i).data k
  sends : (s.sendOut i).data RID_SIZE ≠ PackageType.MESH_M.code → ∀ package ip,
    .SendPackage (.sendOut i) package ip ∈ new →
    package.tail = load (s.sendOut i).data 1 (min (s.sendOut i).len UIP_BUFSIZE - 1)
  latest : (tried i new).getLast?.getD (ridAt (s.sendOut i).data 0) = ridAt (s'.sendOut i).data 0
  alike : ∀ rid ∈ tried i new, CmpRid1 rid (ridAt (s.sendOut i).data 0)
  solved : tried i new ≠ [] → 0 < (s'.sendOut i).timeLeft
  pos : 0 < (s.sendOut i).timeLeft → 0 < (s'.sendOut i).timeLeft
  used : (s.sendOut i).timeLeft ≠ 0 → (s'.sendOut i).timeLeft ≠ 0

/-- The id in the slot keeps all bytes but the first. -/
theorem Holds.cmpRid1 {i : Fin SENDOUT_SIZE} {s s' : Node} {new : List Event}
    (h : Holds i s s' new) :
    CmpRid1 (ridAt (s'.sendOut i).data 0) (ridAt (s.sendOut i).data 0) :=
  ⟨h.kept 1 (by decide) (.inl (by decide)), h.kept 2 (by decide) (.inl (by decide)),
    h.kept 3 (by decide) (.inl (by decide))⟩

theorem Holds.letter {i : Fin SENDOUT_SIZE} {s s' : Node} {new : List Event}
    (h : Holds i s s' new) : (s'.sendOut i).data RID_SIZE = (s.sendOut i).data RID_SIZE :=
  h.kept RID_SIZE (by decide) (.inl (by decide))

theorem Holds.trans {i : Fin SENDOUT_SIZE} {s s' s'' : Node} {a b : List Event}
    (h : Holds i s s' a) (h' : Holds i s' s'' b) : Holds i s s'' (a ++ b) := by
  refine ⟨h.acts.trans h'.acts, h'.len.trans h.len, ?_, ?_, ?_, ?_, ?_, fun hpos => h'.pos (h.pos hpos),
    fun hused => h'.used (h.used hused)⟩
  · intro k hk hkept
    rw [h'.kept k hk (by rwa [h.letter]), h.kept k hk hkept]
  · intro hletter package ip hmem
    obtain hfirst | hlast := List.mem_append.mp hmem
    · exact h.sends hletter package ip hfirst
    · rw [h'.sends (by rwa [h.letter]) package ip hlast, h.len]
      exact load_congr fun k _ => h.kept _ (by omega) (.inr hletter)
  · rw [tried_append, List.getLast?_append, ← h'.latest, ← h.latest]
    cases (tried i b).getLast? <;> rfl
  · intro rid hrid
    rw [tried_append] at hrid
    obtain hfirst | hlast := List.mem_append.mp hrid
    · exact h.alike rid hfirst
    · obtain ⟨h1, h2, h3⟩ := h'.alike rid hlast
      obtain ⟨k1, k2, k3⟩ := h.cmpRid1
      exact ⟨h1.trans k1, h2.trans k2, h3.trans k3⟩
  · intro htried
    by_cases hlast : tried i b = []
    · rw [tried_append, hlast, List.append_nil] at htried
      exact h'.pos (h.solved htried)
    · exact h'.solved hlast

/-- A step that leaves the slot alone. -/
theorem Frames.holds {i : Fin SENDOUT_SIZE} {s s' : Node} (h : Frames i s s') :
    ∃ new, Holds i s s' new := by
  obtain ⟨hslot, new, hacts, hnew⟩ := h
  have htried := tried_of_slot?_ne hnew
  refine ⟨new, hacts, by rw [hslot], fun _ _ _ => by rw [hslot], ?_, ?_, ?_, ?_, ?_, ?_⟩
  · intro _ package ip hmem
    exact absurd rfl (hnew _ hmem)
  · rw [htried, hslot]
    rfl
  · simp [htried]
  · simp [htried]
  · rw [hslot]
    exact id
  · rw [hslot]
    exact id

/-- Sending a slot's package: the calls, and the slot afterwards. -/
theorem sendPackageByTable_own (s : Node) (i : Fin SENDOUT_SIZE) (ipt : Fin IPTABLE_SIZE) :
    ∃ (rid : Rid) (r : Region) (package : List UInt8) (ip : Uid) (d : Nat → UInt8),
      Acts s (s.sendPackageByTable (.sendOut i) (s.sendOut i).len ipt)
        [.sendPackageByTable (.sendOut i) (ridAt (s.sendOut i).data 0), .registerRid rid,
          .SendPackage r package ip] ∧
      (s.sendPackageByTable (.sendOut i) (s.sendOut i).len ipt).sendOut i =
        { s.sendOut i with data := d } ∧
      (∀ k, k < PACKAGE_HEAD ∨ (s.sendOut i).data RID_SIZE ≠ PackageType.MESH_M.code →
        d k = (s.sendOut i).data k) ∧
      ((s.sendOut i).data RID_SIZE ≠ PackageType.MESH_M.code → r = .sendOut i →
        package = load (s.sendOut i).data 0 (min (s.sendOut i).len UIP_BUFSIZE)) := by
  obtain ⟨s', r, len', link, heq, hacts, hcases⟩ :=
    sendPackageByTable_inv s (.sendOut i) (s.sendOut i).len ipt
  have hsent := hacts.trans (acts_SendPackage s' r len' link)
  rw [← heq] at hsent
  obtain ⟨rfl, hslots⟩ | ⟨rfl, rfl, rfl⟩ | ⟨rfl, hmesh, rfl⟩ := hcases
  · refine ⟨_, _, _, _, (s.sendOut i).data, hsent, ?_, fun _ _ => rfl, nofun⟩
    rw [heq]
    exact congrFun hslots i
  · refine ⟨_, _, _, _, (s.sendOut i).data, hsent, ?_, fun _ _ => rfl, fun _ _ => rfl⟩
    rw [heq]
    rfl
  · refine ⟨_, _, _, _, shiftDown (s.sendOut i).data PACKAGE_HEAD MESH_HEAD_SIZE
      ((s.sendOut i).len - (PACKAGE_HEAD + MESH_HEAD_SIZE)), hsent, ?_, ?_,
      fun hletter => absurd hmesh hletter⟩
    · rw [heq]
      exact Function.update_self _ _ _
    · intro k hk
      obtain hhead | hletter := hk
      · rw [shiftDown_apply, if_neg (fun hin => absurd hin.1 (Nat.not_le.mpr hhead))]
      · exact absurd hmesh hletter

/-- Sending the package of a slot after it has been filled anew with all but
the first byte of its old package. -/
theorem holds_sendSlot (s : Node) (i : Fin SENDOUT_SIZE) (sb : SendBuf)
    (hlen : sb.len = (s.sendOut i).len) (hdata : ∀ k, 0 < k → sb.data k = (s.sendOut i).data k)
    (hpos : 0 < sb.timeLeft) (ipt : Fin IPTABLE_SIZE) :
    ∃ new, Holds i s ((s.setSlot i sb).sendPackageByTable (.sendOut i) sb.len ipt) new := by
  obtain ⟨rid, r, package, ip, d, hacts, hslot, hd, hpackage⟩ :=
    sendPackageByTable_own (s.setSlot i sb) i ipt
  rw [setSlot_self] at hacts hslot hd hpackage
  have hletter : sb.data RID_SIZE = (s.sendOut i).data RID_SIZE := hdata RID_SIZE (by decide)
  rw [hletter] at hd hpackage
  have htried : tried i [.sendPackageByTable (.sendOut i) (ridAt sb.data 0), .registerRid rid,
      .SendPackage r package ip] = [ridAt sb.data 0] := by
    simp [tried, Event.transmits?]
  refine ⟨_, (acts_setSlot s i sb).trans hacts, ?_, ?_, ?_, ?_, ?_, ?_, ?_, ?_⟩
  · rw [hslot]
    exact hlen
  · intro k hk hkept
    rw [hslot]
    exact (hd k hkept).trans (hdata k hk)
  · intro hother package' ip' hmem
    simp only [List.nil_append, List.mem_cons, List.not_mem_nil, or_false, reduceCtorEq, false_or,
      Event.SendPackage.injEq] at hmem
    obtain ⟨hr, rfl, -⟩ := hmem
    rw [hpackage hother hr.symm, hlen]
    cases hcount : min (s.sendOut i).len UIP_BUFSIZE with
    | zero => rfl
    | succ n =>
      rw [Nat.add_comm, load_append, Nat.add_sub_cancel_left]
      refine Eq.trans ?_ (load_congr (d := sb.data) fun k _ => hdata _ (by omega))
      simp [load]
  · rw [List.nil_append, htried, hslot]
    exact ridAt_congr fun k hk => (hd k (.inl (Nat.lt_succ_of_lt hk))).symm
  · intro rid' hrid
    rw [List.nil_append, htried, List.mem_singleton] at hrid
    rw [hrid]
    exact ⟨hdata 1 (by decide), hdata 2 (by decide), hdata 3 (by decide)⟩
  · intro _
    rw [hslot]
    exact hpos
  · intro _
    rw [hslot]
    exact hpos
  · intro _
    rw [hslot]
    exact ne_of_gt hpos

theorem holds_solve (s : Node) (i : Fin SENDOUT_SIZE) : ∃ new, Holds i s (s.solve i) new := by
  rw [solve]
  dsimp only
  split
  · split
    · rename_i ipt _
      exact holds_sendSlot s i
        { s.sendOut i with
          timeLeft := ACK_TIME * ACK_TRIES
          key := (s.table.iptable ipt).ipaddr } rfl (fun _ _ => rfl) (by decide : (0 : Int) < 20) ipt
    · exact (frames_sendNameRequest s _).holds
  · exact (Frames.refl i s).holds

theorem holds_transmit (s : Node) (i : Fin SENDOUT_SIZE) : ∃ new, Holds i s (s.transmit i) new := by
  rw [transmit]
  dsimp only
  split
  · rename_i hdue
    split
    · refine holds_sendSlot s i
        { s.sendOut i with
          data := Function.update (s.sendOut i).data 0 ((s.sendOut i).data 0 + 1) } rfl
        (fun k hk => ?_) hdue.1 _
      exact Function.update_of_ne (Nat.ne_of_gt hk) _ _
    · exact (frames_sendIpRequest s _).holds
  · exact (Frames.refl i s).holds

theorem Holds.exists_trans {i : Fin SENDOUT_SIZE} {s s' s'' : Node} (h : ∃ new, Holds i s s' new)
    (h' : ∃ new, Holds i s' s'' new) : ∃ new, Holds i s s'' new := by
  obtain ⟨a, ha⟩ := h
  obtain ⟨b, hb⟩ := h'
  exact ⟨a ++ b, ha.trans hb⟩

theorem holds_CheckSendOut1 (s : Node) (i : Fin SENDOUT_SIZE) :
    ∃ new, Holds i s (s.CheckSendOut1 i) new :=
  Holds.exists_trans (holds_solve s i) (holds_transmit _ i)

/-- Only the time of the slot passes. -/
theorem holds_setSlot (s : Node) (i : Fin SENDOUT_SIZE) {timeLeft : Int}
    (hpos : 0 < (s.sendOut i).timeLeft → 0 < timeLeft) (hused : timeLeft ≠ 0) :
    Holds i s (s.setSlot i { s.sendOut i with timeLeft }) [] := by
  refine ⟨acts_setSlot s i _, ?_, ?_, nofun, ?_, nofun, fun hsome => absurd rfl hsome, ?_, ?_⟩
  · rw [setSlot_self]
  · intro k _ _
    rw [setSlot_self]
  · rw [setSlot_self]
    rfl
  · rwa [setSlot_self]
  · rw [setSlot_self]
    exact fun _ => hused

/-- Nothing is sent from a free slot. -/
theorem CheckSendOut1_of_free {s : Node} {i : Fin SENDOUT_SIZE}
    (hfree : (s.sendOut i).timeLeft = 0) : s.CheckSendOut1 i = s := by
  have hsolve : s.solve i = s := if_neg (fun hdue => absurd hdue.1 (by rw [hfree]; decide))
  have htransmit : s.transmit i = s := if_neg (fun hdue => absurd hdue.1 (by rw [hfree]; decide))
  rw [CheckSendOut1, hsolve, htransmit]

theorem elapse_pos {timeLeft : Int} (hpos : 0 < timeLeft) (hused : elapse timeLeft ≠ 0) :
    0 < elapse timeLeft := by
  simp only [elapse] at hused ⊢
  split at hused <;> omega

theorem holds_checkSendOut {s : Node} {i : Fin SENDOUT_SIZE}
    (hused : ((s.checkSendOut i).sendOut i).timeLeft ≠ 0) :
    ∃ new, Holds i s (s.checkSendOut i) new := by
  rw [checkSendOut] at hused ⊢
  split
  · exact (Frames.refl i s).holds
  · rename_i hbusy
    rw [if_neg hbusy] at hused
    have helapsed : elapse (s.sendOut i).timeLeft ≠ 0 := by
      intro hzero
      rw [hzero, CheckSendOut1_of_free (by rw [setSlot_self]), setSlot_self] at hused
      exact hused rfl
    exact Holds.exists_trans ⟨_, holds_setSlot s i (fun hpos => elapse_pos hpos helapsed) helapsed⟩
      (holds_CheckSendOut1 _ i)

theorem holds_foldl_checkSendOut {i : Fin SENDOUT_SIZE} {l : List (Fin SENDOUT_SIZE)}
    (hl : l.Nodup) {s : Node} (hused : ((l.foldl checkSendOut s).sendOut i).timeLeft ≠ 0) :
    ∃ new, Holds i s (l.foldl checkSendOut s) new := by
  induction l generalizing s with
  | nil => exact (Frames.refl i s).holds
  | cons j l ih =>
    obtain ⟨hj, hl⟩ := List.nodup_cons.mp hl
    by_cases hij : i = j
    · subst hij
      have hothers : Frames i (s.checkSendOut i) (l.foldl checkSendOut (s.checkSendOut i)) := by
        refine frames_foldl l (fun a ha s => frames_checkSendOut s ?_) _
        rintro rfl
        exact hj ha
      rw [List.foldl_cons, hothers.slot] at hused
      exact Holds.exists_trans (holds_checkSendOut hused) hothers.holds
    · exact Holds.exists_trans (frames_checkSendOut s hij).holds (ih hl hused)

/-- Whatever happens to a node, a slot that is not freed holds on to its package. -/
theorem holds_step {i : Fin SENDOUT_SIZE} {s : Node} (hused : (s.sendOut i).timeLeft ≠ 0)
    (input : Input) (hkept : ((s.step input).sendOut i).timeLeft ≠ 0) :
    ∃ new, Holds i s (s.step input) new := by
  cases input with
  | char x => exact (frames_getc0 hused x).holds
  | datagram m => exact (frames_receive hused m hkept).holds
  | timeout => exact holds_foldl_checkSendOut (List.nodup_finRange SENDOUT_SIZE) hkept

/-- A run of a node during which slot `i` is not freed. -/
inductive Waits (i : Fin SENDOUT_SIZE) (s : Node) : Node → Prop where
  | refl : Waits i s s
  | step {s' : Node} (h : Waits i s s') (input : Input)
      (hkept : ((s'.step input).sendOut i).timeLeft ≠ 0) : Waits i s (s'.step input)

theorem Waits.holds {i : Fin SENDOUT_SIZE} {s s' : Node} (h : Waits i s s')
    (hused : (s.sendOut i).timeLeft ≠ 0) : ∃ new, Holds i s s' new := by
  induction h with
  | refl => exact (Frames.refl i s).holds
  | step _ input hkept ih =>
    obtain ⟨new, hholds⟩ := ih
    exact Holds.exists_trans ⟨new, hholds⟩ (holds_step (hholds.used hused) input hkept)

/-- `safeSendByIp` or `safeSendByName` has put a package into slot `i`. -/
inductive Queued (i : Fin SENDOUT_SIZE) (s : Node) : Node → Prop where
  | byIp (data : Region) (len : Nat) (ip : Uid) (hfree : s.newSendBuf = some i) :
      Queued i s (s.safeSendByIp data len ip).1
  | byName (data : Region) (len : Nat) (name : List UInt8) (hfree : s.newSendBuf = some i) :
      Queued i s (s.safeSendByName data len name).1

/-- The times with which a slot is filled. -/
theorem filled_used {timeLeft : Int}
    (htime : timeLeft = ACK_TIME * ACK_TRIES ∨ timeLeft = -SOLVE_TIME * SOLVE_TRIES) :
    timeLeft ≠ 0 := by
  cases htime with
  | inl hretry =>
    rw [hretry]
    decide
  | inr hwait =>
    rw [hwait]
    decide

theorem safeSendByName_eq {i : Fin SENDOUT_SIZE} {s : Node} (hfree : s.newSendBuf = some i)
    (data : Region) (len : Nat) (name : List UInt8) :
    ∃ key timeLeft,
      (timeLeft = ACK_TIME * ACK_TRIES ∨ timeLeft = -SOLVE_TIME * SOLVE_TRIES) ∧
      (s.safeSendByName data len name).1 =
        (s.setSlot i
          { key
            data := store (s.sendOut i).data 0 (load (s.memory data) 0 len)
            len
            timeLeft }).CheckSendOut1 i := by
  rw [safeSendByName, hfree]
  dsimp only
  split
  · exact ⟨_, _, .inl rfl, rfl⟩
  · exact ⟨_, _, .inr rfl, rfl⟩

/-- A package that is put into a slot is tried at once. -/
theorem Queued.filled {i : Fin SENDOUT_SIZE} {s s₁ : Node} (h : Queued i s s₁) :
    ∃ sb : SendBuf,
      (sb.timeLeft = ACK_TIME * ACK_TRIES ∨ sb.timeLeft = -SOLVE_TIME * SOLVE_TRIES) ∧
      s₁ = (s.setSlot i sb).CheckSendOut1 i := by
  cases h with
  | byIp data len ip hfree =>
    rw [safeSendByIp, hfree]
    exact ⟨_, .inl rfl, rfl⟩
  | byName data len name hfree =>
    obtain ⟨key, timeLeft, htime, heq⟩ := safeSendByName_eq hfree data len name
    exact ⟨_, htime, heq⟩

/-- A slot keeps the package put into it while it is not freed. -/
theorem Queued.holds {i : Fin SENDOUT_SIZE} {s s₁ s' : Node} (h : Queued i s s₁)
    (hwaits : Waits i s₁ s') :
    ∃ sb, sb.timeLeft ≠ 0 ∧ ∃ new, Holds i (s.setSlot i sb) s' new := by
  obtain ⟨sb, htime, rfl⟩ := h.filled
  obtain ⟨new, hfirst⟩ := holds_CheckSendOut1 (s.setSlot i sb) i
  have hused := hfirst.used (by rw [setSlot_self]; exact filled_used htime)
  exact ⟨sb, filled_used htime, Holds.exists_trans ⟨new, hfirst⟩ (hwaits.holds hused)⟩

/-! ## Acknowledgements -/

/-- An acknowledgement frees the first waiting slot that holds just its id. -/
theorem acknowledge_frees {i : Fin SENDOUT_SIZE} {s : Node} (hused : (s.sendOut i).timeLeft ≠ 0)
    (rid : Rid) :
    ((s.acknowledge rid).sendOut i).timeLeft = 0 ↔
      0 < (s.sendOut i).timeLeft ∧ rid = ridAt (s.sendOut i).data 0 ∧
        ∀ j < i, 0 < (s.sendOut j).timeLeft → rid ≠ ridAt (s.sendOut j).data 0 := by
  have hfirst : ∀ j, (List.finRange SENDOUT_SIZE).find? (fun i =>
      0 < (s.sendOut i).timeLeft ∧ rid = ridAt (s.sendOut i).data 0) = some j ↔
        0 < (s.sendOut j).timeLeft ∧ rid = ridAt (s.sendOut j).data 0 ∧
          ∀ k < j, 0 < (s.sendOut k).timeLeft → rid ≠ ridAt (s.sendOut k).data 0 := by
    intro j
    rw [← Fin.find?_eq_find?_finRange, Fin.find?_eq_some_iff]
    simp [and_assoc]
  rw [acknowledge]
  dsimp only
  split
  · rename_i j hfound
    by_cases hij : i = j
    · subst hij
      exact iff_of_true (by rw [setSlot_self]) ((hfirst i).mp hfound)
    · rw [setSlot_of_ne _ hij]
      refine iff_of_false hused fun hi => ?_
      exact hij (Option.some.inj (((hfirst i).mpr hi).symm.trans hfound))
  · rename_i hnone
    refine iff_of_false hused fun hi => ?_
    cases ((hfirst i).mpr hi).symm.trans hnone

/-- The acknowledgement of a transmission frees the slot exactly if it is that
of the latest one and no slot before it waits with the same id, since `CmpRid`
compares the first byte too and that has been counted up for every later
transmission. One with other bytes behind the first never frees it. -/
theorem transmission_acknowledged_iff {i : Fin SENDOUT_SIZE} {s s₁ s' : Node}
    (hqueued : Queued i s s₁) (hwaits : Waits i s₁ s') :
    (∀ rid ∈ s.transmissions s' i, ((s'.acknowledge rid).sendOut i).timeLeft = 0 ↔
      (s.transmissions s' i).getLast? = some rid ∧
        ∀ j < i, 0 < (s'.sendOut j).timeLeft → rid ≠ ridAt (s'.sendOut j).data 0) ∧
    ∀ rid, ¬ CmpRid1 rid (ridAt (s'.sendOut i).data 0) →
      (s'.acknowledge rid).sendOut i = s'.sendOut i := by
  obtain ⟨sb, hsb, new, hholds⟩ := hqueued.holds hwaits
  have hsince : s.since s' = new := ((acts_setSlot s i sb).trans hholds.acts).since_eq
  have hused : (s'.sendOut i).timeLeft ≠ 0 := hholds.used (by rwa [setSlot_self])
  refine ⟨fun rid hrid => ?_, fun rid hother => ?_⟩
  · rw [transmissions, hsince] at hrid ⊢
    have hsome : tried i new ≠ [] := List.ne_nil_of_mem hrid
    have hlatest : (tried i new).getLast? = some (ridAt (s'.sendOut i).data 0) := by
      have h := hholds.latest
      rw [List.getLast?_eq_some_getLast hsome, Option.getD_some] at h
      rw [List.getLast?_eq_some_getLast hsome, h]
    rw [acknowledge_frees hused, hlatest, Option.some.injEq, eq_comm (a := rid)]
    exact and_iff_right (hholds.solved hsome)
  · have hkept : ((s'.acknowledge rid).sendOut i).timeLeft ≠ 0 := by
      rw [ne_eq, acknowledge_frees hused]
      rintro ⟨-, rfl, -⟩
      exact hother ⟨rfl, rfl, rfl⟩
    exact (frames_acknowledge hkept).slot

/-- A node with a package for the neighbour `b` in `buf`. -/
def correspondent : Node :=
  { (boot (linkLocal 0 1) (ems.nameOf [97]) (fun _ => 0)).registerIp (linkLocal 0 2) (linkLocal 0 2)
      (some [98]) with
    buf := store (fun _ => 0) 0
      ([1, 2, 3, 4, PackageType.IDENTIFIED_PACKAGE_M.code] ++ (linkLocal 0 1).toList ++ [104, 105]) }

/-- The package has been queued for `b`. -/
def corresponding : Node := (correspondent.safeSendByName .buf 23 [98]).1

theorem corresponding_queued : Queued 0 correspondent corresponding := .byName _ _ _ (by decide)

theorem corresponding_waits : Waits 0 corresponding (corresponding.step .timeout) :=
  .step .refl .timeout (by decide)

/-- The package is acknowledged a second after its first transmission, when
the second one has just left: nothing is freed. -/
theorem late_acknowledgement :
    Queued 0 correspondent corresponding ∧
    Waits 0 corresponding (corresponding.step .timeout) ∧
    correspondent.transmissions (corresponding.step .timeout) 0 =
      [{ h0 := 2
         h1 := 2
         h2 := 3
         h3 := 4 },
       { h0 := 3
         h1 := 2
         h2 := 3
         h3 := 4 }] ∧
    (((corresponding.step .timeout).acknowledge
      { h0 := 2
        h1 := 2
        h2 := 3
        h3 := 4 }).sendOut 0).timeLeft = 19 :=
  ⟨corresponding_queued, corresponding_waits, by decide, by decide⟩

theorem corresponding_acknowledged :
    (((corresponding.step .timeout).acknowledge
      { h0 := 3
        h1 := 2
        h2 := 3
        h3 := 4 }).sendOut 0).timeLeft = 0 :=
  ((transmission_acknowledged_iff corresponding_queued corresponding_waits).1 _ (by decide)).mpr
    (by decide)

end Node

end concretid.com
