import Mathlib.Data.List.Range
import ConcretID.Com.Flooding
import ConcretID.Com.Retries

open concretid.memory
open concretid.ems (Uid)

namespace concretid.com

/-- The id after its first byte has been counted up `count` times. -/
def Rid.bumped (rid : Rid) (count : Nat) : Rid := { rid with h0 := rid.h0 + UInt8.ofNat count }

@[simp] theorem Rid.bumped_zero (rid : Rid) : rid.bumped 0 = rid := by
  simp [Rid.bumped]

theorem Rid.bumped_add (rid : Rid) (a b : Nat) : (rid.bumped a).bumped b = rid.bumped (a + b) := by
  simp only [Rid.bumped, UInt8.ofNat_add, UInt8.add_assoc]

/-- Fewer than 256 counts give different ids. -/
theorem Rid.bumped_inj {rid : Rid} {a b : Nat} (ha : a < 256) (hb : b < 256)
    (h : rid.bumped a = rid.bumped b) : a = b := by
  have hcount : UInt8.ofNat a = UInt8.ofNat b := by
    simpa [Rid.bumped] using congrArg Rid.h0 h
  have hval := congrArg UInt8.toNat hcount
  simp only [UInt8.toNat_ofNat'] at hval
  omega

/-- What `CheckSendOut1` makes of the time and the id of a slot, and the ids
under which it transmits the package. -/
inductive Checked (timeLeft : Int) (current : Rid) : List Rid → Int → Rid → Prop where
  | quiet : Checked timeLeft current [] timeLeft current
  | solved (hneg : timeLeft < 0) :
      Checked timeLeft current [current] (ACK_TIME * ACK_TRIES) current
  | resent (hpos : 0 < timeLeft) :
      Checked timeLeft current [current.bumped 1] timeLeft (current.bumped 1)
  | solved_resent (hneg : timeLeft < 0) :
      Checked timeLeft current [current, current.bumped 1] (ACK_TIME * ACK_TRIES)
        (current.bumped 1)

/-- Where a package is on its way out of a slot after `ticks` seconds: it has
been transmitted under `ids`, and its id is counted up once for each of them,
but for the one with which its name has been solved. -/
structure Progress (rid : Rid) (ticks : Nat) (ids : List Rid) (timeLeft : Int) (current : Rid) :
    Prop where
  counted : ∃ first count, first ≤ 1 ∧ ids = (List.range' first (count + 1 - first)).map rid.bumped ∧
    current = rid.bumped count
  unsolved : timeLeft < 0 → ids = [] ∧ timeLeft = ticks - SOLVE_TIME * SOLVE_TRIES
  solved : 0 < timeLeft →
    ticks + timeLeft < SOLVE_TIME * SOLVE_TRIES + ACK_TIME * ACK_TRIES ∧
    ids.length + timeLeft ≤ ACK_TRIES + 2
  most : ids.length ≤ ACK_TRIES + 1
  latest : ticks < SOLVE_TIME * SOLVE_TRIES + ACK_TIME * ACK_TRIES

namespace Progress

variable {rid current : Rid} {ticks : Nat} {ids : List Rid} {timeLeft : Int}

theorem ids_nodup (h : Progress rid ticks ids timeLeft current) : ids.Nodup := by
  obtain ⟨first, count, hfirst, rfl, -⟩ := h.counted
  have hmost := h.most
  simp only [List.length_map, List.length_range', ACK_TRIES] at hmost
  refine List.Nodup.map_on ?_ List.nodup_range'
  intro a ha b hb heq
  rw [List.mem_range'_1] at ha hb
  exact Rid.bumped_inj (by omega) (by omega) heq

theorem ids_cmpRid1 (h : Progress rid ticks ids timeLeft current) {a b : Rid} (ha : a ∈ ids)
    (hb : b ∈ ids) : CmpRid1 a b := by
  obtain ⟨first, count, -, rfl, -⟩ := h.counted
  obtain ⟨i, -, rfl⟩ := List.mem_map.mp ha
  obtain ⟨j, -, rfl⟩ := List.mem_map.mp hb
  exact ⟨rfl, rfl, rfl⟩

/-- The package of a slot that is being filled. -/
theorem start {sent : List Rid} {timeLeft' : Int}
    (htime : timeLeft = ACK_TIME * ACK_TRIES ∨ timeLeft = -SOLVE_TIME * SOLVE_TRIES)
    (h : Checked timeLeft rid sent timeLeft' current) :
    Progress rid 0 sent timeLeft' current := by
  have hfilled : timeLeft = 20 ∨ timeLeft = -20 := htime
  have hwait : SOLVE_TIME * SOLVE_TRIES = 20 := rfl
  have htries : ACK_TRIES = 20 := rfl
  have hretry : ACK_TIME * ACK_TRIES = 20 := rfl
  cases h with
  | quiet =>
    refine ⟨⟨1, 0, Nat.le_refl 1, rfl, (Rid.bumped_zero rid).symm⟩, ?_, ?_, ?_, ?_⟩
    · intro hneg
      exact ⟨rfl, by omega⟩
    · intro hpos
      simp only [List.length_nil]
      omega
    · simp only [List.length_nil]
      omega
    · omega
  | solved hneg =>
    refine ⟨⟨0, 0, by decide, by simp, (Rid.bumped_zero rid).symm⟩, ?_, ?_, ?_, ?_⟩
    · omega
    · simp only [List.length_singleton]
      omega
    · simp only [List.length_singleton]
      omega
    · omega
  | resent hpos =>
    refine ⟨⟨1, 1, Nat.le_refl 1, rfl, rfl⟩, ?_, ?_, ?_, ?_⟩
    · omega
    · simp only [List.length_singleton]
      omega
    · simp only [List.length_singleton]
      omega
    · omega
  | solved_resent hneg =>
    refine ⟨⟨0, 1, by decide, by simp [List.range'], rfl⟩, ?_, ?_, ?_, ?_⟩
    · omega
    · simp only [List.length_cons, List.length_nil]
      omega
    · simp only [List.length_cons, List.length_nil]
      omega
    · omega

theorem elapse_cases (timeLeft : Int) :
    timeLeft < 0 ∧ Node.elapse timeLeft = timeLeft + 1 ∨ timeLeft = 0 ∧ Node.elapse timeLeft = 0 ∨
      0 < timeLeft ∧ Node.elapse timeLeft = timeLeft - 1 := by
  simp only [Node.elapse]
  split <;> split <;> omega

/-- A package that is not solved has not been transmitted. -/
theorem unsolved_current (h : Progress rid ticks ids timeLeft current) (hneg : timeLeft < 0) :
    ids = [] ∧ current = rid := by
  obtain ⟨first, count, hfirst, hids, rfl⟩ := h.counted
  have hnone := (h.unsolved hneg).1
  have hlength := congrArg List.length (hids.symm.trans hnone)
  simp only [List.length_map, List.length_range', List.length_nil] at hlength
  have hcount : count = 0 := by omega
  rw [hcount, Rid.bumped_zero]
  exact ⟨hnone, rfl⟩

/-- One more second passes for a slot in use. -/
theorem tick {sent : List Rid} {timeLeft' : Int} {current' : Rid}
    (h : Progress rid ticks ids timeLeft current) (hused : timeLeft ≠ 0)
    (hchecked : Checked (Node.elapse timeLeft) current sent timeLeft' current') :
    Progress rid (ticks + 1) (ids ++ sent) timeLeft' current' := by
  have hwait : SOLVE_TIME * SOLVE_TRIES = 20 := rfl
  have htries : ACK_TRIES = 20 := rfl
  have hretry : ACK_TIME * ACK_TRIES = 20 := rfl
  have helapse := elapse_cases timeLeft
  have hmost := h.most
  cases hchecked with
  | quiet =>
    rw [List.append_nil]
    refine ⟨h.counted, ?_, ?_, hmost, ?_⟩
    · intro hneg
      obtain ⟨hnone, htime⟩ := h.unsolved (by omega)
      exact ⟨hnone, by omega⟩
    · intro hpos
      have hsolved := h.solved (by omega)
      omega
    · by_cases hneg : timeLeft < 0
      · have htime := (h.unsolved hneg).2
        omega
      · have hsolved := h.solved (by omega)
        omega
  | resent hpos =>
    have hsolved := h.solved (by omega)
    refine ⟨?_, ?_, ?_, ?_, ?_⟩
    · obtain ⟨first, count, hfirst, hids, hcurrent⟩ := h.counted
      refine ⟨first, count + 1, hfirst, ?_, ?_⟩
      · have hlength : count + 1 + 1 - first = count + 1 - first + 1 := by omega
        have hlast : first + 1 * (count + 1 - first) = count + 1 := by omega
        rw [hlength, List.range'_concat, hlast, List.map_append, ← hids, hcurrent]
        simp [Rid.bumped_add]
      · rw [hcurrent, Rid.bumped_add]
    · omega
    · rw [List.length_append, List.length_singleton]
      omega
    · rw [List.length_append, List.length_singleton]
      omega
    · omega
  | solved hneg =>
    have hwaiting : timeLeft < 0 := by omega
    obtain ⟨rfl, rfl⟩ := h.unsolved_current hwaiting
    have htime := (h.unsolved hwaiting).2
    refine ⟨⟨0, 0, by decide, by simp, (Rid.bumped_zero _).symm⟩, ?_, ?_, ?_, ?_⟩
    · omega
    · simp only [List.nil_append, List.length_singleton]
      omega
    · simp only [List.nil_append, List.length_singleton]
      omega
    · omega
  | solved_resent hneg =>
    have hwaiting : timeLeft < 0 := by omega
    obtain ⟨rfl, rfl⟩ := h.unsolved_current hwaiting
    have htime := (h.unsolved hwaiting).2
    refine ⟨⟨0, 1, by decide, by simp [List.range'], rfl⟩, ?_, ?_, ?_, ?_⟩
    · omega
    · simp only [List.nil_append, List.length_cons, List.length_nil]
      omega
    · simp only [List.nil_append, List.length_cons, List.length_nil]
      omega
    · omega

/-- The slot is freed by an acknowledgement. -/
theorem freed (h : Progress rid ticks ids timeLeft current) : Progress rid ticks ids 0 current :=
  ⟨h.counted, nofun, nofun, h.most, h.latest⟩

end Progress

/-- What can happen to a node while a package waits: one of its event handlers
runs, or its table of addresses becomes any other. -/
inductive Happening where
  | input (input : Input)
  | table (table : IpTable)

/-- The calls of `checkSendOutAll`. -/
def Happening.ticks : Happening → Nat
  | .input .timeout => 1
  | _ => 0

def ticks (happenings : List Happening) : Nat := (happenings.map Happening.ticks).sum

namespace Node

def happen (s : Node) : Happening → Node
  | .input input => s.step input
  | .table table => { s with table }

def run (s : Node) (happenings : List Happening) : Node := happenings.foldl happen s

/-- The package of slot `i` on its way between two states. -/
def Advances (i : Fin SENDOUT_SIZE) (timeLeft : Int) (s s' : Node) : Prop :=
  ∃ new, Acts s s' new ∧ Checked timeLeft (ridAt (s.sendOut i).data 0) (tried i new)
    (s'.sendOut i).timeLeft (ridAt (s'.sendOut i).data 0)

/-- Sending the package of a slot after it has been filled anew. -/
theorem sendSlot_own (s : Node) (i : Fin SENDOUT_SIZE) (sb : SendBuf) (ipt : Fin IPTABLE_SIZE) :
    let s' := (s.setSlot i sb).sendPackageByTable (.sendOut i) sb.len ipt
    ∃ new, Acts s s' new ∧ tried i new = [ridAt sb.data 0] ∧
      (s'.sendOut i).timeLeft = sb.timeLeft ∧ ridAt (s'.sendOut i).data 0 = ridAt sb.data 0 := by
  obtain ⟨rid, r, package, ip, d, hacts, hslot, hd, -⟩ :=
    sendPackageByTable_own (s.setSlot i sb) i ipt
  rw [setSlot_self] at hacts hslot hd
  refine ⟨_, (acts_setSlot s i sb).trans hacts, ?_, ?_, ?_⟩
  · simp [tried, Event.transmits?]
  · rw [hslot]
  · rw [hslot]
    exact ridAt_congr fun k hk => hd k (.inl (Nat.lt_succ_of_lt hk))

/-- What the first `if` of `CheckSendOut1` makes of the slot. -/
theorem solve_own (s : Node) (i : Fin SENDOUT_SIZE) :
    ∃ new, Acts s (s.solve i) new ∧
      (tried i new = [] ∧ (s.solve i).sendOut i = s.sendOut i ∨
        (s.sendOut i).timeLeft < 0 ∧ tried i new = [ridAt (s.sendOut i).data 0] ∧
        ((s.solve i).sendOut i).timeLeft = ACK_TIME * ACK_TRIES ∧
        ridAt ((s.solve i).sendOut i).data 0 = ridAt (s.sendOut i).data 0) := by
  have hquiet : ∀ {s' : Node}, Frames i s s' → ∃ new, Acts s s' new ∧ tried i new = [] ∧
      s'.sendOut i = s.sendOut i := by
    rintro s' ⟨hslot, new, hacts, hnew⟩
    exact ⟨new, hacts, tried_of_slot?_ne hnew, hslot⟩
  rw [solve]
  dsimp only
  split
  · rename_i hdue
    split
    · rename_i ipt _
      obtain ⟨new, hacts, htried, htime, hrid⟩ := sendSlot_own s i
        { s.sendOut i with
          timeLeft := ACK_TIME * ACK_TRIES
          key := (s.table.iptable ipt).ipaddr } ipt
      exact ⟨new, hacts, .inr ⟨hdue.1, htried, htime, hrid⟩⟩
    · obtain ⟨new, hacts, hsame⟩ := hquiet (frames_sendNameRequest s _)
      exact ⟨new, hacts, .inl hsame⟩
  · exact ⟨[], .refl s, .inl ⟨rfl, rfl⟩⟩

/-- What the second `if` of `CheckSendOut1` makes of the slot. -/
theorem transmit_own (s : Node) (i : Fin SENDOUT_SIZE) :
    ∃ new, Acts s (s.transmit i) new ∧
      (tried i new = [] ∧ (s.transmit i).sendOut i = s.sendOut i ∨
        0 < (s.sendOut i).timeLeft ∧
        tried i new = [(ridAt (s.sendOut i).data 0).bumped 1] ∧
        ((s.transmit i).sendOut i).timeLeft = (s.sendOut i).timeLeft ∧
        ridAt ((s.transmit i).sendOut i).data 0 = (ridAt (s.sendOut i).data 0).bumped 1) := by
  rw [transmit]
  dsimp only
  split
  · rename_i hdue
    split
    · rename_i ipt _
      obtain ⟨new, hacts, htried, htime, hrid⟩ := sendSlot_own s i
        { s.sendOut i with
          data := Function.update (s.sendOut i).data 0 ((s.sendOut i).data 0 + 1) } ipt
      exact ⟨new, hacts, .inr ⟨hdue.1, htried, htime, hrid⟩⟩
    · obtain ⟨hslot, new, hacts, hnew⟩ := frames_sendIpRequest (i := i) s (s.sendOut i).key
      exact ⟨new, hacts, .inl ⟨tried_of_slot?_ne hnew, hslot⟩⟩
  · exact ⟨[], .refl s, .inl ⟨rfl, rfl⟩⟩

/-- `CheckSendOut1` of a slot: a name that is solved makes it send twice. -/
theorem CheckSendOut1_advances (s : Node) (i : Fin SENDOUT_SIZE) :
    Advances i (s.sendOut i).timeLeft s (s.CheckSendOut1 i) := by
  obtain ⟨first, hfirst, hsolve⟩ := solve_own s i
  obtain ⟨second, hsecond, htransmit⟩ := transmit_own (s.solve i) i
  refine ⟨first ++ second, hfirst.trans hsecond, ?_⟩
  rw [tried_append]
  obtain ⟨hnone, hsame⟩ | ⟨hneg, hsent, htime, hrid⟩ := hsolve
  · rw [hsame] at htransmit
    obtain ⟨hnone', hsame'⟩ | ⟨hpos, hsent', htime', hrid'⟩ := htransmit
    · rw [hnone, hnone', CheckSendOut1, hsame']
      exact .quiet
    · rw [hnone, hsent', CheckSendOut1, htime', hrid']
      exact .resent hpos
  · rw [htime, hrid] at htransmit
    obtain ⟨hnone', hsame'⟩ | ⟨-, hsent', htime', hrid'⟩ := htransmit
    · rw [hsent, hnone', CheckSendOut1, hsame', htime, hrid]
      exact .solved hneg
    · rw [hsent, hsent', CheckSendOut1, htime', hrid']
      exact .solved_resent hneg

theorem checkSendOut_advances {s : Node} {i : Fin SENDOUT_SIZE}
    (hused : (s.sendOut i).timeLeft ≠ 0) :
    Advances i (elapse (s.sendOut i).timeLeft) s (s.checkSendOut i) := by
  rw [checkSendOut, if_neg hused]
  obtain ⟨new, hacts, hchecked⟩ := CheckSendOut1_advances
    (s.setSlot i { s.sendOut i with timeLeft := elapse (s.sendOut i).timeLeft }) i
  rw [setSlot_self] at hchecked
  exact ⟨new, (acts_setSlot s i _).trans hacts, hchecked⟩

/-- A call of `checkSendOutAll` advances every slot in use by a second. -/
theorem checkSendOutAll_advances {s : Node} {i : Fin SENDOUT_SIZE}
    (hused : (s.sendOut i).timeLeft ≠ 0) :
    Advances i (elapse (s.sendOut i).timeLeft) s s.checkSendOutAll := by
  obtain ⟨before, after, hslots⟩ := List.append_of_mem (List.mem_finRange i)
  have hnodup := List.nodup_finRange SENDOUT_SIZE
  rw [hslots, List.nodup_append] at hnodup
  have hothers : ∀ l : List (Fin SENDOUT_SIZE), i ∉ l → ∀ s, Frames i s (l.foldl checkSendOut s) := by
    intro l hl
    refine frames_foldl l fun j hj s => frames_checkSendOut s ?_
    rintro rfl
    exact hl hj
  obtain ⟨hslot, quiet, hbefore, hquiet⟩ := hothers before
    (fun hmem => hnodup.2.2 i hmem i List.mem_cons_self rfl) s
  obtain ⟨new, hacts, hchecked⟩ := checkSendOut_advances (s := before.foldl checkSendOut s)
    (by rwa [hslot])
  obtain ⟨hslot', quiet', hafter, hquiet'⟩ := hothers after (List.nodup_cons.mp hnodup.2.1).1
    ((before.foldl checkSendOut s).checkSendOut i)
  refine ⟨quiet ++ (new ++ quiet'), ?_, ?_⟩
  · rw [checkSendOutAll, hslots, List.foldl_append, List.foldl_cons]
    exact hbefore.trans (hacts.trans hafter)
  · rw [tried_append, tried_append, tried_of_slot?_ne hquiet, tried_of_slot?_ne hquiet',
      List.nil_append, List.append_nil, checkSendOutAll, hslots, List.foldl_append, List.foldl_cons,
      hslot']
    rwa [hslot] at hchecked

theorem acts_acknowledge (s : Node) (rid : Rid) :
    Acts s (s.acknowledge rid) [.acknowledge rid] := by
  have hcall : Acts s (s.emit (.acknowledge rid)) [.acknowledge rid] := .emit s rfl rfl
  rw [acknowledge]
  dsimp only
  split
  · exact hcall.trans (acts_setSlot _ _ _)
  · exact hcall

/-- A datagram leaves a slot in use alone or frees it. -/
theorem receive_slot {s : Node} {i : Fin SENDOUT_SIZE} (hused : (s.sendOut i).timeLeft ≠ 0)
    (m : Datagram) : ∃ new, Acts s (s.receive m) new ∧ tried i new = [] ∧
      ((s.receive m).sendOut i = s.sendOut i ∨
        (s.receive m).sendOut i = { s.sendOut i with timeLeft := 0 }) := by
  have hquiet : ∀ {s' : Node}, Frames i s s' → ∃ new, Acts s s' new ∧ tried i new = [] ∧
      (s'.sendOut i = s.sendOut i ∨ s'.sendOut i = { s.sendOut i with timeLeft := 0 }) := by
    rintro s' ⟨hslot, new, hacts, hnew⟩
    exact ⟨new, hacts, tried_of_slot?_ne hnew, .inl hslot⟩
  by_cases hkept : ((s.receive m).sendOut i).timeLeft ≠ 0
  · exact hquiet (frames_receive hused m hkept)
  · by_cases haccepts : s.Accepts m
    · by_cases htype : m.type = some .ACKNOWLEDGE_M
      · have hcall : s.receive m = (s.seen m).acknowledge (ridAt m.data PACKAGE_HEAD) := by
          rw [haccepts.receive_eq, htype]
          rfl
        rw [hcall] at hkept ⊢
        refine ⟨_, (acts_seen s m).trans (acts_acknowledge _ _), rfl, .inr ?_⟩
        rw [acknowledge] at hkept ⊢
        dsimp only at hkept ⊢
        split
        · rename_i j heq
          simp only [heq] at hkept
          by_cases hij : i = j
          · subst hij
            rw [setSlot_self]
            rfl
          · rw [setSlot_of_ne _ hij] at hkept
            exact absurd hused hkept
        · rename_i hnone
          simp only [hnone] at hkept
          exact absurd hused hkept
      · rw [haccepts.receive_eq]
        exact hquiet ((frames_seen s m).trans
          (frames_handle (s := s.seen m) hused _ _ _ fun hack => absurd hack htype))
    · obtain heq | ⟨-, heq⟩ := receive_of_rejects haccepts
      · rw [heq]
        exact hquiet (frames_arrived s m)
      · rw [heq]
        exact hquiet (frames_seen s m)

/-- What happens to a node leaves the package of a slot in use on its way. -/
theorem happen_progress {i : Fin SENDOUT_SIZE} {s : Node} {rid : Rid} {ticks : Nat} {ids : List Rid}
    (h : Progress rid ticks ids (s.sendOut i).timeLeft (ridAt (s.sendOut i).data 0))
    (hused : (s.sendOut i).timeLeft ≠ 0) (x : Happening) :
    ∃ new, Acts s (s.happen x) new ∧ Progress rid (ticks + x.ticks) (ids ++ tried i new)
      ((s.happen x).sendOut i).timeLeft (ridAt ((s.happen x).sendOut i).data 0) := by
  cases x with
  | table table =>
    refine ⟨[], .of_eq rfl rfl rfl, ?_⟩
    rw [tried, List.filterMap_nil, List.append_nil]
    exact h
  | input input =>
    cases input with
    | char x =>
      obtain ⟨hslot, new, hacts, hnew⟩ := frames_getc0 hused x
      refine ⟨new, hacts, ?_⟩
      simp only [happen, step]
      rw [tried_of_slot?_ne hnew, List.append_nil, hslot]
      exact h
    | datagram m =>
      obtain ⟨new, hacts, hnone, hslot⟩ := receive_slot hused m
      refine ⟨new, hacts, ?_⟩
      simp only [happen, step]
      rw [hnone, List.append_nil]
      cases hslot with
      | inl hsame => rwa [hsame]
      | inr hfreed =>
        rw [hfreed]
        exact h.freed
    | timeout =>
      obtain ⟨new, hacts, hchecked⟩ := checkSendOutAll_advances hused
      exact ⟨new, hacts, h.tick hused hchecked⟩

/-- The slot is in use as long as there is something to come. -/
def Busy (i : Fin SENDOUT_SIZE) (s : Node) (happenings : List Happening) : Prop :=
  ∀ before x after, happenings = before ++ x :: after →
    ((s.run before).sendOut i).timeLeft ≠ 0

theorem Busy.tail {i : Fin SENDOUT_SIZE} {s : Node} {x : Happening} {happenings : List Happening}
    (h : Busy i s (x :: happenings)) : Busy i (s.happen x) happenings := by
  rintro before y after rfl
  exact h (x :: before) y after rfl

theorem run_progress {i : Fin SENDOUT_SIZE} {rid : Rid} (happenings : List Happening) {s : Node}
    {count : Nat} {ids : List Rid}
    (h : Progress rid count ids (s.sendOut i).timeLeft (ridAt (s.sendOut i).data 0))
    (hbusy : Busy i s happenings) :
    ∃ new, Acts s (s.run happenings) new ∧
      Progress rid (count + ticks happenings) (ids ++ tried i new)
        ((s.run happenings).sendOut i).timeLeft (ridAt ((s.run happenings).sendOut i).data 0) := by
  induction happenings generalizing s count ids with
  | nil =>
    refine ⟨[], .refl s, ?_⟩
    rw [tried, List.filterMap_nil, List.append_nil]
    exact h
  | cons x happenings ih =>
    obtain ⟨first, hfirst, hnext⟩ := happen_progress h (hbusy [] x happenings rfl) x
    obtain ⟨rest, hrest, hlast⟩ := ih hnext hbusy.tail
    refine ⟨first ++ rest, hfirst.trans hrest, ?_⟩
    have hticks : count + ticks (x :: happenings) = count + x.ticks + ticks happenings := by
      rw [ticks, List.map_cons, List.sum_cons, Nat.add_assoc]
      rfl
    rw [tried_append, hticks, ← List.append_assoc]
    exact hlast

/-- A slot is in use all along or there is a first time that it is free. -/
theorem busy_or_freed (i : Fin SENDOUT_SIZE) (s : Node) (happenings : List Happening) :
    Busy i s happenings ∨ ∃ before after, happenings = before ++ after ∧ Busy i s before ∧
      ((s.run before).sendOut i).timeLeft = 0 := by
  induction happenings generalizing s with
  | nil => exact .inl fun before x after h => by simp at h
  | cons x happenings ih =>
    have hcons : ∀ {rest : List Happening}, (s.sendOut i).timeLeft ≠ 0 →
        Busy i (s.happen x) rest → Busy i s (x :: rest) := by
      intro rest hused hrest before y after heq
      cases before with
      | nil => exact hused
      | cons z before =>
        obtain ⟨rfl, htail⟩ := List.cons.inj heq
        exact hrest before y after htail
    by_cases hfree : (s.sendOut i).timeLeft = 0
    · exact .inr ⟨[], x :: happenings, rfl, fun before y after h => by simp at h, hfree⟩
    · cases ih (s.happen x) with
      | inl hbusy => exact .inl (hcons hfree hbusy)
      | inr hfreed =>
        obtain ⟨before, after, heq, hbusy, hzero⟩ := hfreed
        exact .inr ⟨x :: before, after, by rw [heq]; rfl, hcons hfree hbusy, hzero⟩

/-- A package that has just been put into a slot begins its way. -/
theorem Queued.progress {i : Fin SENDOUT_SIZE} {s s₁ : Node} (h : Queued i s s₁) :
    ∃ rid new, Acts s s₁ new ∧
      Progress rid 0 (tried i new) (s₁.sendOut i).timeLeft (ridAt (s₁.sendOut i).data 0) := by
  obtain ⟨sb, htime, rfl⟩ := h.filled
  obtain ⟨new, hacts, hchecked⟩ := CheckSendOut1_advances (s.setSlot i sb) i
  rw [setSlot_self] at hchecked
  exact ⟨_, new, (acts_setSlot s i sb).trans hacts, .start htime hchecked⟩

/-- A package that is put into a slot leaves it in time, whatever happens to
the node and to its table of addresses, and while it is in the slot it is
transmitted a bounded number of times, under ids that differ in their first
byte only. -/
theorem sendOut_lifetime {i : Fin SENDOUT_SIZE} {s s₁ : Node} (hqueued : Queued i s s₁)
    (happenings : List Happening) :
    (SOLVE_TIME * SOLVE_TRIES + ACK_TIME * ACK_TRIES ≤ ticks happenings →
      ∃ before after, happenings = before ++ after ∧
        ticks before ≤ SOLVE_TIME * SOLVE_TRIES + ACK_TIME * ACK_TRIES ∧
        ((s₁.run before).sendOut i).timeLeft = 0) ∧
    (Busy i s₁ happenings →
      (s.transmissions (s₁.run happenings) i).length ≤ ACK_TRIES + 1 ∧
      (s.transmissions (s₁.run happenings) i).Nodup ∧
      ∀ a ∈ s.transmissions (s₁.run happenings) i, ∀ b ∈ s.transmissions (s₁.run happenings) i,
        CmpRid1 a b) := by
  obtain ⟨rid, first, hfirst, hstart⟩ := hqueued.progress
  constructor
  · intro hticks
    cases busy_or_freed i s₁ happenings with
    | inl hbusy =>
      obtain ⟨new, -, hlast⟩ := run_progress happenings hstart hbusy
      have hlatest := hlast.latest
      omega
    | inr hfreed =>
      obtain ⟨before, after, heq, hbusy, hzero⟩ := hfreed
      obtain ⟨new, -, hlast⟩ := run_progress before hstart hbusy
      have hlatest := hlast.latest
      exact ⟨before, after, heq, by omega, hzero⟩
  · intro hbusy
    obtain ⟨new, hacts, hlast⟩ := run_progress happenings hstart hbusy
    have hsent : s.transmissions (s₁.run happenings) i = tried i first ++ tried i new := by
      rw [transmissions, (hfirst.trans hacts).since_eq, tried_append]
    rw [hsent]
    exact ⟨hlast.most, hlast.ids_nodup, fun a ha b hb => hlast.ids_cmpRid1 ha hb⟩

theorem corresponding_busy : Busy 0 corresponding [.input .timeout] := by
  intro before x after heq
  cases before with
  | nil => decide
  | cons y before => simp at heq

/-- The package for `b` is gone within 40 seconds of nothing else happening. -/
theorem corresponding_lifetime :
    (∃ before after, List.replicate 40 (.input .timeout) = before ++ after ∧
      ticks before ≤ SOLVE_TIME * SOLVE_TRIES + ACK_TIME * ACK_TRIES ∧
      ((corresponding.run before).sendOut 0).timeLeft = 0) ∧
    (correspondent.transmissions (corresponding.run [.input .timeout]) 0).length ≤ ACK_TRIES + 1 :=
  ⟨(sendOut_lifetime corresponding_queued _).1 (by decide),
    ((sendOut_lifetime corresponding_queued _).2 corresponding_busy).1⟩

end Node

end concretid.com
