import ConcretID.Ems.Sending

open concretid.memory

namespace concretid.ems

/-- The package a call sends from a slot. -/
def Event.sentFrom (i : Fin SENDOUT_QTY) : Event → Option Package
  | .send_package (.sendout j) p _ => if j = i then some p else none
  | _ => none

/-- What one call of `check_send_out` makes of a slot, with the packages it
sends from it. -/
inductive SlotTick (timing : Timing) (a : Sendout) : List Package → Sendout → Prop where
  | idle (hfree : a.time = 0) : SlotTick timing a [] a
  | count {time : Int} (htime : a.time < 0 ∧ time = a.time + 1 ∨ 0 < a.time ∧ time = a.time - 1) :
      SlotTick timing a [] { a with time }
  | solve {b : Sendout} {key dest : Uid} (hneg : a.time < 0)
      (hsent : ({ a with key, time := timing.sending } : Sendout).Sent key dest b) :
      SlotTick timing a [b.package.package b.size] b
  | resend {b : Sendout} {dest : Uid} (hpos : 0 < a.time)
      (hdue : (a.time - 1).tmod timing.time_to_send.toNat = 0)
      (hsent : ({ a with
        time := a.time - 1
        package := { a.package with rid := RID_INC a.package.rid } } : Sendout).Sent a.key dest b) :
      SlotTick timing a [b.package.package b.size] b

namespace Node

/-- What calls show of a slot: the packages they send from it. -/
structure Shows (i : Fin SENDOUT_QTY) (s s' : Node) (sent : List Package) : Prop where
  trace_eq : ∃ new, s'.trace = s.trace ++ new ∧ new.filterMap (Event.sentFrom i) = sent
  me_eq : s'.me = s.me

theorem Shows.refl (i : Fin SENDOUT_QTY) (s : Node) : Shows i s s [] :=
  ⟨⟨[], by simp, rfl⟩, rfl⟩

theorem Shows.trans {i : Fin SENDOUT_QTY} {s s' s'' : Node} {sent later : List Package}
    (h : Shows i s s' sent) (h' : Shows i s' s'' later) : Shows i s s'' (sent ++ later) := by
  obtain ⟨new, htrace, hnew⟩ := h.trace_eq
  obtain ⟨new', htrace', hnew'⟩ := h'.trace_eq
  refine ⟨⟨new ++ new', ?_, ?_⟩, h'.me_eq.trans h.me_eq⟩
  · rw [htrace', htrace, List.append_assoc]
  · rw [List.filterMap_append, hnew, hnew']

theorem Touches.shows {s s' : Node} {j : Fin SENDOUT_QTY} {new : List Event}
    (h : Touches s s' j new) (i : Fin SENDOUT_QTY) :
    Shows i s s' (new.filterMap (Event.sentFrom i)) :=
  ⟨⟨new, h.trace_eq, rfl⟩, h.me_eq⟩

/-- The packages sent from a slot between two states. -/
def transmissions (i : Fin SENDOUT_QTY) (s s' : Node) : List Package :=
  (s'.trace.drop s.trace.length).filterMap (Event.sentFrom i)

theorem Shows.transmissions_eq {i : Fin SENDOUT_QTY} {s s' : Node} {sent : List Package}
    (h : Shows i s s' sent) : transmissions i s s' = sent := by
  obtain ⟨new, htrace, hnew⟩ := h.trace_eq
  rw [transmissions, htrace, List.drop_left, hnew]

/-- A request shows nothing of a slot and leaves it. -/
theorem Shows.request (i : Fin SENDOUT_QTY) (s : Node) (flags : UInt8) (type : PackageType)
    (offset : Nat) (bytes : List UInt8) (size : Nat) (dest : Uid) :
    let s' := ((s.make_package_head .messages flags type).writeData .messages offset
      bytes).send_package .messages size dest
    Shows i s s' [] ∧ s'.sendout_package = s.sendout_package := by
  intro s'
  refine ⟨⟨?_, ?_⟩, ?_⟩
  · let sent := ((s.make_package_head .messages flags type).writeData .messages offset bytes)
    let package := (sent.packageBuffer .messages).package size
    refine ⟨[.make_package_head .messages s.nextRid, .send_package .messages package dest], ?_, rfl⟩
    simp [s', sent, package, Node.send_package, Node.writeData]
  · simp [s', Node.send_package, Node.writeData, emit]
  · simp [s', Node.send_package, Node.writeData, setPackageBuffer]

/-- One round of the loop ticks its own slot and shows nothing of the other. -/
theorem CheckedSlot.ticks {s s' : Node} {j : Fin SENDOUT_QTY} (h : CheckedSlot s j s') :
    (∃ sent, Shows j s s' sent ∧
      SlotTick s.me.timing (s.sendout_package j) sent (s'.sendout_package j)) ∧
    ∀ i, i ≠ j → Shows i s s' [] ∧ s'.sendout_package i = s.sendout_package i := by
  -- counting with a request behind it
  have hcounted : ∀ (time : Int) (s'' : Node), ((s.sendout_package j).time < 0 ∧
      time = (s.sendout_package j).time + 1 ∨ 0 < (s.sendout_package j).time ∧
        time = (s.sendout_package j).time - 1) →
      (∀ i, Shows i (s.setSendout j { s.sendout_package j with time }) s'' [] ∧
        s''.sendout_package = (s.setSendout j { s.sendout_package j with time }).sendout_package) →
      (∃ sent, Shows j s s'' sent ∧
        SlotTick s.me.timing (s.sendout_package j) sent (s''.sendout_package j)) ∧
      ∀ i, i ≠ j → Shows i s s'' [] ∧ s''.sendout_package i = s.sendout_package i := by
    intro time s'' htime hrest
    have htouch := Touches.setSendout s j { s.sendout_package j with time }
    refine ⟨⟨[], (htouch.shows j).trans (hrest j).1, ?_⟩, ?_⟩
    · rw [(hrest j).2, setSendout_self]
      exact .count htime
    · intro i hi
      refine ⟨(htouch.shows i).trans (hrest i).1, ?_⟩
      rw [(hrest i).2]
      exact htouch.others i hi
  -- sending from the slot itself
  have hsends : ∀ {s'' : Node} {p : Package} {dest : Uid},
      Touches s s'' j [.send_package (.sendout j) p dest] → ∀ i, i ≠ j →
        Shows i s s'' [] ∧ s''.sendout_package i = s.sendout_package i := by
    intro s'' p dest htouch i hi
    refine ⟨?_, htouch.others i hi⟩
    have hshows := htouch.shows i
    simpa [Event.sentFrom, Ne.symm hi] using hshows
  cases h with
  | idle hfree => exact ⟨⟨[], .refl j s, .idle hfree⟩, fun i _ => ⟨.refl i s, rfl⟩⟩
  | counted htime => exact hcounted _ _ htime fun i => ⟨.refl i _, rfl⟩
  | name_asked hneg name =>
    exact hcounted _ _ (.inl ⟨hneg, rfl⟩) fun i => Shows.request i _ _ _ _ _ _ _
  | uid_asked hpos uid =>
    exact hcounted _ _ (.inr ⟨hpos, rfl⟩) fun i => Shows.request i _ _ _ _ _ _ _
  | solved hneg hsent htouch =>
    refine ⟨⟨_, ?_, .solve hneg hsent⟩, hsends htouch⟩
    simpa [Event.sentFrom] using htouch.shows j
  | resent hpos hdue hsent htouch =>
    refine ⟨⟨_, ?_, .resend hpos hdue hsent⟩, hsends htouch⟩
    simpa [Event.sentFrom] using htouch.shows j

/-- A call of `check_send_out` ticks each slot once. -/
theorem check_send_out_ticks {s s' : Node} (h : s.check_send_out = .ok s') (i : Fin SENDOUT_QTY) :
    SlotTick s.me.timing (s.sendout_package i) (transmissions i s s') (s'.sendout_package i) ∧
      s'.me = s.me := by
  have hcases : i = 0 ∨ i = 1 := by
    revert i
    decide
  have hcall : Shows i s (s.emit .check_send_out) [] := ⟨⟨[.check_send_out], rfl, rfl⟩, rfl⟩
  obtain ⟨s₁, hfirst, hsecond⟩ := bind_eq_ok_iff.mp h
  obtain ⟨⟨sent₀, hshows₀, htick₀⟩, hother₀⟩ := (check_send_out_slot_cases hfirst).ticks
  obtain ⟨⟨sent₁, hshows₁, htick₁⟩, hother₁⟩ := (check_send_out_slot_cases hsecond).ticks
  cases hcases with
  | inl hi =>
    subst hi
    obtain ⟨hquiet, hsame⟩ := hother₁ 0 (by decide)
    have hall := (hcall.trans hshows₀).trans hquiet
    rw [hall.transmissions_eq, hsame]
    rw [hcall.me_eq] at htick₀
    exact ⟨by simpa using htick₀, hall.me_eq⟩
  | inr hi =>
    subst hi
    obtain ⟨hquiet, hsame⟩ := hother₀ 1 (by decide)
    have hall := (hcall.trans hquiet).trans hshows₁
    rw [hall.transmissions_eq]
    rw [hsame, hquiet.me_eq, hcall.me_eq] at htick₁
    exact ⟨by simpa using htick₁, hall.me_eq⟩

end Node

/-! ## The buffer of a slot -/

/-- A slot's package carries its payload behind the source's uid, in a buffer
that has room for an intermediate head besides. -/
structure Sendout.Keeps (a : Sendout) (source : Uid) (payload : List UInt8) : Prop where
  sized : a.package.Sized a.size
  data_eq : (a.package.package a.size).content.data = source.toList ++ payload
  room : sizeof_package + sizeof_identified_head + payload.length + sizeof_intermediate_head ≤
    SENDOUT_BUFFER_SIZE

theorem Sendout.Keeps.size_eq {a : Sendout} {source : Uid} {payload : List UInt8}
    (h : a.Keeps source payload) :
    a.size = sizeof_package + sizeof_identified_head + payload.length +
      (if hasFlag a.package.flags PACKAGE_INTERMEDIATE then sizeof_intermediate_head else 0) := by
  have hsize := h.sized.size_eq
  rw [h.data_eq, List.length_append, List.Vector.toList_length] at hsize
  rw [hsize]
  simp only [sizeof_package, sizeof_identified_head, UID_SIZE]
  omega

theorem Sendout.Keeps.size_le {a : Sendout} {source : Uid} {payload : List UInt8}
    (h : a.Keeps source payload) : a.size ≤ SENDOUT_BUFFER_SIZE ∧
      (hasFlag a.package.flags PACKAGE_INTERMEDIATE = false →
        a.size + sizeof_intermediate_head ≤ SENDOUT_BUFFER_SIZE) := by
  have hsize := h.size_eq
  have hroom := h.room
  simp only [sizeof_package, sizeof_identified_head, sizeof_intermediate_head,
    SENDOUT_BUFFER_SIZE] at hsize hroom ⊢
  constructor
  · split at hsize <;> omega
  · intro hflag
    rw [hflag] at hsize
    simp only [Bool.false_eq_true, if_false] at hsize
    omega

theorem Sendout.Keeps.payload_eq {a : Sendout} {source : Uid} {payload : List UInt8}
    (h : a.Keeps source payload) :
    load a.package.data (sizeof_identified_head +
      (if hasFlag a.package.flags PACKAGE_INTERMEDIATE then sizeof_intermediate_head else 0))
      payload.length = payload := by
  have hdata := h.data_eq
  rw [PackageBuffer.content_eq] at hdata
  dsimp only at hdata
  split at hdata
  · have hpayload := (load_eq_append hdata).2
    rw [List.Vector.toList_length] at hpayload
    rw [if_pos ‹_›]
    exact hpayload
  · have hpayload := (load_eq_append hdata).2
    rw [List.Vector.toList_length] at hpayload
    rw [if_neg ‹_›]
    exact hpayload

/-- Sending keeps the payload, whatever the route. -/
theorem Sendout.Sent.keeps {a b : Sendout} {uid dest source : Uid} {payload : List UInt8}
    (h : a.Sent uid dest b) (ha : a.Keeps source payload) : b.Keeps source payload := by
  obtain ⟨entry, _, hwrap⟩ := h.wrap
  have hbound : a.size + sizeof_intermediate_head < 2 ^ 16 := by
    have hle := ha.size_le.1
    simp only [SENDOUT_BUFFER_SIZE, sizeof_intermediate_head] at hle ⊢
    omega
  obtain ⟨hcontent, hsized, _⟩ := wrapFor_content hwrap ha.sized hbound
  exact ⟨hsized, by rw [hcontent, ha.data_eq], ha.room⟩

theorem SlotTick.keeps {timing : Timing} {a b : Sendout} {sent : List Package} {source : Uid}
    {payload : List UInt8} (h : SlotTick timing a sent b) (ha : a.Keeps source payload) :
    b.Keeps source payload := by
  cases h with
  | idle => exact ha
  | count => exact ⟨ha.sized, ha.data_eq, ha.room⟩
  | solve hneg hsent => exact hsent.keeps ⟨ha.sized, ha.data_eq, ha.room⟩
  | resend hpos hdue hsent =>
    refine hsent.keeps ⟨ha.sized, ?_, ha.room⟩
    have hdata := ha.data_eq
    rw [PackageBuffer.content_eq] at hdata ⊢
    exact hdata

/-! ## The time of a slot -/

/-- The ticks a slot waits for its name, and those it waits for the
acknowledgement. -/
def Timing.solveSpan (t : Timing) : Nat := t.time_to_solve.toNat * t.solving_attempts.toNat

def Timing.sendSpan (t : Timing) : Nat := t.time_to_send.toNat * t.sending_attempts.toNat

/-- Both spans are positive and fit the signed byte. -/
structure Timing.Fits (t : Timing) : Prop where
  solve_pos : 1 ≤ t.solveSpan
  solve_le : t.solveSpan ≤ 128
  send_pos : 1 ≤ t.sendSpan
  send_le : t.sendSpan ≤ 127

theorem Timing.Fits.solving_eq {t : Timing} (h : t.Fits) : t.solving = -(t.solveSpan : Int) := by
  have hle := h.solve_le
  have hproduct : -(t.time_to_solve.toNat : Int) * t.solving_attempts.toNat =
      -(t.solveSpan : Int) := by
    rw [Timing.solveSpan, Nat.cast_mul, neg_mul]
  rw [Timing.solving, int8, hproduct, Int.bmod]
  split <;> omega

theorem Timing.Fits.sending_eq {t : Timing} (h : t.Fits) : t.sending = t.sendSpan := by
  have hle := h.send_le
  have hproduct : (t.time_to_send.toNat : Int) * t.sending_attempts.toNat = t.sendSpan := by
    rw [Timing.sendSpan, Nat.cast_mul]
  rw [Timing.sending, int8, hproduct, Int.bmod]
  split <;> omega

theorem Timing.Fits.send_step {t : Timing} (h : t.Fits) : 0 < t.time_to_send.toNat :=
  Nat.pos_of_mul_pos_right (Nat.lt_of_lt_of_le Nat.zero_lt_one h.send_pos)

/-- The calls after which a slot is free at the latest. -/
def Sendout.remaining (timing : Timing) (a : Sendout) : Nat :=
  if a.time < 0 then a.time.natAbs + timing.sendSpan else a.time.natAbs

/-- The transmissions a slot may still make: one on each of the multiples of
`time_to_send` it counts down to, and one when its name is solved. -/
def Sendout.quota (timing : Timing) (a : Sendout) : Nat :=
  if a.time < 0 then timing.sending_attempts.toNat + 1
  else (a.time.natAbs + timing.time_to_send.toNat - 1) / timing.time_to_send.toNat

/-- The quota of a count `m` above zero with `n` one step. -/
theorem quota_step {m n : Nat} (hn : 0 < n) :
    (m + n - 1) / n ≤ (m + 1 + n - 1) / n ∧
      (m % n = 0 → (m + n - 1) / n + 1 = (m + 1 + n - 1) / n) := by
  constructor
  · exact Nat.div_le_div_right (by omega)
  · intro hdue
    obtain ⟨k, rfl⟩ := Nat.dvd_of_mod_eq_zero hdue
    have hbefore : (n * k + n - 1) / n = k := by
      rw [Nat.add_sub_assoc hn, Nat.mul_add_div hn, Nat.div_eq_of_lt (by omega), Nat.add_zero]
    have hafter : (n * k + 1 + n - 1) / n = k + 1 := by
      have hsum : n * k + 1 + n - 1 = n * (k + 1) := by
        rw [Nat.mul_succ]
        omega
      rw [hsum, Nat.mul_div_cancel_left _ hn]
    rw [hbefore, hafter]

/-- What holds of a slot after some calls and transmissions since it was filled
under an id: what is left of its time and of its transmissions, and that these
have so far been made under the id and its successors. -/
structure Sendout.Ages (timing : Timing) (calls : Nat) (sent : List Package) (rid : Rid)
    (a : Sendout) : Prop where
  left : a.time = 0 ∨ a.remaining timing + calls ≤ timing.solveSpan + timing.sendSpan
  quota : sent.length + a.quota timing ≤ timing.sending_attempts.toNat + 1
  rids : sent.map Package.rid = (List.range sent.length).map fun k => RID_INC^[k] rid
  waiting : a.time < 0 → sent = [] ∧ a.package.rid = rid
  sending : 0 < a.time → ∃ k, sent.length = k + 1 ∧ a.package.rid = RID_INC^[k] rid

/-- A slot has no transmission left once its time is 0. -/
theorem quota_free {timing : Timing} (hfits : timing.Fits) {a : Sendout} (hfree : a.time = 0) :
    a.quota timing = 0 := by
  have hstep := hfits.send_step
  rw [Sendout.quota, if_neg (by omega), hfree]
  exact Nat.div_eq_of_lt (by simp; omega)

/-- A slot that is freed has had its transmissions. -/
theorem Sendout.Ages.free {timing : Timing} (hfits : timing.Fits) {calls : Nat}
    {sent : List Package} {rid : Rid} {a b : Sendout} (ha : a.Ages timing calls sent rid)
    (hfree : b.time = 0) (calls' : Nat) : b.Ages timing calls' sent rid := by
  refine ⟨.inl hfree, ?_, ha.rids, fun h => by omega, fun h => by omega⟩
  have hquota := ha.quota
  rw [quota_free hfits hfree]
  omega

/-- Under the next id a transmission continues the sequence. -/
theorem rids_snoc {sent : List Package} {p : Package} {rid : Rid}
    (hsent : sent.map Package.rid = (List.range sent.length).map fun k => RID_INC^[k] rid)
    (hp : p.rid = RID_INC^[sent.length] rid) :
    (sent ++ [p]).map Package.rid =
      (List.range (sent ++ [p]).length).map fun k => RID_INC^[k] rid := by
  rw [List.map_append, hsent, List.length_append, List.length_singleton, List.range_succ,
    List.map_append]
  simp [hp]

/-- One tick of the time of a slot that is in use, without a transmission. -/
theorem Sendout.Ages.count {timing : Timing} (hfits : timing.Fits) {a : Sendout} {calls : Nat}
    {sent : List Package} {rid : Rid} (ha : a.Ages timing calls sent rid) {time : Int}
    (htime : a.time < 0 ∧ time = a.time + 1 ∨ 0 < a.time ∧ time = a.time - 1) :
    { a with time : Sendout }.Ages timing (calls + 1) sent rid := by
  by_cases hfree : time = 0
  · exact ha.free hfits hfree (calls + 1)
  · obtain ⟨hleft, hquota, hrids, hwaiting, hsending⟩ := ha
    simp only [Sendout.remaining, Sendout.quota] at hleft hquota
    obtain ⟨hneg, rfl⟩ | ⟨hpos, rfl⟩ := htime
    · have hneg' : a.time + 1 < 0 := by omega
      rw [if_pos hneg] at hleft hquota
      refine ⟨.inr ?_, ?_, hrids, fun _ => hwaiting hneg, fun h => absurd h (by simp only; omega)⟩
      · rw [Sendout.remaining, if_pos hneg']
        simp only
        omega
      · rw [Sendout.quota, if_pos hneg']
        exact hquota
    · have hpos' : ¬ a.time - 1 < 0 := by omega
      rw [if_neg (by omega)] at hleft hquota
      refine ⟨.inr ?_, ?_, hrids, fun h => absurd h hpos', fun _ => hsending hpos⟩
      · rw [Sendout.remaining, if_neg hpos']
        simp only
        omega
      · have hless := (quota_step (m := (a.time - 1).natAbs) hfits.send_step).1
        have habs : (a.time - 1).natAbs + 1 = a.time.natAbs := by omega
        rw [habs] at hless
        rw [Sendout.quota, if_neg hpos']
        simp only
        omega

/-- A slot that starts to wait for its name. -/
theorem Sendout.ages_waiting {timing : Timing} (hfits : timing.Fits) {a : Sendout} {rid : Rid}
    (htime : a.time = timing.solving) (hrid : a.package.rid = rid) : a.Ages timing 0 [] rid := by
  have hspan := hfits.solve_pos
  rw [hfits.solving_eq] at htime
  have hneg : a.time < 0 := by omega
  refine ⟨.inr ?_, ?_, rfl, fun _ => ⟨rfl, hrid⟩, fun h => by omega⟩
  · rw [Sendout.remaining, if_pos hneg]
    omega
  · rw [Sendout.quota, if_pos hneg, List.length_nil, Nat.zero_add]

/-- A slot that has just made its first transmission. -/
theorem Sendout.ages_sending {timing : Timing} (hfits : timing.Fits) {b : Sendout} {calls : Nat}
    {rid : Rid} (hcalls : calls ≤ timing.solveSpan) (htime : b.time = timing.sending)
    (hrid : b.package.rid = rid) : b.Ages timing calls [b.package.package b.size] rid := by
  have hspan := hfits.send_pos
  have hstep := hfits.send_step
  rw [hfits.sending_eq] at htime
  have hpos : ¬ b.time < 0 := by omega
  have habs : b.time.natAbs = timing.sendSpan := by omega
  refine ⟨.inr ?_, ?_, ?_, fun h => absurd h hpos, fun _ => ⟨0, rfl, hrid⟩⟩
  · rw [Sendout.remaining, if_neg hpos, habs]
    omega
  · have hlast : (timing.time_to_send.toNat - 1) / timing.time_to_send.toNat = 0 :=
      Nat.div_eq_of_lt (by omega)
    rw [Sendout.quota, if_neg hpos, habs, Timing.sendSpan, Nat.add_sub_assoc hstep,
      Nat.mul_add_div hstep, hlast, List.length_singleton]
    omega
  · simp [hrid]

/-- The first transmission, under the id the slot was filled with. -/
theorem Sendout.Ages.solve {timing : Timing} (hfits : timing.Fits) {a b : Sendout} {calls : Nat}
    {sent : List Package} {rid : Rid} (ha : a.Ages timing calls sent rid) (hneg : a.time < 0)
    (htime : b.time = timing.sending) (hrid : b.package.rid = a.package.rid) :
    b.Ages timing (calls + 1) (sent ++ [b.package.package b.size]) rid := by
  obtain ⟨hleft, -, -, hwaiting, -⟩ := ha
  obtain ⟨rfl, hfirst⟩ := hwaiting hneg
  rw [Sendout.remaining, if_pos hneg] at hleft
  rw [List.nil_append]
  exact Sendout.ages_sending hfits (by omega) htime (hrid.trans hfirst)

/-- A retransmission, under the next id. -/
theorem Sendout.Ages.resend {timing : Timing} (hfits : timing.Fits) {a b : Sendout} {calls : Nat}
    {sent : List Package} {rid : Rid} (ha : a.Ages timing calls sent rid) (hpos : 0 < a.time)
    (hdue : (a.time - 1).tmod timing.time_to_send.toNat = 0) (htime : b.time = a.time - 1)
    (hrid : b.package.rid = RID_INC a.package.rid) :
    b.Ages timing (calls + 1) (sent ++ [b.package.package b.size]) rid := by
  obtain ⟨hleft, hquota, hrids, -, hsending⟩ := ha
  obtain ⟨k, hlength, hlast⟩ := hsending hpos
  have hstep := hfits.send_step
  have hpos' : ¬ b.time < 0 := by omega
  have habs : b.time.natAbs + 1 = a.time.natAbs := by omega
  have hnext : b.package.rid = RID_INC^[sent.length] rid := by
    rw [hrid, hlast, hlength, Function.iterate_succ_apply']
  refine ⟨.inr ?_, ?_, rids_snoc hrids hnext, fun h => absurd h hpos', fun _ => ?_⟩
  · rw [Sendout.remaining, if_neg (by omega)] at hleft
    rw [Sendout.remaining, if_neg hpos']
    omega
  · have hmultiple : b.time.natAbs % timing.time_to_send.toNat = 0 := by
      have hnonneg : 0 ≤ b.time := by omega
      rw [← htime, Int.tmod_eq_emod_of_nonneg hnonneg, ← Int.natAbs_of_nonneg hnonneg] at hdue
      exact_mod_cast hdue
    have hspent := (quota_step hstep).2 hmultiple
    rw [habs] at hspent
    rw [Sendout.quota, if_neg (by omega)] at hquota
    rw [Sendout.quota, if_neg hpos', List.length_append, List.length_singleton]
    omega
  · exact ⟨sent.length, by simp, hnext⟩

/-- A call of `check_send_out` lets a slot age. -/
theorem SlotTick.ages {timing : Timing} (hfits : timing.Fits) {a b : Sendout} {calls : Nat}
    {sent new : List Package} {rid : Rid} (h : SlotTick timing a new b)
    (ha : a.Ages timing calls sent rid) : b.Ages timing (calls + 1) (sent ++ new) rid := by
  cases h with
  | idle hfree =>
    rw [List.append_nil]
    exact ha.free hfits hfree (calls + 1)
  | count htime =>
    rw [List.append_nil]
    exact ha.count hfits htime
  | solve hneg hsent =>
    have htime := hsent.time_eq
    dsimp only at htime
    exact ha.solve hfits hneg htime hsent.rid_eq
  | resend hpos hdue hsent => exact ha.resend hfits hpos hdue hsent.time_eq hsent.rid_eq

/-! ## From `send_out_by_name` on -/

/-- A package built in a slot carries the data. -/
theorem Node.filled_keeps (s : Node) (i : Fin SENDOUT_QTY) (type : PackageType) {size : Nat}
    {data : List UInt8} (hsize : size = sizeof_package + (sizeof_identified_head + data.length))
    (hroom : size + sizeof_intermediate_head ≤ SENDOUT_BUFFER_SIZE) :
    ((s.filled i size type data).sendout_package i).Keeps s.my_uid data := by
  have hflag : hasFlag (PACKAGE_ACKLY ||| PACKAGE_IDENTIFIED ||| type.code) PACKAGE_INTERMEDIATE =
      false := by
    cases type <;> decide
  have hbytes := load_store_store (s.sendout_package i).package.data s.my_uid.toList data
  rw [List.Vector.toList_length] at hbytes
  have hlength : size - sizeof_package = sizeof_identified_head + data.length := by omega
  refine ⟨?_, ?_, ?_⟩
  · rw [filled_package, filled_size]
    exact ⟨by omega, fun h => absurd h (by simp [hflag])⟩
  · rw [filled_package, filled_size, PackageBuffer.content_eq]
    simp only [hflag, Bool.false_eq_true, if_false, hlength]
    exact hbytes
  · rw [Nat.add_assoc sizeof_package, ← hsize]
    exact hroom

/-- What a successful `send_out_by_name` leaves in the slot it took: the data
under a new id, sent and counting, or waiting for its name. -/
theorem Node.send_out_by_name_fills {s s' : Node} {i : Fin SENDOUT_QTY} {name data : List UInt8}
    {type : PackageType} (hslot : s.freeSlot = some i)
    (hcall : s.send_out_by_name name data type = .ok (s', true)) :
    s'.me = s.me ∧ (s'.sendout_package i).Keeps s.my_uid data ∧
      (s'.sendout_package i).package.rid = s.nextRid ∧
      ((s'.sendout_package i).time = s.me.timing.solving ∧ transmissions i s s' = [] ∨
        (s'.sendout_package i).time = s.me.timing.sending ∧
          transmissions i s s' = [(s'.sendout_package i).package.package
            (s'.sendout_package i).size]) := by
  cases send_out_by_name_offered hcall with
  | @solve j hslot' size hsize hroom _ _ hsolve =>
    obtain rfl : i = j := by
      rw [hslot] at hslot'
      exact Option.some.inj hslot'
    have hfill := (Touches.filled s i size type data).shows i
    have hkeeps := s.filled_keeps i type hsize hroom
    obtain ⟨key, l, c, hsent, rfl, htouch⟩ := Touches.solveSlot hsolve
    have hall := hfill.trans (htouch.shows i)
    refine ⟨hall.me_eq, hsent.keeps ⟨hkeeps.sized, hkeeps.data_eq, hkeeps.room⟩, ?_, .inr ⟨?_, ?_⟩⟩
    · rw [hsent.rid_eq]
      simp only [filled_package]
    · rw [hsent.time_eq, hfill.me_eq]
    · rw [hall.transmissions_eq]
      simp [Event.sentFrom]
  | @wait j hslot' size hsize hroom s₃ hbuilt =>
    obtain rfl : i = j := by
      rw [hslot] at hslot'
      exact Option.some.inj hslot'
    have hfill := (Touches.filled s i size type data).shows i
    have hkeeps := s.filled_keeps i type hsize hroom
    rw [← hbuilt] at hfill hkeeps
    have hcounting := (Touches.setSendout s₃ i
      { s₃.sendout_package i with key := nameOf name, time := s₃.me.timing.solving }).shows i
    obtain ⟨hrequest, hsame⟩ := Shows.request i (s₃.setSendout i
      { s₃.sendout_package i with key := nameOf name, time := s₃.me.timing.solving })
      PACKAGE_IDENTIFIED .NAME_REQUEST sizeof_identified_head (strncpy name NAME_SIZE)
      (sizeof_package + sizeof_identified_head + NAME_SIZE) broadcast_uid
    have hall := (hfill.trans hcounting).trans hrequest
    have hslot₃ : ((s₃.setSendout i { s₃.sendout_package i with
        key := nameOf name, time := s₃.me.timing.solving }).send_name_request name).sendout_package i =
        { s₃.sendout_package i with key := nameOf name, time := s₃.me.timing.solving } := by
      rw [Node.send_name_request, hsame, setSendout_self]
    refine ⟨hall.me_eq, ?_, ?_, .inl ⟨?_, ?_⟩⟩
    · rw [hslot₃]
      exact ⟨hkeeps.sized, hkeeps.data_eq, hkeeps.room⟩
    · rw [hslot₃]
      simp only [hbuilt, filled_package]
    · rw [hslot₃, hfill.me_eq]
    · exact hall.transmissions_eq

/-- How long a package has been in slot `i`: from the `send_out_by_name` that
put it there through calls of `check_send_out`, counted and with what they send
from the slot. Between them anything may change but the slot and the settings,
and the slot may be acknowledged. -/
inductive Occupation (i : Fin SENDOUT_QTY) (timing : Timing) (uid : Uid) (rid : Rid)
    (data : List UInt8) : Nat → List Package → Node → Prop where
  | fill {s s' : Node} {name : List UInt8} {type : PackageType} (hslot : s.freeSlot = some i)
      (htiming : s.me.timing = timing) (huid : s.my_uid = uid) (hrid : s.nextRid = rid)
      (hcall : s.send_out_by_name name data type = .ok (s', true)) :
      Occupation i timing uid rid data 0 (Node.transmissions i s s') s'
  | between {calls : Nat} {sent : List Package} {s s' : Node}
      (hrun : Occupation i timing uid rid data calls sent s) (htiming : s'.me.timing = timing)
      (hslot : s'.sendout_package i = s.sendout_package i ∨
        s'.sendout_package i = { s.sendout_package i with time := 0 }) :
      Occupation i timing uid rid data calls sent s'
  | check {calls : Nat} {sent : List Package} {s s' : Node}
      (hrun : Occupation i timing uid rid data calls sent s) (hcall : s.check_send_out = .ok s') :
      Occupation i timing uid rid data (calls + 1) (sent ++ Node.transmissions i s s') s'

theorem Occupation.timing_eq {i : Fin SENDOUT_QTY} {timing : Timing} {uid : Uid} {rid : Rid}
    {data : List UInt8} {calls : Nat} {sent : List Package} {s : Node}
    (hrun : Occupation i timing uid rid data calls sent s) : s.me.timing = timing := by
  induction hrun with
  | fill hslot htiming _ _ hcall => rw [(Node.send_out_by_name_fills hslot hcall).1, htiming]
  | between _ htiming _ _ => exact htiming
  | check _ hcall ih => rw [(Node.check_send_out_ticks hcall i).2, ih]

theorem Occupation.keeps {i : Fin SENDOUT_QTY} {timing : Timing} {uid : Uid} {rid : Rid}
    {data : List UInt8} {calls : Nat} {sent : List Package} {s : Node}
    (hrun : Occupation i timing uid rid data calls sent s) :
    (s.sendout_package i).Keeps uid data := by
  induction hrun with
  | fill hslot _ huid _ hcall =>
    rw [← huid]
    exact (Node.send_out_by_name_fills hslot hcall).2.1
  | between _ _ hslot ih =>
    obtain hsame | hfreed := hslot
    · rwa [hsame]
    · rw [hfreed]
      exact ⟨ih.sized, ih.data_eq, ih.room⟩
  | check _ hcall ih => exact (Node.check_send_out_ticks hcall i).1.keeps ih

/-- Whatever the routes do while a package is in its slot, the stored size is
that of its heads and its payload, with an intermediate head exactly when the
flag is set, it fits the buffer, and the payload is the one given. -/
theorem Occupation.buffer_correct {i : Fin SENDOUT_QTY} {timing : Timing} {uid : Uid} {rid : Rid}
    {data : List UInt8} {calls : Nat} {sent : List Package} {s : Node}
    (hrun : Occupation i timing uid rid data calls sent s) :
    let a := s.sendout_package i
    let wrapping := if hasFlag a.package.flags PACKAGE_INTERMEDIATE then sizeof_intermediate_head else 0
    a.size = sizeof_package + sizeof_identified_head + data.length + wrapping ∧
      a.size ≤ SENDOUT_BUFFER_SIZE ∧
      load a.package.data (sizeof_identified_head + wrapping) data.length = data :=
  ⟨hrun.keeps.size_eq, hrun.keeps.size_le.1, hrun.keeps.payload_eq⟩

theorem Occupation.ages {i : Fin SENDOUT_QTY} {timing : Timing} {uid : Uid} {rid : Rid}
    {data : List UInt8} {calls : Nat} {sent : List Package} {s : Node} (hfits : timing.Fits)
    (hrun : Occupation i timing uid rid data calls sent s) :
    (s.sendout_package i).Ages timing calls sent rid := by
  induction hrun with
  | @fill s s' name type hslot htiming _ hrid hcall =>
    obtain ⟨-, -, hfirst, hfilled⟩ := Node.send_out_by_name_fills hslot hcall
    rw [hrid] at hfirst
    rw [htiming] at hfilled
    obtain ⟨htime, hnone⟩ | ⟨htime, hsent⟩ := hfilled
    · rw [hnone]
      exact Sendout.ages_waiting hfits htime hfirst
    · rw [hsent]
      exact Sendout.ages_sending hfits (Nat.zero_le _) htime hfirst
  | between _ _ hslot ih =>
    obtain hsame | hfreed := hslot
    · rwa [hsame]
    · rw [hfreed]
      exact ih.free hfits rfl _
  | check hrun hcall ih =>
    have htick := (Node.check_send_out_ticks hcall i).1
    rw [hrun.timing_eq] at htick
    exact htick.ages hfits ih

/-! ## The calls return -/

theorem Sendout.Keeps.wrapFor_ok {a : Sendout} {source : Uid} {payload : List UInt8}
    (h : a.Keeps source payload) (entry : UidTableEntry) (direct : Bool) :
    ∃ result, Transmission.wrapFor entry direct (SENDOUT_BUFFER_SIZE - sizeof_package) a.package
      a.size = .ok result := by
  obtain ⟨hsize, hbare⟩ := h.size_le
  have hroom : a.size ≤ SENDOUT_BUFFER_SIZE - sizeof_package + sizeof_package := by
    simp only [SENDOUT_BUFFER_SIZE, sizeof_package] at hsize ⊢
    omega
  have hbound : a.size < 2 ^ 16 := by
    simp only [SENDOUT_BUFFER_SIZE] at hsize
    omega
  cases hflag : hasFlag a.package.flags PACKAGE_INTERMEDIATE with
  | true => exact wrapFor_intermediate_ok entry direct hflag (h.sized.2 hflag) hroom hbound
  | false =>
    refine wrapFor_bare_ok entry direct hflag h.sized.1 ?_ hbound
    have hfits := hbare hflag
    simp only [SENDOUT_BUFFER_SIZE, sizeof_package] at hfits ⊢
    omega

/-- Sending a slot's package over a route that has a link returns. -/
theorem Node.sendSlot_ok (source : Uid) (payload : List UInt8) {s : Node} {i : Fin SENDOUT_QTY}
    {uidt : Entry} (hkeeps : (s.sendout_package i).Keeps source payload)
    (hlink : (s.transmission.uid_table uidt).link.isSome) : ∃ s', s.sendSlot i uidt = .ok s' := by
  obtain ⟨l, hl⟩ := Option.isSome_iff_exists.mp hlink
  obtain ⟨⟨value, size⟩, hwrap⟩ := hkeeps.wrapFor_ok (s.transmission.uid_table uidt)
    ((s.transmission.uid_table uidt).uid == s.transmission.neighbor l)
  have hwrap' : Transmission.wrapFor (s.transmission.uid_table uidt)
      ((s.transmission.uid_table uidt).uid == s.transmission.neighbor l)
      (Buffer.sendout i).capacity (s.packageBuffer (.sendout i)) (s.sendout_package i).size =
        .ok (value, size) := hwrap
  simp [Node.sendSlot, Node.send_package_by_table, Transmission.send_package_by_table, hl, hwrap']

theorem Node.solveSlot_ok (source : Uid) (payload : List UInt8) {s : Node} {i : Fin SENDOUT_QTY}
    {uidt : Entry} (hkeeps : (s.sendout_package i).Keeps source payload)
    (hlink : (s.transmission.uid_table uidt).link.isSome) : ∃ s', s.solveSlot i uidt = .ok s' := by
  refine Node.sendSlot_ok source payload ?_ hlink
  rw [setSendout_self]
  exact ⟨hkeeps.sized, hkeeps.data_eq, hkeeps.room⟩

/-- One round of `check_send_out` returns when the routes in use have a link. -/
theorem Node.check_send_out_slot_ok {s : Node} {i : Fin SENDOUT_QTY} {source : Uid}
    {payload : List UInt8} (hkeeps : (s.sendout_package i).Keeps source payload)
    (hsolve : s.me.time_to_solve ≠ 0) (hsend : s.me.time_to_send ≠ 0)
    (hlinked : ∀ e ∈ s.transmission.active, (s.transmission.uid_table e).link.isSome) :
    ∃ s', s.check_send_out_slot i = .ok s' := by
  have hsolve' : ∀ slot, ¬ (s.setSendout i slot).me.time_to_solve = 0 := fun _ => hsolve
  have hsend' : ∀ slot, ¬ (s.setSendout i slot).me.time_to_send = 0 := fun _ => hsend
  unfold Node.check_send_out_slot
  dsimp only
  split
  · split
    · rename_i uidt hfind
      exact Node.solveSlot_ok source payload hkeeps (hlinked uidt (List.mem_of_find?_eq_some hfind))
    · rw [if_neg (hsolve' _)]
      split <;> exact ⟨_, rfl⟩
  · split
    · rw [if_neg (hsend' _)]
      split
      · split
        · rename_i uidt hfind
          refine Node.sendSlot_ok source payload ?_ ?_
          · have hdata := hkeeps.data_eq
            rw [PackageBuffer.content_eq] at hdata
            simp only [Node.setPackageBuffer, setSendout_self, Function.update_self]
            exact ⟨hkeeps.sized, by rwa [PackageBuffer.content_eq], hkeeps.room⟩
          · exact hlinked uidt (List.mem_of_find?_eq_some hfind)
        · exact ⟨_, rfl⟩
      · exact ⟨_, rfl⟩
    · exact ⟨_, rfl⟩

/-! ## The ids of the transmissions -/

/-- `RID_INC` counts in the flexible byte. -/
theorem RID_INC_toUInt8 (rid : Rid) : (RID_INC rid).toUInt8 = rid.toUInt8 + 1 := by
  have hfixed : RID_FIXED.toUInt8 = 0 := by decide
  have hflex : RID_FLEX.toUInt8 = -1 := by decide
  rw [RID_INC, UInt32.toUInt8_or, UInt32.toUInt8_and, UInt32.toUInt8_and, UInt32.toUInt8_add, hfixed,
    hflex, UInt8.and_zero, UInt8.and_neg_one, UInt8.zero_or]
  rfl

theorem RID_INC_iterate (rid : Rid) (k : Nat) :
    (RID_INC^[k] rid).toUInt8 = rid.toUInt8 + UInt8.ofNat k ∧
      RID_INC^[k] rid &&& RID_FIXED = rid &&& RID_FIXED := by
  induction k with
  | zero => simp
  | succ k ih =>
    rw [Function.iterate_succ_apply', RID_INC_toUInt8, RID_INC_fixed, ih.1, ih.2, UInt8.ofNat_add,
      UInt8.add_assoc]
    exact ⟨rfl, rfl⟩

/-- Fewer than 256 successors of an id are different. -/
theorem rids_nodup (rid : Rid) {n : Nat} (hn : n ≤ 256) :
    ((List.range n).map fun k => RID_INC^[k] rid).Nodup := by
  refine List.Nodup.map_on ?_ List.nodup_range
  intro j hj k hk hsame
  rw [List.mem_range] at hj hk
  have hbytes := congrArg UInt32.toUInt8 hsame
  rw [(RID_INC_iterate rid j).1, (RID_INC_iterate rid k).1, UInt8.add_right_inj] at hbytes
  have hvalues := congrArg UInt8.toNat hbytes
  rw [UInt8.toNat_ofNat', UInt8.toNat_ofNat'] at hvalues
  omega

/-- A slot that `send_out_by_name` has filled is free after as many calls of
`check_send_out` as the two spans have ticks, whatever the routes do. Its
package is transmitted at most once more than it has attempts, under different
ids with the same upper 24 bits. A call returns when the routes in use have a
link. -/
theorem Occupation.lifetime {i : Fin SENDOUT_QTY} {timing : Timing} {uid : Uid} {rid : Rid}
    {data : List UInt8} {calls : Nat} {sent : List Package} {s : Node} (hfits : timing.Fits)
    (hrun : Occupation i timing uid rid data calls sent s) :
    (timing.solveSpan + timing.sendSpan ≤ calls → (s.sendout_package i).time = 0) ∧
      sent.length ≤ timing.sending_attempts.toNat + 1 ∧
      (sent.map Package.rid).Nodup ∧
      (∀ p ∈ sent, p.rid &&& RID_FIXED = rid &&& RID_FIXED) ∧
      ((∀ e ∈ s.transmission.active, (s.transmission.uid_table e).link.isSome) →
        ∃ s', s.check_send_out_slot i = .ok s') := by
  obtain ⟨hleft, hquota, hrids, -, -⟩ := hrun.ages hfits
  have hlength : sent.length ≤ timing.sending_attempts.toNat + 1 := by omega
  refine ⟨?_, hlength, ?_, ?_, ?_⟩
  · intro hcalls
    obtain hfree | hleft := hleft
    · exact hfree
    · have hspan := hfits.send_pos
      rw [Sendout.remaining] at hleft
      split at hleft <;> omega
  · rw [hrids]
    have hattempts := timing.sending_attempts.toNat_lt
    exact rids_nodup rid (by omega)
  · intro p hp
    have hmem := List.mem_map_of_mem (f := Package.rid) hp
    rw [hrids] at hmem
    obtain ⟨k, -, hk⟩ := List.mem_map.mp hmem
    rw [← hk]
    exact (RID_INC_iterate rid k).2
  · intro hlinked
    have htiming := hrun.timing_eq
    have hsolve : 0 < timing.time_to_solve.toNat :=
      Nat.pos_of_mul_pos_right (Nat.lt_of_lt_of_le Nat.zero_lt_one hfits.solve_pos)
    refine Node.check_send_out_slot_ok hrun.keeps ?_ ?_ hlinked
    · intro hzero
      have hsame : timing.time_to_solve = s.me.time_to_solve := by rw [← htiming]; rfl
      rw [hsame, hzero] at hsolve
      exact absurd hsolve (by decide)
    · intro hzero
      have hstep := hfits.send_step
      have hsame : timing.time_to_send = s.me.time_to_send := by rw [← htiming]; rfl
      rw [hsame, hzero] at hstep
      exact absurd hstep (by decide)

/-- A node that knows the neighbour `b`. -/
def routedNode : Node :=
  let s := Node.boot (linkLocal 0 1) (init_settings (nameOf [0x61])) fun n => UInt8.ofNat n
  s.setTransmission ((s.transmission.new_neighbor (linkLocal 0 2)).register_uid (linkLocal 0 2)
    (some 0) (some [0x62]))

/-- It has sent `hi` to `b`, and once more. -/
def sendingNode : Node :=
  match routedNode.send_out_by_name [0x62] [0x68, 0x69] .MSG with
  | .ok (s, _) => s
  | .error _ => routedNode

def resendingNode : Node :=
  match sendingNode.check_send_out with
  | .ok s => s
  | .error _ => sendingNode

theorem resending_occupation :
    Occupation 0 routedNode.me.timing (linkLocal 0 1) routedNode.nextRid [0x68, 0x69] 1
      (Node.transmissions 0 routedNode sendingNode ++
        Node.transmissions 0 sendingNode resendingNode) resendingNode := by
  have hfilled : routedNode.send_out_by_name [0x62] [0x68, 0x69] .MSG = .ok (sendingNode, true) := rfl
  have hchecked : sendingNode.check_send_out = .ok resendingNode := rfl
  exact .check (.fill (by decide) rfl rfl rfl hfilled) hchecked

theorem resending_buffer :
    let a := resendingNode.sendout_package 0
    a.size = 23 ∧ load a.package.data 16 2 = [0x68, 0x69] := by
  have hcorrect := Occupation.buffer_correct resending_occupation
  have hflag : hasFlag (resendingNode.sendout_package 0).package.flags PACKAGE_INTERMEDIATE = false := by
    decide
  simp only [hflag] at hcorrect
  exact ⟨hcorrect.1, hcorrect.2.2⟩

theorem resending_lifetime :
    (Node.transmissions 0 routedNode sendingNode ++
        Node.transmissions 0 sendingNode resendingNode).length = 2 ∧
      ((Node.transmissions 0 routedNode sendingNode ++
        Node.transmissions 0 sendingNode resendingNode).map Package.rid).Nodup := by
  have hfits : routedNode.me.timing.Fits := ⟨by decide, by decide, by decide, by decide⟩
  exact ⟨by decide, (Occupation.lifetime hfits resending_occupation).2.2.1⟩

end concretid.ems
