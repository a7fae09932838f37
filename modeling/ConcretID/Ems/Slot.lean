import ConcretID.Ems.Content
import ConcretID.Ems.Node

open concretid.memory

namespace concretid.ems

/-- A slot has just been filled with `data` of the given type. -/
structure Sendout.Filled (a : Sendout) (uid : Uid) (rid : Rid) (type : PackageType)
    (data : List UInt8) : Prop where
  kind : type = .MSG ∨ type = .COMMAND
  rid_eq : a.package.rid = rid
  flags_eq : a.package.flags = PACKAGE_ACKLY ||| PACKAGE_IDENTIFIED ||| type.code
  size_eq : a.size = sizeof_package + (sizeof_identified_head + data.length)
  room : a.size + sizeof_intermediate_head ≤ SENDOUT_BUFFER_SIZE
  data_eq : load a.package.data 0 (sizeof_identified_head + data.length) = uid.toList ++ data

/-- A slot's package has been sent over a route to `uid` whose next hop is `dest`. -/
structure Sendout.Sent (a : Sendout) (uid dest : Uid) (b : Sendout) : Prop where
  wrap : ∃ entry : UidTableEntry, entry.uid = uid ∧
    Transmission.wrapFor entry (uid == dest) (SENDOUT_BUFFER_SIZE - sizeof_package) a.package
      a.size = .ok (b.package, b.size)
  key_eq : b.key = a.key
  time_eq : b.time = a.time

/-- What `sendout.c` does with one slot, with the calls that show it: free it,
set the size of a package that is then refused, count its time, fill it and wait
for the name to be solved, fill it and send, send once the name is solved, and
send again. -/
inductive SlotStep (timing : Timing) (uid : Uid) (i : Fin SENDOUT_QTY) :
    Sendout → List Event → Sendout → Prop where
  | free (a : Sendout) : SlotStep timing uid i a [] { a with time := 0 }
  | refuse {a : Sendout} (size : Nat) (hfree : a.time = 0) :
      SlotStep timing uid i a [] { a with size }
  | count {a : Sendout} {time : Int}
      (htime : a.time < 0 ∧ time = a.time + 1 ∨ 0 < a.time ∧ time = a.time - 1) :
      SlotStep timing uid i a [] { a with time }
  | wait {a b : Sendout} {rid : Rid} {type : PackageType} {data : List UInt8} (hfree : a.time = 0)
      (hfilled : b.Filled uid rid type data) (htime : b.time = timing.solving) :
      SlotStep timing uid i a [.make_package_head (.sendout i) rid] b
  | start {a b c : Sendout} {rid : Rid} {type : PackageType} {data : List UInt8} {dest : Uid}
      (hfree : a.time = 0) (hfilled : b.Filled uid rid type data) (htime : b.time = timing.sending)
      (hsent : b.Sent b.key dest c) :
      SlotStep timing uid i a
        [.make_package_head (.sendout i) rid,
          .send_package (.sendout i) (c.package.package c.size) dest] c
  | solve {a c : Sendout} {key dest : Uid} (htime : a.time < 0)
      (hsent : { a with key, time := timing.sending : Sendout }.Sent key dest c) :
      SlotStep timing uid i a [.send_package (.sendout i) (c.package.package c.size) dest] c
  | resend {a c : Sendout} {dest : Uid} (htime : 0 < a.time)
      (hsent : { a with
        time := a.time - 1
        package := { a.package with rid := RID_INC a.package.rid } : Sendout }.Sent a.key dest c) :
      SlotStep timing uid i a [.send_package (.sendout i) (c.package.package c.size) dest] c

/-- Whether a call makes an id with the given upper bits. -/
def Event.makes (fixed : Rid) : Event → Bool
  | .make_package_head _ rid => rid &&& RID_FIXED == fixed
  | _ => false

/-- A run of steps of one slot, with all the calls that show it. -/
inductive SlotRun (timing : Timing) (uid : Uid) (i : Fin SENDOUT_QTY) (a : Sendout) :
    List Event → Sendout → Prop where
  | refl : SlotRun timing uid i a [] a
  | step {b c : Sendout} {events new : List Event} (hrun : SlotRun timing uid i a events b)
      (hstep : SlotStep timing uid i b new c) : SlotRun timing uid i a (events ++ new) c

theorem SlotRun.trans {timing : Timing} {uid : Uid} {i : Fin SENDOUT_QTY} {a b c : Sendout}
    {events later : List Event} (hrun : SlotRun timing uid i a events b)
    (hrest : SlotRun timing uid i b later c) : SlotRun timing uid i a (events ++ later) c := by
  induction hrest with
  | refl => simpa using hrun
  | step _ hstep ih =>
    rw [← List.append_assoc]
    exact .step ih hstep

theorem SlotStep.run {timing : Timing} {uid : Uid} {i : Fin SENDOUT_QTY} {a b : Sendout}
    {new : List Event} (hstep : SlotStep timing uid i a new b) : SlotRun timing uid i a new b := by
  simpa using SlotRun.refl.step hstep

/-- The settings let a slot count down from below zero while it waits and from
above zero while it sends, as those of `init_settings` do. -/
structure Timing.Proper (t : Timing) : Prop where
  solving_neg : t.solving < 0
  sending_pos : 0 < t.sending

/-- A slot's package carries the same content since it was filled, wrapped for
the slot's uid when it is wrapped. -/
structure Sendout.Carries (a : Sendout) (fixed : Rid) (flags : UInt8) (data : List UInt8) :
    Prop where
  fixed_eq : a.package.rid &&& RID_FIXED = fixed
  content_eq : (a.package.package a.size).content = { rid := a.package.rid, flags, data }
  sized : a.package.Sized a.size
  room : sizeof_package + data.length + sizeof_intermediate_head ≤ SENDOUT_BUFFER_SIZE
  wrapped : hasFlag a.package.flags PACKAGE_INTERMEDIATE = true →
    0 ≤ a.time ∧ uidAt a.package.data 0 = a.key

/-- The size of a buffer's package is that of its content and its heads. -/
theorem PackageBuffer.Sized.size_eq {b : PackageBuffer} {size : Nat} (h : b.Sized size) :
    size = sizeof_package + (b.package size).content.data.length +
      (if hasFlag b.flags PACKAGE_INTERMEDIATE = true then sizeof_intermediate_head else 0) := by
  obtain ⟨hmin, hhead⟩ := h
  rw [PackageBuffer.content_eq]
  simp only [sizeof_package, sizeof_intermediate_head] at hmin hhead ⊢
  split
  · rename_i hflag
    have hge := hhead hflag
    simp only [load_length]
    omega
  · simp only [load_length]
    omega

/-- What was filled in is carried. -/
theorem Sendout.Filled.carries {a : Sendout} {uid : Uid} {rid : Rid} {type : PackageType}
    {data : List UInt8} (h : a.Filled uid rid type data) :
    a.Carries (rid &&& RID_FIXED) (PACKAGE_ACKLY ||| PACKAGE_IDENTIFIED ||| type.code)
      (uid.toList ++ data) := by
  have hflag : hasFlag a.package.flags PACKAGE_INTERMEDIATE = false := by
    rw [h.flags_eq]
    obtain hkind | hkind := h.kind <;> rw [hkind] <;> decide
  have hsize := h.size_eq
  have hroom := h.room
  refine ⟨by rw [h.rid_eq], ?_, ⟨?_, ?_⟩, ?_, ?_⟩
  · have hlength : a.size - sizeof_package = sizeof_identified_head + data.length := by omega
    rw [PackageBuffer.content_eq, hlength, h.data_eq, clear_eq_self hflag, if_neg (by simp [hflag]),
      h.flags_eq]
  · omega
  · simp [hflag]
  · simp only [List.length_append, List.Vector.toList_length]
    simp only [sizeof_package, sizeof_identified_head, sizeof_intermediate_head, UID_SIZE,
      SENDOUT_BUFFER_SIZE] at *
    omega
  · simp [hflag]

/-- Sending keeps what a slot carries. The package is sent bare to its end, and
with a head naming its end to anyone else. -/
theorem Sendout.Sent.carries {a b : Sendout} {dest : Uid} {fixed : Rid} {flags : UInt8}
    {data : List UInt8} (h : a.Sent a.key dest b) (ha : a.Carries fixed flags data)
    (htime : 0 ≤ a.time) :
    b.Carries fixed flags data ∧
      (b.package.package b.size).finalDest dest = b.key ∧
      ((b.package.package b.size).intermediate = true → dest ≠ (b.package.package b.size).head) := by
  obtain ⟨entry, hentry, hwrap⟩ := h.wrap
  have hsize := ha.sized.size_eq
  have hroom := ha.room
  rw [ha.content_eq] at hsize
  have hbound : a.size + sizeof_intermediate_head < 2 ^ 16 := by
    simp only [sizeof_package, sizeof_intermediate_head, SENDOUT_BUFFER_SIZE] at *
    split at hsize <;> omega
  obtain ⟨hcontent, hsized, hflag, hhead, _⟩ := wrapFor_content hwrap ha.sized hbound
  have hrid : b.package.rid = a.package.rid := by
    have hrids := congrArg Package.rid hcontent
    simpa using hrids
  have hfinal : hasFlag b.package.flags PACKAGE_INTERMEDIATE = true →
      uidAt b.package.data 0 = b.key ∧ dest ≠ a.key := by
    intro hset
    rw [hset] at hflag
    have hdirect : (a.key == dest) = false := by simpa using hflag.symm
    refine ⟨?_, ?_⟩
    · rw [hhead hdirect, h.key_eq]
      split
      · rename_i hwrapped
        exact (ha.wrapped hwrapped).2
      · exact hentry
    · rintro rfl
      simp at hdirect
  refine ⟨⟨?_, ?_, hsized, hroom, ?_⟩, ?_, ?_⟩
  · rw [hrid, ha.fixed_eq]
  · rw [hcontent, ha.content_eq, hrid]
  · intro hset
    exact ⟨by rw [h.time_eq]; exact htime, (hfinal hset).1⟩
  · unfold Package.finalDest
    split
    · rename_i hset
      rw [PackageBuffer.head_eq (hsized.2 hset)]
      exact (hfinal hset).1
    · rename_i hset
      rw [PackageBuffer.package_intermediate] at hset
      have hdirect : (a.key == dest) = true := by simpa [hset] using hflag
      rw [h.key_eq]
      exact (beq_iff_eq.mp hdirect).symm
  · intro hset
    rw [PackageBuffer.head_eq (hsized.2 hset), (hfinal hset).1, h.key_eq]
    exact (hfinal hset).2

/-- What a slot has sent under the ids of one package: always the same content
for the same end. -/
structure Sendout.Serves (b : Sendout) (i : Fin SENDOUT_QTY) (fixed : Rid) (flags : UInt8)
    (data : List UInt8) (events : List Event) : Prop where
  carries : b.time ≠ 0 → b.package.rid &&& RID_FIXED = fixed → b.Carries fixed flags data
  sends : ∃ last, ∀ p dest, .send_package (.sendout i) p dest ∈ events →
    p.rid &&& RID_FIXED = fixed →
      p.content = { rid := p.rid, flags, data } ∧ p.finalDest dest = last ∧
        (p.intermediate = true → dest ≠ p.head) ∧
        (b.time ≠ 0 → b.package.rid &&& RID_FIXED = fixed → 0 < b.time ∧ b.key = last)

/-- One transmission of what a slot carries. -/
theorem Sendout.Sent.serves {a b : Sendout} {dest : Uid} {i : Fin SENDOUT_QTY} {fixed : Rid}
    {flags : UInt8} {data : List UInt8} {events new : List Event} (h : a.Sent a.key dest b)
    (ha : a.Carries fixed flags data) (htime : 0 ≤ a.time)
    (hnew : ∀ p d, .send_package (.sendout i) p d ∈ new → p = b.package.package b.size ∧ d = dest)
    (hbefore : ∃ last, ∀ p d, .send_package (.sendout i) p d ∈ events →
      p.rid &&& RID_FIXED = fixed →
        p.content = { rid := p.rid, flags, data } ∧ p.finalDest d = last ∧
          (p.intermediate = true → d ≠ p.head) ∧ a.key = last) :
    b.Serves i fixed flags data (events ++ new) := by
  obtain ⟨hb, hfinal, hbypass⟩ := h.carries ha htime
  obtain ⟨last, hlast⟩ := hbefore
  refine ⟨fun _ _ => hb, b.key, ?_⟩
  intro p d hmem hfixed
  have hpos : b.time ≠ 0 → b.package.rid &&& RID_FIXED = fixed → 0 < b.time ∧ b.key = b.key := by
    intro hne _
    rw [h.time_eq] at hne ⊢
    exact ⟨by omega, rfl⟩
  obtain hold | hsent := List.mem_append.mp hmem
  · obtain ⟨hcontent, hend, hhop, hkey⟩ := hlast p d hold hfixed
    exact ⟨hcontent, by rw [hend, h.key_eq, hkey], hhop, hpos⟩
  · obtain ⟨rfl, rfl⟩ := hnew p d hsent
    exact ⟨hb.content_eq, hfinal, hbypass, hpos⟩

/-- A package just filled in is served, sent at once or not. -/
theorem Sendout.Filled.serves {b : Sendout} {uid : Uid} {rid : Rid} {type : PackageType}
    {data : List UInt8} {i : Fin SENDOUT_QTY} {events : List Event}
    (h : b.Filled uid rid type data)
    (hunsent : ∀ p d, .send_package (.sendout i) p d ∈ events →
      p.rid &&& RID_FIXED ≠ rid &&& RID_FIXED) :
    b.Serves i (rid &&& RID_FIXED) (PACKAGE_ACKLY ||| PACKAGE_IDENTIFIED ||| type.code)
      (uid.toList ++ data) events :=
  ⟨fun _ _ => h.carries, b.key, fun p d hmem hfixed => absurd hfixed (hunsent p d hmem)⟩

/-- The ids of a slot's package differ in the flexible byte only. -/
theorem Sendout.Carries.resend {a : Sendout} {fixed : Rid} {flags : UInt8} {data : List UInt8}
    (h : a.Carries fixed flags data) (htime : 0 < a.time) :
    { a with
      time := a.time - 1
      package := { a.package with rid := RID_INC a.package.rid } : Sendout }.Carries
        fixed flags data := by
  refine ⟨?_, ?_, h.sized, h.room, ?_⟩
  · rw [← h.fixed_eq]
    exact RID_INC_fixed a.package.rid
  · have hcontent := h.content_eq
    rw [PackageBuffer.content_eq] at hcontent ⊢
    simpa using hcontent
  · intro hset
    exact ⟨by simp only; omega, (h.wrapped hset).2⟩

theorem Sendout.Sent.rid_eq {a b : Sendout} {uid dest : Uid} (h : a.Sent uid dest b) :
    b.package.rid = a.package.rid := by
  obtain ⟨_, _, hwrap⟩ := h.wrap
  exact wrapFor_rid hwrap

/-- The one package a call shows has the id of its buffer. -/
theorem sent_rid {i : Fin SENDOUT_QTY} {b : PackageBuffer} {size : Nat} {p : Package} {d dest : Uid}
    (hmem : Event.send_package (.sendout i) p d ∈ [.send_package (.sendout i) (b.package size) dest]) :
    p.rid = b.rid := by
  simp only [List.mem_singleton, Event.send_package.injEq, true_and] at hmem
  rw [hmem.1, PackageBuffer.package_rid]

/-- A slot that has come to hold another package serves the old one as before. -/
theorem Sendout.Serves.other {a b : Sendout} {i : Fin SENDOUT_QTY} {fixed : Rid} {flags : UInt8}
    {data : List UInt8} {events new : List Event} (ha : a.Serves i fixed flags data events)
    (hb : b.package.rid &&& RID_FIXED ≠ fixed)
    (hnew : ∀ p d, .send_package (.sendout i) p d ∈ new → p.rid = b.package.rid) :
    b.Serves i fixed flags data (events ++ new) := by
  obtain ⟨_, last, hlast⟩ := ha
  refine ⟨fun _ hfixed => absurd hfixed hb, last, fun p d hmem hfixed => ?_⟩
  obtain hold | hsent := List.mem_append.mp hmem
  · obtain ⟨hcontent, hend, hhop, _⟩ := hlast p d hold hfixed
    exact ⟨hcontent, hend, hhop, fun _ hf => absurd hf hb⟩
  · rw [hnew p d hsent] at hfixed
    exact absurd hfixed hb

/-- Every step but the filling with the package itself keeps a package served. -/
theorem SlotStep.serves {timing : Timing} {uid : Uid} {i : Fin SENDOUT_QTY} {a b : Sendout}
    {fixed : Rid} {flags : UInt8} {data : List UInt8} {events new : List Event}
    (hproper : timing.Proper) (hstep : SlotStep timing uid i a new b)
    (ha : a.Serves i fixed flags data events)
    (hother : ∀ rid, .make_package_head (.sendout i) rid ∈ new → rid &&& RID_FIXED ≠ fixed) :
    b.Serves i fixed flags data (events ++ new) := by
  obtain ⟨hcarries, last, hlast⟩ := id ha
  cases hstep with
  | free =>
    rw [List.append_nil]
    refine ⟨fun hne => absurd rfl hne, last, fun p d hmem hfixed => ?_⟩
    obtain ⟨hcontent, hend, hhop, _⟩ := hlast p d hmem hfixed
    exact ⟨hcontent, hend, hhop, fun hne => absurd rfl hne⟩
  | refuse size hfree =>
    rw [List.append_nil]
    refine ⟨fun hne => absurd hfree hne, last, fun p d hmem hfixed => ?_⟩
    obtain ⟨hcontent, hend, hhop, _⟩ := hlast p d hmem hfixed
    exact ⟨hcontent, hend, hhop, fun hne => absurd hfree hne⟩
  | @count time htime =>
    rw [List.append_nil]
    have hused : a.time ≠ 0 := by omega
    refine ⟨fun hne hfixed => ?_, last, fun p d hmem hfixed => ?_⟩
    · obtain ⟨hf, hcontent, hsized, hroom, hwrapped⟩ := hcarries hused hfixed
      refine ⟨hf, hcontent, hsized, hroom, fun hset => ?_⟩
      have hpos := (hwrapped hset).1
      exact ⟨by simp only at hne ⊢; omega, (hwrapped hset).2⟩
    · obtain ⟨hcontent, hend, hhop, hkey⟩ := hlast p d hmem hfixed
      refine ⟨hcontent, hend, hhop, fun hne hf => ?_⟩
      obtain ⟨hpos, hk⟩ := hkey hused hf
      exact ⟨by simp only at hne ⊢; omega, hk⟩
  | @wait _ rid type data' hfree hfilled htime =>
    refine ha.other ?_ ?_
    · rw [hfilled.rid_eq]
      exact hother rid (by simp)
    · intro p d hmem
      simp at hmem
  | @start b' _ rid type data' dest hfree hfilled htime hsent =>
    refine ha.other ?_ ?_
    · rw [hsent.rid_eq, hfilled.rid_eq]
      exact hother rid (by simp)
    · intro p d hmem
      simp only [List.mem_cons, reduceCtorEq, Event.send_package.injEq, true_and,
        List.not_mem_nil, or_false, false_or] at hmem
      rw [hmem.1, PackageBuffer.package_rid]
  | @solve _ key dest htime hsent =>
    have hused : a.time ≠ 0 := by omega
    by_cases hfixed : a.package.rid &&& RID_FIXED = fixed
    · obtain ⟨hf, hcontent, hsized, hroom, hwrapped⟩ := hcarries hused hfixed
      have hbare : ¬ hasFlag a.package.flags PACKAGE_INTERMEDIATE = true := by
        intro hset
        have hwaited := (hwrapped hset).1
        omega
      have hcarried : { a with key, time := timing.sending : Sendout }.Carries fixed flags data := by
        refine ⟨hf, hcontent, hsized, hroom, ?_⟩
        intro hset
        exact absurd hset hbare
      have hpos : 0 ≤ ({ a with key, time := timing.sending } : Sendout).time := by
        dsimp only
        exact Int.le_of_lt hproper.sending_pos
      refine hsent.serves hcarried hpos (by simp) ⟨last, fun p d hmem hp => ?_⟩
      obtain ⟨_, _, _, hkey⟩ := hlast p d hmem hp
      have hpos := (hkey hused hfixed).1
      omega
    · refine ha.other ?_ ?_
      · rw [hsent.rid_eq]
        exact hfixed
      · intro p d hmem
        rw [sent_rid hmem]
  | @resend _ dest htime hsent =>
    by_cases hfixed : a.package.rid &&& RID_FIXED = fixed
    · refine hsent.serves ((hcarries (by omega) hfixed).resend htime) (by simp only; omega)
        (by simp) ⟨last, fun p d hmem hp => ?_⟩
      obtain ⟨hcontent, hend, hhop, hkey⟩ := hlast p d hmem hp
      exact ⟨hcontent, hend, hhop, (hkey (by omega) hfixed).2⟩
    · refine ha.other ?_ ?_
      · rw [hsent.rid_eq]
        exact fun hinc => hfixed ((RID_INC_fixed a.package.rid).symm.trans hinc)
      · intro p d hmem
        rw [sent_rid hmem]

/-- Whatever a slot that was free sends or holds, it was filled with. -/
theorem SlotRun.headed {timing : Timing} {uid : Uid} {i : Fin SENDOUT_QTY} {a b : Sendout}
    {events : List Event} (hrun : SlotRun timing uid i a events b) (hfree : a.time = 0) :
    (∀ p dest, .send_package (.sendout i) p dest ∈ events →
      ∃ rid, .make_package_head (.sendout i) rid ∈ events ∧ rid &&& RID_FIXED = p.rid &&& RID_FIXED) ∧
    (b.time ≠ 0 → ∃ rid, .make_package_head (.sendout i) rid ∈ events ∧
      rid &&& RID_FIXED = b.package.rid &&& RID_FIXED) := by
  induction hrun with
  | refl => exact ⟨fun p d hmem => absurd hmem (by simp), fun hne => absurd hfree hne⟩
  | @step b c events new hrun hstep ih =>
    obtain ⟨hsends, hheld⟩ := ih
    have hold : ∀ p dest, .send_package (.sendout i) p dest ∈ events →
        ∃ rid, .make_package_head (.sendout i) rid ∈ events ++ new ∧
          rid &&& RID_FIXED = p.rid &&& RID_FIXED := by
      intro p dest hmem
      obtain ⟨rid, hhead, hfixed⟩ := hsends p dest hmem
      exact ⟨rid, List.mem_append_left _ hhead, hfixed⟩
    -- a step that leaves the package's upper bits sends under them only
    have hkept : b.time ≠ 0 → c.package.rid &&& RID_FIXED = b.package.rid &&& RID_FIXED →
        (∀ p dest, .send_package (.sendout i) p dest ∈ new → p.rid = c.package.rid) →
        (∀ p dest, .send_package (.sendout i) p dest ∈ events ++ new →
          ∃ rid, .make_package_head (.sendout i) rid ∈ events ++ new ∧
            rid &&& RID_FIXED = p.rid &&& RID_FIXED) ∧
        (c.time ≠ 0 → ∃ rid, .make_package_head (.sendout i) rid ∈ events ++ new ∧
          rid &&& RID_FIXED = c.package.rid &&& RID_FIXED) := by
      intro hused hrid hnew
      obtain ⟨rid, hhead, hfixed⟩ := hheld hused
      rw [← hrid] at hfixed
      refine ⟨fun p dest hmem => ?_, fun _ => ⟨rid, List.mem_append_left _ hhead, hfixed⟩⟩
      obtain hbefore | hsent := List.mem_append.mp hmem
      · exact hold p dest hbefore
      · rw [hnew p dest hsent]
        exact ⟨rid, List.mem_append_left _ hhead, hfixed⟩
    cases hstep with
    | free =>
      simp only [List.append_nil]
      exact ⟨hsends, fun hne => absurd rfl hne⟩
    | refuse size hfree =>
      simp only [List.append_nil]
      exact ⟨hsends, fun hne => absurd hfree hne⟩
    | @count time htime => exact hkept (by omega) rfl (by simp)
    | @wait _ rid type data hfree hfilled htime =>
      refine ⟨fun p dest hmem => hold p dest (by simpa using hmem), fun _ => ⟨rid, by simp, ?_⟩⟩
      rw [hfilled.rid_eq]
    | @start b' _ rid type data dest hfree hfilled htime hsent =>
      have hrid : c.package.rid = rid := by rw [hsent.rid_eq, hfilled.rid_eq]
      refine ⟨fun p d hmem => ?_, fun _ => ⟨rid, by simp, by rw [hrid]⟩⟩
      obtain hbefore | hsent' := List.mem_append.mp hmem
      · exact hold p d hbefore
      · simp only [List.mem_cons, reduceCtorEq, Event.send_package.injEq, true_and,
          List.not_mem_nil, or_false, false_or] at hsent'
        exact ⟨rid, by simp, by rw [hsent'.1, PackageBuffer.package_rid, hrid]⟩
    | @solve _ key dest htime hsent =>
      apply hkept (by omega) (by rw [hsent.rid_eq])
      intro p d hmem
      rw [sent_rid hmem]
    | @resend _ dest htime hsent =>
      refine hkept (by omega) ?_ ?_
      · rw [hsent.rid_eq]
        exact RID_INC_fixed b.package.rid
      · intro p d hmem
        rw [sent_rid hmem]

/-- What a slot is filled with. -/
def Sendout.kinds : List PackageType := [.MSG, .COMMAND]

theorem Sendout.Filled.type_mem {a : Sendout} {uid : Uid} {rid : Rid} {type : PackageType}
    {data : List UInt8} (h : a.Filled uid rid type data) :
    typeOf a.package.flags ∈ Sendout.kinds := by
  rw [h.flags_eq]
  obtain hkind | hkind := h.kind <;> rw [hkind] <;> decide

theorem Sendout.Sent.type_eq {a b : Sendout} {uid dest : Uid} (h : a.Sent uid dest b) :
    typeOf b.package.flags = typeOf a.package.flags := by
  obtain ⟨_, _, hwrap⟩ := h.wrap
  exact wrapFor_type hwrap

/-- A slot that was free sends messages and commands only. -/
theorem SlotRun.typed {timing : Timing} {uid : Uid} {i : Fin SENDOUT_QTY} {a b : Sendout}
    {events : List Event} (hrun : SlotRun timing uid i a events b) (hfree : a.time = 0) :
    (∀ p dest, .send_package (.sendout i) p dest ∈ events → typeOf p.flags ∈ Sendout.kinds) ∧
      (b.time ≠ 0 → typeOf b.package.flags ∈ Sendout.kinds) := by
  induction hrun with
  | refl => exact ⟨fun p d hmem => absurd hmem (by simp), fun hne => absurd hfree hne⟩
  | @step b c events new hrun hstep ih =>
    obtain ⟨hsends, hheld⟩ := ih
    -- a step that sends, sends what the slot then holds
    have hkept : typeOf c.package.flags ∈ Sendout.kinds →
        (∀ p dest, .send_package (.sendout i) p dest ∈ new → p.flags = c.package.flags) →
        (∀ p dest, .send_package (.sendout i) p dest ∈ events ++ new →
          typeOf p.flags ∈ Sendout.kinds) ∧
        (c.time ≠ 0 → typeOf c.package.flags ∈ Sendout.kinds) := by
      intro hkind hnew
      refine ⟨fun p dest hmem => ?_, fun _ => hkind⟩
      obtain hbefore | hsent := List.mem_append.mp hmem
      · exact hsends p dest hbefore
      · rw [hnew p dest hsent]
        exact hkind
    cases hstep with
    | free =>
      simp only [List.append_nil]
      exact ⟨hsends, fun hne => absurd rfl hne⟩
    | refuse size hfree =>
      simp only [List.append_nil]
      exact ⟨hsends, fun hne => absurd hfree hne⟩
    | count htime => exact hkept (hheld (by omega)) (by simp)
    | wait hfree hfilled htime => exact hkept hfilled.type_mem (by simp)
    | start hfree hfilled htime hsent =>
      refine hkept ?_ (by simp [PackageBuffer.package])
      rw [hsent.type_eq]
      exact hfilled.type_mem
    | solve htime hsent =>
      refine hkept ?_ (by simp [PackageBuffer.package])
      rw [hsent.type_eq]
      exact hheld (by omega)
    | resend htime hsent =>
      refine hkept ?_ (by simp [PackageBuffer.package])
      rw [hsent.type_eq]
      exact hheld (by omega)

/-- A package filled in under ids no other one has is served in every run. -/
theorem SlotRun.serves {timing : Timing} {uid : Uid} {i : Fin SENDOUT_QTY} {a b : Sendout}
    {events : List Event} {fixed : Rid} (hproper : timing.Proper)
    (hrun : SlotRun timing uid i a events b) (hfree : a.time = 0)
    (hunique : events.countP (Event.makes fixed) ≤ 1) :
    ∃ type data, (type = .MSG ∨ type = .COMMAND) ∧
      b.Serves i fixed (PACKAGE_ACKLY ||| PACKAGE_IDENTIFIED ||| PackageType.code type) data
        events := by
  induction hrun with
  | refl =>
    exact ⟨.MSG, [], .inl rfl, fun hne => absurd hfree hne, a.key,
      fun p d hmem => absurd hmem (by simp)⟩
  | @step b c events new hrun hstep ih =>
    rw [List.countP_append] at hunique
    by_cases hnew : ∀ rid, .make_package_head (.sendout i) rid ∈ new → rid &&& RID_FIXED ≠ fixed
    · obtain ⟨type, data, hkind, hserves⟩ := ih (by omega)
      exact ⟨type, data, hkind, hstep.serves hproper hserves hnew⟩
    · simp only [not_forall, not_not] at hnew
      obtain ⟨rid, hhead, hfixed⟩ := hnew
      have hone : 0 < new.countP (Event.makes fixed) := by
        rw [List.countP_pos_iff]
        exact ⟨_, hhead, by simpa [Event.makes] using hfixed⟩
      have hunsent : ∀ p d, .send_package (.sendout i) p d ∈ events →
          p.rid &&& RID_FIXED ≠ rid &&& RID_FIXED := by
        intro p d hmem hp
        obtain ⟨rid', hhead', hfixed'⟩ := (hrun.headed hfree).1 p d hmem
        have hmore : 0 < events.countP (Event.makes fixed) := by
          rw [List.countP_pos_iff]
          exact ⟨_, hhead', by simpa [Event.makes] using hfixed'.trans (hp.trans hfixed)⟩
        omega
      cases hstep with
      | free => simp at hhead
      | refuse => simp at hhead
      | count => simp at hhead
      | solve => simp at hhead
      | resend => simp at hhead
      | @wait _ rid' type data hfree hfilled htime =>
        obtain rfl : rid = rid' := by simpa using hhead
        have hserves : c.Serves i (rid &&& RID_FIXED) _ _ events := hfilled.serves hunsent
        rw [hfixed] at hserves
        refine ⟨type, uid.toList ++ data, hfilled.kind, hserves.carries, ?_⟩
        obtain ⟨last, hlast⟩ := hserves.sends
        exact ⟨last, fun p d hmem => hlast p d (by simpa using hmem)⟩
      | @start b' _ rid' type data dest hfree hfilled htime hsent =>
        obtain rfl : rid = rid' := by simpa using hhead
        refine ⟨type, uid.toList ++ data, hfilled.kind, ?_⟩
        have hcarries := hfilled.carries
        rw [hfixed] at hcarries
        refine hsent.serves hcarries ?_ ?_ ⟨b'.key, fun p d hmem hp => ?_⟩
        · rw [htime]
          exact Int.le_of_lt hproper.sending_pos
        · intro p d hmem
          simpa using hmem
        · exact absurd (hp.trans hfixed.symm) (hunsent p d hmem)

end concretid.ems
