import ConcretID.Flasher.DebugPins

namespace concretid.flasher.debug

open calls shift

/-- The bits of a byte in the order of the debug lines. -/
def bits (data : UInt8) : List Bool := shiftOut 8 data.toBitVec

/-- One clock with a level the programmer drives. -/
def Dup.takeBit {σ : Type} (t : Dup σ) (s : σ) (level : Bool) : σ := t.fall (some level) (t.rise s)

/-- A byte clocked into the device. -/
def Dup.take {σ : Type} (t : Dup σ) (s : σ) (data : UInt8) : σ := (bits data).foldl t.takeBit s

/-- What DD shows during clocks the programmer leaves it to the device. -/
def Dup.giveBits {σ : Type} (t : Dup σ) : Nat → σ → List Bool × σ
  | 0, s => ([], s)
  | n + 1, s =>
    let r := t.giveBits n (t.fall none (t.rise s))
    (t.dd (t.rise s) :: r.1, r.2)

/-- A byte clocked out of the device. -/
def Dup.give {σ : Type} (t : Dup σ) (s : σ) : UInt8 × σ :=
  let r := t.giveBits 8 s
  (⟨shiftIn 0 r.1⟩, r.2)

/-- The bytes clocked out while DD stays high, `n` at most, and the device then. -/
def Dup.await {σ : Type} (t : Dup σ) : Nat → σ → Nat × σ
  | 0, s => (0, s)
  | n + 1, s =>
    if t.dd s then
      let r := t.await n (t.give s).2
      (r.1 + 1, r.2)
    else
      (0, s)

/-- The device after a request and the wait for its answer. -/
def Dup.asked {σ : Type} (t : Dup σ) (request : List UInt8) (s : σ) : σ :=
  (t.await 16 (request.foldl t.take s)).2

/-- Between two clocks: DC is a low output, DD an input or an output, and the device is in
this state. -/
structure Board.Rests {σ : Type} (b : Board σ) (dd : Mode) (s : σ) : Prop where
  dc : b.mode .DC = .OUTPUT
  low : b.latch .DC = false
  dd : b.mode .DD = dd
  dup : b.dup = s

section pins

variable {σ : Type} (t : Dup σ) {b : Board σ} {s : σ}

theorem Board.Rests.pinMode {dd : Mode} (hb : b.Rests dd s) (mode : Mode) :
    (b.pinMode .DD mode).Rests mode s where
  dc := hb.dc
  low := hb.low
  dd := by simp [Board.pinMode]
  dup := hb.dup

/-- A level put on DD while the clock is high, and the flank that shows it. -/
theorem writeBit_run (hb : b.Rests .OUTPUT s) (level : Bool) :
    (((b.digitalWrite t .DC true).digitalWrite t .DD level).digitalWrite t .DC false).Rests .OUTPUT
      (t.takeBit s level) := by
  refine ⟨hb.dc, rfl, hb.dd, ?_⟩
  simp [Board.digitalWrite, Dup.sees, Board.driven, hb.dc, hb.dd, hb.low, hb.dup, Dup.takeBit]

theorem writeBits_succ_run (n : Nat) (data : UInt8) :
    (writeBits (n + 1) data).run t.answer b =
      (writeBits n (data <<< 1)).run t.answer
        (((b.digitalWrite t .DC true).digitalWrite t .DD data.toBitVec.msb).digitalWrite t
          .DC false) := by
  have hbit := hiBit_iff data
  cases hmsb : data.toBitVec.msb with
  | false =>
    have hzero : data &&& 0x80 = 0 := by simpa [hmsb] using hbit
    simp [writeBits, hzero]
  | true =>
    have hone : data &&& 0x80 ≠ 0 := hbit.mpr hmsb
    simp only [writeBits, if_pos hone, run_bind, digitalWrite_run]

theorem writeBits_run (n : Nat) (data : UInt8) (hb : b.Rests .OUTPUT s) :
    ((writeBits n data).run t.answer b).2.Rests .OUTPUT
      ((shiftOut n data.toBitVec).foldl t.takeBit s) := by
  induction n generalizing data b s with
  | zero => exact hb
  | succ n ih =>
    rw [writeBits_succ_run]
    exact ih (data <<< 1) (writeBit_run t hb data.toBitVec.msb)

theorem write_debug_byte_run (data : UInt8) (hb : b.Rests .OUTPUT s) :
    ((write_debug_byte data).run t.answer b).2.Rests .OUTPUT (t.take s data) :=
  writeBits_run t 8 data hb

theorem writeBytes_run (bytes : List UInt8) (hb : b.Rests .OUTPUT s) :
    ((writeBytes bytes).run t.answer b).2.Rests .OUTPUT (bytes.foldl t.take s) := by
  induction bytes generalizing b s with
  | nil => exact hb
  | cons data rest ih =>
    rw [writeBytes, run_bind]
    exact ih (write_debug_byte_run t data hb)

/-- A level read from DD while the clock is high, and the flank after it. -/
theorem readBit_run (hb : b.Rests .INPUT s) :
    t.level (b.digitalWrite t .DC true) .DD = t.dd (t.rise s) ∧
      ((b.digitalWrite t .DC true).digitalWrite t .DC false).Rests .INPUT
        (t.fall none (t.rise s)) := by
  refine ⟨?_, hb.dc, rfl, hb.dd, ?_⟩
  · simp [Dup.level, Board.digitalWrite, Dup.sees, hb.dc, hb.dd, hb.low, hb.dup]
  · simp [Board.digitalWrite, Dup.sees, Board.driven, hb.dc, hb.dd, hb.low, hb.dup]

theorem readBits_run (n : Nat) (data : UInt8) (hb : b.Rests .INPUT s) :
    ((readBits n data).run t.answer b).1.toBitVec = shiftIn data.toBitVec (t.giveBits n s).1 ∧
      ((readBits n data).run t.answer b).2.Rests .INPUT (t.giveBits n s).2 := by
  induction n generalizing data b s with
  | zero => exact ⟨rfl, hb⟩
  | succ n ih =>
    obtain ⟨hlevel, hnext⟩ := readBit_run t hb
    have h := ih (data <<< 1 ||| (if t.dd (t.rise s) then 1 else 0)) hnext
    rw [toBitVec_append_bit] at h
    rw [readBits, run_bind, digitalWrite_run, run_bind, digitalRead_run, run_bind, hlevel]
    exact h

theorem read_debug_byte_run (hb : b.Rests .INPUT s) :
    (read_debug_byte.run t.answer b).1 = (t.give s).1 ∧
      (read_debug_byte.run t.answer b).2.Rests .INPUT (t.give s).2 := by
  obtain ⟨hdata, hnext⟩ := readBits_run t 8 0 hb
  exact ⟨UInt8.toBitVec_inj.mp hdata, hnext⟩

theorem pollDup_run (n : Nat) (count : UInt8) (hb : b.Rests .INPUT s) :
    ((pollDup n count).run t.answer b).1 = count + UInt8.ofNat (t.await n s).1 ∧
      ((pollDup n count).run t.answer b).2.Rests .INPUT (t.await n s).2 := by
  have hlevel : t.level b .DD = t.dd s := by simp [Dup.level, hb.dd, hb.dup]
  induction n generalizing count b s with
  | zero => exact ⟨by simp [pollDup, Dup.await], hb⟩
  | succ n ih =>
    rw [pollDup, run_bind, digitalRead_run, hlevel, Dup.await]
    cases t.dd s with
    | false => exact ⟨by simp, hb⟩
    | true =>
      obtain ⟨-, hnext⟩ := read_debug_byte_run t hb
      obtain ⟨hcount, hrest⟩ := ih (count + 1) hnext (by simp [Dup.level, hnext.dd, hnext.dup])
      rw [if_pos rfl, if_pos rfl, run_bind]
      refine ⟨?_, hrest⟩
      rw [hcount, UInt8.ofNat_add, UInt8.add_assoc, UInt8.add_comm 1]
      rfl

theorem await_le (n : Nat) (s : σ) : (t.await n s).1 ≤ n := by
  induction n generalizing s with
  | zero => exact Nat.le_refl 0
  | succ n ih =>
    rw [Dup.await]
    split
    · exact Nat.succ_le_succ (ih _)
    · exact Nat.zero_le _

/-- What `wait_dup_ready` returns is whether fewer than sixteen polls were made. -/
theorem wait_dup_ready_run (hb : b.Rests .INPUT s) :
    (wait_dup_ready.run t.answer b).1 = decide ((t.await 16 s).1 ≠ 16) ∧
      (wait_dup_ready.run t.answer b).2.Rests .INPUT (t.await 16 s).2 := by
  obtain ⟨hcount, hrest⟩ := pollDup_run t 16 0 hb
  have hle := await_le t 16 s
  have hiff : UInt8.ofNat (t.await 16 s).1 ≠ 16 ↔ (t.await 16 s).1 ≠ 16 := by
    rw [← UInt8.toNat_inj.ne, UInt8.toNat_ofNat', Nat.mod_eq_of_lt (by omega)]
    rfl
  simp only [wait_dup_ready, run_bind, run_pure, hcount, UInt8.zero_add]
  exact ⟨decide_eq_decide.mpr hiff, hrest⟩

theorem debug_command_run {dd : Mode} (cmd : UInt8) (cmd_bytes : List UInt8) (hb : b.Rests dd s) :
    ((debug_command cmd cmd_bytes).run t.answer b).1 =
        (t.give (t.asked (cmd :: cmd_bytes) s)).1 ∧
      ((debug_command cmd cmd_bytes).run t.answer b).2.Rests .OUTPUT
        (t.give (t.asked (cmd :: cmd_bytes) s)).2 := by
  have hrequest := writeBytes_run t cmd_bytes (write_debug_byte_run t cmd (hb.pinMode .OUTPUT))
  obtain ⟨-, hwait⟩ := wait_dup_ready_run t (hrequest.pinMode .INPUT)
  obtain ⟨houtput, hread⟩ := read_debug_byte_run t hwait
  simp only [debug_command, SET_DD_OUTPUT, SET_DD_INPUT, run_bind, pinMode_run, run_pure]
  exact ⟨houtput, hread.pinMode .OUTPUT⟩

theorem read_chip_id_run {dd : Mode} (hb : b.Rests dd s) :
    (read_chip_id.run t.answer b).1 = (t.give (t.asked [CMD_GET_CHIP_ID] s)).1 ∧
      (read_chip_id.run t.answer b).2.Rests .OUTPUT
        (t.give (t.give (t.asked [CMD_GET_CHIP_ID] s)).2).2 := by
  have hrequest := write_debug_byte_run t CMD_GET_CHIP_ID (hb.pinMode .OUTPUT)
  obtain ⟨-, hwait⟩ := wait_dup_ready_run t (hrequest.pinMode .INPUT)
  obtain ⟨hid, hread⟩ := read_debug_byte_run t hwait
  obtain ⟨-, hrevision⟩ := read_debug_byte_run t hread
  simp only [read_chip_id, SET_DD_OUTPUT, SET_DD_INPUT, run_bind, pinMode_run, run_pure]
  exact ⟨hid, hrevision.pinMode .OUTPUT⟩

/-- The bytes of a burst write on the lines. -/
def burstRequest (src : List UInt8) : List UInt8 :=
  (CMD_BURST_WRITE ||| HIBYTE src.length) :: LOBYTE src.length :: src

theorem burst_write_block_run {dd : Mode} (src : List UInt8) (hb : b.Rests dd s) :
    ((burst_write_block src).run t.answer b).2.Rests .OUTPUT
      (t.give (t.asked (burstRequest src) s)).2 := by
  have hlength := write_debug_byte_run t (LOBYTE src.length)
    (write_debug_byte_run t (CMD_BURST_WRITE ||| HIBYTE src.length) (hb.pinMode .OUTPUT))
  obtain ⟨-, hwait⟩ := wait_dup_ready_run t ((writeBytes_run t src hlength).pinMode .INPUT)
  obtain ⟨-, hread⟩ := read_debug_byte_run t hwait
  simp only [burst_write_block, SET_DD_OUTPUT, SET_DD_INPUT, run_bind, pinMode_run]
  exact hread.pinMode .OUTPUT

end pins

end concretid.flasher.debug
