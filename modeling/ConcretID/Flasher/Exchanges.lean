import ConcretID.Library.Passes
import ConcretID.Flasher.ModelDevice

namespace concretid.flasher.debug

open calls duplex memory

/-- What DD is driven to at each falling flank of the clock, if it is. -/
abbrev Pulses := List (Option Bool)

/-- A device with a recorder on the lines. -/
def Dup.recorded {σ : Type} (t : Dup σ) : Dup (σ × Pulses) where
  rise s := (t.rise s.1, s.2)
  fall driven s := (t.fall driven s.1, s.2 ++ [driven])
  reset level s := (t.reset level s.1, s.2)
  dd s := t.dd s.1

/-- Bytes driven by the programmer. -/
def driven (request : List UInt8) : Pulses := (request.flatMap bits).map some

/-- Bytes left to the device. -/
def undriven (n : Nat) : Pulses := List.replicate (8 * n) none

def Command.answerLength : Command → Nat
  | .getChipId => 2
  | _ => 1

/-- A whole exchange: the bytes of a command, at most sixteen bytes of waiting, and the bytes
of its answer. -/
def Exchange (pulses : Pulses) : Prop :=
  ∃ (command : Command) (waiting : Nat), command.Fits ∧ waiting ≤ 16 ∧
    pulses = driven command.request ++ undriven (waiting + command.answerLength)

/-- Nothing but whole exchanges. -/
def Exchanges (pulses : Pulses) : Prop :=
  ∃ parts : List Pulses, (∀ part ∈ parts, Exchange part) ∧ pulses = parts.flatten

/-- Between two operations of the programmer: behind the pulses so far there have been whole
exchanges only, and the programmer has the line. -/
def Whole {σ : Type} (before : Pulses) (b : Board (σ × Pulses)) : Prop :=
  ∃ (s : σ) (pulses : Pulses), b.Rests .OUTPUT (s, before ++ pulses) ∧ Exchanges pulses

theorem Exchanges.more {pulses more : Pulses} (h : Exchanges pulses) (hmore : Exchange more) :
    Exchanges (pulses ++ more) := by
  obtain ⟨parts, hparts, rfl⟩ := h
  refine ⟨parts ++ [more], ?_, by rw [List.flatten_append, List.flatten_singleton]⟩
  simpa [or_imp, forall_and] using ⟨hparts, hmore⟩

@[simp] theorem undriven_zero : undriven 0 = [] := rfl

theorem undriven_add (m n : Nat) : undriven (m + n) = undriven m ++ undriven n := by
  rw [undriven, Nat.mul_add, List.replicate_add]
  rfl

section recorded

variable {σ : Type} (t : Dup σ)

theorem recorded_takeBits (levels : List Bool) (s : σ) (pulses : Pulses) :
    levels.foldl t.recorded.takeBit (s, pulses) =
      (levels.foldl t.takeBit s, pulses ++ levels.map some) := by
  induction levels generalizing s pulses with
  | nil => rw [List.map_nil, List.append_nil]; rfl
  | cons level levels ih =>
    rw [List.foldl_cons, List.foldl_cons, List.map_cons, List.append_cons]
    exact ih _ _

theorem recorded_takes (request : List UInt8) (s : σ) (pulses : Pulses) :
    request.foldl t.recorded.take (s, pulses) =
      (request.foldl t.take s, pulses ++ driven request) := by
  induction request generalizing s pulses with
  | nil => rw [driven, List.flatMap_nil, List.map_nil, List.append_nil]; rfl
  | cons data rest ih =>
    have hbyte := recorded_takeBits t (bits data) s pulses
    rw [List.foldl_cons, Dup.take, hbyte, ih, driven, driven, List.flatMap_cons, List.map_append,
      List.append_assoc]
    rfl

theorem recorded_giveBits (n : Nat) (s : σ) (pulses : Pulses) :
    (t.recorded.giveBits n (s, pulses)).2 =
      ((t.giveBits n s).2, pulses ++ List.replicate n none) := by
  induction n generalizing s pulses with
  | zero => rw [List.replicate_zero, List.append_nil]; rfl
  | succ n ih =>
    rw [List.replicate_succ, List.append_cons]
    exact ih _ _

theorem recorded_give (s : σ) (pulses : Pulses) :
    (t.recorded.give (s, pulses)).2 = ((t.give s).2, pulses ++ undriven 1) :=
  recorded_giveBits t 8 s pulses

/-- Waiting takes as many bytes as it is recorded with. -/
theorem recorded_await (n : Nat) (s : σ) (pulses : Pulses) :
    ∃ waiting ≤ n, (t.recorded.await n (s, pulses)).2 =
      ((t.await n s).2, pulses ++ undriven waiting) := by
  induction n generalizing s pulses with
  | zero => exact ⟨0, Nat.le_refl 0, by rw [undriven_zero, List.append_nil]; rfl⟩
  | succ n ih =>
    rw [Dup.await, Dup.await]
    by_cases hdd : t.dd s = true
    · obtain ⟨waiting, hle, hmore⟩ := ih (t.give s).2 (pulses ++ undriven 1)
      rw [if_pos (show t.recorded.dd (s, pulses) = true from hdd), if_pos hdd, recorded_give, hmore,
        List.append_assoc, ← undriven_add, Nat.add_comm 1]
      exact ⟨waiting + 1, Nat.succ_le_succ hle, rfl⟩
    · rw [if_neg (show ¬ t.recorded.dd (s, pulses) = true from hdd), if_neg hdd]
      exact ⟨0, Nat.zero_le _, by rw [undriven_zero, List.append_nil]⟩

/-- A command asked, up to its answer. -/
theorem recorded_asked (request : List UInt8) (s : σ) (pulses : Pulses) :
    ∃ waiting ≤ 16, t.recorded.asked request (s, pulses) =
      (t.asked request s, pulses ++ (driven request ++ undriven waiting)) := by
  obtain ⟨waiting, hle, hawait⟩ :=
    recorded_await t 16 (request.foldl t.take s) (pulses ++ driven request)
  refine ⟨waiting, hle, ?_⟩
  rw [Dup.asked, recorded_takes, hawait, List.append_assoc]
  rfl

end recorded

section sketches

variable {σ : Type} (t : Dup σ) {before : Pulses} (fuel : Nat)

theorem Whole.exchange {pulses : Pulses} (hwhole : Exchanges pulses) (command : Command)
    (hfits : command.Fits) {waiting : Nat} (hle : waiting ≤ 16) {b : Board (σ × Pulses)} {s : σ}
    (hb : b.Rests .OUTPUT (s, before ++ pulses ++ (driven command.request ++ undriven waiting) ++
      undriven command.answerLength)) : Whole before b := by
  refine ⟨s, pulses ++ (driven command.request ++ undriven (waiting + command.answerLength)), ?_,
    hwhole.more ⟨command, waiting, hfits, hle, rfl⟩⟩
  rw [undriven_add]
  simpa only [List.append_assoc] using hb

theorem debug_command_whole {cmd : UInt8} {cmd_bytes : List UInt8} (command : Command)
    (hrequest : command.request = cmd :: cmd_bytes) (hfits : command.Fits)
    (hone : command.answerLength = 1) :
    (debug_command cmd cmd_bytes).Keeps t.recorded.answer (Whole before) := by
  intro b ⟨s, pulses, hrests, hwhole⟩
  obtain ⟨-, hnext⟩ := debug_command_run t.recorded cmd cmd_bytes hrests
  obtain ⟨waiting, hle, hasked⟩ := recorded_asked t command.request s (before ++ pulses)
  rw [← hrequest, hasked, recorded_give, ← hone] at hnext
  exact .exchange hwhole command hfits hle hnext

/-- The first exchange may find DD an input. -/
theorem read_chip_id_whole {dd : Mode} {b : Board (σ × Pulses)} {s : σ}
    (hrests : b.Rests dd (s, before)) : Whole before (read_chip_id.run t.recorded.answer b).2 := by
  obtain ⟨-, hnext⟩ := read_chip_id_run t.recorded hrests
  obtain ⟨waiting, hle, hasked⟩ := recorded_asked t [CMD_GET_CHIP_ID] s before
  simp only [hasked, recorded_give] at hnext
  rw [List.append_assoc, ← undriven_add, ← List.append_nil before] at hnext
  exact .exchange ⟨[], nofun, rfl⟩ .getChipId trivial hle hnext

theorem burst_write_block_whole {src : List UInt8} (hsrc : src.length < 2048) :
    (burst_write_block src).Keeps t.recorded.answer (Whole before) := by
  intro b ⟨s, pulses, hrests, hwhole⟩
  have hnext := burst_write_block_run t.recorded src hrests
  obtain ⟨waiting, hle, hasked⟩ := recorded_asked t (burstRequest src) s (before ++ pulses)
  rw [hasked, recorded_give] at hnext
  exact .exchange hwhole (.burst src) hsrc hle hnext

theorem instr_whole {cmd : UInt8} {cmd_bytes : List UInt8} (i : Instr)
    (hrequest : (Command.instr i).request = cmd :: cmd_bytes) :
    (debug_command cmd cmd_bytes).Keeps t.recorded.answer (Whole before) :=
  debug_command_whole t (.instr i) hrequest trivial rfl

theorem moveDptr_whole (address : UInt16) :
    (moveDptr address).Keeps t.recorded.answer (Whole before) := by
  apply instr_whole t (.mov_dptr address)
  rw [HIBYTE_toNat, LOBYTE_toNat]
  rfl

theorem writeValues_whole (values : List UInt8) :
    (writeValues values).Keeps t.recorded.answer (Whole before) := by
  induction values with
  | nil => exact .pure ()
  | cons value rest ih =>
    exact (instr_whole t (.mov_a value) rfl).bind fun _ =>
      (instr_whole t .movx_dptr_a rfl).bind fun _ => (instr_whole t .inc_dptr rfl).bind fun _ => ih

theorem readValues_whole (num_bytes : Nat) :
    (readValues num_bytes).Keeps t.recorded.answer (Whole before) := by
  induction num_bytes with
  | zero => exact .pure []
  | succ num_bytes ih =>
    exact (instr_whole t .movx_a_dptr rfl).bind fun value =>
      (instr_whole t .inc_dptr rfl).bind fun _ => ih.bind fun rest => .pure (value :: rest)

theorem write_xdata_memory_block_whole (address : UInt16) (values : List UInt8) :
    (write_xdata_memory_block address values).Keeps t.recorded.answer (Whole before) :=
  (moveDptr_whole t address).bind fun _ => writeValues_whole t values

theorem write_xdata_memory_whole (address : UInt16) (value : UInt8) :
    (write_xdata_memory address value).Keeps t.recorded.answer (Whole before) :=
  (moveDptr_whole t address).bind fun _ => (instr_whole t (.mov_a value) rfl).bind fun _ =>
    (instr_whole t .movx_dptr_a rfl).bind fun _ => .pure ()

theorem read_xdata_memory_whole (address : UInt16) :
    (read_xdata_memory address).Keeps t.recorded.answer (Whole before) :=
  (moveDptr_whole t address).bind fun _ => instr_whole t .movx_a_dptr rfl

theorem chip_erase_whole : (chip_erase fuel).Keeps t.recorded.answer (Whole before) :=
  (debug_command_whole t .chipErase rfl trivial rfl).bind fun _ =>
    .doWhile (debug_command_whole t .readStatus rfl trivial rfl) fuel

theorem read_flash_memory_block_whole (bank : UInt8) (flash_addr num_bytes : Nat) :
    (read_flash_memory_block bank flash_addr num_bytes).Keeps t.recorded.answer (Whole before) :=
  (write_xdata_memory_whole t DUP_MEMCTR bank).bind fun _ =>
    (moveDptr_whole t _).bind fun _ => readValues_whole t num_bytes

theorem write_flash_memory_block_whole {src : List UInt8} (hsrc : src.length < 2048)
    (start_addr : Nat) :
    (write_flash_memory_block fuel src start_addr).Keeps t.recorded.answer (Whole before) := by
  have hblock : ∀ address values, (write_xdata_memory_block address values).Keeps t.recorded.answer
      (Whole before) := write_xdata_memory_block_whole t
  have hwrite : ∀ address value, (write_xdata_memory address value).Keeps t.recorded.answer
      (Whole before) := write_xdata_memory_whole t
  refine (hblock ADDR_DMA_DESC_0 dma_desc_0).bind fun _ => ?_
  refine (hblock ADDR_DMA_DESC_1 dma_desc_1).bind fun _ => ?_
  refine (hblock (ADDR_DMA_DESC_0 + 4) _).bind fun _ => ?_
  refine (hblock (ADDR_DMA_DESC_1 + 4) _).bind fun _ => ?_
  refine (hwrite DUP_DMA0CFGH _).bind fun _ => (hwrite DUP_DMA0CFGL _).bind fun _ => ?_
  refine (hwrite DUP_DMA1CFGH _).bind fun _ => (hwrite DUP_DMA1CFGL _).bind fun _ => ?_
  refine (hwrite DUP_FADDRH _).bind fun _ => (hwrite DUP_FADDRL _).bind fun _ => ?_
  refine (hwrite DUP_DMAARM CH_DBG_TO_BUF0).bind fun _ => ?_
  refine (burst_write_block_whole t hsrc).bind fun _ => ?_
  refine (hwrite DUP_DMAARM CH_BUF0_TO_FLASH).bind fun _ => (hwrite DUP_FCTL 0x06).bind fun _ => ?_
  exact .doWhile (read_xdata_memory_whole t DUP_FCTL) fuel

theorem chipInfo_whole : chipInfo.Keeps t.recorded.answer (Whole before) :=
  (read_xdata_memory_whole t DUP_CHIPID).bind fun _ =>
    (read_xdata_memory_whole t DUP_CHVER).bind fun _ =>
      (read_xdata_memory_whole t DUP_CHIPINFO0).bind fun _ =>
        (read_xdata_memory_whole t DUP_CHIPINFO1).bind fun _ => .pure _

theorem readLoop_whole (read_count : Nat) (read_bank : UInt8)
    (read_xaddr : { x : Nat // x < 0x8000 }) (read_total : Nat) (buffer : Nat → UInt8) :
    (readLoop read_count read_bank read_xaddr read_total buffer).Keeps t.recorded.answer
      (Whole before) := by
  induction read_count, read_bank, read_xaddr, read_total, buffer using readLoop.induct with
  | case1 => rw [readLoop, if_pos rfl]; exact .pure _
  | case2 read_count read_bank read_xaddr read_total buffer hcount read_len ih =>
    rw [readLoop, if_neg hcount]
    exact (read_flash_memory_block_whole t read_bank read_xaddr.val read_len).bind fun values =>
      ih values

theorem startRead_whole (read_addr read_count : Nat) (buffer : Nat → UInt8) :
    (startRead read_addr read_count buffer).Keeps t.recorded.answer (Whole before) :=
  readLoop_whole t read_count _ _ 0 buffer

/-- Every pass leaves whole exchanges behind, unless the length of a block is none of a burst. -/
theorem loop_whole (d : Device (Board (σ × Pulses))) (hd : Whole before d.chip) :
    (loop t.recorded fuel d).Ends (fun d => Whole before d.chip) Sendable := by
  have hkeep : ∀ (buffer : Nat → UInt8) (write_addr write_count read_addr : Nat)
      {b : Board (σ × Pulses)}, Whole before b →
      Proc.Ends (β := UInt8) (fun d : Device (Board (σ × Pulses)) => Whole before d.chip) Sendable
        (.pure ⟨buffer, write_addr, write_count, read_addr, b⟩) := fun _ _ _ _ _ hb => .pure hb
  refine .after _ fun comando => .ite ?_ (.ite ?_ (.ite ?_ (.ite ?_ (.ite ?_ (.ite ?_ (.ite ?_
    (.ite ?_ (hkeep _ _ _ _ hd))))))))
  · exact .after _ fun _ => hkeep _ _ _ _ (chipInfo_whole t d.chip hd)
  · exact .after _ fun _ => .after _ fun _ => hkeep _ _ _ _ hd
  · exact .after _ fun _ => .after _ fun _ => hkeep _ _ _ _ hd
  · exact .after _ fun _ => .after _ fun _ => hkeep _ _ _ _ hd
  · have hconfigured := debug_command_whole t (.wrConfig 0x22) rfl trivial rfl d.chip hd
    exact .after _ fun _ => hkeep _ _ _ _ hconfigured
  · refine .emit fun hfits => ?_
    have hwritten := write_flash_memory_block_whole t fuel hfits d.write_addr d.chip hd
    exact .ite .exit (.after _ fun _ => hkeep _ _ _ _ hwritten)
  · refine .after _ fun received => ?_
    have hread := startRead_whole t d.read_addr (takeCount received.2) received.2 d.chip hd
    exact .after _ fun _ => .after _ fun _ => hkeep _ _ _ _ hread
  · have herased := chip_erase_whole t fuel d.chip hd
    exact .ite .exit (.after _ fun _ => hkeep _ _ _ _ herased)

/-- Behind the two clocks of `debug_init`, `setup()` makes whole exchanges. -/
theorem setup_whole (s : σ) :
    Whole [none, none] ((setup fuel).run t.recorded.answer (Board.off (s, []))).2 := by
  have hfirst := read_chip_id_whole t (debug_init_run (t := t.recorded) (s, []))
  rw [setup, run_bind, run_bind, run_bind]
  split
  · exact hfirst
  · exact ((write_xdata_memory_whole t DUP_CLKCONCMD 0x80).bind fun _ =>
      ((read_xdata_memory_whole t DUP_CLKCONSTA).doWhile fuel).bind fun _ => .pure _) _ hfirst

end sketches

/-- ENABLE_DMA over the pins. -/
theorem answers_enable_dma {σ : Type} (t : Dup σ) (fuel : Nat) (d : Device (Board σ)) :
    Answers (loop t fuel) d (comandoFrame CMD_SERIAL_ENABLE_DMA)
      { d with chip := ((debug_command CMD_WR_CONFIG [0x22]).run t.answer d.chip).2 }
      (comandoFrame CMD_SERIAL_ACK)
      [.received (comandoFrame CMD_SERIAL_ENABLE_DMA), .sent (comandoFrame CMD_SERIAL_ACK)] := by
  apply (receberComando_executes .device CMD_SERIAL_ENABLE_DMA []).bind
  rw [if_neg (by decide), if_neg (by decide), if_neg (by decide), if_neg (by decide), if_pos rfl]
  exact (enviarComando_executes CMD_SERIAL_ACK []).before _

theorem enableDma_run {σ : Type} (t : Dup σ) (fuel : Nat) (d : Device (Board σ)) :
    Relation.ReflTransGen (Step (loop t fuel))
      (resting (loop t fuel) (enviarComando CMD_SERIAL_ENABLE_DMA) d [] [])
      ⟨.pure (), .pure { d with chip := ((debug_command CMD_WR_CONFIG [0x22]).run t.answer d.chip).2 },
        [], comandoFrame CMD_SERIAL_ACK, [.sent (comandoFrame CMD_SERIAL_ENABLE_DMA)],
        [.received (comandoFrame CMD_SERIAL_ENABLE_DMA), .sent (comandoFrame CMD_SERIAL_ACK)]⟩ :=
  ((enviarComando_executes CMD_SERIAL_ENABLE_DMA []).client _ _ [] [] []).trans
    ((answers_enable_dma t fuel d).server _ _ [] _ [])

end concretid.flasher.debug
