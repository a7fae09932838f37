import ConcretID.Flasher.DebugCommands

namespace concretid.flasher.debug

open calls

/-- Values stored from an address on. -/
def Bus.storeAll {μ : Type} (bus : Bus μ) : UInt16 → List UInt8 → μ → μ
  | _, [], m => m
  | a, value :: rest, m => bus.storeAll (a + 1) rest (bus.store a value m)

/-- Values loaded from an address on. -/
def Bus.loadAll {μ : Type} (bus : Bus μ) : UInt16 → Nat → μ → List UInt8 × μ
  | _, 0, m => ([], m)
  | a, n + 1, m =>
    let r := bus.loadAll (a + 1) n (bus.load a m).2
    ((bus.load a m).1 :: r.1, r.2)

section debugs

variable {σ μ : Type} {t : Dup σ} {bus : Bus μ} {idle : σ → Cpu μ → Prop}

theorem await_of_waits {n m : Nat} (hle : n ≤ m) {s : σ} {ready : σ → Prop}
    (h : t.Waits n s ready) : (t.await m s).1 = n ∧ ready (t.await m s).2 := by
  induction n generalizing m s with
  | zero =>
    obtain ⟨hdd, hready⟩ := h
    cases m with
    | zero => exact ⟨rfl, hready⟩
    | succ m => rw [Dup.await, hdd]; exact ⟨rfl, hready⟩
  | succ n ih =>
    obtain ⟨hdd, hmore⟩ := h
    cases m with
    | zero => exact absurd hle (Nat.not_succ_le_zero n)
    | succ m =>
      obtain ⟨hcount, hready⟩ := ih (Nat.le_of_succ_le_succ hle) hmore
      rw [Dup.await, hdd]
      exact ⟨congrArg Nat.succ hcount, hready⟩

/-- Between two operations of the programmer: the lines rest, DD is an output, and the
device stands for this CPU. -/
def OnCpu (idle : σ → Cpu μ → Prop) (b : Board σ) (c : Cpu μ) : Prop :=
  ∃ s, b.Rests .OUTPUT s ∧ idle s c

/-- The same, told of what is behind the CPU only. -/
def OnBus (idle : σ → Cpu μ → Prop) (b : Board σ) (m : μ) : Prop :=
  ∃ c : Cpu μ, OnCpu idle b c ∧ c.mem = m

/-- The device after a command, its answer still to be taken. -/
theorem asked_gives (hdebugs : t.Debugs bus idle) (command : Command) {s : σ} {c : Cpu μ}
    (hidle : idle s c) (hfits : command.Fits) :
    t.Gives (command.respond bus c).1 (t.asked command.request s)
      fun s' => idle s' (command.respond bus c).2 := by
  obtain ⟨n, hn, hwaits⟩ := hdebugs.answers command s c hidle hfits
  exact (await_of_waits hn hwaits).2

/-- A command with an answer of one byte. -/
theorem debug_command_refines (hdebugs : t.Debugs bus idle) {cmd : UInt8} {cmd_bytes : List UInt8}
    (command : Command) (out : Cpu μ → UInt8) (hrequest : command.request = cmd :: cmd_bytes)
    (hfits : command.Fits) (hout : ∀ c, (command.respond bus c).1 = [out c]) :
    (debug_command cmd cmd_bytes).Refines t.answer (OnCpu idle)
      fun c => (out c, (command.respond bus c).2) := by
  intro b c ⟨s, hrests, hidle⟩
  have hgives := asked_gives hdebugs command hidle hfits
  rw [hout, hrequest] at hgives
  obtain ⟨hbyte, hafter⟩ := hgives
  obtain ⟨houtput, hnext⟩ := debug_command_run t cmd cmd_bytes hrests
  exact ⟨houtput.trans hbyte, _, hnext, hafter⟩

theorem instr_refines (hdebugs : t.Debugs bus idle) {cmd : UInt8} {cmd_bytes : List UInt8}
    (i : Instr) (hrequest : (Command.instr i).request = cmd :: cmd_bytes) :
    (debug_command cmd cmd_bytes).Refines t.answer (OnCpu idle)
      fun c => ((i.exec bus c).acc, i.exec bus c) :=
  debug_command_refines hdebugs (.instr i) (fun c => (i.exec bus c).acc) hrequest trivial fun _ => rfl

theorem burst_write_block_refines (hdebugs : t.Debugs bus idle) (src : List UInt8)
    (hsrc : src.length < 2048) :
    (burst_write_block src).Refines t.answer (OnBus idle) fun m => ((), (bus.burst src m).2) := by
  intro b m ⟨c, ⟨s, hrests, hidle⟩, hm⟩
  have hgives := asked_gives hdebugs (.burst src) hidle hsrc
  subst hm
  exact ⟨rfl, _, ⟨_, burst_write_block_run t src hrests, hgives.2⟩, rfl⟩

theorem HIBYTE_toNat (a : UInt16) : HIBYTE a.toNat = (a >>> 8).toUInt8 := by
  rw [HIBYTE, UInt16.ofNat_toNat, ← UInt8.toNat_inj]
  simp

theorem LOBYTE_toNat (a : UInt16) : LOBYTE a.toNat = a.toUInt8 := by
  rw [LOBYTE, ← UInt8.toNat_inj]
  simp

theorem moveDptr_refines (hdebugs : t.Debugs bus idle) (address : UInt16) :
    (moveDptr address).Refines t.answer (OnCpu idle)
      fun c => (c.acc, { c with dptr := address }) := by
  apply instr_refines hdebugs (.mov_dptr address)
  rw [HIBYTE_toNat, LOBYTE_toNat]
  rfl

theorem writeValues_run (hdebugs : t.Debugs bus idle) (values : List UInt8) {b : Board σ}
    {c : Cpu μ} (hb : OnCpu idle b c) :
    OnBus idle ((writeValues values).run t.answer b).2 (bus.storeAll c.dptr values c.mem) := by
  induction values generalizing b c with
  | nil => exact ⟨c, hb, rfl⟩
  | cons value rest ih =>
    obtain ⟨-, hmoved⟩ := instr_refines hdebugs (.mov_a value) rfl b c hb
    obtain ⟨-, hstored⟩ := instr_refines hdebugs .movx_dptr_a rfl _ _ hmoved
    obtain ⟨-, hnext⟩ := instr_refines hdebugs .inc_dptr rfl _ _ hstored
    simp only [writeValues, run_bind]
    exact ih hnext

theorem readValues_run (hdebugs : t.Debugs bus idle) (n : Nat) {b : Board σ} {c : Cpu μ}
    (hb : OnCpu idle b c) :
    ((readValues n).run t.answer b).1 = (bus.loadAll c.dptr n c.mem).1 ∧
      OnBus idle ((readValues n).run t.answer b).2 (bus.loadAll c.dptr n c.mem).2 := by
  induction n generalizing b c with
  | zero => exact ⟨rfl, c, hb, rfl⟩
  | succ n ih =>
    obtain ⟨hvalue, hloaded⟩ := instr_refines hdebugs .movx_a_dptr rfl b c hb
    obtain ⟨-, hnext⟩ := instr_refines hdebugs .inc_dptr rfl _ _ hloaded
    obtain ⟨hrest, hmem⟩ := ih hnext
    simp only [readValues, run_bind, run_pure]
    exact ⟨congrArg₂ List.cons hvalue hrest, hmem⟩

theorem write_xdata_memory_block_refines (hdebugs : t.Debugs bus idle) (address : UInt16)
    (values : List UInt8) :
    (write_xdata_memory_block address values).Refines t.answer (OnBus idle)
      fun m => ((), bus.storeAll address values m) := by
  intro b m ⟨c, hb, hm⟩
  obtain ⟨-, hmoved⟩ := moveDptr_refines hdebugs address b c hb
  subst hm
  rw [write_xdata_memory_block, run_bind]
  exact ⟨rfl, writeValues_run hdebugs values hmoved⟩

theorem write_xdata_memory_refines (hdebugs : t.Debugs bus idle) (address : UInt16)
    (value : UInt8) :
    (write_xdata_memory address value).Refines t.answer (OnBus idle)
      fun m => ((), bus.store address value m) := by
  intro b m ⟨c, hb, hm⟩
  obtain ⟨-, haddressed⟩ := moveDptr_refines hdebugs address b c hb
  obtain ⟨-, hmoved⟩ := instr_refines hdebugs (.mov_a value) rfl _ _ haddressed
  obtain ⟨-, hstored⟩ := instr_refines hdebugs .movx_dptr_a rfl _ _ hmoved
  subst hm
  rw [write_xdata_memory, run_bind, run_bind, run_bind]
  exact ⟨rfl, _, hstored, rfl⟩

theorem read_xdata_memory_refines (hdebugs : t.Debugs bus idle) (address : UInt16) :
    (read_xdata_memory address).Refines t.answer (OnBus idle) (bus.load address) := by
  intro b m ⟨c, hb, hm⟩
  obtain ⟨-, haddressed⟩ := moveDptr_refines hdebugs address b c hb
  obtain ⟨hvalue, hloaded⟩ := instr_refines hdebugs .movx_a_dptr rfl _ _ haddressed
  subst hm
  rw [read_xdata_memory, run_bind]
  exact ⟨hvalue, _, hloaded, rfl⟩

theorem read_flash_memory_block_refines (hdebugs : t.Debugs bus idle) (bank : UInt8)
    (flash_addr num_bytes : Nat) :
    (read_flash_memory_block bank flash_addr num_bytes).Refines t.answer (OnBus idle)
      fun m => bus.loadAll (UInt16.ofNat (0x8000 + flash_addr)) num_bytes
        (bus.store DUP_MEMCTR bank m) := by
  intro b m hb
  obtain ⟨-, c, hbanked, hm⟩ := write_xdata_memory_refines hdebugs DUP_MEMCTR bank b m hb
  obtain ⟨-, haddressed⟩ :=
    moveDptr_refines hdebugs (UInt16.ofNat (0x8000 + flash_addr)) _ c hbanked
  have hread := readValues_run hdebugs num_bytes haddressed
  rw [hm] at hread
  rw [read_flash_memory_block, run_bind, run_bind]
  exact hread

/-- A command that leaves the registers alone, told of what is behind the CPU. -/
theorem plain_refines (hdebugs : t.Debugs bus idle) {cmd : UInt8} {cmd_bytes : List UInt8}
    (command : Command) (step : μ → UInt8 × μ) (hrequest : command.request = cmd :: cmd_bytes)
    (hfits : command.Fits)
    (hrespond : ∀ c, command.respond bus c = ([(step c.mem).1], { c with mem := (step c.mem).2 })) :
    (debug_command cmd cmd_bytes).Refines t.answer (OnBus idle) step := by
  intro b m ⟨c, hb, hm⟩
  have hstep := debug_command_refines hdebugs command (fun c => (step c.mem).1) hrequest hfits
    (fun c => congrArg Prod.fst (hrespond c)) b c hb
  simp only [hrespond] at hstep
  subst hm
  exact ⟨hstep.1, _, hstep.2, rfl⟩

/-- Polls of the status until the erase is over. -/
def Bus.pollErase (bus : Bus μ) (fuel : Nat) (m : μ) : Option UInt8 × μ :=
  repeatWhile (fun status => status &&& STATUS_CHIP_ERASE_BUSY_BM ≠ 0) bus.status fuel
    (bus.erase m).2

theorem chip_erase_refines (hdebugs : t.Debugs bus idle) (fuel : Nat) :
    (chip_erase fuel).Refines t.answer (OnBus idle) (bus.pollErase fuel) :=
  (plain_refines hdebugs .chipErase bus.erase rfl trivial fun _ => rfl).bind fun _ =>
    .doWhile (plain_refines hdebugs .readStatus bus.status rfl trivial fun _ => rfl) _ fuel

/-- The descriptors, the pointers to them and the address of a block. -/
def Bus.setUp (bus : Bus μ) (src : List UInt8) (start_addr : Nat) (m : μ) : μ :=
  let len := [HIBYTE src.length, LOBYTE src.length]
  let m := bus.storeAll ADDR_DMA_DESC_0 dma_desc_0 m
  let m := bus.storeAll ADDR_DMA_DESC_1 dma_desc_1 m
  let m := bus.storeAll (ADDR_DMA_DESC_0 + 4) len m
  let m := bus.storeAll (ADDR_DMA_DESC_1 + 4) len m
  let m := bus.store DUP_DMA0CFGH (HIBYTE ADDR_DMA_DESC_0.toNat) m
  let m := bus.store DUP_DMA0CFGL (LOBYTE ADDR_DMA_DESC_0.toNat) m
  let m := bus.store DUP_DMA1CFGH (HIBYTE ADDR_DMA_DESC_1.toNat) m
  let m := bus.store DUP_DMA1CFGL (LOBYTE ADDR_DMA_DESC_1.toNat) m
  let m := bus.store DUP_FADDRH (HIBYTE (start_addr >>> 2)) m
  bus.store DUP_FADDRL (LOBYTE (start_addr >>> 2)) m

/-- The block set up and sent, and the programming started. -/
def Bus.startBlock (bus : Bus μ) (src : List UInt8) (start_addr : Nat) (m : μ) : μ :=
  let m := bus.store DUP_DMAARM CH_DBG_TO_BUF0 (bus.setUp src start_addr m)
  bus.store DUP_FCTL 0x06 (bus.store DUP_DMAARM CH_BUF0_TO_FLASH (bus.burst src m).2)

/-- Polls of FCTL until the flash controller is done. -/
def Bus.pollBlock (bus : Bus μ) (fuel : Nat) (src : List UInt8) (start_addr : Nat) (m : μ) :
    Option UInt8 × μ :=
  repeatWhile (fun fctl => fctl &&& 0x80 ≠ 0) (bus.load DUP_FCTL) fuel
    (bus.startBlock src start_addr m)

theorem write_flash_memory_block_refines (hdebugs : t.Debugs bus idle) (fuel : Nat)
    (src : List UInt8) (start_addr : Nat) (hsrc : src.length < 2048) :
    (write_flash_memory_block fuel src start_addr).Refines t.answer (OnBus idle)
      (bus.pollBlock fuel src start_addr) := by
  have hblock := write_xdata_memory_block_refines hdebugs
  have hwrite := write_xdata_memory_refines hdebugs
  have hpolled := (read_xdata_memory_refines hdebugs DUP_FCTL).doWhile
    (fun fctl => fctl &&& 0x80 ≠ 0) fuel
  have hprogram := (hwrite DUP_DMAARM CH_BUF0_TO_FLASH).before
    ((hwrite DUP_FCTL 0x06).before hpolled)
  have hburst := (hwrite DUP_DMAARM CH_DBG_TO_BUF0).before
    ((burst_write_block_refines hdebugs src hsrc).before hprogram)
  have haddress := (hwrite DUP_FADDRH (HIBYTE (start_addr >>> 2))).before
    ((hwrite DUP_FADDRL (LOBYTE (start_addr >>> 2))).before hburst)
  have hpointers := (hwrite DUP_DMA0CFGH (HIBYTE ADDR_DMA_DESC_0.toNat)).before
    ((hwrite DUP_DMA0CFGL (LOBYTE ADDR_DMA_DESC_0.toNat)).before
      ((hwrite DUP_DMA1CFGH (HIBYTE ADDR_DMA_DESC_1.toNat)).before
        ((hwrite DUP_DMA1CFGL (LOBYTE ADDR_DMA_DESC_1.toNat)).before haddress)))
  have hlengths :=
    (hblock (ADDR_DMA_DESC_0 + 4) [HIBYTE src.length, LOBYTE src.length]).before
      ((hblock (ADDR_DMA_DESC_1 + 4) [HIBYTE src.length, LOBYTE src.length]).before hpointers)
  exact (hblock ADDR_DMA_DESC_0 dma_desc_0).before
    ((hblock ADDR_DMA_DESC_1 dma_desc_1).before hlengths)

end debugs

end concretid.flasher.debug
