import ConcretID.Flasher.Device
import ConcretID.Flasher.DebugBytes

namespace concretid.flasher.debug

open calls

/-- What the debug interface reaches of the device: its XDATA space, the status and the
configuration of debugging, erasing the chip and the bytes of a burst. Each access may let
the device go on, and each command but GET_CHIP_ID has an answer of one byte. -/
structure Bus (μ : Type) where
  load : UInt16 → μ → UInt8 × μ
  store : UInt16 → UInt8 → μ → μ
  status : μ → UInt8 × μ
  erase : μ → UInt8 × μ
  config : UInt8 → μ → UInt8 × μ
  burst : List UInt8 → μ → UInt8 × μ
  id : UInt8
  revision : UInt8

/-- The registers of the halted CPU the instructions work on, and what is behind them. -/
structure Cpu (μ : Type) where
  dptr : UInt16
  acc : UInt8
  mem : μ

/-- The 8051 instructions the programmer has the CPU execute. -/
inductive Instr where
  | mov_dptr (address : UInt16)
  | mov_a (value : UInt8)
  | movx_dptr_a
  | movx_a_dptr
  | inc_dptr

def Instr.code : Instr → List UInt8
  | .mov_dptr address => [0x90, (address >>> 8).toUInt8, address.toUInt8]
  | .mov_a value => [0x74, value]
  | .movx_dptr_a => [0xF0]
  | .movx_a_dptr => [0xE0]
  | .inc_dptr => [0xA3]

def Instr.exec {μ : Type} (bus : Bus μ) : Instr → Cpu μ → Cpu μ
  | .mov_dptr address, c => { c with dptr := address }
  | .mov_a value, c => { c with acc := value }
  | .movx_dptr_a, c => { c with mem := bus.store c.dptr c.acc c.mem }
  | .movx_a_dptr, c =>
    let r := bus.load c.dptr c.mem
    { c with
      acc := r.1
      mem := r.2 }
  | .inc_dptr, c => { c with dptr := c.dptr + 1 }

inductive Command where
  | instr (i : Instr)
  | readStatus
  | chipErase
  | wrConfig (value : UInt8)
  | burst (src : List UInt8)
  | getChipId

/-- The bytes of a command on the lines. -/
def Command.request : Command → List UInt8
  | .instr i => (0x54 ||| UInt8.ofNat i.code.length) :: i.code
  | .readStatus => [CMD_READ_STATUS]
  | .chipErase => [CMD_CHIP_ERASE]
  | .wrConfig value => [CMD_WR_CONFIG, value]
  | .burst src => burstRequest src
  | .getChipId => [CMD_GET_CHIP_ID]

/-- The length of a burst has eleven bits. -/
def Command.Fits : Command → Prop
  | .burst src => src.length < 2048
  | _ => True

/-- The answer to a command and what it makes of the device. -/
def Command.respond {μ : Type} (bus : Bus μ) : Command → Cpu μ → List UInt8 × Cpu μ
  | .instr i, c => ([(i.exec bus c).acc], i.exec bus c)
  | .readStatus, c => ([(bus.status c.mem).1], { c with mem := (bus.status c.mem).2 })
  | .chipErase, c => ([(bus.erase c.mem).1], { c with mem := (bus.erase c.mem).2 })
  | .wrConfig value, c =>
    ([(bus.config value c.mem).1], { c with mem := (bus.config value c.mem).2 })
  | .burst src, c => ([(bus.burst src c.mem).1], { c with mem := (bus.burst src c.mem).2 })
  | .getChipId, c => ([bus.id, bus.revision], c)

/-- The device holds DD high for `n` bytes more, and then low. -/
def Dup.Waits {σ : Type} (t : Dup σ) : Nat → σ → (σ → Prop) → Prop
  | 0, s, ready => t.dd s = false ∧ ready s
  | n + 1, s, ready => t.dd s = true ∧ t.Waits n (t.give s).2 ready

/-- The next bytes the device gives are these. -/
def Dup.Gives {σ : Type} (t : Dup σ) : List UInt8 → σ → (σ → Prop) → Prop
  | [], s, after => after s
  | a :: rest, s, after => (t.give s).1 = a ∧ t.Gives rest (t.give s).2 after

/-- A device that debugs: between two commands it stands for the state of a CPU. A command
clocked in is answered after sixteen bytes at most, and two clocks while RESET_N is low
bring it there from anywhere. -/
structure Dup.Debugs {σ μ : Type} (t : Dup σ) (bus : Bus μ) (idle : σ → Cpu μ → Prop) : Prop where
  answers : ∀ (command : Command) (s : σ) (c : Cpu μ), idle s c → command.Fits →
    ∃ n ≤ 16, t.Waits n (command.request.foldl t.take s) fun s' =>
      t.Gives (command.respond bus c).1 s' fun s'' => idle s'' (command.respond bus c).2
  starts : ∀ s : σ, ∃ c : Cpu μ,
    idle (t.reset true (t.fall none (t.rise (t.fall none (t.rise (t.reset false s)))))) c

def STATUS_CHIP_ERASE_BUSY_BM : UInt8 := 0x80

def ADDR_DMA_DESC_0 : UInt16 := 0x0800
def ADDR_DMA_DESC_1 : UInt16 := ADDR_DMA_DESC_0 + 8

def CH_DBG_TO_BUF0 : UInt8 := 0x01
def CH_BUF0_TO_FLASH : UInt8 := 0x02

def DUP_DBGDATA : UInt16 := 0x6260
def DUP_FCTL : UInt16 := 0x6270
def DUP_FADDRL : UInt16 := 0x6271
def DUP_FADDRH : UInt16 := 0x6272
def DUP_FWDATA : UInt16 := 0x6273
def DUP_CLKCONSTA : UInt16 := 0x709E
def DUP_CLKCONCMD : UInt16 := 0x70C6
def DUP_DMA1CFGL : UInt16 := 0x70D2
def DUP_DMA1CFGH : UInt16 := 0x70D3
def DUP_DMA0CFGL : UInt16 := 0x70D4
def DUP_DMA0CFGH : UInt16 := 0x70D5
def DUP_DMAARM : UInt16 := 0x70D6

/-- Debug interface to buffer. -/
def dma_desc_0 : List UInt8 :=
  [HIBYTE DUP_DBGDATA.toNat, LOBYTE DUP_DBGDATA.toNat, 0x00, 0x00, 0, 0, 31, 0x11]

/-- Buffer to flash controller. -/
def dma_desc_1 : List UInt8 :=
  [0x00, 0x00, HIBYTE DUP_FWDATA.toNat, LOBYTE DUP_FWDATA.toNat, 0, 0, 18, 0x42]

def chip_erase (fuel : Nat) : Sketch (Option UInt8) := do
  let _ ← debug_command CMD_CHIP_ERASE []
  doWhile (fun status => status &&& STATUS_CHIP_ERASE_BUSY_BM ≠ 0)
    (debug_command CMD_READ_STATUS []) fuel

def moveDptr (address : UInt16) : Sketch UInt8 :=
  debug_command CMD_DEBUG_INSTR_3B [0x90, HIBYTE address.toNat, LOBYTE address.toNat]

def writeValues : List UInt8 → Sketch Unit
  | [] => return
  | value :: rest => do
    let _ ← debug_command CMD_DEBUG_INSTR_2B [0x74, value]
    let _ ← debug_command CMD_DEBUG_INSTR_1B [0xF0]
    let _ ← debug_command CMD_DEBUG_INSTR_1B [0xA3]
    writeValues rest

def write_xdata_memory_block (address : UInt16) (values : List UInt8) : Sketch Unit := do
  let _ ← moveDptr address
  writeValues values

def write_xdata_memory (address : UInt16) (value : UInt8) : Sketch Unit := do
  let _ ← moveDptr address
  let _ ← debug_command CMD_DEBUG_INSTR_2B [0x74, value]
  let _ ← debug_command CMD_DEBUG_INSTR_1B [0xF0]

def read_xdata_memory (address : UInt16) : Sketch UInt8 := do
  let _ ← moveDptr address
  debug_command CMD_DEBUG_INSTR_1B [0xE0]

def readValues : Nat → Sketch (List UInt8)
  | 0 => return []
  | num_bytes + 1 => do
    let value ← debug_command CMD_DEBUG_INSTR_1B [0xE0]
    let _ ← debug_command CMD_DEBUG_INSTR_1B [0xA3]
    let rest ← readValues num_bytes
    return value :: rest

/-- Returns the bytes for the destination. -/
def read_flash_memory_block (bank : UInt8) (flash_addr num_bytes : Nat) : Sketch (List UInt8) := do
  write_xdata_memory DUP_MEMCTR bank
  let _ ← moveDptr (UInt16.ofNat (0x8000 + flash_addr))
  readValues num_bytes

def write_flash_memory_block (fuel : Nat) (src : List UInt8) (start_addr : Nat) :
    Sketch (Option UInt8) := do
  write_xdata_memory_block ADDR_DMA_DESC_0 dma_desc_0
  write_xdata_memory_block ADDR_DMA_DESC_1 dma_desc_1
  let len := [HIBYTE src.length, LOBYTE src.length]
  write_xdata_memory_block (ADDR_DMA_DESC_0 + 4) len
  write_xdata_memory_block (ADDR_DMA_DESC_1 + 4) len
  write_xdata_memory DUP_DMA0CFGH (HIBYTE ADDR_DMA_DESC_0.toNat)
  write_xdata_memory DUP_DMA0CFGL (LOBYTE ADDR_DMA_DESC_0.toNat)
  write_xdata_memory DUP_DMA1CFGH (HIBYTE ADDR_DMA_DESC_1.toNat)
  write_xdata_memory DUP_DMA1CFGL (LOBYTE ADDR_DMA_DESC_1.toNat)
  write_xdata_memory DUP_FADDRH (HIBYTE (start_addr >>> 2))
  write_xdata_memory DUP_FADDRL (LOBYTE (start_addr >>> 2))
  write_xdata_memory DUP_DMAARM CH_DBG_TO_BUF0
  burst_write_block src
  write_xdata_memory DUP_DMAARM CH_BUF0_TO_FLASH
  write_xdata_memory DUP_FCTL 0x06
  doWhile (fun fctl => fctl &&& 0x80 ≠ 0) (read_xdata_memory DUP_FCTL) fuel

end concretid.flasher.debug
