import ConcretID.Flasher.Comunicacao

namespace concretid.flasher

open duplex memory

def BUFFER_SIZE : Nat := 1536

def DUP_CHVER : UInt16 := 0x6249
def DUP_CHIPID : UInt16 := 0x624A
def DUP_CHIPINFO0 : UInt16 := 0x6276
def DUP_CHIPINFO1 : UInt16 := 0x6277
def DUP_MEMCTR : UInt16 := 0x70C7

/-- The chip behind the debug interface: what the programmer reads of its XDATA
space, what each debug operation makes of it, and what its flash holds at each
linear address. -/
structure Chip (κ : Type) where
  xdata : κ → UInt16 → UInt8
  write_xdata_memory : UInt16 → UInt8 → κ → κ
  chip_erase : κ → κ
  write_config : UInt8 → κ → κ
  write_flash_memory_block : (Nat → UInt8) → Nat → Nat → κ → κ
  flash : κ → Nat → UInt8

/-- Programming words of four bytes puts the bytes of the buffer at their addresses
of the 256 KB of flash. -/
def Chip.Programs {κ : Type} (chip : Chip κ) : Prop :=
  ∀ (src : Nat → UInt8) (addr n : Nat) (k : κ), 4 ∣ n → n ≤ BUFFER_SIZE → 4 ∣ addr →
    addr + n ≤ 0x40000 →
    chip.flash (chip.write_flash_memory_block src addr n k) =
      store (chip.flash k) addr (load src 0 n)

/-- XDATA from 0x8000 on shows the bank of 32 KB selected in MEMCTR, and selecting a
bank leaves the flash. -/
structure Chip.ShowsBank {κ : Type} (chip : Chip κ) : Prop where
  shows : ∀ (k : κ) (bank offset : Nat), bank < 8 → offset < 0x8000 →
    chip.xdata (chip.write_xdata_memory DUP_MEMCTR (UInt8.ofNat bank) k)
      (UInt16.ofNat (0x8000 + offset)) = chip.flash k (bank * 0x8000 + offset)
  keeps : ∀ (k : κ) (bank : UInt8), chip.flash (chip.write_xdata_memory DUP_MEMCTR bank k) =
    chip.flash k

/-- A chip that is its flash and the bank it shows, with the identity of a CC2530. -/
def memoryChip : Chip ((Nat → UInt8) × UInt8) where
  xdata k a :=
    if 0x8000 ≤ a.toNat then k.1 (k.2.toNat * 0x8000 + (a.toNat - 0x8000))
    else if a = DUP_CHIPID then 0xA5
    else 0
  write_xdata_memory a v k := if a = DUP_MEMCTR then (k.1, v) else k
  chip_erase k := (fun _ => 0xFF, k.2)
  write_config _ k := k
  write_flash_memory_block src addr n k := (store k.1 addr (load src 0 n), k.2)
  flash := Prod.fst

theorem memoryChip_programs : memoryChip.Programs :=
  fun _ _ _ _ _ _ _ _ => rfl

theorem memoryChip_showsBank : memoryChip.ShowsBank where
  shows k bank offset hbank hoffset := by
    have hselected : (UInt8.ofNat bank).toNat = bank := by
      rw [UInt8.toNat_ofNat']
      exact Nat.mod_eq_of_lt (by omega)
    have haddr : (UInt16.ofNat (0x8000 + offset)).toNat = 0x8000 + offset := by
      rw [UInt16.toNat_ofNat']
      exact Nat.mod_eq_of_lt (by omega)
    simp only [memoryChip, if_true, hselected, haddr, Nat.le_add_right, Nat.add_sub_cancel_left]
  keeps _ _ := rfl

/-- The programmer's buffer and registers, and the chip it programs. -/
structure Device (κ : Type) where
  buffer : Nat → UInt8
  write_addr : Nat
  write_count : Nat
  read_addr : Nat
  chip : κ

/-- Three bytes of a buffer, shifted into an `unsigned long`. -/
def takeAddr (buffer : Nat → UInt8) : Nat :=
  (((buffer 2).toNat <<< 8 ||| (buffer 1).toNat) <<< 8) ||| (buffer 0).toNat

/-- Two bytes of a buffer, shifted into an `unsigned short`. -/
def takeCount (buffer : Nat → UInt8) : Nat :=
  (buffer 1).toNat <<< 8 ||| (buffer 0).toNat

/-- `MOVX A, @DPTR` and `INC DPTR`, `num_bytes` times. -/
def movxLoop {κ : Type} (chip : Chip κ) (k : κ) (dptr : UInt16) : Nat → List UInt8
  | 0 => []
  | num_bytes + 1 => chip.xdata k dptr :: movxLoop chip k (dptr + 1) num_bytes

/-- Returns the bytes for the destination with the chip, whose bank has been
selected. -/
def read_flash_memory_block {κ : Type} (chip : Chip κ) (bank : UInt8)
    (flash_addr num_bytes : Nat) (k : κ) : List UInt8 × κ :=
  let xdata_addr := UInt16.ofNat (0x8000 + flash_addr)
  let k := chip.write_xdata_memory DUP_MEMCTR bank k
  (movxLoop chip k xdata_addr num_bytes, k)

/-- `while (read_count)` of CMD_SERIAL_START_READ. An offset within a bank is below
0x8000, so that every turn reads something; `read_total` and `read_count` together stay
what was asked for. -/
def readLoop {κ : Type} (chip : Chip κ) (read_count : Nat) (read_bank : UInt8)
    (read_xaddr : { x : Nat // x < 0x8000 }) (read_total : Nat) (buffer : Nat → UInt8) (k : κ) :
    Nat × (Nat → UInt8) × κ :=
  if read_count = 0 then
    (read_total, buffer, k)
  else
    let read_len :=
      if read_xaddr.val + read_count < 0x8000 then read_count else 0x8000 - read_xaddr.val
    let block := read_flash_memory_block chip read_bank read_xaddr.val read_len k
    readLoop chip (read_count - read_len) (read_bank + 1) ⟨0, by decide⟩ (read_total + read_len)
      (store buffer read_total block.1) block.2
termination_by read_count
decreasing_by
  have := read_xaddr.property
  split <;> omega

/-- CMD_SERIAL_START_READ from `read_addr` on: the bytes of the flash put into the
buffer and how many they are. -/
def startRead {κ : Type} (chip : Chip κ) (read_addr read_count : Nat) (buffer : Nat → UInt8)
    (k : κ) : Nat × (Nat → UInt8) × κ :=
  let read_bank := UInt8.ofNat (read_addr >>> 15)
  let read_xaddr := ⟨read_addr &&& 0x7fff, Nat.lt_of_le_of_lt Nat.and_le_right (by decide)⟩
  readLoop chip read_count read_bank read_xaddr 0 buffer k

/-- What GET_INFO puts into the buffer. -/
def chipInfo {κ : Type} (chip : Chip κ) (k : κ) : List UInt8 :=
  [chip.xdata k DUP_CHIPID, chip.xdata k DUP_CHVER,
    (chip.xdata k DUP_CHIPINFO0 >>> 4) &&& 0x05, (chip.xdata k DUP_CHIPINFO1 &&& 0x07) + 1]

/-- One pass of the Arduino's `loop()`. A command it does not know is left without
an answer. -/
def loop {κ : Type} (chip : Chip κ) (d : Device κ) : Proc UInt8 Event (Device κ) := do
  let comando ← receberComando .device
  if comando = CMD_SERIAL_GET_INFO then
    let buffer := store d.buffer 0 (chipInfo chip d.chip)
    enviarDados buffer 4
    return { d with buffer := buffer }
  else if comando = CMD_SERIAL_SET_WRITE_ADDR then
    let received ← receberDados .device d.buffer
    enviarComando CMD_SERIAL_ACK
    return { d with
      buffer := received.2
      write_addr := takeAddr received.2 }
  else if comando = CMD_SERIAL_SET_WRITE_BUFFER then
    let received ← receberDados .device d.buffer
    enviarComando CMD_SERIAL_ACK
    return { d with
      buffer := received.2
      write_count := received.1 }
  else if comando = CMD_SERIAL_SET_READ_ADDR then
    let received ← receberDados .device d.buffer
    enviarComando CMD_SERIAL_ACK
    return { d with
      buffer := received.2
      read_addr := takeAddr received.2 }
  else if comando = CMD_SERIAL_ENABLE_DMA then
    enviarComando CMD_SERIAL_ACK
    return { d with chip := chip.write_config 0x22 d.chip }
  else if comando = CMD_SERIAL_START_WRITE then
    record (.programmed d.write_addr (load d.buffer 0 d.write_count))
    enviarComando CMD_SERIAL_ACK
    return { d with
      chip := chip.write_flash_memory_block d.buffer d.write_addr d.write_count d.chip }
  else if comando = CMD_SERIAL_START_READ then
    let received ← receberDados .device d.buffer
    let read := startRead chip d.read_addr (takeCount received.2) received.2 d.chip
    enviarDados read.2.1 (UInt16.ofNat read.1)
    enviarComando CMD_SERIAL_ACK
    return { d with
      buffer := read.2.1
      chip := read.2.2 }
  else if comando = CMD_SERIAL_ERASE_CHIP then
    enviarComando CMD_SERIAL_ACK
    return { d with chip := chip.chip_erase d.chip }
  else
    return d

end concretid.flasher
