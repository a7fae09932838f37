import Mathlib.Logic.Function.Iterate
import ConcretID.Library.Duplex
import ConcretID.Library.Memory

namespace concretid.flasher

open duplex memory

/-- What a run shows: the frames each side sends, the bytes each of its receives
takes, the host's messages and what is programmed into the flash. -/
inductive Event where
  | sent (frame : List UInt8)
  | received (bytes : List UInt8)
  | printf (format : String) (args : List Nat)
  | progress (count file_size : Nat)
  | programmed (addr : Nat) (bytes : List UInt8)
deriving DecidableEq, Repr

/-- Both programs have their own `Comunicacao.h`; they differ in how they give up. -/
inductive Side where
  | host
  | device
deriving DecidableEq, Repr

/-- The host prints a message and exits, the device blinks for ever. -/
def abort {α : Type} (side : Side) (message : String) : Proc UInt8 Event α :=
  match side with
  | .host => .emit (.printf message []) .exit
  | .device => .exit

def PRESET_VALUE : UInt16 := 0xFFFF
def POLYNOMIAL : UInt16 := 0x8408

def CMD_SERIAL_GET_INFO : UInt8 := 0x01
def CMD_SERIAL_SET_WRITE_ADDR : UInt8 := 0x02
def CMD_SERIAL_SET_READ_ADDR : UInt8 := 0x03
def CMD_SERIAL_SET_WRITE_BUFFER : UInt8 := 0x04
def CMD_SERIAL_START_WRITE : UInt8 := 0x06
def CMD_SERIAL_START_READ : UInt8 := 0x07
def CMD_SERIAL_ERASE_CHIP : UInt8 := 0x08
def CMD_SERIAL_ENABLE_DMA : UInt8 := 0x10
def CMD_SERIAL_ACK : UInt8 := 0x09

def LOBYTE (w : UInt16) : UInt8 := w.toUInt8
def HIBYTE (w : UInt16) : UInt8 := (w >>> 8).toUInt8

/-- One turn of the inner loop of `uiCrc16Cal`. -/
def uiCrc16Bit (uiCrcValue : UInt16) : UInt16 :=
  if uiCrcValue &&& 0x0001 ≠ 0 then (uiCrcValue >>> 1) ^^^ POLYNOMIAL else uiCrcValue >>> 1

def uiCrc16Cal (pucY : Nat → UInt8) (ucX : UInt16) : UInt16 :=
  (load pucY 0 ucX.toNat).foldl (fun uiCrcValue b => uiCrc16Bit^[8] (uiCrcValue ^^^ b.toUInt16))
    PRESET_VALUE

def enviarChecksum (buffer : Nat → UInt8) (len : UInt16) : Proc UInt8 Event Unit := do
  let crc := uiCrc16Cal buffer len
  write (LOBYTE crc)
  write (HIBYTE crc)

def checarChecksum (buffer : Nat → UInt8) (len : UInt16) (CRC_LSB CRC_MSB : UInt8) : Bool :=
  let crc := uiCrc16Cal buffer len
  CRC_MSB = HIBYTE crc && CRC_LSB = LOBYTE crc

/-- The bytes of a command on the line. -/
def comandoFrame (comando : UInt8) : List UInt8 := [0x01, comando]

/-- The bytes of a block of data on the line. -/
def dadosFrame (buffer : Nat → UInt8) (len : UInt16) : List UInt8 :=
  [0x00, LOBYTE len, HIBYTE len] ++ load buffer 0 len.toNat ++
    [LOBYTE (uiCrc16Cal buffer len), HIBYTE (uiCrc16Cal buffer len)]

def enviarComando (comando : UInt8) : Proc UInt8 Event Unit := do
  write 0x01
  write comando
  record (.sent (comandoFrame comando))

/-- A receive records the bytes it took, also when it gives up. -/
def receberComando (side : Side) : Proc UInt8 Event UInt8 := do
  let tipo ← read
  if tipo ≠ 0x01 then
    record (.received [tipo])
    abort side "Erro na comunicacao! Cabecalho de comando invalido\n"
  else
    let comando ← read
    record (.received [tipo, comando])
    return comando

/-- The line loses nothing, so the write of the bytes never falls short. -/
def enviarDados (buffer : Nat → UInt8) (len : UInt16) : Proc UInt8 Event Unit := do
  write 0x00
  write (LOBYTE len)
  write (HIBYTE len)
  writeAll (load buffer 0 len.toNat)
  enviarChecksum buffer len
  record (.sent (dadosFrame buffer len))

/-- Returns the length with the buffer the bytes were put into. The device reads
with a timeout of a second; here every byte arrives in time. -/
def receberDados (side : Side) (buffer : Nat → UInt8) :
    Proc UInt8 Event (Nat × (Nat → UInt8)) := do
  let tipo ← read
  if tipo ≠ 0x00 then
    record (.received [tipo])
    abort side "Erro na comunicacao! Cabecalho de dados invalido\n"
  else
    let len_LSB ← read
    let len_MSB ← read
    let len : UInt16 := len_MSB.toUInt16 <<< 8 ||| len_LSB.toUInt16
    let bytes ← readMany len.toNat
    let buffer := store buffer 0 bytes
    let CRC_LSB ← read
    let CRC_MSB ← read
    record (.received ([tipo, len_LSB, len_MSB] ++ bytes ++ [CRC_LSB, CRC_MSB]))
    if checarChecksum buffer len CRC_LSB CRC_MSB then
      return (len.toNat, buffer)
    else
      abort side "Erro na comunicacao! Erro Checksum de dados\n"

/-- Shifting a byte in. -/
theorem shift_or {x y : Nat} (hy : y < 256) : x <<< 8 ||| y = x * 256 + y := by
  rw [← Nat.shiftLeft_add_eq_or_of_lt hy, Nat.shiftLeft_eq]

theorem HIBYTE_toNat (w : UInt16) : (HIBYTE w).toNat = w.toNat / 256 := by
  have hlt : w.toNat / 256 < 256 := Nat.div_lt_of_lt_mul w.toNat_lt
  have hshift : (w >>> 8).toNat = w.toNat / 256 := Nat.shiftRight_eq_div_pow w.toNat 8
  rw [HIBYTE, UInt16.toNat_toUInt8, hshift]
  exact Nat.mod_eq_of_lt hlt

/-- The two bytes of a length make it again. -/
theorem bytes_joined (w : UInt16) : (HIBYTE w).toUInt16 <<< 8 ||| (LOBYTE w).toUInt16 = w := by
  have hfits : w.toNat / 256 * 256 < 65536 := by
    have := w.toNat_lt
    omega
  have hhigh : ((HIBYTE w).toUInt16 <<< 8).toNat = w.toNat / 256 * 256 := by
    rw [UInt16.toNat_shiftLeft, UInt8.toNat_toUInt16, HIBYTE_toNat]
    exact (congrArg (· % 65536) (Nat.shiftLeft_eq _ _)).trans (Nat.mod_eq_of_lt hfits)
  have hlow : (LOBYTE w).toUInt16.toNat = w.toNat % 256 := UInt16.toNat_toUInt8 w
  rw [← UInt16.toNat_inj, UInt16.toNat_or, hhigh, hlow]
  calc w.toNat / 256 * 256 ||| w.toNat % 256
      = (w.toNat / 256) <<< 8 ||| w.toNat % 256 := by rw [Nat.shiftLeft_eq]
    _ = w.toNat / 256 * 256 + w.toNat % 256 := shift_or (Nat.mod_lt _ (by decide))
    _ = w.toNat := Nat.div_add_mod' _ _

theorem enviarComando_executes (comando : UInt8) (x : List UInt8) :
    Executes (enviarComando comando) x (.pure ()) x (comandoFrame comando)
      [.sent (comandoFrame comando)] :=
  (write_executes _ _).bind ((write_executes _ _).bind (record_executes _ _))

theorem receberComando_executes (side : Side) (comando : UInt8) (x : List UInt8) :
    Executes (receberComando side) (comandoFrame comando ++ x) (.pure comando) x []
      [.received (comandoFrame comando)] :=
  (read_executes _ _).bind ((read_executes _ _).bind ((record_executes _ _).bind (.refl _ _)))

theorem enviarDados_executes (buffer : Nat → UInt8) (len : UInt16) (x : List UInt8) :
    Executes (enviarDados buffer len) x (.pure ()) x (dadosFrame buffer len)
      [.sent (dadosFrame buffer len)] := by
  have hchecksum : Executes (enviarChecksum buffer len) x (.pure ()) x
      [LOBYTE (uiCrc16Cal buffer len), HIBYTE (uiCrc16Cal buffer len)] [] :=
    (write_executes _ _).bind (write_executes _ _)
  exact (write_executes _ _).bind ((write_executes _ _).bind ((write_executes _ _).bind
    ((writeAll_executes _ _).bind (hchecksum.bind (record_executes _ _)))))

theorem uiCrc16Cal_store (target source : Nat → UInt8) (len : UInt16) :
    uiCrc16Cal (store target 0 (load source 0 len.toNat)) len = uiCrc16Cal source len := by
  rw [uiCrc16Cal, load_store_load, uiCrc16Cal]

/-- What `enviarDados` sends, `receberDados` takes whole, and it puts the same bytes
into its buffer. -/
theorem receberDados_executes (side : Side) (target source : Nat → UInt8) (len : UInt16)
    (x : List UInt8) :
    Executes (receberDados side target) (dadosFrame source len ++ x)
      (.pure (len.toNat, store target 0 (load source 0 len.toNat))) x []
      [.received (dadosFrame source len)] := by
  have hread := readMany_executes (ε := Event) (load source 0 len.toNat)
    ([LOBYTE (uiCrc16Cal source len), HIBYTE (uiCrc16Cal source len)] ++ x)
  rw [load_length] at hread
  have hcheck : checarChecksum (store target 0 (load source 0 len.toNat)) len
      (LOBYTE (uiCrc16Cal source len)) (HIBYTE (uiCrc16Cal source len)) = true := by
    simp [checarChecksum, uiCrc16Cal_store]
  unfold receberDados dadosFrame
  simp only [List.append_assoc, List.cons_append, List.nil_append]
  apply (read_executes _ _).bind
  rw [if_neg (by decide)]
  refine (read_executes _ _).bind ((read_executes _ _).bind ?_)
  simp only [bytes_joined]
  refine hread.bind ((read_executes _ _).bind ((read_executes _ _).bind
    ((record_executes _ _).bind ?_)))
  rw [if_pos hcheck]
  exact .refl _ _

end concretid.flasher
