import Mathlib.Logic.Function.Basic
import ConcretID.Flasher.Device

namespace concretid.flasher

open duplex memory

/-- `receberComando` and the message printed when it is not the acknowledgement. -/
def receberAck (message : String) : Proc UInt8 Event Unit := do
  let comando ← receberComando .host
  if comando ≠ CMD_SERIAL_ACK then
    record (.printf message [])

/-- `buf_aux` with the three bytes of an address. -/
def putAddr (count : Nat) : Nat → UInt8 :=
  store (fun _ => 0) 0 [UInt8.ofNat (count &&& 0x000000FF),
    UInt8.ofNat ((count &&& 0x0000FF00) >>> 8), UInt8.ofNat ((count &&& 0x00030000) >>> 16)]

/-- `buf_aux` with the two bytes of a length. -/
def putCount (n : Nat) : Nat → UInt8 :=
  store (fun _ => 0) 0 [UInt8.ofNat (n &&& 0x000000FF), UInt8.ofNat ((n &&& 0x0000FF00) >>> 8)]

/-- `while (n % 4 != 0 && n <= BUFFER_SIZE) { buffer[n] = 0; n++; }` -/
def pad (n : Nat) (buffer : Nat → UInt8) : Nat × (Nat → UInt8) :=
  if n % 4 ≠ 0 ∧ n ≤ BUFFER_SIZE then pad (n + 1) (Function.update buffer n 0) else (n, buffer)
termination_by BUFFER_SIZE + 1 - n

/-- The `switch` on the flash size, which prints nothing for a size it does not know. -/
def flashSizeText (size : UInt8) : List Event :=
  match size.toNat with
  | 1 => [.printf "32 kB\n" []]
  | 2 => [.printf "64 kB\n" []]
  | 3 => [.printf "128 kB\n" []]
  | 4 => [.printf "256 kB\n" []]
  | _ => []

/-- What is printed of the answer to GET_INFO. -/
def infoText (buffer : Nat → UInt8) : List Event :=
  [.printf "Chip ID: " [], .printf "%X\n" [(buffer 0).toNat], .printf "Version: " [],
    .printf "%X\n" [(buffer 1).toNat], .printf "Flash Memory Size: " []] ++
  flashSizeText (buffer 2) ++ [.printf "SRAM Memory Size: %d kB\n" [(buffer 3).toNat]]

def getInfo (buffer : Nat → UInt8) : Proc UInt8 Event (Nat → UInt8) := do
  enviarComando CMD_SERIAL_GET_INFO
  let received ← receberDados .host buffer
  return received.2

def eraseChip : Proc UInt8 Event Unit := do
  enviarComando CMD_SERIAL_ERASE_CHIP
  let comando ← receberComando .host
  if comando ≠ CMD_SERIAL_ACK then
    record (.printf "Erro de comunicacao! Ack nao recebido CMD_SERIAL_ERASE_CHIP\n" [])
  else
    record (.printf "Chip Apagado Completamente!\n" [])

def enableDma : Proc UInt8 Event Unit := do
  enviarComando CMD_SERIAL_ENABLE_DMA
  receberAck "Erro de comunicacao! Ack nao recebido CMD_SERIAL_ENABLE_DMA\n"

/-- What `main` does before the write phase; returns the buffer. -/
def prepare (buffer : Nat → UInt8) : Proc UInt8 Event (Nat → UInt8) := do
  let buffer ← getInfo buffer
  if buffer 0 = 0 then
    record (.printf "Nenhum Chip Detectado!\n" [])
    .exit
  else
    recordAll (infoText buffer)
    eraseChip
    enableDma
    return buffer

/-- The body of the write loop, for a chunk of `n` bytes in the buffer; returns the
length and the buffer after the padding. -/
def writeChunk (file_size count n : Nat) (buffer : Nat → UInt8) :
    Proc UInt8 Event (Nat × (Nat → UInt8)) := do
  enviarComando CMD_SERIAL_SET_WRITE_ADDR
  enviarDados (putAddr count) 3
  receberAck "Erro de comunicacao! Ack nao recebido CMD_SERIAL_SET_WRITE_ADDR\n"
  let filled := pad n buffer
  enviarComando CMD_SERIAL_SET_WRITE_BUFFER
  enviarDados filled.2 (UInt16.ofNat filled.1)
  receberAck "Erro de comunicacao! Ack nao recebido CMD_SERIAL_SET_WRITE_BUFFER\n"
  enviarComando CMD_SERIAL_START_WRITE
  receberAck "Erro de comunicacao! Ack nao recebido CMD_SERIAL_START_WRITE\n"
  record (.progress count file_size)
  return filled

/-- `while ((n = fread(buffer, 1, BUFFER_SIZE, fin)))` of the write phase, with what
is left of the file. -/
def writeLoop (file_size : Nat) (fin : List UInt8) (count : Nat) (buffer : Nat → UInt8) :
    Proc UInt8 Event (Nat × (Nat → UInt8)) :=
  if fin = [] then
    return (count, buffer)
  else do
    let chunk := fin.take BUFFER_SIZE
    let filled ← writeChunk file_size count chunk.length (store buffer 0 chunk)
    writeLoop file_size (fin.drop BUFFER_SIZE) (count + filled.1) filled.2
termination_by fin.length
decreasing_by
  rename_i hfin
  have hlength : 0 < fin.length := List.length_pos_iff.mpr hfin
  rw [List.length_drop, BUFFER_SIZE]
  omega

/-- The comparison of what was written with what was read back, from index `i` on. -/
def compareLoop (buffer buffer2 : Nat → UInt8) (i : Nat) : Nat → Proc UInt8 Event Unit
  | 0 => return ()
  | left + 1 =>
    if buffer i ≠ buffer2 i then
      record (.printf
        "Erro de verificacao! Conteudo recebido apos escrita diferente do esperado\n" [])
    else
      compareLoop buffer buffer2 (i + 1) left

/-- The body of the verify loop; returns what `writeChunk` does with the other
buffer. -/
def verifyChunk (file_size count n : Nat) (buffer buffer2 : Nat → UInt8) :
    Proc UInt8 Event ((Nat × (Nat → UInt8)) × (Nat → UInt8)) := do
  enviarComando CMD_SERIAL_SET_READ_ADDR
  enviarDados (putAddr count) 3
  receberAck "Erro de comunicacao! Ack nao recebido CMD_SERIAL_SET_READ_ADDR\n"
  let filled := pad n buffer
  enviarComando CMD_SERIAL_START_READ
  enviarDados (putCount filled.1) 2
  let received ← receberDados .host buffer2
  if received.1 ≠ filled.1 then
    record (.printf "Erro de comunicacao! Esperado %d bytes, chegaram %d bytes\n"
      [filled.1, received.1])
  compareLoop filled.2 received.2 0 filled.1
  receberAck "Erro de comunicacao! Ack nao recebido CMD_SERIAL_START_READ\n"
  record (.progress count file_size)
  return (filled, received.2)

/-- The same loop of the verify phase. -/
def verifyLoop (file_size : Nat) (fin : List UInt8) (count : Nat) (buffer buffer2 : Nat → UInt8) :
    Proc UInt8 Event Nat :=
  if fin = [] then
    return count
  else do
    let chunk := fin.take BUFFER_SIZE
    let verified ← verifyChunk file_size count chunk.length (store buffer 0 chunk) buffer2
    verifyLoop file_size (fin.drop BUFFER_SIZE) (count + verified.1.1) verified.1.2 verified.2
termination_by fin.length
decreasing_by
  rename_i hfin
  have hlength : 0 < fin.length := List.length_pos_iff.mpr hfin
  rw [List.length_drop, BUFFER_SIZE]
  omega

/-- The verify phase, from the rewound file on. -/
def verifyPhase (file : List UInt8) (buffer buffer2 : Nat → UInt8) : Proc UInt8 Event Unit := do
  let count ← verifyLoop file.length file 0 buffer buffer2
  record (.printf "100%%" [])
  record (.printf "\n%d bytes verificados.\n" [count])

/-- What follows the write phase: `answer` is what `scanf` leaves in `buf_aux[0]`. -/
def question (file : List UInt8) (answer : UInt8) (buffer buffer2 : Nat → UInt8) :
    Proc UInt8 Event Unit := do
  record (.printf "Deseja fazer a verificacao dos dados escritos? (s/n) " [])
  if answer = 's'.toUInt8 ∨ answer = 'S'.toUInt8 ∨ answer = 'y'.toUInt8 ∨
      answer = 'Y'.toUInt8 then
    verifyPhase file buffer buffer2

/-- `main`, once the file and the port are open. -/
def main (file : List UInt8) (answer : UInt8) (buffer buffer2 : Nat → UInt8) :
    Proc UInt8 Event Unit := do
  let buffer ← prepare buffer
  let written ← writeLoop file.length file 0 buffer
  record (.printf "100%%" [])
  record (.printf "\n%d bytes escritos.\n" [written.1])
  question file answer written.2 buffer2

end concretid.flasher
