import Mathlib.Logic.Function.Basic
import ConcretID.Library.Calls
import ConcretID.Library.Shift

namespace concretid.flasher.debug

open calls shift

/-- The pins of the programmer: the two lines of the debug interface, the reset line
and pin 13. -/
inductive Pin where
  | DD
  | DC
  | RESET_N
  | pin13
  deriving DecidableEq

inductive Mode where
  | INPUT
  | OUTPUT
  deriving DecidableEq

/-- What a sketch does with its pins. -/
inductive Arduino where
  | pinMode (pin : Pin) (mode : Mode)
  | digitalWrite (pin : Pin) (level : Bool)
  | digitalRead (pin : Pin)

def Arduino.Answer : Arduino → Type
  | .digitalRead _ => Bool
  | _ => Unit

abbrev Sketch (α : Type) := Prog Arduino Arduino.Answer α

def pinMode (pin : Pin) (mode : Mode) : Sketch Unit := ask (Arduino.pinMode pin mode)

def digitalWrite (pin : Pin) (level : Bool) : Sketch Unit := ask (Arduino.digitalWrite pin level)

def digitalRead (pin : Pin) : Sketch Bool := ask (Arduino.digitalRead pin)

def SET_DD_INPUT : Sketch Unit := pinMode .DD .INPUT

def SET_DD_OUTPUT : Sketch Unit := pinMode .DD .OUTPUT

def programmer_init : Sketch Unit := do
  digitalWrite .RESET_N true
  pinMode .DC .OUTPUT
  pinMode .RESET_N .OUTPUT
  pinMode .pin13 .OUTPUT
  digitalWrite .pin13 false

/-- The turns that are left of the loop of `write_debug_byte`. -/
def writeBits : Nat → UInt8 → Sketch Unit
  | 0, _ => return
  | n + 1, data => do
    digitalWrite .DC true
    if data &&& 0x80 ≠ 0 then digitalWrite .DD true else digitalWrite .DD false
    digitalWrite .DC false
    writeBits n (data <<< 1)

def write_debug_byte (data : UInt8) : Sketch Unit := writeBits 8 data

/-- The turns that are left of the loop of `read_debug_byte`. -/
def readBits : Nat → UInt8 → Sketch UInt8
  | 0, data => return data
  | n + 1, data => do
    digitalWrite .DC true
    let level ← digitalRead .DD
    digitalWrite .DC false
    readBits n (data <<< 1 ||| (if level then 1 else 0))

def read_debug_byte : Sketch UInt8 := readBits 8 0

/-- The polls that are left of `wait_dup_ready` and their count so far. DD is read before
the count is looked at. -/
def pollDup : Nat → UInt8 → Sketch UInt8
  | 0, count => do
    let _ ← digitalRead .DD
    return count
  | n + 1, count => do
    let level ← digitalRead .DD
    if level then
      let _ ← read_debug_byte
      pollDup n (count + 1)
    else
      return count

def wait_dup_ready : Sketch Bool := do
  let count ← pollDup 16 0
  return count ≠ 16

def writeBytes : List UInt8 → Sketch Unit
  | [] => return
  | b :: rest => do
    write_debug_byte b
    writeBytes rest

def debug_command (cmd : UInt8) (cmd_bytes : List UInt8) : Sketch UInt8 := do
  SET_DD_OUTPUT
  write_debug_byte cmd
  writeBytes cmd_bytes
  SET_DD_INPUT
  let _ ← wait_dup_ready
  let output ← read_debug_byte
  SET_DD_OUTPUT
  return output

/-- Two flanks on DC while RESET_N is low. -/
def debug_init : Sketch Unit := do
  digitalWrite .DC false
  digitalWrite .DD false
  digitalWrite .RESET_N false
  digitalWrite .DC true
  digitalWrite .DC false
  digitalWrite .DC true
  digitalWrite .DC false
  digitalWrite .RESET_N true

def CMD_CHIP_ERASE : UInt8 := 0x10
def CMD_WR_CONFIG : UInt8 := 0x19
def CMD_READ_STATUS : UInt8 := 0x30
def CMD_DEBUG_INSTR_1B : UInt8 := 0x54 ||| 1
def CMD_DEBUG_INSTR_2B : UInt8 := 0x54 ||| 2
def CMD_DEBUG_INSTR_3B : UInt8 := 0x54 ||| 3
def CMD_BURST_WRITE : UInt8 := 0x80
def CMD_GET_CHIP_ID : UInt8 := 0x68

def read_chip_id : Sketch UInt8 := do
  SET_DD_OUTPUT
  write_debug_byte CMD_GET_CHIP_ID
  SET_DD_INPUT
  let _ ← wait_dup_ready
  let id ← read_debug_byte
  let _ ← read_debug_byte
  SET_DD_OUTPUT
  return id

def LOBYTE (w : Nat) : UInt8 := UInt8.ofNat w

def HIBYTE (w : Nat) : UInt8 := UInt8.ofNat ((UInt16.ofNat w).toNat >>> 8)

/-- `num_bytes` is the length of `src`. -/
def burst_write_block (src : List UInt8) : Sketch Unit := do
  SET_DD_OUTPUT
  write_debug_byte (CMD_BURST_WRITE ||| HIBYTE src.length)
  write_debug_byte (LOBYTE src.length)
  writeBytes src
  SET_DD_INPUT
  let _ ← wait_dup_ready
  let _ ← read_debug_byte
  SET_DD_OUTPUT

/-- The device under programming, at its end of the lines: what the flanks on DC and
RESET_N make of it, and the level it gives DD while the programmer leaves the line to it. -/
structure Dup (σ : Type) where
  rise : σ → σ
  fall : Option Bool → σ → σ
  reset : Bool → σ → σ
  dd : σ → Bool

/-- The pins of the programmer and the device at the other end of the lines. -/
structure Board (σ : Type) where
  mode : Pin → Mode
  latch : Pin → Bool
  dup : σ

/-- The level the programmer drives on DD, unless DD is an input. -/
def Board.driven {σ : Type} (b : Board σ) : Option Bool :=
  if b.mode .DD = .OUTPUT then some (b.latch .DD) else none

/-- What the device makes of a level written to a pin. -/
def Dup.sees {σ : Type} (t : Dup σ) (b : Board σ) (pin : Pin) (level : Bool) : σ :=
  if b.mode pin = .OUTPUT then
    match pin with
    | .DC =>
      if level = b.latch .DC then b.dup
      else if level then t.rise b.dup
      else t.fall b.driven b.dup
    | .RESET_N => t.reset level b.dup
    | _ => b.dup
  else
    b.dup

/-- The level a pin reads as. The sketch reads DD only. -/
def Dup.level {σ : Type} (t : Dup σ) (b : Board σ) (pin : Pin) : Bool :=
  if pin = .DD ∧ b.mode .DD = .INPUT then t.dd b.dup else b.latch pin

def Board.pinMode {σ : Type} (b : Board σ) (pin : Pin) (mode : Mode) : Board σ :=
  { b with mode := Function.update b.mode pin mode }

def Board.digitalWrite {σ : Type} (b : Board σ) (t : Dup σ) (pin : Pin) (level : Bool) : Board σ :=
  { b with
    latch := Function.update b.latch pin level
    dup := t.sees b pin level }

/-- The board under the calls of a sketch. -/
def Dup.answer {σ : Type} (t : Dup σ) : (c : Arduino) → Board σ → c.Answer × Board σ
  | .pinMode pin mode, b => ((), b.pinMode pin mode)
  | .digitalWrite pin level, b => ((), b.digitalWrite t pin level)
  | .digitalRead pin, b => (t.level b pin, b)

section run

variable {σ : Type} (t : Dup σ) (b : Board σ)

@[simp] theorem pinMode_run (pin : Pin) (mode : Mode) :
    (pinMode pin mode).run t.answer b = ((), b.pinMode pin mode) := rfl

@[simp] theorem digitalWrite_run (pin : Pin) (level : Bool) :
    (digitalWrite pin level).run t.answer b = ((), b.digitalWrite t pin level) := rfl

@[simp] theorem digitalRead_run (pin : Pin) :
    (digitalRead pin).run t.answer b = (t.level b pin, b) := rfl

end run

end concretid.flasher.debug
