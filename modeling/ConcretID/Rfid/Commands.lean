import Mathlib.Logic.Function.Iterate
import ConcretID.Library.Memory

open concretid.memory

namespace concretid.rfid

def PRESET_VALUE : UInt16 := 0xFFFF
def POLYNOMIAL : UInt16 := 0x8408

def getReaderInfo : List UInt8 := [0x04, 0x00, 0x21]
def inventory : List UInt8 := [0x04, 0x00, 0x01]
def setAdr : List UInt8 := [0x05, 0x00, 0x24]
def setBRate : List UInt8 := [0x05, 0x00, 0x28]
def setPower : List UInt8 := [0x05, 0x00, 0x2F]
def getWorkMode : List UInt8 := [0x04, 0x00, 0x36]
def setScanTime : List UInt8 := [0x05, 0x00, 0x25]
def resetReadProtect : List UInt8 := [0x08, 0x00, 0x0A]
def checkReadProtect : List UInt8 := [0x04, 0x00, 0x0B]
def readProtectWEPC : List UInt8 := [0x00, 0x08]
def killTag : List UInt8 := [0x00, 0x05]
def writeData : List UInt8 := [0x00, 0x03]
def readData : List UInt8 := [0x00, 0x02]

/-- One turn of the inner loop of `uiCrc16Cal`. -/
def uiCrc16Bit (uiCrcValue : UInt16) : UInt16 :=
  if uiCrcValue &&& 0x0001 ≠ 0 then (uiCrcValue >>> 1) ^^^ POLYNOMIAL else uiCrcValue >>> 1

/-- The checksum of a list of bytes. -/
def crc16 (bytes : List UInt8) : UInt16 :=
  bytes.foldl (fun uiCrcValue b => uiCrc16Bit^[8] (uiCrcValue ^^^ b.toUInt16)) PRESET_VALUE

/-- The length is an `unsigned char`. -/
def uiCrc16Cal (pucY : Nat → UInt8) (ucX : UInt8) : UInt16 := crc16 (load pucY 0 ucX.toNat)

def CRC_LSB (crc : UInt16) : UInt8 := crc.toUInt8
def CRC_MSB (crc : UInt16) : UInt8 := (crc >>> 8).toUInt8

/-- The global `bufferCmd` and what was written to the port. -/
structure Porta where
  bufferCmd : Nat → UInt8
  written : List UInt8

namespace Porta

/-- `(*porta).write(...)`. -/
def write (porta : Porta) (bytes : List UInt8) : Porta :=
  { porta with written := porta.written ++ bytes }

/-- `bufferCmd [i] = ...`, for one byte after the other. -/
def put (porta : Porta) (i : Nat) (bytes : List UInt8) : Porta :=
  { porta with bufferCmd := store porta.bufferCmd i bytes }

/-- `for (k = 0; k < n; k++)`, which writes a byte and puts it into `bufferCmd`. -/
def writeArray (porta : Porta) (array : Nat → UInt8) (i n : Nat) : Porta :=
  (List.range n).foldl (fun porta k => (porta.write [array k]).put (i + k) [array k]) porta

def enviarChecksum (porta : Porta) (buffer : Nat → UInt8) (len : UInt8) : Porta :=
  let crc := uiCrc16Cal buffer len
  (porta.write [CRC_LSB crc]).write [CRC_MSB crc]

end Porta

/-- `pwd`, the password with its low byte first. -/
def pwd (accessPassword : UInt32) : List UInt8 :=
  [accessPassword.toUInt8, (accessPassword >>> 8).toUInt8, (accessPassword >>> 16).toUInt8,
    (accessPassword >>> 24).toUInt8]

/-! ## The commands

What each function writes, and whether it goes on to wait for the response. -/

/-- A command that is a constant. -/
def constantCMD (command : List UInt8) (porta : Porta) : Porta × Bool :=
  ((porta.write command).enviarChecksum (fun i => command.getD i 0) 3, true)

def inventory_EPCC1G2CMD := constantCMD inventory
def checkRdProtect_EPCC1G2CMD := constantCMD checkReadProtect
def getReaderInfo_ReadDefCMD := constantCMD getReaderInfo
def getWorkMode_ReadDefCMD := constantCMD getWorkMode

/-- A command with one byte. -/
def parameterCMD (command : List UInt8) (parameter : UInt8) (porta : Porta) : Porta × Bool :=
  let porta := (porta.write command).write [parameter]
  let porta := (porta.put 0 command).put 3 [parameter]
  (porta.enviarChecksum porta.bufferCmd 4, true)

def setAdr_ReadDefCMD (adr : UInt8) := parameterCMD setAdr adr

/-- `paramBRate`. -/
def paramBRate (baudrate : Int32) : Option UInt8 :=
  if baudrate = 9600 then some 0
  else if baudrate = 19200 then some 1
  else if baudrate = 38400 then some 2
  else if baudrate = 43000 then some 3
  else if baudrate = 56000 then some 4
  else if baudrate = 57600 then some 5
  else if baudrate = 115200 then some 6
  else none

def setBRate_ReadDefCMD (baudrate : Int32) (porta : Porta) : Porta × Bool :=
  match paramBRate baudrate with
  | some param => parameterCMD setBRate param porta
  | none => (porta, false)

def setPower_ReadDefCMD (power : UInt8) (porta : Porta) : Porta × Bool :=
  if power > 30 then (porta, false) else parameterCMD setPower power porta

def paramScanTime (scantime_x100ms : Int32) : UInt8 :=
  if 3 ≤ scantime_x100ms ∧ scantime_x100ms ≤ 255 then scantime_x100ms.toUInt32.toUInt8 else 0x0A

def setScanTime_ReadDefCMD (scantime_x100ms : Int32) :=
  parameterCMD setScanTime (paramScanTime scantime_x100ms)

def resetRdProtect_EPCC1G2CMD (accessPassword : UInt32) (porta : Porta) : Porta × Bool :=
  let porta := (porta.write resetReadProtect).write (pwd accessPassword)
  let porta := (porta.put 0 resetReadProtect).put 3 (pwd accessPassword)
  (porta.enviarChecksum porta.bufferCmd 7, true)

/-- The end of a command: the password, the mask and the checksum. -/
def finish (porta : Porta) (j : Nat) (accessPassword : UInt32) (MaskAdr MaskLen : UInt8) : Porta :=
  let porta := ((porta.write (pwd accessPassword)).write [MaskAdr]).write [MaskLen]
  let porta := ((porta.put j (pwd accessPassword)).put (j + 4) [MaskAdr]).put (j + 5) [MaskLen]
  porta.enviarChecksum porta.bufferCmd (UInt8.ofNat (j + 6))

/-- A command on the tag with an EPC. -/
def tagCMD (command : List UInt8) (ENum : UInt8) (EPC : Nat → UInt8) (accessPassword : UInt32)
    (MaskAdr MaskLen : UInt8) (porta : Porta) : Porta × Bool :=
  let comandSize : UInt8 := 11 + 2 * ENum
  let porta := (porta.write [comandSize]).put 0 [comandSize]
  let porta := (porta.write command).put 1 command
  let porta := (porta.write [ENum]).put 3 [ENum]
  if ENum ≥ 15 then (porta, false)
  else
    let porta := porta.writeArray EPC 4 (2 * ENum.toNat)
    (finish porta (2 * ENum.toNat + 4) accessPassword MaskAdr MaskLen, true)

def rdProtectWEPC_EPCC1G2CMD := tagCMD readProtectWEPC
def killTag_EPCC1G2CMD := tagCMD killTag

def writeData_EPCC1G2CMD (WNum ENum : UInt8) (EPC : Nat → UInt8) (Mem WordPtr : UInt8)
    (Wdt : Nat → UInt8) (accessPassword : UInt32) (MaskAdr MaskLen : UInt8) (porta : Porta) :
    Porta × Bool :=
  let comandSize : UInt8 := 14 + 2 * ENum + 2 * WNum
  let porta := (porta.write [comandSize]).put 0 [comandSize]
  let porta := (porta.write writeData).put 1 writeData
  let porta := (porta.write [WNum]).put 3 [WNum]
  let porta := (porta.write [ENum]).put 4 [ENum]
  if WNum = 0 then (porta, false)
  else if WNum > 120 then (porta, false)
  else if ENum ≥ 15 then (porta, false)
  else
    let porta := porta.writeArray EPC 5 (2 * ENum.toNat)
    let j := 2 * ENum.toNat + 5
    let porta := (porta.write [Mem]).write [WordPtr]
    let porta := (porta.put j [Mem]).put (j + 1) [WordPtr]
    let j := j + 2
    let porta := porta.writeArray Wdt j (2 * WNum.toNat)
    (finish porta (j + 2 * WNum.toNat) accessPassword MaskAdr MaskLen, true)

def readData_EPCC1G2CMD (ENum : UInt8) (EPC : Nat → UInt8) (Mem WordPtr Num : UInt8)
    (accessPassword : UInt32) (MaskAdr MaskLen : UInt8) (porta : Porta) : Porta × Bool :=
  let comandSize : UInt8 := 14 + 2 * ENum
  let porta := (porta.write [comandSize]).put 0 [comandSize]
  let porta := (porta.write readData).put 1 readData
  let porta := (porta.write [ENum]).put 3 [ENum]
  if ENum ≥ 15 then (porta, false)
  else
    let porta := porta.writeArray EPC 4 (2 * ENum.toNat)
    let j := 2 * ENum.toNat + 4
    let porta := ((porta.write [Mem]).write [WordPtr]).write [Num]
    let porta := ((porta.put j [Mem]).put (j + 1) [WordPtr]).put (j + 2) [Num]
    (finish porta (j + 3) accessPassword MaskAdr MaskLen, true)

end concretid.rfid
