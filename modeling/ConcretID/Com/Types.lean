import ConcretID.Ems.Types

open concretid.memory
open concretid.ems (Uid Name cstring strncmp_eq strncpy)

namespace concretid.com

abbrev UID_SIZE : Nat := 16
abbrev BUF_SIZE : Nat := 92
abbrev NAME_SIZE : Nat := 16
abbrev IPTABLE_SIZE : Nat := 12
abbrev CMD_SIZE : Nat := 140
abbrev SENDOUT_SIZE : Nat := 5
abbrev RID_SIZE : Nat := 4
abbrev RID_BLOCKS : Nat := 8
abbrev RID_QTY_PER_BLOCK : Nat := 16
abbrev PACKAGE_HEAD : Nat := RID_SIZE + 1
abbrev MESH_HEAD_SIZE : Nat := UID_SIZE + 1

abbrev SOLVE_TIME : Int := 1
abbrev SOLVE_TRIES : Int := 20
abbrev ACK_TIME : Int := 1
abbrev ACK_TRIES : Int := 20

/-- The size of `uip_buf`, the most `uip_udp_packet_send` copies. -/
abbrev UIP_BUFSIZE : Nat := 240

/-- No string is longer than the external memory of the microcontroller. -/
abbrev XDATA_SIZE : Nat := 0x10000

/-- A package id, `uint8_t[RID_SIZE]`. -/
structure Rid where
  h0 : UInt8
  h1 : UInt8
  h2 : UInt8
  h3 : UInt8
  deriving DecidableEq

def Rid.bytes (h : Rid) : List UInt8 := [h.h0, h.h1, h.h2, h.h3]

def ridAt (data : Nat → UInt8) (offset : Nat) : Rid :=
  { h0 := data offset
    h1 := data (offset + 1)
    h2 := data (offset + 2)
    h3 := data (offset + 3) }

/-- `CmpRid1`: equal but for the first byte. -/
def CmpRid1 (a b : Rid) : Prop := a.h1 = b.h1 ∧ a.h2 = b.h2 ∧ a.h3 = b.h3

instance (a b : Rid) : Decidable (CmpRid1 a b) := by
  unfold CmpRid1
  infer_instance

inductive PackageType where
  | NAME_REQUEST_M | IP_REQUEST_M | ANNOUNCEMENT_M | ACKNOWLEDGE_M | PACKAGE_M
  | IDENTIFIED_PACKAGE_M | MESH_M | COMMAND_M | NEIGHBOR_REQUEST_M
  deriving DecidableEq

/-- The letter of a package type. -/
def PackageType.code : PackageType → UInt8
  | NAME_REQUEST_M => 0x52
  | IP_REQUEST_M => 0x72
  | ANNOUNCEMENT_M => 0x41
  | ACKNOWLEDGE_M => 0x61
  | PACKAGE_M => 0x50
  | IDENTIFIED_PACKAGE_M => 0x49
  | MESH_M => 0x4d
  | COMMAND_M => 0x43
  | NEIGHBOR_REQUEST_M => 0x4e

/-- The case of `switch (data[-1])` a letter belongs to. -/
def PackageType.ofCode (letter : UInt8) : Option PackageType :=
  match letter.toNat with
  | 0x52 => some .NAME_REQUEST_M
  | 0x72 => some .IP_REQUEST_M
  | 0x41 => some .ANNOUNCEMENT_M
  | 0x61 => some .ACKNOWLEDGE_M
  | 0x50 => some .PACKAGE_M
  | 0x49 => some .IDENTIFIED_PACKAGE_M
  | 0x4d => some .MESH_M
  | 0x43 => some .COMMAND_M
  | 0x4e => some .NEIGHBOR_REQUEST_M
  | _ => none

@[simp] theorem PackageType.ofCode_code (t : PackageType) : ofCode t.code = some t := by
  cases t <;> rfl

theorem PackageType.code_of_ofCode {letter : UInt8} {t : PackageType}
    (h : ofCode letter = some t) : letter = t.code := by
  unfold ofCode at h
  split at h <;> cases h <;> exact UInt8.toNat_inj.mp ‹_›

/-! ## Memory -/

/-- What a `data` or `cmd` pointer points into: `buf`, `uip_appdata`, the line
buffer of `getc0` or the data of a `sendOut` slot. -/
inductive Region where
  | buf
  | uip_appdata
  | cmd
  | sendOut (i : Fin SENDOUT_SIZE)
  deriving DecidableEq

/-- The characters of a string in memory, up to its NUL. -/
def stringFrom (d : Nat → UInt8) (offset : Nat) : Nat → List UInt8
  | 0 => []
  | n + 1 => if d offset = 0 then [] else d offset :: stringFrom d (offset + 1) n

def stringAt (d : Nat → UInt8) (offset : Nat) : List UInt8 := stringFrom d offset XDATA_SIZE

/-! ## Calls and outputs -/

/-- One item of what the node writes to its UART. -/
inductive Out where
  | text (s : String)
  | bytes (b : List UInt8)
  | hex (b : List UInt8)
  | newline
  deriving DecidableEq

/-- The calls and outputs of a node that the statements speak about, in the
order in which they happen. The package of a send or share is what has been
copied to `uip_buf`, from the region given. -/
inductive Event where
  | registerRid (rid : Rid)
  | initPackage (t : PackageType) (rid : Rid)
  | SendPackage (data : Region) (package : List UInt8) (ip : Uid)
  | SharePackage (data : Region) (package : List UInt8)
  | sendPackageByTable (data : Region) (rid : Rid)
  | announceMe
  | sendAck (rid : Rid)
  | forward (rid : Rid)
  | acknowledge (rid : Rid)
  | executeCmd (cmd : List UInt8)
  | uart0 (out : Out)
  | list (name : Name) (ipaddr link : Uid)
  deriving DecidableEq

end concretid.com
