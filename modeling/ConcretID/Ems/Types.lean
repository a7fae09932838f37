import Mathlib.Data.Vector.Basic
import Mathlib.Tactic.IntervalCases
import ConcretID.Library.Memory
import ConcretID.Library.Result

open concretid.memory

namespace concretid.ems

/-- Where the C program leaves its defined behaviour or stops answering. -/
inductive Fault where
  | endless_loop
  | null_pointer
  | out_of_bounds
  | division_by_zero
  deriving DecidableEq

abbrev Result (α : Type) := Except Fault α

abbrev UID_SIZE : Nat := 16
abbrev NAME_SIZE : Nat := 16
abbrev RID_SIZE : Nat := 4
abbrev NEIGHBORHOOD_SIZE : Nat := 8
abbrev NEIGHBORHOOD_HEAD_SIZE : Nat := 4
abbrev UID_TABLE_SIZE : Nat := 4
abbrev RID_BLOCKS : Nat := 8
abbrev RID_QTY : Nat := 16
abbrev RID_ROOM : Nat := 8
abbrev SENDOUT_QTY : Nat := 2
abbrev SENDOUT_BUFFER_SIZE : Nat := 60
abbrev BUFFER_PROCESS_SIZE : Nat := 140
abbrev BLOCKED_LIST_SIZE : Nat := 3

/-! The library's instances under names, so that a definition with an index written as a
numeral is the same in every module. -/

instance neZero_2 : NeZero 2 := inferInstance
instance neZero_3 : NeZero 3 := inferInstance
instance neZero_4 : NeZero 4 := inferInstance
instance neZero_8 : NeZero 8 := inferInstance
instance neZero_16 : NeZero 16 := inferInstance

/-- `sizeof(package_t)`, `sizeof(intermediate_head_t)`,
`sizeof(identified_head_t)` and `sizeof(encrypted_head_t)` on the 8-bit target. -/
abbrev sizeof_package : Nat := 5
abbrev sizeof_intermediate_head : Nat := 16
abbrev sizeof_identified_head : Nat := 16
abbrev sizeof_encrypted_head : Nat := 1

/-- `BUFFER_SIZE`, the size of `messages_buffer`. -/
abbrev BUFFER_SIZE : Nat :=
  sizeof_package + sizeof_intermediate_head + sizeof_identified_head + sizeof_encrypted_head +
    UID_SIZE + NAME_SIZE + RID_SIZE + 1

/-- An IPv6 address as 16 bytes. -/
abbrev Uid := List.Vector UInt8 UID_SIZE

/-- A `char[NAME_SIZE]` array, NUL-padded when the text is shorter. -/
abbrev Name := List.Vector UInt8 NAME_SIZE

abbrev Rid := UInt32

/-- An index into the neighbour arrays. The stored index byte is `Option Slot`
with `0xff` as `none`: the program stores no other value in one. -/
abbrev Slot := Fin NEIGHBORHOOD_SIZE

/-- An entry of `uid_table`, as the pointer the program passes around. -/
abbrev Entry := Fin UID_TABLE_SIZE

def uidAt (data : Nat → UInt8) (offset : Nat) : Uid :=
  ⟨load data offset UID_SIZE, load_length _ _ _⟩

/-- The bytes of a `rid_t` in memory, least significant first. -/
def ridBytes (rid : Rid) : List UInt8 :=
  [rid.toUInt8, (rid >>> 8).toUInt8, (rid >>> 16).toUInt8, (rid >>> 24).toUInt8]

def ridAt (data : Nat → UInt8) (offset : Nat) : Rid :=
  .ofBitVec ((data (offset + 3)).toBitVec ++ (data (offset + 2)).toBitVec ++
    (data (offset + 1)).toBitVec ++ (data offset).toBitVec)

/-- An id copied to memory is read back. -/
theorem ridAt_ridBytes (d : Nat → UInt8) (offset : Nat) (rid : Rid) :
    ridAt (store d offset (ridBytes rid)) offset = rid := by
  have hbyte : ∀ k, k < RID_SIZE →
      store d offset (ridBytes rid) (offset + k) = ((ridBytes rid)[k]?).getD 0 := by
    intro k hk
    have hinside : ¬ offset + k < offset := by omega
    have hlength : k < (ridBytes rid).length := hk
    rw [store, if_neg hinside]
    simp [hlength]
  have hfirst := hbyte 0 (by decide)
  rw [Nat.add_zero] at hfirst
  rw [ridAt, hbyte 3 (by decide), hbyte 2 (by decide), hbyte 1 (by decide), hfirst]
  apply UInt32.toBitVec_inj.mp
  apply BitVec.eq_of_getLsbD_eq
  intro i hi
  simp only [ridBytes, List.getElem?_cons_zero, List.getElem?_cons_succ, Option.getD_some,
    BitVec.getLsbD_append, UInt32.toBitVec_toUInt8, UInt32.toBitVec_shiftRight,
    BitVec.getLsbD_setWidth]
  interval_cases i <;> simp

/-- The link-local all-nodes multicast address `ff02::1`. -/
def broadcast_uid : Uid := ⟨[0xff, 0x02, 0, 0, 0, 0, 0, 0, 0, 0, 0, 0, 0, 0, 0, 1], rfl⟩

def null_uid : Uid := List.Vector.replicate UID_SIZE 0

/-- The address `fe80::hhll` with the two last bytes given. -/
def linkLocal (high low : UInt8) : Uid :=
  ⟨[0xfe, 0x80, 0, 0, 0, 0, 0, 0, 0, 0, 0, 0, 0, 0, high, low], rfl⟩

/-! ## Strings -/

/-- The text of a C string: what stands before the first NUL. -/
def cstring (bytes : List UInt8) : List UInt8 := bytes.takeWhile (· ≠ 0)

/-- `strncmp(a, b, n) == 0`. -/
def strncmp_eq (a b : List UInt8) (n : Nat) : Bool := cstring (a.take n) == cstring (b.take n)

/-- The `n` bytes `strncpy(_, text, n)` writes: the text cut at `n` or padded. -/
def strncpy (text : List UInt8) (n : Nat) : List UInt8 :=
  (cstring text).take n ++ List.replicate (n - (cstring text).length) 0

theorem strncpy_length (text : List UInt8) (n : Nat) : (strncpy text n).length = n := by
  simp only [strncpy, List.length_append, List.length_take, List.length_replicate]
  omega

/-- `strncpy(name, text, NAME_SIZE)` on a name array. -/
def nameOf (text : List UInt8) : Name := ⟨strncpy text NAME_SIZE, strncpy_length _ _⟩

/-! ## Packages -/

def PACKAGE_INTERMEDIATE : UInt8 := 0x80
def PACKAGE_IDENTIFIED : UInt8 := 0x40
def PACKAGE_ACKLY : UInt8 := 0x20
def PACKAGE_ENCRYPTED : UInt8 := 0x10
def MASK_TYPE : UInt8 := 0xf

inductive PackageType where
  | SEQUENCE | MSG | MSG_TO | BROADCAST_MSG | NAME_REQUEST | UID_REQUEST | NEIGHBOR_REQUEST
  | ECHO | REECHO | ANNOUNCEMENT | ACK | BROADCAST_ACK | NACK | COMMAND | BASE64 | FIRST
  deriving DecidableEq

/-- The `PACKAGE_...` constant of a type. -/
def PackageType.code : PackageType → UInt8
  | SEQUENCE => 0
  | MSG => 1
  | MSG_TO => 2
  | BROADCAST_MSG => 3
  | NAME_REQUEST => 4
  | UID_REQUEST => 5
  | NEIGHBOR_REQUEST => 6
  | ECHO => 7
  | REECHO => 8
  | ANNOUNCEMENT => 9
  | ACK => 10
  | BROADCAST_ACK => 11
  | NACK => 12
  | COMMAND => 13
  | BASE64 => 14
  | FIRST => 15

/-- `package->type & MASK_TYPE`. -/
def typeOf (flags : UInt8) : PackageType :=
  match (flags &&& MASK_TYPE).toNat with
  | 0 => .SEQUENCE
  | 1 => .MSG
  | 2 => .MSG_TO
  | 3 => .BROADCAST_MSG
  | 4 => .NAME_REQUEST
  | 5 => .UID_REQUEST
  | 6 => .NEIGHBOR_REQUEST
  | 7 => .ECHO
  | 8 => .REECHO
  | 9 => .ANNOUNCEMENT
  | 10 => .ACK
  | 11 => .BROADCAST_ACK
  | 12 => .NACK
  | 13 => .COMMAND
  | 14 => .BASE64
  | _ => .FIRST

/-- `package->flags & flag`. -/
def hasFlag (flags flag : UInt8) : Bool := flags &&& flag != 0

/-- A package as it travels. Its size is `sizeof(package_t)` and the data. -/
structure Package where
  rid : Rid
  flags : UInt8
  data : List UInt8
  deriving DecidableEq

def Package.size (p : Package) : Nat := sizeof_package + p.data.length

/-- A `package_t` in one of the static buffers; `data` is the memory behind
the head. The `flags` and `type` fields are one byte. -/
structure PackageBuffer where
  rid : Rid
  flags : UInt8
  data : Nat → UInt8

/-- The first `size` bytes of a buffer, as a package. -/
def PackageBuffer.package (b : PackageBuffer) (size : Nat) : Package :=
  { rid := b.rid, flags := b.flags, data := load b.data 0 (size - sizeof_package) }

/-- The static buffers a package is sent from: that of `process_package`,
`messages_buffer` and those of `sendout_package`. -/
inductive Buffer where
  | process
  | messages
  | sendout (i : Fin SENDOUT_QTY)
  deriving DecidableEq

/-- The bytes of a buffer behind the package head. -/
def Buffer.capacity : Buffer → Nat
  | process => BUFFER_PROCESS_SIZE - sizeof_package
  | messages => BUFFER_SIZE - sizeof_package
  | sendout _ => SENDOUT_BUFFER_SIZE - sizeof_package

/-- `a - b` on `uint16_t`. -/
def sub16 (a b : Nat) : Nat := (a + (2 ^ 16 - b)) % 2 ^ 16

theorem sub16_of_le {a b : Nat} (hle : b ≤ a) (ha : a < 2 ^ 16) : sub16 a b = a - b := by
  unfold sub16
  omega

/-! ## Settings -/

structure Settings where
  saved : UInt8
  name : Name
  time_to_solve : UInt8
  solving_attempts : UInt8
  time_to_send : UInt8
  sending_attempts : UInt8
  time_to_announce : UInt8
  neighbor_good_till : UInt8
  rf_tx_power : UInt8
  rf_use_hgm : UInt8
  rf_low_rx_power : UInt8
  uart_feedback : UInt8

/-- The settings that nothing changes while the node runs. -/
structure Timing where
  time_to_solve : UInt8
  solving_attempts : UInt8
  time_to_send : UInt8
  sending_attempts : UInt8
  neighbor_good_till : UInt8

def Settings.timing (me : Settings) : Timing :=
  { time_to_solve := me.time_to_solve
    solving_attempts := me.solving_attempts
    time_to_send := me.time_to_send
    sending_attempts := me.sending_attempts
    neighbor_good_till := me.neighbor_good_till }

/-- The value a product has once stored in the `int8_t time` of a slot. -/
def int8 (n : Int) : Int := Int.bmod n 256

/-- The time a slot gets while its name is unknown. -/
def Timing.solving (t : Timing) : Int :=
  int8 (-t.time_to_solve.toNat * t.solving_attempts.toNat)

/-- The time a slot gets once its route is known. -/
def Timing.sending (t : Timing) : Int :=
  int8 (t.time_to_send.toNat * t.sending_attempts.toNat)

/-! ## Calls and outputs -/

/-- One item of what the node prints. -/
inductive Out where
  | text (s : String)
  | bytes (b : List UInt8)
  | uid (uid : Uid)
  | number (n : Nat)
  deriving DecidableEq

/-- The calls and outputs of a node that the statements speak about, in the
order in which they happen. `message` is the line printed for a text message. -/
inductive Event where
  | process_package (package : Package) (src : Uid)
  | check_send_out
  | check_transmission
  | make_package_head (b : Buffer) (rid : Rid)
  | register_rid (rid : Rid)
  | register_neighbor (uid : Uid)
  | register_uid (uid : Uid) (link : Option Slot)
  | send_package (b : Buffer) (package : Package) (dest : Uid)
  | acknowledge (i : Fin SENDOUT_QTY) (rid : Rid)
  | message (title : String) (src : Option Uid) (text : List UInt8)
  | execute_cmd (cmd : List UInt8)
  | print (line : List Out)
  deriving DecidableEq

end concretid.ems
