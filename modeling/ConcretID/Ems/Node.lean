import ConcretID.Ems.RidTable
import ConcretID.Ems.Transmission

open concretid.memory

namespace concretid.ems

/-- `sendout_package_t`. The union of `uid` and `name` is `key`: the name until
the name is resolved, the uid from then on. -/
structure Sendout where
  key : Uid
  time : Int
  size : Nat
  package : PackageBuffer

/-- The state of one node: the globals and function statics of the EMS
modules. `random` is what `random_rand` will return, `trace` what has been
called and sent so far. -/
structure Node where
  me : Settings
  my_uid : Uid
  rids : RidTable
  random : Nat → UInt8
  transmission : Transmission
  count : UInt8
  messages_buffer : PackageBuffer
  buffer : PackageBuffer
  blocked_list : Fin BLOCKED_LIST_SIZE → Uid
  last_blocked : Fin BLOCKED_LIST_SIZE
  sendout_package : Fin SENDOUT_QTY → Sendout
  block_tmp : Uid
  trace : List Event

/-- `init_settings` with nothing saved, as the constant `me_mory` is. The name is
made from the MAC address. -/
def init_settings (name : Name) : Settings :=
  { saved := 0
    name
    time_to_solve := 1
    solving_attempts := 20
    time_to_send := 1
    sending_attempts := 20
    time_to_announce := 0
    neighbor_good_till := 30
    rf_tx_power := 5
    rf_use_hgm := 0
    rf_low_rx_power := 0
    uart_feedback := 0 }

def PackageBuffer.zero : PackageBuffer := { rid := 0, flags := 0, data := fun _ => 0 }

namespace Node

/-- A node after `init_settings`, `init_package`, `init_transmission` and
`init_interface`, with the address `get_self_uid` found. -/
def boot (uid : Uid) (me : Settings) (random : Nat → UInt8) : Node :=
  { me
    my_uid := uid
    rids := .zero
    random
    transmission := Transmission.zero.init_transmission
    count := 0
    messages_buffer := .zero
    buffer := .zero
    blocked_list := fun _ => null_uid
    last_blocked := 0
    sendout_package := fun _ => { key := null_uid, time := 0, size := 0, package := .zero }
    block_tmp := null_uid
    trace := [] }

def emit (s : Node) (e : Event) : Node := { s with trace := s.trace ++ [e] }

def setTransmission (s : Node) (t : Transmission) : Node := { s with transmission := t }

@[simp] theorem emit_trace (s : Node) (e : Event) : (s.emit e).trace = s.trace ++ [e] := rfl
@[simp] theorem emit_my_uid (s : Node) (e : Event) : (s.emit e).my_uid = s.my_uid := rfl
@[simp] theorem emit_rids (s : Node) (e : Event) : (s.emit e).rids = s.rids := rfl
@[simp] theorem emit_buffer (s : Node) (e : Event) : (s.emit e).buffer = s.buffer := rfl
@[simp] theorem emit_sendout (s : Node) (e : Event) :
    (s.emit e).sendout_package = s.sendout_package := rfl
@[simp] theorem emit_transmission (s : Node) (e : Event) :
    (s.emit e).transmission = s.transmission := rfl

@[simp] theorem setTransmission_transmission (s : Node) (t : Transmission) :
    (s.setTransmission t).transmission = t := rfl
@[simp] theorem setTransmission_trace (s : Node) (t : Transmission) :
    (s.setTransmission t).trace = s.trace := rfl
@[simp] theorem setTransmission_my_uid (s : Node) (t : Transmission) :
    (s.setTransmission t).my_uid = s.my_uid := rfl
@[simp] theorem setTransmission_rids (s : Node) (t : Transmission) :
    (s.setTransmission t).rids = s.rids := rfl
@[simp] theorem setTransmission_buffer (s : Node) (t : Transmission) :
    (s.setTransmission t).buffer = s.buffer := rfl
@[simp] theorem setTransmission_sendout (s : Node) (t : Transmission) :
    (s.setTransmission t).sendout_package = s.sendout_package := rfl

def packageBuffer (s : Node) : Buffer → PackageBuffer
  | .process => s.buffer
  | .messages => s.messages_buffer
  | .sendout i => (s.sendout_package i).package

def setPackageBuffer (s : Node) (b : Buffer) (value : PackageBuffer) : Node :=
  match b with
  | .process => { s with buffer := value }
  | .messages => { s with messages_buffer := value }
  | .sendout i =>
    let slot := { s.sendout_package i with package := value }
    { s with sendout_package := Function.update s.sendout_package i slot }

@[simp] theorem setPackageBuffer_trace (s : Node) (b : Buffer) (value : PackageBuffer) :
    (s.setPackageBuffer b value).trace = s.trace := by cases b <;> rfl
@[simp] theorem setPackageBuffer_my_uid (s : Node) (b : Buffer) (value : PackageBuffer) :
    (s.setPackageBuffer b value).my_uid = s.my_uid := by cases b <;> rfl
@[simp] theorem setPackageBuffer_me (s : Node) (b : Buffer) (value : PackageBuffer) :
    (s.setPackageBuffer b value).me = s.me := by cases b <;> rfl
@[simp] theorem setPackageBuffer_rids (s : Node) (b : Buffer) (value : PackageBuffer) :
    (s.setPackageBuffer b value).rids = s.rids := by cases b <;> rfl
@[simp] theorem setPackageBuffer_transmission (s : Node) (b : Buffer) (value : PackageBuffer) :
    (s.setPackageBuffer b value).transmission = s.transmission := by cases b <;> rfl
@[simp] theorem setPackageBuffer_self (s : Node) (b : Buffer) (value : PackageBuffer) :
    (s.setPackageBuffer b value).packageBuffer b = value := by
  cases b <;> simp [setPackageBuffer, packageBuffer]

/-- Write bytes behind the package head of a buffer. -/
def writeData (s : Node) (b : Buffer) (offset : Nat) (bytes : List UInt8) : Node :=
  let value := s.packageBuffer b
  s.setPackageBuffer b { value with data := store value.data offset bytes }

def register_rid (s : Node) (rid : Rid) : Node :=
  { s with rids := s.rids.register_rid rid }.emit (.register_rid rid)

@[simp] theorem register_rid_trace (s : Node) (rid : Rid) :
    (s.register_rid rid).trace = s.trace ++ [.register_rid rid] := rfl
@[simp] theorem register_rid_my_uid (s : Node) (rid : Rid) :
    (s.register_rid rid).my_uid = s.my_uid := rfl
@[simp] theorem register_rid_rids (s : Node) (rid : Rid) :
    (s.register_rid rid).rids = s.rids.register_rid rid := rfl
@[simp] theorem register_rid_buffer (s : Node) (rid : Rid) :
    (s.register_rid rid).buffer = s.buffer := rfl
@[simp] theorem register_rid_sendout (s : Node) (rid : Rid) :
    (s.register_rid rid).sendout_package = s.sendout_package := rfl
@[simp] theorem register_rid_transmission (s : Node) (rid : Rid) :
    (s.register_rid rid).transmission = s.transmission := rfl

/-- `make_package_head` with `create_rid`: the id is four bytes of `random_rand`. -/
def make_package_head (s : Node) (b : Buffer) (flags : UInt8) (type : PackageType) : Node :=
  let rid := ridAt s.random 0
  let data := (s.packageBuffer b).data
  let value : PackageBuffer :=
    { rid
      flags := flags ||| type.code
      data := if hasFlag flags PACKAGE_IDENTIFIED then store data 0 s.my_uid.toList else data }
  { s.setPackageBuffer b value with random := fun n => s.random (n + RID_SIZE) }.emit
    (.make_package_head b rid)

/-- The id the next package gets. -/
def nextRid (s : Node) : Rid := ridAt s.random 0

@[simp] theorem make_package_head_trace (s : Node) (b : Buffer) (flags : UInt8)
    (type : PackageType) : (s.make_package_head b flags type).trace =
      s.trace ++ [.make_package_head b s.nextRid] := by
  simp [make_package_head, nextRid]
@[simp] theorem make_package_head_my_uid (s : Node) (b : Buffer) (flags : UInt8)
    (type : PackageType) : (s.make_package_head b flags type).my_uid = s.my_uid := by
  simp [make_package_head]
@[simp] theorem make_package_head_me (s : Node) (b : Buffer) (flags : UInt8)
    (type : PackageType) : (s.make_package_head b flags type).me = s.me := by
  simp [make_package_head, emit]
@[simp] theorem make_package_head_rids (s : Node) (b : Buffer) (flags : UInt8)
    (type : PackageType) : (s.make_package_head b flags type).rids = s.rids := by
  simp [make_package_head]
@[simp] theorem make_package_head_transmission (s : Node) (b : Buffer) (flags : UInt8)
    (type : PackageType) : (s.make_package_head b flags type).transmission = s.transmission := by
  simp [make_package_head]

/-- The buffer a package has been built in, and the ones it has not. -/
@[simp] theorem make_package_head_packageBuffer (s : Node) (b : Buffer) (flags : UInt8)
    (type : PackageType) : (s.make_package_head b flags type).packageBuffer b =
      { rid := s.nextRid
        flags := flags ||| type.code
        data := if hasFlag flags PACKAGE_IDENTIFIED then
            store (s.packageBuffer b).data 0 s.my_uid.toList
          else (s.packageBuffer b).data } := by
  cases b <;> simp [make_package_head, nextRid, packageBuffer, setPackageBuffer, emit]
@[simp] theorem make_package_head_messages_sendout (s : Node) (flags : UInt8)
    (type : PackageType) : (s.make_package_head .messages flags type).sendout_package =
      s.sendout_package := by
  simp [make_package_head, setPackageBuffer]
@[simp] theorem make_package_head_messages_buffer (s : Node) (flags : UInt8)
    (type : PackageType) : (s.make_package_head .messages flags type).buffer = s.buffer := by
  simp [make_package_head, setPackageBuffer]

def send_package (s : Node) (b : Buffer) (size : Nat) (dest : Uid) : Node :=
  s.emit (.send_package b ((s.packageBuffer b).package size) dest)

def send_package_by_table (s : Node) (b : Buffer) (size : Nat) (uidt : Option Entry) :
    Result (Node × Nat) := do
  let (t, value, size, sent) ←
    s.transmission.send_package_by_table b.capacity (s.packageBuffer b) size uidt
  let s := (s.setTransmission t).setPackageBuffer b value
  return (s.emit (.send_package b sent.package sent.dest), size)

def register_neighbor (s : Node) (uid : Uid) : Result Node := do
  let t ← s.transmission.register_neighbor uid
  return (s.setTransmission t).emit (.register_neighbor uid)

def register_uid (s : Node) (uid : Uid) (link : Option Slot) (name : Option (List UInt8)) : Node :=
  (s.setTransmission (s.transmission.register_uid uid link name)).emit (.register_uid uid link)

/-- `promote_uid_table` of what a lookup returned, which may be `NULL`. -/
def promote_uid_table (s : Node) (uidt : Option Entry) : Result Node :=
  match uidt with
  | none => .error .null_pointer
  | some e => .ok (s.setTransmission (s.transmission.promote_uid_table e))

def block_uid (s : Node) (uid : Uid) : Node :=
  { s with
    blocked_list := Function.update s.blocked_list s.last_blocked uid
    last_blocked := s.last_blocked + 1 }

def is_blocked (s : Node) (uid : Uid) : Bool :=
  (List.finRange BLOCKED_LIST_SIZE).any fun i => uid == s.blocked_list i

end Node

end concretid.ems
