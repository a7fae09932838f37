import ConcretID.Ems.Interface

open concretid.memory

namespace concretid.ems

namespace Node

/-- The package `process_package` works on has been copied into its buffer;
the bytes behind it are those of earlier packages. -/
def receiveInto (s : Node) (package : Package) (size : Nat) : Node :=
  { s with buffer :=
      { rid := package.rid
        flags := package.flags
        data := fun i =>
          if i < size - sizeof_package then package.data.getD i 0 else s.buffer.data i } }

def type (s : Node) : PackageType := typeOf s.buffer.flags

/-- Whether `package->flags` has a flag. -/
def flag (s : Node) (flag : UInt8) : Bool := hasFlag s.buffer.flags flag

/-- `ident->src`, with `ident` null in a package that is not identified. -/
def ident (s : Node) : Option Uid :=
  if s.flag PACKAGE_IDENTIFIED then some (uidAt s.buffer.data 0) else none

/-- Where `data` starts behind the package head. -/
def dataOffset (s : Node) : Nat := if s.flag PACKAGE_IDENTIFIED then sizeof_identified_head else 0

/-- `data[len] = 0` in the receive buffer. -/
def terminate (s : Node) (len : Nat) : Result Node :=
  if s.dataOffset + len < Buffer.process.capacity then
    .ok (s.writeData .process (s.dataOffset + len) [0])
  else .error .out_of_bounds

/-- `if( package->flags&PACKAGE_ACKLY ) send_ack(package);` -/
def ackIfAckly (s : Node) : Result Node :=
  if s.flag PACKAGE_ACKLY then s.send_ack s.buffer else .ok s

/-- The line printed for a text message from `offset` bytes into `data` on. -/
def printMessage (s : Node) (title : String) (offset len : Nat) : Node :=
  s.emit (.message title s.ident (cstring (load s.buffer.data (s.dataOffset + offset) len)))

/-- The branch of `process_package` for a package on its way to another node. -/
def process_intermediate (s : Node) (size : Nat) : Result Node :=
  if size < sizeof_package + sizeof_intermediate_head then .ok s
  else
    let s := s.register_rid s.buffer.rid
    match s.transmission.find_table_by_uid (uidAt s.buffer.data 0) with
    | none => .ok s
    | some uidt =>
      if s.type = .ANNOUNCEMENT ∧ s.flag PACKAGE_IDENTIFIED then do
        let s ← s.promote_uid_table (some uidt)
        let uidt := s.transmission.find_table_by_uid
          (uidAt s.buffer.data sizeof_intermediate_head)
        let s ← match uidt with
          | some uidt => s.promote_uid_table (some uidt)
          | none => .ok s
        let (s, _) ← s.send_package_by_table .process size uidt
        return s
      else do
        let (s, _) ← s.send_package_by_table .process size (some uidt)
        return s

/-- The `switch` on packages from a node that is no neighbour. The flag says
whether processing goes on. -/
def process_stranger (s : Node) (src : Uid) : Node × Bool :=
  match s.type with
  | .MSG_TO | .BROADCAST_MSG | .NEIGHBOR_REQUEST | .ECHO | .REECHO | .BROADCAST_ACK =>
    (s.register_rid s.buffer.rid, true)
  | .NAME_REQUEST | .UID_REQUEST | .ANNOUNCEMENT => (s.send_neighboor_request_to src, false)
  | .SEQUENCE | .FIRST | .MSG | .ACK | .NACK | .COMMAND | .BASE64 =>
    let s := s.send_neighboor_request_to src
    if s.flag PACKAGE_ACKLY then (s, false) else (s.register_rid s.buffer.rid, true)

/-- What `NAME_REQUEST` and `UID_REQUEST` do once the route back is kept:
answer when this node is meant, pass the request on otherwise. -/
def answerRequest (s : Node) (size : Nat) (forMe : Bool) : Result Node :=
  if forMe then
    match s.ident with
    | some source => do
      let s ← s.promote_uid_table (s.transmission.find_table_by_uid source)
      s.announce_me_to source
    | none => .ok s
  else .ok (s.send_package .process size broadcast_uid)

/-- Keep the route back to an identified source. -/
def registerSource (s : Node) (src_as_neighbor : Option Slot) : Node :=
  match s.ident with
  | some source => s.register_uid source src_as_neighbor none
  | none => s

/-- The `switch` of `process_package` on the package type. -/
def process_type (s : Node) (size : Nat) (src : Uid) (src_as_neighbor : Option Slot)
    (len : Nat) : Result Node :=
  match s.type with
  | .SEQUENCE => s.ackIfAckly
  | .MSG => do
    let s ← s.ackIfAckly
    return s.printMessage "new msg" 0 len
  | .MSG_TO =>
    if len < UID_SIZE then .ok s
    else if s.my_uid = uidAt s.buffer.data s.dataOffset then do
      let s ← s.ackIfAckly
      return s.printMessage "new msg" UID_SIZE (len - UID_SIZE)
    else .ok (s.send_package .process size broadcast_uid)
  | .BROADCAST_MSG =>
    .ok ((s.printMessage "broadcast msg" 0 len).send_package .process size broadcast_uid)
  | .NAME_REQUEST =>
    if len = 0 then .ok s
    else do
      let s := s.registerSource src_as_neighbor
      let s ← s.terminate len
      let name := load s.buffer.data s.dataOffset len
      s.answerRequest size (strncmp_eq name s.me.name.toList NAME_SIZE)
  | .UID_REQUEST =>
    if len ≠ UID_SIZE then .ok s
    else
      let s := s.registerSource src_as_neighbor
      s.answerRequest size (uidAt s.buffer.data s.dataOffset = s.my_uid)
  | .NEIGHBOR_REQUEST =>
    if len = 1 then
      if src_as_neighbor.isSome then
        let depth := s.buffer.data s.dataOffset
        let s := s.writeData .process s.dataOffset [depth - 1]
        let s := if depth ≠ 0 then s.send_package .process size broadcast_uid else s
        match s.ident with
        | some source => (s.register_uid source src_as_neighbor none).announce_me_to source
        | none => .ok s
      else .ok (s.send_neighboor_request_to src)
    else if len = 0 then .ok (s.send_echo_to src)
    else .ok s
  | .ECHO => do
    let s ← s.register_neighbor src
    return s.send_reecho_to src
  | .REECHO => s.register_neighbor src
  | .ANNOUNCEMENT =>
    match s.ident with
    | none => .ok s
    | some source =>
      if len ≠ 0 then do
        let s ← s.terminate len
        let s := s.register_uid source src_as_neighbor
          (some (cstring (load s.buffer.data s.dataOffset len)))
        s.promote_uid_table (s.transmission.find_table_by_uid source)
      else
        let s := s.register_uid source src_as_neighbor none
        s.promote_uid_table (s.transmission.find_table_by_uid source)
  | .ACK =>
    if len ≠ RID_SIZE then .ok s
    else .ok (s.acknowledge (ridAt s.buffer.data s.dataOffset)).1
  | .BROADCAST_ACK =>
    if len ≠ RID_SIZE then .ok s
    else
      let (s, known) := s.acknowledge (ridAt s.buffer.data s.dataOffset)
      if known then .ok s else .ok (s.send_package .process size broadcast_uid)
  | .NACK => .ok s
  | .COMMAND => do
    let s ← s.ackIfAckly
    let s ← s.terminate len
    s.execute_cmd (cstring (load s.buffer.data s.dataOffset len))
  | .BASE64 => s.ackIfAckly
  | .FIRST => .ok s

/-- The rest of `process_package` for a package meant for this node. -/
def process_direct (s : Node) (size : Nat) (src : Uid) (e_rid : Nat)
    (src_as_neighbor : Option Slot) : Result Node :=
  let len := size - sizeof_package
  if s.flag PACKAGE_IDENTIFIED ∧ len < sizeof_identified_head then .ok s
  else
    let len := len - s.dataOffset
    if e_rid = 2 then (s.register_rid s.buffer.rid).ackIfAckly
    else if src_as_neighbor.isSome then
      (s.register_rid s.buffer.rid).process_type size src src_as_neighbor len
    else
      let (s, goOn) := s.process_stranger src
      if goOn then s.process_type size src src_as_neighbor len else .ok s

def process_package (s : Node) (package : Package) (size : Nat) (src : Uid) : Result Node :=
  let s := s.emit (.process_package package src)
  if size < sizeof_package then .ok s
  else if BUFFER_PROCESS_SIZE < size then .ok s
  else if s.is_blocked src then .ok s
  else
    let e_rid := s.rids.exists_rid package.rid
    if e_rid = 1 then .ok s
    else do
      let src_as_neighbor ← s.transmission.find_neighbor src
      let s := s.receiveInto package size
      if s.flag PACKAGE_INTERMEDIATE then s.process_intermediate size
      else s.process_direct size src e_rid src_as_neighbor

end Node

end concretid.ems
