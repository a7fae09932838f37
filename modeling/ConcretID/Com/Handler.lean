import ConcretID.Com.Command

open concretid.memory
open concretid.ems (Uid cstring strncmp_eq uidAt)

namespace concretid.com

/-- A received datagram: `data` is what `uip_appdata` holds, the package of
`len` bytes with whatever older bytes lie behind it. -/
structure Datagram where
  src : Uid
  data : Nat → UInt8
  len : Nat

/-- The id in a received package. -/
def Datagram.rid (m : Datagram) : Rid := ridAt m.data 0

/-- The letter that says what a received package is. -/
def Datagram.letter (m : Datagram) : UInt8 := m.data RID_SIZE

namespace Node

/-- `case NEIGHBOR_REQUEST_M`, with `len` the length of the body. The
announcement leaves through `uip_buf`, where the request lies. -/
def neighborRequest (s : Node) (len : Nat) : Node :=
  let s := s.announceMe
  if len = 0 then s
  else
    let depth := s.uip_appdata PACKAGE_HEAD - 1
    let s := s.write .uip_appdata PACKAGE_HEAD [depth]
    if depth ≠ 0 then s.SharePackage .uip_appdata (len + PACKAGE_HEAD) else s

/-- The line printed for an identified package. -/
def printIdentified (s : Node) (len : Nat) : Node :=
  let s := s.emit (.uart0 (.text "New Package from "))
  let s := s.emit (.uart0 (.hex (load s.uip_appdata PACKAGE_HEAD UID_SIZE)))
  let s := s.emit (.uart0 (.text ":"))
  (s.puts0 s.uip_appdata (PACKAGE_HEAD + UID_SIZE) len).emit (.uart0 .newline)

/-- The `switch` of `tcpip_handler`, with `len` the length of the body. -/
def handle (s : Node) (len eRid : Nat) : Option PackageType → Node
  | some .ANNOUNCEMENT_M =>
    let s := s.write .uip_appdata (PACKAGE_HEAD + len) [0]
    if len < UID_SIZE then s
    else
      let name := load s.uip_appdata (PACKAGE_HEAD + UID_SIZE) NAME_SIZE
      let s := s.registerIp (uidAt s.uip_appdata PACKAGE_HEAD) s.srcipaddr (some name)
      s.SharePackage .uip_appdata (len + PACKAGE_HEAD)
  | some .NEIGHBOR_REQUEST_M => s.neighborRequest len
  | some .NAME_REQUEST_M =>
    let s := s.write .uip_appdata (PACKAGE_HEAD + len) [0]
    if strncmp_eq (load s.uip_appdata PACKAGE_HEAD NAME_SIZE) s.myName.toList NAME_SIZE then
      s.announceMe
    else s.SharePackage .uip_appdata (len + PACKAGE_HEAD)
  | some .IP_REQUEST_M =>
    if uidAt s.uip_appdata PACKAGE_HEAD = s.myIp then s.announceMe
    else s.SharePackage .uip_appdata (len + PACKAGE_HEAD)
  | some .ACKNOWLEDGE_M => s.acknowledge (ridAt s.uip_appdata PACKAGE_HEAD)
  | some .PACKAGE_M =>
    if eRid = 0 then
      let s := s.emit (.uart0 (.text "New Package:"))
      (s.puts0 s.uip_appdata PACKAGE_HEAD len).emit (.uart0 .newline)
    else s
  | some .IDENTIFIED_PACKAGE_M =>
    let s := if eRid = 0 then s.printIdentified len else s
    (s.registerIp (uidAt s.uip_appdata PACKAGE_HEAD) s.srcipaddr none).sendAck
  | some .MESH_M => s.forward (len + PACKAGE_HEAD)
  | some .COMMAND_M =>
    let s := if eRid = 0 then s.executeCmd .uip_appdata PACKAGE_HEAD else s
    (s.registerIp (uidAt s.uip_appdata PACKAGE_HEAD) s.srcipaddr none).sendAck
  | none => s

/-- `tcpip_handler`, once the datagram of `len` bytes is in `uip_buf`. -/
def tcpip_handler (s : Node) (len : Nat) : Node :=
  if s.blocked = s.srcipaddr then s
  else if len < PACKAGE_HEAD then s
  else
    let eRid := s.rids.existsRid (ridAt s.uip_appdata 0)
    if eRid = 1 then s
    else
      let letter := s.uip_appdata RID_SIZE
      let s := s.registerRid (ridAt s.uip_appdata 0)
      if letter ≠ PackageType.PACKAGE_M.code ∧ eRid = 2 then s
      else s.handle (len - PACKAGE_HEAD) eRid (PackageType.ofCode letter)

/-- A datagram arrives. -/
def receive (s : Node) (m : Datagram) : Node :=
  { s with
    uip_appdata := m.data
    srcipaddr := m.src }.tcpip_handler m.len

end Node

/-- What can happen to a node: a character at its UART, a datagram, or the
second of `timeout_handler` is over. -/
inductive Input where
  | char (x : UInt8)
  | datagram (m : Datagram)
  | timeout

/-- One run of an event handler of the node. -/
def Node.step (s : Node) : Input → Node
  | .char x => s.getc0 x
  | .datagram m => s.receive m
  | .timeout => s.checkSendOutAll

end concretid.com
