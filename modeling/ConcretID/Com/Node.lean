import ConcretID.Com.IpTable
import ConcretID.Com.RidTable

open concretid.memory
open concretid.ems (Uid Name strncpy sub16 null_uid broadcast_uid)

namespace concretid.com

/-- A `SendBuf_t`. The union of `name` and `ip` is `key`: the name until it is
solved, the address from then on. -/
structure SendBuf where
  key : Uid
  data : Nat → UInt8
  len : Nat
  timeLeft : Int

/-- The state of one node. Arrays are memory with whatever lies behind them;
`uip_appdata` is the part of `uip_buf` behind the heads, where the received
package lies, and `srcipaddr` the source address in `UIP_IP_BUF`. `random` is
what `random_rand` will return, `trace` what has been called and sent so far. -/
structure Node where
  myIp : Uid
  myName : Name
  blocked : Uid
  rids : RidTable
  table : IpTable
  sendOut : Fin SENDOUT_SIZE → SendBuf
  buf : Nat → UInt8
  uip_appdata : Nat → UInt8
  srcipaddr : Uid
  cmd : Nat → UInt8
  cmdPt : Nat
  random : Nat → UInt8
  trace : List Event

namespace Node

/-- A node whose `com_process` has just started: nothing has happened yet and
the tables are empty. -/
structure Booted (s : Node) : Prop where
  blocked : s.blocked = null_uid
  rids : s.rids = .zero
  table : s.table = .zero
  sendOut : ∀ i, (s.sendOut i).timeLeft = 0
  cmdPt : s.cmdPt = 0
  trace : s.trace = []

/-- A node with everything zero but its address, its name and what it will draw. -/
def boot (myIp : Uid) (myName : Name) (random : Nat → UInt8) : Node :=
  { myIp
    myName
    blocked := null_uid
    rids := .zero
    table := .zero
    sendOut := fun _ => { key := null_uid, data := fun _ => 0, len := 0, timeLeft := 0 }
    buf := fun _ => 0
    uip_appdata := fun _ => 0
    srcipaddr := null_uid
    cmd := fun _ => 0
    cmdPt := 0
    random
    trace := [] }

theorem boot_booted (myIp : Uid) (myName : Name) (random : Nat → UInt8) :
    Booted (boot myIp myName random) :=
  ⟨rfl, rfl, rfl, fun _ => rfl, rfl, rfl⟩

def emit (s : Node) (e : Event) : Node := { s with trace := s.trace ++ [e] }

def memory (s : Node) : Region → Nat → UInt8
  | .buf => s.buf
  | .uip_appdata => s.uip_appdata
  | .cmd => s.cmd
  | .sendOut i => (s.sendOut i).data

def setMemory (s : Node) (r : Region) (d : Nat → UInt8) : Node :=
  match r with
  | .buf => { s with buf := d }
  | .uip_appdata => { s with uip_appdata := d }
  | .cmd => { s with cmd := d }
  | .sendOut i =>
    { s with sendOut := Function.update s.sendOut i { s.sendOut i with data := d } }

def write (s : Node) (r : Region) (offset : Nat) (bytes : List UInt8) : Node :=
  s.setMemory r (store (s.memory r) offset bytes)

def setSlot (s : Node) (i : Fin SENDOUT_SIZE) (sb : SendBuf) : Node :=
  { s with sendOut := Function.update s.sendOut i sb }

def registerRid (s : Node) (h : Rid) : Node :=
  { s with rids := s.rids.registerRid h }.emit (.registerRid h)

def registerIp (s : Node) (ip link : Uid) (d : Option (List UInt8)) : Node :=
  { s with table := s.table.registerIp ip link d }

/-! ## Sending -/

/-- The bytes of a region that `uip_udp_packet_send` copies. -/
def packet (s : Node) (data : Region) (len : Nat) : List UInt8 :=
  load (s.memory data) 0 (min len UIP_BUFSIZE)

/-- `uip_udp_packet_send` builds the datagram in `uip_buf`: it overwrites the
package that has been received and the address it came from. -/
def uip_udp_packet_send (s : Node) (data : Region) (len : Nat) : Node :=
  { s with
    uip_appdata := store s.uip_appdata 0 (s.packet data len)
    srcipaddr := s.myIp }

def SendPackage (s : Node) (data : Region) (len : Nat) (ip : Uid) : Node :=
  let s := s.registerRid (ridAt (s.memory data) 0)
  (s.emit (.SendPackage data (s.packet data len) ip)).uip_udp_packet_send data len

def SharePackage (s : Node) (data : Region) (len : Nat) : Node :=
  let s := s.registerRid (ridAt (s.memory data) 0)
  (s.emit (.SharePackage data (s.packet data len))).uip_udp_packet_send data len

/-- The id the next `createRid` draws. -/
def nextRid (s : Node) : Rid := ridAt s.random 0

/-- Whether a package of this type begins with the address of its source. -/
def identified : PackageType → Bool
  | .IDENTIFIED_PACKAGE_M | .COMMAND_M => true
  | _ => false

/-- `initPackage(buf, t)`. The pointer it returns is `buf + packOffset t`. -/
def initPackage (s : Node) (t : PackageType) : Node :=
  let head := s.nextRid.bytes ++ [t.code] ++ if identified t then s.myIp.toList else []
  { s with
    random := fun k => s.random (RID_SIZE + k)
    buf := store s.buf 0 head }.emit (.initPackage t s.nextRid)

def packOffset (t : PackageType) : Nat := if identified t then PACKAGE_HEAD + UID_SIZE else PACKAGE_HEAD

/-- The first loop of `sendPackageByTable`, with `n` bytes still to be copied:
`buf[i+MESH_HEAD_SIZE] = data[i]` from the last one down. -/
def insertMeshHead (s : Node) (data : Region) : Nat → Node
  | 0 => s
  | n + 1 =>
    let value := s.memory data (RID_SIZE + n)
    let s := { s with buf := Function.update s.buf (RID_SIZE + n + MESH_HEAD_SIZE) value }
    s.insertMeshHead data n

/-- `sendPackageByTable`; `ipt` points to an entry of `iptable`. -/
def sendPackageByTable (s : Node) (data : Region) (len : Nat) (ipt : Fin IPTABLE_SIZE) : Node :=
  let s := s.emit (.sendPackageByTable data (ridAt (s.memory data) 0))
  let entry := s.table.iptable ipt
  if entry.ipaddr ≠ entry.link then
    if s.memory data RID_SIZE ≠ PackageType.MESH_M.code then
      let s := s.insertMeshHead data (sub16 len 1 + 1 - RID_SIZE)
      let head := load (s.memory data) 0 RID_SIZE ++ [PackageType.MESH_M.code] ++
        entry.ipaddr.toList
      -- `len += MESH_M` adds the letter, not `MESH_HEAD_SIZE`
      (s.write .buf 0 head).SendPackage .buf (len + PackageType.MESH_M.code.toNat) entry.link
    else s.SendPackage data len entry.link
  else if s.memory data RID_SIZE = PackageType.MESH_M.code then
    let moved := shiftDown (s.memory data) PACKAGE_HEAD MESH_HEAD_SIZE
      (len - (PACKAGE_HEAD + MESH_HEAD_SIZE))
    (s.setMemory data moved).SendPackage data (sub16 len MESH_HEAD_SIZE) entry.link
  else s.SendPackage data len entry.link

def sendNameRequest (s : Node) (name : List UInt8) : Node :=
  let s := s.initPackage .NAME_REQUEST_M
  let s := s.write .buf PACKAGE_HEAD (strncpy name NAME_SIZE)
  s.SharePackage .buf (PACKAGE_HEAD + NAME_SIZE)

def sendIpRequest (s : Node) (ip : Uid) : Node :=
  let s := s.initPackage .IP_REQUEST_M
  let s := s.write .buf PACKAGE_HEAD ip.toList
  s.SharePackage .buf (PACKAGE_HEAD + UID_SIZE)

def announceMe (s : Node) : Node :=
  let s := (s.emit .announceMe).initPackage .ANNOUNCEMENT_M
  let s := s.write .buf PACKAGE_HEAD (s.myIp.toList ++ strncpy s.myName.toList NAME_SIZE)
  s.SharePackage .buf (PACKAGE_HEAD + UID_SIZE + NAME_SIZE)

/-- `sendAck(data, ip)` for the package in `uip_appdata`, with `ip` the address
its body begins with. The acknowledgement is made in `buf`, but it is `data`
that is sent. -/
def sendAck (s : Node) : Node :=
  let rid := ridAt s.uip_appdata 0
  let s := (s.emit (.sendAck rid)).initPackage .ACKNOWLEDGE_M
  let s := s.write .buf PACKAGE_HEAD (load s.uip_appdata 0 RID_SIZE)
  match s.table.findTableByIp (ems.uidAt s.uip_appdata PACKAGE_HEAD) with
  | some ipt => s.sendPackageByTable .uip_appdata (PACKAGE_HEAD + RID_SIZE) ipt
  | none => s

/-- The second `if` of `forward`: the source of an identified package becomes
reachable through the node the package came from. -/
def registerInner (s : Node) (len : Nat) : Node :=
  let inner := PACKAGE_HEAD + MESH_HEAD_SIZE
  if inner + 1 + UID_SIZE ≤ len ∧
      s.uip_appdata inner = PackageType.IDENTIFIED_PACKAGE_M.code then
    s.registerIp (ems.uidAt s.uip_appdata (inner + 1)) s.srcipaddr none
  else s

/-- `forward` for the package in `uip_appdata`. -/
def forward (s : Node) (len : Nat) : Node :=
  let s := s.emit (.forward (ridAt s.uip_appdata 0))
  if len < PACKAGE_HEAD + MESH_HEAD_SIZE then s
  else
    let s := s.registerInner len
    match s.table.findTableByIp (ems.uidAt s.uip_appdata PACKAGE_HEAD) with
    | some ipt => s.sendPackageByTable .uip_appdata len ipt
    | none => s

/-! ## Send out -/

def newSendBuf (s : Node) : Option (Fin SENDOUT_SIZE) :=
  (List.finRange SENDOUT_SIZE).find? fun i => (s.sendOut i).timeLeft = 0

/-- `acknowledge`, given the id at its pointer. `CmpRid` compares all four bytes. -/
def acknowledge (s : Node) (rid : Rid) : Node :=
  let s := s.emit (.acknowledge rid)
  match (List.finRange SENDOUT_SIZE).find? fun i =>
      0 < (s.sendOut i).timeLeft ∧ rid = ridAt (s.sendOut i).data 0 with
  | some i => s.setSlot i { s.sendOut i with timeLeft := 0 }
  | none => s

/-- The first `if` of `CheckSendOut1`. -/
def solve (s : Node) (i : Fin SENDOUT_SIZE) : Node :=
  let sb := s.sendOut i
  if sb.timeLeft < 0 ∧ sb.timeLeft.tmod SOLVE_TIME = 0 then
    match s.table.findTableByName sb.key.toList with
    | some ipt =>
      let solved :=
        { sb with timeLeft := ACK_TIME * ACK_TRIES, key := (s.table.iptable ipt).ipaddr }
      (s.setSlot i solved).sendPackageByTable (.sendOut i) sb.len ipt
    | none => s.sendNameRequest sb.key.toList
  else s

/-- The second `if` of `CheckSendOut1`, which also a slot just solved passes. -/
def transmit (s : Node) (i : Fin SENDOUT_SIZE) : Node :=
  let sb := s.sendOut i
  if 0 < sb.timeLeft ∧ sb.timeLeft.tmod ACK_TIME = 0 then
    match s.table.findTableByIp sb.key with
    | some ipt =>
      let next := { sb with data := Function.update sb.data 0 (sb.data 0 + 1) }
      (s.setSlot i next).sendPackageByTable (.sendOut i) sb.len ipt
    | none => s.sendIpRequest sb.key
  else s

def CheckSendOut1 (s : Node) (i : Fin SENDOUT_SIZE) : Node := (s.solve i).transmit i

/-- The time left after one more call of `checkSendOutAll`. -/
def elapse (timeLeft : Int) : Int :=
  let waited := if timeLeft < 0 then timeLeft + 1 else timeLeft
  if 0 < waited then waited - 1 else waited

/-- One round of the loop of `checkSendOutAll`. -/
def checkSendOut (s : Node) (i : Fin SENDOUT_SIZE) : Node :=
  let sb := s.sendOut i
  if sb.timeLeft = 0 then s
  else (s.setSlot i { sb with timeLeft := elapse sb.timeLeft }).CheckSendOut1 i

def checkSendOutAll (s : Node) : Node := (List.finRange SENDOUT_SIZE).foldl checkSendOut s

def safeSendByIp (s : Node) (data : Region) (len : Nat) (ip : Uid) : Node × Bool :=
  match s.newSendBuf with
  | some i =>
    let sb := s.sendOut i
    let s := s.setSlot i
      { key := ip
        data := store sb.data 0 (load (s.memory data) 0 len)
        len
        timeLeft := ACK_TIME * ACK_TRIES }
    (s.CheckSendOut1 i, true)
  | none => (s, false)

def safeSendByName (s : Node) (data : Region) (len : Nat) (name : List UInt8) : Node × Bool :=
  match s.newSendBuf with
  | some i =>
    let sb := s.sendOut i
    let stored := store sb.data 0 (load (s.memory data) 0 len)
    let filled :=
      match s.table.findTableByName name with
      | some ipt =>
        { key := (s.table.iptable ipt).ipaddr
          data := stored
          len
          timeLeft := ACK_TIME * ACK_TRIES }
      | none =>
        { key := ems.nameOf name
          data := stored
          len
          timeLeft := -SOLVE_TIME * SOLVE_TRIES }
    ((s.setSlot i filled).CheckSendOut1 i, true)
  | none => (s, false)

end Node

end concretid.com
