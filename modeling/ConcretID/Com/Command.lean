import ConcretID.Com.Node

open concretid.memory
open concretid.ems (Uid Name cstring nameOf strncmp_eq uidAt)

namespace concretid.com

namespace Node

/-- `puts0(d, size)`: the bytes up to the first NUL, at most `size`. -/
def puts0 (s : Node) (d : Nat → UInt8) (offset size : Nat) : Node :=
  s.emit (.uart0 (.bytes (cstring (load d offset size))))

/-- The word a pointer points to: `while (*cmd && *cmd != ' ') cmd++`. -/
def wordAt (d : Nat → UInt8) (offset : Nat) : List UInt8 :=
  (stringAt d offset).takeWhile (· ≠ 0x20)

/-- The commands `S` and `C`, with `cmd` at the name: the rest of the text goes
to the named node behind the head of a package of type `t`. At most `room`
bytes of it are copied, and `counted` bytes in front of it are counted in the
length of the package. -/
def sendText (s : Node) (r : Region) (cmd : Nat) (t : PackageType) (room counted : Nat) : Node :=
  let name := wordAt (s.memory r) cmd
  let space := cmd + name.length
  if s.memory r space = 0 then s
  else
    let s := s.write r space [0]
    let s := s.initPackage t
    let text := stringAt (s.memory r) (space + 1)
    if text.length < room then
      let s := s.write .buf (packOffset t) (text ++ [0])
      (s.safeSendByName .buf (counted + text.length) name).1
    else
      let s := s.write .buf (packOffset t) (load (s.memory r) (space + 1) room)
      (s.safeSendByName .buf BUF_SIZE name).1

/-- `case 'S'`: the length counts the head but not the address behind it. -/
def sendCmd (s : Node) (r : Region) (cmd : Nat) : Node :=
  s.sendText r cmd .IDENTIFIED_PACKAGE_M (BUF_SIZE - PACKAGE_HEAD) PACKAGE_HEAD

/-- `case 'C'`. -/
def commandCmd (s : Node) (r : Region) (cmd : Nat) : Node :=
  s.sendText r cmd .COMMAND_M (BUF_SIZE - packOffset .COMMAND_M) (packOffset .COMMAND_M)

/-- `case 'D'`. -/
def discoverCmd (s : Node) (digit : UInt8) : Node :=
  let s := s.initPackage .NEIGHBOR_REQUEST_M
  if 0x30 ≤ digit ∧ digit ≤ 0x39 then
    (s.write .buf PACKAGE_HEAD [digit - 0x30]).SharePackage .buf (PACKAGE_HEAD + 1)
  else s.SharePackage .buf PACKAGE_HEAD

/-- `case 'B'`. -/
def blockCmd (s : Node) (name : List UInt8) : Node :=
  match s.table.findTableByName name with
  | some ipt => { s with blocked := (s.table.iptable ipt).ipaddr }.emit (.uart0 (.text "Done"))
  | none => s.emit (.uart0 (.text "Not found"))

/-- `executeCmd` with the command at an offset of a region. -/
def executeCmd (s : Node) (r : Region) (offset : Nat) : Node :=
  let letter := s.memory r offset
  let cmd := offset + 1
  let s := s.emit (.executeCmd (stringAt (s.memory r) offset))
  match letter.toNat with
  | 0x4e => -- N
    let s := { s with myName := nameOf (load (s.memory r) cmd NAME_SIZE) }
    s.registerIp s.myIp s.myIp (some s.myName.toList)
  | 0x4d => -- M
    (s.emit (.uart0 (.bytes (cstring s.myName.toList)))).emit (.uart0 .newline)
  | 0x53 => s.sendCmd r cmd -- S
  | 0x44 => s.discoverCmd (s.memory r cmd) -- D
  | 0x4c => -- L
    (List.finRange IPTABLE_SIZE).foldl (fun (s : Node) i =>
      let entry := s.table.iptable i
      s.emit (.list entry.name entry.ipaddr entry.link)) s
  | 0x42 => s.blockCmd (load (s.memory r) cmd NAME_SIZE) -- B
  | 0x43 => s.commandCmd r cmd -- C
  | _ => s

/-- `getc0`: a character arrives at the UART. -/
def getc0 (s : Node) (x : UInt8) : Node :=
  if x = 0x7f then
    if s.cmdPt ≠ 0 then
      let cmdPt := s.cmdPt - 1
      { s with cmdPt }.write .cmd cmdPt [0]
    else s
  else if x = 0x0a then
    { (s.write .cmd s.cmdPt [0]).executeCmd .cmd 0 with cmdPt := 0 }
  else if s.cmdPt < CMD_SIZE then { s.write .cmd s.cmdPt [x] with cmdPt := s.cmdPt + 1 }
  else s

end Node

end concretid.com
