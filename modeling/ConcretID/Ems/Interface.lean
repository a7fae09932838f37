import ConcretID.Ems.SendOut

namespace concretid.ems

def chars (text : List Char) : List UInt8 := text.map fun c => UInt8.ofNat c.toNat

def space : UInt8 := 32

/-- The text after a prefix, when it starts with that prefix. -/
def afterPrefix (start text : List UInt8) : Option (List UInt8) :=
  if start.isPrefixOf text then some (text.drop start.length) else none

/-! ## `strtoi` and `uid_create` -/

/-- The value stored in the 16-bit `int` that collects the digits. -/
def int16 (n : Int) : Int := Int.bmod n (2 ^ 16)

/-- The digit loops of `strtoi`, with the rest of the text they stop at. -/
def strtoi_loop (base : Nat) : List UInt8 → Int → Int × List UInt8
  | [], ret => (ret, [])
  | c :: rest, ret =>
    let decimal := (c - 48).toNat
    let lower := (c + 10 - 97).toNat
    let upper := (c + 10 - 65).toNat
    if 10 < base then
      if decimal < 10 then strtoi_loop base rest (int16 (ret * base + decimal))
      else if lower < base then strtoi_loop base rest (int16 (ret * base + lower))
      else if upper < base then strtoi_loop base rest (int16 (ret * base + upper))
      else (ret, c :: rest)
    else if decimal < base then strtoi_loop base rest (int16 (ret * base + decimal))
    else (ret, c :: rest)

/-- `strtoi` skips a sign but does not use it. -/
def strtoi (pt : List UInt8) (base : Nat) : Int × List UInt8 :=
  let pt := pt.dropWhile (· == space)
  let pt :=
    match pt with
    | 45 :: rest => rest
    | 43 :: rest => rest
    | _ => pt
  if base = 0 then
    match pt with
    | 48 :: 120 :: rest | 48 :: 88 :: rest => strtoi_loop 16 rest 0
    | 48 :: 98 :: rest | 48 :: 66 :: rest => strtoi_loop 2 rest 0
    | 48 :: rest => strtoi_loop 8 rest 0
    | _ => strtoi_loop 10 pt 0
  else strtoi_loop base pt 0

def hexDigit (c : UInt8) : Option UInt8 :=
  if 48 ≤ c ∧ c ≤ 57 then some (c - 48)
  else if 65 ≤ c ∧ c ≤ 70 then some (c - 65 + 10)
  else if 97 ≤ c ∧ c ≤ 102 then some (c - 97 + 10)
  else none

/-- `uid_create` over the bytes still to be written. It stops at the first
character that is no digit; a byte is written after its first digit. -/
def uid_create_loop : List (Fin UID_SIZE) → List UInt8 → Uid → Uid
  | k :: rest, high :: low :: text, uid =>
    match hexDigit high, hexDigit low with
    | some h, some l => uid_create_loop rest text (uid.set k (h <<< 4 ||| l))
    | some h, none => uid.set k (h <<< 4)
    | none, _ => uid
  | k :: _, [high], uid =>
    match hexDigit high with
    | some h => uid.set k (h <<< 4)
    | none => uid
  | _, _, uid => uid

def uid_create (uid : Uid) (text : List UInt8) : Uid :=
  uid_create_loop (List.finRange UID_SIZE) text uid

namespace Node

/-! ## Commands -/

def cmd_echo (s : Node) (arg : List UInt8) : Node :=
  match afterPrefix [space] arg with
  | some text => s.emit (.print [.bytes text])
  | none => s

/-- `cmd_send` and `cmd_command`: a name, one blank, and what to send. -/
def cmd_send_out (s : Node) (type : PackageType) (arg : List UInt8) : Result Node :=
  match afterPrefix [space] arg with
  | none => .ok s
  | some text =>
    let arg := text.dropWhile (· == space)
    if arg = [] then .ok s
    else do
      let name := arg.takeWhile (· != space)
      let (s, _) ← s.send_out_by_name name (arg.drop (name.length + 1)) type
      return s

def cmd_set (s : Node) (arg : List UInt8) : Node :=
  match afterPrefix [space] arg with
  | none => s
  | some arg =>
    match afterPrefix (chars ['n', 'a', 'm', 'e', ' ']) arg with
    | some arg =>
      let blanks := (arg.take NAME_SIZE).map fun c => if c = space then 95 else c
      { s with me := { s.me with name := nameOf (blanks ++ arg.drop NAME_SIZE) } }
    | none =>
      match afterPrefix (chars ['t', 'x', 'p', 'o', 'w', 'e', 'r', ' ']) arg with
      | some arg =>
        { s with me := { s.me with rf_tx_power := UInt8.ofInt (strtoi arg 0).1 } }
      | none =>
        match afterPrefix (chars ['h', 'g', 'm', ' ']) arg with
        | some (c :: _) =>
          if c = 49 ∨ c = 48 then { s with me := { s.me with rf_use_hgm := c - 48 } } else s
        | _ => s

def cmd_get (s : Node) (arg : List UInt8) : Node :=
  match afterPrefix [space] arg with
  | none => s
  | some arg =>
    if (chars ['n', 'a', 'm', 'e']).isPrefixOf arg then
      s.emit (.print [.bytes (cstring s.me.name.toList)])
    else if (chars ['t', 'x', 'p', 'o', 'w', 'e', 'r']).isPrefixOf arg then
      s.emit (.print [.number s.me.rf_tx_power.toNat])
    else if (chars ['h', 'g', 'm']).isPrefixOf arg then
      s.emit (.print [.number s.me.rf_use_hgm.toNat])
    else s

/-- The `UID_PRINT(&uid_table[i].link)` of `cmd_list` prints the 16 bytes from
the link on: the link and the first 15 bytes of the name. -/
def cmd_list (s : Node) (arg : List UInt8) : Node :=
  match afterPrefix [space] arg with
  | none => s
  | some arg =>
    if (chars ['t', 'a', 'b', 'l', 'e']).isPrefixOf arg then
      (List.finRange UID_TABLE_SIZE).foldl (fun s e =>
        let entry := s.transmission.uid_table e
        let link : UInt8 := match entry.link with
          | some l => UInt8.ofNat l.val
          | none => 0xff
        s.emit (.print [.bytes (cstring entry.name.toList), .uid entry.uid, .text " - ",
          .bytes (link :: entry.name.toList.take 15)])) s
    else if (chars ['n', 'e', 'i', 'g', 'h', 'b', 'o', 'r', 's']).isPrefixOf arg then
      (List.finRange NEIGHBORHOOD_SIZE).foldl (fun s i =>
        if Valid_num (s.transmission.neighbor_time i) then
          s.emit (.print [.uid (s.transmission.neighbor i)])
        else s) s
    else s

def cmd_block (s : Node) (arg : List UInt8) : Node :=
  match afterPrefix [space] arg with
  | none => s
  | some arg =>
    let uid := uid_create s.block_tmp arg
    { s with block_tmp := uid }.block_uid uid

def cmd_discovery (s : Node) (arg : List UInt8) : Node :=
  match afterPrefix [space] arg with
  | none => s
  | some arg => s.discovery_neighborhood (UInt8.ofInt (strtoi arg 0).1)

/-- `execute_cmd` on the text of a NUL-terminated command. -/
def execute_cmd (s : Node) (cmd : List UInt8) : Result Node :=
  let s := (s.emit (.execute_cmd cmd)).emit (.print [.bytes cmd])
  match afterPrefix (chars ['e', 'c', 'h', 'o']) cmd with
  | some arg => .ok (s.cmd_echo arg)
  | none =>
  match afterPrefix (chars ['s', 'e', 'n', 'd']) cmd with
  | some arg => s.cmd_send_out .MSG arg
  | none =>
  match afterPrefix (chars ['c', 'o', 'm', 'm', 'a', 'n', 'd']) cmd with
  | some arg => s.cmd_send_out .COMMAND arg
  | none =>
  match afterPrefix (chars ['s', 'e', 't']) cmd with
  | some arg => .ok (s.cmd_set arg)
  | none =>
  match afterPrefix (chars ['g', 'e', 't']) cmd with
  | some arg => .ok (s.cmd_get arg)
  | none =>
  match afterPrefix (chars ['l', 'i', 's', 't']) cmd with
  | some arg => .ok (s.cmd_list arg)
  | none =>
  match afterPrefix (chars ['b', 'l', 'o', 'c', 'k']) cmd with
  | some arg => .ok (s.cmd_block arg)
  | none =>
  match afterPrefix (chars ['d', 'i', 's', 'c', 'o', 'v', 'e', 'r', 'y']) cmd with
  | some arg => .ok (s.cmd_discovery arg)
  | none => .ok s

end Node

end concretid.ems
