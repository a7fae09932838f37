import ConcretID.Ems.Node

open concretid.memory

namespace concretid.ems

namespace Node

/-- `send_ack` for a package held in `pkg`. -/
def send_ack (s : Node) (pkg : PackageBuffer) : Result Node :=
  if hasFlag pkg.flags PACKAGE_IDENTIFIED then
    match s.transmission.find_table_by_uid (uidAt pkg.data 0) with
    | some uidt => do
      let s := s.make_package_head .messages 0 .ACK
      let s := s.writeData .messages 0 (ridBytes pkg.rid)
      let (s, _) ← s.send_package_by_table .messages (sizeof_package + RID_SIZE) (some uidt)
      return s
    | none => .ok s
  else
    let s := s.make_package_head .messages 0 .BROADCAST_ACK
    let s := s.writeData .messages 0 (ridBytes pkg.rid)
    .ok (s.send_package .messages (sizeof_package + RID_SIZE) broadcast_uid)

def announce_me_to (s : Node) (uid : Uid) : Result Node :=
  match s.transmission.find_table_by_uid uid with
  | none => .ok s
  | some uidt => do
    let s := s.make_package_head .messages PACKAGE_IDENTIFIED .ANNOUNCEMENT
    let s := s.writeData .messages sizeof_identified_head (strncpy s.me.name.toList NAME_SIZE)
    let (s, _) ← s.send_package_by_table .messages
      (sizeof_package + sizeof_identified_head + NAME_SIZE) (some uidt)
    return s

def send_echo_to (s : Node) (uid : Uid) : Node :=
  (s.make_package_head .messages 0 .ECHO).send_package .messages sizeof_package uid

def send_reecho_to (s : Node) (uid : Uid) : Node :=
  (s.make_package_head .messages 0 .REECHO).send_package .messages sizeof_package uid

def send_uid_request (s : Node) (uid : Uid) : Node :=
  let s := s.make_package_head .messages PACKAGE_IDENTIFIED .UID_REQUEST
  let s := s.writeData .messages sizeof_identified_head uid.toList
  s.send_package .messages (sizeof_package + sizeof_identified_head + UID_SIZE) broadcast_uid

def send_name_request (s : Node) (name : List UInt8) : Node :=
  let s := s.make_package_head .messages PACKAGE_IDENTIFIED .NAME_REQUEST
  let s := s.writeData .messages sizeof_identified_head (strncpy name NAME_SIZE)
  s.send_package .messages (sizeof_package + sizeof_identified_head + NAME_SIZE) broadcast_uid

def discovery_neighborhood (s : Node) (depth : UInt8) : Node :=
  let s := s.make_package_head .messages PACKAGE_IDENTIFIED .NEIGHBOR_REQUEST
  let s := s.writeData .messages sizeof_identified_head [depth]
  s.send_package .messages (sizeof_package + sizeof_identified_head + 1) broadcast_uid

def send_neighboor_request_to (s : Node) (uid : Uid) : Node :=
  (s.make_package_head .messages 0 .NEIGHBOR_REQUEST).send_package .messages sizeof_package uid

def send_neighboor_request_to_all (s : Node) : Node :=
  (s.make_package_head .messages 0 .NEIGHBOR_REQUEST).send_package .messages sizeof_package
    broadcast_uid

/-- `strcpy` writes the text and its NUL, which must fit in `messages_buffer`. -/
def send_broadcast_msg (s : Node) (msg : List UInt8) : Result Node :=
  let s := s.make_package_head .messages 0 .BROADCAST_MSG
  if Buffer.messages.capacity < (cstring msg).length + 1 then .error .out_of_bounds
  else
    let s := s.writeData .messages 0 (cstring msg ++ [0])
    .ok (s.send_package .messages (sizeof_package + (cstring msg).length) broadcast_uid)

/-- The ageing of one slot in `check_transmission`. The second test comes after
the first one failed. Its `Del_neighbor(i)` is unreachable; there the macro's
own `static uint8_t i` hides the argument, as written out here. -/
def check_transmission_slot (s : Node) (i : Slot) : Node :=
  let t := s.transmission
  if Valid_num (t.neighbor_time i) then
    let time := t.neighbor_time i + 1
    let aged := { t with neighbor_time := Function.update t.neighbor_time i time }
    let s := s.setTransmission aged
    if s.me.neighbor_good_till < time then s.send_neighboor_request_to (t.neighbor i)
    else if 2 * s.me.neighbor_good_till.toNat < time.toNat then
      let first := aged.unlink 0
      let unrouted := { first with uid_table := fun e =>
        if ∃ k < first.last_table, first.table_order[k]? = some e ∧
            (first.uid_table e).link.map Fin.val = some k
        then { first.uid_table e with link := none } else first.uid_table e }
      let last := Fin.ofNat NEIGHBORHOOD_SIZE first.last_table
      s.setTransmission (unrouted.Correct_table_order.release last)
    else s
  else s

def check_transmission (s : Node) : Node :=
  let s := (List.finRange NEIGHBORHOOD_SIZE).foldl check_transmission_slot
    (s.emit .check_transmission)
  if s.count = s.me.neighbor_good_till / 2 then
    { s with count := 0 }.send_neighboor_request_to_all
  else { s with count := s.count + 1 }

end Node

end concretid.ems
