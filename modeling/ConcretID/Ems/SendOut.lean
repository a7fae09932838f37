import ConcretID.Ems.Messages

open concretid.memory

namespace concretid.ems

namespace Node

def setSendout (s : Node) (i : Fin SENDOUT_QTY) (slot : Sendout) : Node :=
  { s with sendout_package := Function.update s.sendout_package i slot }

/-- `acknowledge`. The flag is its answer. -/
def acknowledge (s : Node) (rid : Rid) : Node × Bool :=
  match (List.finRange SENDOUT_QTY).find? fun i =>
      (rid ^^^ (s.sendout_package i).package.rid) &&& RID_FIXED == 0 with
  | some i =>
    ((s.setSendout i { s.sendout_package i with time := 0 }).emit (.acknowledge i rid), true)
  | none => (s, false)

/-- Send a slot's package over a route and keep the size it then has. -/
def sendSlot (s : Node) (i : Fin SENDOUT_QTY) (uidt : Entry) : Result Node := do
  let (s, size) ← s.send_package_by_table (.sendout i) (s.sendout_package i).size (some uidt)
  return s.setSendout i { s.sendout_package i with size }

/-- A slot's name has been found in the table: keep the uid, start to send. -/
def solveSlot (s : Node) (i : Fin SENDOUT_QTY) (uidt : Entry) : Result Node :=
  let slot := { s.sendout_package i with
    key := (s.transmission.uid_table uidt).uid, time := s.me.timing.sending }
  (s.setSendout i slot).sendSlot i uidt

/-- One round of the loop of `check_send_out`. -/
def check_send_out_slot (s : Node) (i : Fin SENDOUT_QTY) : Result Node :=
  let slot := s.sendout_package i
  if slot.time < 0 then
    match s.transmission.find_table_by_name slot.key.toList with
    | some uidt => s.solveSlot i uidt
    | none =>
      let s := s.setSendout i { slot with time := slot.time + 1 }
      if s.me.time_to_solve = 0 then .error .division_by_zero
      else if (slot.time + 1).tmod s.me.time_to_solve.toNat = 0 then
        .ok (s.send_name_request slot.key.toList)
      else .ok s
  else if 0 < slot.time then
    let s := s.setSendout i { slot with time := slot.time - 1 }
    if s.me.time_to_send = 0 then .error .division_by_zero
    else if (slot.time - 1).tmod s.me.time_to_send.toNat = 0 then
      match s.transmission.find_table_by_uid slot.key with
      | some uidt =>
        let package := { slot.package with rid := RID_INC slot.package.rid }
        (s.setPackageBuffer (.sendout i) package).sendSlot i uidt
      | none => .ok (s.send_uid_request slot.key)
    else .ok s
  else .ok s

def check_send_out (s : Node) : Result Node := do
  let s ← (s.emit .check_send_out).check_send_out_slot 0
  s.check_send_out_slot 1

/-- `send_out_by_name` of the `len` bytes of `data`. The flag is its answer. -/
def send_out_by_name (s : Node) (name data : List UInt8) (type : PackageType) :
    Result (Node × Bool) :=
  match (List.finRange SENDOUT_QTY).find? fun i => (s.sendout_package i).time == 0 with
  | none => .ok (s, false)
  | some i =>
    let len := data.length
    let size := (len + sizeof_package + sizeof_identified_head) % 2 ^ 16
    let s := s.setSendout i { s.sendout_package i with size }
    if SENDOUT_BUFFER_SIZE < (size + sizeof_intermediate_head) % 2 ^ 16 then .ok (s, false)
    else if (Buffer.sendout i).capacity < sizeof_identified_head + len then .error .out_of_bounds
    else
      let s := s.make_package_head (.sendout i) (PACKAGE_ACKLY ||| PACKAGE_IDENTIFIED) type
      let s := s.writeData (.sendout i) sizeof_identified_head data
      match s.transmission.find_table_by_name name with
      | some uidt => do
        let s ← s.solveSlot i uidt
        return (s, true)
      | none =>
        let s := s.setSendout i { s.sendout_package i with
          key := nameOf name, time := s.me.timing.solving }
        .ok (s.send_name_request name, true)

end Node

end concretid.ems
