import Mathlib.Data.Fintype.Card
import ConcretID.Ems.Types
import ConcretID.Library.Chain

open concretid.chain concretid.memory

namespace concretid.ems

/-- `uid_table_t`. -/
structure UidTableEntry where
  uid : Uid
  link : Option Slot
  name : Name

/-- The tables of `transmission.c`. `neighbor_head` has one list per hash value
and, last, the list of unused slots. -/
structure Transmission where
  uid_table : Entry → UidTableEntry
  table_order : List Entry
  last_table : Nat
  neighbor_head : Fin (NEIGHBORHOOD_HEAD_SIZE + 1) → Option Slot
  neighbor : Slot → Uid
  neighbor_prev : Slot → Option Slot
  neighbor_next : Slot → Option Slot
  neighbor_time : Slot → UInt8

/-- `Valid_num` on a time byte. -/
def Valid_num (time : UInt8) : Bool := time != 0xff

def UID_LAST_BYTE (uid : Uid) : UInt8 := uid.get ⟨UID_SIZE - 1, by decide⟩

/-- `UID_LAST_BYTE(uid)%NEIGHBORHOOD_HEAD_SIZE`, an index of `neighbor_head`. -/
def uidHash (uid : Uid) : Fin (NEIGHBORHOOD_HEAD_SIZE + 1) :=
  ⟨(UID_LAST_BYTE uid).toNat % NEIGHBORHOOD_HEAD_SIZE,
    Nat.lt_succ_of_lt (Nat.mod_lt _ (by decide))⟩

/-- The index of `Neighbor_head_trash`. -/
def trashIndex : Fin (NEIGHBORHOOD_HEAD_SIZE + 1) := ⟨NEIGHBORHOOD_HEAD_SIZE, by decide⟩

/-- `Swap_uint8_t(order[i], order[j])`. -/
def swapOrder (order : List Entry) (i j : Nat) : List Entry :=
  match order[i]?, order[j]? with
  | some a, some b => (order.set i b).set j a
  | _, _ => order

/-- What is handed to the radio: a package and its destination. -/
structure Datagram where
  package : Package
  dest : Uid
  deriving DecidableEq

namespace Transmission

/-- What the tables say about neighbours. -/
structure Neighborhood where
  head : Fin (NEIGHBORHOOD_HEAD_SIZE + 1) → Option Slot
  uid : Slot → Uid
  prev : Slot → Option Slot
  next : Slot → Option Slot
  time : Slot → UInt8

def neighborhood (t : Transmission) : Neighborhood :=
  { head := t.neighbor_head
    uid := t.neighbor
    prev := t.neighbor_prev
    next := t.neighbor_next
    time := t.neighbor_time }

/-- The zero-initialised arrays. -/
def zero : Transmission :=
  { uid_table := fun _ => { uid := null_uid, link := some 0, name := List.Vector.replicate NAME_SIZE 0 }
    table_order := List.replicate UID_TABLE_SIZE 0
    last_table := 0
    neighbor_head := fun _ => some 0
    neighbor := fun _ => null_uid
    neighbor_prev := fun _ => some 0
    neighbor_next := fun _ => some 0
    neighbor_time := fun _ => 0 }

/-- The table part of `init_transmission`. It does not touch `neighbor_prev`. -/
def init_transmission (t : Transmission) : Transmission :=
  { t with
    neighbor_time := fun _ => 0xff
    neighbor_head := fun b => if b = trashIndex then some 0 else none
    neighbor := fun _ => null_uid
    neighbor_next := fun i =>
      if h : i.val + 1 < NEIGHBORHOOD_SIZE then some ⟨i.val + 1, h⟩ else none
    last_table := 0
    table_order := List.finRange UID_TABLE_SIZE }

def setOrder (t : Transmission) (order : List Entry) : Transmission := { t with table_order := order }

@[simp] theorem setOrder_order (t : Transmission) (order : List Entry) :
    (t.setOrder order).table_order = order := rfl
@[simp] theorem setOrder_last (t : Transmission) (order : List Entry) :
    (t.setOrder order).last_table = t.last_table := rfl
@[simp] theorem setOrder_table (t : Transmission) (order : List Entry) :
    (t.setOrder order).uid_table = t.uid_table := rfl
@[simp] theorem setOrder_neighborhood (t : Transmission) (order : List Entry) :
    (t.setOrder order).neighborhood = t.neighborhood := rfl
@[simp] theorem setOrder_neighbor (t : Transmission) (order : List Entry) :
    (t.setOrder order).neighbor = t.neighbor := rfl
@[simp] theorem setOrder_time (t : Transmission) (order : List Entry) :
    (t.setOrder order).neighbor_time = t.neighbor_time := rfl

/-- `Neighbor_head_trash`. -/
def trash (t : Transmission) : Option Slot := t.neighbor_head trashIndex

/-- The entries in use, in order. -/
def active (t : Transmission) : List Entry := t.table_order.take t.last_table

/-! ## Neighbours -/

def find_neighbor (t : Transmission) (uid : Uid) : Result (Option Slot) :=
  match walk t.neighbor_next (fun i => t.neighbor i == uid) NEIGHBORHOOD_SIZE
      (t.neighbor_head (uidHash uid)) with
  | some loc => .ok loc
  | none => .error .endless_loop

/-- One round of the loop of `Correct_table_order`, from `i` and `j`. -/
def Correct_table_order_loop (t : Transmission) : List Nat → List Entry → Nat → List Entry × Nat
  | [], order, j => (order, j)
  | i :: rest, order, j =>
    match order[i]? with
    | none => Correct_table_order_loop t rest order j
    | some e =>
      if (t.uid_table e).link.isSome then
        Correct_table_order_loop t rest (if i ≠ j then swapOrder order i j else order) (j + 1)
      else Correct_table_order_loop t rest order j

def Correct_table_order (t : Transmission) : Transmission :=
  let result := Correct_table_order_loop t (List.range t.last_table) t.table_order 0
  { t with table_order := result.1, last_table := result.2 }

/-- Take a slot out of its doubly linked list: the first part of `Del_neighbor`. -/
def unlink (t : Transmission) (x : Slot) : Transmission :=
  let t :=
    match t.neighbor_prev x with
    | some p => { t with neighbor_next := Function.update t.neighbor_next p (t.neighbor_next x) }
    | none =>
      { t with neighbor_head :=
          Function.update t.neighbor_head (uidHash (t.neighbor x)) (t.neighbor_next x) }
  match t.neighbor_next x with
  | some n => { t with neighbor_prev := Function.update t.neighbor_prev n (t.neighbor_prev x) }
  | none => t

/-- Mark the routes in use whose link is the slot: the loop of `Del_neighbor`. -/
def unroute (t : Transmission) (x : Slot) : Transmission :=
  { t with uid_table := fun e =>
      if e ∈ t.active ∧ (t.uid_table e).link = some x then { t.uid_table e with link := none }
      else t.uid_table e }

/-- Put a slot in front of the unused ones: the last part of `Del_neighbor`. -/
def release (t : Transmission) (x : Slot) : Transmission :=
  { t with
    neighbor_next := Function.update t.neighbor_next x t.trash
    neighbor_time := Function.update t.neighbor_time x 0xff
    neighbor_head := Function.update t.neighbor_head trashIndex (some x) }

def Del_neighbor (t : Transmission) (x : Slot) : Transmission :=
  ((t.unlink x).unroute x).Correct_table_order.release x

/-- The slot `new_neighbor` evicts: the first one with the largest time. -/
def oldest (t : Transmission) : Slot :=
  (List.finRange NEIGHBORHOOD_SIZE).tail.foldl
    (fun ret i => if t.neighbor_time ret < t.neighbor_time i then i else ret) 0

/-- The part of `new_neighbor` after a slot is available in front of the
unused ones. -/
def occupy (t : Transmission) (ret : Slot) (uid : Uid) : Transmission :=
  let t := { t with neighbor_head := Function.update t.neighbor_head trashIndex (t.neighbor_next ret) }
  let i := uidHash uid
  let t :=
    match t.neighbor_head i with
    | some h => { t with neighbor_prev := Function.update t.neighbor_prev h (some ret) }
    | none => t
  { t with
    neighbor_next := Function.update t.neighbor_next ret (t.neighbor_head i)
    neighbor_head := Function.update t.neighbor_head i (some ret)
    neighbor_time := Function.update t.neighbor_time ret 0
    neighbor := Function.update t.neighbor ret uid }

/-- Without an unused slot, `Del_neighbor` first frees one, which it leaves in
`Neighbor_head_trash`. -/
def new_neighbor (t : Transmission) (uid : Uid) : Transmission :=
  match t.trash with
  | some ret => t.occupy ret uid
  | none => (t.Del_neighbor t.oldest).occupy t.oldest uid

def register_neighbor (t : Transmission) (uid : Uid) : Result Transmission := do
  let loc ← t.find_neighbor uid
  match loc with
  | some loc => return { t with neighbor_time := Function.update t.neighbor_time loc 0 }
  | none => return t.new_neighbor uid

/-! ## Routes -/

def find_table_by_name (t : Transmission) (name : List UInt8) : Option Entry :=
  t.active.find? fun e => strncmp_eq (t.uid_table e).name.toList name NAME_SIZE

def find_table_by_uid (t : Transmission) (uid : Uid) : Option Entry :=
  t.active.find? fun e => (t.uid_table e).uid == uid

/-- The loop of `promote_uid_table`: `while( x-- ) Swap(order[x], order[x+1])`. -/
def promote_loop : Nat → List Entry → List Entry
  | 0, order => order
  | x + 1, order => promote_loop x (swapOrder order x (x + 1))

/-- The argument is an entry, so `x` starts as its index in `uid_table`. -/
def promote_uid_table (t : Transmission) (uidt : Entry) : Transmission :=
  t.setOrder (promote_loop uidt.val t.table_order)

/-- The entry `register_uid` overwrites for a new uid: the first one not in
use, or the last one in use when all are. -/
def claimPosition (t : Transmission) : Nat :=
  if t.last_table = UID_TABLE_SIZE then t.last_table - 1 else t.last_table

def register_uid (t : Transmission) (uid : Uid) (link : Option Slot)
    (name : Option (List UInt8)) : Transmission :=
  let named (old : Name) : Name :=
    match name with
    | some text => nameOf text
    | none => old
  match t.find_table_by_uid uid with
  | some e =>
    let entry := { t.uid_table e with link, name := named (t.uid_table e).name }
    { t with uid_table := Function.update t.uid_table e entry }
  | none =>
    match t.table_order[t.claimPosition]? with
    | none => t
    | some e =>
      -- `name[0] = 0` for a new entry without a name; the other bytes stay
      let cleared : Name := (t.uid_table e).name.set 0 0
      { t with
        last_table := t.claimPosition + 1
        uid_table := Function.update t.uid_table e { uid, link, name := named cleared } }

/-- How `send_package_by_table` rewrites the buffer for a route: unwrapped when
the link is the destination itself, wrapped otherwise. -/
def wrapFor (entry : UidTableEntry) (direct : Bool) (capacity : Nat) (b : PackageBuffer)
    (size : Nat) : Result (PackageBuffer × Nat) :=
  if direct then
    if hasFlag b.flags PACKAGE_INTERMEDIATE then
      let n := sub16 size (sizeof_intermediate_head + sizeof_package)
      if n ≠ 0 ∧ capacity < sizeof_intermediate_head + n then .error .out_of_bounds
      else
        .ok ({ b with
          data := copyDown b.data sizeof_intermediate_head n
          flags := b.flags &&& ~~~PACKAGE_INTERMEDIATE }, (n + sizeof_package) % 2 ^ 16)
    else .ok (b, size)
  else if hasFlag b.flags PACKAGE_INTERMEDIATE then .ok (b, size)
  else
    let n := sub16 size sizeof_package
    if capacity < sizeof_intermediate_head + n then .error .out_of_bounds
    else
      .ok ({ b with
        data := store (copyUp sizeof_intermediate_head n b.data) 0 entry.uid.toList
        flags := b.flags ||| PACKAGE_INTERMEDIATE },
        (n + (sizeof_package + sizeof_intermediate_head)) % 2 ^ 16)

/-- `send_package_by_table` on a buffer of the given capacity. The result has
the tables, the rewritten buffer, the new size and what is sent. -/
def send_package_by_table (t : Transmission) (capacity : Nat) (b : PackageBuffer) (size : Nat)
    (uidt : Option Entry) : Result (Transmission × PackageBuffer × Nat × Datagram) :=
  match uidt with
  | none => .error .null_pointer
  | some e =>
    match (t.uid_table e).link with
    | none => .error .out_of_bounds
    | some l => do
      let (b, size) ← wrapFor (t.uid_table e) ((t.uid_table e).uid == t.neighbor l) capacity b size
      let order := if e.val ≠ 0 then swapOrder t.table_order e.val (e.val - 1) else t.table_order
      return (t.setOrder order, b, size,
        { package := b.package size, dest := t.neighbor l })

end Transmission

end concretid.ems
