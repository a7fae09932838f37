import ConcretID.Ems.Handling
import ConcretID.Ems.InPlace

open concretid.memory

namespace concretid.ems

/-! ## Where `process_package` writes

The control flow of `process_package` once more, with the indices of its static
`buffer` that it writes through `package`, `ident` and `data`. -/

/-- `flags` in a `package_t`. -/
abbrev flagsOffset : Nat := 4

/-- What `send_package_by_table` writes to a package with an intermediate head:
it takes the head away when the link of the entry is its uid. A null entry and
one without a link are compared with what lies elsewhere in memory, so that they
may have it write too. -/
def Transmission.unwrap_writes (t : Transmission) (size : Nat) (uidt : Option Entry) : List Nat :=
  let moved := List.range' sizeof_package (size - (sizeof_intermediate_head + sizeof_package))
  match uidt.bind fun e => (t.uid_table e).link.map fun l => (t.uid_table e).uid == t.neighbor l with
  | some false => []
  | _ => flagsOffset :: moved

namespace Node

def intermediate_writes (s : Node) (size : Nat) : List Nat :=
  if size < sizeof_package + sizeof_intermediate_head then []
  else
    match s.transmission.find_table_by_uid (uidAt s.buffer.data 0) with
    | none => []
    | some uidt =>
      if s.type = .ANNOUNCEMENT ∧ s.flag PACKAGE_IDENTIFIED then
        let t := s.transmission.promote_uid_table uidt
        t.unwrap_writes size (t.find_table_by_uid (uidAt s.buffer.data sizeof_intermediate_head))
      else s.transmission.unwrap_writes size (some uidt)

def type_writes (s : Node) (src_as_neighbor : Option Slot) (len : Nat) : List Nat :=
  let data := sizeof_package + s.dataOffset
  match s.type with
  | .NAME_REQUEST => if len = 0 then [] else [data + len]
  | .NEIGHBOR_REQUEST => if len = 1 ∧ src_as_neighbor.isSome then [data] else []
  | .ANNOUNCEMENT => if s.ident.isSome ∧ len ≠ 0 then [data + len] else []
  | .COMMAND =>
    (data + len) ::
      (execute_writes (cstring (load s.buffer.data s.dataOffset len))).map fun w => data + w.1
  | _ => []

def direct_writes (s : Node) (size : Nat) (src : Uid) (e_rid : Nat)
    (src_as_neighbor : Option Slot) : List Nat :=
  let len := size - sizeof_package
  if s.flag PACKAGE_IDENTIFIED ∧ len < sizeof_identified_head then []
  else
    let len := len - s.dataOffset
    if e_rid = 2 then []
    else if src_as_neighbor.isSome then s.type_writes src_as_neighbor len
    else if (s.process_stranger src).2 then s.type_writes src_as_neighbor len
    else []

def process_package_writes (s : Node) (package : Package) (size : Nat) (src : Uid) : List Nat :=
  if size < sizeof_package then []
  else if BUFFER_PROCESS_SIZE < size then []
  else if s.is_blocked src then []
  else
    let e_rid := s.rids.exists_rid package.rid
    if e_rid = 1 then []
    else
      match s.transmission.find_neighbor src with
      | .error _ => []
      | .ok src_as_neighbor =>
        let s := s.receiveInto package size
        List.range size ++
          if s.flag PACKAGE_INTERMEDIATE then s.intermediate_writes size
          else s.direct_writes size src e_rid src_as_neighbor

end Node

/-! ## What is written is on the list -/

/-- The byte at an index of a buffer. -/
def PackageBuffer.byte (b : PackageBuffer) (i : Nat) : UInt8 :=
  if i < RID_SIZE then (ridBytes b.rid).getD i 0
  else if i = flagsOffset then b.flags
  else b.data (i - sizeof_package)

/-- Every byte that differs is on the list. -/
def PackageBuffer.Changes (b b' : PackageBuffer) (writes : List Nat) : Prop :=
  ∀ i, i ∉ writes → b'.byte i = b.byte i

theorem PackageBuffer.Changes.of_eq {b b' : PackageBuffer} (h : b' = b) (writes : List Nat) :
    b.Changes b' writes := by
  intro i _
  rw [h]

theorem PackageBuffer.Changes.mono {b b' : PackageBuffer} {writes more : List Nat}
    (h : b.Changes b' writes) (hsub : writes ⊆ more) : b.Changes b' more :=
  fun i hi => h i fun hmem => hi (hsub hmem)

theorem PackageBuffer.Changes.trans {b b' b'' : PackageBuffer} {writes later : List Nat}
    (h : b.Changes b' writes) (h' : b'.Changes b'' later) : b.Changes b'' (writes ++ later) := by
  intro i hi
  rw [List.mem_append, not_or] at hi
  rw [h' i hi.2, h i hi.1]

/-- A change of the bytes behind the package head, and of no others. -/
theorem PackageBuffer.Changes.of_data {b : PackageBuffer} {data : Nat → UInt8} {writes : List Nat}
    (h : ∀ i, sizeof_package + i ∉ writes → data i = b.data i) :
    b.Changes { b with data } writes := by
  intro i hi
  rw [byte, byte]
  split
  · rfl
  · split
    · rfl
    · apply h _
      have hindex : sizeof_package + (i - sizeof_package) = i := by
        simp only [sizeof_package, flagsOffset, RID_SIZE] at *
        omega
      rw [hindex]
      exact hi

theorem PackageBuffer.Changes.of_flags {b b' : PackageBuffer} {writes : List Nat}
    (h : b.Changes b' writes) (flags : UInt8) :
    b.Changes { b' with flags } (flagsOffset :: writes) := by
  intro i hi
  rw [List.mem_cons, not_or] at hi
  rw [← h i hi.2, byte, byte, if_neg hi.1, if_neg hi.1]

/-- The package is copied to the first `size` bytes. -/
theorem Node.receiveInto_changes (s : Node) (package : Package) {size : Nat}
    (hsize : sizeof_package ≤ size) :
    s.buffer.Changes (s.receiveInto package size).buffer (List.range size) := by
  intro i hi
  rw [List.mem_range, Nat.not_lt] at hi
  have hhead : ¬ i < RID_SIZE ∧ i ≠ flagsOffset := by
    simp only [sizeof_package, flagsOffset, RID_SIZE] at *
    omega
  rw [PackageBuffer.byte, PackageBuffer.byte, if_neg hhead.1, if_neg hhead.2, if_neg hhead.1,
    if_neg hhead.2]
  exact if_neg (by omega)

theorem Node.writeData_changes (s : Node) (offset : Nat) (x : UInt8) :
    s.buffer.Changes (s.writeData .process offset [x]).buffer [sizeof_package + offset] := by
  refine .of_data fun i hi => ?_
  have hne : i ≠ offset := fun h => hi (by rw [h]; exact List.mem_singleton_self _)
  obtain hlt | hgt := Nat.lt_or_gt_of_ne hne
  · exact store_of_lt _ _ hlt
  · exact store_of_ge _ _ hgt

/-- A package is passed on under a new head or under none. -/
theorem Node.send_package_by_table_changes {s s' : Node} {size size' : Nat} {uidt : Option Entry}
    (hflag : s.flag PACKAGE_INTERMEDIATE = true)
    (hsize : sizeof_intermediate_head + sizeof_package ≤ size) (hfits : size ≤ BUFFER_PROCESS_SIZE)
    (h : s.send_package_by_table .process size uidt = .ok (s', size')) :
    s.buffer.Changes s'.buffer (s.transmission.unwrap_writes size uidt) := by
  obtain ⟨e, l, value, order, rfl, hlink, hwrap, rfl⟩ := send_package_by_table_cases h
  change s.buffer.Changes value _
  change hasFlag s.buffer.flags PACKAGE_INTERMEDIATE = true at hflag
  have hlength : sub16 size (sizeof_intermediate_head + sizeof_package) =
      size - (sizeof_intermediate_head + sizeof_package) := by
    apply sub16_of_le hsize
    simp only [BUFFER_PROCESS_SIZE] at hfits
    omega
  rw [Transmission.wrapFor, hlength] at hwrap
  cases hdirect : (s.transmission.uid_table e).uid == s.transmission.neighbor l with
  | true =>
    rw [hdirect, if_pos rfl] at hwrap
    rw [if_pos (show hasFlag (s.packageBuffer .process).flags PACKAGE_INTERMEDIATE = true from hflag)]
      at hwrap
    dsimp only at hwrap
    split at hwrap
    · cases hwrap
    · simp only [Except.ok.injEq, Prod.mk.injEq] at hwrap
      obtain ⟨rfl, -⟩ := hwrap
      have hwrites : s.transmission.unwrap_writes size (some e) =
          flagsOffset :: List.range' sizeof_package
            (size - (sizeof_intermediate_head + sizeof_package)) := by
        simp only [Transmission.unwrap_writes, Option.bind_some, hlink, Option.map_some, hdirect]
      rw [hwrites]
      have hmoved : s.buffer.Changes
          { s.buffer with
            data := copyDown s.buffer.data sizeof_intermediate_head
              (size - (sizeof_intermediate_head + sizeof_package)) }
          (List.range' sizeof_package (size - (sizeof_intermediate_head + sizeof_package))) := by
        refine .of_data ?_
        intro i hi
        rw [copyDown_apply, if_neg]
        intro hlt
        exact hi (List.mem_range'_1.mpr ⟨Nat.le_add_right _ _, Nat.add_lt_add_left hlt _⟩)
      exact hmoved.of_flags _
  | false =>
    rw [hdirect, if_neg (by decide)] at hwrap
    rw [if_pos (show hasFlag (s.packageBuffer .process).flags PACKAGE_INTERMEDIATE = true from hflag)]
      at hwrap
    simp only [Except.ok.injEq, Prod.mk.injEq] at hwrap
    exact .of_eq hwrap.1.symm _

theorem Node.process_intermediate_changes {s s' : Node} {size : Nat}
    (hflag : s.flag PACKAGE_INTERMEDIATE = true) (hfits : size ≤ BUFFER_PROCESS_SIZE)
    (h : s.process_intermediate size = .ok s') :
    s.buffer.Changes s'.buffer (s.intermediate_writes size) := by
  unfold Node.process_intermediate at h
  unfold Node.intermediate_writes
  split at h
  · obtain rfl := Except.ok.inj h
    exact .of_eq rfl _
  · rename_i hsize
    rw [if_neg hsize]
    have hhead : sizeof_intermediate_head + sizeof_package ≤ size := by
      simp only [sizeof_package, sizeof_intermediate_head] at hsize ⊢
      omega
    dsimp only [register_rid_transmission, register_rid_buffer] at h
    cases huidt : s.transmission.find_table_by_uid (uidAt s.buffer.data 0) with
    | none =>
      rw [huidt] at h
      obtain rfl := Except.ok.inj h
      exact .of_eq rfl _
    | some uidt =>
      rw [huidt] at h
      dsimp only at h ⊢
      by_cases hkind : s.type = .ANNOUNCEMENT ∧ s.flag PACKAGE_IDENTIFIED = true
      · rw [if_pos hkind]
        rw [if_pos (show (s.register_rid s.buffer.rid).type = _ ∧
          (s.register_rid s.buffer.rid).flag PACKAGE_IDENTIFIED = true from hkind)] at h
        obtain ⟨s₁, hpromote, hrest⟩ := bind_eq_ok_iff.mp h
        obtain rfl := Except.ok.inj hpromote
        simp only [setTransmission_transmission, setTransmission_buffer, register_rid_transmission,
          register_rid_buffer] at hrest
        cases hsource : (s.transmission.promote_uid_table uidt).find_table_by_uid
            (uidAt s.buffer.data sizeof_intermediate_head) with
        | none =>
          rw [hsource] at hrest
          obtain ⟨s₂, hkept, hlast⟩ := bind_eq_ok_iff.mp hrest
          obtain rfl := Except.ok.inj hkept
          obtain ⟨⟨s₃, size'⟩, hsend, -⟩ := bind_eq_ok_iff.mp hlast
          obtain ⟨e, -, -, -, hnone, -⟩ := send_package_by_table_cases hsend
          cases hnone
        | some source =>
          rw [hsource] at hrest
          obtain ⟨s₂, hpromoted, hlast⟩ := bind_eq_ok_iff.mp hrest
          obtain rfl := Except.ok.inj hpromoted
          obtain ⟨⟨s₃, size'⟩, hsend, hdone⟩ := bind_eq_ok_iff.mp hlast
          obtain rfl := Except.ok.inj hdone
          have hchanges := Node.send_package_by_table_changes (by exact hflag) hhead hfits hsend
          exact hchanges
      · rw [if_neg hkind]
        rw [if_neg (show ¬ ((s.register_rid s.buffer.rid).type = _ ∧
          (s.register_rid s.buffer.rid).flag PACKAGE_IDENTIFIED = true) from hkind)] at h
        obtain ⟨⟨s₁, size'⟩, hsend, hdone⟩ := bind_eq_ok_iff.mp h
        obtain rfl := Except.ok.inj hdone
        exact Node.send_package_by_table_changes (s := s.register_rid s.buffer.rid) hflag hhead hfits
          hsend

namespace Node

/-- The context that allows everything a node does on its own account. -/
def anything (s : Node) : Context := s.context (fun _ => True) fun _ => True

theorem ackIfAckly_buffer {s s' : Node} (h : s.ackIfAckly = .ok s') : s'.buffer = s.buffer :=
  (Replies.ackIfAckly (s.context_fits _ _) (c := s.anything) trivial h).buffer_eq

theorem announce_me_to_buffer {s s' : Node} {uid : Uid} (h : s.announce_me_to uid = .ok s') :
    s'.buffer = s.buffer :=
  (Replies.announce_me_to (s.context_fits _ _) (c := s.anything) h).buffer_eq

theorem promote_uid_table_buffer {s s' : Node} {uidt : Option Entry}
    (h : s.promote_uid_table uidt = .ok s') : s'.buffer = s.buffer :=
  (Quiet.promote_uid_table h).buffer_eq

theorem registerSource_buffer (s : Node) (src_as_neighbor : Option Slot) :
    (s.registerSource src_as_neighbor).buffer = s.buffer := by
  rw [registerSource]
  split <;> rfl

theorem acknowledge_buffer (s : Node) (rid : Rid) : (s.acknowledge rid).1.buffer = s.buffer := by
  rw [acknowledge]
  split <;> rfl

theorem answerRequest_buffer {s s' : Node} {size : Nat} {forMe : Bool}
    (h : s.answerRequest size forMe = .ok s') : s'.buffer = s.buffer := by
  rw [answerRequest] at h
  split at h
  · split at h
    · obtain ⟨s₁, hpromote, hannounce⟩ := bind_eq_ok_iff.mp h
      rw [announce_me_to_buffer hannounce, promote_uid_table_buffer hpromote]
    · rw [Except.ok.inj h]
  · rw [← Except.ok.inj h]
    rfl

/-- The two outcomes of `data[len] = 0`. -/
theorem terminate_eq (s : Node) (len : Nat) :
    s.terminate len =
      if sizeof_package + s.dataOffset + len < BUFFER_PROCESS_SIZE then
        .ok (s.writeData .process (s.dataOffset + len) [0])
      else .error .out_of_bounds := by
  rw [terminate]
  refine if_congr ?_ rfl rfl
  simp only [Buffer.capacity, sizeof_package, BUFFER_PROCESS_SIZE]
  omega

theorem terminate_changes {s s' : Node} {len : Nat} (h : s.terminate len = .ok s') :
    s.buffer.Changes s'.buffer [sizeof_package + s.dataOffset + len] := by
  rw [terminate_eq] at h
  split at h
  · obtain rfl := Except.ok.inj h
    rw [Nat.add_assoc]
    exact s.writeData_changes _ _
  · cases h

theorem execute_cmd_buffer {s s' : Node} {cmd : List UInt8} (h : s.execute_cmd cmd = .ok s') :
    s'.buffer = s.buffer :=
  (Replies.execute_cmd (s.context_fits _ _) (c := s.anything) h).buffer_eq

/-- Most types leave the receive buffer as it is. -/
theorem process_type_buffer {s s' : Node} {size len : Nat} {src : Uid} {link : Option Slot}
    (h : s.process_type size src link len = .ok s') (hname : s.type ≠ .NAME_REQUEST)
    (hneighbor : s.type ≠ .NEIGHBOR_REQUEST) (hannouncement : s.type ≠ .ANNOUNCEMENT)
    (hcommand : s.type ≠ .COMMAND) : s'.buffer = s.buffer := by
  unfold process_type at h
  cases htype : s.type with
  | NAME_REQUEST => exact absurd htype hname
  | NEIGHBOR_REQUEST => exact absurd htype hneighbor
  | ANNOUNCEMENT => exact absurd htype hannouncement
  | COMMAND => exact absurd htype hcommand
  | SEQUENCE | BASE64 =>
    rw [htype] at h
    exact ackIfAckly_buffer h
  | MSG =>
    rw [htype] at h
    obtain ⟨s₁, hack, hdone⟩ := bind_eq_ok_iff.mp h
    obtain rfl := Except.ok.inj hdone
    exact (ackIfAckly_buffer hack : s₁.buffer = s.buffer)
  | MSG_TO =>
    rw [htype] at h
    dsimp only at h
    split at h
    · rw [Except.ok.inj h]
    · split at h
      · obtain ⟨s₁, hack, hdone⟩ := bind_eq_ok_iff.mp h
        obtain rfl := Except.ok.inj hdone
        exact (ackIfAckly_buffer hack : s₁.buffer = s.buffer)
      · rw [← Except.ok.inj h]
        rfl
  | UID_REQUEST =>
    rw [htype] at h
    dsimp only at h
    split at h
    · rw [Except.ok.inj h]
    · rw [answerRequest_buffer h, registerSource_buffer]
  | ECHO =>
    rw [htype] at h
    obtain ⟨s₁, hregister, hdone⟩ := bind_eq_ok_iff.mp h
    rw [← Except.ok.inj hdone]
    exact (Quiet.register_neighbor hregister).buffer_eq
  | REECHO =>
    rw [htype] at h
    exact (Quiet.register_neighbor h).buffer_eq
  | ACK =>
    rw [htype] at h
    dsimp only at h
    split at h
    · rw [Except.ok.inj h]
    · rw [← Except.ok.inj h]
      exact acknowledge_buffer s _
  | BROADCAST_ACK =>
    rw [htype] at h
    dsimp only at h
    split at h
    · rw [Except.ok.inj h]
    · split at h
      · rw [← Except.ok.inj h]
        exact acknowledge_buffer s _
      · rw [← Except.ok.inj h]
        exact acknowledge_buffer s _
  | BROADCAST_MSG | NACK | FIRST =>
    rw [htype] at h
    obtain rfl := Except.ok.inj h
    rfl

theorem dataOffset_congr {s s' : Node} (h : s'.buffer = s.buffer) :
    s'.dataOffset = s.dataOffset := by
  rw [dataOffset, dataOffset, flag, flag, h]

theorem terminate_changes_of_eq {s s₁ s' : Node} {len : Nat} (hbuffer : s₁.buffer = s.buffer)
    (h : s₁.terminate len = .ok s') :
    s.buffer.Changes s'.buffer [sizeof_package + s.dataOffset + len] := by
  have hchanges := terminate_changes h
  rw [hbuffer, dataOffset_congr hbuffer] at hchanges
  exact hchanges

/-- A type changes the bytes of the receive buffer that it is listed to write. -/
theorem process_type_changes {s s' : Node} {size len : Nat} {src : Uid} {link : Option Slot}
    (h : s.process_type size src link len = .ok s') :
    s.buffer.Changes s'.buffer (s.type_writes link len) := by
  cases htype : s.type with
  | NAME_REQUEST =>
    unfold process_type at h
    rw [htype] at h
    dsimp only at h
    rw [type_writes, htype]
    dsimp only
    split at h
    · rw [Except.ok.inj h]
      exact .of_eq rfl _
    · rename_i hlen
      rw [if_neg hlen]
      obtain ⟨s₁, hterminate, hanswer⟩ := bind_eq_ok_iff.mp h
      rw [answerRequest_buffer hanswer]
      exact terminate_changes_of_eq (registerSource_buffer s link) hterminate
  | NEIGHBOR_REQUEST =>
    unfold process_type at h
    rw [htype] at h
    dsimp only at h
    rw [type_writes, htype]
    dsimp only
    by_cases hlen : len = 1
    · rw [if_pos hlen] at h
      by_cases hlink : link.isSome = true
      · rw [if_pos hlink] at h
        rw [if_pos ⟨hlen, hlink⟩]
        have hcounted : s'.buffer =
            (s.writeData .process s.dataOffset [s.buffer.data s.dataOffset - 1]).buffer := by
          split at h
          · rw [announce_me_to_buffer h]
            split <;> rfl
          · rw [← Except.ok.inj h]
            split <;> rfl
        rw [hcounted]
        exact s.writeData_changes _ _
      · rw [if_neg hlink] at h
        rw [← Except.ok.inj h]
        exact .of_eq (Replies.send_neighboor_request_to s.anything s src).buffer_eq _
    · rw [if_neg hlen] at h
      split at h
      · rw [← Except.ok.inj h]
        exact .of_eq (Replies.send_echo_to (c := s.anything) trivial s).buffer_eq _
      · rw [Except.ok.inj h]
        exact .of_eq rfl _
  | ANNOUNCEMENT =>
    unfold process_type at h
    rw [htype] at h
    dsimp only at h
    rw [type_writes, htype]
    dsimp only
    cases hident : s.ident with
    | none =>
      rw [hident] at h
      obtain rfl := Except.ok.inj h
      exact .of_eq rfl _
    | some source =>
      rw [hident] at h
      dsimp only at h
      split at h
      · rename_i hlen
        rw [if_pos ⟨rfl, hlen⟩]
        obtain ⟨s₁, hterminate, hpromote⟩ := bind_eq_ok_iff.mp h
        rw [promote_uid_table_buffer hpromote]
        exact (terminate_changes hterminate : s.buffer.Changes s₁.buffer _)
      · exact .of_eq (promote_uid_table_buffer h) _
  | COMMAND =>
    unfold process_type at h
    rw [htype] at h
    obtain ⟨s₁, hack, hrest⟩ := bind_eq_ok_iff.mp h
    obtain ⟨s₂, hterminate, hexecute⟩ := bind_eq_ok_iff.mp hrest
    rw [execute_cmd_buffer hexecute, type_writes, htype]
    exact (terminate_changes_of_eq (ackIfAckly_buffer hack) hterminate).mono
      (List.cons_subset_cons _ (List.nil_subset _))
  | _ =>
    exact .of_eq (process_type_buffer h (by rw [htype]; decide) (by rw [htype]; decide)
      (by rw [htype]; decide) (by rw [htype]; decide)) _

theorem process_stranger_buffer (s : Node) (src : Uid) :
    (s.process_stranger src).1.buffer = s.buffer := by
  have hrequest := (Replies.send_neighboor_request_to s.anything s src).buffer_eq
  unfold process_stranger
  cases s.type with
  | MSG_TO | BROADCAST_MSG | NEIGHBOR_REQUEST | ECHO | REECHO | BROADCAST_ACK => rfl
  | NAME_REQUEST | UID_REQUEST | ANNOUNCEMENT => exact hrequest
  | SEQUENCE | FIRST | MSG | ACK | NACK | COMMAND | BASE64 =>
    dsimp only
    split
    · exact hrequest
    · exact hrequest

theorem type_writes_congr {s s' : Node} (h : s'.buffer = s.buffer) (link : Option Slot) (len : Nat) :
    s'.type_writes link len = s.type_writes link len := by
  have hident : s'.ident = s.ident := by rw [ident, ident, flag, flag, h]
  rw [type_writes, type_writes, type, type, dataOffset_congr h, hident, h]

/-- Only the flags decide whether a package from a stranger is processed. -/
theorem process_stranger_goOn (s : Node) (src : Uid) (size : Nat) :
    (s.process_stranger src).2 = !(s.buffer.package size).refused := by
  have htype : (s.buffer.package size).type = s.type := rfl
  have hackly : s.flag PACKAGE_ACKLY = hasFlag (s.buffer.package size).flags PACKAGE_ACKLY := rfl
  unfold process_stranger Package.refused
  rw [htype, ← hackly]
  cases s.type with
  | MSG_TO | BROADCAST_MSG | NEIGHBOR_REQUEST | ECHO | REECHO | BROADCAST_ACK => rfl
  | NAME_REQUEST | UID_REQUEST | ANNOUNCEMENT => rfl
  | SEQUENCE | FIRST | MSG | ACK | NACK | COMMAND | BASE64 =>
    dsimp only
    split
    · rename_i hset
      rw [show s.flag PACKAGE_ACKLY = true from hset]
      rfl
    · rename_i hset
      rw [show s.flag PACKAGE_ACKLY = false from Bool.eq_false_iff.mpr hset]
      rfl

theorem direct_writes_congr {s s' : Node} (h : s'.buffer = s.buffer) (size : Nat) (src : Uid)
    (e_rid : Nat) (link : Option Slot) :
    s'.direct_writes size src e_rid link = s.direct_writes size src e_rid link := by
  unfold direct_writes
  dsimp only
  rw [process_stranger_goOn s' src size, process_stranger_goOn s src size, type_writes_congr h,
    dataOffset_congr h, flag, flag, h]

end Node

end concretid.ems
