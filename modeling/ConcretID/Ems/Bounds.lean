import ConcretID.Ems.Writes

open concretid.memory

namespace concretid.ems

/-! ## How far it writes -/

theorem Transmission.unwrap_writes_lt (t : Transmission) {size : Nat} (uidt : Option Entry)
    (hsize : sizeof_intermediate_head + sizeof_package ≤ size) :
    ∀ i ∈ t.unwrap_writes size uidt, i < size := by
  intro i hi
  have hmoved : i ∈ flagsOffset ::
      List.range' sizeof_package (size - (sizeof_intermediate_head + sizeof_package)) := by
    unfold unwrap_writes at hi
    dsimp only at hi
    split at hi
    · cases hi
    · exact hi
  obtain hflags | hdata := List.mem_cons.mp hmoved
  · simp only [sizeof_package, sizeof_intermediate_head, flagsOffset] at *
    omega
  · have hrange := List.mem_range'_1.mp hdata
    simp only [sizeof_package, sizeof_intermediate_head] at *
    omega

namespace Node

theorem intermediate_writes_lt (s : Node) (size : Nat) :
    ∀ i ∈ s.intermediate_writes size, i < size := by
  intro i hi
  unfold intermediate_writes at hi
  split at hi
  · cases hi
  · rename_i hsize
    have hhead : sizeof_intermediate_head + sizeof_package ≤ size := by
      simp only [sizeof_package, sizeof_intermediate_head] at hsize ⊢
      omega
    split at hi
    · cases hi
    · split at hi
      · exact Transmission.unwrap_writes_lt _ _ hhead i hi
      · exact Transmission.unwrap_writes_lt _ _ hhead i hi

/-- Whether a type ends `data` with a NUL at `data[len]`. -/
def Terminates (s : Node) (len : Nat) : Prop :=
  match s.type with
  | .NAME_REQUEST => len ≠ 0
  | .ANNOUNCEMENT => s.ident.isSome ∧ len ≠ 0
  | .COMMAND => True
  | _ => False

/-- A type that ends `data` with a NUL writes nothing behind it, the others
nothing behind the data. -/
theorem type_writes_lt_iff (s : Node) (link : Option Slot) {len bound : Nat}
    (hbound : sizeof_package + s.dataOffset + len ≤ bound) :
    (∀ i ∈ s.type_writes link len, i < bound) ↔
      ¬ (sizeof_package + s.dataOffset + len = bound ∧ s.Terminates len) := by
  unfold type_writes Terminates
  cases s.type with
  | NAME_REQUEST =>
    dsimp only
    by_cases hlen : len = 0
    · simp [hlen]
    · rw [if_neg hlen, List.forall_mem_singleton, and_iff_left hlen]
      omega
  | NEIGHBOR_REQUEST =>
    dsimp only
    rw [and_false, not_false_eq_true, iff_true]
    split
    · rename_i hlen
      rw [List.forall_mem_singleton]
      omega
    · exact List.forall_mem_nil _
  | ANNOUNCEMENT =>
    dsimp only
    by_cases hend : s.ident.isSome = true ∧ len ≠ 0
    · rw [if_pos hend, List.forall_mem_singleton, and_iff_left hend]
      omega
    · rw [if_neg hend]
      exact iff_of_true (List.forall_mem_nil _) fun h => hend h.2
  | COMMAND =>
    dsimp only
    rw [List.forall_mem_cons, and_true]
    constructor
    · intro h
      exact Nat.ne_of_lt h.1
    · intro hne
      have hlt : sizeof_package + s.dataOffset + len < bound := Nat.lt_of_le_of_ne hbound hne
      refine ⟨hlt, fun i hi => ?_⟩
      obtain ⟨w, hw, rfl⟩ := List.mem_map.mp hi
      have hle := execute_writes_le hw
      have htext := (List.takeWhile_sublist (· ≠ 0)
        (l := load s.buffer.data s.dataOffset len)).length_le
      rw [load_length] at htext
      rw [cstring] at hle
      omega
  | _ => simp

end Node

/-- Whether a package of the largest size is ended with a NUL behind the buffer,
by its type and flags and the slot of its sender. -/
def Package.endsBehind (p : Package) (link : Option Slot) : Prop :=
  match p.type with
  | .NAME_REQUEST => link.isSome
  | .ANNOUNCEMENT => link.isSome ∧ p.identified
  | .COMMAND => link.isSome ∨ hasFlag p.flags PACKAGE_ACKLY = false
  | _ => False

namespace Node

/-- A NUL is written behind what is processed of the types that end their data. -/
theorem endsBehind_iff {s : Node} {p : Package} (link : Option Slot) {len : Nat} (hlen : len ≠ 0)
    (hflags : s.buffer.flags = p.flags) :
    p.endsBehind link ↔ (link.isSome = true ∨ p.refused = false) ∧ s.Terminates len := by
  have htype : s.type = p.type := by rw [type, hflags, Package.type]
  have hident : s.ident.isSome = p.identified := by
    rw [ident, flag, hflags, Package.identified]
    split
    · rename_i hset
      rw [hset, Option.isSome_some]
    · rename_i hset
      rw [Bool.eq_false_iff.mpr hset, Option.isSome_none]
  unfold Package.endsBehind Terminates Package.refused
  rw [htype, hident]
  cases p.type with
  | NAME_REQUEST => simp [hlen]
  | ANNOUNCEMENT => simp [hlen]
  | COMMAND => simp
  | _ => simp

/-- `data[len]` is the byte behind the package. -/
theorem dataOffset_add {s : Node} {size : Nat} (hsize : sizeof_package ≤ size)
    (hshort : ¬ (s.flag PACKAGE_IDENTIFIED = true ∧ size - sizeof_package < sizeof_identified_head)) :
    sizeof_package + s.dataOffset + (size - sizeof_package - s.dataOffset) = size := by
  unfold dataOffset
  split
  · rename_i hidentified
    rw [hidentified] at hshort
    simp only [sizeof_package, sizeof_identified_head, true_and] at hsize hshort ⊢
    omega
  · simp only [sizeof_package] at hsize ⊢
    omega

theorem direct_writes_lt_iff (s : Node) {p : Package} {size : Nat} (src : Uid) (e_rid : Nat)
    (link : Option Slot) (hsize : sizeof_package ≤ size) (hfits : size ≤ BUFFER_PROCESS_SIZE)
    (hflags : s.buffer.flags = p.flags) :
    (∀ i ∈ s.direct_writes size src e_rid link, i < BUFFER_PROCESS_SIZE) ↔
      ¬ (size = BUFFER_PROCESS_SIZE ∧ e_rid ≠ 2 ∧ p.endsBehind link) := by
  have hrefused : (s.process_stranger src).2 = !p.refused := by
    rw [process_stranger_goOn s src size]
    unfold Package.refused Package.type
    rw [show (s.buffer.package size).flags = p.flags from hflags]
  unfold direct_writes
  dsimp only
  by_cases hshort : s.flag PACKAGE_IDENTIFIED = true ∧ size - sizeof_package < sizeof_identified_head
  · rw [if_pos hshort]
    refine iff_of_true (List.forall_mem_nil _) fun h => ?_
    simp only [sizeof_package, sizeof_identified_head, BUFFER_PROCESS_SIZE] at hshort h
    omega
  · rw [if_neg hshort]
    by_cases hknown : e_rid = 2
    · rw [if_pos hknown]
      exact iff_of_true (List.forall_mem_nil _) fun h => h.2.1 hknown
    · rw [if_neg hknown]
      have hend := dataOffset_add hsize hshort
      have hwritten := s.type_writes_lt_iff link (hend.trans_le hfits)
      rw [hend] at hwritten
      have hbehind (hlast : size = BUFFER_PROCESS_SIZE) :
          p.endsBehind link ↔ (link.isSome = true ∨ p.refused = false) ∧
            s.Terminates (size - sizeof_package - s.dataOffset) := by
        refine endsBehind_iff link ?_ hflags
        unfold dataOffset
        split
        · simp only [sizeof_package, sizeof_identified_head, BUFFER_PROCESS_SIZE] at hlast ⊢
          omega
        · simp only [sizeof_package, BUFFER_PROCESS_SIZE] at hlast ⊢
          omega
      by_cases hprocessed : link.isSome = true ∨ p.refused = false
      · have hwrites : (if link.isSome = true then
            s.type_writes link (size - sizeof_package - s.dataOffset)
          else if (s.process_stranger src).2 = true then
            s.type_writes link (size - sizeof_package - s.dataOffset) else []) =
            s.type_writes link (size - sizeof_package - s.dataOffset) := by
          obtain hlink | hrefuses := hprocessed
          · rw [if_pos hlink]
          · rw [hrefused, hrefuses, if_pos Bool.not_false, ite_self]
        rw [hwrites, hwritten]
        refine not_congr (and_congr_right fun hlast => ?_)
        rw [hbehind hlast, and_iff_right hprocessed, and_iff_right hknown]
      · rw [if_neg fun hlink => hprocessed (.inl hlink), hrefused,
          if_neg fun hset => hprocessed (.inr (by simpa using hset))]
        apply iff_of_true (List.forall_mem_nil _)
        rintro ⟨hlast, -, hends⟩
        exact hprocessed ((hbehind hlast).mp hends).1

/-- Of the packages that are let through, those of the largest size have the
NUL behind their data written behind the buffer, when they are new, for this node,
of one of the three types that write it and processed that far. Nothing else is
written outside. -/
theorem process_package_writes_lt_iff (s : Node) (package : Package) (size : Nat) (src : Uid) :
    (∀ i ∈ s.process_package_writes package size src, i < BUFFER_PROCESS_SIZE) ↔
      ¬ (size = BUFFER_PROCESS_SIZE ∧ s.is_blocked src = false ∧ s.rids.exists_rid package.rid = 0 ∧
        package.intermediate = false ∧
        ∃ link, s.transmission.find_neighbor src = .ok link ∧ package.endsBehind link) := by
  unfold process_package_writes
  dsimp only
  by_cases hsize : size < sizeof_package
  · rw [if_pos hsize]
    refine iff_of_true (List.forall_mem_nil _) fun h => ?_
    rw [h.1] at hsize
    exact absurd hsize (by decide)
  by_cases hlong : BUFFER_PROCESS_SIZE < size
  · rw [if_neg hsize, if_pos hlong]
    exact iff_of_true (List.forall_mem_nil _) fun h => Nat.ne_of_gt hlong h.1
  rw [if_neg hsize, if_neg hlong]
  cases hblocked : s.is_blocked src with
  | true => exact iff_of_true (List.forall_mem_nil _) fun h => nomatch h.2.1
  | false =>
    rw [if_neg Bool.false_ne_true]
    by_cases hknown : s.rids.exists_rid package.rid = 1
    · rw [if_pos hknown]
      exact iff_of_true (List.forall_mem_nil _) fun h => nomatch hknown.symm.trans h.2.2.1
    rw [if_neg hknown]
    cases hfind : s.transmission.find_neighbor src with
    | error fault =>
      apply iff_of_true (List.forall_mem_nil _)
      rintro ⟨-, -, -, -, link, hlink, -⟩
      cases hlink
    | ok link =>
      have hcopied : ∀ i ∈ List.range size, i < BUFFER_PROCESS_SIZE := fun i hi =>
        Nat.lt_of_lt_of_le (List.mem_range.mp hi) (Nat.not_lt.mp hlong)
      dsimp only
      rw [List.forall_mem_append, and_iff_right hcopied]
      have hflag : (s.receiveInto package size).flag PACKAGE_INTERMEDIATE = package.intermediate := rfl
      rw [hflag]
      cases hintermediate : package.intermediate with
      | true =>
        rw [if_pos rfl]
        refine iff_of_true (fun i hi => ?_) fun h => nomatch h.2.2.2.1
        exact Nat.lt_of_lt_of_le (intermediate_writes_lt _ _ i hi) (Nat.not_lt.mp hlong)
      | false =>
        rw [if_neg Bool.false_ne_true, direct_writes_lt_iff _ src _ link (Nat.not_lt.mp hsize)
          (Nat.not_lt.mp hlong) rfl]
        have hle := s.rids.exists_rid_le package.rid
        refine not_congr (and_congr_right fun _ => ?_)
        constructor
        · rintro ⟨hnew, hends⟩
          exact ⟨rfl, by omega, rfl, link, rfl, hends⟩
        · rintro ⟨-, hnew, -, link', hlink, hends⟩
          obtain rfl := Except.ok.inj hlink
          exact ⟨by omega, hends⟩

/-! ## The writes of the model -/

theorem terminate_inside {s s' : Node} {len : Nat} (h : s.terminate len = .ok s') :
    sizeof_package + s.dataOffset + len < BUFFER_PROCESS_SIZE := by
  rw [terminate_eq] at h
  split at h
  · assumption
  · cases h

/-- In the model a NUL that does not fit stops the processing. -/
theorem process_type_inside {s s' : Node} {size len : Nat} {src : Uid} {link : Option Slot}
    (h : s.process_type size src link len = .ok s') (hend : s.Terminates len) :
    sizeof_package + s.dataOffset + len < BUFFER_PROCESS_SIZE := by
  unfold Terminates at hend
  unfold process_type at h
  cases htype : s.type with
  | NAME_REQUEST =>
    rw [htype] at h hend
    dsimp only at h
    rw [if_neg hend] at h
    obtain ⟨s₁, hterminate, -⟩ := bind_eq_ok_iff.mp h
    rw [← dataOffset_congr (registerSource_buffer s link)]
    exact terminate_inside hterminate
  | ANNOUNCEMENT =>
    rw [htype] at h hend
    obtain ⟨source, hident⟩ := Option.isSome_iff_exists.mp hend.1
    rw [hident] at h
    dsimp only at h
    rw [if_pos hend.2] at h
    obtain ⟨s₁, hterminate, -⟩ := bind_eq_ok_iff.mp h
    exact terminate_inside hterminate
  | COMMAND =>
    rw [htype] at h
    obtain ⟨s₁, hack, hrest⟩ := bind_eq_ok_iff.mp h
    obtain ⟨s₂, hterminate, -⟩ := bind_eq_ok_iff.mp hrest
    rw [← dataOffset_congr (ackIfAckly_buffer hack)]
    exact terminate_inside hterminate
  | _ =>
    rw [htype] at hend
    exact hend.elim

/-- A step that changes what is listed and lists nothing outside of the buffer. -/
structure Writes (s s' : Node) (writes : List Nat) : Prop where
  changes : s.buffer.Changes s'.buffer writes
  inside : ∀ i ∈ writes, i < BUFFER_PROCESS_SIZE

theorem Writes.nothing {s s' : Node} (h : s'.buffer = s.buffer) : Writes s s' [] :=
  ⟨.of_eq h _, List.forall_mem_nil _⟩

theorem Writes.process_type {s s₁ s' : Node} {size len : Nat} {src : Uid} {link : Option Slot}
    (hbuffer : s₁.buffer = s.buffer)
    (hbound : sizeof_package + s.dataOffset + len ≤ BUFFER_PROCESS_SIZE)
    (h : s₁.process_type size src link len = .ok s') : Writes s s' (s.type_writes link len) := by
  rw [← dataOffset_congr hbuffer] at hbound
  have hchanges := process_type_changes h
  have hinside := (s₁.type_writes_lt_iff link hbound).mpr fun hend =>
    Nat.ne_of_lt (process_type_inside h hend.2) hend.1
  rw [type_writes_congr hbuffer] at hchanges hinside
  rw [hbuffer] at hchanges
  exact ⟨hchanges, hinside⟩

theorem Writes.process_direct {s s' : Node} {size e_rid : Nat} {src : Uid} {link : Option Slot}
    (hsize : sizeof_package ≤ size) (hfits : size ≤ BUFFER_PROCESS_SIZE)
    (h : s.process_direct size src e_rid link = .ok s') :
    Writes s s' (s.direct_writes size src e_rid link) := by
  unfold Node.process_direct at h
  unfold direct_writes
  dsimp only at h ⊢
  split at h
  · rename_i hshort
    rw [if_pos hshort, Except.ok.inj h]
    exact .nothing rfl
  rename_i hshort
  have hbound := (dataOffset_add hsize hshort).trans_le hfits
  rw [if_neg hshort]
  split at h
  · rename_i hknown
    rw [if_pos hknown]
    exact .nothing ((ackIfAckly_buffer h).trans (register_rid_buffer s _))
  rename_i hnew
  rw [if_neg hnew]
  split at h
  · rename_i hlink
    rw [if_pos hlink]
    exact .process_type (register_rid_buffer s _) hbound h
  rename_i hlink
  rw [if_neg hlink]
  split at h
  · rename_i hgoOn
    rw [if_pos hgoOn]
    exact .process_type (process_stranger_buffer s src) hbound h
  · rename_i hgoOn
    rw [if_neg hgoOn, ← Except.ok.inj h]
    exact .nothing (process_stranger_buffer s src)

/-- Where `process_package` returns in the model, it has changed no byte of its
buffer but those that it is listed to write, and written nothing outside. -/
theorem Writes.process_package {s s' : Node} {package : Package} {size : Nat} {src : Uid}
    (h : s.process_package package size src = .ok s') :
    Writes s s' (s.process_package_writes package size src) := by
  unfold Node.process_package at h
  unfold process_package_writes
  dsimp only at h ⊢
  split at h
  · rename_i hsize
    rw [if_pos hsize, ← Except.ok.inj h]
    exact .nothing rfl
  rename_i hsize
  rw [if_neg hsize]
  split at h
  · rename_i hlong
    rw [if_pos hlong, ← Except.ok.inj h]
    exact .nothing rfl
  rename_i hlong
  rw [if_neg hlong]
  split at h
  · rename_i hblocked
    rw [if_pos (show s.is_blocked src = true from hblocked), ← Except.ok.inj h]
    exact .nothing rfl
  rename_i hblocked
  rw [if_neg (show ¬ s.is_blocked src = true from hblocked)]
  split at h
  · rename_i hknown
    rw [if_pos (show s.rids.exists_rid package.rid = 1 from hknown), ← Except.ok.inj h]
    exact .nothing rfl
  rename_i hknown
  obtain ⟨link, hfind, hrest⟩ := bind_eq_ok_iff.mp h
  rw [if_neg (show ¬ s.rids.exists_rid package.rid = 1 from hknown),
    show s.transmission.find_neighbor src = .ok link from hfind]
  have hmin := Nat.not_lt.mp hsize
  have hmax := Nat.not_lt.mp hlong
  have hcopied := s.receiveInto_changes package hmin
  have hsame : ((s.emit (.process_package package src)).receiveInto package size).buffer =
    (s.receiveInto package size).buffer := rfl
  have hflags : (s.receiveInto package size).flag PACKAGE_INTERMEDIATE =
    ((s.emit (.process_package package src)).receiveInto package size).flag PACKAGE_INTERMEDIATE := rfl
  dsimp only
  rw [hflags]
  split at hrest
  · rename_i hintermediate
    have hchanges := process_intermediate_changes hintermediate hmax hrest
    rw [if_pos hintermediate]
    refine ⟨hcopied.trans hchanges, List.forall_mem_append.mpr ⟨fun i hi => ?_, fun i hi => ?_⟩⟩
    · exact Nat.lt_of_lt_of_le (List.mem_range.mp hi) hmax
    · exact Nat.lt_of_lt_of_le (intermediate_writes_lt _ _ i hi) hmax
  · rename_i hdirect
    have hwrites := Writes.process_direct hmin hmax hrest
    rw [direct_writes_congr hsame] at hwrites
    rw [if_neg hdirect]
    refine ⟨hcopied.trans hwrites.changes, List.forall_mem_append.mpr ⟨fun i hi => ?_, hwrites.inside⟩⟩
    exact Nat.lt_of_lt_of_le (List.mem_range.mp hi) hmax

/-- What `process_package` writes stays in its buffer, but for the NUL behind a
package of the largest size; and the list of what it writes is that of the code. -/
theorem process_package_bounds (s : Node) (package : Package) (size : Nat) (src : Uid) :
    ((∀ i ∈ s.process_package_writes package size src, i < BUFFER_PROCESS_SIZE) ↔
      ¬ (size = BUFFER_PROCESS_SIZE ∧ s.is_blocked src = false ∧ s.rids.exists_rid package.rid = 0 ∧
        package.intermediate = false ∧
        ∃ link, s.transmission.find_neighbor src = .ok link ∧ package.endsBehind link)) ∧
      ∀ s', s.process_package package size src = .ok s' →
        Writes s s' (s.process_package_writes package size src) :=
  ⟨s.process_package_writes_lt_iff package size src, fun _ => .process_package⟩

/-- A command of 140 bytes to a node that has just started, from any node: its NUL
goes to `buffer[140]`. -/
theorem long_command_behind :
    let s := boot (linkLocal 0 1) (init_settings (nameOf [])) fun _ => 0
    let command : Package :=
      { rid := 256
        flags := PackageType.COMMAND.code
        data := List.replicate 135 0 }
    command.size = BUFFER_PROCESS_SIZE ∧
      BUFFER_PROCESS_SIZE ∈ s.process_package_writes command command.size (linkLocal 0 2) := by
  decide +kernel

end Node

end concretid.ems
