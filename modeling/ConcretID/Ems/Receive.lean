import ConcretID.Ems.Content
import ConcretID.Ems.Process

open concretid.memory

namespace concretid.ems

/-- What a call hands to the radio. -/
def Event.sent? : Event → Option Datagram
  | .send_package _ package dest => some { package, dest }
  | _ => none

namespace Node

/-- Everything sent between two states of a node. -/
def transmitted (before after : Node) : List Datagram :=
  (after.trace.drop before.trace.length).filterMap Event.sent?

/-- What `process_package` returns from at once. -/
def Rejects (s : Node) (package : Package) (size : Nat) (src : Uid) : Prop :=
  size < sizeof_package ∨ BUFFER_PROCESS_SIZE < size ∨ s.is_blocked src = true ∨
    s.rids.exists_rid package.rid = 1

/-- The node with a package in its receive buffer. -/
def accept (s : Node) (package : Package) (size : Nat) (src : Uid) : Node :=
  (s.emit (.process_package package src)).receiveInto package size

@[simp] theorem accept_rids (s : Node) (package : Package) (size : Nat) (src : Uid) :
    (s.accept package size src).rids = s.rids := rfl

@[simp] theorem accept_transmission (s : Node) (package : Package) (size : Nat) (src : Uid) :
    (s.accept package size src).transmission = s.transmission := rfl

@[simp] theorem accept_trace (s : Node) (package : Package) (size : Nat) (src : Uid) :
    (s.accept package size src).trace = s.trace ++ [.process_package package src] := rfl

@[simp] theorem accept_rid (s : Node) (package : Package) (size : Nat) (src : Uid) :
    (s.accept package size src).buffer.rid = package.rid := rfl

@[simp] theorem accept_flags (s : Node) (package : Package) (size : Nat) (src : Uid) :
    (s.accept package size src).buffer.flags = package.flags := rfl

/-- A received package lies in the buffer as it was sent. -/
@[simp] theorem accept_package (s : Node) (package : Package) (src : Uid) :
    (s.accept package package.size src).buffer.package package.size = package := by
  have hsize : package.size - sizeof_package = package.data.length := by simp [Package.size]
  have hdata : load (s.accept package package.size src).buffer.data 0 package.data.length =
      package.data := by
    apply List.ext_getElem?
    intro i
    rw [load_getElem?]
    split
    · rename_i hi
      simp [accept, receiveInto, hsize, hi]
    · rename_i hi
      exact (List.getElem?_eq_none (by omega)).symm
  simp [PackageBuffer.package, hsize, hdata]

/-- The first bytes of a received package that are read as a uid. -/
theorem accept_head (s : Node) {package : Package} (src : Uid)
    (hsize : sizeof_package + sizeof_intermediate_head ≤ package.size) :
    uidAt (s.accept package package.size src).buffer.data 0 = package.head := by
  rw [← PackageBuffer.head_eq hsize, accept_package]

theorem process_package_rejected {s : Node} {package : Package} {size : Nat} {src : Uid}
    (h : s.Rejects package size src) :
    s.process_package package size src = .ok (s.emit (.process_package package src)) := by
  unfold process_package
  obtain hshort | hlong | hblocked | hseen := h
  · rw [if_pos hshort]
  · rw [if_neg (by simp only [BUFFER_PROCESS_SIZE, sizeof_package] at *; omega), if_pos hlong]
  · split
    · rfl
    · split
      · rfl
      · rw [if_pos (by simpa [emit, is_blocked] using hblocked)]
  · split
    · rfl
    · split
      · rfl
      · dsimp only
        split
        · rfl
        · rw [if_pos (by simpa [emit] using hseen)]

/-- What is not rejected is looked up and copied before anything else. -/
theorem process_package_accepted {s : Node} {package : Package} {size : Nat} {src : Uid}
    (h : ¬ s.Rejects package size src) :
    s.process_package package size src = s.transmission.find_neighbor src >>= fun loc =>
      if package.intermediate = true then (s.accept package size src).process_intermediate size
      else (s.accept package size src).process_direct size src
        (s.rids.exists_rid package.rid) loc := by
  unfold Rejects at h
  rw [not_or, not_or, not_or] at h
  obtain ⟨hshort, hlong, hblocked, hseen⟩ := h
  unfold process_package
  rw [if_neg hshort, if_neg hlong, if_neg (by simpa [emit, is_blocked] using hblocked),
    if_neg (by simpa [emit] using hseen)]
  rfl

/-- A call of `process_package` that returns rejected the package or knew
whether its sender is a neighbour and took one of the two branches. -/
theorem process_package_cases {s s' : Node} {package : Package} {size : Nat} {src : Uid}
    (h : s.process_package package size src = .ok s') :
    (s.Rejects package size src ∧ s' = s.emit (.process_package package src)) ∨
    ¬ s.Rejects package size src ∧ ∃ loc, s.transmission.find_neighbor src = .ok loc ∧
      (package.intermediate = true ∧
          (s.accept package size src).process_intermediate size = .ok s' ∨
        package.intermediate = false ∧
          (s.accept package size src).process_direct size src
            (s.rids.exists_rid package.rid) loc = .ok s') := by
  by_cases hreject : s.Rejects package size src
  · rw [process_package_rejected hreject, Except.ok.injEq] at h
    exact .inl ⟨hreject, h.symm⟩
  · rw [process_package_accepted hreject] at h
    obtain ⟨loc, hfind, hbranch⟩ := bind_eq_ok_iff.mp h
    refine .inr ⟨hreject, loc, hfind, ?_⟩
    cases hflag : package.intermediate with
    | true => exact .inl ⟨rfl, by rwa [if_pos hflag] at hbranch⟩
    | false => exact .inr ⟨rfl, by rwa [if_neg (by simp [hflag])] at hbranch⟩

end Node

end concretid.ems
