import Mathlib.Logic.Function.Basic
import ConcretID.Ems.Interface

namespace concretid.ems

/-! ## What commands write into their own text -/

/-- `cmd_send` and `cmd_command` end the name in their argument with a NUL. -/
def send_out_writes (offset : Nat) (arg : List UInt8) : List (Nat × UInt8) :=
  match afterPrefix [space] arg with
  | none => []
  | some text =>
    let arg := text.dropWhile (· == space)
    if arg = [] then []
    else
      let blanks := (text.takeWhile (· == space)).length
      [(offset + 1 + blanks + (arg.takeWhile (· != space)).length, 0)]

/-- `cmd_set` replaces the blanks of a name. -/
def set_writes (offset : Nat) (arg : List UInt8) : List (Nat × UInt8) :=
  match afterPrefix (chars [' ', 'n', 'a', 'm', 'e', ' ']) arg with
  | none => []
  | some arg =>
    ((List.range (min arg.length NAME_SIZE)).filter fun i => arg[i]? == some space).map fun i =>
      (offset + 6 + i, 95)

/-- The offsets and bytes that `execute_cmd` writes into the text it is given. The queue of
typed commands takes them over; in the receive buffer of a `COMMAND` only their places are
followed, and the bytes left as they came, until the next package is copied over them. -/
def execute_writes (cmd : List UInt8) : List (Nat × UInt8) :=
  match afterPrefix (chars ['e', 'c', 'h', 'o']) cmd with
  | some _ => []
  | none =>
  match afterPrefix (chars ['s', 'e', 'n', 'd']) cmd with
  | some arg => send_out_writes 4 arg
  | none =>
  match afterPrefix (chars ['c', 'o', 'm', 'm', 'a', 'n', 'd']) cmd with
  | some arg => send_out_writes 7 arg
  | none =>
  match afterPrefix (chars ['s', 'e', 't']) cmd with
  | some arg => set_writes 3 arg
  | none => []

/-- Memory after single bytes have been written from an address on. -/
def write_bytes (d : Nat → UInt8) (address : Nat) (writes : List (Nat × UInt8)) : Nat → UInt8 :=
  writes.foldl (fun d w => Function.update d (address + w.1) w.2) d

theorem afterPrefix_eq_some {start text rest : List UInt8} (h : afterPrefix start text = some rest) :
    text = start ++ rest := by
  rw [afterPrefix] at h
  split at h
  · rename_i hprefix
    obtain ⟨rest', rfl⟩ := List.isPrefixOf_iff_prefix.mp hprefix
    rw [List.drop_left, Option.some.injEq] at h
    rw [h]
  · cases h

theorem send_out_writes_le {offset : Nat} {arg : List UInt8} {w : Nat × UInt8}
    (hw : w ∈ send_out_writes offset arg) : w.1 ≤ offset + arg.length := by
  rw [send_out_writes] at hw
  cases harg : afterPrefix [space] arg with
  | none => simp [harg] at hw
  | some text =>
    rw [harg] at hw
    dsimp only at hw
    split at hw
    · cases hw
    · rw [List.mem_singleton] at hw
      have hname := (List.takeWhile_sublist (· != space) (l := text.dropWhile (· == space))).length_le
      have hsplit := congrArg List.length (List.takeWhile_append_dropWhile
        (p := (· == space)) (l := text))
      rw [List.length_append] at hsplit
      rw [hw, afterPrefix_eq_some harg, List.length_append, List.length_singleton]
      dsimp only
      omega

theorem set_writes_le {offset : Nat} {arg : List UInt8} {w : Nat × UInt8}
    (hw : w ∈ set_writes offset arg) : w.1 ≤ offset + arg.length := by
  rw [set_writes] at hw
  cases harg : afterPrefix (chars [' ', 'n', 'a', 'm', 'e', ' ']) arg with
  | none => simp [harg] at hw
  | some name =>
    rw [harg] at hw
    obtain ⟨i, hi, rfl⟩ := List.mem_map.mp hw
    have hlt := List.mem_range.mp (List.mem_of_mem_filter hi)
    have hhead : (chars [' ', 'n', 'a', 'm', 'e', ' ']).length = 6 := rfl
    rw [afterPrefix_eq_some harg, List.length_append, hhead]
    dsimp only
    omega

/-- A command writes no further than the NUL behind its text. -/
theorem execute_writes_le {cmd : List UInt8} {w : Nat × UInt8} (hw : w ∈ execute_writes cmd) :
    w.1 ≤ cmd.length := by
  unfold execute_writes at hw
  split at hw
  · cases hw
  · split at hw
    · rename_i arg harg
      have hle := send_out_writes_le hw
      rw [afterPrefix_eq_some harg, List.length_append]
      exact hle
    · split at hw
      · rename_i arg harg
        have hle := send_out_writes_le hw
        rw [afterPrefix_eq_some harg, List.length_append]
        exact hle
      · split at hw
        · rename_i arg harg
          have hle := set_writes_le hw
          rw [afterPrefix_eq_some harg, List.length_append]
          exact hle
        · cases hw

end concretid.ems
