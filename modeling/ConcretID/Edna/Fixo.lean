import Mathlib.Logic.Function.Basic

namespace concretid.edna

abbrev INTERV_BEG : UInt32 := 5
abbrev INTERV_END : UInt32 := 10
abbrev HISTORY_SIZE : Nat := 100

/-- An element of `history`. -/
structure Entry where
  id : UInt32
  time : UInt32

/-- What the door node does, and what it hears of announcements. -/
inductive What where
  | anuncio (number : UInt32)
  | abrir (number : UInt32)
  | putchar (c : UInt8)
  | poll
  deriving DecidableEq

/-- Something done or heard, with `cur_time` at that moment. -/
structure Event where
  tick : UInt32
  what : What
  deriving DecidableEq

/-- The globals of `fixo.c`. -/
structure Fixo where
  history : Fin HISTORY_SIZE → Entry
  cur_time : UInt32

namespace Fixo

/-- The state `fixed_process` starts its loop in. -/
def start : Fixo := { history := fun _ => { id := 0, time := 0 }, cur_time := 1 }

def setEntry (s : Fixo) (loc : Fin HISTORY_SIZE) (entry : Entry) : Fixo :=
  { s with history := Function.update s.history loc entry }

@[simp] theorem setEntry_cur_time (s : Fixo) (loc : Fin HISTORY_SIZE) (entry : Entry) :
    (s.setEntry loc entry).cur_time = s.cur_time := rfl

@[simp] theorem setEntry_self (s : Fixo) (loc : Fin HISTORY_SIZE) (entry : Entry) :
    (s.setEntry loc entry).history loc = entry := by
  simp [setEntry]

theorem setEntry_other (s : Fixo) {loc i : Fin HISTORY_SIZE} (entry : Entry) (hne : i ≠ loc) :
    (s.setEntry loc entry).history i = s.history i := by
  simp [setEntry, hne]

/-- The first loop of `tcpip_handler`: the first entry with the number. `loc` has
16 bits, as `int` has on the target, so `loc == -1` says that there is none. -/
def locate (s : Fixo) (number : UInt32) : Option (Fin HISTORY_SIZE) :=
  (List.finRange HISTORY_SIZE).find? fun i => (s.history i).id == number

/-- The second loop: the first entry with the smallest time. -/
def oldest (s : Fixo) : Fin HISTORY_SIZE :=
  (List.finRange HISTORY_SIZE).tail.foldl
    (fun loc i => if (s.history i).time < (s.history loc).time then i else loc) ⟨0, by decide⟩

/-- The case `'A'` of `tcpip_handler`. -/
def announce (s : Fixo) (number : UInt32) : Fixo × List What :=
  match s.locate number with
  | some loc =>
    let time := (s.history loc).time
    if s.cur_time - INTERV_END ≤ time ∧ time ≤ s.cur_time - INTERV_BEG then
      (s.setEntry loc { s.history loc with time := 0 }, [.abrir number])
    else if time < s.cur_time - INTERV_END then
      (s.setEntry loc { s.history loc with time := s.cur_time }, [])
    else (s, [])
  | none => (s.setEntry s.oldest { id := number, time := s.cur_time }, [])

/-- The `uint32_t` behind the first byte, least significant byte first. -/
def numberAt (appdata : Nat → UInt8) : UInt32 :=
  .ofBitVec ((appdata 4).toBitVec ++ (appdata 3).toBitVec ++ (appdata 2).toBitVec ++
    (appdata 1).toBitVec)

/-- The number of an announcement package: `'A'` and four bytes. -/
def announced (newdata : Bool) (appdata : Nat → UInt8) : Option UInt32 :=
  if newdata ∧ appdata 0 = 0x41 then some (numberAt appdata) else none

def tcpip_handler (s : Fixo) (newdata : Bool) (appdata : Nat → UInt8) : Fixo × List What :=
  match announced newdata appdata with
  | some number =>
    let (s', done) := s.announce number
    (s', .anuncio number :: done)
  | none => (s, if newdata then [.putchar (appdata 0)] else [])

/-- `poll` is the package `P` sent to all nodes. -/
def timeout_handler (s : Fixo) : Fixo × List What :=
  ({ s with cur_time := s.cur_time + 1 }, [.poll])

end Fixo

/-- What `fixed_process` is woken by. -/
inductive Input where
  | timeout
  | tcpip (newdata : Bool) (appdata : Nat → UInt8)

/-- The node with everything that has been done and heard. -/
structure Run where
  node : Fixo
  log : List Event

namespace Run

def start : Run := { node := .start, log := [] }

def fixed_process (r : Run) (input : Input) : Run :=
  let (node, done) :=
    match input with
    | .timeout => r.node.timeout_handler
    | .tcpip newdata appdata => r.node.tcpip_handler newdata appdata
  { node, log := r.log ++ done.map fun what => { tick := node.cur_time, what } }

def of (inputs : List Input) : Run := inputs.foldl fixed_process start

end Run

end concretid.edna
