import ConcretID.Library.Memory
import ConcretID.Ems.InPlace

open concretid.memory

namespace concretid.ems

abbrev CMD_SIZE : Nat := 127
abbrev CMD_QTY : Nat := 4

/-- Where the main loop is in `check_interface`. -/
inductive Statement where
  /-- Before the test of `cmd_qty`, or somewhere else. -/
  | outside
  /-- Before `execute_cmd(cmd_buffer[cmd_next])`. -/
  | execute
  /-- Before `cmd_next = (cmd_next+1)%CMD_QTY`. -/
  | advance
  /-- Before `cmd_qty--`. -/
  | decrement
  deriving DecidableEq

/-- The variables of `interface.c`. `executed` are the bytes of the slots at the
calls of `execute_cmd`, `echoed` what is written back to the UART. -/
structure CommandQueue where
  cmd_buffer : Fin CMD_QTY → Nat → UInt8
  cmd_next : Nat
  cmd_qty : Nat
  cmd_pt : Nat
  uart_feedback : UInt8
  statement : Statement
  executed : List (List UInt8)
  echoed : List UInt8

namespace CommandQueue

/-- The state that `init_interface` leaves. -/
def init_interface (cmd_buffer : Fin CMD_QTY → Nat → UInt8) (uart_feedback : UInt8) :
    CommandQueue :=
  { cmd_buffer
    cmd_next := 0
    cmd_qty := 0
    cmd_pt := 0
    uart_feedback
    statement := .outside
    executed := []
    echoed := [] }

def slot (n : Nat) : Fin CMD_QTY := Fin.ofNat CMD_QTY n

/-- `cmd[i] = x`, with `cmd` the slot given. -/
def write (s : CommandQueue) (cmd : Fin CMD_QTY) (i : Nat) (x : UInt8) : CommandQueue :=
  { s with
    cmd_buffer := Function.update s.cmd_buffer cmd (Function.update (s.cmd_buffer cmd) i x) }

def feedback (s : CommandQueue) (bytes : List UInt8) : CommandQueue :=
  if s.uart_feedback ≠ 0 then { s with echoed := s.echoed ++ bytes } else s

def process_char (s : CommandQueue) (x : UInt8) : CommandQueue :=
  if s.cmd_qty = CMD_QTY then s
  else
    let cmd := slot (s.cmd_next + s.cmd_qty)
    if x = 0x7f then
      if s.cmd_pt ≠ 0 then
        let s := { s with cmd_pt := s.cmd_pt - 1 }
        (s.write cmd s.cmd_pt 0).feedback [8, 32, 8]
      else s
    else if x = 10 then
      let s := (s.write cmd s.cmd_pt 0).feedback [10]
      { s with
        cmd_qty := (s.cmd_qty + 1) % 256
        cmd_pt := 0 }
    else if s.cmd_pt < CMD_SIZE then
      let s := s.feedback [x]
      { s.write cmd s.cmd_pt x with cmd_pt := s.cmd_pt + 1 }
    else s

/-- The next statement of `check_interface`. -/
def check_interface (s : CommandQueue) : CommandQueue :=
  match s.statement with
  | .outside => if s.cmd_qty = 0 then s else { s with statement := .execute }
  | .execute =>
    let cmd := slot s.cmd_next
    let text := load (s.cmd_buffer cmd) 0 (CMD_SIZE + 1)
    { s with
      cmd_buffer := Function.update s.cmd_buffer cmd
        (write_bytes (s.cmd_buffer cmd) 0 (execute_writes (cstring text)))
      executed := s.executed ++ [text]
      statement := .advance }
  | .advance => { s with cmd_next := (s.cmd_next + 1) % CMD_QTY, statement := .decrement }
  | .decrement => { s with cmd_qty := (s.cmd_qty + 255) % 256, statement := .outside }

end CommandQueue

/-! ## Typed lines -/

/-- What has been typed: the lines that are complete and the one that is not. -/
structure Typed where
  lines : List (List UInt8)
  line : List UInt8

/-- One more character: a backspace, the end of a line, or a character of the
line as long as it is not full. -/
def Typed.type (t : Typed) (x : UInt8) : Typed :=
  if x = 0x7f then { t with line := t.line.dropLast }
  else if x = 10 then
    { lines := t.lines ++ [t.line]
      line := [] }
  else if t.line.length < CMD_SIZE then { t with line := t.line ++ [x] }
  else t

/-- What can happen: a character is received, or the main loop goes on by a
statement. -/
inductive Turn where
  | char (x : UInt8)
  | main

namespace CommandQueue

def turn (s : CommandQueue) : Turn → CommandQueue
  | .char x => s.process_char x
  | .main => s.check_interface

/-- The characters that are accepted while the queue is not full are typed. -/
def typedAfter (s : CommandQueue) (t : Typed) : Turn → Typed
  | .char x => if s.cmd_qty < CMD_QTY then t.type x else t
  | .main => t

/-- The state and what has been typed after a run. -/
def run (s : CommandQueue) (t : Typed) : List Turn → CommandQueue × Typed
  | [] => (s, t)
  | turn :: turns => (s.turn turn).run (s.typedAfter t turn) turns

/-- The slot in which a line belongs, from its first character on: the lines go
round the slots. -/
def Holds (s : CommandQueue) (n : Nat) (text : List UInt8) : Prop :=
  load (s.cmd_buffer (slot n)) 0 text.length = text

/-- The lines that `cmd_qty` counts although `execute_cmd` has been called. -/
def ongoing : Statement → Nat
  | .outside | .execute => 0
  | .advance | .decrement => 1

/-- The lines of which `execute_cmd` has not been called yet. -/
def waiting (s : CommandQueue) : Nat := s.cmd_qty - ongoing s.statement

/-- The lines typed are executed in order and each of them once, those that wait
lie in their slots, and the line being typed lies in its own. -/
structure Serves (s : CommandQueue) (t : Typed) : Prop where
  executed : ∀ (i : Nat) (line text : List UInt8), t.lines[i]? = some line →
    s.executed[i]? = some text → line ++ [0] <+: text
  waiting : t.lines.length = s.executed.length + s.waiting
  held : ∀ (i : Nat) (line : List UInt8), s.executed.length ≤ i → t.lines[i]? = some line →
    s.Holds i (line ++ [0])
  line : s.Holds t.lines.length t.line

/-- A character does no harm before `cmd_qty--` only if it is not accepted, if
it takes one away, if it is truncated, or if the slot of the line has by chance
the byte that goes one slot too far. -/
def Harmless (s : CommandQueue) : Turn → Prop
  | .main => True
  | .char x =>
    s.statement ≠ .decrement ∨ s.cmd_qty = CMD_QTY ∨ x = 0x7f ∨
      (x ≠ 10 ∧ s.cmd_pt = CMD_SIZE) ∨
      s.cmd_buffer (slot (s.cmd_next + s.cmd_qty - 1)) s.cmd_pt = if x = 10 then 0 else x

/-- All turns of a run do no harm. -/
def HarmlessRun (s : CommandQueue) : List Turn → Prop
  | [] => True
  | turn :: turns => s.Harmless turn ∧ (s.turn turn).HarmlessRun turns

/-- What holds at every statement of a run that does no harm. -/
structure Invariant (s : CommandQueue) (t : Typed) : Prop where
  serves : s.Serves t
  line : t.line.length = s.cmd_pt
  fits : s.cmd_pt ≤ CMD_SIZE
  full : s.cmd_qty = CMD_QTY → t.line = []
  qty : s.cmd_qty ≤ CMD_QTY
  busy : s.statement ≠ .outside → 0 < s.cmd_qty
  next : s.cmd_next % CMD_QTY =
    (match s.statement with
      | .advance => s.executed.length - 1
      | _ => s.executed.length) % CMD_QTY
  started : s.statement = .advance → 0 < s.executed.length
  short : ∀ line ∈ t.lines, line.length ≤ CMD_SIZE

/-! ## The slots -/

theorem slot_eq_iff (a b : Nat) : slot a = slot b ↔ a % CMD_QTY = b % CMD_QTY := by
  rw [Fin.ext_iff]
  rfl

@[simp] theorem write_self (s : CommandQueue) (cmd : Fin CMD_QTY) (i : Nat) (x : UInt8) :
    (s.write cmd i x).cmd_buffer cmd = Function.update (s.cmd_buffer cmd) i x :=
  Function.update_self _ _ _

theorem write_of_ne (s : CommandQueue) {c cmd : Fin CMD_QTY} (hne : c ≠ cmd) (i : Nat) (x : UInt8) :
    (s.write cmd i x).cmd_buffer c = s.cmd_buffer c :=
  Function.update_of_ne hne _ _

theorem slot_ne {a b : Nat} (hlt : a < b) (hclose : b < a + CMD_QTY) : slot a ≠ slot b := by
  rw [ne_eq, slot_eq_iff]
  simp only [CMD_QTY] at hclose ⊢
  omega

theorem holds_write_of_ne {s : CommandQueue} {n : Nat} {cmd : Fin CMD_QTY} (hne : slot n ≠ cmd)
    (i : Nat) (x : UInt8) (text : List UInt8) : (s.write cmd i x).Holds n text ↔ s.Holds n text := by
  rw [Holds, write_of_ne s hne]
  rfl

theorem holds_write_behind {s : CommandQueue} {n i : Nat} {text : List UInt8}
    (h : s.Holds n text) (hi : text.length ≤ i) (cmd : Fin CMD_QTY) (x : UInt8) :
    (s.write cmd i x).Holds n text := by
  by_cases hne : slot n = cmd
  · subst hne
    refine Eq.trans ?_ h
    rw [write_self]
    refine load_congr fun k hk => ?_
    exact Function.update_of_ne (by omega) _ _
  · exact (holds_write_of_ne hne i x text).mpr h

theorem holds_append_iff {s : CommandQueue} {n : Nat} {text : List UInt8} {x : UInt8} :
    s.Holds n (text ++ [x]) ↔ s.Holds n text ∧ s.cmd_buffer (slot n) text.length = x := by
  rw [Holds, List.length_append, List.length_singleton, load_append]
  constructor
  · intro h
    obtain ⟨hinit, hlast⟩ := List.append_inj h (load_length _ _ _)
    refine ⟨hinit, ?_⟩
    simpa [load] using hlast
  · rintro ⟨hinit, hlast⟩
    rw [hinit]
    simp [load, hlast]

theorem holds_dropLast {s : CommandQueue} {n : Nat} {text : List UInt8} (h : s.Holds n text) :
    s.Holds n text.dropLast := by
  rw [Holds, List.length_dropLast, ← load_take _ _ (Nat.sub_le _ 1), h, List.dropLast_eq_take]

/-! ## What a character does -/

/-- The cases of `process_char`, up to what it writes back. -/
theorem process_char_cases (s : CommandQueue) (x : UInt8) :
    s.cmd_qty = CMD_QTY ∧ s.process_char x = s ∨
    s.cmd_qty ≠ CMD_QTY ∧ ∃ echoed,
      (x = 0x7f ∧ s.cmd_pt = 0 ∧ s.process_char x = s ∨
      x = 0x7f ∧ s.cmd_pt ≠ 0 ∧ s.process_char x =
        { s.write (slot (s.cmd_next + s.cmd_qty)) (s.cmd_pt - 1) 0 with
          cmd_pt := s.cmd_pt - 1
          echoed } ∨
      x ≠ 0x7f ∧ x = 10 ∧ s.process_char x =
        { s.write (slot (s.cmd_next + s.cmd_qty)) s.cmd_pt 0 with
          cmd_qty := (s.cmd_qty + 1) % 256
          cmd_pt := 0
          echoed } ∨
      x ≠ 0x7f ∧ x ≠ 10 ∧ s.cmd_pt < CMD_SIZE ∧ s.process_char x =
        { s.write (slot (s.cmd_next + s.cmd_qty)) s.cmd_pt x with
          cmd_pt := s.cmd_pt + 1
          echoed } ∨
      x ≠ 0x7f ∧ x ≠ 10 ∧ CMD_SIZE ≤ s.cmd_pt ∧ s.process_char x = s) := by
  have hfeedback : ∀ (s : CommandQueue) (bytes : List UInt8), ∃ echoed,
      s.feedback bytes = { s with echoed } := by
    intro s bytes
    rw [feedback]
    split
    · exact ⟨_, rfl⟩
    · exact ⟨s.echoed, rfl⟩
  rw [process_char]
  by_cases hfull : s.cmd_qty = CMD_QTY
  · rw [if_pos hfull]
    exact .inl ⟨hfull, rfl⟩
  · rw [if_neg hfull]
    refine .inr ⟨hfull, ?_⟩
    dsimp only
    by_cases hback : x = 0x7f
    · rw [if_pos hback]
      by_cases hempty : s.cmd_pt = 0
      · rw [if_neg (not_not.mpr hempty)]
        exact ⟨[], .inl ⟨hback, hempty, rfl⟩⟩
      · rw [if_pos hempty]
        obtain ⟨echoed, heq⟩ := hfeedback
          (({ s with cmd_pt := s.cmd_pt - 1 } : CommandQueue).write (slot (s.cmd_next + s.cmd_qty))
            (s.cmd_pt - 1) 0) [8, 32, 8]
        exact ⟨echoed, .inr (.inl ⟨hback, hempty, heq⟩)⟩
    · rw [if_neg hback]
      by_cases hline : x = 10
      · rw [if_pos hline]
        obtain ⟨echoed, heq⟩ := hfeedback
          (s.write (slot (s.cmd_next + s.cmd_qty)) s.cmd_pt 0) [10]
        rw [heq]
        exact ⟨echoed, .inr (.inr (.inl ⟨hback, hline, rfl⟩))⟩
      · rw [if_neg hline]
        by_cases hroom : s.cmd_pt < CMD_SIZE
        · rw [if_pos hroom]
          obtain ⟨echoed, heq⟩ := hfeedback s [x]
          rw [heq]
          exact ⟨echoed, .inr (.inr (.inr (.inl ⟨hback, hline, hroom, rfl⟩)))⟩
        · rw [if_neg hroom]
          exact ⟨[], .inr (.inr (.inr (.inr ⟨hback, hline, Nat.not_lt.mp hroom, rfl⟩)))⟩

namespace Invariant

variable {s : CommandQueue} {t : Typed}

/-- The line being typed goes to its slot, unless `cmd_qty--` is due. -/
theorem current (h : Invariant s t) (hstatement : s.statement ≠ .decrement) :
    slot (s.cmd_next + s.cmd_qty) = slot t.lines.length := by
  have hwaiting := h.serves.waiting
  have hnext := h.next
  have hbusy := h.busy
  have hstarted := h.started
  rw [slot_eq_iff]
  cases hs : s.statement with
  | decrement => exact absurd hs hstatement
  | _ =>
    simp only [hs, CommandQueue.waiting, ongoing, CMD_QTY, ne_eq, reduceCtorEq, not_false_eq_true, forall_const,
      not_true_eq_false, false_imp_iff] at hwaiting hnext hbusy hstarted ⊢
    omega

/-- Before `cmd_qty--` a character goes one slot too far. -/
theorem beyond (h : Invariant s t) (hstatement : s.statement = .decrement) :
    slot (s.cmd_next + s.cmd_qty) = slot (t.lines.length + 1) ∧
      slot (s.cmd_next + s.cmd_qty - 1) = slot t.lines.length := by
  have hwaiting := h.serves.waiting
  have hnext := h.next
  have hbusy := h.busy
  rw [slot_eq_iff, slot_eq_iff]
  simp only [hstatement, CommandQueue.waiting, ongoing, CMD_QTY, ne_eq, reduceCtorEq, not_false_eq_true,
    forall_const] at hwaiting hnext hbusy ⊢
  omega

/-- No line that waits lies in the slot of a character that is accepted. -/
theorem apart (h : Invariant s t) (hroom : s.cmd_qty ≠ CMD_QTY) {i : Nat}
    (hi : s.executed.length ≤ i) (hlt : i < t.lines.length) :
    slot i ≠ slot (s.cmd_next + s.cmd_qty) := by
  have hwaiting := h.serves.waiting
  have hqty := h.qty
  by_cases hstatement : s.statement = .decrement
  · rw [(h.beyond hstatement).1]
    have hbusy := h.busy (by rw [hstatement]; decide)
    simp only [CommandQueue.waiting, hstatement, ongoing, CMD_QTY] at hwaiting hqty hroom
    exact slot_ne (by omega) (by simp only [CMD_QTY]; omega)
  · rw [h.current hstatement]
    apply slot_ne hlt
    simp only [CMD_QTY] at hqty hroom ⊢
    simp only [CommandQueue.waiting] at hwaiting
    omega

/-- An accepted character leaves the lines that wait. -/
theorem others_held (h : Invariant s t) (hroom : s.cmd_qty ≠ CMD_QTY) (k : Nat) (x : UInt8) (i : Nat)
    (line : List UInt8) (hi : s.executed.length ≤ i) (hline : t.lines[i]? = some line) :
    (s.write (slot (s.cmd_next + s.cmd_qty)) k x).Holds i (line ++ [0]) := by
  have hlt := (List.getElem?_eq_some_iff.mp hline).1
  exact (holds_write_of_ne (h.apart hroom hi hlt) _ _ _).mpr (h.serves.held i line hi hline)

theorem ongoing_le (h : Invariant s t) : ongoing s.statement ≤ s.cmd_qty := by
  have hbusy := h.busy
  cases hs : s.statement with
  | outside => exact Nat.zero_le _
  | execute => exact Nat.zero_le _
  | advance => exact hbusy (by rw [hs]; decide)
  | decrement => exact hbusy (by rw [hs]; decide)

/-- A character comes behind the line, in the slot of the line, unless it is
written one slot too far where the slot of the line has another byte. -/
theorem written_iff (h : Invariant s t) (x : UInt8) :
    (s.write (slot (s.cmd_next + s.cmd_qty)) s.cmd_pt x).Holds t.lines.length (t.line ++ [x]) ↔
      s.statement ≠ .decrement ∨
        s.cmd_buffer (slot (s.cmd_next + s.cmd_qty - 1)) s.cmd_pt = x := by
  rw [holds_append_iff, h.line, and_iff_right (holds_write_behind h.serves.line (Nat.le_of_eq h.line) _ _)]
  by_cases hstatement : s.statement = .decrement
  · obtain ⟨hbeyond, hown⟩ := h.beyond hstatement
    rw [write_of_ne, hown]
    · exact (or_iff_right (not_not.mpr hstatement)).symm
    · rw [hbeyond]
      exact slot_ne (Nat.lt_succ_self _) (by simp only [CMD_QTY]; omega)
  · rw [h.current hstatement, write_self, Function.update_self]
    exact iff_of_true rfl (.inl hstatement)

/-- A character is taken away. -/
theorem backspace (h : Invariant s t) (hroom : s.cmd_qty ≠ CMD_QTY) (echoed : List UInt8) :
    Invariant
      { s.write (slot (s.cmd_next + s.cmd_qty)) (s.cmd_pt - 1) 0 with
        cmd_pt := s.cmd_pt - 1
        echoed }
      { t with line := t.line.dropLast } where
  serves :=
    { executed := h.serves.executed
      waiting := h.serves.waiting
      held := h.others_held hroom _ _
      line := by
        refine holds_write_behind (holds_dropLast h.serves.line) ?_ _ _
        rw [List.length_dropLast, h.line] }
  line := by rw [List.length_dropLast, h.line]
  fits := Nat.le_trans (Nat.sub_le _ _) h.fits
  full hfull := absurd hfull hroom
  qty := h.qty
  busy := h.busy
  next := h.next
  started := h.started
  short := h.short

/-- The line being typed ends. -/
theorem newline (h : Invariant s t) (hroom : s.cmd_qty ≠ CMD_QTY)
    (hwritten : (s.write (slot (s.cmd_next + s.cmd_qty)) s.cmd_pt 0).Holds t.lines.length
      (t.line ++ [0])) (echoed : List UInt8) :
    Invariant
      { s.write (slot (s.cmd_next + s.cmd_qty)) s.cmd_pt 0 with
        cmd_qty := (s.cmd_qty + 1) % 256
        cmd_pt := 0
        echoed }
      { lines := t.lines ++ [t.line]
        line := [] } := by
  have hqty : (s.cmd_qty + 1) % 256 = s.cmd_qty + 1 := by
    have hle := h.qty
    simp only [CMD_QTY] at hle
    omega
  rw [hqty]
  refine ⟨⟨?_, ?_, ?_, rfl⟩, rfl, Nat.zero_le _, fun _ => rfl, ?_, fun _ => Nat.succ_pos _, h.next,
    h.started, ?_⟩
  · intro i line text hline htext
    have hwaiting := h.serves.waiting
    have hlt : i < t.lines.length := by
      have hexecuted := (List.getElem?_eq_some_iff.mp htext).1
      exact Nat.lt_of_lt_of_le hexecuted (by rw [hwaiting]; exact Nat.le_add_right _ _)
    rw [List.getElem?_append_left hlt] at hline
    exact h.serves.executed i line text hline htext
  · have hwaiting := h.serves.waiting
    have hongoing := h.ongoing_le
    rw [CommandQueue.waiting] at hwaiting
    rw [List.length_append, List.length_singleton, hwaiting]
    change s.executed.length + (s.cmd_qty - ongoing s.statement) + 1 =
      s.executed.length + (s.cmd_qty + 1 - ongoing s.statement)
    omega
  · intro i line hi hline
    by_cases hlt : i < t.lines.length
    · rw [List.getElem?_append_left hlt] at hline
      exact h.others_held hroom _ _ i line hi hline
    · rw [List.getElem?_append_right (Nat.not_lt.mp hlt)] at hline
      have hlast : i = t.lines.length := by
        have hindex := (List.getElem?_eq_some_iff.mp hline).1
        rw [List.length_singleton] at hindex
        omega
      subst hlast
      rw [Nat.sub_self, List.getElem?_cons_zero, Option.some.injEq] at hline
      rw [← hline]
      exact hwritten
  · have hle := h.qty
    simp only [CMD_QTY] at hle hroom ⊢
    omega
  · intro line hline
    obtain hold | hnew := List.mem_append.mp hline
    · exact h.short line hold
    · rw [List.mem_singleton.mp hnew, h.line]
      exact h.fits

/-- One more character comes to the line being typed. -/
theorem append (h : Invariant s t) (hroom : s.cmd_qty ≠ CMD_QTY) (hfits : s.cmd_pt < CMD_SIZE)
    {x : UInt8}
    (hwritten : (s.write (slot (s.cmd_next + s.cmd_qty)) s.cmd_pt x).Holds t.lines.length
      (t.line ++ [x])) (echoed : List UInt8) :
    Invariant
      { s.write (slot (s.cmd_next + s.cmd_qty)) s.cmd_pt x with
        cmd_pt := s.cmd_pt + 1
        echoed }
      { t with line := t.line ++ [x] } where
  serves :=
    { executed := h.serves.executed
      waiting := h.serves.waiting
      held := h.others_held hroom _ _
      line := hwritten }
  line := by rw [List.length_append, List.length_singleton, h.line]
  fits := hfits
  full hfull := absurd hfull hroom
  qty := h.qty
  busy := h.busy
  next := h.next
  started := h.started
  short := h.short

/-- A character that does no harm keeps the invariant. -/
theorem char (h : Invariant s t) {x : UInt8} (hharmless : s.Harmless (.char x)) :
    Invariant (s.process_char x) (s.typedAfter t (.char x)) := by
  obtain ⟨hfull, heq⟩ | ⟨hroom, echoed, hcases⟩ := process_char_cases s x
  · rw [heq, typedAfter, if_neg (by omega)]
    exact h
  · have haccepted : s.cmd_qty < CMD_QTY := Nat.lt_of_le_of_ne h.qty hroom
    rw [typedAfter, if_pos haccepted, Typed.type]
    rcases hcases with ⟨hback, hempty, heq⟩ | ⟨hback, hempty, heq⟩ | ⟨hback, hline, heq⟩ |
      ⟨hback, hline, hfits, heq⟩ | ⟨hback, hline, hlong, heq⟩
    · have hnil : t.line = [] := List.length_eq_zero_iff.mp (h.line.trans hempty)
      have hsame : ({ t with line := t.line.dropLast } : Typed) = t := by
        rw [hnil, List.dropLast_nil, ← hnil]
      rw [if_pos hback, heq, hsame]
      exact h
    · rw [if_pos hback, heq]
      exact h.backspace hroom echoed
    · rw [if_neg hback, if_pos hline, heq]
      refine h.newline hroom ((h.written_iff 0).mpr ?_) echoed
      obtain hother | hfull | hdelete | ⟨hother, -⟩ | hbyte := hharmless
      · exact .inl hother
      · exact absurd hfull hroom
      · exact absurd hdelete hback
      · exact absurd hline hother
      · rw [if_pos hline] at hbyte
        exact .inr hbyte
    · rw [if_neg hback, if_neg hline, if_pos (by rw [h.line]; exact hfits), heq]
      refine h.append hroom hfits ((h.written_iff x).mpr ?_) echoed
      obtain hother | hfull | hdelete | ⟨-, hlong⟩ | hbyte := hharmless
      · exact .inl hother
      · exact absurd hfull hroom
      · exact absurd hdelete hback
      · exact absurd hlong (Nat.ne_of_lt hfits)
      · rw [if_neg hline] at hbyte
        exact .inr hbyte
    · rw [if_neg hback, if_neg hline, if_neg (by rw [h.line]; omega), heq]
      exact h

/-- A character after which the lines are still served has done no harm. -/
theorem harmless (h : Invariant s t) {x : UInt8}
    (hserves : Serves (s.process_char x) (s.typedAfter t (.char x))) : s.Harmless (.char x) := by
  obtain ⟨hfull, heq⟩ | ⟨hroom, echoed, hcases⟩ := process_char_cases s x
  · exact .inr (.inl hfull)
  · have haccepted : s.cmd_qty < CMD_QTY := Nat.lt_of_le_of_ne h.qty hroom
    rw [typedAfter, if_pos haccepted, Typed.type] at hserves
    rcases hcases with ⟨hback, hempty, heq⟩ | ⟨hback, hempty, heq⟩ | ⟨hback, hline, heq⟩ |
      ⟨hback, hline, hfits, heq⟩ | ⟨hback, hline, hlong, heq⟩
    · exact .inr (.inr (.inl hback))
    · exact .inr (.inr (.inl hback))
    · rw [if_neg hback, if_pos hline, heq] at hserves
      have hexecuted : s.executed.length ≤ t.lines.length := by
        rw [h.serves.waiting]
        exact Nat.le_add_right _ _
      have hheld := hserves.held t.lines.length t.line hexecuted (by
        rw [List.getElem?_append_right (Nat.le_refl _), Nat.sub_self, List.getElem?_cons_zero])
      obtain hother | hbyte := (h.written_iff 0).mp hheld
      · exact .inl hother
      · refine .inr (.inr (.inr (.inr ?_)))
        rw [if_pos hline]
        exact hbyte
    · rw [if_neg hback, if_neg hline, if_pos (by rw [h.line]; exact hfits), heq] at hserves
      obtain hother | hbyte := (h.written_iff x).mp hserves.line
      · exact .inl hother
      · refine .inr (.inr (.inr (.inr ?_)))
        rw [if_neg hline]
        exact hbyte
    · exact .inr (.inr (.inr (.inl ⟨hline, Nat.le_antisymm h.fits hlong⟩)))

/-- The line that `execute_cmd` is called with is the oldest one that waits. -/
theorem next_slot (h : Invariant s t) (hstatement : s.statement = .execute) :
    slot s.cmd_next = slot s.executed.length := by
  rw [slot_eq_iff, h.next, hstatement]

/-- What `execute_cmd` gets begins with that line. -/
theorem handed (h : Invariant s t) (hstatement : s.statement = .execute) {line : List UInt8}
    (hline : t.lines[s.executed.length]? = some line) :
    line ++ [0] <+: load (s.cmd_buffer (slot s.cmd_next)) 0 (CMD_SIZE + 1) := by
  have hheld := h.serves.held _ line (Nat.le_refl _) hline
  have hlength : (line ++ [0]).length ≤ CMD_SIZE + 1 := by
    rw [List.length_append, List.length_singleton]
    exact Nat.succ_le_succ (h.short line (List.mem_of_getElem? hline))
  rw [Holds, ← h.next_slot hstatement, ← load_take _ _ hlength] at hheld
  rw [← hheld]
  exact List.take_prefix _ _

/-- `execute_cmd` leaves the slots of the lines behind. -/
theorem execute_others (h : Invariant s t) (hstatement : s.statement = .execute) {i : Nat}
    (hlt : s.executed.length < i) (hclose : i < s.executed.length + CMD_QTY) {text : List UInt8}
    (hholds : s.Holds i text) : s.check_interface.Holds i text := by
  rw [check_interface, hstatement]
  dsimp only [Holds]
  rw [Function.update_of_ne]
  · exact hholds
  · rw [h.next_slot hstatement]
    exact (slot_ne hlt hclose).symm

/-- `execute_cmd` is called with the oldest line that waits. -/
theorem execute (h : Invariant s t) (hstatement : s.statement = .execute) :
    Invariant s.check_interface t := by
  have hwaiting := h.serves.waiting
  have hbusy := h.busy (by rw [hstatement]; decide)
  have hqty := h.qty
  rw [CommandQueue.waiting, hstatement] at hwaiting
  simp only [ongoing, CMD_QTY] at hwaiting hqty
  have hholds : s.check_interface.Holds t.lines.length t.line := by
    by_cases hfull : s.cmd_qty = CMD_QTY
    · rw [h.full hfull]
      rfl
    · refine h.execute_others hstatement ?_ ?_ h.serves.line
      · omega
      · simp only [CMD_QTY] at hfull ⊢
        omega
  have hheld : ∀ (i : Nat) (line : List UInt8), s.executed.length < i → t.lines[i]? = some line →
      s.check_interface.Holds i (line ++ [0]) := by
    intro i line hi hline
    have hlt := (List.getElem?_eq_some_iff.mp hline).1
    refine h.execute_others hstatement hi ?_ (h.serves.held i line (Nat.le_of_lt hi) hline)
    simp only [CMD_QTY]
    omega
  rw [check_interface, hstatement] at hholds hheld ⊢
  refine ⟨⟨?_, ?_, ?_, hholds⟩, h.line, h.fits, h.full, h.qty, fun _ => hbusy, ?_, ?_, h.short⟩
  · intro i line text hline htext
    dsimp only at htext
    by_cases hlt : i < s.executed.length
    · rw [List.getElem?_append_left hlt] at htext
      exact h.serves.executed i line text hline htext
    · have hlast : i = s.executed.length := by
        have hindex := (List.getElem?_eq_some_iff.mp htext).1
        rw [List.length_append, List.length_singleton] at hindex
        omega
      subst hlast
      rw [List.getElem?_append_right (Nat.le_refl _), Nat.sub_self, List.getElem?_cons_zero,
        Option.some.injEq] at htext
      rw [← htext]
      exact h.handed hstatement hline
  · dsimp only [CommandQueue.waiting]
    rw [List.length_append, List.length_singleton]
    simp only [ongoing]
    omega
  · intro i line hi hline
    dsimp only at hi
    rw [List.length_append, List.length_singleton] at hi
    exact hheld i line hi hline
  · dsimp only
    rw [List.length_append, List.length_singleton, Nat.add_sub_cancel, h.next, hstatement]
  · intro _
    dsimp only
    rw [List.length_append]
    exact Nat.succ_pos _

/-- Every statement of `check_interface` keeps the invariant. -/
theorem main (h : Invariant s t) : Invariant s.check_interface t := by
  cases hstatement : s.statement with
  | execute => exact h.execute hstatement
  | outside =>
    have hnext := h.next
    have hwaiting := h.serves.waiting
    rw [hstatement] at hnext
    rw [CommandQueue.waiting, hstatement] at hwaiting
    rw [check_interface, hstatement]
    dsimp only
    by_cases hqty : s.cmd_qty = 0
    · rw [if_pos hqty]
      exact h
    · rw [if_neg hqty]
      exact ⟨⟨h.serves.executed, hwaiting, h.serves.held, h.serves.line⟩, h.line, h.fits, h.full, h.qty,
        fun _ => Nat.pos_of_ne_zero hqty, hnext, nofun, h.short⟩
  | advance =>
    have hnext := h.next
    have hwaiting := h.serves.waiting
    have hbusy := h.busy (by rw [hstatement]; decide)
    have hstarted := h.started hstatement
    rw [hstatement] at hnext
    rw [CommandQueue.waiting, hstatement] at hwaiting
    rw [check_interface, hstatement]
    refine ⟨⟨h.serves.executed, hwaiting, h.serves.held, h.serves.line⟩, h.line, h.fits, h.full, h.qty,
      fun _ => hbusy, ?_, nofun, h.short⟩
    simp only [CMD_QTY] at hnext ⊢
    omega
  | decrement =>
    have hnext := h.next
    have hwaiting := h.serves.waiting
    have hbusy := h.busy (by rw [hstatement]; decide)
    have hle := h.qty
    rw [hstatement] at hnext
    rw [CommandQueue.waiting, hstatement] at hwaiting
    rw [check_interface, hstatement]
    have hqty : (s.cmd_qty + 255) % 256 = s.cmd_qty - 1 := by
      simp only [CMD_QTY] at hle
      omega
    dsimp only
    rw [hqty]
    refine ⟨⟨h.serves.executed, hwaiting, h.serves.held, h.serves.line⟩, h.line, h.fits, ?_,
      Nat.le_trans (Nat.sub_le _ _) hle, fun hother => absurd rfl hother, hnext, nofun, h.short⟩
    intro hfull
    dsimp only at hfull
    omega

end Invariant

/-- A turn that does no harm keeps the invariant. -/
theorem Invariant.turn {s : CommandQueue} {t : Typed} (h : Invariant s t) {turn : Turn}
    (hharmless : s.Harmless turn) : Invariant (s.turn turn) (s.typedAfter t turn) := by
  cases turn with
  | char x => exact h.char hharmless
  | main => exact h.main

/-- Lines are served all along a run exactly if no turn of it does harm. -/
theorem Invariant.run {s : CommandQueue} {t : Typed} (h : Invariant s t) (turns : List Turn) :
    (∀ start, start <+: turns → Serves (s.run t start).1 (s.run t start).2) ↔
      s.HarmlessRun turns := by
  induction turns generalizing s t with
  | nil =>
    refine iff_of_true (fun start hstart => ?_) trivial
    rw [List.prefix_nil.mp hstart]
    exact h.serves
  | cons turn turns ih =>
    constructor
    · intro hserves
      have hharmless : s.Harmless turn := by
        cases turn with
        | main => trivial
        | char x => exact h.harmless (hserves [.char x] (List.prefix_append [.char x] turns))
      refine ⟨hharmless, (ih (h.turn hharmless)).mp fun start hstart => ?_⟩
      exact hserves (turn :: start) (List.cons_prefix_cons.mpr ⟨rfl, hstart⟩)
    · rintro ⟨hharmless, hrest⟩ start hstart
      cases start with
      | nil => exact h.serves
      | cons first start =>
        obtain ⟨rfl, hsame⟩ := List.cons_prefix_cons.mp hstart
        exact (ih (h.turn hharmless)).mpr hrest start hsame

/-- The variables as `init_interface` leaves them. -/
theorem init_interface_invariant (cmd_buffer : Fin CMD_QTY → Nat → UInt8) (uart_feedback : UInt8) :
    Invariant (init_interface cmd_buffer uart_feedback) ⟨[], []⟩ where
  serves :=
    { executed := fun _ _ _ hline => nomatch hline
      waiting := rfl
      held := fun _ _ _ hline => nomatch hline
      line := rfl }
  line := rfl
  fits := Nat.zero_le _
  full := fun hfull => nomatch hfull
  qty := Nat.zero_le _
  busy := fun hother => absurd rfl hother
  next := rfl
  started := nofun
  short := nofun

end CommandQueue

end concretid.ems
