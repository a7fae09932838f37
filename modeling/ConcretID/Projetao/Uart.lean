import ConcretID.Projetao.Reception
import ConcretID.Library.Buffer

open concretid.buffer

namespace concretid.projetao

/-! ## Characters by interrupt -/

def BUF_SIZE : UInt16 := 2000

/-- Where the program is: outside of `timeout_handler`, or in its loop before the
test, before `encode`, or before the next index. -/
inductive Phase where
  | waiting | testing | encoding | advancing
  deriving DecidableEq

/-- The variables at boot. Nothing calls `initGps`. -/
def Gps.boot : Gps :=
  { initGps with published := fun _ => 0, last_time_fix := 0, last_position_fix := 0, sentence_type := .GPGGA }

structure Uart where
  buf : Nat → UInt8
  bufi : UInt16
  bufe : UInt16
  curTime : UInt32
  gps : Gps
  phase : Phase

/-- What comes next: a statement of the program, or a character by an interrupt before it. -/
inductive Turn where
  | interrupt (x : UInt8)
  | program

def Turn.heard : Turn → Option UInt8
  | interrupt x => some x
  | program => none

namespace Uart

def boot : Uart := ⟨fun _ => 0, 0, 0, 0, Gps.boot, .waiting⟩

def getc0 (s : Uart) (x : UInt8) : Uart :=
  { s with buf := Function.update s.buf s.bufe.toNat x, bufe := (s.bufe + 1) % BUF_SIZE }

/-- One statement of `timeout_handler`, the first one when the timer expires. -/
def timeout_handler (s : Uart) : Uart :=
  match s.phase with
  | .waiting => { s with curTime := s.curTime + 1, phase := .testing }
  | .testing => { s with phase := if s.bufi = s.bufe then .waiting else .encoding }
  | .encoding =>
    { s with
      -- `millis()`
      gps := (s.gps.encode (s.curTime * 1000) (s.buf s.bufi.toNat)).1
      phase := .advancing }
  | .advancing => { s with bufi := (s.bufi + 1) % BUF_SIZE, phase := .testing }

def step (s : Uart) : Turn → Uart
  | .interrupt x => s.getc0 x
  | .program => s.timeout_handler

/-- From boot on, in whatever order characters and statements come. -/
def gps_process (turns : List Turn) : Uart := turns.foldl step boot

/-! ## What the buffer holds -/

/-- The index of the first character that is not decoded. -/
def start (s : Uart) : Nat := s.bufi.toNat + if s.phase = .advancing then 1 else 0

/-- Behind the test there is room for one more: its cell is read before the test comes again. -/
def room (s : Uart) : Nat := 2000 + if s.phase = .encoding then 1 else 0

/-- The decoder has been fed the stream, and the queue is still in the buffer. -/
structure Buffered (s : Uart) (stream : List (UInt32 × UInt8)) (queue : List UInt8) : Prop where
  gps : s.gps = (Gps.boot.encodeAll stream).1
  bufi_lt : s.bufi.toNat < 2000
  bufe : s.bufe.toNat = (s.start + queue.length) % 2000
  holds : Holds 2000 s.buf s.start queue
  fits : queue.length < s.room
  pending : s.phase = .encoding → queue ≠ []

theorem boot_buffered : boot.Buffered [] [] :=
  { gps := rfl
    bufi_lt := by decide
    bufe := rfl
    holds := Holds.nil
    fits := by decide
    pending := fun h => nomatch h }

theorem following_toNat {i : UInt16} (h : i.toNat < 2000) : ((i + 1) % BUF_SIZE).toNat = (i.toNat + 1) % 2000 := by
  rw [UInt16.toNat_mod, UInt16.toNat_add]
  change (i.toNat + 1) % 2 ^ 16 % 2000 = _
  omega

variable {s : Uart} {stream : List (UInt32 × UInt8)} {queue : List UInt8}

theorem Buffered.bufe_next (h : s.Buffered stream queue) (x : UInt8) :
    (s.getc0 x).bufe.toNat = (s.start + queue.length + 1) % 2000 := by
  have hbufe := h.bufe
  apply (following_toNat (by omega)).trans
  omega

/-- A character that there is room for is queued. -/
theorem Buffered.getc0 (h : s.Buffered stream queue) (hroom : queue.length + 1 < s.room) (x : UInt8) :
    (s.getc0 x).Buffered stream (queue ++ [x]) := by
  have hlength : queue.length < 2000 := by
    rw [room] at hroom
    split at hroom <;> omega
  refine ⟨h.gps, h.bufi_lt, ?_, ?_, ?_, fun _ => List.append_ne_nil_of_right_ne_nil _ (List.cons_ne_nil _ _)⟩
  · rw [h.bufe_next, List.length_append]
    rfl
  · have hput := h.holds.put hlength x
    rwa [← h.bufe] at hput
  · rw [List.length_append]
    exact hroom

/-- Without room a whole buffer is lost, up to the character or with it. -/
theorem Buffered.getc0_full (h : s.Buffered stream queue) (hfull : queue.length + 1 = s.room) (x : UInt8) :
    ∃ lost rest, queue ++ [x] = lost ++ rest ∧ lost.length = 2000 ∧ (s.getc0 x).Buffered stream rest := by
  have hbufe := h.bufe_next x
  rw [room] at hfull
  by_cases hphase : s.phase = .encoding
  · rw [if_pos hphase] at hfull
    have hlength : queue.length = 2000 := by omega
    refine ⟨queue, [x], rfl, hlength, h.gps, h.bufi_lt, ?_, ?_, ?_, fun _ => List.cons_ne_nil _ _⟩
    · rw [hbufe, hlength]
      change (s.start + 2000 + 1) % 2000 = (s.start + 1) % 2000
      omega
    · have hone := Holds.one 2000 s.buf s.start x
      have hcell : s.bufe.toNat = s.start % 2000 := by
        rw [h.bufe, hlength, Nat.add_mod_right]
      rwa [← hcell] at hone
    · exact show 1 < 2000 + _ by omega
  · rw [if_neg hphase] at hfull
    have hlength : queue.length + 1 = 2000 := by omega
    refine ⟨queue ++ [x], [], (List.append_nil _).symm, by simpa using hlength, h.gps, h.bufi_lt, ?_, Holds.nil, ?_,
      fun hphase' => absurd hphase' hphase⟩
    · rw [hbufe, Nat.add_assoc, hlength, Nat.add_mod_right]
      rfl
    · exact show 0 < 2000 + _ by omega

/-- A statement takes the first character out of the queue or none. -/
theorem Buffered.timeout_handler (h : s.Buffered stream queue) :
    ∃ taken queue', queue = taken.map Prod.snd ++ queue' ∧ s.timeout_handler.Buffered (stream ++ taken) queue' := by
  obtain ⟨buf, bufi, bufe, curTime, gps, phase⟩ := s
  obtain ⟨hgps, hbufi, hbufe, hholds, hfits, hpending⟩ := h
  cases phase with
  | waiting =>
    refine ⟨[], queue, rfl, ?_⟩
    rw [List.append_nil]
    exact ⟨hgps, hbufi, hbufe, hholds, hfits, fun h => nomatch h⟩
  | testing =>
    refine ⟨[], queue, rfl, ?_⟩
    rw [List.append_nil]
    by_cases hempty : bufi = bufe
    · simp only [Uart.timeout_handler, if_pos hempty]
      exact ⟨hgps, hbufi, hbufe, hholds, hfits, fun h => nomatch h⟩
    · simp only [Uart.timeout_handler, if_neg hempty]
      refine ⟨hgps, hbufi, hbufe, hholds, Nat.lt_succ_of_lt hfits, ?_⟩
      rintro - rfl
      have hsame : bufe.toNat = bufi.toNat := hbufe.trans (Nat.mod_eq_of_lt hbufi)
      exact hempty (UInt16.toNat_inj.mp hsame.symm)
  | encoding =>
    obtain ⟨x, queue, rfl⟩ := List.exists_cons_of_ne_nil (hpending rfl)
    have hfirst : buf (bufi.toNat % 2000) = x := hholds.first
    rw [Nat.mod_eq_of_lt hbufi] at hfirst
    refine ⟨[(curTime * 1000, x)], queue, rfl, ?_, hbufi, ?_, hholds.next, ?_, fun h => nomatch h⟩
    · rw [Gps.encodeAll_append, ← hgps, ← hfirst]
      rfl
    · rw [List.length_cons, Nat.add_comm queue.length, ← Nat.add_assoc] at hbufe
      exact hbufe
    · exact Nat.lt_of_succ_lt_succ hfits
  | advancing =>
    have hnext : ((bufi + 1) % BUF_SIZE).toNat = (bufi.toNat + 1) % 2000 := following_toNat hbufi
    refine ⟨[], queue, rfl, ?_⟩
    rw [List.append_nil]
    refine ⟨hgps, ?_, ?_, hholds.congr ?_, hfits, fun h => nomatch h⟩
    · exact hnext.trans_lt (Nat.mod_lt _ (by decide))
    · apply hbufe.trans
      change (bufi.toNat + 1 + queue.length) % 2000 = (((bufi + 1) % BUF_SIZE).toNat + queue.length) % 2000
      rw [hnext, Nat.mod_add_mod]
    · change (bufi.toNat + 1) % 2000 = ((bufi + 1) % BUF_SIZE).toNat % 2000
      rw [hnext, Nat.mod_mod]

/-- At the test, and back from `timeout_handler`, equal indices are those of an empty buffer. -/
theorem Buffered.empty (h : s.Buffered stream queue) (hphase : s.phase = .waiting ∨ s.phase = .testing)
    (hempty : s.bufi = s.bufe) : queue = [] := by
  have hfits := h.fits
  have hbufe := h.bufe
  have hbufi := h.bufi_lt
  apply List.length_eq_zero_iff.mp
  obtain hphase | hphase := hphase
  all_goals
    simp only [room, start, hphase, reduceCtorEq, if_false, ← hempty] at hfits hbufe
    omega

/-- In every run each character that comes is decoded once, in order, or is still in the
buffer, but for whole buffers of characters that are lost. -/
theorem loses_whole_buffers (turns : List Turn) :
    ∃ stream before queue, turns.filterMap Turn.heard = before ++ queue ∧ Gaps 2000 before (stream.map Prod.snd) ∧
      (gps_process turns).Buffered stream queue := by
  induction turns using List.reverseRecOn with
  | nil => exact ⟨[], [], [], rfl, .nil, boot_buffered⟩
  | append_singleton turns turn ih =>
    obtain ⟨stream, before, queue, hheard, hgaps, hbuffered⟩ := ih
    rw [gps_process, List.foldl_append, List.filterMap_append, hheard]
    change ∃ stream' before' queue', before ++ queue ++ [turn].filterMap Turn.heard = before' ++ queue' ∧
      Gaps 2000 before' (stream'.map Prod.snd) ∧ ((gps_process turns).step turn).Buffered stream' queue'
    cases turn with
    | interrupt x =>
      by_cases hroom : queue.length + 1 < (gps_process turns).room
      · exact ⟨stream, before, queue ++ [x], List.append_assoc _ _ _, hgaps, hbuffered.getc0 hroom x⟩
      · have hfits := hbuffered.fits
        obtain ⟨lost, rest, hsplit, hlost, hbuffered'⟩ := hbuffered.getc0_full (by omega) x
        refine ⟨stream, before ++ lost, rest, ?_, hgaps.lose hlost, hbuffered'⟩
        rw [List.append_assoc, List.append_assoc]
        exact congrArg (before ++ ·) hsplit
    | program =>
      obtain ⟨taken, queue', rfl, hbuffered'⟩ := hbuffered.timeout_handler
      refine ⟨stream ++ taken, before ++ taken.map Prod.snd, queue', ?_, ?_, hbuffered'⟩
      · simp [Turn.heard]
      · rw [List.map_append]
        exact hgaps.append _

/-! ## A program in time -/

/-- Fewer than 2000 characters come from one return of `timeout_handler` to the next;
some have come since the last one. -/
def timely : Uart → Nat → List Turn → Prop
  | _, _, [] => True
  | s, fresh, .interrupt x :: turns => fresh + 1 < 2000 ∧ (s.getc0 x).timely (fresh + 1) turns
  | s, fresh, .program :: turns =>
    s.timeout_handler.timely (if s.phase = .testing ∧ s.bufi = s.bufe then 0 else fresh) turns

instance decTimely : (s : Uart) → (fresh : Nat) → (turns : List Turn) → Decidable (s.timely fresh turns)
  | _, _, [] => inferInstanceAs (Decidable True)
  | s, fresh, .interrupt x :: turns =>
    have := decTimely (s.getc0 x) (fresh + 1) turns
    inferInstanceAs (Decidable (_ ∧ _))
  | s, _, .program :: turns => decTimely s.timeout_handler _ turns

/-- The queue has come since the last return, and nothing is lost. -/
theorem Buffered.timely {turns : List Turn} {s : Uart} {stream : List (UInt32 × UInt8)} {queue : List UInt8}
    {fresh : Nat} (h : s.Buffered stream queue) (hfresh : queue.length ≤ fresh) (htimely : s.timely fresh turns) :
    ∃ stream' queue', (turns.foldl step s).Buffered stream' queue' ∧
      stream'.map Prod.snd ++ queue' = stream.map Prod.snd ++ queue ++ turns.filterMap Turn.heard := by
  induction turns generalizing s stream queue fresh with
  | nil => exact ⟨stream, queue, h, (List.append_nil _).symm⟩
  | cons turn turns ih =>
    cases turn with
    | interrupt x =>
      obtain ⟨hless, htimely⟩ := htimely
      have hroom : queue.length + 1 < s.room := by
        rw [room]
        omega
      have hlength : (queue ++ [x]).length ≤ fresh + 1 := by
        rw [List.length_append]
        exact Nat.succ_le_succ hfresh
      obtain ⟨stream', queue', hbuffered, hsame⟩ := ih (h.getc0 hroom x) hlength htimely
      refine ⟨stream', queue', hbuffered, hsame.trans ?_⟩
      simp [Turn.heard]
    | program =>
      obtain ⟨taken, queue', rfl, hbuffered⟩ := h.timeout_handler
      have hlength : queue'.length ≤ if s.phase = .testing ∧ s.bufi = s.bufe then 0 else fresh := by
        split
        · rename_i hreturn
          have hnone := h.empty (.inr hreturn.1) hreturn.2
          rw [(List.append_eq_nil_iff.mp hnone).2]
          rfl
        · rw [List.length_append] at hfresh
          omega
      obtain ⟨stream', queue'', hbuffered', hsame⟩ := ih hbuffered hlength htimely
      refine ⟨stream', queue'', hbuffered', hsame.trans ?_⟩
      rw [List.map_append, List.append_assoc (stream.map Prod.snd)]
      rfl

/-- A sentence that comes while the program is in `timeout_handler`. -/
def wrongTurns : List Turn :=
  .program :: (lineOf [0x41] 0x30 0x30).map .interrupt ++ List.replicate 22 .program

end Uart

end concretid.projetao
