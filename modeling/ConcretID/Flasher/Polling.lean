import ConcretID.Flasher.Frames
import Mathlib.Algebra.Group.Nat.Defs

namespace concretid.flasher.polling

open memory line

/-! ## A line that fails

`RS232_ReadBuffer` again, over a line on which `read` may also fail. The host's
`int` has 32 bits. -/

/-- How a call of `RS232_PollComport` finds the line: with `n` bytes there, of which it
returns at most as many as are asked for and none as 0, or failing, for which it returns -1. -/
inductive Poll where
  | available (n : Nat)
  | error

/-- `RS232_ReadBuffer` between two calls. The offsets `buf` and `stored` are from the
buffer it was called with; `taken` bytes of the stream have been read. -/
structure Loop where
  cells : Int → UInt8
  buf : Int
  size : Int
  taken : Nat
  stored : List Int

def start (cells : Int → UInt8) (size : Nat) : Loop := ⟨cells, 0, size, 0, []⟩

/-- `read` puts the next `n` bytes of the stream at `buf`. -/
def Loop.receive (s : Loop) (stream : Nat → UInt8) (n : Nat) : Int → UInt8 :=
  fun i => if s.buf ≤ i ∧ i < s.buf + n then stream (s.taken + (i - s.buf).toNat) else s.cells i

/-- One call, and `size -= n; buf = buf + n;` behind it. A result of 0 leaves both
as they are, as the inner loop does. -/
def Loop.poll (s : Loop) (stream : Nat → UInt8) : Poll → Loop
  | .available found =>
    let n := min found s.size.toNat
    { cells := s.receive stream n
      buf := s.buf + n
      size := s.size - n
      taken := s.taken + n
      stored := s.stored ++ (List.range n).map fun k : Nat => s.buf + k }
  | .error => { s with buf := s.buf - 1, size := (s.size + 1).bmod (2 ^ 32) }

/-- The loop over the results it gets; it has returned when `size` is no longer positive. -/
def RS232_ReadBuffer (stream : Nat → UInt8) (s : Loop) : List Poll → Loop
  | [] => s
  | p :: polls => if s.size > 0 then RS232_ReadBuffer stream (s.poll stream p) polls else s

/-- All stores are inside the buffer, and at the return the buffer holds the next
`size` bytes. -/
structure Loop.Exact (s : Loop) (stream : Nat → UInt8) (size : Nat) : Prop where
  inside : ∀ i ∈ s.stored, 0 ≤ i ∧ i < size
  holds : s.size ≤ 0 → ∀ i : Nat, i < size → s.cells i = stream i

/-! ## Bytes and errors counted -/

/-- How many bytes and errors have come. -/
structure Count where
  bytes : Nat
  errors : Nat

/-- What is asked for. -/
def Count.missing (c : Count) (size : Nat) : Nat := size + c.errors - c.bytes

/-- All that was asked for has come, or the errors have carried `size` round. -/
def Count.Over (c : Count) (size : Nat) : Prop := c.missing size = 0 ∨ 2 ^ 31 ≤ c.missing size

instance (c : Count) (size : Nat) : Decidable (c.Over size) := inferInstanceAs (Decidable (_ ∨ _))

def Count.next (c : Count) (size : Nat) : Poll → Count
  | .available found => { c with bytes := c.bytes + min found (c.missing size) }
  | .error => { c with errors := c.errors + 1 }

/-- No bytes come while the errors outnumber those before, and when it is over there
has been no error. -/
def Count.Sound (size : Nat) (c : Count) : List Poll → Prop
  | [] => c.Over size → c.errors = 0
  | p :: polls =>
    if c.Over size then c.errors = 0
    else (∀ n, p = .available n → 0 < n → c.errors ≤ c.bytes) ∧ Sound size (c.next size p) polls

theorem Count.sound_of_over {size : Nat} {c : Count} (h : c.Over size) (polls : List Poll) :
    c.Sound size polls ↔ c.errors = 0 := by
  cases polls with
  | nil => exact ⟨fun hsound => hsound h, fun herrors _ => herrors⟩
  | cons p polls => rw [Sound, if_pos h]

/-! ## One call -/

variable {stream : Nat → UInt8} {size : Nat} {s : Loop} {c : Count}

/-- The loop with the bytes and errors it has seen: each error has moved it back by one. -/
structure Counted (size : Nat) (s : Loop) (c : Count) : Prop where
  buf : s.buf = (c.bytes : Int) - c.errors
  taken : s.taken = c.bytes
  room : c.bytes ≤ size + c.errors
  asked : ¬ c.Over size → s.size = c.missing size
  spent : c.Over size → s.size ≤ 0

theorem Counted.size_pos_iff (h : Counted size s c) : s.size > 0 ↔ ¬ c.Over size := by
  constructor
  · intro hpos hover
    have := h.spent hover
    omega
  · intro hgo
    rw [h.asked hgo]
    simp only [Count.Over, not_or] at hgo
    omega

theorem counted_start (cells : Int → UInt8) (hsize : size < 2 ^ 31) :
    Counted size (start cells size) ⟨0, 0⟩ := by
  refine ⟨rfl, rfl, Nat.zero_le _, fun _ => rfl, ?_⟩
  simp only [start, Count.Over, Count.missing]
  omega

/-- What one call finds of what is asked for. -/
theorem Counted.found_eq (h : Counted size s c) (hgo : ¬ c.Over size) (found : Nat) :
    min found s.size.toNat = min found (c.missing size) := by
  rw [h.asked hgo, Int.toNat_natCast]

/-- A call keeps the count. -/
theorem Counted.poll (h : Counted size s c) (hgo : ¬ c.Over size) (p : Poll) :
    Counted size (s.poll stream p) (c.next size p) := by
  have hbuf := h.buf
  have htaken := h.taken
  have hroom := h.room
  have hasked := h.asked hgo
  simp only [Count.Over, not_or, Nat.not_le] at hgo
  cases p with
  | available found =>
    have hmin : min found s.size.toNat = min found (c.missing size) := by
      rw [hasked, Int.toNat_natCast]
    simp only [Loop.poll, Count.next, hmin]
    simp only [Count.missing] at hasked hgo ⊢
    refine ⟨?_, ?_, ?_, ?_, ?_⟩ <;> simp only [Count.Over, Count.missing] <;> omega
  | error =>
    simp only [Loop.poll, Count.next]
    simp only [Count.missing] at hasked hgo
    refine ⟨by dsimp only; omega, htaken, by dsimp only; omega, ?_, ?_⟩
    · simp only [Count.Over, Count.missing]
      intro hgo'
      rw [Int.bmod_eq_of_le] <;> omega
    · simp only [Count.Over, Count.missing]
      intro hover
      have hround : s.size + 1 = 2 ^ 31 := by omega
      rw [hround]
      decide

theorem mem_stored_poll {found : Nat} {i : Int} :
    i ∈ (s.poll stream (.available found)).stored ↔
      i ∈ s.stored ∨ s.buf ≤ i ∧ i < s.buf + (min found s.size.toNat : Nat) := by
  simp only [Loop.poll, List.mem_append, List.mem_map, List.mem_range]
  constructor
  · rintro (hold | ⟨k, hk, rfl⟩)
    · exact .inl hold
    · exact .inr (by omega)
  · rintro (hold | hnew)
    · exact .inl hold
    · exact .inr ⟨(i - s.buf).toNat, by omega⟩

/-- No store is forgotten. -/
theorem stored_subset (s : Loop) (polls : List Poll) :
    s.stored ⊆ (RS232_ReadBuffer stream s polls).stored := by
  induction polls generalizing s with
  | nil => exact List.Subset.refl _
  | cons p polls ih =>
    rw [RS232_ReadBuffer]
    split
    · refine List.Subset.trans ?_ (ih _)
      cases p with
      | available found => exact List.subset_append_left _ _
      | error => exact List.Subset.refl _
    · exact List.Subset.refl _

/-! ## Where the counts are sound -/

/-- The stores so far are inside, and without an error the bytes stand in order. -/
structure Kept (stream : Nat → UInt8) (size : Nat) (s : Loop) (c : Count) : Prop where
  inside : ∀ i ∈ s.stored, 0 ≤ i ∧ i < size
  holds : c.errors = 0 → ∀ i : Nat, i < c.bytes → s.cells i = stream i

theorem Kept.poll (h : Kept stream size s c) (hc : Counted size s c) (hgo : ¬ c.Over size) {p : Poll}
    (hp : ∀ n, p = .available n → 0 < n → c.errors ≤ c.bytes) :
    Kept stream size (s.poll stream p) (c.next size p) := by
  cases p with
  | available found =>
    have hfound := hc.found_eq hgo found
    have hbuf := hc.buf
    refine ⟨?_, ?_⟩
    · intro i hi
      cases mem_stored_poll.mp hi with
      | inl hold => exact h.inside i hold
      | inr hnew =>
        have hle := hp found rfl
        rw [hfound] at hnew
        simp only [Count.missing] at hnew
        omega
    · intro herrors i hi
      simp only [Count.next] at herrors hi
      simp only [Loop.poll, Loop.receive, hfound, hc.taken]
      split
      · congr 1
        omega
      · exact h.holds herrors i (by omega)
  | error => exact ⟨h.inside, fun herrors => absurd herrors (Nat.succ_ne_zero _)⟩

theorem Kept.exact (h : Kept stream size s c) (hc : Counted size s c) (hsize : size < 2 ^ 31)
    (herrors : c.Over size → c.errors = 0) : s.Exact stream size := by
  refine ⟨h.inside, fun hreturned i hi => ?_⟩
  have hover : c.Over size := by
    by_contra hgo
    have := hc.size_pos_iff.mpr hgo
    omega
  have hzero := herrors hover
  apply h.holds hzero i
  simp only [Count.Over, Count.missing] at hover
  omega

theorem exact_of_sound (hsize : size < 2 ^ 31) {polls : List Poll} (h : Kept stream size s c)
    (hc : Counted size s c) (hsound : c.Sound size polls) :
    (RS232_ReadBuffer stream s polls).Exact stream size := by
  induction polls generalizing s c with
  | nil => exact h.exact hc hsize hsound
  | cons p polls ih =>
    rw [RS232_ReadBuffer]
    by_cases hover : c.Over size
    · rw [if_neg (mt hc.size_pos_iff.mp (not_not.mpr hover))]
      exact h.exact hc hsize fun _ => (Count.sound_of_over hover _).mp hsound
    · rw [if_pos (hc.size_pos_iff.mpr hover)]
      rw [Count.Sound, if_neg hover] at hsound
      exact ih (h.poll hc hover hsound.1) (hc.poll hover p) hsound.2

/-! ## Without errors

Then this is the loop of `Frames`, over a line that brings its bytes in bursts. -/

theorem Count.sound_of_noErrors (hc : c.errors = 0) {polls : List Poll} (h : .error ∉ polls) :
    c.Sound size polls := by
  induction polls generalizing c with
  | nil => exact fun _ => hc
  | cons p polls ih =>
    rw [List.mem_cons, not_or] at h
    rw [Sound]
    split
    · exact hc
    · refine ⟨fun _ _ _ => by omega, ih ?_ h.2⟩
      cases p with
      | available found => exact hc
      | error => exact absurd rfl h.1

/-- What the line has there at each call, as long as something is missing and may come. -/
def offers (line : Line UInt8) (size : Nat) : List Poll :=
  if size = 0 then []
  else
    .available (line.pending ++ line.bursts.head?.elim [] Burst.come).length ::
      if (line.poll size).1 = [] ∧ line.bursts = [] then []
      else offers (line.poll size).2 (size - (line.poll size).1.length)
termination_by size + line.bursts.length
decreasing_by
  rename_i hmore
  rw [Line.poll_bursts, List.length_tail]
  obtain hpoll | hbursts := not_and_or.mp hmore
  · have := List.length_pos_of_ne_nil hpoll
    omega
  · have := List.length_pos_of_ne_nil hbursts
    omega

theorem error_not_mem_offers (line : Line UInt8) (size : Nat) : Poll.error ∉ offers line size := by
  fun_induction offers line size with
  | case1 => exact List.not_mem_nil
  | case2 line size hsize ih =>
    rw [List.mem_cons, not_or]
    refine ⟨Poll.noConfusion, ?_⟩
    split
    · exact List.not_mem_nil
    · next hmore => exact ih hmore

/-- The loop stands where the one without errors does, and the stream goes on with
what is left on the line. -/
structure Follows (stream : Nat → UInt8) (s : Loop) (line : Line UInt8) (buf : Nat → UInt8)
    (i size : Nat) : Prop where
  cells : ∀ j : Nat, s.cells j = buf j
  buf : s.buf = i
  size : s.size = size
  stream : ∀ (k : Nat) b, line.symbols[k]? = some b → stream (s.taken + k) = b

theorem Follows.poll {line : Line UInt8} {buf : Nat → UInt8} {i size : Nat} (h : Follows stream s line buf i size) :
    Follows stream (s.poll stream (.available (line.pending ++ line.bursts.head?.elim [] Burst.come).length))
      (line.poll size).2 (store buf i (line.poll size).1) (i + (line.poll size).1.length)
      (size - (line.poll size).1.length) := by
  have hpolled := line.poll_symbols size
  have hlength : (line.poll size).1.length = min (line.pending ++ line.bursts.head?.elim [] Burst.come).length size := by
    rw [Line.poll, List.length_take, Nat.min_comm]
  have hfound : min (line.pending ++ line.bursts.head?.elim [] Burst.come).length s.size.toNat =
      (line.poll size).1.length := by
    rw [h.size, Int.toNat_natCast, hlength]
  have hle := line.poll_length_le size
  refine ⟨?_, ?_, ?_, ?_⟩
  · intro j
    simp only [Loop.poll, Loop.receive, hfound, h.buf]
    split
    · next hin =>
      have hj : j - i < (line.poll size).1.length := by omega
      obtain ⟨b, hb⟩ : ∃ b, (line.poll size).1[j - i]? = some b := ⟨_, List.getElem?_eq_getElem hj⟩
      have hsymbol : line.symbols[j - i]? = some b := by
        rw [← hpolled, List.getElem?_append_left hj, hb]
      have hoffset : ((j : Int) - i).toNat = j - i := by omega
      rw [hoffset, h.stream _ _ hsymbol, store, if_neg (by omega), hb, Option.getD_some]
    · next hout =>
      rw [h.cells]
      by_cases hji : j < i
      · rw [store_of_lt buf _ hji]
      · rw [store_of_ge buf _ (by omega)]
  · simp only [Loop.poll, hfound, h.buf]
    omega
  · simp only [Loop.poll, h.size] at hfound ⊢
    omega
  · intro k b hb
    simp only [Loop.poll, hfound]
    rw [Nat.add_assoc]
    apply h.stream
    rw [← hpolled, List.getElem?_append_right (Nat.le_add_right _ _), Nat.add_sub_cancel_left]
    exact hb

/-- On a line without errors the loop ends as that of `Frames` does, with the same buffer. -/
theorem RS232_ReadBuffer_offers {line : Line UInt8} {buf : Nat → UInt8} {i size : Nat}
    (h : Follows stream s line buf i size) :
    match host.RS232_ReadBuffer line buf i size with
    | some (buf', _) =>
      (RS232_ReadBuffer stream s (offers line size)).size ≤ 0 ∧
        ∀ j : Nat, (RS232_ReadBuffer stream s (offers line size)).cells j = buf' j
    | none => (RS232_ReadBuffer stream s (offers line size)).size > 0 := by
  fun_induction host.RS232_ReadBuffer line buf i size generalizing s with
  | case1 line buf i =>
    have hsize : s.size = 0 := h.size
    rw [offers, if_pos rfl, RS232_ReadBuffer]
    exact ⟨by omega, h.cells⟩
  | case2 line buf i size hsize hpoll hbursts =>
    have hnext := h.poll.size
    have hpos := h.size
    rw [hpoll, List.length_nil] at hnext
    rw [offers, if_neg hsize, RS232_ReadBuffer, if_pos (by omega), if_pos ⟨hpoll, hbursts⟩, RS232_ReadBuffer]
    omega
  | case3 line buf i size hsize hpoll hbursts ih =>
    have hnext := h.poll
    have hpos := h.size
    have hstore : store buf i ([] : List UInt8) = buf := by
      funext j
      simp [store]
    rw [hpoll, hstore] at hnext
    rw [offers, if_neg hsize, RS232_ReadBuffer, if_pos (by omega), if_neg fun hend => hbursts hend.2, hpoll]
    exact ih hnext
  | case4 line buf i size hsize hpoll ih =>
    have hpos := h.size
    rw [offers, if_neg hsize, RS232_ReadBuffer, if_pos (by omega), if_neg fun hend => hpoll hend.1]
    exact ih h.poll

/-! ## Where they are not

With a stream and a buffer whose last byte tells it from all others, an error shows
at the return. -/

/-- The last byte of the buffer is not the one wanted there, until it is over without
an error. -/
def Telltale (stream : Nat → UInt8) (last : Nat) (s : Loop) (c : Count) : Prop :=
  c.errors = 0 ∧ c.Over (last + 1) ∨ s.cells last ≠ stream last

theorem Telltale.poll {last : Nat} (hstream : ∀ i, i ≠ last → stream i ≠ stream last)
    (h : Telltale stream last s c) (hc : Counted (last + 1) s c) (hgo : ¬ c.Over (last + 1)) (p : Poll) :
    Telltale stream last (s.poll stream p) (c.next (last + 1) p) := by
  have hlast : s.cells last ≠ stream last := h.resolve_left fun hover => hgo hover.2
  cases p with
  | available found =>
    have hfound := hc.found_eq hgo found
    have hbuf := hc.buf
    simp only [Telltale, Loop.poll, Loop.receive, hfound, hc.taken]
    split
    · next hcovers =>
      by_cases herrors : c.errors = 0
      · left
        refine ⟨herrors, .inl ?_⟩
        simp only [Count.missing, Count.next] at hcovers ⊢
        omega
      · right
        apply hstream _
        omega
    · exact .inr hlast
  | error => exact .inr hlast

theorem Telltale.errors_eq {last : Nat} (h : Telltale stream last s c) (hc : Counted (last + 1) s c)
    (hexact : s.Exact stream (last + 1)) (hover : c.Over (last + 1)) : c.errors = 0 := by
  cases h with
  | inl hzero => exact hzero.1
  | inr hlast => exact absurd (hexact.holds (hc.spent hover) last (Nat.lt_succ_self last)) hlast

theorem sound_of_exact {last : Nat} (hstream : ∀ i, i ≠ last → stream i ≠ stream last) {polls : List Poll}
    (h : Telltale stream last s c) (hc : Counted (last + 1) s c)
    (hexact : (RS232_ReadBuffer stream s polls).Exact stream (last + 1)) : c.Sound (last + 1) polls := by
  induction polls generalizing s c with
  | nil => exact h.errors_eq hc hexact
  | cons p polls ih =>
    rw [RS232_ReadBuffer] at hexact
    by_cases hover : c.Over (last + 1)
    · rw [if_neg (mt hc.size_pos_iff.mp (not_not.mpr hover))] at hexact
      exact (Count.sound_of_over hover _).mpr (h.errors_eq hc hexact hover)
    · rw [if_pos (hc.size_pos_iff.mpr hover)] at hexact
      rw [Count.Sound, if_neg hover]
      refine ⟨?_, ih (h.poll hstream hc hover p) (hc.poll hover p) hexact⟩
      rintro found rfl hpos
      have hstored : s.buf ∈ (s.poll stream (.available found)).stored := by
        rw [mem_stored_poll, hc.found_eq hover]
        simp only [Count.Over, not_or] at hover
        omega
      have hbuf := hc.buf
      have hinside := hexact.inside s.buf (stored_subset _ polls hstored)
      omega

/-- For every sequence of results, whatever the bytes: the stores stay inside the buffer
and a return finds it filled with the next bytes, exactly if the counts are sound. -/
theorem read_exact_iff (size : Nat) (hsize : size < 2 ^ 31) (polls : List Poll) :
    (∀ stream cells, (RS232_ReadBuffer stream (start cells size) polls).Exact stream size) ↔
      Count.Sound size ⟨0, 0⟩ polls := by
  constructor
  · intro h
    cases size with
    | zero => exact (Count.sound_of_over (.inl rfl) polls).mpr rfl
    | succ last =>
      let stream (i : Nat) : UInt8 := if i = last then 1 else 0
      have hcounted := counted_start (fun _ => 0) hsize
      refine sound_of_exact ?_ ?_ hcounted (h stream fun _ => 0)
      · intro i hi
        simp only [stream, if_neg hi, if_pos]
        decide
      · right
        simp only [stream, start, if_pos]
        decide
  · intro hsound stream cells
    refine exact_of_sound hsize ?_ (counted_start cells hsize) hsound
    exact ⟨fun i hi => (List.not_mem_nil hi).elim, fun _ i hi => absurd hi (Nat.not_lt_zero i)⟩

/-- After an error the loop stores in front of the buffer, or returns with bytes of
which the first is missing. -/
theorem error_moves_bytes :
    ¬ (RS232_ReadBuffer UInt8.ofNat (start (fun _ => 0) 2) [.error, .available 1]).Exact UInt8.ofNat 2 ∧
      ¬ (RS232_ReadBuffer UInt8.ofNat (start (fun _ => 0) 2) [.available 1, .error, .available 2]).Exact
        UInt8.ofNat 2 := by
  constructor
  · intro h
    exact absurd (h.inside (-1) (by decide)).1 (by decide)
  · intro h
    exact absurd (h.holds (by decide) 0 (by decide)) (by decide)

/-- Three bytes with a pause among them. -/
def threeBytes : Line UInt8 := ⟨[0x10], [⟨[], 100⟩, ⟨[], 100⟩, ⟨[0x20, 0x30], 100⟩]⟩

/-- They are read as the loop of `Frames` reads them. -/
theorem noErrors_read_exact :
    3 < 2 ^ 31 ∧ Count.Sound 3 ⟨0, 0⟩ (offers threeBytes 3) ∧
      (∀ stream cells, (RS232_ReadBuffer stream (start cells 3) (offers threeBytes 3)).Exact stream 3) ∧
      ∃ buf line', host.RS232_ReadBuffer threeBytes (fun _ => 0) 0 3 = some (buf, line') ∧
        ∀ j : Nat, (RS232_ReadBuffer (fun i => threeBytes.symbols.getD i 0) (start (fun _ => 0) 3)
          (offers threeBytes 3)).cells j = buf j := by
  have hsound : Count.Sound 3 ⟨0, 0⟩ (offers threeBytes 3) :=
    Count.sound_of_noErrors rfl (error_not_mem_offers threeBytes 3)
  refine ⟨by decide, hsound, (read_exact_iff 3 (by decide) _).mpr hsound, ?_⟩
  have hfollows : Follows (fun i => threeBytes.symbols.getD i 0) (start (fun _ => 0) 3) threeBytes
      (fun _ => 0) 0 3 := by
    refine ⟨fun _ => rfl, rfl, rfl, fun k b hb => ?_⟩
    change threeBytes.symbols.getD (0 + k) 0 = b
    rw [Nat.zero_add, List.getD_eq_getElem?_getD, hb, Option.getD_some]
  have hsame := RS232_ReadBuffer_offers hfollows
  have hsymbols : threeBytes.symbols = [0x10, 0x20, 0x30] ++ [] := rfl
  have hthree : 3 = [(0x10 : UInt8), 0x20, 0x30].length := rfl
  obtain ⟨line', hread, -⟩ := host.RS232_ReadBuffer_eq (fun _ => 0) 0 hsymbols hthree
  rw [hread] at hsame
  exact ⟨_, line', hread, hsame.2⟩

end concretid.flasher.polling
