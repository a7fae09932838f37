import Mathlib.Logic.Function.Iterate
import Mathlib.Data.BitVec

namespace concretid.crc

/-- One turn of a register that is shifted down, with the polynomial for a bit that
falls out. -/
def shift {w : Nat} (poly r : BitVec w) : BitVec w :=
  if r.getLsbD 0 then r >>> 1 ^^^ poly else r >>> 1

/-- A register with its last bit given and the others zero. -/
def low (w : Nat) (b : Bool) : BitVec w := BitVec.setWidth w (BitVec.ofBool b)

theorem getLsbD_low {w i : Nat} (b : Bool) (hi : i < w) :
    (low w b).getLsbD i = (decide (i = 0) && b) := by
  rw [low, BitVec.getLsbD_setWidth, BitVec.getLsbD_ofBool]
  simp [hi]

/-- What the register is after the first `n` bits of a message. -/
def feed {w : Nat} (poly r : BitVec w) (x : Nat → Bool) : Nat → BitVec w
  | 0 => r
  | n + 1 => shift poly (feed poly r x n ^^^ low w (x n))

/-! ## A turn -/

theorem xor_cancel {w : Nat} (a b p : BitVec w) : a ^^^ p ^^^ (b ^^^ p) = a ^^^ b := by
  rw [BitVec.xor_assoc a p, BitVec.xor_comm b p, ← BitVec.xor_assoc p p b, BitVec.xor_self,
    BitVec.zero_xor]

/-- A turn is linear. -/
theorem shift_xor {w : Nat} (poly a b : BitVec w) :
    shift poly (a ^^^ b) = shift poly a ^^^ shift poly b := by
  unfold shift
  rw [BitVec.getLsbD_xor, BitVec.ushiftRight_xor_distrib]
  cases a.getLsbD 0 with
  | false =>
    cases b.getLsbD 0 with
    | false => rfl
    | true => exact BitVec.xor_assoc _ _ _
  | true =>
    cases b.getLsbD 0 with
    | false =>
      simp only [Bool.xor_false, if_true, Bool.false_eq_true, if_false]
      rw [BitVec.xor_assoc, BitVec.xor_comm (b >>> 1), ← BitVec.xor_assoc]
    | true => exact (xor_cancel _ _ _).symm

/-- With the highest bit in the polynomial no turn loses anything. -/
theorem shift_eq_zero {w : Nat} {poly r : BitVec w} (hpoly : poly.msb = true)
    (h : shift poly r = 0#w) : r = 0#w := by
  have hpos : 0 < w := by
    by_contra hzero
    obtain rfl : w = 0 := by omega
    cases hpoly
  have hbit : ∀ i, (shift poly r).getLsbD i = false := by
    intro i
    rw [h, BitVec.getLsbD_zero]
  unfold shift at hbit
  cases hlow : r.getLsbD 0 with
  | true =>
    rw [hlow, if_pos rfl] at hbit
    have htop := hbit (w - 1)
    rw [BitVec.getLsbD_xor, BitVec.getLsbD_ushiftRight, BitVec.getLsbD_of_ge _ _ (by omega),
      Bool.false_xor, ← BitVec.msb_eq_getLsbD_last, hpoly] at htop
    cases htop
  | false =>
    rw [hlow] at hbit
    apply BitVec.eq_of_getLsbD_eq
    intro i hi
    rw [BitVec.getLsbD_zero]
    cases i with
    | zero => exact hlow
    | succ i =>
      have hnext := hbit i
      rw [if_neg (by simp), BitVec.getLsbD_ushiftRight] at hnext
      rwa [Nat.add_comm i 1]

theorem iterate_xor {w : Nat} (poly a b : BitVec w) (n : Nat) :
    (shift poly)^[n] (a ^^^ b) = (shift poly)^[n] a ^^^ (shift poly)^[n] b := by
  induction n with
  | zero => rfl
  | succ n ih =>
    rw [Function.iterate_succ_apply', Function.iterate_succ_apply', Function.iterate_succ_apply', ih,
      shift_xor]

theorem iterate_eq_zero {w : Nat} {poly r : BitVec w} (hpoly : poly.msb = true) {n : Nat}
    (h : (shift poly)^[n] r = 0#w) : r = 0#w := by
  induction n with
  | zero => exact h
  | succ n ih =>
    rw [Function.iterate_succ_apply'] at h
    exact ih (shift_eq_zero hpoly h)

/-- Bits that are not down yet only move. -/
theorem iterate_high {w : Nat} (poly : BitVec w) {v : BitVec w} {n : Nat}
    (hlow : ∀ i < n, v.getLsbD i = false) : (shift poly)^[n] v = v >>> n := by
  induction n with
  | zero => simp
  | succ n ih =>
    rw [Function.iterate_succ_apply', ih fun i hi => hlow i (Nat.lt_succ_of_lt hi), shift,
      BitVec.getLsbD_ushiftRight, Nat.add_zero, hlow n (Nat.lt_succ_self n), if_neg (by simp),
      BitVec.shiftRight_add]

/-! ## Messages -/

theorem feed_add {w : Nat} (poly r : BitVec w) (x : Nat → Bool) (m n : Nat) :
    feed poly r x (m + n) = feed poly (feed poly r x m) (fun i => x (m + i)) n := by
  induction n with
  | zero => rfl
  | succ n ih => rw [← Nat.add_assoc, feed, ih, feed]

theorem feed_congr {w : Nat} (poly r : BitVec w) {x y : Nat → Bool} {n : Nat}
    (h : ∀ k < n, x k = y k) : feed poly r x n = feed poly r y n := by
  induction n with
  | zero => rfl
  | succ n ih =>
    rw [feed, feed, ih fun k hk => h k (Nat.lt_succ_of_lt hk), h n (Nat.lt_succ_self n)]

theorem low_xor (w : Nat) (a b : Bool) : low w (a ^^ b) = low w a ^^^ low w b := by
  apply BitVec.eq_of_getLsbD_eq
  intro i hi
  rw [BitVec.getLsbD_xor, getLsbD_low _ hi, getLsbD_low _ hi, getLsbD_low _ hi, Bool.and_xor_distrib_left]

/-- Two messages differ in the register as their difference does. -/
theorem feed_xor {w : Nat} (poly r t : BitVec w) (x y : Nat → Bool) (n : Nat) :
    feed poly r x n ^^^ feed poly t y n = feed poly (r ^^^ t) (fun k => x k ^^ y k) n := by
  induction n with
  | zero => rfl
  | succ n ih =>
    rw [feed, feed, feed, ← ih, ← shift_xor, low_xor]
    congr 1
    ac_rfl

theorem feed_zeros {w : Nat} (poly r : BitVec w) (n : Nat) :
    feed poly r (fun _ => false) n = (shift poly)^[n] r := by
  induction n with
  | zero => rfl
  | succ n ih =>
    rw [feed, ih, Function.iterate_succ_apply']
    congr 1
    simp [low]

/-- The first `m` bits of a message as a register. -/
def word (w : Nat) (x : Nat → Bool) : Nat → BitVec w
  | 0 => 0#w
  | m + 1 => word w x m ^^^ low w (x m) <<< m

theorem getLsbD_low_shift {w i : Nat} (b : Bool) (m : Nat) (hi : i < w) :
    (low w b <<< m).getLsbD i = (decide (i = m) && b) := by
  rw [BitVec.getLsbD_shiftLeft]
  obtain hlt | rfl | hgt := Nat.lt_trichotomy i m
  · simp [hlt, Nat.ne_of_lt hlt]
  · simp [hi, getLsbD_low b (Nat.lt_of_le_of_lt (Nat.zero_le i) hi)]
  · have hne : i - m ≠ 0 := Nat.sub_ne_zero_of_lt hgt
    simp [hi, getLsbD_low b (Nat.lt_of_le_of_lt (Nat.sub_le i m) hi), hne, Nat.ne_of_gt hgt]

theorem getLsbD_word {w i : Nat} (x : Nat → Bool) (m : Nat) (hi : i < w) :
    (word w x m).getLsbD i = (decide (i < m) && x i) := by
  induction m with
  | zero => simp [word]
  | succ m ih =>
    rw [word, BitVec.getLsbD_xor, ih, getLsbD_low_shift _ _ hi]
    obtain hlt | rfl | hgt := Nat.lt_trichotomy i m
    · simp [hlt, Nat.ne_of_lt hlt, Nat.lt_succ_of_lt hlt]
    · simp
    · simp [Nat.ne_of_gt hgt, Nat.not_lt.mpr (Nat.le_of_lt hgt), Nat.not_lt.mpr hgt]

/-- As many bits as the register has are put into it at once. -/
theorem feed_word {w : Nat} (poly r : BitVec w) (x : Nat → Bool) {m : Nat} (hm : m ≤ w) :
    feed poly r x m = (shift poly)^[m] (r ^^^ word w x m) := by
  induction m with
  | zero => exact (BitVec.xor_zero).symm
  | succ m ih =>
    -- the bit that follows stands where `m` turns bring it down
    have hdown : (shift poly)^[m] (low w (x m) <<< m) = low w (x m) := by
      rw [iterate_high]
      · apply BitVec.eq_of_getLsbD_eq
        intro i hi
        rw [BitVec.getLsbD_ushiftRight]
        by_cases hin : m + i < w
        · simp [getLsbD_low_shift _ _ hin, getLsbD_low _ hi]
        · have hne : i ≠ 0 := by omega
          simp [BitVec.getLsbD_of_ge _ _ (Nat.not_lt.mp hin), getLsbD_low _ hi, hne]
      · intro i hi
        rw [getLsbD_low_shift _ _ (by omega)]
        simp [Nat.ne_of_lt hi]
    rw [feed, ih (by omega), word, ← BitVec.xor_assoc, iterate_xor _ _ _ (m + 1),
      Function.iterate_succ_apply', Function.iterate_succ_apply', ← shift_xor, hdown]

/-! ## Bytes -/

/-- The bits of a message of bytes, the lowest of each byte first. -/
def byteBit (d : Nat → UInt8) (k : Nat) : Bool := (d (k / 8)).toBitVec.getLsbD (k % 8)

theorem byteBit_add (d : Nat → UInt8) (n : Nat) {i : Nat} (hi : i < 8) :
    byteBit d (8 * n + i) = (d n).toBitVec.getLsbD i := by
  rw [byteBit, Nat.mul_add_div (by decide), Nat.mul_add_mod, Nat.div_eq_of_lt hi, Nat.mod_eq_of_lt hi,
    Nat.add_zero]

/-- The bits of a byte are put into the register at once. -/
theorem feed_byte {w : Nat} (hw : 8 ≤ w) (poly r : BitVec w) (d : Nat → UInt8) (n : Nat) :
    feed poly r (byteBit d) (8 * (n + 1)) =
      (shift poly)^[8] (feed poly r (byteBit d) (8 * n) ^^^ (d n).toBitVec.setWidth w) := by
  rw [Nat.mul_succ, feed_add, feed_word _ _ _ hw]
  congr 2
  apply BitVec.eq_of_getLsbD_eq
  intro i hi
  rw [getLsbD_word _ 8 hi, BitVec.getLsbD_setWidth]
  by_cases hin : i < 8
  · simp [hin, hi, byteBit_add d n hin]
  · simp [hin, BitVec.getLsbD_of_ge _ _ (Nat.not_lt.mp hin)]

theorem exists_byteBit_ne {d e : Nat → UInt8} {n i : Nat} (hi : i < n) (hne : d i ≠ e i) :
    ∃ k < 8 * n, byteBit d k ≠ byteBit e k := by
  by_contra hnone
  push Not at hnone
  apply hne
  rw [← UInt8.toBitVec_inj]
  apply BitVec.eq_of_getLsbD_eq
  intro j hj
  rw [← byteBit_add d i hj, ← byteBit_add e i hj]
  exact hnone _ (by omega)

/-! ## Bursts -/

theorem word_ne_zero {w : Nat} {x : Nat → Bool} {m k : Nat} (hm : m ≤ w) (hk : k < m)
    (hset : x k = true) : word w x m ≠ 0#w := by
  intro hzero
  have hbit := getLsbD_word x m (Nat.lt_of_lt_of_le hk hm)
  rw [hzero, hset] at hbit
  simp [hk] at hbit

/-- A burst no longer than the register leaves something in it, wherever it lies. -/
theorem feed_ne_zero {w : Nat} {poly : BitVec w} (hpoly : poly.msb = true) {x : Nat → Bool}
    {start n : Nat} (hwindow : ∀ k < n, x k = true → start ≤ k ∧ k < start + w)
    (hsome : ∃ k < n, x k = true) : feed poly 0#w x n ≠ 0#w := by
  obtain ⟨k, hk, hset⟩ := hsome
  obtain ⟨hfrom, hto⟩ := hwindow k hk hset
  obtain ⟨m, rest, rfl, hm, hkm, hend⟩ : ∃ m rest, n = start + (m + rest) ∧ m ≤ w ∧ k < start + m ∧
      (rest = 0 ∨ m = w) := by
    obtain hle | hle := Nat.le_total (start + w) n
    · exact ⟨w, n - (start + w), by omega, Nat.le_refl w, hto, .inr rfl⟩
    · exact ⟨n - start, 0, by omega, by omega, by omega, .inl rfl⟩
  have houtside : ∀ j < start + (m + rest), j < start ∨ start + m ≤ j → x j = false := by
    intro j hj hout
    by_contra hother
    have hin := hwindow j hj (by simpa using hother)
    omega
  have hbefore : feed poly 0#w x start = 0#w := by
    rw [feed_congr poly 0#w (y := fun _ => false) fun j hj => houtside j (by omega) (.inl hj),
      feed_zeros, iterate_high poly fun i _ => BitVec.getLsbD_zero, BitVec.zero_ushiftRight]
  have hduring : feed poly 0#w (fun i => x (start + i)) m =
      (shift poly)^[m] (word w (fun i => x (start + i)) m) := by
    rw [feed_word poly 0#w _ hm, BitVec.zero_xor]
  have hafter : ∀ r, feed poly r (fun i => x (start + (m + i))) rest = (shift poly)^[rest] r := by
    intro r
    rw [feed_congr poly r (y := fun _ => false) fun j hj => houtside _ (by omega) (.inr (by omega)),
      feed_zeros]
  rw [feed_add, hbefore, feed_add, hduring, hafter]
  intro hzero
  refine word_ne_zero (x := fun i => x (start + i)) hm (k := k - start) (by omega) ?_
    (iterate_eq_zero hpoly (iterate_eq_zero hpoly hzero))
  rw [Nat.add_sub_cancel' hfrom]
  exact hset

/-- Two messages that differ, but only within a window as long as the register, are
told apart. -/
theorem feed_ne {w : Nat} {poly : BitVec w} (hpoly : poly.msb = true) (r : BitVec w)
    {x y : Nat → Bool} {start n : Nat}
    (hwindow : ∀ k < n, x k ≠ y k → start ≤ k ∧ k < start + w) (hdiffer : ∃ k < n, x k ≠ y k) :
    feed poly r x n ≠ feed poly r y n := by
  have hxor : ∀ k, (x k ^^ y k) = true ↔ x k ≠ y k := fun k => by simp
  intro heq
  have hzero : feed poly (r ^^^ r) (fun k => x k ^^ y k) n = 0#w := by
    rw [← feed_xor, heq, BitVec.xor_self]
  rw [BitVec.xor_self] at hzero
  have hinside : ∀ k < n, (x k ^^ y k) = true → start ≤ k ∧ k < start + w :=
    fun k hk hset => hwindow k hk ((hxor k).mp hset)
  refine feed_ne_zero hpoly hinside ?_ hzero
  obtain ⟨k, hk, hne⟩ := hdiffer
  exact ⟨k, hk, (hxor k).mpr hne⟩

end concretid.crc
