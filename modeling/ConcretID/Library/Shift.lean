import Mathlib.Data.BitVec

namespace concretid.shift

/-- The first `n` bits of a word as a shift register gives them out, the most
significant one first. -/
def shiftOut {w : Nat} : Nat → BitVec w → List Bool
  | 0, _ => []
  | n + 1, x => x.msb :: shiftOut n (x <<< 1)

/-- Bits taken into a shift register one after the other. -/
def shiftIn {w : Nat} (x : BitVec w) (bits : List Bool) : BitVec w :=
  bits.foldl (fun x b => x <<< 1 ||| (BitVec.ofBool b).setWidth w) x

@[simp] theorem shiftOut_length {w : Nat} (n : Nat) (x : BitVec w) :
    (shiftOut n x).length = n := by
  induction n generalizing x with
  | zero => rfl
  | succ n ih => rw [shiftOut, List.length_cons, ih]

/-- After `n` bits the register holds the upper `n` of the word below what it held. -/
theorem shiftIn_shiftOut_of_le {w n : Nat} (x y : BitVec w) (hn : n ≤ w) :
    shiftIn y (shiftOut n x) = y <<< n ||| x >>> (w - n) := by
  induction n generalizing x y with
  | zero =>
    apply BitVec.eq_of_getLsbD_eq
    intro i hi
    simp [shiftOut, shiftIn]
  | succ n ih =>
    refine (ih (x <<< 1) (y <<< 1 ||| (BitVec.ofBool x.msb).setWidth w) (by omega)).trans ?_
    apply BitVec.eq_of_getLsbD_eq
    intro i hi
    simp only [BitVec.getLsbD_or, BitVec.getLsbD_shiftLeft, BitVec.getLsbD_ushiftRight,
      BitVec.getLsbD_setWidth, BitVec.getLsbD_ofBool, BitVec.msb_eq_getLsbD_last]
    obtain hlt | rfl | hgt := Nat.lt_trichotomy i n
    · have hinside : w - n + i < w := by omega
      have hpos : ¬ w - n + i < 1 := by omega
      have hbit : w - n + i - 1 = w - (n + 1) + i := by omega
      have hmore : i < n + 1 := by omega
      simp [hi, hlt, hinside, hpos, hbit, hmore]
    · have houtside : ¬ w - i + i < w := by omega
      have hbit : w - (i + 1) + i = w - 1 := by omega
      have hpos : 0 < w := by omega
      simp [hi, houtside, hbit, hpos]
    · have houtside : ¬ w - n + i < w := by omega
      have hnone : x.getLsbD (w - (n + 1) + i) = false := BitVec.getLsbD_of_ge _ _ (by omega)
      have hbefore : ¬ i < n := by omega
      have hmore : ¬ i < n + 1 := by omega
      have hdiff : i - n < w ∧ ¬ i - n < 1 ∧ i - n ≠ 0 ∧ i - n - 1 = i - (n + 1) := by omega
      simp [hi, hbefore, hmore, hdiff, houtside, hnone]

/-- A word shifted out and in again is the word. -/
theorem shiftIn_shiftOut {w : Nat} (x y : BitVec w) : shiftIn y (shiftOut w x) = x := by
  rw [shiftIn_shiftOut_of_le x y (Nat.le_refl w), Nat.sub_self]
  simp

/-- Testing the upper bit of a byte through a mask. -/
theorem hiBit_iff (data : UInt8) : data &&& 0x80 ≠ 0 ↔ data.toBitVec.msb = true := by
  have hmask : data &&& 0x80 = 0 ↔ data.toBitVec &&& BitVec.twoPow 8 7 = 0#8 := by
    rw [← UInt8.toBitVec_inj]
    rfl
  rw [BitVec.and_twoPow] at hmask
  rw [BitVec.msb_eq_getLsbD_last, Ne, hmask]
  split <;> simp_all

/-- A bit shifted into a byte from below. -/
theorem toBitVec_append_bit (data : UInt8) (level : Bool) :
    (data <<< 1 ||| (if level then 1 else 0)).toBitVec =
      data.toBitVec <<< 1 ||| (BitVec.ofBool level).setWidth 8 := by
  cases level <;> rfl

end concretid.shift
