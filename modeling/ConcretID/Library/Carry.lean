import Mathlib.Data.Nat.ModEq
import Mathlib.Tactic.LinearCombination
import Mathlib.Tactic.Ring

namespace concretid.carry

/-! A number in base `B` is read from its first digit on and written in base
`m` as it is read: each step takes one digit in, gives one out and carries the
rest. -/

/-- What is carried into step `i`. -/
def carried (B m : Nat) (b : Nat → Nat) : Nat → Nat
  | 0 => 0
  | i + 1 => (B * carried B m b i + b i) / m

/-- The number that step `i` divides. -/
def term (B m : Nat) (b : Nat → Nat) (i : Nat) : Nat := B * carried B m b i + b i

theorem carried_succ (B m : Nat) (b : Nat → Nat) (i : Nat) :
    carried B m b (i + 1) = term B m b i / m := rfl

/-- The difference of two numbers, each digit weighted with the remainders
that have been taken off before it. -/
def difference (B m : Nat) (b b' : Nat → Nat) : Nat → Int
  | 0 => 0
  | i + 1 => B * difference B m b b' i + m ^ i * ((b i : Int) - b' i)

variable {B m : Nat} {b b' : Nat → Nat}

/-- A step of two carries that differ by a known number. -/
theorem difference_succ {i : Nat}
    (h : (m : Int) ^ i * ((carried B m b i : Int) - carried B m b' i) = difference B m b b' i) :
    difference B m b b' (i + 1) = m ^ i * ((term B m b i : Int) - term B m b' i) := by
  rw [difference, ← h, term, term]
  push_cast
  ring

/-- Equal remainders are those of numbers whose difference the radix divides. -/
theorem mod_eq_iff_dvd (m r r' : Nat) : r % m = r' % m ↔ (m : Int) ∣ (r : Int) - r' :=
  eq_comm.trans Nat.modEq_iff_dvd

/-- With equal remainders the difference is divided exactly. -/
theorem mul_div_sub_div {m r r' : Nat} (h : r % m = r' % m) :
    (m : Int) * ((r / m : Nat) - (r' / m : Nat)) = (r : Int) - r' := by
  have hr : (m : Int) * (r / m : Nat) + (r % m : Nat) = r := by exact_mod_cast Nat.div_add_mod r m
  have hr' : (m : Int) * (r' / m : Nat) + (r' % m : Nat) = r' := by
    exact_mod_cast Nat.div_add_mod r' m
  rw [h] at hr
  linear_combination hr - hr'

/-- Two numbers give the same digits exactly as long as the powers of the
radix divide the differences, and what is carried differs accordingly. -/
theorem digits_eq_iff (hm : 0 < m) (n : Nat) :
    ((∀ i < n, term B m b i % m = term B m b' i % m) ↔
      ∀ i ≤ n, (m : Int) ^ i ∣ difference B m b b' i) ∧
    ((∀ i < n, term B m b i % m = term B m b' i % m) →
      (m : Int) ^ n * ((carried B m b n : Int) - carried B m b' n) = difference B m b b' n) := by
  induction n with
  | zero => simp [carried, difference]
  | succ n ih =>
    obtain ⟨hiff, hcarry⟩ := ih
    have hlast : (∀ i < n, term B m b i % m = term B m b' i % m) →
        (term B m b n % m = term B m b' n % m ↔
          (m : Int) ^ (n + 1) ∣ difference B m b b' (n + 1)) := by
      intro hdigits
      have hpow : (m : Int) ^ n ≠ 0 := pow_ne_zero n (by exact_mod_cast hm.ne')
      rw [difference_succ (hcarry hdigits), pow_succ, mul_dvd_mul_iff_left hpow, mod_eq_iff_dvd]
    constructor
    · constructor
      · intro hdigits i hi
        have hfirst : ∀ i < n, term B m b i % m = term B m b' i % m :=
          fun i hi => hdigits i (Nat.lt_succ_of_lt hi)
        cases Nat.lt_or_eq_of_le hi with
        | inl hlt => exact hiff.mp hfirst i (Nat.le_of_lt_succ hlt)
        | inr heq =>
          rw [heq]
          exact (hlast hfirst).mp (hdigits n (Nat.lt_succ_self n))
      · intro hdvd i hi
        have hfirst := hiff.mpr fun i hi => hdvd i (Nat.le_succ_of_le hi)
        cases Nat.lt_or_eq_of_le (Nat.le_of_lt_succ hi) with
        | inl hlt => exact hfirst i hlt
        | inr heq =>
          rw [heq]
          exact (hlast hfirst).mpr (hdvd (n + 1) (Nat.le_refl _))
    · intro hdigits
      have hfirst : ∀ i < n, term B m b i % m = term B m b' i % m :=
        fun i hi => hdigits i (Nat.lt_succ_of_lt hi)
      have hdiv := mul_div_sub_div (hdigits n (Nat.lt_succ_self n))
      rw [difference_succ (hcarry hfirst), carried_succ, carried_succ, pow_succ, mul_assoc, hdiv]

/-- Two numbers whose digits and whose last carry reduced once more are the
same differ as much as one more power of the radix divides. -/
theorem cut_eq_iff (hm : 0 < m) (n : Nat) :
    ((∀ i < n, term B m b i % m = term B m b' i % m) ∧ carried B m b n % m = carried B m b' n % m) ↔
      (∀ i ≤ n, (m : Int) ^ i ∣ difference B m b b' i) ∧
        (m : Int) ^ (n + 1) ∣ difference B m b b' n := by
  obtain ⟨hiff, hcarry⟩ := digits_eq_iff (B := B) (b := b) hm n
  rw [← hiff]
  refine and_congr_right fun hdigits => ?_
  have hpow : (m : Int) ^ n ≠ 0 := pow_ne_zero n (by exact_mod_cast hm.ne')
  rw [← hcarry hdigits, pow_succ, mul_dvd_mul_iff_left hpow, mod_eq_iff_dvd]

end concretid.carry
