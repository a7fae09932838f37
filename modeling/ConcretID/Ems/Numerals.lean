import ConcretID.Library.Numeral
import ConcretID.Ems.Interface

open concretid.numeral

namespace concretid.ems

/-! ## The grammar of integers -/

/-- The value of a character as a digit: `0` to `9`, `a` to `f` and `A` to `F`,
those below the base. -/
def digit (base : Nat) (c : UInt8) : Option Nat :=
  if 48 ≤ c.toNat ∧ c.toNat ≤ 57 ∧ c.toNat - 48 < base then some (c.toNat - 48)
  else if 97 ≤ c.toNat ∧ c.toNat ≤ 102 ∧ c.toNat - 87 < base then some (c.toNat - 87)
  else if 65 ≤ c.toNat ∧ c.toNat ≤ 70 ∧ c.toNat - 55 < base then some (c.toNat - 55)
  else none

/-- Whether a text has the sign `-`, and what lies behind its sign. -/
def sign : List UInt8 → Bool × List UInt8
  | 45 :: text => (true, text)
  | 43 :: text => (false, text)
  | text => (false, text)

/-- The base of a numeral, for base 0 told by `0x`, `0b` or `0` in front of it,
and its digits. -/
def radix (base : Nat) (text : List UInt8) : Nat × List UInt8 :=
  if base = 0 then
    match text with
    | 48 :: 120 :: text | 48 :: 88 :: text => (16, text)
    | 48 :: 98 :: text | 48 :: 66 :: text => (2, text)
    | 48 :: text => (8, text)
    | text => (10, text)
  else (base, text)

/-- An integer at the beginning of a text. -/
structure Reading where
  negative : Bool
  base : Nat
  digits : List Nat
  rest : List UInt8

/-- The integer that the grammar finds in a text. -/
def reading (text : List UInt8) (base : Nat) : Reading :=
  let signed := sign (text.dropWhile (· == space))
  let based := radix base signed.2
  { negative := signed.1
    base := based.1
    digits := run (digit based.1) based.2
    rest := rest (digit based.1) based.2 }

/-- The numeral without its sign. -/
def Reading.magnitude (r : Reading) : Nat := value r.base r.digits

/-- The value of the integer in an `int`. -/
def Reading.value (r : Reading) : Int :=
  int16 (if r.negative then -r.magnitude else r.magnitude)

/-! ## The digits of the loops -/

/-- A character between the digits and the letters, or one close below them. -/
def NearMiss (c : UInt8) : Prop :=
  58 ≤ c.toNat ∧ c.toNat ≤ 64 ∨ 87 ≤ c.toNat ∧ c.toNat ≤ 96

instance (c : UInt8) : Decidable (NearMiss c) := by
  unfold NearMiss
  infer_instance

/-- What the loops of `strtoi` take for a digit. -/
def loopDigit (base : Nat) (c : UInt8) : Option Nat :=
  if 10 < base then
    if (c - 48).toNat < 10 then some (c - 48).toNat
    else if (c + 10 - 97).toNat < base then some (c + 10 - 97).toNat
    else if (c + 10 - 65).toNat < base then some (c + 10 - 65).toNat
    else none
  else if (c - 48).toNat < base then some (c - 48).toNat
  else none

theorem strtoi_loop_cons (base : Nat) (c : UInt8) (text : List UInt8) (ret : Int) :
    strtoi_loop base (c :: text) ret =
      match loopDigit base c with
      | some d => strtoi_loop base text (int16 (ret * base + d))
      | none => (ret, c :: text) := by
  rw [strtoi_loop, loopDigit]
  split_ifs <;> rfl

theorem strtoi_loop_eq (base : Nat) (text : List UInt8) (ret : Int) :
    strtoi_loop base text ret =
      ((run (loopDigit base) text).foldl (fun (ret : Int) (d : Nat) => int16 (ret * base + d)) ret,
        rest (loopDigit base) text) := by
  induction text generalizing ret with
  | nil => rfl
  | cons c text ih =>
    rw [strtoi_loop_cons]
    cases hc : loopDigit base c with
    | some d =>
      dsimp only
      rw [ih, run_cons_some hc, rest_cons_some hc, List.foldl_cons]
    | none => rw [run_cons_none hc, rest_cons_none hc, List.foldl_nil]

/-- One comparison of the loops without its wrapping subtraction. -/
theorem sub_lt_digit (c : UInt8) {k : UInt8} {n : Nat} (hn : n ≤ 16) (hk : k.toNat ≤ 240)
    (otherwise : Option Nat) :
    (if (c - k).toNat < n then some (c - k).toNat else otherwise) =
      if k.toNat ≤ c.toNat ∧ c.toNat - k.toNat < n then some (c.toNat - k.toNat) else otherwise := by
  by_cases hle : k.toNat ≤ c.toNat
  · rw [UInt8.toNat_sub_of_le c k (UInt8.le_iff_toNat_le.mpr hle)]
    exact (if_congr (and_iff_right hle) rfl rfl).symm
  · have hwraps : ¬ (c - k).toNat < n := by
      rw [UInt8.toNat_sub]
      omega
    rw [if_neg hwraps, if_neg fun h => hle h.1]

/-- The three comparisons without their wrapping subtractions. -/
theorem loopDigit_eq {base : Nat} (hbase : base ≤ 16) (c : UInt8) :
    loopDigit base c =
      if 48 ≤ c.toNat ∧ c.toNat < 58 ∧ c.toNat - 48 < base then some (c.toNat - 48)
      else if 10 < base ∧ 87 ≤ c.toNat ∧ c.toNat - 87 < base then some (c.toNat - 87)
      else if 10 < base ∧ 55 ≤ c.toNat ∧ c.toNat - 55 < base then some (c.toNat - 55)
      else none := by
  have hlower : c + 10 - 97 = c - 87 := UInt8.toBitVec_inj.mp (by simp; bv_omega)
  have hupper : c + 10 - 65 = c - 55 := UInt8.toBitVec_inj.mp (by simp; bv_omega)
  rw [loopDigit, hlower, hupper]
  by_cases hletters : 10 < base
  · rw [if_pos hletters, sub_lt_digit c (by decide) (by decide), sub_lt_digit c hbase (by decide),
      sub_lt_digit c hbase (by decide)]
    simp only [hletters, true_and, UInt8.reduceToNat]
    exact if_congr (by omega) rfl rfl
  · rw [if_neg hletters, sub_lt_digit c hbase (by decide)]
    simp only [hletters, false_and, if_false, UInt8.reduceToNat]
    exact if_congr (by omega) rfl rfl

/-- The loops take every digit for what it is. -/
theorem loopDigit_digit {base : Nat} (hbase : base ≤ 16) {c : UInt8} {d : Nat}
    (hdigit : digit base c = some d) : loopDigit base c = some d := by
  rw [loopDigit_eq hbase]
  unfold digit at hdigit
  split_ifs at hdigit
  · rw [if_pos (by omega)]
    exact hdigit
  · rw [if_neg (by omega), if_pos (by omega)]
    exact hdigit
  · rw [if_neg (by omega), if_neg (by omega), if_pos (by omega)]
    exact hdigit

/-- What else they take for a digit are the near misses, in base 16. -/
theorem loopDigit_none_iff {base : Nat} (hbase : base ≤ 10 ∨ base = 16) {c : UInt8}
    (hdigit : digit base c = none) :
    loopDigit base c = none ↔ (base = 16 → ¬ NearMiss c) := by
  rw [loopDigit_eq (by omega)]
  unfold digit at hdigit
  unfold NearMiss
  split_ifs at hdigit ⊢ <;> simp <;> omega

/-! ## `strtoi` -/

/-- `strtoi` finds its digits where the grammar does. -/
theorem strtoi_eq (text : List UInt8) (base : Nat) :
    strtoi text base =
      strtoi_loop (radix base (sign (text.dropWhile (· == space))).2).1
        (radix base (sign (text.dropWhile (· == space))).2).2 0 := by
  have hbased : ∀ text : List UInt8, (if base = 0 then
      match text with
      | 48 :: 120 :: rest | 48 :: 88 :: rest => strtoi_loop 16 rest 0
      | 48 :: 98 :: rest | 48 :: 66 :: rest => strtoi_loop 2 rest 0
      | 48 :: rest => strtoi_loop 8 rest 0
      | _ => strtoi_loop 10 text 0
    else strtoi_loop base text 0) = strtoi_loop (radix base text).1 (radix base text).2 0 := by
    intro text
    unfold radix
    by_cases hbase : base = 0
    · rw [if_pos hbase, if_pos hbase]
      split <;> rfl
    · rw [if_neg hbase, if_neg hbase]
  have hsign : ∀ text : List UInt8, (match text with
      | 45 :: rest => rest
      | 43 :: rest => rest
      | _ => text) = (sign text).2 := by
    intro text
    unfold sign
    split <;> rfl
  rw [← hbased, ← hsign]
  rfl

/-- The base of a numeral is one of the grammar's. -/
theorem radix_base {base : Nat} (hbase : base ∈ [0, 2, 8, 10, 16]) (text : List UInt8) :
    (radix base text).1 ≤ 10 ∨ (radix base text).1 = 16 := by
  unfold radix
  by_cases hzero : base = 0
  · rw [if_pos hzero]
    split <;> simp
  · rw [if_neg hzero]
    simp only [List.mem_cons, List.not_mem_nil, or_false] at hbase
    omega

/-- A character at which the digits end is none. -/
theorem digit_head_rest {base : Nat} {text : List UInt8} {c : UInt8}
    (hc : (rest (digit base) text).head? = some c) : digit base c = none := by
  have hnot := List.head?_dropWhile_not (fun c => (digit base c).isSome) text
  rw [rest] at hc
  rw [hc] at hnot
  simpa using hnot

/-- A number and its negative are the same `int` only for 0 and 0x8000. -/
theorem int16_neg_eq_iff (n : Nat) : int16 n = int16 (-n) ↔ n % 0x8000 = 0 := by
  simp only [int16, Int.bmod]
  omega

/-- `strtoi` reads the integer of the grammar exactly if no near miss follows
the digits of a hexadecimal numeral, which it would take for one more digit,
and the sign, which it forgets, makes no difference. -/
theorem strtoi_reading_iff (text : List UInt8) (base : Nat) (hbase : base ∈ [0, 2, 8, 10, 16]) :
    strtoi text base = ((reading text base).value, (reading text base).rest) ↔
      ((reading text base).base = 16 →
        ∀ c, (reading text base).rest.head? = some c → ¬ NearMiss c) ∧
      ((reading text base).negative = true → (reading text base).magnitude % 0x8000 = 0) := by
  rw [strtoi_eq, strtoi_loop_eq, Prod.mk.injEq]
  unfold Reading.value Reading.magnitude reading
  obtain ⟨negative, unsigned⟩ := sign (text.dropWhile (· == space))
  dsimp only
  have hradix := radix_base hbase unsigned
  generalize radix base unsigned = based at hradix ⊢
  obtain ⟨base, digits⟩ := based
  dsimp only at hradix ⊢
  have hlax : ∀ c d, digit base c = some d → loopDigit base c = some d :=
    fun c d => loopDigit_digit (by omega)
  have hend : rest (loopDigit base) digits = rest (digit base) digits ↔
      (base = 16 → ∀ c, (rest (digit base) digits).head? = some c → ¬ NearMiss c) := by
    rw [lax_eq_iff hlax]
    constructor
    · intro hstop h16 c hc
      exact (loopDigit_none_iff hradix (digit_head_rest hc)).mp (hstop c hc) h16
    · intro hmiss c hc
      exact (loopDigit_none_iff hradix (digit_head_rest hc)).mpr fun h16 => hmiss h16 c hc
  rw [and_comm, hend]
  refine and_congr_right fun hmiss => ?_
  have hrun : run (loopDigit base) digits = run (digit base) digits :=
    run_lax hlax digits ((lax_eq_iff hlax digits).mp (hend.mpr hmiss))
  have hcollected : (run (digit base) digits).foldl
      (fun (ret : Int) (d : Nat) => int16 (ret * base + d)) 0 =
        int16 (value base (run (digit base) digits)) :=
    collected_eq base (2 ^ 16) _
  rw [hrun, hcollected]
  cases negative with
  | true =>
    rw [if_pos rfl, int16_neg_eq_iff]
    simp
  | false => simp

/-- `0x1F ` is read as the grammar says. -/
theorem strtoi_0x1F :
    strtoi (chars ['0', 'x', '1', 'F', ' ']) 0 =
      ((reading (chars ['0', 'x', '1', 'F', ' ']) 0).value,
        (reading (chars ['0', 'x', '1', 'F', ' ']) 0).rest) :=
  (strtoi_reading_iff _ _ (by decide)).mpr
    ⟨fun _ c hc => by
      obtain rfl : space = c := Option.some.inj hc
      decide, by decide⟩

/-- `-1` is read as 1. -/
theorem strtoi_minus_one :
    strtoi (chars ['-', '1']) 10 = (1, []) ∧
    strtoi (chars ['-', '1']) 10 ≠
      ((reading (chars ['-', '1']) 10).value, (reading (chars ['-', '1']) 10).rest) := by
  decide

end concretid.ems
