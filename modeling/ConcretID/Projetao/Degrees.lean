import Mathlib.Algebra.Order.Floor.Semifield
import Mathlib.Data.Rat.Floor
import ConcretID.Library.Numeral
import ConcretID.Projetao.Gps

open concretid.numeral

namespace concretid.projetao

/-! ## `parse_degrees` with every result checked

The steps of the source once more, in numbers of any size. A step whose result
needs more than the bits of its type has none. -/

def fits (bits n : Nat) : Option Nat := if n < 2 ^ bits then some n else none

theorem fits_eq_some {bits n m : Nat} (h : fits bits n = some m) : n = m ∧ n < 2 ^ bits := by
  rw [fits] at h
  split at h
  · rename_i hlt
    exact ⟨Option.some.inj h, hlt⟩
  · cases h

theorem fits_of_lt {bits n : Nat} (h : n < 2 ^ bits) : fits bits n = some n := if_pos h

/-- The results of `gpsatol` are signed. -/
def gpsatol_step (ret : Nat) (c : UInt8) : Option Nat := do
  let shifted ← fits 31 (10 * ret)
  let sum ← fits 31 (shifted + c.toNat)
  return sum - 0x30

def gpsatol_checked (str : List UInt8) : Option Nat :=
  (str.takeWhile gpsisdigit).foldlM gpsatol_step 0

def minutes_loop_checked : List UInt8 → Nat → Nat → Option Nat
  | [], _, tenk_minutes => some tenk_minutes
  | c :: rest, mult, tenk_minutes =>
    if gpsisdigit c then do
      let part ← fits 32 (mult * (c.toNat - 0x30))
      let tenk_minutes ← fits 32 (tenk_minutes + part)
      minutes_loop_checked rest (mult / 10) tenk_minutes
    else some tenk_minutes

/-- `if (*p == '.')`, with what stands behind the digits. -/
def decimals_checked (p : List UInt8) (tenk_minutes : Nat) : Option Nat :=
  match p with
  | c :: rest =>
    if c = 0x2e then minutes_loop_checked rest 1000 tenk_minutes else some tenk_minutes
  | [] => some tenk_minutes

def parse_degrees_checked (term : List UInt8) : Option Nat := do
  let left ← gpsatol_checked term
  let tenk_minutes ← fits 32 (left % 100 * 10000)
  let tenk_minutes ← decimals_checked (term.dropWhile gpsisdigit) tenk_minutes
  let degrees ← fits 32 (left / 100 * 100000)
  fits 32 (degrees + tenk_minutes / 6)

/-! ## Where nothing overflows, the words hold the numbers -/

theorem digit_bounds {c : UInt8} (h : gpsisdigit c = true) : 0x30 ≤ c.toNat ∧ c.toNat ≤ 0x39 := by
  rw [gpsisdigit, Bool.and_eq_true, decide_eq_true_eq, decide_eq_true_eq] at h
  exact h

theorem digitValue_toNat {c : UInt8} (h : gpsisdigit c = true) :
    (digitValue c).toNat = c.toNat - 0x30 := by
  have hbounds := digit_bounds h
  rw [digitValue, UInt32.toNat_sub_of_le]
  · simp
  · rw [UInt32.le_iff_toNat_le]
    simpa using hbounds.1

theorem gpsatol_step_toNat {ret : UInt32} {c : UInt8} {n m : Nat} (hret : ret.toNat = n)
    (hc : gpsisdigit c = true) (h : gpsatol_step n c = some m) :
    (10 * ret + c.toUInt32 - 0x30).toNat = m := by
  obtain ⟨shifted, hshifted, hrest⟩ := Option.bind_eq_some_iff.mp h
  obtain ⟨sum, hsum, hdone⟩ := Option.bind_eq_some_iff.mp hrest
  obtain ⟨rfl, hfits⟩ := fits_eq_some hshifted
  obtain ⟨rfl, hfits'⟩ := fits_eq_some hsum
  obtain rfl := Option.some.inj hdone
  have hbounds := digit_bounds hc
  simp only [UInt32.toNat_sub, UInt32.toNat_add, UInt32.toNat_mul, UInt8.toNat_toUInt32,
    UInt32.reduceToNat, hret]
  omega

theorem gpsatol_foldlM_toNat {digits : List UInt8} (hdigits : ∀ c ∈ digits, gpsisdigit c = true)
    {ret : UInt32} {n m : Nat} (hret : ret.toNat = n) (h : digits.foldlM gpsatol_step n = some m) :
    (digits.foldl (fun ret c => 10 * ret + c.toUInt32 - 0x30) ret).toNat = m := by
  induction digits generalizing ret n with
  | nil => exact hret.trans (Option.some.inj h)
  | cons c digits ih =>
    rw [List.forall_mem_cons] at hdigits
    rw [List.foldlM_cons] at h
    obtain ⟨k, hstep, hrest⟩ := Option.bind_eq_some_iff.mp h
    exact ih hdigits.2 (gpsatol_step_toNat hret hdigits.1 hstep) hrest

theorem gpsatol_toNat {str : List UInt8} {n : Nat} (h : gpsatol_checked str = some n) :
    (gpsatol str).toNat = n :=
  gpsatol_foldlM_toNat (List.all_eq_true.mp List.all_takeWhile) rfl h

theorem minutes_loop_toNat {term : List UInt8} {mult tenk_minutes : UInt32} {k n m : Nat}
    (hmult : mult.toNat = k) (htenk : tenk_minutes.toNat = n)
    (h : minutes_loop_checked term k n = some m) : (minutes_loop term mult tenk_minutes).toNat = m := by
  induction term generalizing mult tenk_minutes k n with
  | nil => exact htenk.trans (Option.some.inj h)
  | cons c rest ih =>
    rw [minutes_loop_checked] at h
    rw [minutes_loop]
    split at h
    · rename_i hc
      rw [if_pos hc]
      obtain ⟨part, hpart, hsum⟩ := Option.bind_eq_some_iff.mp h
      obtain ⟨sum, hsum, hrest⟩ := Option.bind_eq_some_iff.mp hsum
      obtain ⟨rfl, hfits⟩ := fits_eq_some hpart
      obtain ⟨rfl, hfits'⟩ := fits_eq_some hsum
      refine ih ?_ ?_ hrest
      · rw [UInt32.toNat_div, hmult]
        rfl
      · rw [UInt32.toNat_add, UInt32.toNat_mul, htenk, hmult, digitValue_toNat hc,
          Nat.mod_eq_of_lt hfits, Nat.mod_eq_of_lt hfits']
    · rename_i hc
      rw [if_neg hc]
      exact htenk.trans (Option.some.inj h)

/-- Where no step overflows, `parse_degrees` returns the number the steps give. -/
theorem parse_degrees_toNat {term : List UInt8} {n : Nat} (h : parse_degrees_checked term = some n) :
    (parse_degrees term).toNat = n := by
  obtain ⟨left, hleft, hrest⟩ := Option.bind_eq_some_iff.mp h
  obtain ⟨tenk, htenk, hrest⟩ := Option.bind_eq_some_iff.mp hrest
  obtain ⟨minutes, hminutes, hrest⟩ := Option.bind_eq_some_iff.mp hrest
  obtain ⟨degrees, hdegrees, hsum⟩ := Option.bind_eq_some_iff.mp hrest
  obtain ⟨rfl, hfits⟩ := fits_eq_some htenk
  obtain ⟨rfl, hfits'⟩ := fits_eq_some hdegrees
  obtain ⟨rfl, hfits''⟩ := fits_eq_some hsum
  have hwhole := gpsatol_toNat hleft
  have hstart : (gpsatol term % 100 * 10000).toNat = left % 100 * 10000 := by
    rw [UInt32.toNat_mul, UInt32.toNat_mod, hwhole]
    exact Nat.mod_eq_of_lt hfits
  have hdecimals : (match term.dropWhile gpsisdigit with
      | c :: rest =>
        if c = 0x2e then minutes_loop rest 1000 (gpsatol term % 100 * 10000)
        else gpsatol term % 100 * 10000
      | [] => gpsatol term % 100 * 10000).toNat = minutes := by
    unfold decimals_checked at hminutes
    split at hminutes
    · split at hminutes
      · rename_i hpoint
        rw [if_pos hpoint]
        exact minutes_loop_toNat rfl hstart hminutes
      · rename_i hpoint
        rw [if_neg hpoint, hstart]
        exact Option.some.inj hminutes
    · rw [hstart]
      exact Option.some.inj hminutes
  obtain ⟨tenk, htenk', hparse⟩ : ∃ tenk : UInt32, tenk.toNat = minutes ∧
      parse_degrees term = gpsatol term / 100 * 100000 + tenk / 6 := ⟨_, hdecimals, rfl⟩
  rw [hparse, UInt32.toNat_add, UInt32.toNat_mul, UInt32.toNat_div, UInt32.toNat_div, hwhole, htenk']
  simp only [UInt32.reduceToNat]
  rw [Nat.mod_eq_of_lt hfits', Nat.mod_eq_of_lt hfits'']

/-! ## Coordinates -/

/-- The character of a digit. -/
def digitChar (d : Fin 10) : UInt8 := 0x30 + UInt8.ofNat d.val

/-- The number that digits stand for, the most significant one first. -/
def number (digits : List (Fin 10)) : Nat := value 10 (digits.map Fin.val)

/-- A coordinate as a receiver writes it: one to three digits for the degrees,
two for the minutes and, behind a point, as many decimals of a minute as it likes. -/
structure Coordinate where
  degrees : List (Fin 10)
  tens : Fin 10
  ones : Fin 10
  decimals : Option (List (Fin 10))
  degrees_length : 1 ≤ degrees.length ∧ degrees.length ≤ 3
  degrees_le : number degrees ≤ 180
  minutes_lt : number [tens, ones] < 60

namespace Coordinate

/-- The term of a coordinate. -/
def text (c : Coordinate) : List UInt8 :=
  (c.degrees ++ [c.tens, c.ones]).map digitChar ++
    match c.decimals with
    | none => []
    | some decimals => 0x2e :: decimals.map digitChar

/-- The minutes with their decimals. -/
def minutes (c : Coordinate) : ℚ :=
  number [c.tens, c.ones] +
    match c.decimals with
    | none => 0
    | some decimals => number decimals / 10 ^ decimals.length

/-- The hundred thousandths of a degree. -/
def hundredThousandths (c : Coordinate) : Nat :=
  ⌊(100000 : ℚ) * (number c.degrees + c.minutes / 60)⌋₊

end Coordinate

/-! ## Digits -/

theorem digitChar_toNat : ∀ d : Fin 10, (digitChar d).toNat = 0x30 + d.val := by
  decide

theorem digitChar_isdigit : ∀ d : Fin 10, gpsisdigit (digitChar d) = true := by
  decide

theorem digits_isdigit (digits : List (Fin 10)) :
    ∀ c ∈ digits.map digitChar, gpsisdigit c = true := by
  intro c hc
  obtain ⟨d, -, rfl⟩ := List.mem_map.mp hc
  exact digitChar_isdigit d

theorem number_cons (d : Fin 10) (digits : List (Fin 10)) :
    number (d :: digits) = d.val * 10 ^ digits.length + number digits := by
  have happend := value_append 10 [d.val] (digits.map Fin.val)
  rw [List.length_map, List.singleton_append] at happend
  rw [number, List.map_cons, happend, number]
  simp [value]

theorem number_append (high low : List (Fin 10)) :
    number (high ++ low) = number high * 10 ^ low.length + number low := by
  rw [number, List.map_append, value_append, List.length_map, number, number]

theorem number_lt (digits : List (Fin 10)) : number digits < 10 ^ digits.length := by
  have hdigits : ∀ d ∈ digits.map Fin.val, d < 10 := by
    intro d hd
    obtain ⟨e, -, rfl⟩ := List.mem_map.mp hd
    exact e.isLt
  have hlt := value_lt (by decide) hdigits
  rwa [List.length_map] at hlt

/-! ## The loops -/

theorem gpsatol_step_digit {n : Nat} (hn : n ≤ 1000000) (d : Fin 10) :
    gpsatol_step n (digitChar d) = some (n * 10 + d.val) := by
  have hd := d.isLt
  rw [gpsatol_step, digitChar_toNat, fits_of_lt (by omega)]
  dsimp only [Option.bind_eq_bind, Option.bind_some]
  rw [fits_of_lt (by omega)]
  apply congrArg some
  omega

theorem gpsatol_foldlM_digits (digits : List (Fin 10)) {n : Nat}
    (hn : (n + 1) * 10 ^ digits.length ≤ 1000000) :
    (digits.map digitChar).foldlM gpsatol_step n =
      some (n * 10 ^ digits.length + number digits) := by
  induction digits generalizing n with
  | nil =>
    rw [List.length_nil, Nat.pow_zero, Nat.mul_one]
    rfl
  | cons d digits ih =>
    have hd := d.isLt
    have hpos : 0 < 10 ^ digits.length := Nat.pow_pos (by decide)
    rw [List.length_cons, Nat.pow_succ] at hn
    have hsmall : n ≤ 1000000 := by
      refine Nat.le_trans (Nat.le_trans (Nat.le_succ n) ?_) hn
      exact Nat.le_mul_of_pos_right _ (Nat.mul_pos hpos (by decide))
    have hnext : (n * 10 + d.val + 1) * 10 ^ digits.length ≤ 1000000 := by
      calc (n * 10 + d.val + 1) * 10 ^ digits.length
          ≤ ((n + 1) * 10) * 10 ^ digits.length := Nat.mul_le_mul_right _ (by omega)
        _ = (n + 1) * (10 ^ digits.length * 10) := by ring
        _ ≤ 1000000 := hn
    rw [List.map_cons, List.foldlM_cons, gpsatol_step_digit hsmall]
    dsimp only [Option.bind_eq_bind, Option.bind_some]
    rw [ih hnext, number_cons, List.length_cons]
    apply congrArg some
    ring

/-- One digit behind the point moves on to the next power of ten. -/
theorem decimals_cons (d : Fin 10) (digits : List (Fin 10)) (k : Nat) :
    10 ^ (k + 1) * number (d :: digits) / 10 ^ (d :: digits).length =
      10 ^ k * d.val + 10 ^ k * number digits / 10 ^ digits.length := by
  have hsplit : 10 ^ (k + 1) * number (d :: digits) =
      (10 ^ digits.length * (10 ^ k * d.val) + 10 ^ k * number digits) * 10 := by
    rw [number_cons]
    ring
  rw [hsplit, List.length_cons, Nat.pow_succ, Nat.mul_div_mul_right _ _ (by decide),
    Nat.mul_add_div (Nat.pow_pos (by decide))]

theorem decimals_zero (digits : List (Fin 10)) :
    10 ^ 0 * number digits / 10 ^ digits.length = 0 := by
  rw [Nat.pow_zero, Nat.one_mul]
  exact Nat.div_eq_of_lt (number_lt digits)

/-- With a multiplier of `k` digits the loop takes the first `k` decimals and
leaves the rest. -/
theorem minutes_loop_digits (digits : List (Fin 10)) (k : Nat) {n : Nat}
    (hn : n + 10 ^ k ≤ 1000000) :
    minutes_loop_checked (digits.map digitChar) (10 ^ k / 10) n =
      some (n + 10 ^ k * number digits / 10 ^ digits.length) := by
  induction digits generalizing k n with
  | nil =>
    apply congrArg some
    simp [number, value]
  | cons d digits ih =>
    have hd := d.isLt
    rw [List.map_cons, minutes_loop_checked, if_pos (digitChar_isdigit d), digitChar_toNat,
      Nat.add_sub_cancel_left]
    cases k with
    | zero =>
      have hrest := ih 0 hn
      rw [decimals_zero] at hrest
      rw [decimals_zero, show 10 ^ 0 / 10 * d.val = 0 by simp, fits_of_lt (by decide)]
      dsimp only [Option.bind_eq_bind, Option.bind_some]
      rw [fits_of_lt (by omega)]
      exact hrest
    | succ k =>
      rw [Nat.pow_succ] at hn
      have hpart : 10 ^ k * d.val + 10 ^ k ≤ 10 ^ k * 10 := by
        rw [← Nat.mul_succ]
        exact Nat.mul_le_mul_left _ hd
      rw [Nat.pow_succ, Nat.mul_div_cancel _ (by decide), fits_of_lt (by omega)]
      dsimp only [Option.bind_eq_bind, Option.bind_some]
      rw [fits_of_lt (by omega)]
      dsimp only [Option.bind_some]
      rw [ih k (by omega), ← Nat.pow_succ, decimals_cons, Nat.add_assoc]

namespace Coordinate

variable (c : Coordinate)

/-- The digits of the term in front of its point, and what stands behind them. -/
theorem text_digits : ∃ p, c.text = (c.degrees ++ [c.tens, c.ones]).map digitChar ++ p ∧
    (p.takeWhile gpsisdigit = [] ∧ p.dropWhile gpsisdigit = p) ∧
    ∀ n, n + 10 ^ 4 ≤ 1000000 → decimals_checked p n =
      some (match c.decimals with
        | none => n
        | some decimals => n + 10 ^ 4 * number decimals / 10 ^ decimals.length) := by
  cases hdecimals : c.decimals with
  | none =>
    refine ⟨[], ?_, ⟨rfl, rfl⟩, fun n _ => rfl⟩
    rw [text, hdecimals]
  | some decimals =>
    refine ⟨0x2e :: decimals.map digitChar, ?_, ⟨rfl, rfl⟩, fun n hn => ?_⟩
    · rw [text, hdecimals]
    · exact minutes_loop_digits decimals 4 hn

theorem gpsatol_text : gpsatol_checked c.text =
    some (number c.degrees * 100 + number [c.tens, c.ones]) := by
  obtain ⟨p, htext, ⟨hp, -⟩, -⟩ := c.text_digits
  have hlength := c.degrees_length
  have hpow : 10 ^ (c.degrees ++ [c.tens, c.ones]).length ≤ 10 ^ 5 := by
    apply Nat.pow_le_pow_right (by decide)
    rw [List.length_append]
    exact Nat.add_le_add_right hlength.2 2
  rw [gpsatol_checked, htext, List.takeWhile_append_of_pos (digits_isdigit _), hp, List.append_nil,
    gpsatol_foldlM_digits _ (by omega), number_append]
  simp

/-- Rounding down once is rounding down behind the fourth decimal and again
behind the division. -/
theorem floor_degrees (degrees minutes decimals k : Nat) :
    ⌊(100000 : ℚ) * (degrees + (minutes + decimals / 10 ^ k) / 60)⌋₊ =
      degrees * 100000 + (minutes * 10000 + 10 ^ 4 * decimals / 10 ^ k) / 6 := by
  have hpos : 0 < 10 ^ k := Nat.pow_pos (by decide)
  have hne : (10 : ℚ) ^ k ≠ 0 := pow_ne_zero k (by norm_num)
  have hfraction : (100000 : ℚ) * (degrees + (minutes + decimals / 10 ^ k) / 60) =
      ((10 ^ k * (600000 * degrees + 10000 * minutes) + 10 ^ 4 * decimals : Nat) : ℚ) /
        ((10 ^ k * 6 : Nat) : ℚ) := by
    push_cast
    field_simp
    ring
  rw [hfraction, Nat.floor_div_eq_div, ← Nat.div_div_eq_div_mul, Nat.mul_add_div hpos]
  omega

/-- The minutes with four decimals, as the loop behind the point leaves them. -/
def tenkMinutes : Nat :=
  match c.decimals with
  | none => number [c.tens, c.ones] * 10000
  | some decimals => number [c.tens, c.ones] * 10000 + 10 ^ 4 * number decimals / 10 ^ decimals.length

theorem tenkMinutes_lt : c.tenkMinutes < 600000 := by
  have hminutes := c.minutes_lt
  rw [tenkMinutes]
  cases c.decimals with
  | none =>
    dsimp only
    omega
  | some decimals =>
    have hlt : 10 ^ 4 * number decimals / 10 ^ decimals.length < 10 ^ 4 := by
      apply Nat.div_lt_of_lt_mul
      rw [Nat.mul_comm]
      exact Nat.mul_lt_mul_of_pos_right (number_lt decimals) (by decide)
    dsimp only
    omega

theorem hundredThousandths_eq : c.hundredThousandths = number c.degrees * 100000 + c.tenkMinutes / 6 := by
  rw [hundredThousandths, minutes, tenkMinutes]
  cases c.decimals with
  | none =>
    have hfloor := floor_degrees (number c.degrees) (number [c.tens, c.ones]) 0 0
    rwa [Nat.cast_zero, zero_div, Nat.mul_zero, Nat.zero_div, Nat.add_zero] at hfloor
  | some decimals =>
    exact floor_degrees (number c.degrees) (number [c.tens, c.ones]) (number decimals) decimals.length

/-- No step overflows, and what comes out is rounded down. -/
theorem parse_degrees_text : parse_degrees_checked c.text = some c.hundredThousandths := by
  obtain ⟨p, htext, ⟨-, hp⟩, hdecimals⟩ := c.text_digits
  have hdegrees := c.degrees_le
  have hminutes := c.minutes_lt
  have htenk := c.tenkMinutes_lt
  have hsplit : (number c.degrees * 100 + number [c.tens, c.ones]) % 100 = number [c.tens, c.ones] ∧
      (number c.degrees * 100 + number [c.tens, c.ones]) / 100 = number c.degrees := by omega
  have hbehind : c.text.dropWhile gpsisdigit = p := by
    rw [htext, List.dropWhile_append_of_pos (digits_isdigit _), hp]
  have hloop : decimals_checked p (number [c.tens, c.ones] * 10000) = some c.tenkMinutes := by
    rw [hdecimals _ (by omega), tenkMinutes]
  rw [hundredThousandths_eq]
  refine Option.bind_eq_some_iff.mpr ⟨_, c.gpsatol_text, ?_⟩
  rw [hsplit.1, hsplit.2, hbehind]
  refine Option.bind_eq_some_iff.mpr ⟨_, fits_of_lt (by omega), ?_⟩
  refine Option.bind_eq_some_iff.mpr ⟨_, hloop, ?_⟩
  exact Option.bind_eq_some_iff.mpr ⟨_, fits_of_lt (by omega), fits_of_lt (by omega)⟩

/-- `parse_degrees` rounds a coordinate down to hundred thousandths of a degree,
and no step of it overflows. -/
theorem parse_degrees_exact :
    parse_degrees_checked c.text = some c.hundredThousandths ∧
      (parse_degrees c.text).toNat = c.hundredThousandths :=
  ⟨c.parse_degrees_text, parse_degrees_toNat c.parse_degrees_text⟩

/-- 22 degrees and 57.1234567 minutes. -/
theorem seven_decimals_parsed :
    ∃ c : Coordinate, c.text = [0x32, 0x32, 0x35, 0x37, 0x2e, 0x31, 0x32, 0x33, 0x34, 0x35, 0x36, 0x37] ∧
      c.hundredThousandths = 2295205 ∧ (parse_degrees c.text).toNat = 2295205 := by
  let c : Coordinate := ⟨[2, 2], 5, 7, some [1, 2, 3, 4, 5, 6, 7], by decide, by decide, by decide⟩
  have hchecked : parse_degrees_checked c.text = some 2295205 := by decide +kernel
  obtain ⟨hexact, hvalue⟩ := c.parse_degrees_exact
  rw [hchecked, Option.some_inj] at hexact
  exact ⟨c, by decide, hexact.symm, hvalue.trans hexact.symm⟩

end Coordinate

end concretid.projetao
