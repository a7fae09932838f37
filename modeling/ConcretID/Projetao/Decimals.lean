import ConcretID.Projetao.Degrees

open concretid.numeral

namespace concretid.projetao

/-! ## Numbers with decimals -/

/-- A number as a receiver writes it: up to six digits and, behind a point, as many
decimals as it likes. -/
structure Decimal where
  whole : List (Fin 10)
  decimals : Option (List (Fin 10))
  whole_length : 1 ≤ whole.length ∧ whole.length ≤ 6

namespace Decimal

/-- The term of a number. -/
def text (d : Decimal) : List UInt8 :=
  d.whole.map digitChar ++
    match d.decimals with
    | none => []
    | some decimals => 0x2e :: decimals.map digitChar

/-- What it stands for. -/
def meant (d : Decimal) : ℚ :=
  number d.whole +
    match d.decimals with
    | none => 0
    | some decimals => number decimals / 10 ^ decimals.length

/-- Its hundredths. -/
def hundredths (d : Decimal) : Nat := ⌊(100 : ℚ) * d.meant⌋₊

end Decimal

/-- Digits with something else behind them. -/
theorem gpsatol_digits {digits : List (Fin 10)} (hlength : digits.length ≤ 6) {p : List UInt8}
    (hp : p.takeWhile gpsisdigit = []) : (gpsatol (digits.map digitChar ++ p)).toNat = number digits := by
  have hpow : 10 ^ digits.length ≤ 10 ^ 6 := Nat.pow_le_pow_right (by decide) hlength
  apply gpsatol_toNat
  rw [gpsatol_checked, List.takeWhile_append_of_pos (digits_isdigit _), hp, List.append_nil,
    gpsatol_foldlM_digits _ (by omega)]
  simp

theorem digitValue_digitChar (d : Fin 10) : (digitValue (digitChar d)).toNat = d.val := by
  rw [digitValue_toNat (digitChar_isdigit d), digitChar_toNat, Nat.add_sub_cancel_left]

theorem ten_digitValue (d : Fin 10) : (10 * digitValue (digitChar d)).toNat = 10 * d.val := by
  have hd := d.isLt
  rw [UInt32.toNat_mul, digitValue_digitChar]
  exact Nat.mod_eq_of_lt (Nat.lt_trans (Nat.mul_lt_mul_of_pos_left hd (by decide)) (by decide))

/-- The two decimals that are taken. -/
theorem hundredths_digits (digits : List (Fin 10)) :
    (hundredths (digits.map digitChar)).toNat = 10 ^ 2 * number digits / 10 ^ digits.length := by
  cases digits with
  | nil => rfl
  | cons d digits =>
    have hd := d.isLt
    rw [decimals_cons, Nat.pow_one]
    cases digits with
    | nil =>
      rw [List.map_singleton, hundredths, if_pos (digitChar_isdigit d), ten_digitValue]
      rfl
    | cons e digits =>
      have he := e.isLt
      have hsum : 10 * d.val + e.val < 2 ^ 32 := by omega
      rw [List.map_cons, List.map_cons, hundredths, if_pos (digitChar_isdigit d), if_pos (digitChar_isdigit e),
        UInt32.toNat_add, ten_digitValue, digitValue_digitChar, Nat.mod_eq_of_lt hsum]
      have hone := decimals_cons e digits 0
      rw [decimals_zero, Nat.pow_one, Nat.pow_zero, Nat.one_mul, Nat.add_zero] at hone
      rw [hone]

theorem floor_hundredths (whole decimals k : Nat) :
    ⌊(100 : ℚ) * (whole + decimals / 10 ^ k)⌋₊ = 100 * whole + 10 ^ 2 * decimals / 10 ^ k := by
  have hpos : 0 < 10 ^ k := Nat.pow_pos (by decide)
  have hne : (10 : ℚ) ^ k ≠ 0 := pow_ne_zero k (by norm_num)
  have hfraction : (100 : ℚ) * (whole + decimals / 10 ^ k) =
      ((10 ^ k * (100 * whole) + 10 ^ 2 * decimals : Nat) : ℚ) / ((10 ^ k : Nat) : ℚ) := by
    push_cast
    field_simp
  rw [hfraction, Nat.floor_div_eq_div, Nat.mul_add_div hpos]

namespace Decimal

variable (d : Decimal)

theorem hundredths_eq : d.hundredths = 100 * number d.whole +
    match d.decimals with
    | none => 0
    | some decimals => 10 ^ 2 * number decimals / 10 ^ decimals.length := by
  rw [Decimal.hundredths, meant]
  cases d.decimals with
  | none =>
    have hfloor := floor_hundredths (number d.whole) 0 0
    rwa [Nat.cast_zero, zero_div] at hfloor
  | some decimals => exact floor_hundredths (number d.whole) (number decimals) decimals.length

theorem hundredths_lt : d.hundredths < 100 * 10 ^ 6 := by
  have hwhole := number_lt d.whole
  have hpow : 10 ^ d.whole.length ≤ 10 ^ 6 := Nat.pow_le_pow_right (by decide) d.whole_length.2
  rw [hundredths_eq]
  cases d.decimals with
  | none =>
    dsimp only
    omega
  | some decimals =>
    have hlt : 10 ^ 2 * number decimals / 10 ^ decimals.length < 10 ^ 2 := by
      apply Nat.div_lt_of_lt_mul
      rw [Nat.mul_comm]
      exact Nat.mul_lt_mul_of_pos_right (number_lt decimals) (by decide)
    dsimp only
    omega

/-- It begins with a digit. -/
theorem text_head : ∃ first rest, d.text = digitChar first :: rest := by
  rw [text]
  cases hwhole : d.whole with
  | nil => exact absurd d.whole_length.1 (by rw [hwhole]; decide)
  | cons first rest => exact ⟨first, _, rfl⟩

/-- What `parse_decimal` does behind a sign. -/
def unsigned (p : List UInt8) : UInt32 :=
  match p.dropWhile gpsisdigit with
  | c :: rest => if c = 0x2e then 100 * gpsatol p + concretid.projetao.hundredths rest else 100 * gpsatol p
  | [] => 100 * gpsatol p

theorem unsigned_text : (unsigned d.text).toNat = d.hundredths := by
  have hlt := d.hundredths_lt
  rw [hundredths_eq] at hlt ⊢
  rw [unsigned, text]
  revert hlt
  cases d.decimals with
  | none =>
    intro hlt
    have hwhole := gpsatol_digits d.whole_length.2 (p := []) rfl
    dsimp only at hlt ⊢
    rw [List.dropWhile_append_of_pos (digits_isdigit _), List.dropWhile_nil]
    dsimp only
    rw [UInt32.toNat_mul, hwhole]
    exact Nat.mod_eq_of_lt (by rw [show (100 : UInt32).toNat = 100 from rfl]; omega)
  | some decimals =>
    intro hlt
    have hwhole := gpsatol_digits d.whole_length.2 (p := 0x2e :: decimals.map digitChar) rfl
    dsimp only at hlt ⊢
    have hpoint : (0x2e :: decimals.map digitChar).dropWhile gpsisdigit = 0x2e :: decimals.map digitChar := rfl
    have hhundred : (100 : UInt32).toNat = 100 := rfl
    rw [List.dropWhile_append_of_pos (digits_isdigit _), hpoint]
    dsimp only
    rw [if_pos rfl, UInt32.toNat_add, UInt32.toNat_mul, hwhole, hundredths_digits, hhundred]
    generalize 10 ^ 2 * number decimals / 10 ^ decimals.length = behind at hlt ⊢
    rw [Nat.mod_eq_of_lt (a := 100 * number d.whole) (by omega), Nat.mod_eq_of_lt (by omega)]

/-- `parse_decimal` rounds a number down to hundredths. -/
theorem parse_decimal_text : (parse_decimal d.text).toNat = d.hundredths := by
  obtain ⟨first, rest, htext⟩ := d.text_head
  have hsign : d.text.head? ≠ some 0x2d := by
    rw [htext, List.head?_cons]
    intro h
    have hdigit := digitChar_isdigit first
    rw [Option.some.inj h] at hdigit
    exact absurd hdigit (by decide)
  rw [parse_decimal]
  simp only [hsign, if_false]
  exact d.unsigned_text

/-- With a sign it is turned. -/
theorem parse_decimal_negative : parse_decimal (0x2d :: d.text) = -unsigned d.text := by
  rw [parse_decimal]
  rfl

end Decimal

/-- `atoi` takes up to three digits, and the cast a byte of them. -/
theorem satellites_digits {digits : List (Fin 10)} (hlength : 1 ≤ digits.length ∧ digits.length ≤ 3)
    (hlt : number digits < 256) : (satellites (digits.map digitChar)).toNat = number digits := by
  have hsix : digits.length ≤ 6 := Nat.le_trans hlength.2 (by decide)
  have hvalue := gpsatol_digits hsix (p := []) rfl
  rw [List.append_nil] at hvalue
  cases digits with
  | nil => exact absurd hlength.1 (by decide)
  | cons d digits =>
    have hhead : ∀ d : Fin 10, isspace (digitChar d) = false ∧ digitChar d ≠ 0x2d ∧ digitChar d ≠ 0x2b := by
      decide
    obtain ⟨hspace, hminus, hplus⟩ := hhead d
    rw [satellites, List.map_cons, List.dropWhile_cons_of_neg (by rw [hspace]; exact Bool.noConfusion)]
    dsimp only
    rw [if_neg hminus, if_neg hplus, ← List.map_cons, UInt8.toNat_toUInt32, UInt32.toNat_toUInt8, hvalue]
    exact Nat.mod_eq_of_lt hlt

end concretid.projetao
