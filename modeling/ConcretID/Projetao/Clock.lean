import ConcretID.Projetao.Reception

open concretid.numeral

namespace concretid.projetao

/-! ## What is asked of the variables -/

/-- The age of a fix, in milliseconds. -/
def fix_age (last now : UInt32) : UInt32 := if last = 0xFFFFFFFF then 0xFFFFFFFF else now - last

namespace Gps

/-- `get_datetime`: the date, the time and their age. -/
def get_datetime (s : Gps) (now : UInt32) : UInt32 × UInt32 × UInt32 :=
  (s.published .date, s.published .time, fix_age s.last_time_fix now)

end Gps

/-- The results of `crack_datetime`. -/
structure DateTime where
  year : Nat
  month : UInt8
  day : UInt8
  hour : UInt8
  minute : UInt8
  second : UInt8
  hundredths : UInt8
  age : UInt32
  deriving DecidableEq

def Gps.crack_datetime (s : Gps) (now : UInt32) : DateTime :=
  let (date, time, age) := s.get_datetime now
  let year := (date % 100).toNat
  { year := year + if year > 80 then 1900 else 2000
    month := (date / 100 % 100).toUInt8
    day := (date / 10000).toUInt8
    hour := (time / 1000000).toUInt8
    minute := (time / 10000 % 100).toUInt8
    second := (time / 100 % 100).toUInt8
    hundredths := (time % 100).toUInt8
    age }

/-! ## Dates and times -/

theorem toNat_of_signed {u : UInt32} {n : Nat} (h : signed u = n) : u.toNat = n := by
  have hint : u.toBitVec.toInt = n := h
  rw [BitVec.toInt_eq_toNat_cond] at hint
  have hlt := u.toNat_lt
  split at hint
  · exact_mod_cast hint
  · rw [UInt32.toNat_toBitVec] at hint
    omega

/-- Two digits. -/
def pair (a b : Fin 10) : Nat := 10 * a.val + b.val

theorem pair_lt (a b : Fin 10) : pair a b < 100 := by
  have := a.isLt
  have := b.isLt
  rw [pair]
  omega

theorem number_six (a b c d e f : Fin 10) :
    number [a, b, c, d, e, f] = 10000 * pair a b + 100 * pair c d + pair e f := by
  simp only [number_cons, List.length_cons, List.length_nil, pair]
  simp [number, value]
  omega

theorem date_parts {date : UInt32} {day month year : Nat} (hday : day < 100) (hmonth : month < 100)
    (hyear : year < 100) (hdate : date.toNat = 10000 * day + 100 * month + year) :
    (date % 100).toNat = year ∧ (date / 100 % 100).toUInt8.toNat = month ∧
      (date / 10000).toUInt8.toNat = day := by
  simp only [UInt32.toNat_mod, UInt32.toNat_div, UInt32.toNat_toUInt8, hdate, UInt32.reduceToNat]
  omega

theorem time_parts {time : UInt32} {hour minute second hundredths : Nat} (hhour : hour < 100)
    (hminute : minute < 100) (hsecond : second < 100) (hhundredths : hundredths < 100)
    (htime : time.toNat = 100 * (10000 * hour + 100 * minute + second) + hundredths) :
    (time / 1000000).toUInt8.toNat = hour ∧ (time / 10000 % 100).toUInt8.toNat = minute ∧
      (time / 100 % 100).toUInt8.toNat = second ∧ (time % 100).toUInt8.toNat = hundredths := by
  simp only [UInt32.toNat_mod, UInt32.toNat_div, UInt32.toNat_toUInt8, htime, UInt32.reduceToNat]
  omega

/-- The hundredths of a second. -/
def Decimal.behind (d : Decimal) : Nat :=
  match d.decimals with
  | none => 0
  | some decimals => 10 ^ 2 * number decimals / 10 ^ decimals.length

theorem Decimal.behind_lt (d : Decimal) : d.behind < 100 := by
  rw [behind]
  cases d.decimals with
  | none => decide
  | some decimals =>
    apply Nat.div_lt_of_lt_mul
    rw [Nat.mul_comm]
    exact Nat.mul_lt_mul_of_pos_right (number_lt decimals) (by decide)

end concretid.projetao
