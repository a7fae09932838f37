import Mathlib.Data.Nat.Digits.Defs

namespace concretid.numeral

/-- The digits of a text up to its first character that is none. -/
def run {α : Type} (digit : α → Option Nat) (text : List α) : List Nat :=
  (text.takeWhile fun c => (digit c).isSome).filterMap digit

/-- What lies behind the longest run of digits. -/
def rest {α : Type} (digit : α → Option Nat) (text : List α) : List α :=
  text.dropWhile fun c => (digit c).isSome

/-- The value of a numeral, its most significant digit first. -/
def value (base : Nat) (digits : List Nat) : Nat :=
  digits.foldl (fun v d => v * base + d) 0

theorem value_eq_ofDigits (base : Nat) (digits : List Nat) :
    value base digits = Nat.ofDigits base digits.reverse := by
  rw [value, Nat.ofDigits_eq_foldr, List.foldr_reverse]
  congr 1
  funext v d
  simp [Nat.add_comm, Nat.mul_comm]

theorem value_append (base : Nat) (high low : List Nat) :
    value base (high ++ low) = value base high * base ^ low.length + value base low := by
  rw [value_eq_ofDigits, value_eq_ofDigits, value_eq_ofDigits, List.reverse_append,
    Nat.ofDigits_append, List.length_reverse, Nat.mul_comm, Nat.add_comm]

theorem value_lt {base : Nat} (hbase : 1 < base) {digits : List Nat} (h : ∀ d ∈ digits, d < base) :
    value base digits < base ^ digits.length := by
  have hlt := Nat.ofDigits_lt_base_pow_length (l := digits.reverse) hbase
    (fun d hd => h d (List.mem_reverse.mp hd))
  rwa [List.length_reverse, ← value_eq_ofDigits] at hlt

variable {α : Type} {digit : α → Option Nat} {c : α} {text : List α}

@[simp] theorem run_nil : run digit [] = [] := rfl

@[simp] theorem rest_nil : rest digit [] = [] := rfl

theorem run_cons_some {d : Nat} (hc : digit c = some d) :
    run digit (c :: text) = d :: run digit text := by
  simp [run, hc]

theorem rest_cons_some {d : Nat} (hc : digit c = some d) :
    rest digit (c :: text) = rest digit text := by
  simp [rest, hc]

theorem run_cons_none (hc : digit c = none) : run digit (c :: text) = [] := by
  simp [run, hc]

theorem rest_cons_none (hc : digit c = none) : rest digit (c :: text) = c :: text := by
  simp [rest, hc]

/-- Collecting the digits in a word gives the value modulo the word's size. -/
theorem foldl_bmod (base m : Nat) (digits : List Nat) (start : Int) :
    digits.foldl (fun (ret : Int) (d : Nat) => (ret * base + d).bmod m) (start.bmod m) =
      (digits.foldl (fun (v : Int) (d : Nat) => v * base + d) start).bmod m := by
  induction digits generalizing start with
  | nil => rfl
  | cons d digits ih =>
    rw [List.foldl_cons, List.foldl_cons, ← ih]
    congr 1
    rw [Int.add_bmod, Int.bmod_mul_bmod, ← Int.add_bmod]

theorem foldl_cast (base : Nat) (digits : List Nat) (start : Nat) :
    digits.foldl (fun (v : Int) (d : Nat) => v * base + d) start =
      (digits.foldl (fun v d => v * base + d) start : Nat) := by
  induction digits generalizing start with
  | nil => rfl
  | cons d digits ih =>
    rw [List.foldl_cons, List.foldl_cons, ← ih]
    push_cast
    rfl

theorem collected_eq (base m : Nat) (digits : List Nat) :
    digits.foldl (fun (ret : Int) (d : Nat) => (ret * base + d).bmod m) 0 =
      (value base digits : Int).bmod m := by
  have hfold := foldl_bmod base m digits 0
  rw [Int.zero_bmod] at hfold
  rw [hfold, value, ← foldl_cast]
  rfl

/-- A laxer test for digits reads the same numeral unless the first character
behind it passes the laxer test. -/
theorem lax_eq_iff {lax : α → Option Nat} (hlax : ∀ c d, digit c = some d → lax c = some d)
    (text : List α) :
    rest lax text = rest digit text ↔ ∀ c, (rest digit text).head? = some c → lax c = none := by
  induction text with
  | nil => simp
  | cons c text ih =>
    cases hc : digit c with
    | some d => rw [rest_cons_some hc, rest_cons_some (hlax c d hc), ih]
    | none =>
      rw [rest_cons_none hc]
      cases hl : lax c with
      | some d =>
        have hshort : (rest lax text).length ≤ text.length :=
          (List.dropWhile_sublist _).length_le
        refine iff_of_false ?_ (by simp [hl])
        rw [rest_cons_some hl]
        intro heq
        have hlength := congrArg List.length heq
        rw [List.length_cons] at hlength
        omega
      | none =>
        rw [rest_cons_none hl]
        simp [hl]

/-- With the same end, the digits are the same. -/
theorem run_lax {lax : α → Option Nat} (hlax : ∀ c d, digit c = some d → lax c = some d)
    (text : List α) (h : ∀ c, (rest digit text).head? = some c → lax c = none) :
    run lax text = run digit text := by
  induction text with
  | nil => rfl
  | cons c text ih =>
    cases hc : digit c with
    | some d =>
      rw [run_cons_some hc, run_cons_some (hlax c d hc)]
      rw [rest_cons_some hc] at h
      rw [ih h]
    | none =>
      rw [rest_cons_none hc] at h
      rw [run_cons_none hc, run_cons_none (h c rfl)]

end concretid.numeral
