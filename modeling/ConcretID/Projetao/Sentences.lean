import ConcretID.Library.Split
import ConcretID.Projetao.Gps
import ConcretID.Library.Since

open concretid.history

namespace concretid.projetao

/-! ## The sentence received

The characters behind the last `$`, and the terms they are cut into. -/

def isTerminator (c : UInt8) : Bool := c == 0x2c || c == 0x0d || c == 0x0a || c == 0x2a

theorem not_comma {c : UInt8} (hc : isTerminator c = false) : (c == 0x2c) = false := by
  rw [isTerminator, Bool.or_eq_false_iff, Bool.or_eq_false_iff, Bool.or_eq_false_iff] at hc
  exact hc.1.1.1

def isDollar (c : UInt8) : Bool := c == 0x24

def GPRMC_TERM : List UInt8 := [0x47, 0x50, 0x52, 0x4d, 0x43]
def GPGGA_TERM : List UInt8 := [0x47, 0x50, 0x47, 0x47, 0x41]

/-- The value of a hexadecimal digit, in either case. -/
def hexDigit (c : UInt8) : Option Nat :=
  if 0x30 ≤ c ∧ c ≤ 0x39 then some (c.toNat - 0x30)
  else if 0x41 ≤ c ∧ c ≤ 0x46 then some (c.toNat - 0x41 + 10)
  else if 0x61 ≤ c ∧ c ≤ 0x66 then some (c.toNat - 0x61 + 10)
  else none

/-- All characters but carriage returns and line feeds, combined. -/
def exclusiveOr (text : List UInt8) : UInt8 :=
  (text.filter fun c => c != 0x0d && c != 0x0a).foldl (· ^^^ ·) 0

/-- The term with the flag of a type says that the data are good. -/
def Flagged : SentenceType → List (List UInt8) → Prop
  | .GPRMC, terms => ∃ term, terms[2]? = some term ∧ term.head? = some 0x41
  | .GPGGA, terms => ∃ term flag, terms[6]? = some term ∧ term.head? = some flag ∧ 0x30 < flag ∧ flag < 0x80
  | .OTHER, _ => False

/-- The first term is one of the two, and the data are good. -/
def Titled (terms : List (List UInt8)) : Prop :=
  (terms[0]? = some GPRMC_TERM ∧ Flagged .GPRMC terms) ∨ (terms[0]? = some GPGGA_TERM ∧ Flagged .GPGGA terms)

/-- A terminator ends a checksum that is right, of a sentence with good data. -/
structure Genuine (chars : List UInt8) (c : UInt8) : Prop where
  terminator : isTerminator c = true
  sentence : ∃ before body digits, chars = before ++ 0x24 :: (body ++ 0x2a :: digits) ∧
    (∀ d ∈ body ++ 0x2a :: digits, isDollar d = false) ∧ (∀ d ∈ digits, isTerminator d = false) ∧
    (∃ a b rest high low, digits = a :: b :: rest ∧ hexDigit a = some high ∧ hexDigit b = some low ∧
      16 * high + low = (exclusiveOr body).toNat) ∧
    Titled (body.splitOnP isTerminator)

/-! ## What the parity is made of -/

/-- The last term was ended by `*`. -/
def starred (text : List UInt8) : Bool :=
  text.foldl (fun star c => if isTerminator c then c == 0x2a else star) false

/-- The characters combined that are picked, by whether the last term before them was
ended by `*` and by what they are. -/
def combined (pick : Bool → UInt8 → Bool) (text : List UInt8) : UInt8 :=
  (text.foldl (fun state c =>
    (if isTerminator c then c == 0x2a else state.1, if pick state.1 c then state.2 ^^^ c else state.2))
    (false, 0)).2

/-- What `encode` puts into the parity. -/
def summed : List UInt8 → UInt8 :=
  combined fun star c => c == 0x2c || !isTerminator c && !star

/-- What it leaves out, other than carriage returns and line feeds: the `*` and the terms
behind them. -/
def skipped : List UInt8 → UInt8 :=
  combined fun star c => c == 0x2a || !isTerminator c && star

theorem starred_snoc (text : List UInt8) (c : UInt8) :
    starred (text ++ [c]) = if isTerminator c then c == 0x2a else starred text := by
  rw [starred, List.foldl_append]
  rfl

theorem combined_snoc (pick : Bool → UInt8 → Bool) (text : List UInt8) (c : UInt8) :
    combined pick (text ++ [c]) =
      if pick (starred text) c then combined pick text ^^^ c else combined pick text := by
  have hstar : (text.foldl (fun state c =>
      (if isTerminator c then c == 0x2a else state.1, if pick state.1 c then state.2 ^^^ c else state.2))
      (false, (0 : UInt8))).1 = starred text := by
    induction text using List.reverseRecOn with
    | nil => rfl
    | append_singleton text c ih =>
      rw [List.foldl_append, List.foldl_cons, List.foldl_nil, starred_snoc]
      dsimp only
      rw [ih]
  rw [combined, List.foldl_append, List.foldl_cons, List.foldl_nil]
  dsimp only
  rw [hstar]
  rfl

theorem exclusiveOr_snoc (text : List UInt8) (c : UInt8) :
    exclusiveOr (text ++ [c]) = if c != 0x0d && c != 0x0a then exclusiveOr text ^^^ c else exclusiveOr text := by
  rw [exclusiveOr, List.filter_append, List.foldl_append, List.filter_singleton]
  cases c != 0x0d && c != 0x0a <;> rfl

theorem xor_right_comm (a b c : UInt8) : (a ^^^ c) ^^^ b = (a ^^^ b) ^^^ c := by
  rw [UInt8.xor_assoc, UInt8.xor_comm c b, ← UInt8.xor_assoc]

/-- Every character but a carriage return and a line feed is either summed or skipped. -/
theorem exclusiveOr_eq (text : List UInt8) : exclusiveOr text = summed text ^^^ skipped text := by
  induction text using List.reverseRecOn with
  | nil => rfl
  | append_singleton text c ih =>
    rw [exclusiveOr_snoc, summed, skipped, combined_snoc, combined_snoc, ← summed, ← skipped, ih]
    by_cases hcomma : c = 0x2c
    · subst hcomma
      exact (xor_right_comm _ _ _).symm
    by_cases hstar : c = 0x2a
    · subst hstar
      exact UInt8.xor_assoc _ _ _
    by_cases hreturn : c = 0x0d
    · subst hreturn
      rfl
    by_cases hfeed : c = 0x0a
    · subst hfeed
      rfl
    have hordinary : isTerminator c = false := by simp [isTerminator, hcomma, hstar, hreturn, hfeed]
    cases hterm : starred text with
    | true => simpa [hordinary, hcomma, hstar, hreturn, hfeed] using UInt8.xor_assoc _ _ _
    | false => simpa [hordinary, hcomma, hstar, hreturn, hfeed] using (xor_right_comm _ _ _).symm

/-! ## A sentence with a checksum term at its end -/

theorem starred_digits (body : List UInt8) {digits : List UInt8} (hdigits : ∀ d ∈ digits, isTerminator d = false) :
    starred (body ++ 0x2a :: digits) = true ∧ summed (body ++ 0x2a :: digits) = summed body := by
  induction digits using List.reverseRecOn with
  | nil =>
    rw [starred_snoc, summed, combined_snoc]
    exact ⟨rfl, rfl⟩
  | append_singleton digits d ih =>
    obtain ⟨hstar, hsum⟩ := ih fun e he => hdigits e (List.mem_append_left _ he)
    have hd : isTerminator d = false := hdigits d (by simp)
    rw [← List.cons_append, ← List.append_assoc, starred_snoc, summed, combined_snoc, ← summed, hstar, hsum, hd,
      not_comma hd]
    exact ⟨rfl, rfl⟩

/-- Behind a `*` the sentence splits there. -/
theorem exists_digits {text : List UInt8} (h : starred text = true) :
    ∃ body digits, text = body ++ 0x2a :: digits ∧ ∀ d ∈ digits, isTerminator d = false := by
  induction text using List.reverseRecOn with
  | nil => cases h
  | append_singleton text c ih =>
    rw [starred_snoc] at h
    by_cases hc : isTerminator c = true
    · rw [if_pos hc] at h
      exact ⟨text, [], by rw [beq_iff_eq.mp h], fun d hd => absurd hd List.not_mem_nil⟩
    · rw [if_neg hc] at h
      obtain ⟨body, digits, rfl, hdigits⟩ := ih h
      refine ⟨body, digits ++ [c], by simp, fun d hd => ?_⟩
      obtain hd | hd := List.mem_append.mp hd
      · exact hdigits d hd
      · rw [List.mem_singleton.mp hd]
        exact Bool.eq_false_iff.mpr hc

theorem since_digits (body : List UInt8) {digits : List UInt8} (hdigits : ∀ d ∈ digits, isTerminator d = false) :
    since isTerminator (body ++ 0x2a :: digits) = digits := by
  rw [since_append_cons body digits rfl]
  exact since_append_of_none [] digits hdigits

/-- The terms that have ended are those of the body. -/
theorem closed_digits (body : List UInt8) {digits : List UInt8} (hdigits : ∀ d ∈ digits, isTerminator d = false) :
    closed isTerminator (body ++ 0x2a :: digits) = body.splitOnP isTerminator := by
  have hsplit := closed_append_since isTerminator (body ++ 0x2a :: digits)
  rw [since_digits body hdigits, List.splitOnP_append_cons body digits rfl,
    List.splitOnP_eq_singleton hdigits] at hsplit
  exact List.append_cancel_right hsplit

/-! ## The first term -/

/-- The type of a sentence with a first term. -/
def typeOf (text : List UInt8) : SentenceType :=
  if gpsstrcmp text GPRMC_TERM = 0 then .GPRMC else if gpsstrcmp text GPGGA_TERM = 0 then .GPGGA else .OTHER

/-- What of a term stands in `_term`, up to a NUL. -/
def kept (term : List UInt8) : List UInt8 := library.before 0 (term.take 14)

/-- The comparison takes a beginning of a term for the term. -/
def Abbreviated (term : List UInt8) : Prop :=
  0 ∈ term ∨ (term <+: GPRMC_TERM ∧ term ≠ GPRMC_TERM) ∨ (term <+: GPGGA_TERM ∧ term ≠ GPGGA_TERM)

theorem gpsstrcmp_eq_zero_iff {str1 : List UInt8} (hzero : 0 ∉ str1) (str2 : List UInt8) :
    gpsstrcmp str1 str2 = 0 ↔ str1 <+: str2 := by
  induction str1 generalizing str2 with
  | nil => exact iff_of_true rfl (List.nil_prefix)
  | cons c str1 ih =>
    rw [List.mem_cons, not_or] at hzero
    cases str2 with
    | nil =>
      apply iff_of_false (Ne.symm hzero.1)
      rw [List.prefix_nil]
      exact List.cons_ne_nil c str1
    | cons d str2 =>
      rw [gpsstrcmp, List.cons_prefix_cons]
      split
      · next hcd => rw [ih hzero.2, and_iff_right hcd]
      · next hcd => exact iff_of_false (Ne.symm hzero.1) fun h => hcd h.1

theorem not_mem_kept (term : List UInt8) : 0 ∉ kept term := library.not_mem_before 0 _

/-- A term without a NUL that begins a name of five letters stands in `_term` whole. -/
theorem eq_kept {term name : List UInt8} (hzero : 0 ∉ term) (hname : name.length = 5) (h : kept term <+: name) :
    kept term = term := by
  have htake : kept term = term.take 14 := library.before_eq_self fun h => hzero (List.mem_of_mem_take h)
  have hlength := h.length_le
  rw [htake, List.length_take] at hlength
  rw [htake, List.take_of_length_le (by omega)]

/-- A term the comparison finds is that term, or an abbreviation. -/
theorem eq_of_typeOf {term : List UInt8} (habbreviated : ¬ Abbreviated term) :
    (typeOf (kept term) = .GPRMC → term = GPRMC_TERM) ∧ (typeOf (kept term) = .GPGGA → term = GPGGA_TERM) := by
  simp only [Abbreviated, not_or, not_and, not_not] at habbreviated
  obtain ⟨hzero, hrmc, hgga⟩ := habbreviated
  rw [typeOf]
  split
  · next h =>
    rw [gpsstrcmp_eq_zero_iff (not_mem_kept term)] at h
    have hterm := eq_kept hzero rfl h
    rw [hterm] at h
    exact ⟨fun _ => hrmc h, fun htype => by cases htype⟩
  · split
    · next h =>
      rw [gpsstrcmp_eq_zero_iff (not_mem_kept term)] at h
      have hterm := eq_kept hzero rfl h
      rw [hterm] at h
      exact ⟨fun htype => (by cases htype), fun _ => hgga h⟩
    · exact ⟨fun htype => (by cases htype), fun htype => by cases htype⟩

theorem not_abbreviated_of_titled {terms : List (List UInt8)} (h : Titled terms) {term : List UInt8}
    (hterm : terms[0]? = some term) : ¬ Abbreviated term := by
  obtain ⟨hfirst, -⟩ | ⟨hfirst, -⟩ := h
  · rw [hfirst] at hterm
    rw [← Option.some.inj hterm, Abbreviated]
    decide
  · rw [hfirst] at hterm
    rw [← Option.some.inj hterm, Abbreviated]
    decide

/-! ## The checksum -/

/-- `from_hex` of a hexadecimal digit is its value. -/
theorem from_hex_of_hexDigit {c : UInt8} {v : Nat} (h : hexDigit c = some v) : (from_hex c).toNat = v ∧ v < 16 := by
  have hletter (first : UInt8) (hfirst : first ≤ c) (hlt : c.toNat - first.toNat < 6) :
      (c - first + 10).toNat = c.toNat - first.toNat + 10 := by
    have hten : (10 : UInt8).toNat = 10 := rfl
    rw [UInt8.toNat_add, UInt8.toNat_sub_of_le _ _ hfirst, hten, Nat.mod_eq_of_lt (by omega)]
  simp only [hexDigit, UInt8.le_iff_toNat_le] at h
  rw [from_hex]
  simp only [UInt8.le_iff_toNat_le]
  have h30 : (0x30 : UInt8).toNat = 0x30 := rfl
  have h39 : (0x39 : UInt8).toNat = 0x39 := rfl
  have h41 : (0x41 : UInt8).toNat = 0x41 := rfl
  have h46 : (0x46 : UInt8).toNat = 0x46 := rfl
  have h61 : (0x61 : UInt8).toNat = 0x61 := rfl
  have h66 : (0x66 : UInt8).toNat = 0x66 := rfl
  rw [h30, h39, h41, h46, h61, h66] at h
  rw [h41, h46, h61, h66]
  split at h
  · rw [if_neg (by omega), if_neg (by omega), UInt8.toNat_sub_of_le _ _ (UInt8.le_iff_toNat_le.mpr (by omega)), h30]
    have := Option.some.inj h
    omega
  split at h
  · next hupper =>
    rw [if_pos hupper, hletter 0x41 (UInt8.le_iff_toNat_le.mpr hupper.1) (by omega), h41]
    have := Option.some.inj h
    omega
  split at h
  · next hupper hlower =>
    rw [if_neg hupper, if_pos hlower, hletter 0x61 (UInt8.le_iff_toNat_le.mpr hlower.1) (by omega), h61]
    have := Option.some.inj h
    omega
  · cases h

/-- Two hexadecimal digits are taken for the byte they spell. -/
theorem spelled_iff {a b parity : UInt8} {high low : Nat} (ha : hexDigit a = some high) (hb : hexDigit b = some low) :
    16 * from_hex a + from_hex b = parity ↔ 16 * high + low = parity.toNat := by
  obtain ⟨hhigh, hlt⟩ := from_hex_of_hexDigit ha
  obtain ⟨hlow, hlt'⟩ := from_hex_of_hexDigit hb
  have hsixteen : (16 : UInt8).toNat = 16 := rfl
  rw [← UInt8.toNat_inj, UInt8.toNat_add, UInt8.toNat_mul, hhigh, hlow, hsixteen]
  have hmul : 16 * high % 2 ^ 8 = 16 * high := Nat.mod_eq_of_lt (by omega)
  rw [hmul, Nat.mod_eq_of_lt (by omega)]

end concretid.projetao
