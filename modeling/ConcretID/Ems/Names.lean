import Mathlib.Tactic.IntervalCases
import ConcretID.Library.Carry
import ConcretID.Ems.Interface

open concretid.carry

namespace concretid.ems

/-! ## `make_name_from_mac` -/

abbrev MAC_SIZE : Nat := 6

/-- The bytes at `X_IEEE_ADDR`. -/
abbrev Mac : Type := List.Vector UInt8 MAC_SIZE

def consonants : List UInt8 :=
  chars ['q', 'w', 'r', 't', 'p', 's', 'd', 'f', 'g', 'h', 'j', 'k', 'l', 'z', 'x', 'c', 'v', 'b',
    'n', 'm']

def vowels : List UInt8 := chars ['a', 'e', 'i', 'o', 'u']

/-- The variables of `make_name_from_mac`, with the bytes written so far. -/
structure Naming where
  written : List UInt8
  j : Nat
  rem : UInt16

namespace Naming

/-- `if( ++j >= NAME_SIZE ) return; *name++ = letters[rem%n]; rem /= n;`. The
bytes written are the error of a return. -/
def put (s : Naming) (letters : List UInt8) (n : UInt16) : Except (List UInt8) Naming :=
  if NAME_SIZE ≤ s.j + 1 then .error s.written
  else .ok
    { written := s.written ++ [letters.getD (s.rem % n).toNat 0]
      j := s.j + 1
      rem := s.rem / n }

def syllable (s : Naming) : Except (List UInt8) Naming :=
  (s.put consonants 20).bind fun s => s.put vowels 5

/-- One round of the loop over the address. -/
def byte (s : Naming) (macp : UInt8) : Except (List UInt8) Naming :=
  { s with rem := (s.rem <<< 8) + macp.toUInt16 }.syllable

/-- The last loop: `while( ++j < NAME_SIZE ) *name++ = 0;`. -/
def fill (s : Naming) : List UInt8 := s.written ++ List.replicate (NAME_SIZE - (s.j + 1)) 0

end Naming

/-- The bytes that `make_name_from_mac` writes. -/
def name_written (mac : Mac) : List UInt8 :=
  let named := (mac.toList.foldlM Naming.byte { written := [126], j := 1, rem := 0 }).bind
    Naming.syllable
  match named with
  | .ok s => s.fill
  | .error written => written

/-- `make_name_from_mac` into the memory of a name. -/
def make_name_from_mac (name : Name) (mac : Mac) : Name :=
  ⟨(name_written mac ++ name.toList.drop (name_written mac).length).take NAME_SIZE, by
    have hname : name.toList.length = NAME_SIZE := name.2
    rw [List.length_take, List.length_append, List.length_drop]
    omega⟩

/-! ## The letters -/

/-- The two letters that a number is reduced to. -/
def letters (r : Nat) : List UInt8 := [consonants.getD (r % 20) 0, vowels.getD (r / 20 % 5) 0]

theorem letters_length (r : Nat) : (letters r).length = 2 := rfl

/-- The letters tell a number up to multiples of 100. -/
theorem letters_eq_iff (r r' : Nat) : letters r = letters r' ↔ r % 100 = r' % 100 := by
  have hconsonants : ∀ a < 20, ∀ b < 20, consonants.getD a 0 = consonants.getD b 0 → a = b := by
    decide
  have hvowels : ∀ a < 5, ∀ b < 5, vowels.getD a 0 = vowels.getD b 0 → a = b := by decide
  constructor
  · intro heq
    simp only [letters, List.cons.injEq, and_true] at heq
    have hfirst := hconsonants _ (Nat.mod_lt r (by decide)) _ (Nat.mod_lt r' (by decide)) heq.1
    have hsecond := hvowels _ (Nat.mod_lt (r / 20) (by decide)) _ (Nat.mod_lt (r' / 20) (by decide))
      heq.2
    omega
  · intro hmod
    have hfirst : r % 20 = r' % 20 := by omega
    have hsecond : r / 20 % 5 = r' / 20 % 5 := by omega
    rw [letters, letters, hfirst, hsecond]

theorem letters_ne_zero {r : Nat} {c : UInt8} (hc : c ∈ letters r) : c ≠ 0 := by
  have hconsonants : ∀ a < 20, consonants.getD a 0 ≠ 0 := by decide
  have hvowels : ∀ a < 5, vowels.getD a 0 ≠ 0 := by decide
  simp only [letters, List.mem_cons, List.not_mem_nil, or_false] at hc
  cases hc with
  | inl hfirst =>
    rw [hfirst]
    exact hconsonants _ (Nat.mod_lt r (by decide))
  | inr hsecond =>
    rw [hsecond]
    exact hvowels _ (Nat.mod_lt (r / 20) (by decide))

/-- As long as there is room, a number leaves its two letters and what they do
not tell. -/
theorem Naming.syllable_eq {s : Naming} (hroom : s.j + 2 < NAME_SIZE) :
    s.syllable = .ok
      { written := s.written ++ letters s.rem.toNat
        j := s.j + 2
        rem := s.rem / 20 / 5 } := by
  rw [syllable, put, if_neg (by omega)]
  change Naming.put _ vowels 5 = _
  rw [put, if_neg (Nat.not_le.mpr hroom), List.append_assoc]
  simp [letters, UInt16.toNat_mod, UInt16.toNat_div]

/-! ## The name of an address -/

/-- The bytes of an address as numbers. -/
def Mac.byte (mac : Mac) (i : Nat) : Nat := (mac.toList.getD i 0).toNat

theorem Mac.byte_lt (mac : Mac) (i : Nat) : mac.byte i < 256 := (mac.toList.getD i 0).toNat_lt

theorem Mac.carried_step (mac : Mac) {i q : Nat} (hq : carried 256 100 mac.byte i ≤ q) :
    carried 256 100 mac.byte (i + 1) ≤ (256 * q + 255) / 100 := by
  have hbyte := mac.byte_lt i
  rw [carried_succ, term]
  omega

/-- The loop carries no more than a byte into a round, and not much more out
of the last one. -/
theorem Mac.carried_le (mac : Mac) :
    (∀ i < MAC_SIZE, carried 256 100 mac.byte i ≤ 138) ∧
      carried 256 100 mac.byte MAC_SIZE ≤ 355 := by
  have h0 : carried 256 100 mac.byte 0 ≤ 0 := Nat.le_refl 0
  have h1 : carried 256 100 mac.byte 1 ≤ 2 := mac.carried_step h0
  have h2 : carried 256 100 mac.byte 2 ≤ 7 := mac.carried_step h1
  have h3 : carried 256 100 mac.byte 3 ≤ 20 := mac.carried_step h2
  have h4 : carried 256 100 mac.byte 4 ≤ 53 := mac.carried_step h3
  have h5 : carried 256 100 mac.byte 5 ≤ 138 := mac.carried_step h4
  refine ⟨fun i hi => ?_, mac.carried_step h5⟩
  interval_cases i <;> omega

/-- One round of the loop. -/
theorem Naming.byte_eq {s : Naming} (macp : UInt8) (hroom : s.j + 2 < NAME_SIZE)
    (hrem : s.rem.toNat < 256) :
    s.byte macp = .ok
      { written := s.written ++ letters (256 * s.rem.toNat + macp.toNat)
        j := s.j + 2
        rem := UInt16.ofNat ((256 * s.rem.toNat + macp.toNat) / 100) } := by
  have hmac := macp.toNat_lt
  have hshift : (s.rem <<< 8).toNat = 256 * s.rem.toNat := by
    have hfactor : s.rem.toNat <<< ((8 : UInt16).toNat % 16) = s.rem.toNat * 256 :=
      Nat.shiftLeft_eq _ _
    rw [UInt16.toNat_shiftLeft, hfactor, Nat.mod_eq_of_lt (by omega), Nat.mul_comm]
  have hvalue : ((s.rem <<< 8) + macp.toUInt16).toNat = 256 * s.rem.toNat + macp.toNat := by
    rw [UInt16.toNat_add, hshift, UInt8.toNat_toUInt16, Nat.mod_eq_of_lt (by omega)]
  rw [byte, syllable_eq (s := { s with rem := (s.rem <<< 8) + macp.toUInt16 }) hroom, hvalue]
  congr 2
  apply UInt16.toNat_inj.mp
  have hsize : (256 * s.rem.toNat + macp.toNat) / 100 < UInt16.size := by
    rw [UInt16.size]
    omega
  rw [UInt16.toNat_div, UInt16.toNat_div, hvalue, UInt16.toNat_ofNat_of_lt' hsize,
    Nat.div_div_eq_div_mul]
  rfl

/-- The variables after `i` rounds. -/
def Mac.rounds (mac : Mac) (i : Nat) : Naming :=
  { written := 126 :: (List.range i).flatMap fun k => letters (term 256 100 mac.byte k)
    j := 1 + 2 * i
    rem := UInt16.ofNat (carried 256 100 mac.byte i) }

theorem Mac.foldlM_byte (mac : Mac) {i : Nat} (hi : i ≤ MAC_SIZE) :
    (mac.toList.take i).foldlM Naming.byte { written := [126], j := 1, rem := 0 } =
      .ok (mac.rounds i) := by
  induction i with
  | zero => rfl
  | succ i ih =>
    have hlength : i < mac.toList.length := by
      rw [List.Vector.toList_length]
      omega
    have hcarried : carried 256 100 mac.byte i < 256 := by
      have hle := mac.carried_le.1 i hi
      omega
    have hrem : (mac.rounds i).rem.toNat = carried 256 100 mac.byte i :=
      UInt16.toNat_ofNat_of_lt' (lt_of_lt_of_le hcarried (by decide))
    have hmac : (mac.toList[i]).toNat = mac.byte i := by
      rw [byte, List.getD_eq_getElem?_getD, List.getElem?_eq_getElem hlength, Option.getD_some]
    have hroom : (mac.rounds i).j + 2 < NAME_SIZE := by
      simp only [rounds, NAME_SIZE, MAC_SIZE] at hi ⊢
      omega
    have hround := Naming.byte_eq (s := mac.rounds i) mac.toList[i] hroom (by omega)
    rw [List.take_succ_eq_append_getElem hlength, List.foldlM_append, ih (Nat.le_of_succ_le hi)]
    refine Eq.trans ?_ (hround.trans ?_)
    · simp only [List.foldlM_cons, List.foldlM_nil, bind_pure]
      rfl
    · rw [hrem, hmac]
      simp only [rounds, List.range_succ, List.flatMap_append, List.flatMap_singleton,
        List.cons_append]
      rfl

/-- The tilde, two letters for each byte of the address and two for the rest. -/
theorem name_written_eq (mac : Mac) :
    name_written mac = 126 :: ((List.range MAC_SIZE).flatMap fun k =>
      letters (term 256 100 mac.byte k)) ++ letters (carried 256 100 mac.byte MAC_SIZE) := by
  have hwhole : mac.toList.take MAC_SIZE = mac.toList :=
    List.take_of_length_le (by rw [List.Vector.toList_length])
  have hloop := mac.foldlM_byte (Nat.le_refl MAC_SIZE)
  rw [hwhole] at hloop
  have hrem : (mac.rounds MAC_SIZE).rem.toNat = carried 256 100 mac.byte MAC_SIZE := by
    have hle := mac.carried_le.2
    exact UInt16.toNat_ofNat_of_lt' (lt_of_le_of_lt hle (by decide))
  have hroom : (mac.rounds MAC_SIZE).j + 2 < NAME_SIZE :=
    (by decide : 1 + 2 * MAC_SIZE + 2 < NAME_SIZE)
  have hlast := Naming.syllable_eq hroom
  rw [hrem] at hlast
  have hbind : (mac.toList.foldlM Naming.byte { written := [126], j := 1, rem := 0 }).bind
      Naming.syllable = _ := (congrArg (Except.bind · Naming.syllable) hloop).trans hlast
  rw [name_written, hbind]
  exact List.append_nil _

theorem name_written_length (mac : Mac) : (name_written mac).length = NAME_SIZE - 1 := by
  have hbody : ((List.range MAC_SIZE).flatMap fun k =>
      letters (term 256 100 mac.byte k)).length = 2 * MAC_SIZE := rfl
  rw [name_written_eq, List.cons_append, List.length_cons, List.length_append, hbody, letters_length]
  rfl

/-- The last byte of a name is not written. -/
theorem make_name_from_mac_toList (name : Name) (mac : Mac) :
    (make_name_from_mac name mac).toList =
      name_written mac ++ name.toList.drop (NAME_SIZE - 1) := by
  have hname : name.toList.length = NAME_SIZE := name.2
  change (name_written mac ++ name.toList.drop (name_written mac).length).take NAME_SIZE = _
  rw [name_written_length, List.take_of_length_le]
  rw [List.length_append, name_written_length, List.length_drop, hname]
  decide

theorem name_written_ne_zero {mac : Mac} {c : UInt8} (hc : c ∈ name_written mac) : c ≠ 0 := by
  rw [name_written_eq] at hc
  simp only [List.cons_append, List.mem_cons, List.mem_append, List.mem_flatMap] at hc
  obtain rfl | ⟨k, -, hletter⟩ | hletter := hc
  · decide
  · exact letters_ne_zero hletter
  · exact letters_ne_zero hletter

theorem flatMap_range_eq_iff {f g : Nat → List UInt8} (hlength : ∀ k, (f k).length = (g k).length)
    (n : Nat) : (List.range n).flatMap f = (List.range n).flatMap g ↔ ∀ k < n, f k = g k := by
  induction n with
  | zero => simp
  | succ n ih =>
    rw [List.range_succ, List.flatMap_append, List.flatMap_append, List.flatMap_singleton,
      List.flatMap_singleton]
    constructor
    · intro heq k hk
      obtain ⟨hfirst, hlast⟩ := List.append_inj' heq (hlength n)
      cases Nat.lt_or_eq_of_le (Nat.le_of_lt_succ hk) with
      | inl hlt => exact ih.mp hfirst k hlt
      | inr heqk => rw [heqk, hlast]
    · intro hall
      rw [ih.mpr fun k hk => hall k (Nat.lt_succ_of_lt hk), hall n (Nat.lt_succ_self n)]

/-- The difference of two addresses is lost in their names: it is divided by
100 exactly after every byte, and twice after the last one. -/
def Lost (m m' : Mac) : Prop :=
  (∀ i ≤ MAC_SIZE, (100 : Int) ^ i ∣ difference 256 100 m.byte m'.byte i) ∧
    (100 : Int) ^ (MAC_SIZE + 1) ∣ difference 256 100 m.byte m'.byte MAC_SIZE

theorem name_written_eq_iff (m m' : Mac) : name_written m = name_written m' ↔ Lost m m' := by
  rw [name_written_eq, name_written_eq, Lost]
  refine Iff.trans ?_ (cut_eq_iff (by decide : 0 < 100) MAC_SIZE)
  rw [List.cons_append, List.cons_append, List.cons.injEq, and_iff_right rfl, ← letters_eq_iff]
  have hbody := flatMap_range_eq_iff (f := fun k => letters (term 256 100 m.byte k))
    (g := fun k => letters (term 256 100 m'.byte k)) (fun _ => rfl) MAC_SIZE
  simp only [letters_eq_iff] at hbody
  rw [← hbody]
  constructor
  · intro heq
    exact List.append_inj' heq rfl
  · rintro ⟨hfirst, hlast⟩
    rw [hfirst, hlast]

/-- `strncmp` compares what is written. -/
theorem strncmp_name_iff (name : Name) (m m' : Mac) :
    strncmp_eq (make_name_from_mac name m).toList (make_name_from_mac name m').toList NAME_SIZE =
      true ↔ name_written m = name_written m' := by
  have hcstring : ∀ mac : Mac, cstring ((make_name_from_mac name mac).toList.take NAME_SIZE) =
      name_written mac ++ cstring (name.toList.drop (NAME_SIZE - 1)) := by
    intro mac
    rw [List.take_of_length_le (by rw [List.Vector.toList_length]), make_name_from_mac_toList,
      cstring, List.takeWhile_append_of_pos]
    · rfl
    · intro c hc
      simpa using name_written_ne_zero hc
  rw [strncmp_eq, hcstring, hcstring, beq_iff_eq]
  exact List.append_left_inj _

theorem make_name_eq_iff (name : Name) (m m' : Mac) :
    make_name_from_mac name m = make_name_from_mac name m' ↔ name_written m = name_written m' := by
  rw [← List.append_left_inj (name.toList.drop (NAME_SIZE - 1)), ← make_name_from_mac_toList,
    ← make_name_from_mac_toList]
  exact ⟨congrArg _, fun h => List.Vector.toList_injective h⟩

/-- The names that two nodes give themselves are told apart, also by
`find_table_by_name`, unless the difference of their addresses is lost. -/
theorem names_told_apart_iff (name : Name) (m m' : Mac) :
    (m ≠ m' → make_name_from_mac name m ≠ make_name_from_mac name m' ∧
      strncmp_eq (make_name_from_mac name m).toList (make_name_from_mac name m').toList
        NAME_SIZE = false) ↔
      m = m' ∨ ¬ Lost m m' := by
  rw [ne_eq, ne_eq, make_name_eq_iff, ← Bool.not_eq_true, strncmp_name_iff, name_written_eq_iff,
    and_self, or_iff_not_imp_left]

/-- Two addresses with the name `~qaqalaqaqaqaqa`. -/
theorem names_shared :
    (⟨[0x00, 0xc8, 0x00, 0xdc, 0x3c, 0x10], rfl⟩ : Mac) ≠ ⟨[0x00, 0x00, 0x0c, 0x00, 0x00, 0x00], rfl⟩ ∧
    make_name_from_mac (nameOf []) ⟨[0x00, 0xc8, 0x00, 0xdc, 0x3c, 0x10], rfl⟩ =
      make_name_from_mac (nameOf []) ⟨[0x00, 0x00, 0x0c, 0x00, 0x00, 0x00], rfl⟩ := by
  decide

end concretid.ems
