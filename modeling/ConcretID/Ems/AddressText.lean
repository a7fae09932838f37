import ConcretID.Ems.Content
import ConcretID.Ems.Interface

namespace concretid.ems

/-! ## `UID_PRINT` -/

/-- The two characters of `PRINT_HEX(x)`. -/
def PRINT_HEX (x : UInt8) : List UInt8 :=
  [if x >>> 4 < 10 then (x >>> 4) + 48 else (x >>> 4) + (65 - 10),
    if x &&& 15 < 10 then (x &&& 15) + 48 else (x &&& 15) + (65 - 10)]

def UID_PRINT (uid : Uid) : List UInt8 := uid.toList.flatMap PRINT_HEX

/-! ## Digits -/

/-- The hexadecimal digits of both cases. -/
def hexDigits : List UInt8 :=
  chars ['0', '1', '2', '3', '4', '5', '6', '7', '8', '9', 'a', 'b', 'c', 'd', 'e', 'f', 'A', 'B',
    'C', 'D', 'E', 'F']

def toupper (c : UInt8) : UInt8 := if 97 ≤ c ∧ c ≤ 122 then c - 32 else c

/-- The byte of two digits. -/
def byteOf (high low : UInt8) : UInt8 :=
  (hexDigit high).getD 0 <<< 4 ||| (hexDigit low).getD 0

/-- The bytes of a text of digits. -/
def bytesOf : List UInt8 → List UInt8
  | high :: low :: text => byteOf high low :: bytesOf text
  | _ => []

theorem hexDigit_isSome : ∀ c ∈ hexDigits, (hexDigit c).isSome = true := by
  decide +kernel

/-- What is printed of a byte are two digits, and they give the byte back. -/
theorem PRINT_HEX_digits : ∀ x : UInt8, ∃ high low, PRINT_HEX x = [high, low] ∧
    high ∈ hexDigits ∧ low ∈ hexDigits ∧ byteOf high low = x := by
  refine forall_byte fun n => ⟨_, _, rfl, ?_⟩
  revert n
  decide +kernel

theorem PRINT_HEX_byteOf : ∀ high ∈ hexDigits, ∀ low ∈ hexDigits,
    PRINT_HEX (byteOf high low) = [toupper high, toupper low] := by
  decide +kernel

theorem bytesOf_printed (bytes : List UInt8) : bytesOf (bytes.flatMap PRINT_HEX) = bytes := by
  induction bytes with
  | nil => rfl
  | cons x bytes ih =>
    obtain ⟨high, low, hprinted, -, -, hbyte⟩ := PRINT_HEX_digits x
    rw [List.flatMap_cons, hprinted]
    change byteOf high low :: bytesOf (bytes.flatMap PRINT_HEX) = x :: bytes
    rw [hbyte, ih]

theorem printed_length (bytes : List UInt8) :
    (bytes.flatMap PRINT_HEX).length = 2 * bytes.length := by
  induction bytes with
  | nil => rfl
  | cons x bytes ih =>
    rw [List.flatMap_cons, List.length_append, ih, List.length_cons, PRINT_HEX]
    simp only [List.length_cons, List.length_nil]
    omega

theorem mem_printed {bytes : List UInt8} {c : UInt8} (hc : c ∈ bytes.flatMap PRINT_HEX) :
    c ∈ hexDigits := by
  obtain ⟨x, -, hx⟩ := List.mem_flatMap.mp hc
  obtain ⟨high, low, hprinted, hhigh, hlow, -⟩ := PRINT_HEX_digits x
  rw [hprinted, List.mem_cons, List.mem_singleton] at hx
  obtain rfl | rfl := hx
  · exact hhigh
  · exact hlow

/-- The bytes of a text of digits are printed as the text in upper case. -/
theorem printed_bytesOf {text : List UInt8} {n : Nat} (hlength : text.length = 2 * n)
    (hdigits : ∀ c ∈ text, c ∈ hexDigits) : (bytesOf text).flatMap PRINT_HEX = text.map toupper := by
  induction n generalizing text with
  | zero =>
    obtain rfl := List.eq_nil_of_length_eq_zero hlength
    rfl
  | succ n ih =>
    match text, hlength with
    | high :: low :: text, hlength =>
      rw [List.forall_mem_cons, List.forall_mem_cons] at hdigits
      obtain ⟨hhigh, hlow, hrest⟩ := hdigits
      rw [List.length_cons, List.length_cons] at hlength
      rw [bytesOf, List.flatMap_cons, PRINT_HEX_byteOf high hhigh low hlow, ih (by omega) hrest]
      rfl

/-! ## `uid_create` -/

/-- From the byte `k` on, the loop replaces the bytes by those of the digits. -/
theorem uid_create_loop_eq {text : List UInt8} {k : Nat} (hlength : text.length = 2 * (UID_SIZE - k))
    (hk : k ≤ UID_SIZE) (hdigits : ∀ c ∈ text, c ∈ hexDigits) (rest : List UInt8) (uid : Uid) :
    (uid_create_loop ((List.finRange UID_SIZE).drop k) (text ++ rest) uid).toList =
      uid.toList.take k ++ bytesOf text := by
  obtain ⟨n, hn⟩ : ∃ n, n = UID_SIZE - k := ⟨_, rfl⟩
  rw [← hn] at hlength
  induction n generalizing text k uid with
  | zero =>
    obtain rfl := List.eq_nil_of_length_eq_zero hlength
    obtain rfl : k = UID_SIZE := by omega
    rw [List.drop_of_length_le (by rw [List.length_finRange]), List.take_of_length_le (by simp)]
    simp [uid_create_loop, bytesOf]
  | succ n ih =>
    match text, hlength with
    | high :: low :: text, hlength =>
      rw [List.forall_mem_cons, List.forall_mem_cons] at hdigits
      obtain ⟨hhigh, hlow, hrest⟩ := hdigits
      rw [List.length_cons, List.length_cons] at hlength
      have hlt : k < UID_SIZE := by omega
      obtain ⟨h, hh⟩ := Option.isSome_iff_exists.mp (hexDigit_isSome high hhigh)
      obtain ⟨l, hl⟩ := Option.isSome_iff_exists.mp (hexDigit_isSome low hlow)
      have hbyte : byteOf high low = h <<< 4 ||| l := by rw [byteOf, hh, hl]; rfl
      have hindex : (List.finRange UID_SIZE).drop k =
          ⟨k, hlt⟩ :: (List.finRange UID_SIZE).drop (k + 1) := by
        rw [List.drop_eq_getElem_cons (by rwa [List.length_finRange]), List.getElem_finRange]
        rfl
      rw [hindex, List.cons_append, List.cons_append, uid_create_loop, hh, hl]
      dsimp only
      rw [ih (by omega) hrest _ (by omega) (by omega), bytesOf, hbyte, List.Vector.toList_set]
      have hset : (uid.toList.set k (h <<< 4 ||| l)).take (k + 1) =
          uid.toList.take k ++ [h <<< 4 ||| l] := by
        rw [List.take_add_one, List.take_set_of_le (Nat.le_refl k),
          List.getElem?_set_self (by rwa [List.Vector.toList_length])]
        rfl
      rw [hset, List.append_assoc, List.singleton_append]

/-- 32 digits give the uid of their bytes, whatever was there and whatever follows. -/
theorem uid_create_digits {text : List UInt8} (hlength : text.length = 2 * UID_SIZE)
    (hdigits : ∀ c ∈ text, c ∈ hexDigits) (rest : List UInt8) (old : Uid) :
    (uid_create old (text ++ rest)).toList = bytesOf text :=
  uid_create_loop_eq (k := 0) hlength (Nat.zero_le _) hdigits rest old

theorem UID_PRINT_length (uid : Uid) : (UID_PRINT uid).length = 2 * UID_SIZE := by
  rw [UID_PRINT, printed_length, List.Vector.toList_length]

theorem uid_create_UID_PRINT (uid old : Uid) (rest : List UInt8) :
    uid_create old (UID_PRINT uid ++ rest) = uid := by
  apply List.Vector.toList_injective
  rw [uid_create_digits (UID_PRINT_length uid) (fun _ => mem_printed), UID_PRINT, bytesOf_printed]

theorem UID_PRINT_uid_create {text : List UInt8} (hlength : text.length = 2 * UID_SIZE)
    (hdigits : ∀ c ∈ text, c ∈ hexDigits) (old : Uid) :
    UID_PRINT (uid_create old text) = text.map toupper := by
  have hcreated := uid_create_digits hlength hdigits [] old
  rw [List.append_nil] at hcreated
  rw [UID_PRINT, hcreated, printed_bytesOf hlength hdigits]

/-- The text of an address is read back as the address, and 32 digits are
printed back in upper case. -/
theorem address_text_round_trip (old : Uid) :
    (∀ uid : Uid, (UID_PRINT uid).length = 2 * UID_SIZE ∧ uid_create old (UID_PRINT uid) = uid) ∧
      ∀ text : List.Vector UInt8 (2 * UID_SIZE), (∀ c ∈ text.toList, c ∈ hexDigits) →
        UID_PRINT (uid_create old text.toList) = text.toList.map toupper := by
  refine ⟨fun uid => ⟨UID_PRINT_length uid, ?_⟩, fun text hdigits => ?_⟩
  · have hcreated := uid_create_UID_PRINT uid old []
    rwa [List.append_nil] at hcreated
  · exact UID_PRINT_uid_create text.toList_length hdigits old

/-- The digits of an address in both cases. -/
def mixedText : List.Vector UInt8 (2 * UID_SIZE) :=
  ⟨chars ['f', 'E', '8', '0', '0', '0', '0', '0', '0', '0', '0', '0', '0', '0', '0', '0', '0', '2',
    '1', '2', '4', 'b', '0', '0', '0', '1', 'A', 'b', 'C', 'd', 'e', 'F'], rfl⟩

theorem mixedText_printed :
    UID_PRINT (uid_create null_uid mixedText.toList) = mixedText.toList.map toupper :=
  (address_text_round_trip null_uid).2 mixedText (by decide +kernel)

/-! ## The command that blocks an address -/

/-- `block` with the address that a node prints silences that node. -/
theorem Node.cmd_block_printed (s : Node) (uid : Uid) (rest : List UInt8) :
    (s.cmd_block (space :: (UID_PRINT uid ++ rest))).is_blocked uid = true := by
  have hprefix : afterPrefix [space] (space :: (UID_PRINT uid ++ rest)) =
      some (UID_PRINT uid ++ rest) := by
    simp [afterPrefix]
  rw [cmd_block, hprefix]
  dsimp only
  rw [uid_create_UID_PRINT, block_uid, is_blocked, List.any_eq_true]
  refine ⟨s.last_blocked, List.mem_finRange _, ?_⟩
  dsimp only
  rw [Function.update_self, beq_self_eq_true]

end concretid.ems
