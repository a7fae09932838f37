import ConcretID.Rfid.Inventory

open concretid.memory
open concretid.library (Begins)

namespace concretid.rfid

/-- The first four bytes of a response. -/
structure Header where
  len : UInt8
  adr : UInt8
  reCmd : UInt8
  status_ : UInt8

namespace Received

/-- The bytes that were received. -/
def bytes (received : Received) : List UInt8 := load received.bufferCmd 0 received.i

/-! ## The parsers with every access checked

An access is inside if it reads a byte that was received, or writes inside the
array it is for. A function with an access outside has no result. -/

/-- `bufferCmd [i]` -/
def fetch (received : Received) (i : Int) : Option UInt8 :=
  if 0 ≤ i ∧ i < received.i then some (received.bufferCmd i.toNat) else none

/-- `n` bytes from `bufferCmd + i` on. -/
def fetchAll (received : Received) (i n : Nat) : Option (List UInt8) :=
  if n = 0 ∨ i + n ≤ received.i then some (load received.bufferCmd i n) else none

/-- `memcpy` from `bufferCmd + i` into an array of the given size. -/
def copy (received : Received) (i n size : Nat) : Option (List UInt8) :=
  if n ≤ size then received.fetchAll i n else none

/-- The call of `checarChecksum`. -/
def check (received : Received) : Option Bool := do
  let LSB ← received.fetch ((received.i : Int) - 2)
  let MSB ← received.fetch ((received.i : Int) - 1)
  let covered ← received.fetchAll 0 (UInt16.ofNat received.i - 2).toUInt8.toNat
  return MSB = CRC_MSB (crc16 covered) && LSB = CRC_LSB (crc16 covered)

def header (received : Received) : Option Header := do
  return ⟨← received.fetch 0, ← received.fetch 1, ← received.fetch 2, ← received.fetch 3⟩

end Received

/-- The loop over the tags: `none` for an access outside, and inside `none` where the
loop ends in `exit(1)`. -/
def readTagsChecked (received : Received) : Nat → Nat → Nat → (Nat → EPC) → Option (Option (Nat → EPC))
  | 0, _, _, tags => some (some tags)
  | n + 1, contEPC, indiceAtual, tags =>
    if contEPC < 16 then do
      let len ← received.fetch indiceAtual
      if len > 16 then return none
      else
        let data ← received.copy (indiceAtual + 1) len.toNat 16
        readTagsChecked received n (contEPC + 1) (indiceAtual + len.toNat + 1)
          (Function.update tags contEPC ⟨len, store (tags contEPC).data 0 data⟩)
    else none

/-- The count and the tags, where the size of the response has room for them. -/
def countedTagsChecked (received : Received) (len : UInt8) (tags : Nat → EPC) :
    Option (Option (UInt8 × (Nat → EPC))) :=
  if len > 5 then do
    let num ← received.fetch 4
    let numTags := if num > 16 then 16 else num
    let tags ← readTagsChecked received numTags.toNat 0 5 tags
    return tags.map (numTags, ·)
  else some (some (0, tags))

def inventoryChecked (received : Received) (resposta : ResponseInventoryCMD) :
    Option (Option ResponseInventoryCMD) := do
  if ← received.check then
    let ⟨len, adr, reCmd, status_⟩ ← received.header
    let counted ← countedTagsChecked received len resposta.tags
    let LSB_CRC16 ← received.fetch ((received.i : Int) - 2)
    let MSB_CRC16 ← received.fetch ((received.i : Int) - 1)
    return counted.map fun (numTags, tags) =>
      ⟨0, 0, len, adr, reCmd, status_, numTags, tags, LSB_CRC16, MSB_CRC16⟩
  else return some { resposta with flagTimeout := 0, flagCRC := 1 }

def readDataChecked (received : Received) (resposta : ResponseReadDataCMD) : Option ResponseReadDataCMD := do
  if ← received.check then
    let ⟨len, adr, reCmd, status_⟩ ← received.header
    let qtdData := len - 5
    let data ← received.copy 4 qtdData.toNat 240
    let indiceAtual := qtdData.toNat + 4
    let LSB_CRC16 ← received.fetch indiceAtual
    let MSB_CRC16 ← received.fetch (indiceAtual + 1 : Nat)
    return ⟨0, 0, len, adr, reCmd, status_, qtdData, store resposta.data 0 data, LSB_CRC16, MSB_CRC16⟩
  else return { resposta with flagTimeout := 0, flagCRC := 1 }

/-! ## What the received bytes have to be -/

/-- The last two bytes are the checksum of those before them, whose number is cut to a
byte. -/
def passes (bytes : List UInt8) : Bool :=
  let crc := crc16 (bytes.take ((bytes.length - 2) % 256))
  bytes[bytes.length - 1]? = some (CRC_MSB crc) && bytes[bytes.length - 2]? = some (CRC_LSB crc)

/-- The response to an inventory holds its four first bytes, and where its size has
room for them the count and the records it counts, up to one that is too long. -/
structure InventoryWhole (bytes : List UInt8) : Prop where
  header : 4 ≤ bytes.length
  tags : 5 < bytes.getD 0 0 →
    5 ≤ bytes.length ∧ Begins UInt8.toNat 16 (min 16 (bytes.getD 4 0).toNat) (bytes.drop 5)

/-- The size of the response to a read leaves up to 240 bytes of data, and that many
bytes have come. -/
structure ReadDataWhole (bytes : List UInt8) : Prop where
  header : 5 ≤ bytes.getD 0 0
  data : bytes.getD 0 0 ≤ 245
  received : (bytes.getD 0 0).toNat < bytes.length

/-! ## Single accesses -/

namespace Received

variable {received : Received}

theorem length_bytes : received.bytes.length = received.i := load_length _ _ _

theorem fetch_of_lt {k : Nat} (h : k < received.i) : received.fetch k = some (received.bufferCmd k) :=
  if_pos ⟨Int.natCast_nonneg k, Int.ofNat_lt.mpr h⟩

theorem fetch_of_le {k : Nat} (h : received.i ≤ k) : received.fetch k = none :=
  if_neg fun hin => absurd (Int.ofNat_lt.mp hin.2) (Nat.not_lt.mpr h)

theorem getD_bytes {k : Nat} (h : k < received.i) : received.bytes.getD k 0 = received.bufferCmd k :=
  load_getD _ h 0

theorem check_of_short (h : received.i < 2) : received.check = none := by
  rw [check, fetch, if_neg (by omega)]
  rfl

/-- The number of bytes in the checksum. -/
theorem covered_toNat {n : Nat} (h : 2 ≤ n) : (UInt16.ofNat n - 2).toUInt8.toNat = (n - 2) % 256 := by
  obtain ⟨m, rfl⟩ := Nat.exists_eq_add_of_le' h
  have hcancel : UInt16.ofNat (m + 2) - 2 = UInt16.ofNat m := by
    rw [UInt16.ofNat_add]
    exact UInt16.add_sub_cancel _ _
  rw [hcancel, UInt16.toNat_toUInt8, UInt16.toNat_ofNat']
  omega

theorem bytes_getElem? {k : Nat} (h : k < received.i) : received.bytes[k]? = some (received.bufferCmd k) := by
  rw [bytes, load_getElem?, if_pos h, Nat.zero_add]

theorem passes_bytes (h : 2 ≤ received.i) (front : UInt8) : passes received.bytes = received.checked front := by
  have hle : (received.i - 2) % 256 ≤ received.i := Nat.le_trans (Nat.mod_le _ _) (Nat.sub_le _ _)
  have hone : ¬ received.i = 1 := by omega
  have htake : received.bytes.take ((received.i - 2) % 256) = load received.bufferCmd 0 ((received.i - 2) % 256) :=
    load_take _ _ hle
  have hmsb : received.bytes[received.i - 1]? = some (received.bufferCmd (received.i - 1)) :=
    bytes_getElem? (by omega)
  have hlsb : received.bytes[received.i - 2]? = some (received.bufferCmd (received.i - 2)) :=
    bytes_getElem? (by omega)
  simp only [passes, length_bytes, htake, hmsb, hlsb, Option.some.injEq, checked, checarChecksum, lsb, msb,
    if_neg hone, uiCrc16Cal, covered_toNat h]

/-- With two bytes there is nothing outside about the check. -/
theorem check_eq (h : 2 ≤ received.i) (front : UInt8) : received.check = some (received.checked front) := by
  have hle : (received.i - 2) % 256 ≤ received.i := Nat.le_trans (Nat.mod_le _ _) (Nat.sub_le _ _)
  have hone : ¬ received.i = 1 := by omega
  have hlsb : (received.i : Int) - 2 = (received.i - 2 : Nat) := by omega
  have hmsb : (received.i : Int) - 1 = (received.i - 1 : Nat) := by omega
  have hcovered : received.fetchAll 0 ((received.i - 2) % 256) =
      some (load received.bufferCmd 0 ((received.i - 2) % 256)) :=
    if_pos (.inr (by rwa [Nat.zero_add]))
  rw [check, hlsb, hmsb, fetch_of_lt (by omega), fetch_of_lt (by omega), covered_toNat h, hcovered]
  simp only [checked, checarChecksum, lsb, msb, if_neg hone, uiCrc16Cal, covered_toNat h]
  rfl

theorem copy_isSome_iff (received : Received) (i n size : Nat) :
    (received.copy i n size).isSome ↔ n ≤ size ∧ (n = 0 ∨ i + n ≤ received.i) := by
  rw [copy, fetchAll]
  split
  · next hsize =>
    split
    · next hin => exact iff_of_true rfl ⟨hsize, hin⟩
    · next hout => exact iff_of_false Bool.false_ne_true fun h => hout h.2
  · next hsize => exact iff_of_false Bool.false_ne_true fun h => hsize h.1

theorem copy_eq {i n size : Nat} {data : List UInt8} (h : received.copy i n size = some data) :
    data = load received.bufferCmd i n := by
  rw [copy, fetchAll] at h
  split at h
  · split at h
    · exact (Option.some.inj h).symm
    · cases h
  · cases h

end Received

/-! ## The loop over the tags -/

variable {received : Received}

theorem Received.bytes_drop {k : Nat} (h : k < received.i) :
    received.bytes.drop k = received.bufferCmd k :: received.bytes.drop (k + 1) := by
  have hlt : k < received.bytes.length := by rwa [Received.length_bytes]
  rw [List.drop_eq_getElem_cons hlt]
  congr 1
  simp [Received.bytes, load]

/-- Inside, the loop is the one of the function. -/
theorem readTagsChecked_eq {n contEPC indiceAtual : Nat} {tags : Nat → EPC} {r : Option (Nat → EPC)}
    (h : readTagsChecked received n contEPC indiceAtual tags = some r) :
    readTags received.bufferCmd n contEPC indiceAtual tags = r := by
  induction n generalizing contEPC indiceAtual tags with
  | zero => exact Option.some.inj h
  | succ n ih =>
    rw [readTagsChecked] at h
    split at h
    · obtain ⟨len, hlen, h⟩ := Option.bind_eq_some_iff.mp h
      have hbuffer : received.bufferCmd indiceAtual = len := by
        by_cases hin : indiceAtual < received.i
        · rw [Received.fetch_of_lt hin] at hlen
          exact Option.some.inj hlen
        · rw [Received.fetch_of_le (Nat.not_lt.mp hin)] at hlen
          cases hlen
      rw [readTags]
      simp only [hbuffer]
      split at h
      · next hlong =>
        rw [if_pos hlong]
        exact Option.some.inj h
      · next hshort =>
        rw [if_neg hshort]
        obtain ⟨data, hdata, h⟩ := Option.bind_eq_some_iff.mp h
        rw [Received.copy_eq hdata] at h
        exact ih h
    · cases h

/-- The loop stays inside exactly where the records it goes through have been received. -/
theorem readTagsChecked_isSome_iff (received : Received) {n contEPC : Nat} (indiceAtual : Nat) (tags : Nat → EPC)
    (hn : contEPC + n ≤ 16) :
    (readTagsChecked received n contEPC indiceAtual tags).isSome ↔
      Begins UInt8.toNat 16 n (received.bytes.drop indiceAtual) := by
  induction n generalizing contEPC indiceAtual tags with
  | zero => exact iff_of_true rfl (library.begins_zero _ _)
  | succ n ih =>
    rw [readTagsChecked, if_pos (by omega)]
    by_cases hin : indiceAtual < received.i
    · have hdrop := Received.bytes_drop hin
      rw [Received.fetch_of_lt hin, Option.bind_eq_bind, Option.bind_some, hdrop]
      by_cases hlong : received.bufferCmd indiceAtual > 16
      · rw [if_pos hlong]
        exact iff_of_true rfl (library.begins_of_long (UInt8.lt_iff_toNat_lt.mp hlong))
      · have hle : (received.bufferCmd indiceAtual).toNat ≤ 16 := UInt8.le_iff_toNat_le.mp (UInt8.not_lt.mp hlong)
        rw [if_neg hlong, library.begins_succ_iff hle, List.drop_drop, List.length_drop, Received.length_bytes]
        have hcopy := received.copy_isSome_iff (indiceAtual + 1) (received.bufferCmd indiceAtual).toNat 16
        cases hdata : received.copy (indiceAtual + 1) (received.bufferCmd indiceAtual).toNat 16 with
        | none =>
          rw [hdata] at hcopy
          have hout : ¬ (received.bufferCmd indiceAtual).toNat ≤ received.i - (indiceAtual + 1) := by
            intro hroom
            exact Bool.false_ne_true (hcopy.mpr ⟨hle, .inr (by omega)⟩)
          exact iff_of_false Bool.false_ne_true fun h => hout h.1
        | some data =>
          rw [hdata] at hcopy
          have hroom : (received.bufferCmd indiceAtual).toNat ≤ received.i - (indiceAtual + 1) := by
            have := (hcopy.mp rfl).2
            omega
          rw [and_iff_right hroom, Nat.add_right_comm, ← ih _ _ (by omega : contEPC + 1 + n ≤ 16)]
          rfl
    · rw [Received.fetch_of_le (Nat.not_lt.mp hin)]
      have hnil : received.bytes.drop indiceAtual = [] :=
        List.drop_eq_nil_of_le (by rw [Received.length_bytes]; exact Nat.not_lt.mp hin)
      rw [hnil]
      exact iff_of_false Bool.false_ne_true (library.not_begins_nil _ _)

/-! ## The two parsers -/

namespace Received

theorem header_of_short (h : received.i < 4) : received.header = none := by
  have hnone : received.fetch 3 = none := fetch_of_le (k := 3) (by omega)
  rw [header, hnone]
  cases received.fetch 0 <;> cases received.fetch 1 <;> cases received.fetch 2 <;> rfl

theorem header_eq (h : 4 ≤ received.i) : received.header =
    some ⟨received.bufferCmd 0, received.bufferCmd 1, received.bufferCmd 2, received.bufferCmd 3⟩ := by
  have h0 : received.fetch 0 = some (received.bufferCmd 0) := fetch_of_lt (k := 0) (by omega)
  have h1 : received.fetch 1 = some (received.bufferCmd 1) := fetch_of_lt (k := 1) (by omega)
  have h2 : received.fetch 2 = some (received.bufferCmd 2) := fetch_of_lt (k := 2) (by omega)
  have h3 : received.fetch 3 = some (received.bufferCmd 3) := fetch_of_lt (k := 3) (by omega)
  rw [header, h0, h1, h2, h3]
  rfl

/-- The last two bytes, found from the end. -/
theorem fetch_checksum (h : 2 ≤ received.i) :
    received.fetch ((received.i : Int) - 2) = some (received.bufferCmd (received.i - 2)) ∧
      received.fetch ((received.i : Int) - 1) = some (received.bufferCmd (received.i - 1)) := by
  have hlsb : (received.i : Int) - 2 = (received.i - 2 : Nat) := by omega
  have hmsb : (received.i : Int) - 1 = (received.i - 1 : Nat) := by omega
  rw [hlsb, hmsb]
  exact ⟨fetch_of_lt (by omega), fetch_of_lt (by omega)⟩

end Received

/-- The count is read where it has come, and then the records. -/
theorem countedTagsChecked_isSome_iff {len : UInt8} (hlen : received.bufferCmd 0 = len) (tags : Nat → EPC)
    (hfour : 4 ≤ received.i) :
    (countedTagsChecked received len tags).isSome ↔ InventoryWhole received.bytes := by
  have hheader : 4 ≤ received.bytes.length := by rwa [Received.length_bytes]
  have hsize : received.bytes.getD 0 0 = len := (Received.getD_bytes (by omega)).trans hlen
  rw [countedTagsChecked]
  by_cases hlong : len > 5
  · rw [if_pos hlong]
    by_cases hfive : 5 ≤ received.i
    · have hnum : received.fetch 4 = some (received.bufferCmd 4) := Received.fetch_of_lt (k := 4) hfive
      have hcount : received.bytes.getD 4 0 = received.bufferCmd 4 := Received.getD_bytes hfive
      have hmin : (if received.bufferCmd 4 > 16 then 16 else received.bufferCmd 4).toNat =
          min 16 (received.bufferCmd 4).toNat := by
        have h := numTags_toNat (received.bufferCmd 4).toNat_lt
        rwa [UInt8.ofNat_toNat] at h
      have hwalk := readTagsChecked_isSome_iff received 5 tags
        (show 0 + min 16 (received.bufferCmd 4).toNat ≤ 16 by omega)
      have hwhole : InventoryWhole received.bytes ↔
          Begins UInt8.toNat 16 (min 16 (received.bufferCmd 4).toNat) (received.bytes.drop 5) := by
        rw [← hcount]
        refine ⟨fun h => (h.tags (hsize.symm ▸ hlong)).2, fun h => ⟨hheader, fun _ => ⟨?_, h⟩⟩⟩
        rwa [Received.length_bytes]
      simp only [hnum, Option.bind_eq_bind, Option.bind_some, hmin]
      rw [hwhole, ← hwalk]
      cases readTagsChecked received (min 16 (received.bufferCmd 4).toNat) 0 5 tags <;> rfl
    · have hnum : received.fetch 4 = none := Received.fetch_of_le (k := 4) (by omega)
      rw [hnum]
      refine iff_of_false Bool.false_ne_true fun h => hfive ?_
      rw [← Received.length_bytes]
      exact (h.tags (hsize.symm ▸ hlong)).1
  · rw [if_neg hlong]
    exact iff_of_true rfl ⟨hheader, fun h => absurd (hsize ▸ h) hlong⟩

/-- The parser of an inventory has an access outside unless the response is whole or
fails the check. -/
theorem inventoryChecked_isSome_iff (received : Received) (resposta : ResponseInventoryCMD) :
    (inventoryChecked received resposta).isSome ↔
      2 ≤ received.bytes.length ∧ (passes received.bytes = true → InventoryWhole received.bytes) := by
  rw [Received.length_bytes]
  by_cases htwo : 2 ≤ received.i
  · rw [Received.passes_bytes htwo 0, inventoryChecked, Received.check_eq htwo 0, and_iff_right htwo]
    cases hchecked : received.checked 0 with
    | false => exact iff_of_true rfl fun h => absurd h Bool.false_ne_true
    | true =>
      rw [forall_prop_of_true rfl]
      by_cases hfour : 4 ≤ received.i
      · obtain ⟨hlsb, hmsb⟩ := Received.fetch_checksum htwo
        simp only [Option.bind_eq_bind, Option.bind_some, if_true, Received.header_eq hfour, hlsb, hmsb]
        rw [← countedTagsChecked_isSome_iff rfl resposta.tags hfour]
        cases countedTagsChecked received (received.bufferCmd 0) resposta.tags <;> rfl
      · simp only [Option.bind_eq_bind, Option.bind_some, if_true, Received.header_of_short (Nat.not_le.mp hfour),
          Option.bind_none]
        refine iff_of_false Bool.false_ne_true fun h => hfour ?_
        rw [← Received.length_bytes]
        exact h.header
  · rw [inventoryChecked, Received.check_of_short (by omega)]
    exact iff_of_false Bool.false_ne_true fun h => htwo h.1

/-- The length of the data is taken from the size, in a byte. -/
theorem qtdData_toNat (len : UInt8) :
    5 ≤ len.toNat ∧ (len - 5).toNat = len.toNat - 5 ∨ len.toNat < 5 ∧ (len - 5).toNat = len.toNat + 251 := by
  have hlt := len.toNat_lt
  have hfive : (5 : UInt8).toNat = 5 := rfl
  rw [UInt8.toNat_sub, hfive]
  omega

theorem readDataWhole_iff (hpos : 0 < received.i) :
    ReadDataWhole received.bytes ↔ 5 ≤ (received.bufferCmd 0).toNat ∧ (received.bufferCmd 0).toNat ≤ 245 ∧
      (received.bufferCmd 0).toNat < received.i := by
  have hsize : received.bytes.getD 0 0 = received.bufferCmd 0 := Received.getD_bytes hpos
  rw [← hsize, ← Received.length_bytes]
  exact ⟨fun h => ⟨UInt8.le_iff_toNat_le.mp h.header, UInt8.le_iff_toNat_le.mp h.data, h.received⟩,
    fun h => ⟨UInt8.le_iff_toNat_le.mpr h.1, UInt8.le_iff_toNat_le.mpr h.2.1, h.2.2⟩⟩

/-- The parser of a read has an access outside unless the response is whole or fails
the check. -/
theorem readDataChecked_isSome_iff (received : Received) (resposta : ResponseReadDataCMD) :
    (readDataChecked received resposta).isSome ↔
      2 ≤ received.bytes.length ∧ (passes received.bytes = true → ReadDataWhole received.bytes) := by
  rw [Received.length_bytes]
  by_cases htwo : 2 ≤ received.i
  · rw [Received.passes_bytes htwo 0, readDataChecked, Received.check_eq htwo 0, and_iff_right htwo]
    cases hchecked : received.checked 0 with
    | false => exact iff_of_true rfl fun h => absurd h Bool.false_ne_true
    | true =>
      rw [forall_prop_of_true rfl]
      have hsize : received.bytes.getD 0 0 = received.bufferCmd 0 := Received.getD_bytes (by omega)
      by_cases hfour : 4 ≤ received.i
      · simp only [Option.bind_eq_bind, Option.bind_some, if_true, Received.header_eq hfour]
        rw [readDataWhole_iff (by omega)]
        have hqtd := qtdData_toNat (received.bufferCmd 0)
        have hlt := (received.bufferCmd 0).toNat_lt
        have hcopy := received.copy_isSome_iff 4 (received.bufferCmd 0 - 5).toNat 240
        cases hdata : received.copy 4 (received.bufferCmd 0 - 5).toNat 240 with
        | none =>
          rw [hdata] at hcopy
          refine iff_of_false Bool.false_ne_true fun h => Bool.false_ne_true (hcopy.mpr ?_)
          omega
        | some data =>
          rw [hdata] at hcopy
          have hinside := hcopy.mp rfl
          by_cases hlast : (received.bufferCmd 0 - 5).toNat + 4 + 1 < received.i
          · rw [Received.fetch_of_lt (by omega), Received.fetch_of_lt hlast]
            exact iff_of_true rfl (by omega)
          · rw [Received.fetch_of_le (Nat.not_lt.mp hlast)]
            cases received.fetch ((received.bufferCmd 0 - 5).toNat + 4 : Nat) <;>
              exact iff_of_false Bool.false_ne_true (by omega)
      · simp only [Option.bind_eq_bind, Option.bind_some, if_true, Received.header_of_short (Nat.not_le.mp hfour),
          Option.bind_none]
        refine iff_of_false Bool.false_ne_true fun h => hfour ?_
        have hlt := h.received
        have hfive := UInt8.le_iff_toNat_le.mp h.header
        rw [Received.length_bytes] at hlt
        change 5 ≤ _ at hfive
        omega
  · rw [readDataChecked, Received.check_of_short (by omega)]
    exact iff_of_false Bool.false_ne_true fun h => htwo h.1

/-! ## Inside, these are the functions of the source -/

theorem Received.fetch_nat {k : Nat} {b : UInt8} (h : received.fetch k = some b) : received.bufferCmd k = b := by
  by_cases hin : k < received.i
  · rw [fetch_of_lt hin] at h
    exact Option.some.inj h
  · rw [fetch_of_le (Nat.not_lt.mp hin)] at h
    cases h

theorem countedTagsChecked_eq {len : UInt8} {tags : Nat → EPC} {counted : Option (UInt8 × (Nat → EPC))}
    (h : countedTagsChecked received len tags = some counted) :
    counted =
      if len > 5 then
        let numTags := if received.bufferCmd 4 > 16 then 16 else received.bufferCmd 4
        (readTags received.bufferCmd numTags.toNat 0 5 tags).map (numTags, ·)
      else some (0, tags) := by
  rw [countedTagsChecked] at h
  split at h
  · next hlong =>
    obtain ⟨num, hnum, h⟩ := Option.bind_eq_some_iff.mp h
    obtain ⟨tags', htags, h⟩ := Option.bind_eq_some_iff.mp h
    have hbuffer : received.bufferCmd 4 = num := Received.fetch_nat (k := 4) hnum
    rw [if_pos hlong]
    simp only [hbuffer, readTagsChecked_eq htags]
    exact (Option.some.inj h).symm
  · next hshort =>
    rw [if_neg hshort]
    exact (Option.some.inj h).symm

/-- A result has at least the bytes of the check behind it. -/
theorem Received.two_of_check {R : Type} {f : Bool → Option R} {r : R} (h : received.check.bind f = some r) :
    2 ≤ received.i := by
  by_contra hshort
  rw [check_of_short (Nat.not_le.mp hshort)] at h
  cases h

theorem Received.four_of_header {R : Type} {f : Header → Option R} {r : R}
    (h : received.header.bind f = some r) : 4 ≤ received.i := by
  by_contra hshort
  rw [header_of_short (Nat.not_le.mp hshort)] at h
  cases h

/-- Where all accesses of the parser of an inventory are inside, it gives the response
of the function. -/
theorem inventoryChecked_eq {resposta : ResponseInventoryCMD} {r : Option ResponseInventoryCMD}
    (h : inventoryChecked received resposta = some r) (front : UInt8) :
    inventoryResponse received front resposta = r := by
  have htwo := Received.two_of_check h
  have hone : ¬ received.i = 1 := by omega
  rw [inventoryChecked, Received.check_eq htwo front] at h
  simp only [inventoryResponse]
  cases hchecked : received.checked front with
  | false =>
    rw [hchecked] at h
    exact Option.some.inj h
  | true =>
    rw [hchecked] at h
    simp only [Option.bind_eq_bind, Option.bind_some, if_true] at h
    have hfour := Received.four_of_header h
    obtain ⟨hlsb, hmsb⟩ := Received.fetch_checksum htwo
    simp only [Received.header_eq hfour, Option.bind_some, hlsb, hmsb] at h
    obtain ⟨counted, hcounted, h⟩ := Option.bind_eq_some_iff.mp h
    rw [countedTagsChecked_eq hcounted] at h
    simp only [if_true, Received.lsb, Received.msb, if_neg hone]
    rw [← Option.some.inj h]
    split
    · simp only [Option.map_map]
      rfl
    · rfl

/-- And so does that of a read. -/
theorem readDataChecked_eq {resposta r : ResponseReadDataCMD}
    (h : readDataChecked received resposta = some r) (front : UInt8) :
    readDataResponse received front resposta = r := by
  have htwo := Received.two_of_check h
  rw [readDataChecked, Received.check_eq htwo front] at h
  simp only [readDataResponse]
  cases hchecked : received.checked front with
  | false =>
    rw [hchecked] at h
    exact Option.some.inj h
  | true =>
    rw [hchecked] at h
    simp only [Option.bind_eq_bind, Option.bind_some, if_true] at h
    have hfour := Received.four_of_header h
    simp only [Received.header_eq hfour, Option.bind_some] at h
    obtain ⟨data, hdata, h⟩ := Option.bind_eq_some_iff.mp h
    obtain ⟨LSB_CRC16, hlsb, h⟩ := Option.bind_eq_some_iff.mp h
    obtain ⟨MSB_CRC16, hmsb, h⟩ := Option.bind_eq_some_iff.mp h
    simp only [if_true, Received.fetch_nat hlsb, Received.fetch_nat hmsb, ← Received.copy_eq hdata]
    exact Option.some.inj h

theorem eq_some_iff_isSome {R : Type} {checked : Option R} {r : R} (h : ∀ r', checked = some r' → r = r') :
    checked = some r ↔ checked.isSome := by
  cases checked with
  | none => exact iff_of_false (Option.some_ne_none r).symm Bool.false_ne_true
  | some r' => rw [h r' rfl, Option.isSome_some, eq_self, eq_self]

/-- The two parsers access only bytes that were received, and write only inside their
arrays, exactly if at least two bytes came and what passes the check is whole. They then
give what the functions give. -/
theorem responses_inside_iff (received : Received) (front : UInt8) (inventoried : ResponseInventoryCMD)
    (read : ResponseReadDataCMD) :
    (inventoryChecked received inventoried = some (inventoryResponse received front inventoried) ↔
        2 ≤ received.bytes.length ∧ (passes received.bytes = true → InventoryWhole received.bytes)) ∧
      (readDataChecked received read = some (readDataResponse received front read) ↔
        2 ≤ received.bytes.length ∧ (passes received.bytes = true → ReadDataWhole received.bytes)) := by
  refine ⟨?_, ?_⟩
  · rw [eq_some_iff_isSome fun r hr => inventoryChecked_eq hr front, inventoryChecked_isSome_iff]
  · rw [eq_some_iff_isSome fun r hr => readDataChecked_eq hr front, readDataChecked_isSome_iff]

/-- One tag of five bytes that are not there, and a right checksum. -/
def cutTag : Received := ⟨8, fun i => [0x07, 0x00, 0x01, 0x01, 0x01, 0x05, 0xB3, 0x1C].getD i 0, []⟩

/-- A size of 4, and a right checksum. -/
def shortRead : Received := ⟨5, fun i => [0x04, 0x00, 0x02, 0x40, 0x79].getD i 0, []⟩

theorem cut_responses_outside :
    cutTag.checked 0 = true ∧ inventoryChecked cutTag blankResponse = none ∧
      shortRead.checked 0 = true ∧
      readDataChecked shortRead ⟨0, 0, 0, 0, 0, 0, 0, fun _ => 0, 0, 0⟩ = none := by
  have hcut : inventoryChecked cutTag blankResponse = none := by
    rw [← Option.not_isSome_iff_eq_none]
    decide +kernel
  have hshort : readDataChecked shortRead ⟨0, 0, 0, 0, 0, 0, 0, fun _ => 0, 0, 0⟩ = none := by
    rw [← Option.not_isSome_iff_eq_none]
    decide +kernel
  exact ⟨by decide +kernel, hcut, by decide +kernel, hshort⟩

end concretid.rfid
