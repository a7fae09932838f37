import ConcretID.Flasher.Frames
import ConcretID.Library.Crc
import ConcretID.Rfid.Responses

open concretid.memory concretid.crc

namespace concretid

/-! ## The register of `uiCrc16Cal` -/

namespace flasher

/-- One turn of the inner loop shifts the register. -/
theorem uiCrc16Bit_toBitVec (uiCrcValue : UInt16) :
    (uiCrc16Bit uiCrcValue).toBitVec = shift 0x8408#16 uiCrcValue.toBitVec := by
  have hlow : uiCrcValue &&& 0x0001 ≠ 0 ↔ uiCrcValue.toBitVec.getLsbD 0 = true := by
    rw [Ne, ← UInt16.toBitVec_inj, UInt16.toBitVec_and]
    have hbit : uiCrcValue.toBitVec &&& 1#16 =
        BitVec.setWidth 16 (BitVec.ofBool (uiCrcValue.toBitVec.getLsbD 0)) :=
      BitVec.and_one_eq_setWidth_ofBool_getLsbD
    rw [show (0x0001 : UInt16).toBitVec = 1#16 from rfl, hbit]
    cases uiCrcValue.toBitVec.getLsbD 0 <;> decide
  unfold uiCrc16Bit shift
  by_cases hset : uiCrcValue &&& 0x0001 ≠ 0
  · rw [if_pos hset, if_pos (hlow.mp hset), UInt16.toBitVec_xor, UInt16.toBitVec_shiftRight]
    rfl
  · rw [if_neg hset, if_neg fun h => hset (hlow.mpr h), UInt16.toBitVec_shiftRight]
    rfl

theorem uiCrc16Bit_iterate (uiCrcValue : UInt16) (n : Nat) :
    (uiCrc16Bit^[n] uiCrcValue).toBitVec = (shift 0x8408#16)^[n] uiCrcValue.toBitVec := by
  induction n with
  | zero => rfl
  | succ n ih =>
    rw [Function.iterate_succ_apply', Function.iterate_succ_apply', uiCrc16Bit_toBitVec, ih]

/-- The checksum is what the register holds after all the bits. -/
theorem uiCrc16Cal_toBitVec (pucY : Nat → UInt8) (ucX : UInt16) :
    (uiCrc16Cal pucY ucX).toBitVec =
      feed 0x8408#16 0xFFFF#16 (byteBit pucY) (8 * ucX.toNat) := by
  rw [uiCrc16Cal]
  generalize ucX.toNat = n
  induction n with
  | zero => rfl
  | succ n ih =>
    have hload : load pucY 0 (n + 1) = load pucY 0 n ++ [pucY n] := by
      rw [load_append, Nat.zero_add]
      rfl
    rw [hload, List.foldl_append, List.foldl_cons, List.foldl_nil, uiCrc16Bit_iterate,
      UInt16.toBitVec_xor, ih, feed_byte (by decide)]
    rfl

end flasher

/-- The reader's copy computes the same. -/
theorem rfid.uiCrc16Cal_eq (pucY : Nat → UInt8) (ucX : UInt8) :
    rfid.uiCrc16Cal pucY ucX = flasher.uiCrc16Cal pucY ucX.toUInt16 := by
  rw [flasher.uiCrc16Cal, UInt8.toNat_toUInt16]
  rfl

/-! ## Bursts -/

/-- The first `n` bytes of a buffer, altered by one burst: two contents that are not
the same, but differ, bit for bit with the lowest bit of a byte first, only in sixteen
bits that follow one another. -/
structure Burst (d e : Nat → UInt8) (n : Nat) : Prop where
  altered : load d 0 n ≠ load e 0 n
  window : ∃ start, ∀ k < 8 * n, byteBit d k ≠ byteBit e k → start ≤ k ∧ k < start + 16

theorem Burst.exists_ne {d e : Nat → UInt8} {n : Nat} (h : Burst d e n) : ∃ i < n, d i ≠ e i := by
  by_contra hnone
  push Not at hnone
  exact h.altered (load_congr fun i hi => by simpa using hnone i hi)

/-- The part of a burst among the first bytes, when there is one. -/
theorem Burst.of_le {d e : Nat → UInt8} {m n : Nat} (h : Burst d e n) (hle : m ≤ n)
    (hne : ∃ i < m, d i ≠ e i) : Burst d e m := by
  obtain ⟨i, hi, hne⟩ := hne
  obtain ⟨start, hwindow⟩ := h.window
  refine ⟨fun hsame => hne ?_, start, fun k hk => hwindow k (by omega)⟩
  rw [← load_getD d hi 0, hsame, load_getD e hi]

/-- A burst within one byte. -/
theorem Burst.of_byte {d e : Nat → UInt8} {i n : Nat} (hi : i < n) (hne : d i ≠ e i)
    (hrest : ∀ j, j ≠ i → d j = e j) : Burst d e n := by
  refine ⟨fun hsame => hne ?_, 8 * i, fun k _ hbit => ?_⟩
  · rw [← load_getD d hi 0, hsame, load_getD e hi]
  · have hbyte : k / 8 = i := by
      by_contra hother
      rw [byteBit, byteBit, hrest _ hother] at hbit
      exact hbit rfl
    omega

theorem Burst.uiCrc16Cal_ne {d e : Nat → UInt8} {ucX : UInt16} (h : Burst d e ucX.toNat) :
    flasher.uiCrc16Cal d ucX ≠ flasher.uiCrc16Cal e ucX := by
  obtain ⟨i, hi, hne⟩ := h.exists_ne
  obtain ⟨start, hwindow⟩ := h.window
  rw [Ne, ← UInt16.toBitVec_inj, flasher.uiCrc16Cal_toBitVec, flasher.uiCrc16Cal_toBitVec]
  exact feed_ne (by decide) _ hwindow (exists_byteBit_ne hi hne)

theorem flasher.uiCrc16Cal_congr {d e : Nat → UInt8} {ucX : UInt16}
    (h : load d 0 ucX.toNat = load e 0 ucX.toNat) : uiCrc16Cal d ucX = uiCrc16Cal e ucX := by
  rw [uiCrc16Cal, uiCrc16Cal, h]

/-- The two bytes of the checksum pass the check. -/
theorem flasher.checarChecksum_self (buffer : Nat → UInt8) (len : UInt16) :
    checarChecksum buffer len (LOBYTE (uiCrc16Cal buffer len)) (HIBYTE (uiCrc16Cal buffer len)) =
      true := by
  simp [checarChecksum]

/-- The two bytes that pass the check are those of one checksum. -/
theorem flasher.uiCrc16Cal_of_checked {d e : Nat → UInt8} {len : UInt16} {CRC_LSB CRC_MSB : UInt8}
    (hd : checarChecksum d len CRC_LSB CRC_MSB = true)
    (he : checarChecksum e len CRC_LSB CRC_MSB = true) : uiCrc16Cal d len = uiCrc16Cal e len := by
  simp only [checarChecksum, Bool.and_eq_true, decide_eq_true_eq] at hd he
  rw [← bytes_joined (uiCrc16Cal d len), ← bytes_joined (uiCrc16Cal e len), ← hd.1, ← hd.2, ← he.1,
    ← he.2]

theorem Burst.rejected {d e : Nat → UInt8} {len : UInt16} (h : Burst d e len.toNat)
    {CRC_LSB CRC_MSB : UInt8} (hintact : flasher.checarChecksum d len CRC_LSB CRC_MSB = true) :
    flasher.checarChecksum e len CRC_LSB CRC_MSB = false := by
  by_contra hpassed
  exact h.uiCrc16Cal_ne (flasher.uiCrc16Cal_of_checked hintact (by simpa using hpassed))

theorem rfid.checarChecksum_eq (buffer : Nat → UInt8) (len : UInt8) (LSB MSB : UInt8) :
    rfid.checarChecksum buffer len.toUInt16 LSB MSB =
      flasher.checarChecksum buffer len.toUInt16 LSB MSB := by
  rw [rfid.checarChecksum, UInt8.toUInt8_toUInt16, rfid.uiCrc16Cal_eq]
  rfl

/-! ## The copies -/

/-- Who has a copy of `uiCrc16Cal` and `checarChecksum`. -/
inductive Copy where
  | device
  | host
  | reader
deriving DecidableEq

namespace Copy

/-- `uiCrc16Cal` as `checarChecksum` calls it, with its `unsigned short` length. -/
def uiCrc16Cal (copy : Copy) (buffer : Nat → UInt8) (len : UInt16) : UInt32 :=
  match copy with
  | device => (flasher.uiCrc16Cal buffer len).toUInt32
  | host => flasher.host.uiCrc16Cal buffer len
  | reader => (rfid.uiCrc16Cal buffer len.toUInt8).toUInt32

def checarChecksum (copy : Copy) (buffer : Nat → UInt8) (len : UInt16) (CRC_LSB CRC_MSB : UInt8) :
    Bool :=
  match copy with
  | device => flasher.checarChecksum buffer len CRC_LSB CRC_MSB
  | host => flasher.host.checarChecksum buffer len CRC_LSB CRC_MSB
  | reader => rfid.checarChecksum buffer len CRC_LSB CRC_MSB

/-- How many bytes the checksum is made of: the reader's copy takes an `unsigned char`. -/
def covered (copy : Copy) (len : UInt16) : UInt16 :=
  if copy = reader then len.toUInt8.toUInt16 else len

theorem covered_reader (len : UInt16) : (reader.covered len).toNat = len.toNat % 256 := by
  rw [covered, if_pos rfl, UInt8.toNat_toUInt16, UInt16.toNat_toUInt8]

theorem covered_le (copy : Copy) (len : UInt16) : (copy.covered len).toNat ≤ len.toNat := by
  cases copy with
  | device => exact Nat.le_refl _
  | host => exact Nat.le_refl _
  | reader =>
    rw [covered_reader]
    exact Nat.mod_le _ _

/-- Every copy computes the device's checksum of the bytes it covers. -/
theorem uiCrc16Cal_eq (copy : Copy) (buffer : Nat → UInt8) (len : UInt16) :
    copy.uiCrc16Cal buffer len = (flasher.uiCrc16Cal buffer (copy.covered len)).toUInt32 := by
  cases copy with
  | device => rfl
  | host => exact flasher.host.uiCrc16Cal_eq _ _
  | reader =>
    rw [uiCrc16Cal, rfid.uiCrc16Cal_eq]
    rfl

theorem checarChecksum_eq (copy : Copy) (buffer : Nat → UInt8) (len : UInt16)
    (CRC_LSB CRC_MSB : UInt8) :
    copy.checarChecksum buffer len CRC_LSB CRC_MSB =
      flasher.checarChecksum buffer (copy.covered len) CRC_LSB CRC_MSB := by
  cases copy with
  | device => rfl
  | host => exact flasher.host.checarChecksum_eq _ _ _ _
  | reader =>
    have hnarrow : rfid.checarChecksum buffer len CRC_LSB CRC_MSB =
        rfid.checarChecksum buffer len.toUInt8.toUInt16 CRC_LSB CRC_MSB := by
      rw [rfid.checarChecksum, rfid.checarChecksum, UInt8.toUInt8_toUInt16]
    rw [checarChecksum, hnarrow, rfid.checarChecksum_eq]
    rfl

/-- One of the covered bytes is altered. -/
def Reaches (copy : Copy) (d e : Nat → UInt8) (len : UInt16) : Prop :=
  copy = reader → ∃ i < len.toNat % 256, d i ≠ e i

theorem reaches_iff {copy : Copy} {d e : Nat → UInt8} {len : UInt16} (h : Burst d e len.toNat) :
    copy.Reaches d e len ↔ ∃ i < (copy.covered len).toNat, d i ≠ e i := by
  cases copy with
  | device => exact ⟨fun _ => h.exists_ne, fun _ hreader => nomatch hreader⟩
  | host => exact ⟨fun _ => h.exists_ne, fun _ hreader => nomatch hreader⟩
  | reader =>
    rw [covered_reader]
    exact ⟨fun hreaches => hreaches rfl, fun hne _ => hne⟩

/-- A burst that reaches no covered byte is as good as none. -/
theorem load_of_not_reaches {copy : Copy} {d e : Nat → UInt8} {len : UInt16}
    (h : Burst d e len.toNat) (hmissed : ¬ copy.Reaches d e len) :
    load d 0 (copy.covered len).toNat = load e 0 (copy.covered len).toNat := by
  rw [reaches_iff h] at hmissed
  push Not at hmissed
  exact load_congr fun i hi => by simpa using hmissed i hi

end Copy

/-- For every length and every burst in that many bytes: the checksum changes exactly
if the burst reaches what the copy covers, and exactly then the altered payload is
rejected with the two bytes of the checksum intact. -/
theorem burst_detected_iff (copy : Copy) {d e : Nat → UInt8} {len : UInt16}
    (h : Burst d e len.toNat) :
    (copy.uiCrc16Cal d len ≠ copy.uiCrc16Cal e len ↔ copy.Reaches d e len) ∧
    ((∀ CRC_LSB CRC_MSB, copy.checarChecksum d len CRC_LSB CRC_MSB = true →
      copy.checarChecksum e len CRC_LSB CRC_MSB = false) ↔ copy.Reaches d e len) := by
  simp only [copy.uiCrc16Cal_eq, copy.checarChecksum_eq]
  by_cases hreaches : copy.Reaches d e len
  · have hburst : Burst d e (copy.covered len).toNat :=
      h.of_le (copy.covered_le len) ((Copy.reaches_iff h).mp hreaches)
    have hne := hburst.uiCrc16Cal_ne
    rw [Ne, ← UInt16.toUInt32_inj] at hne
    exact ⟨⟨fun _ => hreaches, fun _ => hne⟩, ⟨fun _ => hreaches, fun _ _ _ => hburst.rejected⟩⟩
  · have hsame := Copy.load_of_not_reaches h hreaches
    have hcrc := flasher.uiCrc16Cal_congr hsame
    refine ⟨⟨fun hne => absurd (congrArg UInt16.toUInt32 hcrc) hne, fun hr => absurd hr hreaches⟩,
      ⟨fun hrejected => ?_, fun hr => absurd hr hreaches⟩⟩
    have hpassed := hrejected _ _ (flasher.checarChecksum_self d (copy.covered len))
    rw [hcrc, flasher.checarChecksum_self] at hpassed
    cases hpassed

/-- Three bytes, and the same with sixteen bits of them turned across two byte
boundaries. -/
theorem burst_across_bytes_detected :
    Copy.reader.checarChecksum (fun i => [0x10, 0x20, 0x30].getD i 0) 3 0x16 0xAE = true ∧
      Copy.reader.checarChecksum (fun i => [0xE0, 0xDF, 0x3F].getD i 0) 3 0x16 0xAE = false := by
  have hburst : Burst (fun i => [0x10, 0x20, 0x30].getD i 0) (fun i => [0xE0, 0xDF, 0x3F].getD i 0)
      (3 : UInt16).toNat := ⟨by decide, 4, by decide⟩
  have hintact : Copy.reader.checarChecksum (fun i => [0x10, 0x20, 0x30].getD i 0) 3 0x16 0xAE = true := by
    decide +kernel
  have hreaches : Copy.reader.Reaches (fun i => [0x10, 0x20, 0x30].getD i 0)
      (fun i => [0xE0, 0xDF, 0x3F].getD i 0) 3 := fun _ => ⟨0, by decide, by decide⟩
  exact ⟨hintact, (burst_detected_iff .reader hburst).2.mpr hreaches _ _ hintact⟩

/-- What the reader's loop leaves of a response of 258 bytes with two checksum bytes of
ones, with one byte of it to choose. -/
def longResponse (altered : UInt8) : rfid.Received :=
  ⟨258, fun i => if i = 9 then altered else if i < 256 then 0x20 else 0xFF, []⟩

/-- No byte of the 256 is covered, and every content is accepted. -/
theorem not_burst_detected :
    (longResponse 1).checked 0 = true ∧ (longResponse 2).checked 0 = true ∧
      ¬ ∀ (copy : Copy) (d e : Nat → UInt8) (len : UInt16), Burst d e len.toNat →
        copy.uiCrc16Cal d len ≠ copy.uiCrc16Cal e len ∧
        ∀ CRC_LSB CRC_MSB, copy.checarChecksum d len CRC_LSB CRC_MSB = true →
          copy.checarChecksum e len CRC_LSB CRC_MSB = false := by
  refine ⟨by decide +kernel, by decide +kernel, fun h => ?_⟩
  have hburst : Burst (longResponse 1).bufferCmd (longResponse 2).bufferCmd (256 : UInt16).toNat := by
    apply Burst.of_byte (show 9 < 256 by decide)
    · decide
    · intro j hj
      simp only [longResponse, if_neg hj]
  have hrejected := (h .reader _ _ 256 hburst).2 0xFF 0xFF (by decide +kernel)
  exact absurd hrejected (by decide +kernel)

end concretid
