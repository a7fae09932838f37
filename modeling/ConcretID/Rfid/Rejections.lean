import ConcretID.Library.Records
import ConcretID.Rfid.Framing

open concretid.library (Record flatten split)

namespace concretid.rfid

/-! ## The reader

It takes the bytes of the port in frames: the first says how many follow. A frame
with a right checksum is understood. -/

/-- The body of a frame, between its size and its checksum. -/
def understood (frame : Record UInt8.toNat) : Option (List UInt8) :=
  let body := frame.body.take (frame.body.length - 2)
  let crc := crc16 (frame.head :: body)
  if frame.body = body ++ [CRC_LSB crc, CRC_MSB crc] then some body else none

/-- The bodies the reader understands, and the bytes of a frame that is not complete. -/
def hear (bytes : List UInt8) : List (List UInt8) × List UInt8 :=
  ((split UInt8.toNat bytes).1.filterMap understood, (split UInt8.toNat bytes).2)

/-- A frame is understood. -/
theorem hear_frame {body frame : List UInt8} (hframe : IsFrame body frame) : hear frame = ([body], []) := by
  obtain ⟨size, hsize, rfl⟩ := hframe
  let checksum := [CRC_LSB (crc16 (size :: body)), CRC_MSB (crc16 (size :: body))]
  let r : Record UInt8.toNat := ⟨size, body ++ checksum, by rw [List.length_append, hsize]; rfl⟩
  have hflatten : size :: body ++ checksum = flatten [r] := by
    rw [library.flatten_cons, library.flatten_nil, List.append_nil]
    rfl
  have htake : r.body.take (r.body.length - 2) = body := by
    apply List.take_left'
    rw [List.length_append]
    rfl
  have hunderstood : understood r = some body := by
    simp only [understood, htake]
    exact if_pos rfl
  rw [hear, hflatten, library.split_flatten, List.filterMap_cons_some hunderstood, List.filterMap_nil]

/-- Bytes that are fewer than the first announces are waited behind. -/
theorem hear_short {size : UInt8} {bytes : List UInt8} (h : bytes.length < size.toNat) :
    hear (size :: bytes) = ([], size :: bytes) := by
  rw [hear, library.split_short h]
  rfl

/-! ## Bytes on the port before a command -/

namespace Porta

/-- The port with other bytes written before. -/
def behind (before : List UInt8) (porta : Porta) : Porta := ⟨porta.bufferCmd, before ++ porta.written⟩

theorem behind_write (before : List UInt8) (porta : Porta) (bytes : List UInt8) :
    (porta.behind before).write bytes = (porta.write bytes).behind before := by
  simp only [write, behind, List.append_assoc]

theorem behind_put (before : List UInt8) (porta : Porta) (i : Nat) (bytes : List UInt8) :
    (porta.behind before).put i bytes = (porta.put i bytes).behind before := rfl

theorem behind_writeArray (before : List UInt8) (porta : Porta) (array : Nat → UInt8) (i n : Nat) :
    (porta.behind before).writeArray array i n = (porta.writeArray array i n).behind before := by
  induction n with
  | zero => rfl
  | succ n ih =>
    simp only [writeArray] at ih ⊢
    rw [List.range_succ, List.foldl_append, List.foldl_append, ih, List.foldl_cons, List.foldl_cons,
      behind_write, behind_put]
    rfl

theorem behind_enviarChecksum (before : List UInt8) (porta : Porta) (buffer : Nat → UInt8) (len : UInt8) :
    (porta.behind before).enviarChecksum buffer len = (porta.enviarChecksum buffer len).behind before := by
  simp only [enviarChecksum, behind_write]

theorem behind_bufferCmd (before : List UInt8) (porta : Porta) :
    (porta.behind before).bufferCmd = porta.bufferCmd := rfl

end Porta

theorem parameterCMD_behind (before command : List UInt8) (parameter : UInt8) (porta : Porta) :
    (parameterCMD command parameter (porta.behind before)).1 =
      ((parameterCMD command parameter porta).1).behind before := by
  simp only [parameterCMD, Porta.behind_write, Porta.behind_put, Porta.behind_bufferCmd,
    Porta.behind_enviarChecksum]

theorem finish_behind (before : List UInt8) (porta : Porta) (j : Nat) (accessPassword : UInt32)
    (MaskAdr MaskLen : UInt8) :
    finish (porta.behind before) j accessPassword MaskAdr MaskLen =
      (finish porta j accessPassword MaskAdr MaskLen).behind before := by
  simp only [finish, Porta.behind_write, Porta.behind_put, Porta.behind_bufferCmd, Porta.behind_enviarChecksum]

theorem tagCMD_behind (before command : List UInt8) (ENum : UInt8) (EPC : Nat → UInt8) (accessPassword : UInt32)
    (MaskAdr MaskLen : UInt8) (porta : Porta) :
    (tagCMD command ENum EPC accessPassword MaskAdr MaskLen (porta.behind before)).1 =
      ((tagCMD command ENum EPC accessPassword MaskAdr MaskLen porta).1).behind before := by
  simp only [tagCMD, Porta.behind_write, Porta.behind_put, Porta.behind_writeArray, finish_behind]
  split <;> rfl

namespace Command

/-- A function does not look at what was written before it. -/
theorem send_behind (before : List UInt8) (c : Command) (porta : Porta) :
    (c.send (porta.behind before)).1 = ((c.send porta).1).behind before := by
  cases c with
  | setAdr adr => exact parameterCMD_behind _ _ _ _
  | setBRate baudrate =>
    simp only [send, setBRate_ReadDefCMD]
    split
    · exact parameterCMD_behind _ _ _ _
    · rfl
  | setPower power =>
    simp only [send, setPower_ReadDefCMD]
    split
    · rfl
    · exact parameterCMD_behind _ _ _ _
  | setScanTime scantime_x100ms => exact parameterCMD_behind _ _ _ _
  | resetRdProtect accessPassword =>
    simp only [send, resetRdProtect_EPCC1G2CMD, Porta.behind_write, Porta.behind_put, Porta.behind_bufferCmd,
      Porta.behind_enviarChecksum]
  | rdProtectWEPC ENum EPC accessPassword MaskAdr MaskLen => exact tagCMD_behind _ _ _ _ _ _ _ _
  | killTag ENum EPC accessPassword MaskAdr MaskLen => exact tagCMD_behind _ _ _ _ _ _ _ _
  | writeData WNum ENum EPC Mem WordPtr Wdt accessPassword MaskAdr MaskLen =>
    simp only [send, writeData_EPCC1G2CMD, Porta.behind_write, Porta.behind_put, Porta.behind_writeArray,
      finish_behind]
    split
    · rfl
    split
    · rfl
    split <;> rfl
  | readData ENum EPC Mem WordPtr Num accessPassword MaskAdr MaskLen =>
    simp only [send, readData_EPCC1G2CMD, Porta.behind_write, Porta.behind_put, Porta.behind_writeArray,
      finish_behind]
    split <;> rfl
  | _ =>
    simp only [send, inventory_EPCC1G2CMD, checkRdProtect_EPCC1G2CMD, getReaderInfo_ReadDefCMD,
      getWorkMode_ReadDefCMD, constantCMD, Porta.behind_write, Porta.behind_enviarChecksum]

/-! ## Rejected commands -/

/-- What a function has written when it rejects its arguments. The four commands on a
tag have their guard behind the first bytes. -/
def rejectedBytes : Command → List UInt8
  | rdProtectWEPC ENum .. => [11 + 2 * ENum, 0x00, 0x08, ENum]
  | killTag ENum .. => [11 + 2 * ENum, 0x00, 0x05, ENum]
  | writeData WNum ENum .. => [14 + 2 * ENum + 2 * WNum, 0x00, 0x03, WNum, ENum]
  | readData ENum .. => [14 + 2 * ENum, 0x00, 0x02, ENum]
  | _ => []

theorem send_rejected {c : Command} (hrejected : ¬ c.Admitted) (bufferCmd : Nat → UInt8) :
    (c.send ⟨bufferCmd, []⟩).1.written = c.rejectedBytes := by
  cases c with
  | setBRate baudrate =>
    have hnone : paramBRate baudrate = none := not_not.mp hrejected
    simp only [send, setBRate_ReadDefCMD, hnone]
    rfl
  | setPower power =>
    simp only [send, setPower_ReadDefCMD, if_pos (UInt8.not_le.mp hrejected)]
    rfl
  | rdProtectWEPC ENum EPC accessPassword MaskAdr MaskLen =>
    simp only [send, rdProtectWEPC_EPCC1G2CMD, tagCMD, if_pos (UInt8.not_lt.mp hrejected)]
    rfl
  | killTag ENum EPC accessPassword MaskAdr MaskLen =>
    simp only [send, killTag_EPCC1G2CMD, tagCMD, if_pos (UInt8.not_lt.mp hrejected)]
    rfl
  | writeData WNum ENum EPC Mem WordPtr Wdt accessPassword MaskAdr MaskLen =>
    simp only [send, writeData_EPCC1G2CMD]
    split
    · rfl
    split
    · rfl
    split
    · rfl
    · next hzero hlong hENum =>
      exact absurd ⟨hzero, UInt8.not_lt.mp hlong, UInt8.not_le.mp hENum⟩ hrejected
  | readData ENum EPC Mem WordPtr Num accessPassword MaskAdr MaskLen =>
    simp only [send, readData_EPCC1G2CMD, if_pos (UInt8.not_lt.mp hrejected)]
    rfl
  | _ => exact absurd trivial hrejected

/-- A rejected command has no effect: it writes nothing, so the reader is between two
frames, and it understands the next command. -/
structure Harmless (c : Command) : Prop where
  silent : ∀ bufferCmd, (c.send ⟨bufferCmd, []⟩).1.written = []
  between : ∀ bufferCmd, hear (c.send ⟨bufferCmd, []⟩).1.written = ([], [])
  next : ∀ bufferCmd (next : Command), next.Admitted → next.Fits →
    hear (next.send (c.send ⟨bufferCmd, []⟩).1).1.written = ([next.body], [])

/-- The next command goes out behind what the rejected one has written. -/
theorem send_after_rejected {c next : Command} (hrejected : ¬ c.Admitted) (hnext : next.Admitted)
    (bufferCmd : Nat → UInt8) :
    (next.send (c.send ⟨bufferCmd, []⟩).1).1.written = c.rejectedBytes ++ sent next.body := by
  have hporta : (c.send ⟨bufferCmd, []⟩).1 =
      (⟨(c.send ⟨bufferCmd, []⟩).1.bufferCmd, []⟩ : Porta).behind c.rejectedBytes := by
    rw [← send_rejected hrejected bufferCmd, Porta.behind, List.append_nil]
  rw [hporta, send_behind, Porta.behind, next.written_eq hnext]

/-- Nothing is heard of the next command as long as it is shorter than what the size of
the rejected one announces. -/
theorem next_swallowed {c : Command} (next : Command) (hrejected : ¬ c.Admitted) (hnext : next.Admitted)
    {size : UInt8} {written : List UInt8} (hwritten : c.rejectedBytes = size :: written)
    (hshort : written.length + next.body.length + 3 < size.toNat) (bufferCmd : Nat → UInt8) :
    (hear (next.send (c.send ⟨bufferCmd, []⟩).1).1.written).1 = [] := by
  have hlength : (sent next.body).length = next.body.length + 3 := by simp [sent]
  rw [send_after_rejected hrejected hnext, hwritten, List.cons_append, hear_short]
  rw [List.length_append, hlength]
  omega

/-- A rejected command is without effect exactly if it is one of the two that check
their argument before they write. -/
theorem rejected_harmless_iff (c : Command) (hrejected : ¬ c.Admitted) :
    c.Harmless ↔ (∃ power, c = .setPower power) ∨ ∃ baudrate, c = .setBRate baudrate := by
  constructor
  · intro h
    have hnone := (send_rejected hrejected fun _ => 0).symm.trans (h.silent fun _ => 0)
    cases c with
    | setPower power => exact .inl ⟨power, rfl⟩
    | setBRate baudrate => exact .inr ⟨baudrate, rfl⟩
    | rdProtectWEPC => cases hnone
    | killTag => cases hnone
    | writeData => cases hnone
    | readData => cases hnone
    | _ => exact absurd trivial hrejected
  · intro h
    have hnone : c.rejectedBytes = [] := by
      obtain ⟨power, rfl⟩ | ⟨baudrate, rfl⟩ := h
      · rfl
      · rfl
    refine ⟨?_, ?_, ?_⟩
    · intro bufferCmd
      rw [send_rejected hrejected, hnone]
    · intro bufferCmd
      rw [send_rejected hrejected, hnone, hear, library.split_nil]
      rfl
    · intro bufferCmd next hnext hfits
      rw [send_after_rejected hrejected hnext, hnone, List.nil_append]
      exact hear_frame ((isFrame_sent_iff next.body).mpr ((next.fits_iff hnext).mpr hfits))

theorem tooMuchPower_harmless : ¬ (setPower 31).Admitted ∧ (setPower 31).Harmless := by
  have hrejected : ¬ (setPower 31).Admitted := by
    change ¬ (31 : UInt8) ≤ 30
    decide
  exact ⟨hrejected, (rejected_harmless_iff (setPower 31) hrejected).mpr (.inl ⟨31, rfl⟩)⟩

/-- A read with an EPC of fifteen words is rejected when four bytes are written, and
the inventory behind it is taken for the rest of its frame. -/
theorem rejected_read_swallows :
    let rejected : Command := .readData 15 (fun _ => 0xE2) 3 0 4 0 0 0
    ¬ rejected.Admitted ∧
      (rejected.send ⟨fun _ => 0, []⟩).1.written = [0x2C, 0x00, 0x02, 0x0F] ∧
      (hear (inventory.send (rejected.send ⟨fun _ => 0, []⟩).1).1.written).1 = [] := by
  have hrejected : ¬ (readData 15 (fun _ => 0xE2) 3 0 4 0 0 0).Admitted := by
    change ¬ (15 : UInt8) < 15
    decide
  exact ⟨hrejected, send_rejected hrejected _,
    next_swallowed inventory hrejected trivial rfl (by decide) _⟩

end Command

end concretid.rfid
