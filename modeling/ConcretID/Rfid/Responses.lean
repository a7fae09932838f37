import Mathlib.Data.Nat.Find
import Mathlib.Order.Monotone.Basic
import ConcretID.Rfid.Framing

open concretid.memory

namespace concretid.rfid

/-- A response on its way: its bytes, and how many of them have come when the
function asks `available()` for the k-th time. -/
structure Response where
  frame : List UInt8
  arrived : Nat → Nat
  nonempty : frame ≠ []
  mono : Monotone arrived
  bounded : ∀ k, arrived k ≤ frame.length
  complete : ∃ k, arrived k = frame.length

namespace Response

theorem comes (line : Response) : ∃ k, 0 < line.arrived k := by
  obtain ⟨k, hk⟩ := line.complete
  exact ⟨k, hk ▸ List.length_pos_of_ne_nil line.nonempty⟩

/-- `while(!(*porta).available());` ends with this question. -/
def first (line : Response) : Nat := Nat.find line.comes

/-- The same bytes, all of them there from the start. -/
def atOnce (line : Response) : Response where
  frame := line.frame
  arrived := fun _ => line.frame.length
  nonempty := line.nonempty
  mono := monotone_const
  bounded := fun _ => Nat.le_refl _
  complete := ⟨0, rfl⟩

end Response

/-- What the loop leaves: the number of bytes it read, `bufferCmd`, and the bytes
of the response it did not read. -/
structure Received where
  i : Nat
  bufferCmd : Nat → UInt8
  unread : List UInt8

/-- `while((*porta).available())`, from the k-th question on. The question inside
the loop finds the byte that the loop's own one found. -/
def readLoop (arrived : Nat → Nat) : List UInt8 → Nat → Nat → (Nat → UInt8) → Received
  | [], _, i, bufferCmd => ⟨i, bufferCmd, []⟩
  | b :: unread, k, i, bufferCmd =>
    if i < arrived k then readLoop arrived unread (k + 2) (i + 1) (Function.update bufferCmd i b)
    else ⟨i, bufferCmd, b :: unread⟩

def receive (line : Response) (bufferCmd : Nat → UInt8) : Received :=
  readLoop line.arrived line.frame (line.first + 1) 0 bufferCmd

def checarChecksum (buffer : Nat → UInt8) (len : UInt16) (LSB MSB : UInt8) : Bool :=
  let crc := uiCrc16Cal buffer len.toUInt8
  MSB = CRC_MSB crc && LSB = CRC_LSB crc

namespace Received

/-- `bufferCmd [i-2]`, the byte before `bufferCmd` after a single one. -/
def lsb (received : Received) (front : UInt8) : UInt8 :=
  if received.i = 1 then front else received.bufferCmd (received.i - 2)

/-- `bufferCmd [i-1]`. -/
def msb (received : Received) : UInt8 := received.bufferCmd (received.i - 1)

def checked (received : Received) (front : UInt8) : Bool :=
  checarChecksum received.bufferCmd (UInt16.ofNat received.i - 2) (received.lsb front)
    received.msb

end Received

structure EPC where
  len : UInt8
  data : Nat → UInt8

structure ResponseInventoryCMD where
  flagCRC : UInt8
  flagTimeout : UInt8
  len : UInt8
  adr : UInt8
  reCmd : UInt8
  status_ : UInt8
  numTags : UInt8
  tags : Nat → EPC
  LSB_CRC16 : UInt8
  MSB_CRC16 : UInt8

structure ResponseReadDataCMD where
  flagCRC : UInt8
  flagTimeout : UInt8
  len : UInt8
  adr : UInt8
  reCmd : UInt8
  status_ : UInt8
  qtdData : UInt8
  data : Nat → UInt8
  LSB_CRC16 : UInt8
  MSB_CRC16 : UInt8

/-- The loop over the tags, `none` when it ends in `exit(1)`, which never returns. -/
def readTags (bufferCmd : Nat → UInt8) : Nat → Nat → Nat → (Nat → EPC) → Option (Nat → EPC)
  | 0, _, _, tags => some tags
  | n + 1, contEPC, indiceAtual, tags =>
    let len := bufferCmd indiceAtual
    if len > 16 then none
    else
      let data := store (tags contEPC).data 0 (load bufferCmd (indiceAtual + 1) len.toNat)
      readTags bufferCmd n (contEPC + 1) (indiceAtual + len.toNat + 1)
        (Function.update tags contEPC ⟨len, data⟩)

/-- What `inventory_EPCC1G2CMD` makes of the bytes it read. -/
def inventoryResponse (received : Received) (front : UInt8) (resposta : ResponseInventoryCMD) :
    Option ResponseInventoryCMD :=
  let resposta := { resposta with flagTimeout := 0 }
  if received.checked front then
    let resposta := { resposta with
      flagCRC := 0
      len := received.bufferCmd 0
      adr := received.bufferCmd 1
      reCmd := received.bufferCmd 2
      status_ := received.bufferCmd 3
      LSB_CRC16 := received.lsb front
      MSB_CRC16 := received.msb }
    if resposta.len > 5 then
      let numTags := if received.bufferCmd 4 > 16 then 16 else received.bufferCmd 4
      (readTags received.bufferCmd numTags.toNat 0 5 resposta.tags).map fun tags =>
        { resposta with numTags, tags }
    else some { resposta with numTags := 0 }
  else some { resposta with flagCRC := 1 }

/-- What `readData_EPCC1G2CMD` makes of the bytes it read. -/
def readDataResponse (received : Received) (front : UInt8) (resposta : ResponseReadDataCMD) :
    ResponseReadDataCMD :=
  let resposta := { resposta with flagTimeout := 0 }
  if received.checked front then
    let qtdData := received.bufferCmd 0 - 5
    let indiceAtual := qtdData.toNat + 4
    { resposta with
      flagCRC := 0
      len := received.bufferCmd 0
      adr := received.bufferCmd 1
      reCmd := received.bufferCmd 2
      status_ := received.bufferCmd 3
      qtdData
      data := store resposta.data 0 (load received.bufferCmd 4 qtdData.toNat)
      LSB_CRC16 := received.bufferCmd indiceAtual
      MSB_CRC16 := received.bufferCmd (indiceAtual + 1) }
  else { resposta with flagCRC := 1 }

/-- `inventory_EPCC1G2CMD` with the response on its way: what it returns, and the
bytes it leaves on the port. -/
def inventoryRun (porta : Porta) (front : UInt8) (line : Response)
    (resposta : ResponseInventoryCMD) : Option ResponseInventoryCMD × List UInt8 :=
  let received := receive line (inventory_EPCC1G2CMD porta).1.bufferCmd
  (inventoryResponse received front resposta, received.unread)

/-- `readData_EPCC1G2CMD` with the response on its way. When its guard does not
admit the arguments it returns before it reads. -/
def readDataRun (ENum : UInt8) (EPC : Nat → UInt8) (Mem WordPtr Num : UInt8)
    (accessPassword : UInt32) (MaskAdr MaskLen : UInt8) (porta : Porta) (front : UInt8)
    (line : Response) (resposta : ResponseReadDataCMD) : ResponseReadDataCMD × List UInt8 :=
  let (porta, waits) :=
    readData_EPCC1G2CMD ENum EPC Mem WordPtr Num accessPassword MaskAdr MaskLen porta
  if waits then
    let received := receive line porta.bufferCmd
    (readDataResponse received front resposta, received.unread)
  else (resposta, line.frame)

/-- Each byte is there when the loop asks for it. -/
theorem readLoop_eq {arrived : Nat → Nat} {unread : List UInt8} {k i : Nat}
    (bufferCmd : Nat → UInt8) (hprompt : ∀ j < unread.length, i + j < arrived (k + 2 * j)) :
    readLoop arrived unread k i bufferCmd =
      ⟨i + unread.length, store bufferCmd i unread, []⟩ := by
  induction unread generalizing k i bufferCmd with
  | nil => simp [readLoop]
  | cons b unread ih =>
    have hhere := hprompt 0 (by simp)
    have hrest (j : Nat) (hj : j < unread.length) : i + 1 + j < arrived (k + 2 + 2 * j) := by
      have hlater := hprompt (j + 1) (by simp [hj])
      rwa [Nat.mul_add, ← Nat.add_assoc k, Nat.add_right_comm k, ← Nat.add_assoc,
        Nat.add_right_comm i] at hlater
    rw [readLoop, if_pos (by simpa using hhere), ih _ hrest, ← List.singleton_append, store_append,
      store_single, List.length_append, List.length_singleton, Nat.add_assoc]

/-- The loop stops at the first byte that is not there yet. -/
theorem readLoop_prompt {arrived : Nat → Nat} {unread : List UInt8} {k i : Nat}
    {bufferCmd : Nat → UInt8} (hread : (readLoop arrived unread k i bufferCmd).unread = []) :
    ∀ j < unread.length, i + j < arrived (k + 2 * j) := by
  induction unread generalizing k i bufferCmd with
  | nil => exact fun j hj => absurd hj (Nat.not_lt_zero j)
  | cons b unread ih =>
    rw [readLoop] at hread
    split at hread
    · rename_i hhere
      intro j hj
      cases j with
      | zero => simpa using hhere
      | succ j =>
        have hlater := ih hread j (by simpa using hj)
        rwa [Nat.mul_add, ← Nat.add_assoc k, Nat.add_right_comm k, ← Nat.add_assoc,
          Nat.add_right_comm i]
    · cases hread

/-- Every byte behind the first is on the port when the loop asks for it, right
after it read the one before. -/
def Response.Prompt (line : Response) : Prop :=
  ∀ i, 0 < i → i < line.frame.length → i < line.arrived (line.first + 1 + 2 * i)

namespace Response

theorem atOnce_prompt (line : Response) : line.atOnce.Prompt := fun _ _ hi => hi

/-- The first byte needs nothing more. -/
theorem Prompt.all {line : Response} (hprompt : line.Prompt) :
    ∀ i < line.frame.length, 0 + i < line.arrived (line.first + 1 + 2 * i) := by
  intro i hi
  rw [Nat.zero_add]
  obtain rfl | hpos := Nat.eq_zero_or_pos i
  · exact Nat.lt_of_lt_of_le (Nat.find_spec line.comes) (line.mono (Nat.le_succ _))
  · exact hprompt i hpos hi

/-- A prompt response is read whole. -/
theorem Prompt.receive_eq {line : Response} (hprompt : line.Prompt) (bufferCmd : Nat → UInt8) :
    receive line bufferCmd = ⟨line.frame.length, store bufferCmd 0 line.frame, []⟩ := by
  rw [receive, readLoop_eq bufferCmd hprompt.all, Nat.zero_add]

theorem receive_unread_iff (line : Response) (bufferCmd : Nat → UInt8) :
    (receive line bufferCmd).unread = [] ↔ line.Prompt := by
  constructor
  · intro hread i hpos hi
    simpa using readLoop_prompt hread i hi
  · intro hprompt
    rw [hprompt.receive_eq]

/-- A prompt response is read as if it came at once. -/
theorem Prompt.receive_atOnce {line : Response} (hprompt : line.Prompt)
    (bufferCmd : Nat → UInt8) : receive line bufferCmd = receive line.atOnce bufferCmd := by
  rw [hprompt.receive_eq, line.atOnce_prompt.receive_eq]
  rfl

end Response

/-- The response of a run does not depend on when its bytes came, and all of them
were taken. -/
def TimingFree {R : Type} (run : Response → R × List UInt8) (line : Response) : Prop :=
  (run line).1 = (run line.atOnce).1 ∧ (run line).2 = []

theorem inventoryRun_timingFree_iff (porta : Porta) (front : UInt8)
    (resposta : ResponseInventoryCMD) (line : Response) :
    TimingFree (inventoryRun porta front · resposta) line ↔ line.Prompt := by
  constructor
  · rintro ⟨-, hread⟩
    exact (line.receive_unread_iff _).mp hread
  · intro hprompt
    refine ⟨?_, (line.receive_unread_iff _).mpr hprompt⟩
    simp only [inventoryRun, hprompt.receive_atOnce]

theorem readDataRun_timingFree_iff (ENum : UInt8) (EPC : Nat → UInt8) (Mem WordPtr Num : UInt8)
    (accessPassword : UInt32) (MaskAdr MaskLen : UInt8) (porta : Porta) (front : UInt8)
    (resposta : ResponseReadDataCMD) (line : Response) (hENum : ENum < 15) :
    TimingFree (readDataRun ENum EPC Mem WordPtr Num accessPassword MaskAdr MaskLen porta front ·
      resposta) line ↔ line.Prompt := by
  have hwaits : (readData_EPCC1G2CMD ENum EPC Mem WordPtr Num accessPassword MaskAdr MaskLen
      porta).2 = true :=
    ((Command.readData ENum EPC Mem WordPtr Num accessPassword MaskAdr MaskLen).send_waits_iff
      porta).mpr hENum
  simp only [TimingFree, readDataRun, hwaits, if_true]
  constructor
  · rintro ⟨-, hread⟩
    exact (line.receive_unread_iff _).mp hread
  · intro hprompt
    refine ⟨?_, (line.receive_unread_iff _).mpr hprompt⟩
    rw [hprompt.receive_atOnce]

/-- The two functions read a response independently of the timing exactly when it
comes without a gap. -/
theorem timingFree_iff (line : Response) (porta : Porta) (front : UInt8)
    (inventoried : ResponseInventoryCMD) (ENum : UInt8) (EPC : Nat → UInt8)
    (Mem WordPtr Num : UInt8) (accessPassword : UInt32) (MaskAdr MaskLen : UInt8)
    (read : ResponseReadDataCMD) (hENum : ENum < 15) :
    (TimingFree (inventoryRun porta front · inventoried) line ↔ line.Prompt) ∧
      (TimingFree (readDataRun ENum EPC Mem WordPtr Num accessPassword MaskAdr MaskLen porta
        front · read) line ↔ line.Prompt) :=
  ⟨inventoryRun_timingFree_iff porta front inventoried line,
    readDataRun_timingFree_iff ENum EPC Mem WordPtr Num accessPassword MaskAdr MaskLen porta
      front read line hENum⟩

/-- A frame that comes without a gap passes the check. -/
theorem Response.Prompt.checked {line : Response} {body : List UInt8} (hprompt : line.Prompt)
    (hframe : IsFrame body line.frame) (bufferCmd : Nat → UInt8) (front : UInt8) :
    (receive line bufferCmd).checked front = true := by
  obtain ⟨size, hsize, hbytes⟩ := hframe
  have hlt := size.toNat_lt
  have hlength : line.frame.length = body.length + 3 := by simp [hbytes]
  have hlen : (UInt16.ofNat (body.length + 3) - 2).toUInt8.toNat = body.length + 1 := by
    have hcancel : UInt16.ofNat (body.length + 3) - 2 = UInt16.ofNat (body.length + 1) := by
      rw [show body.length + 3 = body.length + 1 + 2 from rfl, UInt16.ofNat_add]
      exact UInt16.add_sub_cancel _ _
    rw [hcancel, UInt16.toNat_toUInt8, UInt16.toNat_ofNat']
    omega
  have hload : load (store bufferCmd 0 line.frame) 0 (body.length + 1) = size :: body := by
    apply (Porta.mirror_load bufferCmd (by omega)).trans
    rw [hbytes]
    exact List.take_left' (by simp)
  have hlsb : store bufferCmd 0 line.frame (body.length + 1) = CRC_LSB (crc16 (size :: body)) := by
    simp [store, hbytes]
  have hmsb : store bufferCmd 0 line.frame (body.length + 2) = CRC_MSB (crc16 (size :: body)) := by
    simp [store, hbytes]
  rw [hprompt.receive_eq]
  simp only [Received.checked, Received.lsb, Received.msb, checarChecksum, uiCrc16Cal, hlength,
    hlen, hload]
  simp [hlsb, hmsb]

/-- The reader found no tag, and says so with a pause after the first byte. -/
def pausedResponse : Response where
  frame := [0x05, 0x00, 0x01, 0xFB, 0xF2, 0x3D]
  arrived k := if k < 10 then 1 else 6
  nonempty := by simp
  mono := by
    intro k l hkl
    change (if k < 10 then 1 else 6) ≤ if l < 10 then 1 else 6
    split <;> split <;> omega
  bounded k := by
    split <;> simp
  complete := ⟨10, rfl⟩

/-- The same bytes, each as late as the loop allows. -/
def steadyResponse : Response where
  frame := pausedResponse.frame
  arrived k := min (k / 2 + 1) pausedResponse.frame.length
  nonempty := pausedResponse.nonempty
  mono := by
    intro k l hkl
    simp only
    omega
  bounded k := min_le_right _ _
  complete := ⟨10, rfl⟩

/-- The sketch reads them. -/
theorem sketchRead_timingFree :
    TimingFree (readDataRun 6 (fun _ => 0xE2) 3 0 4 0 0 0 ⟨fun _ => 0, []⟩ 0 ·
      ⟨0, 0, 0, 0, 0, 0, 0, fun _ => 0, 0, 0⟩) steadyResponse := by
  have hprompt : steadyResponse.Prompt := by
    intro i _ hi
    refine lt_min ?_ hi
    omega
  exact (timingFree_iff steadyResponse ⟨fun _ => 0, []⟩ 0
    ⟨0, 0, 0, 0, 0, 0, 0, fun _ => ⟨0, fun _ => 0⟩, 0, 0⟩ 6 (fun _ => 0xE2) 3 0 4 0 0 0
    ⟨0, 0, 0, 0, 0, 0, 0, fun _ => 0, 0, 0⟩ (by decide)).2.mpr hprompt

/-- Only the first byte of a good response is read. -/
theorem paused_response_left_unread :
    ¬∀ (line : Response) (body : List UInt8) (porta : Porta) (front : UInt8)
      (resposta : ResponseInventoryCMD), IsFrame body line.frame →
        TimingFree (inventoryRun porta front · resposta) line := by
  intro h
  have hframe : IsFrame [0x00, 0x01, 0xFB] pausedResponse.frame := ⟨0x05, by decide, by decide +kernel⟩
  have hread := (h pausedResponse _ ⟨fun _ => 0, []⟩ 0
    ⟨0, 0, 0, 0, 0, 0, 0, fun _ => ⟨0, fun _ => 0⟩, 0, 0⟩ hframe).2
  have hprompt := (pausedResponse.receive_unread_iff _).mp hread 1 (by decide) (by decide)
  have hfirst : pausedResponse.first = 0 :=
    Nat.le_zero.mp (Nat.find_min' pausedResponse.comes (by decide))
  rw [hfirst] at hprompt
  exact absurd hprompt (by decide)

end concretid.rfid
