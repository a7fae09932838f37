import ConcretID.Checksum

open concretid.memory concretid.crc

namespace concretid.rfid

/-! ## The other responses

Eleven functions read a response of fixed fields. -/

/-- The fields of all of them: `ResponseSetAdrCMD`, `ResponseSetBRateCMD`, `ResponseSetPowerCMD`,
`ResponseSetScanTimeCMD`, `ResponseRstRProtectCMD`, `ResponseRdProtectWEPC`, `ResponseKillTagCMD`
and `ResponseWriteDataCMD` have no others. -/
structure RetornoSimplesCmd where
  flagCRC : UInt8
  flagTimeout : UInt8
  len : UInt8
  adr : UInt8
  reCmd : UInt8
  status_ : UInt8
  LSB_CRC16 : UInt8
  MSB_CRC16 : UInt8

structure ResponseCheckRdProtectCMD extends RetornoSimplesCmd where
  readPro : UInt8

structure ResponseReaderInfoCMD extends RetornoSimplesCmd where
  version_ : UInt8
  subversion : UInt8
  type : UInt8
  Tr_Type : UInt8
  DMaxFre : UInt8
  DMinFre : UInt8
  Power : UInt8
  Scntm : UInt8

structure ResponseWorkModeCMD extends RetornoSimplesCmd where
  Wg_mode : UInt8
  Wg_Data_Inteval : UInt8
  Wg_Pulse_Width : UInt8
  Wg_Pulse_Inteval : UInt8
  Read_mode : UInt8
  Mode_state : UInt8
  Mem_Inven : UInt8
  First_Adr : UInt8
  Word_Num : UInt8
  Tag_Time : UInt8
  accuracy : UInt8
  OffsetTime : UInt8

namespace Received

def simpleResponse (received : Received) (front : UInt8) (resposta : RetornoSimplesCmd) : RetornoSimplesCmd :=
  let resposta := { resposta with flagTimeout := 0 }
  if received.checked front then
    { resposta with
      flagCRC := 0
      len := received.bufferCmd 0
      adr := received.bufferCmd 1
      reCmd := received.bufferCmd 2
      status_ := received.bufferCmd 3
      LSB_CRC16 := received.lsb front
      MSB_CRC16 := received.msb }
  else { resposta with flagCRC := 1 }

def checkRdProtectResponse (received : Received) (front : UInt8) (resposta : ResponseCheckRdProtectCMD) :
    ResponseCheckRdProtectCMD :=
  let simples := received.simpleResponse front resposta.toRetornoSimplesCmd
  if received.checked front then { simples with readPro := received.bufferCmd 4 }
  else { resposta with toRetornoSimplesCmd := simples }

def readerInfoResponse (received : Received) (front : UInt8) (resposta : ResponseReaderInfoCMD) :
    ResponseReaderInfoCMD :=
  let simples := received.simpleResponse front resposta.toRetornoSimplesCmd
  if received.checked front then
    { simples with
      version_ := received.bufferCmd 4
      subversion := received.bufferCmd 5
      type := received.bufferCmd 6
      Tr_Type := received.bufferCmd 7
      DMaxFre := received.bufferCmd 8
      DMinFre := received.bufferCmd 9
      Power := received.bufferCmd 10
      Scntm := received.bufferCmd 11 }
  else { resposta with toRetornoSimplesCmd := simples }

def workModeResponse (received : Received) (front : UInt8) (resposta : ResponseWorkModeCMD) :
    ResponseWorkModeCMD :=
  let simples := received.simpleResponse front resposta.toRetornoSimplesCmd
  if received.checked front then
    { simples with
      Wg_mode := received.bufferCmd 4
      Wg_Data_Inteval := received.bufferCmd 5
      Wg_Pulse_Width := received.bufferCmd 6
      Wg_Pulse_Inteval := received.bufferCmd 7
      Read_mode := received.bufferCmd 8
      Mode_state := received.bufferCmd 9
      Mem_Inven := received.bufferCmd 10
      First_Adr := received.bufferCmd 11
      Word_Num := received.bufferCmd 12
      Tag_Time := received.bufferCmd 13
      accuracy := received.bufferCmd 14
      OffsetTime := received.bufferCmd 15 }
  else { resposta with toRetornoSimplesCmd := simples }

end Received

/-- A kind of response: what is read of it, and the fields behind the ones all have. -/
structure Answer (R : Type) where
  read : Received → UInt8 → R → R
  simples : R → RetornoSimplesCmd
  data : R → List UInt8
  count : Nat
  read_simples : ∀ received front resposta,
    simples (read received front resposta) = received.simpleResponse front (simples resposta)
  read_data : ∀ received front resposta, data (read received front resposta) =
    if received.checked front then load received.bufferCmd 4 count else data resposta

namespace Answer

def simple : Answer RetornoSimplesCmd where
  read := Received.simpleResponse
  simples := id
  data _ := []
  count := 0
  read_simples _ _ _ := rfl
  read_data _ _ _ := by split <;> rfl

def checkRdProtect : Answer ResponseCheckRdProtectCMD where
  read := Received.checkRdProtectResponse
  simples r := r.toRetornoSimplesCmd
  data r := [r.readPro]
  count := 1
  read_simples received front resposta := by
    rw [Received.checkRdProtectResponse]
    split <;> rfl
  read_data received front resposta := by
    rw [Received.checkRdProtectResponse]
    split <;> rfl

def readerInfo : Answer ResponseReaderInfoCMD where
  read := Received.readerInfoResponse
  simples r := r.toRetornoSimplesCmd
  data r := [r.version_, r.subversion, r.type, r.Tr_Type, r.DMaxFre, r.DMinFre, r.Power, r.Scntm]
  count := 8
  read_simples received front resposta := by
    rw [Received.readerInfoResponse]
    split <;> rfl
  read_data received front resposta := by
    rw [Received.readerInfoResponse]
    split <;> rfl

def workMode : Answer ResponseWorkModeCMD where
  read := Received.workModeResponse
  simples r := r.toRetornoSimplesCmd
  data r := [r.Wg_mode, r.Wg_Data_Inteval, r.Wg_Pulse_Width, r.Wg_Pulse_Inteval, r.Read_mode, r.Mode_state,
    r.Mem_Inven, r.First_Adr, r.Word_Num, r.Tag_Time, r.accuracy, r.OffsetTime]
  count := 12
  read_simples received front resposta := by
    rw [Received.workModeResponse]
    split <;> rfl
  read_data received front resposta := by
    rw [Received.workModeResponse]
    split <;> rfl

variable {R : Type}

/-- A function with the response on its way: what it makes of it, and the bytes it leaves on
the port. Without a command it does not wait. -/
def run (answer : Answer R) (c : Command) (porta : Porta) (front : UInt8) (line : Response) (resposta : R) :
    R × List UInt8 :=
  let (porta, waits) := c.send porta
  if waits then
    let received := receive line porta.bufferCmd
    (answer.read received front resposta, received.unread)
  else (resposta, line.frame)

end Answer

/-! ## The functions -/

def checkRdProtectRun := Answer.checkRdProtect.run .checkRdProtect
def getReaderInfoRun := Answer.readerInfo.run .getReaderInfo
def getWorkModeRun := Answer.workMode.run .getWorkMode
def setAdrRun (adr : UInt8) := Answer.simple.run (.setAdr adr)
def setBRateRun (baudrate : Int32) := Answer.simple.run (.setBRate baudrate)
def setPowerRun (power : UInt8) := Answer.simple.run (.setPower power)
def setScanTimeRun (scantime_x100ms : Int32) := Answer.simple.run (.setScanTime scantime_x100ms)
def resetRdProtectRun (accessPassword : UInt32) := Answer.simple.run (.resetRdProtect accessPassword)
def rdProtectWEPCRun (ENum : UInt8) (EPC : Nat → UInt8) (accessPassword : UInt32) (MaskAdr MaskLen : UInt8) :=
  Answer.simple.run (.rdProtectWEPC ENum EPC accessPassword MaskAdr MaskLen)
def killTagRun (ENum : UInt8) (EPC : Nat → UInt8) (accessPassword : UInt32) (MaskAdr MaskLen : UInt8) :=
  Answer.simple.run (.killTag ENum EPC accessPassword MaskAdr MaskLen)
def writeDataRun (WNum ENum : UInt8) (EPC : Nat → UInt8) (Mem WordPtr : UInt8) (Wdt : Nat → UInt8)
    (accessPassword : UInt32) (MaskAdr MaskLen : UInt8) :=
  Answer.simple.run (.writeData WNum ENum EPC Mem WordPtr Wdt accessPassword MaskAdr MaskLen)

namespace Answer

@[simp] theorem simple_simples (resposta : RetornoSimplesCmd) : simple.simples resposta = resposta := rfl

variable {R : Type} (answer : Answer R)

theorem run_of_admitted {c : Command} (hadmitted : c.Admitted) (porta : Porta) (front : UInt8) (line : Response)
    (resposta : R) : answer.run c porta front line resposta =
      (answer.read (receive line (c.send porta).1.bufferCmd) front resposta,
        (receive line (c.send porta).1.bufferCmd).unread) := by
  have hwaits := (c.send_waits_iff porta).mpr hadmitted
  simp only [run, hwaits, if_true]

theorem unread_iff {c : Command} (hadmitted : c.Admitted) (porta : Porta) (front : UInt8) (line : Response)
    (resposta : R) : (answer.run c porta front line resposta).2 = [] ↔ line.Prompt := by
  rw [answer.run_of_admitted hadmitted]
  exact line.receive_unread_iff _

/-- What is in `bufferCmd` behind the beginning of a frame: its rest, and what was there. -/
theorem load_behind (bufferCmd : Nat → UInt8) (head rest : List UInt8) (count : Nat) :
    load (store bufferCmd 0 (head ++ rest)) head.length count =
      (rest ++ load bufferCmd (head ++ rest).length count).take count := by
  have hall : load (store bufferCmd 0 (head ++ rest)) 0 ((head ++ rest).length + count) =
      head ++ (rest ++ load bufferCmd (head ++ rest).length count) := by
    rw [load_append, load_store, Nat.zero_add, load_store_of_disjoint _ _ (.inr (Nat.le_of_eq (Nat.zero_add _))),
      List.append_assoc]
  obtain ⟨-, hbehind⟩ := load_eq_append hall
  rw [Nat.zero_add] at hbehind
  rw [← hbehind, load_take]
  simp

/-- A response in a frame is read field by field. Fields it does not have are taken from its
checksum, and from what `bufferCmd` had behind it. -/
theorem reads_frame {c : Command} (hadmitted : c.Admitted) {adr reCmd status_ : UInt8} {data : List UInt8}
    {line : Response} (hframe : IsFrame (adr :: reCmd :: status_ :: data) line.frame) (porta : Porta) (front : UInt8)
    (resposta : R) (hread : (answer.run c porta front line resposta).2 = []) :
    ∃ size LSB MSB, line.frame = size :: adr :: reCmd :: status_ :: data ++ [LSB, MSB] ∧
      answer.simples (answer.run c porta front line resposta).1 = ⟨0, 0, size, adr, reCmd, status_, LSB, MSB⟩ ∧
      answer.data (answer.run c porta front line resposta).1 =
        (data ++ LSB :: MSB :: load (c.send porta).1.bufferCmd line.frame.length answer.count).take answer.count := by
  have hprompt := (answer.unread_iff hadmitted porta front line resposta).mp hread
  rw [answer.run_of_admitted hadmitted]
  have hchecked := hprompt.checked hframe (c.send porta).1.bufferCmd front
  obtain ⟨size, -, hbytes⟩ := hframe
  dsimp only
  rw [answer.read_simples, answer.read_data, if_pos hchecked, Received.simpleResponse, if_pos hchecked,
    hprompt.receive_eq]
  refine ⟨size, _, _, hbytes, ?_, ?_⟩
  · simp [Received.lsb, Received.msb, store, hbytes]
  · have hsplit : line.frame = [size, adr, reCmd, status_] ++
        (data ++ [CRC_LSB (crc16 (size :: adr :: reCmd :: status_ :: data)),
          CRC_MSB (crc16 (size :: adr :: reCmd :: status_ :: data))]) := hbytes
    rw [hsplit]
    apply (load_behind _ _ _ _).trans
    rw [List.append_assoc]
    rfl

/-- A response that does not pass the check leaves the fields as they were. -/
theorem run_rejected {c : Command} (hadmitted : c.Admitted) {porta : Porta} {front : UInt8} {line : Response}
    (hwrong : (receive line (c.send porta).1.bufferCmd).checked front = false) (resposta : R) :
    answer.simples (answer.run c porta front line resposta).1 =
        { answer.simples resposta with flagTimeout := 0, flagCRC := 1 } ∧
      answer.data (answer.run c porta front line resposta).1 = answer.data resposta := by
  rw [answer.run_of_admitted hadmitted]
  dsimp only
  rw [answer.read_simples, answer.read_data, Received.simpleResponse, hwrong]
  exact ⟨rfl, rfl⟩

end Answer

/-- A response that comes at once. -/
def Response.whole (frame : List UInt8) (nonempty : frame ≠ []) : Response where
  frame
  arrived := fun _ => frame.length
  nonempty
  mono := monotone_const
  bounded := fun _ => Nat.le_refl _
  complete := ⟨0, rfl⟩

/-- The reader tells what it is. -/
def infoResponse : Response :=
  .whole [0x0D, 0x00, 0x21, 0x00, 0x02, 0x19, 0x09, 0x02, 0x31, 0x80, 0x1E, 0x0A, 0x66, 0xA5] (by simp)

def blankInfo : ResponseReaderInfoCMD := ⟨⟨0, 0, 0, 0, 0, 0, 0, 0⟩, 0, 0, 0, 0, 0, 0, 0, 0⟩

theorem reads_info_frame :
    Answer.readerInfo.data (getReaderInfoRun ⟨fun _ => 0, []⟩ 0 infoResponse blankInfo).1 =
      [0x02, 0x19, 0x09, 0x02, 0x31, 0x80, 0x1E, 0x0A] := by
  have hadmitted : Command.getReaderInfo.Admitted := trivial
  have hframe : IsFrame (0x00 :: 0x21 :: 0x00 :: [0x02, 0x19, 0x09, 0x02, 0x31, 0x80, 0x1E, 0x0A]) infoResponse.frame :=
    ⟨0x0D, by decide, by decide +kernel⟩
  have hprompt : infoResponse.Prompt := fun _ _ hi => hi
  have hread := (Answer.readerInfo.unread_iff hadmitted ⟨fun _ => 0, []⟩ 0 infoResponse blankInfo).mpr hprompt
  obtain ⟨size, LSB, MSB, -, -, hdata⟩ :=
    Answer.readerInfo.reads_frame hadmitted hframe ⟨fun _ => 0, []⟩ 0 blankInfo hread
  exact hdata

/-! ## Bursts on the way -/

/-- A burst is one of the bytes it is in, whatever the others are. -/
theorem burst_congr {d e d' e' : Nat → UInt8} {n : Nat} (h : Burst d e n) (hd : ∀ i < n, d' i = d i)
    (he : ∀ i < n, e' i = e i) : Burst d' e' n := by
  have hload {f f' : Nat → UInt8} (hf : ∀ i < n, f' i = f i) : load f' 0 n = load f 0 n :=
    load_congr fun i hi => by rw [Nat.zero_add, hf i hi]
  obtain ⟨haltered, start, hwindow⟩ := h
  refine ⟨by rwa [hload hd, hload he], start, fun k hk hne => hwindow k hk ?_⟩
  have hbyte : k / 8 < n := Nat.div_lt_of_lt_mul hk
  rwa [byteBit, byteBit, hd _ hbyte, he _ hbyte] at hne

/-- A frame with a burst in front of its checksum, received whole, does not pass the check. -/
theorem Response.Prompt.burst_rejected {sent line : Response} (hprompt : line.Prompt) {body : List UInt8}
    (hframe : IsFrame body sent.frame) (hlength : line.frame.length = sent.frame.length)
    (hburst : Burst (fun i => sent.frame.getD i 0) (fun i => line.frame.getD i 0) (body.length + 1))
    (hsum : line.frame.drop (body.length + 1) = sent.frame.drop (body.length + 1)) (bufferCmd : Nat → UInt8)
    (front : UInt8) : (receive line bufferCmd).checked front = false := by
  have hintact : (receive sent.atOnce bufferCmd).checked front = true :=
    sent.atOnce_prompt.checked hframe bufferCmd front
  obtain ⟨size, hsize, hbytes⟩ := hframe
  have hsent : sent.frame.length = body.length + 3 := by simp [hbytes]
  have hsame : ∀ i, body.length + 1 ≤ i → store bufferCmd 0 line.frame i = store bufferCmd 0 sent.frame i := by
    intro i hi
    have hat := congrArg (·[i - (body.length + 1)]?) hsum
    simp only [List.getElem?_drop, Nat.add_sub_cancel' hi] at hat
    simp only [store, Nat.sub_zero, hat]
  have hcount : (UInt8.ofNat (body.length + 1)).toUInt16.toNat = body.length + 1 := by
    have hlt := size.toNat_lt
    rw [UInt8.toNat_toUInt16, UInt8.toNat_ofNat', Nat.mod_eq_of_lt (by omega)]
  have hlen : UInt16.ofNat (body.length + 3) - 2 = (UInt8.ofNat (body.length + 1)).toUInt16 := by
    rw [show body.length + 3 = body.length + 1 + 2 from rfl, UInt16.ofNat_add]
    apply (UInt16.add_sub_cancel _ _).trans
    rw [← hcount, UInt16.ofNat_toNat, hcount]
  rw [sent.atOnce_prompt.receive_eq] at hintact
  rw [hprompt.receive_eq]
  have hatOnce : sent.atOnce.frame = sent.frame := rfl
  have hone : ¬ body.length + 3 = 1 := by omega
  simp only [Received.checked, Received.lsb, Received.msb, hatOnce, hlength, hsent, if_neg hone, hlen,
    checarChecksum_eq] at hintact ⊢
  rw [hsame _ (by omega), hsame _ (by omega)]
  refine Burst.rejected ?_ hintact
  rw [hcount]
  have hstore {frame : List UInt8} (hframe : frame.length = body.length + 3) :
      ∀ i < body.length + 1, store bufferCmd 0 frame i = frame.getD i 0 := by
    intro i hi
    have hinside : i < frame.length := by omega
    simp [store, hinside]
  exact burst_congr hburst (hstore hsent) (hstore (hlength.trans hsent))

/-- Nothing is taken from an answer with a burst in it, by any of the functions. -/
theorem Answer.burst_takes_nothing {R : Type} (answer : Answer R) {c : Command} (hadmitted : c.Admitted)
    {sent line : Response} {body : List UInt8} (hframe : IsFrame body sent.frame)
    (hlength : line.frame.length = sent.frame.length)
    (hburst : Burst (fun i => sent.frame.getD i 0) (fun i => line.frame.getD i 0) (body.length + 1))
    (hsum : line.frame.drop (body.length + 1) = sent.frame.drop (body.length + 1)) (porta : Porta) (front : UInt8)
    (resposta : R) (hread : (answer.run c porta front line resposta).2 = []) :
    answer.simples (answer.run c porta front line resposta).1 =
        { answer.simples resposta with flagTimeout := 0, flagCRC := 1 } ∧
      answer.data (answer.run c porta front line resposta).1 = answer.data resposta := by
  have hprompt := (answer.unread_iff hadmitted porta front line resposta).mp hread
  exact answer.run_rejected hadmitted (hprompt.burst_rejected hframe hlength hburst hsum _ front) resposta

/-- The power is set, and on the way the status becomes an error. -/
def powerSet : Response := .whole [0x05, 0x00, 0x2F, 0x00, 0x8D, 0xCD] (by simp)

def powerAltered : Response := .whole [0x05, 0x00, 0x2F, 0xFF, 0x8D, 0xCD] (by simp)

def blankSimples : RetornoSimplesCmd := ⟨0, 0, 0, 0, 0, 0, 0, 0⟩

theorem power_burst_takes_nothing :
    (setPowerRun 10 ⟨fun _ => 0, []⟩ 0 powerAltered blankSimples).1 = { blankSimples with flagCRC := 1 } := by
  have hadmitted : (Command.setPower 10).Admitted := show (10 : UInt8) ≤ 30 by decide
  have hframe : IsFrame [0x00, 0x2F, 0x00] powerSet.frame := ⟨0x05, by decide, by decide +kernel⟩
  have hburst : Burst (fun i => powerSet.frame.getD i 0) (fun i => powerAltered.frame.getD i 0) 4 :=
    ⟨by decide, 24, by decide +kernel⟩
  have hprompt : powerAltered.Prompt := fun _ _ hi => hi
  have hread := (Answer.simple.unread_iff hadmitted ⟨fun _ => 0, []⟩ 0 powerAltered blankSimples).mpr hprompt
  have hlength : powerAltered.frame.length = powerSet.frame.length := rfl
  have hsum : powerAltered.frame.drop 4 = powerSet.frame.drop 4 := rfl
  obtain ⟨hsimples, -⟩ :=
    Answer.simple.burst_takes_nothing hadmitted hframe hlength hburst hsum ⟨fun _ => 0, []⟩ 0 blankSimples hread
  rw [Answer.simple_simples, Answer.simple_simples] at hsimples
  exact hsimples

end concretid.rfid
