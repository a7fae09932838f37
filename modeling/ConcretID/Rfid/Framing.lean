import Mathlib.Algebra.Group.Nat.Defs
import ConcretID.Rfid.Commands

open concretid.memory

namespace concretid.rfid

/-! ## The arguments on the wire -/

/-- A password in base 256, the low byte first. -/
def passwordBytes (accessPassword : UInt32) : List UInt8 :=
  (List.range 4).map fun k => UInt8.ofNat (accessPassword.toNat / 256 ^ k)

/-- The rates of the reader in the order of their codes. -/
def baudRates : List Int := [9600, 19200, 38400, 43000, 56000, 57600, 115200]

def rateCode (baudrate : Int32) : Option UInt8 := (baudRates.idxOf? baudrate.toInt).map UInt8.ofNat

/-- The tenths of a second of an inventory, ten where they do not fit. -/
def scanTime (scantime_x100ms : Int32) : UInt8 :=
  UInt8.ofNat (if 3 ≤ scantime_x100ms.toInt ∧ scantime_x100ms.toInt ≤ 255 then scantime_x100ms.toInt.toNat else 10)

theorem pwd_eq (accessPassword : UInt32) : pwd accessPassword = passwordBytes accessPassword := by
  have hbyte : ∀ k < 4, (accessPassword >>> UInt32.ofNat (8 * k)).toUInt8 =
      UInt8.ofNat (accessPassword.toNat / 256 ^ k) := by
    intro k hk
    rw [← UInt8.toNat_inj, UInt32.toNat_toUInt8, UInt32.toNat_shiftRight, UInt8.toNat_ofNat',
      UInt32.toNat_ofNat', Nat.shiftRight_eq_div_pow, Nat.mod_eq_of_lt (by omega : 8 * k < 2 ^ 32),
      Nat.mod_eq_of_lt (by omega : 8 * k < 32), Nat.pow_mul]
  have hbytes : passwordBytes accessPassword = (List.range 4).map fun k =>
      (accessPassword >>> UInt32.ofNat (8 * k)).toUInt8 :=
    List.map_congr_left fun k hk => (hbyte k (List.mem_range.mp hk)).symm
  rw [hbytes]
  simp [pwd, List.range_succ]

@[simp] theorem passwordBytes_length (accessPassword : UInt32) :
    (passwordBytes accessPassword).length = 4 := rfl

theorem paramBRate_eq (baudrate : Int32) : paramBRate baudrate = rateCode baudrate := by
  unfold paramBRate
  split_ifs with h0 h1 h2 h3 h4 h5 h6
  iterate 7 subst_vars; rfl
  rw [rateCode, List.idxOf?_eq_none_iff.mpr, Option.map_none]
  simp only [baudRates, List.mem_cons, List.not_mem_nil, or_false, not_or]
  simp only [← Int32.toInt_inj] at h0 h1 h2 h3 h4 h5 h6
  exact ⟨h0, h1, h2, h3, h4, h5, h6⟩

theorem paramScanTime_eq (scantime_x100ms : Int32) : paramScanTime scantime_x100ms = scanTime scantime_x100ms := by
  have hrange : 3 ≤ scantime_x100ms ∧ scantime_x100ms ≤ 255 ↔ 3 ≤ scantime_x100ms.toInt ∧ scantime_x100ms.toInt ≤ 255 := by
    rw [Int32.le_iff_toInt_le, Int32.le_iff_toInt_le]
    rfl
  rw [paramScanTime, scanTime, if_congr hrange rfl rfl]
  split_ifs with hfits
  · rw [← UInt8.toNat_inj, UInt32.toNat_toUInt8, UInt8.toNat_ofNat']
    have hcond := BitVec.toInt_eq_toNat_cond scantime_x100ms.toBitVec
    change scantime_x100ms.toInt = _ at hcond
    have hnat : scantime_x100ms.toUInt32.toNat = scantime_x100ms.toBitVec.toNat := rfl
    rw [hnat]
    split at hcond <;> omega
  · rfl
/-! ## Frames -/

/-- The command functions with their arguments. -/
inductive Command where
  | inventory
  | checkRdProtect
  | getReaderInfo
  | getWorkMode
  | setAdr (adr : UInt8)
  | setBRate (baudrate : Int32)
  | setPower (power : UInt8)
  | setScanTime (scantime_x100ms : Int32)
  | resetRdProtect (accessPassword : UInt32)
  | rdProtectWEPC (ENum : UInt8) (EPC : Nat → UInt8) (accessPassword : UInt32)
      (MaskAdr MaskLen : UInt8)
  | killTag (ENum : UInt8) (EPC : Nat → UInt8) (accessPassword : UInt32) (MaskAdr MaskLen : UInt8)
  | writeData (WNum ENum : UInt8) (EPC : Nat → UInt8) (Mem WordPtr : UInt8) (Wdt : Nat → UInt8)
      (accessPassword : UInt32) (MaskAdr MaskLen : UInt8)
  | readData (ENum : UInt8) (EPC : Nat → UInt8) (Mem WordPtr Num : UInt8)
      (accessPassword : UInt32) (MaskAdr MaskLen : UInt8)

namespace Command

def send : Command → Porta → Porta × Bool
  | inventory => inventory_EPCC1G2CMD
  | checkRdProtect => checkRdProtect_EPCC1G2CMD
  | getReaderInfo => getReaderInfo_ReadDefCMD
  | getWorkMode => getWorkMode_ReadDefCMD
  | setAdr adr => setAdr_ReadDefCMD adr
  | setBRate baudrate => setBRate_ReadDefCMD baudrate
  | setPower power => setPower_ReadDefCMD power
  | setScanTime scantime_x100ms => setScanTime_ReadDefCMD scantime_x100ms
  | resetRdProtect accessPassword => resetRdProtect_EPCC1G2CMD accessPassword
  | rdProtectWEPC ENum EPC accessPassword MaskAdr MaskLen =>
    rdProtectWEPC_EPCC1G2CMD ENum EPC accessPassword MaskAdr MaskLen
  | killTag ENum EPC accessPassword MaskAdr MaskLen =>
    killTag_EPCC1G2CMD ENum EPC accessPassword MaskAdr MaskLen
  | writeData WNum ENum EPC Mem WordPtr Wdt accessPassword MaskAdr MaskLen =>
    writeData_EPCC1G2CMD WNum ENum EPC Mem WordPtr Wdt accessPassword MaskAdr MaskLen
  | readData ENum EPC Mem WordPtr Num accessPassword MaskAdr MaskLen =>
    readData_EPCC1G2CMD ENum EPC Mem WordPtr Num accessPassword MaskAdr MaskLen

/-- The arguments the guards of the function admit. -/
def Admitted : Command → Prop
  | setBRate baudrate => paramBRate baudrate ≠ none
  | setPower power => power ≤ 30
  | rdProtectWEPC ENum _ _ _ _ => ENum < 15
  | killTag ENum _ _ _ _ => ENum < 15
  | writeData WNum ENum _ _ _ _ _ _ _ => WNum ≠ 0 ∧ WNum ≤ 120 ∧ ENum < 15
  | readData ENum _ _ _ _ _ _ _ => ENum < 15
  | _ => True

/-- The reader's address, the command and the arguments in order. -/
def body : Command → List UInt8
  | inventory => [0x00, 0x01]
  | checkRdProtect => [0x00, 0x0B]
  | getReaderInfo => [0x00, 0x21]
  | getWorkMode => [0x00, 0x36]
  | setAdr adr => [0x00, 0x24, adr]
  | setBRate baudrate => [0x00, 0x28] ++ (rateCode baudrate).toList
  | setPower power => [0x00, 0x2F, power]
  | setScanTime scantime_x100ms => [0x00, 0x25, scanTime scantime_x100ms]
  | resetRdProtect accessPassword => [0x00, 0x0A] ++ passwordBytes accessPassword
  | rdProtectWEPC ENum EPC accessPassword MaskAdr MaskLen =>
    [0x00, 0x08, ENum] ++ load EPC 0 (2 * ENum.toNat) ++ passwordBytes accessPassword ++ [MaskAdr, MaskLen]
  | killTag ENum EPC accessPassword MaskAdr MaskLen =>
    [0x00, 0x05, ENum] ++ load EPC 0 (2 * ENum.toNat) ++ passwordBytes accessPassword ++ [MaskAdr, MaskLen]
  | writeData WNum ENum EPC Mem WordPtr Wdt accessPassword MaskAdr MaskLen =>
    [0x00, 0x03, WNum, ENum] ++ load EPC 0 (2 * ENum.toNat) ++ [Mem, WordPtr] ++
      load Wdt 0 (2 * WNum.toNat) ++ passwordBytes accessPassword ++ [MaskAdr, MaskLen]
  | readData ENum EPC Mem WordPtr Num accessPassword MaskAdr MaskLen =>
    [0x00, 0x02, ENum] ++ load EPC 0 (2 * ENum.toNat) ++ [Mem, WordPtr, Num] ++
      passwordBytes accessPassword ++ [MaskAdr, MaskLen]

/-- The arguments for which the size fits its byte. -/
def Fits : Command → Prop
  | writeData WNum ENum _ _ _ _ _ _ _ => WNum.toNat + ENum.toNat ≤ 120
  | _ => True

end Command

/-- A frame of the reader with a body: the number of bytes behind the first, the
body, and the checksum of all before it with its low byte first. -/
def IsFrame (body frame : List UInt8) : Prop :=
  ∃ size : UInt8, size.toNat = body.length + 2 ∧
    frame = size :: body ++ [CRC_LSB (crc16 (size :: body)), CRC_MSB (crc16 (size :: body))]

namespace Porta

/-- A port with `bufferCmd` in step with what was written. -/
def mirror (bufferCmd : Nat → UInt8) (bytes : List UInt8) : Porta :=
  ⟨store bufferCmd 0 bytes, bytes⟩

theorem mirror_write_put (bufferCmd : Nat → UInt8) (bytes more : List UInt8) {i : Nat}
    (hi : i = bytes.length) :
    ((mirror bufferCmd bytes).write more).put i more = mirror bufferCmd (bytes ++ more) := by
  simp [mirror, write, put, store_append, hi]

theorem mirror_nil (bufferCmd : Nat → UInt8) : ⟨bufferCmd, []⟩ = mirror bufferCmd [] := by
  simp [mirror]

/-- Two writes before the two copies. -/
theorem write_put_comm (porta : Porta) (i : Nat) (bytes more : List UInt8) :
    (porta.write more).put i bytes = (porta.put i bytes).write more := rfl

theorem mirror_write_put_two (bufferCmd : Nat → UInt8) (bytes first second : List UInt8)
    {i j : Nat} (hi : i = bytes.length) (hj : j = bytes.length + first.length) :
    ((((mirror bufferCmd bytes).write first).write second).put i first).put j second =
      mirror bufferCmd (bytes ++ (first ++ second)) := by
  rw [write_put_comm, mirror_write_put _ _ _ hi, mirror_write_put _ _ _ (by simp [hj]),
    List.append_assoc]

theorem mirror_write_put_three (bufferCmd : Nat → UInt8) (bytes first second third : List UInt8)
    {i j k : Nat} (hi : i = bytes.length) (hj : j = bytes.length + first.length)
    (hk : k = bytes.length + first.length + second.length) :
    ((((((mirror bufferCmd bytes).write first).write second).write third).put i first).put j
        second).put k third =
      mirror bufferCmd (bytes ++ (first ++ second ++ third)) := by
  rw [write_put_comm, write_put_comm, mirror_write_put_two _ _ _ _ hi hj,
    mirror_write_put _ _ _ (by simp [hk, Nat.add_assoc]), List.append_assoc]

theorem mirror_writeArray (bufferCmd array : Nat → UInt8) (bytes : List UInt8) {i : Nat} (n : Nat)
    (hi : i = bytes.length) :
    (mirror bufferCmd bytes).writeArray array i n =
      mirror bufferCmd (bytes ++ load array 0 n) := by
  induction n with
  | zero => simp [writeArray]
  | succ n ih =>
    unfold writeArray at ih ⊢
    rw [List.range_succ, List.foldl_append, ih, List.foldl_cons, List.foldl_nil,
      mirror_write_put _ _ _ (by simp [hi]), List.append_assoc, load_append array 0 n 1]
    simp [load_succ]

theorem mirror_load (bufferCmd : Nat → UInt8) {bytes : List UInt8} {n : Nat}
    (hn : n ≤ bytes.length) : load (mirror bufferCmd bytes).bufferCmd 0 n = bytes.take n := by
  rw [← load_take _ _ hn]
  exact congrArg (List.take n) (load_store bufferCmd 0 bytes)

end Porta

/-- What the functions send with a body: the size and the number of bytes in the
checksum are cut to a byte. -/
def sent (body : List UInt8) : List UInt8 :=
  let bytes := UInt8.ofNat (body.length + 2) :: body
  let covered := bytes.take (UInt8.ofNat bytes.length).toNat
  bytes ++ [CRC_LSB (crc16 covered), CRC_MSB (crc16 covered)]

theorem isFrame_sent_iff (body : List UInt8) : IsFrame body (sent body) ↔ body.length + 2 < 256 := by
  have hsize : (UInt8.ofNat (body.length + 2)).toNat = (body.length + 2) % 256 :=
    UInt8.toNat_ofNat'
  constructor
  · rintro ⟨size, hlength, hframe⟩
    obtain ⟨rfl, -⟩ := List.cons_eq_cons.mp hframe
    rw [hsize] at hlength
    omega
  · intro hlt
    refine ⟨UInt8.ofNat (body.length + 2), by rw [hsize, Nat.mod_eq_of_lt hlt], ?_⟩
    have hcovered : (UInt8.ofNat (body.length + 1)).toNat = body.length + 1 := by
      rw [UInt8.toNat_ofNat', Nat.mod_eq_of_lt (by omega)]
    simp only [sent, List.length_cons, hcovered]
    rw [List.take_of_length_le (by simp)]

/-- The checksum of what stands in `bufferCmd`. -/
theorem mirror_enviarChecksum (bufferCmd : Nat → UInt8) {body : List UInt8} {size len : UInt8}
    (hsize : size = UInt8.ofNat (body.length + 2)) (hlen : len = UInt8.ofNat (body.length + 1)) :
    let porta := Porta.mirror bufferCmd (size :: body)
    (porta.enviarChecksum porta.bufferCmd len).written = sent body := by
  have hle : len.toNat ≤ (size :: body).length := by
    rw [hlen, UInt8.toNat_ofNat']
    exact Nat.mod_le _ _
  simp only [Porta.enviarChecksum, Porta.write, uiCrc16Cal, Porta.mirror_load bufferCmd hle]
  simp [Porta.mirror, sent, hsize, hlen]

theorem constantCMD_written (size adr command : UInt8) (bufferCmd : Nat → UInt8)
    (hsize : size = 4) :
    (constantCMD [size, adr, command] ⟨bufferCmd, []⟩).1.written = sent [adr, command] := by
  subst hsize
  rfl

theorem parameterCMD_written (size adr command parameter : UInt8) (bufferCmd : Nat → UInt8)
    (hsize : size = 5) :
    (parameterCMD [size, adr, command] parameter ⟨bufferCmd, []⟩).1.written =
      sent [adr, command, parameter] := by
  have hporta := Porta.mirror_write_put_two bufferCmd [] [size, adr, command] [parameter]
    (i := 0) (j := 3) rfl rfl
  rw [parameterCMD, Porta.mirror_nil]
  dsimp only
  rw [hporta]
  exact mirror_enviarChecksum bufferCmd hsize rfl

theorem finish_written (bufferCmd : Nat → UInt8) {body : List UInt8} {size MaskAdr MaskLen : UInt8}
    {accessPassword : UInt32} {j : Nat} (hj : j = body.length + 1)
    (hsize : size = UInt8.ofNat (body.length + 8)) :
    (finish (Porta.mirror bufferCmd (size :: body)) j accessPassword MaskAdr MaskLen).written =
      sent (body ++ passwordBytes accessPassword ++ [MaskAdr, MaskLen]) := by
  have hporta := Porta.mirror_write_put_three bufferCmd (size :: body) (passwordBytes accessPassword)
    [MaskAdr] [MaskLen] (i := j) (j := j + 4) (k := j + 5) hj (by simp [hj]) (by simp [hj])
  rw [finish, pwd_eq, hporta]
  have hbody : (size :: body) ++ (passwordBytes accessPassword ++ [MaskAdr] ++ [MaskLen]) =
      size :: (body ++ passwordBytes accessPassword ++ [MaskAdr, MaskLen]) := by simp
  rw [hbody]
  have hlength : (body ++ passwordBytes accessPassword ++ [MaskAdr, MaskLen]).length = body.length + 6 := by
    simp
  refine mirror_enviarChecksum bufferCmd ?_ ?_
  · rw [hsize, hlength]
  · rw [hj, hlength, Nat.add_right_comm]

/-- The size a function computes in a byte. -/
theorem size_ofNat (a : Nat) (ENum : UInt8) :
    UInt8.ofNat a + 2 * ENum = UInt8.ofNat (a + 2 * ENum.toNat) := by
  simp [UInt8.ofNat_add, UInt8.ofNat_mul]

theorem tagCMD_written (adr command ENum : UInt8) (EPC : Nat → UInt8) (accessPassword : UInt32)
    (MaskAdr MaskLen : UInt8) (bufferCmd : Nat → UInt8) (hENum : ENum < 15) :
    (tagCMD [adr, command] ENum EPC accessPassword MaskAdr MaskLen ⟨bufferCmd, []⟩).1.written =
      sent ([adr, command, ENum] ++ load EPC 0 (2 * ENum.toNat) ++ passwordBytes accessPassword ++
        [MaskAdr, MaskLen]) := by
  rw [tagCMD, Porta.mirror_nil]
  dsimp only
  rw [if_neg (UInt8.not_le.mpr hENum), Porta.mirror_write_put _ _ _ (by simp),
    Porta.mirror_write_put _ _ _ (by simp), Porta.mirror_write_put _ _ _ (by simp),
    Porta.mirror_writeArray _ _ _ _ (by simp)]
  refine finish_written bufferCmd ?_ ?_
  · simp
  · refine (size_ofNat 11 ENum).trans (congrArg UInt8.ofNat ?_)
    simp
    omega

theorem readData_written (ENum : UInt8) (EPC : Nat → UInt8) (Mem WordPtr Num : UInt8)
    (accessPassword : UInt32) (MaskAdr MaskLen : UInt8) (bufferCmd : Nat → UInt8)
    (hENum : ENum < 15) :
    (readData_EPCC1G2CMD ENum EPC Mem WordPtr Num accessPassword MaskAdr MaskLen
        ⟨bufferCmd, []⟩).1.written =
      sent (Command.readData ENum EPC Mem WordPtr Num accessPassword MaskAdr MaskLen).body := by
  rw [readData_EPCC1G2CMD, Porta.mirror_nil]
  dsimp only
  rw [if_neg (UInt8.not_le.mpr hENum), Porta.mirror_write_put _ _ _ (by simp),
    Porta.mirror_write_put _ _ _ (by simp), Porta.mirror_write_put _ _ _ (by simp [readData]),
    Porta.mirror_writeArray _ _ _ _ (by simp [readData]),
    Porta.mirror_write_put_three _ _ _ _ _ (by simp [readData]) (by simp [readData])
      (by simp [readData])]
  refine finish_written bufferCmd ?_ ?_
  · simp [readData]
  · refine (size_ofNat 14 ENum).trans (congrArg UInt8.ofNat ?_)
    simp [readData]
    omega

theorem writeData_written (WNum ENum : UInt8) (EPC : Nat → UInt8) (Mem WordPtr : UInt8)
    (Wdt : Nat → UInt8) (accessPassword : UInt32) (MaskAdr MaskLen : UInt8)
    (bufferCmd : Nat → UInt8) (hWNum : WNum ≠ 0) (hWNum' : WNum ≤ 120) (hENum : ENum < 15) :
    (writeData_EPCC1G2CMD WNum ENum EPC Mem WordPtr Wdt accessPassword MaskAdr MaskLen
        ⟨bufferCmd, []⟩).1.written =
      sent (Command.writeData WNum ENum EPC Mem WordPtr Wdt accessPassword MaskAdr
        MaskLen).body := by
  rw [writeData_EPCC1G2CMD, Porta.mirror_nil]
  dsimp only
  rw [if_neg hWNum, if_neg (UInt8.not_lt.mpr hWNum'), if_neg (UInt8.not_le.mpr hENum),
    Porta.mirror_write_put _ _ _ (by simp),
    Porta.mirror_write_put _ _ _ (by simp), Porta.mirror_write_put _ _ _ (by simp [writeData]),
    Porta.mirror_write_put _ _ _ (by simp [writeData]),
    Porta.mirror_writeArray _ _ _ _ (by simp [writeData]),
    Porta.mirror_write_put_two _ _ _ _ (by simp [writeData]) (by simp [writeData]),
    Porta.mirror_writeArray _ _ _ _ (by simp [writeData])]
  refine finish_written bufferCmd ?_ ?_
  · simp [writeData]
    omega
  · have hsize : 14 + 2 * ENum + 2 * WNum =
        UInt8.ofNat (14 + 2 * ENum.toNat + 2 * WNum.toNat) := by
      rw [← size_ofNat, ← size_ofNat]
      rfl
    refine hsize.trans (congrArg UInt8.ofNat ?_)
    simp [writeData]
    omega

/-- What every function sends with the arguments its guards admit. -/
theorem Command.written_eq (c : Command) (hadmitted : c.Admitted) (bufferCmd : Nat → UInt8) :
    (c.send ⟨bufferCmd, []⟩).1.written = sent c.body := by
  cases c with
  | inventory => exact constantCMD_written _ _ _ bufferCmd rfl
  | checkRdProtect => exact constantCMD_written _ _ _ bufferCmd rfl
  | getReaderInfo => exact constantCMD_written _ _ _ bufferCmd rfl
  | getWorkMode => exact constantCMD_written _ _ _ bufferCmd rfl
  | setAdr adr => exact parameterCMD_written _ _ _ adr bufferCmd rfl
  | setBRate baudrate =>
    obtain ⟨param, hparam⟩ := Option.ne_none_iff_exists'.mp hadmitted
    simp only [send, setBRate_ReadDefCMD, body, ← paramBRate_eq, hparam]
    exact parameterCMD_written _ _ _ param bufferCmd rfl
  | setPower power =>
    simp only [send, setPower_ReadDefCMD, if_neg (UInt8.not_lt.mpr hadmitted)]
    exact parameterCMD_written _ _ _ power bufferCmd rfl
  | setScanTime scantime_x100ms =>
    rw [send, body, setScanTime_ReadDefCMD, paramScanTime_eq]
    exact parameterCMD_written _ _ _ _ bufferCmd rfl
  | resetRdProtect accessPassword =>
    have hporta := Porta.mirror_write_put_two bufferCmd [] resetReadProtect
      (passwordBytes accessPassword) (i := 0) (j := 3) rfl rfl
    simp only [send, resetRdProtect_EPCC1G2CMD, pwd_eq, Porta.mirror_nil, hporta]
    exact mirror_enviarChecksum bufferCmd rfl rfl
  | rdProtectWEPC ENum EPC accessPassword MaskAdr MaskLen =>
    exact tagCMD_written _ _ ENum EPC accessPassword MaskAdr MaskLen bufferCmd hadmitted
  | killTag ENum EPC accessPassword MaskAdr MaskLen =>
    exact tagCMD_written _ _ ENum EPC accessPassword MaskAdr MaskLen bufferCmd hadmitted
  | writeData WNum ENum EPC Mem WordPtr Wdt accessPassword MaskAdr MaskLen =>
    exact writeData_written WNum ENum EPC Mem WordPtr Wdt accessPassword MaskAdr MaskLen bufferCmd
      hadmitted.1 hadmitted.2.1 hadmitted.2.2
  | readData ENum EPC Mem WordPtr Num accessPassword MaskAdr MaskLen =>
    exact readData_written ENum EPC Mem WordPtr Num accessPassword MaskAdr MaskLen bufferCmd
      hadmitted

/-- A function waits for a response exactly when its guards admit the arguments. -/
theorem Command.send_waits_iff (c : Command) (porta : Porta) :
    (c.send porta).2 = true ↔ c.Admitted := by
  cases c with
  | setBRate baudrate =>
    simp only [send, setBRate_ReadDefCMD, Admitted]
    cases paramBRate baudrate <;> simp [parameterCMD]
  | setPower power =>
    simp only [send, setPower_ReadDefCMD, Admitted, ← UInt8.not_lt]
    split <;> simp_all [parameterCMD]
  | rdProtectWEPC ENum EPC accessPassword MaskAdr MaskLen =>
    simp only [send, rdProtectWEPC_EPCC1G2CMD, tagCMD, Admitted, ← UInt8.not_le]
    split <;> simp_all
  | killTag ENum EPC accessPassword MaskAdr MaskLen =>
    simp only [send, killTag_EPCC1G2CMD, tagCMD, Admitted, ← UInt8.not_le]
    split <;> simp_all
  | writeData WNum ENum EPC Mem WordPtr Wdt accessPassword MaskAdr MaskLen =>
    simp only [send, writeData_EPCC1G2CMD, Admitted]
    by_cases hzero : WNum = 0
    · simp [hzero]
    by_cases hlong : WNum > 120
    · simp [hzero, hlong, UInt8.not_le.mpr hlong]
    by_cases hENum : ENum ≥ 15
    · simp [hzero, hlong, hENum, UInt8.not_lt.mpr hENum]
    · simp [hzero, hlong, hENum, UInt8.not_lt.mp hlong, UInt8.not_le.mp hENum]
  | readData ENum EPC Mem WordPtr Num accessPassword MaskAdr MaskLen =>
    simp only [send, readData_EPCC1G2CMD, Admitted, ← UInt8.not_le]
    split <;> simp_all
  | _ => exact iff_of_true rfl trivial

/-- The body leaves room for its size exactly when the words and the EPC of a
write are not too long together. -/
theorem Command.fits_iff (c : Command) (hadmitted : c.Admitted) :
    c.body.length + 2 < 256 ↔ c.Fits := by
  have hword {ENum : UInt8} (hENum : ENum < 15) : ENum.toNat < 15 := UInt8.lt_iff_toNat_lt.mp hENum
  cases c with
  | setBRate baudrate => cases h : rateCode baudrate <;> simp [body, Fits, h]
  | rdProtectWEPC ENum EPC accessPassword MaskAdr MaskLen =>
    have := hword hadmitted
    simp [body, Fits]
    omega
  | killTag ENum EPC accessPassword MaskAdr MaskLen =>
    have := hword hadmitted
    simp [body, Fits]
    omega
  | readData ENum EPC Mem WordPtr Num accessPassword MaskAdr MaskLen =>
    have := hword hadmitted
    simp [body, Fits]
    omega
  | writeData WNum ENum EPC Mem WordPtr Wdt accessPassword MaskAdr MaskLen =>
    simp [body, Fits]
    omega
  | _ => simp [body, Fits]

/-- A command is sent as a frame exactly when its size fits the byte. -/
theorem Command.send_isFrame_iff (c : Command) (hadmitted : c.Admitted)
    (bufferCmd : Nat → UInt8) :
    IsFrame c.body (c.send ⟨bufferCmd, []⟩).1.written ↔ c.Fits := by
  rw [c.written_eq hadmitted, isFrame_sent_iff, c.fits_iff hadmitted]

/-- A write of six words to the tag of the sketch. -/
def sketchWrite : Command :=
  let tag : List UInt8 := [0xE2, 0x00, 0x10, 0x01, 0x83, 0x18, 0x02, 0x70, 0x20, 0x50, 0x43, 0x53]
  let newTag : List UInt8 := [0xE2, 0x00, 0x10, 0x01, 0x83, 0x18, 0x02, 0x70, 0x20, 0x50, 0x43, 0x99]
  .writeData 6 6 (fun i => tag.getD i 0) 0x01 0x02 (fun i => newTag.getD i 0) 0 0x00 0x00

theorem sketchWrite_isFrame :
    IsFrame sketchWrite.body (sketchWrite.send ⟨fun _ => 0, []⟩).1.written :=
  (sketchWrite.send_isFrame_iff ⟨by decide, by decide, by decide⟩ fun _ => 0).mpr
    (by simp [sketchWrite, Command.Fits])

/-- The longest write with an EPC of one word: its size is sent as 0. -/
theorem longest_write_not_isFrame :
    ¬∀ (c : Command) (bufferCmd : Nat → UInt8), c.Admitted →
      IsFrame c.body (c.send ⟨bufferCmd, []⟩).1.written := by
  intro h
  have hadmitted : (Command.writeData 120 1 (fun _ => 0xE2) 3 0 (fun _ => 0) 0 0 0).Admitted :=
    ⟨by decide, by decide, by decide⟩
  have hframe := h _ (fun _ => 0) hadmitted
  rw [Command.written_eq _ hadmitted, isFrame_sent_iff, Command.fits_iff _ hadmitted] at hframe
  simp [Command.Fits] at hframe

end concretid.rfid
