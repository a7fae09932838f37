import ConcretID.Rfid.Framing

namespace concretid.rfid

/-! ## The commands with every access checked

`bufferCmd` has 262 bytes, `EPC` 16 and `Wdt` 240. A function with an access outside
has no result. -/

def bufferSize : Nat := 262

namespace Porta

def putChecked (porta : Porta) (i : Nat) (bytes : List UInt8) : Option Porta :=
  if i + bytes.length ≤ bufferSize then some (porta.put i bytes) else none

/-- One pass of the loop over an array of the given size. -/
def writeByteChecked (array : Nat → UInt8) (size i : Nat) (porta : Porta) (k : Nat) : Option Porta :=
  if k < size then (porta.write [array k]).putChecked (i + k) [array k] else none

def writeArrayChecked (porta : Porta) (array : Nat → UInt8) (size i n : Nat) : Option Porta :=
  (List.range n).foldlM (writeByteChecked array size i) porta

/-- `enviarChecksum(bufferCmd, len, porta)` -/
def checksumChecked (porta : Porta) (len : UInt8) : Option Porta :=
  if len.toNat ≤ bufferSize then some (porta.enviarChecksum porta.bufferCmd len) else none

end Porta

def parameterCMDChecked (command : List UInt8) (parameter : UInt8) (porta : Porta) : Option (Porta × Bool) := do
  let porta := (porta.write command).write [parameter]
  let porta ← porta.putChecked 0 command
  let porta ← porta.putChecked 3 [parameter]
  return (← porta.checksumChecked 4, true)

def resetRdProtectChecked (accessPassword : UInt32) (porta : Porta) : Option (Porta × Bool) := do
  let porta := (porta.write resetReadProtect).write (pwd accessPassword)
  let porta ← porta.putChecked 0 resetReadProtect
  let porta ← porta.putChecked 3 (pwd accessPassword)
  return (← porta.checksumChecked 7, true)

def finishChecked (porta : Porta) (j : Nat) (accessPassword : UInt32) (MaskAdr MaskLen : UInt8) : Option Porta := do
  let porta := ((porta.write (pwd accessPassword)).write [MaskAdr]).write [MaskLen]
  let porta ← porta.putChecked j (pwd accessPassword)
  let porta ← porta.putChecked (j + 4) [MaskAdr]
  let porta ← porta.putChecked (j + 5) [MaskLen]
  porta.checksumChecked (UInt8.ofNat (j + 6))

def tagCMDChecked (command : List UInt8) (ENum : UInt8) (EPC : Nat → UInt8) (accessPassword : UInt32)
    (MaskAdr MaskLen : UInt8) (porta : Porta) : Option (Porta × Bool) := do
  let comandSize : UInt8 := 11 + 2 * ENum
  let porta ← (porta.write [comandSize]).putChecked 0 [comandSize]
  let porta ← (porta.write command).putChecked 1 command
  let porta ← (porta.write [ENum]).putChecked 3 [ENum]
  if ENum ≥ 15 then return (porta, false)
  else
    let porta ← porta.writeArrayChecked EPC 16 4 (2 * ENum.toNat)
    return (← finishChecked porta (2 * ENum.toNat + 4) accessPassword MaskAdr MaskLen, true)

def writeDataCMDChecked (WNum ENum : UInt8) (EPC : Nat → UInt8) (Mem WordPtr : UInt8) (Wdt : Nat → UInt8)
    (accessPassword : UInt32) (MaskAdr MaskLen : UInt8) (porta : Porta) : Option (Porta × Bool) := do
  let comandSize : UInt8 := 14 + 2 * ENum + 2 * WNum
  let porta ← (porta.write [comandSize]).putChecked 0 [comandSize]
  let porta ← (porta.write writeData).putChecked 1 writeData
  let porta ← (porta.write [WNum]).putChecked 3 [WNum]
  let porta ← (porta.write [ENum]).putChecked 4 [ENum]
  if WNum = 0 then return (porta, false)
  else if WNum > 120 then return (porta, false)
  else if ENum ≥ 15 then return (porta, false)
  else
    let porta ← porta.writeArrayChecked EPC 16 5 (2 * ENum.toNat)
    let j := 2 * ENum.toNat + 5
    let porta := (porta.write [Mem]).write [WordPtr]
    let porta ← porta.putChecked j [Mem]
    let porta ← porta.putChecked (j + 1) [WordPtr]
    let j := j + 2
    let porta ← porta.writeArrayChecked Wdt 240 j (2 * WNum.toNat)
    return (← finishChecked porta (j + 2 * WNum.toNat) accessPassword MaskAdr MaskLen, true)

def readDataCMDChecked (ENum : UInt8) (EPC : Nat → UInt8) (Mem WordPtr Num : UInt8) (accessPassword : UInt32)
    (MaskAdr MaskLen : UInt8) (porta : Porta) : Option (Porta × Bool) := do
  let comandSize : UInt8 := 14 + 2 * ENum
  let porta ← (porta.write [comandSize]).putChecked 0 [comandSize]
  let porta ← (porta.write readData).putChecked 1 readData
  let porta ← (porta.write [ENum]).putChecked 3 [ENum]
  if ENum ≥ 15 then return (porta, false)
  else
    let porta ← porta.writeArrayChecked EPC 16 4 (2 * ENum.toNat)
    let j := 2 * ENum.toNat + 4
    let porta := ((porta.write [Mem]).write [WordPtr]).write [Num]
    let porta ← porta.putChecked j [Mem]
    let porta ← porta.putChecked (j + 1) [WordPtr]
    let porta ← porta.putChecked (j + 2) [Num]
    return (← finishChecked porta (j + 3) accessPassword MaskAdr MaskLen, true)

namespace Command

def sendChecked : Command → Porta → Option (Porta × Bool)
  | setAdr adr, porta => parameterCMDChecked rfid.setAdr adr porta
  | setBRate baudrate, porta =>
    match paramBRate baudrate with
    | some param => parameterCMDChecked rfid.setBRate param porta
    | none => some (porta, false)
  | setPower power, porta =>
    if power > 30 then some (porta, false) else parameterCMDChecked rfid.setPower power porta
  | setScanTime scantime_x100ms, porta =>
    parameterCMDChecked rfid.setScanTime (paramScanTime scantime_x100ms) porta
  | resetRdProtect accessPassword, porta => resetRdProtectChecked accessPassword porta
  | rdProtectWEPC ENum EPC accessPassword MaskAdr MaskLen, porta =>
    tagCMDChecked readProtectWEPC ENum EPC accessPassword MaskAdr MaskLen porta
  | killTag ENum EPC accessPassword MaskAdr MaskLen, porta =>
    tagCMDChecked rfid.killTag ENum EPC accessPassword MaskAdr MaskLen porta
  | writeData WNum ENum EPC Mem WordPtr Wdt accessPassword MaskAdr MaskLen, porta =>
    writeDataCMDChecked WNum ENum EPC Mem WordPtr Wdt accessPassword MaskAdr MaskLen porta
  | readData ENum EPC Mem WordPtr Num accessPassword MaskAdr MaskLen, porta =>
    readDataCMDChecked ENum EPC Mem WordPtr Num accessPassword MaskAdr MaskLen porta
  -- the constant commands leave `bufferCmd` alone
  | c, porta => some (c.send porta)

/-- The arrays are long enough: `EPC` for its words, and `bufferCmd` for the words of a
write with all around them. -/
def InArrays : Command → Prop
  | rdProtectWEPC ENum _ _ _ _ => ENum ≤ 8
  | killTag ENum _ _ _ _ => ENum ≤ 8
  | writeData WNum ENum _ _ _ _ _ _ _ => ENum ≤ 8 ∧ WNum.toNat + ENum.toNat ≤ 124
  | readData ENum _ _ _ _ _ _ _ => ENum ≤ 8
  | _ => True

end Command

/-! ## Single accesses -/

namespace Porta

theorem putChecked_eq {porta : Porta} {i : Nat} {bytes : List UInt8} (h : i + bytes.length ≤ bufferSize) :
    porta.putChecked i bytes = some (porta.put i bytes) := if_pos h

theorem putChecked_byte {i : Nat} (h : i < bufferSize) (porta : Porta) (b : UInt8) :
    porta.putChecked i [b] = some (porta.put i [b]) := if_pos h

/-- The two bytes of a command behind its size. -/
theorem putChecked_command {command : List UInt8} (hcommand : command.length = 2) (porta : Porta) :
    porta.putChecked 1 command = some (porta.put 1 command) :=
  putChecked_eq (by rw [hcommand]; decide)

theorem writeArrayChecked_succ (porta : Porta) (array : Nat → UInt8) (size i n : Nat) :
    porta.writeArrayChecked array size i (n + 1) =
      (porta.writeArrayChecked array size i n).bind (writeByteChecked array size i · n) := by
  simp only [writeArrayChecked, List.range_succ, List.foldlM_append, List.foldlM_cons, List.foldlM_nil, bind_pure,
    Option.bind_eq_bind]

theorem writeArray_succ (porta : Porta) (array : Nat → UInt8) (i n : Nat) :
    porta.writeArray array i (n + 1) =
      ((porta.writeArray array i n).write [array n]).put (i + n) [array n] := by
  rw [writeArray, List.range_succ, List.foldl_append]
  rfl

/-- An array is written where all of it lies inside, and all its copy in `bufferCmd`. -/
theorem writeArrayChecked_eq {porta : Porta} {array : Nat → UInt8} {size i n : Nat} (hsize : n ≤ size)
    (hbuffer : i + n ≤ bufferSize) :
    porta.writeArrayChecked array size i n = some (porta.writeArray array i n) := by
  induction n with
  | zero => rfl
  | succ n ih =>
    rw [writeArrayChecked_succ, ih (by omega) (by omega), Option.bind_some, writeByteChecked,
      if_pos (Nat.lt_of_succ_le hsize), putChecked_eq hbuffer, writeArray_succ]

theorem writeArrayChecked_none {porta : Porta} {array : Nat → UInt8} {size i n : Nat} (h : size < n) :
    porta.writeArrayChecked array size i n = none := by
  induction n with
  | zero => cases h
  | succ n ih =>
    rw [writeArrayChecked_succ]
    by_cases hn : size < n
    · rw [ih hn, Option.bind_none]
    · apply Option.bind_eq_none_iff.mpr
      intro porta' _
      exact if_neg (by omega)

theorem checksumChecked_eq (porta : Porta) (len : UInt8) :
    porta.checksumChecked len = some (porta.enviarChecksum porta.bufferCmd len) :=
  if_pos (Nat.le_trans (Nat.le_of_lt len.toNat_lt) (by decide))

end Porta

/-! ## The commands -/

theorem parameterCMDChecked_eq {command : List UInt8} (hcommand : command.length = 3) (parameter : UInt8)
    (porta : Porta) : parameterCMDChecked command parameter porta = some (parameterCMD command parameter porta) := by
  have hput (porta : Porta) : porta.putChecked 0 command = some (porta.put 0 command) :=
    Porta.putChecked_eq (by rw [hcommand]; decide)
  simp only [parameterCMDChecked, hput, Porta.putChecked_byte (by decide : 3 < bufferSize), Porta.checksumChecked_eq]
  rfl

theorem resetRdProtectChecked_eq (accessPassword : UInt32) (porta : Porta) :
    resetRdProtectChecked accessPassword porta = some (resetRdProtect_EPCC1G2CMD accessPassword porta) := by
  have hput (porta : Porta) : porta.putChecked 0 resetReadProtect = some (porta.put 0 resetReadProtect) :=
    Porta.putChecked_eq (by decide)
  have hput' (porta : Porta) : porta.putChecked 3 (pwd accessPassword) = some (porta.put 3 (pwd accessPassword)) :=
    Porta.putChecked_eq (by simp [pwd, bufferSize])
  simp only [resetRdProtectChecked, hput, hput', Porta.checksumChecked_eq]
  rfl

/-- The end of a command fits where its last byte does. -/
theorem finishChecked_eq {j : Nat} (hj : j + 6 ≤ bufferSize) (porta : Porta) (accessPassword : UInt32)
    (MaskAdr MaskLen : UInt8) :
    finishChecked porta j accessPassword MaskAdr MaskLen = some (finish porta j accessPassword MaskAdr MaskLen) := by
  have hpwd (porta : Porta) : porta.putChecked j (pwd accessPassword) = some (porta.put j (pwd accessPassword)) :=
    Porta.putChecked_eq (by simp only [pwd, List.length_cons, List.length_nil]; omega)
  simp only [finishChecked, hpwd, Porta.putChecked_byte (by omega : j + 4 < bufferSize),
    Porta.putChecked_byte (by omega : j + 5 < bufferSize), Option.bind_eq_bind, Option.bind_some,
    Porta.checksumChecked_eq]
  rfl

theorem finishChecked_none {j : Nat} (hj : bufferSize < j + 6) (porta : Porta) (accessPassword : UInt32)
    (MaskAdr MaskLen : UInt8) : finishChecked porta j accessPassword MaskAdr MaskLen = none := by
  have hlen (porta : Porta) : porta.putChecked (j + 5) [MaskLen] = none :=
    if_neg (by simp only [List.length_cons, List.length_nil]; omega)
  simp only [finishChecked, hlen, Option.bind_eq_bind, Option.bind_none, Option.bind_fun_none]

section commands

variable (ENum WNum : UInt8) (EPC Wdt : Nat → UInt8) (Mem WordPtr Num : UInt8) (accessPassword : UInt32)
  (MaskAdr MaskLen : UInt8) (porta : Porta)

theorem tagCMDChecked_eq {command : List UInt8} (hcommand : command.length = 2) (h : ENum < 15 → ENum ≤ 8) :
    tagCMDChecked command ENum EPC accessPassword MaskAdr MaskLen porta =
      some (tagCMD command ENum EPC accessPassword MaskAdr MaskLen porta) := by
  simp only [tagCMDChecked, tagCMD, Porta.putChecked_byte (by decide : 0 < bufferSize),
    Porta.putChecked_command hcommand, Porta.putChecked_byte (by decide : 3 < bufferSize), Option.bind_eq_bind,
    Option.bind_some]
  split
  · rfl
  · next hENum =>
    have hle : ENum.toNat ≤ 8 := UInt8.le_iff_toNat_le.mp (h (UInt8.not_le.mp hENum))
    rw [Porta.writeArrayChecked_eq (by omega) (by rw [bufferSize]; omega), Option.bind_some,
      finishChecked_eq (by rw [bufferSize]; omega)]
    rfl

theorem tagCMDChecked_none {command : List UInt8} (hcommand : command.length = 2) (hENum : ENum < 15)
    (h : ¬ ENum ≤ 8) : tagCMDChecked command ENum EPC accessPassword MaskAdr MaskLen porta = none := by
  have hlt : 8 < ENum.toNat := UInt8.lt_iff_toNat_lt.mp (UInt8.not_le.mp h)
  simp only [tagCMDChecked, Porta.putChecked_byte (by decide : 0 < bufferSize), Porta.putChecked_command hcommand,
    Porta.putChecked_byte (by decide : 3 < bufferSize), Option.bind_eq_bind, Option.bind_some,
    if_neg (UInt8.not_le.mpr hENum)]
  rw [Porta.writeArrayChecked_none (by omega), Option.bind_none]

theorem readDataCMDChecked_eq (h : ENum < 15 → ENum ≤ 8) :
    readDataCMDChecked ENum EPC Mem WordPtr Num accessPassword MaskAdr MaskLen porta =
      some (readData_EPCC1G2CMD ENum EPC Mem WordPtr Num accessPassword MaskAdr MaskLen porta) := by
  simp only [readDataCMDChecked, readData_EPCC1G2CMD, Porta.putChecked_byte (by decide : 0 < bufferSize),
    Porta.putChecked_command (by decide : readData.length = 2), Porta.putChecked_byte (by decide : 3 < bufferSize),
    Option.bind_eq_bind, Option.bind_some]
  split
  · rfl
  · next hENum =>
    have hle : ENum.toNat ≤ 8 := UInt8.le_iff_toNat_le.mp (h (UInt8.not_le.mp hENum))
    have hbyte {i : Nat} (hi : i ≤ 22) := Porta.putChecked_byte (by rw [bufferSize]; omega : i < bufferSize)
    rw [Porta.writeArrayChecked_eq (by omega) (by rw [bufferSize]; omega), Option.bind_some, hbyte (by omega),
      Option.bind_some, hbyte (by omega), Option.bind_some, hbyte (by omega), Option.bind_some,
      finishChecked_eq (by rw [bufferSize]; omega)]
    rfl

theorem readDataCMDChecked_none (hENum : ENum < 15) (h : ¬ ENum ≤ 8) :
    readDataCMDChecked ENum EPC Mem WordPtr Num accessPassword MaskAdr MaskLen porta = none := by
  have hlt : 8 < ENum.toNat := UInt8.lt_iff_toNat_lt.mp (UInt8.not_le.mp h)
  simp only [readDataCMDChecked, Porta.putChecked_byte (by decide : 0 < bufferSize),
    Porta.putChecked_command (by decide : readData.length = 2), Porta.putChecked_byte (by decide : 3 < bufferSize),
    Option.bind_eq_bind, Option.bind_some, if_neg (UInt8.not_le.mpr hENum)]
  rw [Porta.writeArrayChecked_none (by omega), Option.bind_none]

theorem writeDataCMDChecked_eq
    (h : WNum ≠ 0 ∧ WNum ≤ 120 ∧ ENum < 15 → ENum ≤ 8 ∧ WNum.toNat + ENum.toNat ≤ 124) :
    writeDataCMDChecked WNum ENum EPC Mem WordPtr Wdt accessPassword MaskAdr MaskLen porta =
      some (writeData_EPCC1G2CMD WNum ENum EPC Mem WordPtr Wdt accessPassword MaskAdr MaskLen porta) := by
  simp only [writeDataCMDChecked, writeData_EPCC1G2CMD, Porta.putChecked_byte (by decide : 0 < bufferSize),
    Porta.putChecked_command (by decide : writeData.length = 2), Porta.putChecked_byte (by decide : 3 < bufferSize),
    Porta.putChecked_byte (by decide : 4 < bufferSize), Option.bind_eq_bind, Option.bind_some]
  split
  · rfl
  split
  · rfl
  split
  · rfl
  · next hzero hlong hENum =>
    have hWNum : WNum.toNat ≤ 120 := UInt8.le_iff_toNat_le.mp (UInt8.not_lt.mp hlong)
    obtain ⟨hENum', hsum⟩ := h ⟨hzero, UInt8.not_lt.mp hlong, UInt8.not_le.mp hENum⟩
    have hle : ENum.toNat ≤ 8 := UInt8.le_iff_toNat_le.mp hENum'
    have hbyte {i : Nat} (hi : i ≤ 22) := Porta.putChecked_byte (by rw [bufferSize]; omega : i < bufferSize)
    rw [Porta.writeArrayChecked_eq (by omega) (by rw [bufferSize]; omega), Option.bind_some, hbyte (by omega),
      Option.bind_some, hbyte (by omega), Option.bind_some,
      Porta.writeArrayChecked_eq (by omega) (by rw [bufferSize]; omega), Option.bind_some,
      finishChecked_eq (by rw [bufferSize]; omega)]
    rfl

/-- Too many words for `EPC`, or for `bufferCmd` with the words written. -/
theorem writeDataCMDChecked_none (hzero : WNum ≠ 0) (hWNum : WNum ≤ 120) (hENum : ENum < 15)
    (h : ¬ (ENum ≤ 8 ∧ WNum.toNat + ENum.toNat ≤ 124)) :
    writeDataCMDChecked WNum ENum EPC Mem WordPtr Wdt accessPassword MaskAdr MaskLen porta = none := by
  simp only [writeDataCMDChecked, Porta.putChecked_byte (by decide : 0 < bufferSize),
    Porta.putChecked_command (by decide : writeData.length = 2), Porta.putChecked_byte (by decide : 3 < bufferSize),
    Porta.putChecked_byte (by decide : 4 < bufferSize), Option.bind_eq_bind, Option.bind_some, if_neg hzero,
    if_neg (UInt8.not_lt.mpr hWNum), if_neg (UInt8.not_le.mpr hENum)]
  by_cases hEPC : ENum.toNat ≤ 8
  · have hsum : 124 < WNum.toNat + ENum.toNat := by
      by_contra hle
      exact h ⟨UInt8.le_iff_toNat_le.mpr hEPC, Nat.not_lt.mp hle⟩
    have hbyte {i : Nat} (hi : i ≤ 22) := Porta.putChecked_byte (by rw [bufferSize]; omega : i < bufferSize)
    rw [Porta.writeArrayChecked_eq (by omega) (by rw [bufferSize]; omega), Option.bind_some, hbyte (by omega),
      Option.bind_some, hbyte (by omega), Option.bind_some]
    apply Option.bind_eq_none_iff.mpr
    intro porta' _
    rw [finishChecked_none (by rw [bufferSize]; omega), Option.bind_none]
  · rw [Porta.writeArrayChecked_none (by omega), Option.bind_none]

end commands

/-! ## Every command -/

/-- A checked function that has no result where a condition fails has one exactly under
the condition. -/
theorem checked_iff {result : Option (Porta × Bool)} {sent : Porta × Bool} {admitted inside : Prop}
    (hinside : (admitted → inside) → result = some sent) (hnone : admitted → ¬ inside → result = none) :
    result = some sent ↔ (admitted → inside) := by
  refine ⟨fun h hadmitted => ?_, hinside⟩
  by_contra houtside
  rw [hnone hadmitted houtside] at h
  cases h

/-- With the arguments its guards admit, a command stays inside the arrays exactly if
they are long enough for its words. A rejected one always does. -/
theorem Command.inside_iff (c : Command) (porta : Porta) :
    c.sendChecked porta = some (c.send porta) ↔ (c.Admitted → c.InArrays) := by
  cases c with
  | setAdr adr => exact iff_of_true (parameterCMDChecked_eq rfl adr porta) fun _ => trivial
  | setBRate baudrate =>
    refine iff_of_true ?_ fun _ => trivial
    simp only [sendChecked, send, setBRate_ReadDefCMD]
    cases paramBRate baudrate with
    | none => rfl
    | some param => exact parameterCMDChecked_eq rfl param porta
  | setPower power =>
    refine iff_of_true ?_ fun _ => trivial
    simp only [sendChecked, send, setPower_ReadDefCMD]
    split
    · rfl
    · exact parameterCMDChecked_eq rfl power porta
  | setScanTime scantime_x100ms => exact iff_of_true (parameterCMDChecked_eq rfl _ porta) fun _ => trivial
  | resetRdProtect accessPassword => exact iff_of_true (resetRdProtectChecked_eq accessPassword porta) fun _ => trivial
  | rdProtectWEPC ENum EPC accessPassword MaskAdr MaskLen =>
    exact checked_iff (tagCMDChecked_eq ENum EPC accessPassword MaskAdr MaskLen porta rfl)
      (tagCMDChecked_none ENum EPC accessPassword MaskAdr MaskLen porta rfl)
  | killTag ENum EPC accessPassword MaskAdr MaskLen =>
    exact checked_iff (tagCMDChecked_eq ENum EPC accessPassword MaskAdr MaskLen porta rfl)
      (tagCMDChecked_none ENum EPC accessPassword MaskAdr MaskLen porta rfl)
  | writeData WNum ENum EPC Mem WordPtr Wdt accessPassword MaskAdr MaskLen =>
    apply checked_iff (writeDataCMDChecked_eq ENum WNum EPC Wdt Mem WordPtr accessPassword MaskAdr MaskLen porta)
    rintro ⟨hzero, hWNum, hENum⟩
    exact writeDataCMDChecked_none ENum WNum EPC Wdt Mem WordPtr accessPassword MaskAdr MaskLen porta hzero hWNum hENum
  | readData ENum EPC Mem WordPtr Num accessPassword MaskAdr MaskLen =>
    exact checked_iff (readDataCMDChecked_eq ENum EPC Mem WordPtr Num accessPassword MaskAdr MaskLen porta)
      (readDataCMDChecked_none ENum EPC Mem WordPtr Num accessPassword MaskAdr MaskLen porta)
  | _ => exact iff_of_true rfl fun _ => trivial

/-- An EPC of nine words is read behind its array; and the longest write to a tag of
eight words is copied behind `bufferCmd`. -/
theorem long_commands_outside :
    (Command.readData 9 (fun _ => 0xE2) 3 0 4 0 0 0).Admitted ∧
      (Command.readData 9 (fun _ => 0xE2) 3 0 4 0 0 0).sendChecked ⟨fun _ => 0, []⟩ = none ∧
      (Command.writeData 120 8 (fun _ => 0xE2) 3 0 (fun _ => 0) 0 0 0).Admitted ∧
      (Command.writeData 120 8 (fun _ => 0xE2) 3 0 (fun _ => 0) 0 0 0).sendChecked ⟨fun _ => 0, []⟩ = none := by
  have hread : (9 : UInt8) < 15 := by decide
  have hwrite : (120 : UInt8) ≠ 0 ∧ (120 : UInt8) ≤ 120 ∧ (8 : UInt8) < 15 := by decide
  refine ⟨hread, ?_, hwrite, ?_⟩
  · exact readDataCMDChecked_none _ _ _ _ _ _ _ _ _ hread (by decide)
  · exact writeDataCMDChecked_none _ _ _ _ _ _ _ _ _ _ hwrite.1 hwrite.2.1 hwrite.2.2 (by decide)

end concretid.rfid
