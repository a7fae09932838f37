import ConcretID.Library.Line
import ConcretID.Flasher.Comunicacao

namespace concretid.flasher

open memory line

/-! ## The two copies of `Comunicacao.h`

The host's `int` has 32 bits, the device's 16; `unsigned short` has 16 on both. -/

/-- How a receive ends: with the length it returns, the buffer and what is left on
the line, or by leaving through `exit(1)`. -/
inductive Reception where
  | accepted (len : Int) (buffer : Nat → UInt8) (line : Line UInt8)
  | rejected

namespace host

def LOBYTE (w : UInt32) : UInt8 := w.toUInt8
def HIBYTE (w : UInt32) : UInt8 := (w.toUInt16.toUInt32 >>> 8 &&& 0xFF).toUInt8

/-- One turn of the inner loop: computed with 32 bits, kept in 16. -/
def uiCrc16Bit (uiCrcValue : UInt16) : UInt16 :=
  if uiCrcValue.toUInt32 &&& 0x0001 ≠ 0 then
    (uiCrcValue.toUInt32 >>> 1 ^^^ 0x8408).toUInt16
  else (uiCrcValue.toUInt32 >>> 1).toUInt16

def uiCrc16Cal (pucY : Nat → UInt8) (ucX : UInt16) : UInt32 :=
  ((load pucY 0 ucX.toNat).foldl (fun uiCrcValue b =>
    uiCrc16Bit^[8] (uiCrcValue.toUInt32 ^^^ b.toUInt32).toUInt16) 0xFFFF).toUInt32

def checarChecksum (buffer : Nat → UInt8) (len : UInt16) (CRC_LSB CRC_MSB : UInt8) : Bool :=
  let crc := uiCrc16Cal buffer len
  CRC_MSB = HIBYTE crc && CRC_LSB = LOBYTE crc

/-- The bytes `enviarDados` writes. -/
def enviarDados (buffer : Nat → UInt8) (len : UInt16) : List UInt8 :=
  let crc := uiCrc16Cal buffer len
  [0x00, LOBYTE len.toUInt32, HIBYTE len.toUInt32] ++ load buffer 0 len.toNat ++
    [LOBYTE crc, HIBYTE crc]

/-- `while (RS232_PollComport(...) == 0)`. -/
def RS232_ReadByte (line : Line UInt8) : Option (UInt8 × Line UInt8) := line.await

/-- Both loops of `RS232_ReadBuffer`: `buf` is the offset `i`, and each question is
for all that is missing. -/
def RS232_ReadBuffer (line : Line UInt8) (buf : Nat → UInt8) (i size : Nat) :
    Option ((Nat → UInt8) × Line UInt8) :=
  if size = 0 then some (buf, line)
  else if (line.poll size).1 = [] then
    if line.bursts = [] then none else RS232_ReadBuffer (line.poll size).2 buf i size
  else
    RS232_ReadBuffer (line.poll size).2 (store buf i (line.poll size).1)
      (i + (line.poll size).1.length) (size - (line.poll size).1.length)
termination_by size + line.bursts.length
decreasing_by
  · rw [Line.poll_bursts, List.length_tail]
    have := List.length_pos_of_ne_nil ‹line.bursts ≠ []›
    omega
  · rw [Line.poll_bursts, List.length_tail]
    have := List.length_pos_of_ne_nil ‹(line.poll size).1 ≠ []›
    omega

def receberDados (line : Line UInt8) (buffer : Nat → UInt8) : Option Reception := do
  let (tipo, line) ← RS232_ReadByte line
  if tipo ≠ 0x00 then return .rejected
  let (len_LSB, line) ← RS232_ReadByte line
  let (len_MSB, line) ← RS232_ReadByte line
  let len : UInt32 := len_MSB.toUInt32 <<< 8 ||| len_LSB.toUInt32
  let (buffer, line) ← RS232_ReadBuffer line buffer 0 len.toNat
  let (CRC_LSB, line) ← RS232_ReadByte line
  let (CRC_MSB, line) ← RS232_ReadByte line
  if checarChecksum buffer len.toUInt16 CRC_LSB CRC_MSB then
    return .accepted len.toInt32.toInt buffer line
  else return .rejected

end host

namespace device

/-- The bytes `enviarDados` writes. -/
def enviarDados (buffer : Nat → UInt8) (len : UInt16) : List UInt8 :=
  let crc := uiCrc16Cal buffer len
  [0x00, LOBYTE len, HIBYTE len] ++ load buffer 0 len.toNat ++ [LOBYTE crc, HIBYTE crc]

/-- The timeout of `readBytes`, in milliseconds. -/
def TIMEOUT : Nat := 1000

/-- `porta->readBytes(..., 1)` into a variable that is 0: without a byte in time it stays so,
and nothing looks at what `readBytes` returns. -/
def readByte (line : Line UInt8) : UInt8 × Line UInt8 :=
  let read := line.awaitFor TIMEOUT
  (read.1.getD 0, read.2)

/-- `while(count > 0)`, with `buffer_aux` at the offset `i`. -/
def readLoop (line : Line UInt8) (buffer : Nat → UInt8) (i count : Nat) :
    Option ((Nat → UInt8) × Line UInt8) :=
  if count = 0 then some (buffer, line)
  else
    match (line.poll 1).1 with
    | b :: _ => readLoop (line.poll 1).2 (Function.update buffer i b) (i + 1) (count - 1)
    | [] => if line.bursts = [] then none else readLoop (line.poll 1).2 buffer i count
termination_by count + line.bursts.length
decreasing_by
  · rw [Line.poll_bursts, List.length_tail]
    omega
  · rw [Line.poll_bursts, List.length_tail]
    have := List.length_pos_of_ne_nil ‹line.bursts ≠ []›
    omega

def receberDados (line : Line UInt8) (buffer : Nat → UInt8) : Option Reception := do
  let (tipo, line) := readByte line
  if tipo ≠ 0x00 then return .rejected
  let (len_LSB, line) := readByte line
  let (len_MSB, line) := readByte line
  let len : UInt16 := len_MSB.toUInt16 <<< 8 ||| len_LSB.toUInt16
  let (buffer, line) ← readLoop line buffer 0 len.toNat
  let (CRC_LSB, line) := readByte line
  let (CRC_MSB, line) := readByte line
  if checarChecksum buffer len CRC_LSB CRC_MSB then
    return .accepted len.toInt16.toInt buffer line
  else return .rejected

end device

/-! ## They agree -/

namespace host

theorem shifted_eq (w : UInt16) : (w.toUInt32 >>> 1).toUInt16 = w >>> 1 := by
  have hlt := w.toNat_lt
  have hshift : w.toNat >>> 1 % 65536 = w.toNat >>> 1 := by
    rw [Nat.shiftRight_eq_div_pow]
    omega
  rw [← UInt16.toNat_inj]
  simpa using hshift

theorem uiCrc16Bit_eq (uiCrcValue : UInt16) : uiCrc16Bit uiCrcValue = flasher.uiCrc16Bit uiCrcValue := by
  have hbit : uiCrcValue.toUInt32 &&& 0x0001 ≠ 0 ↔ uiCrcValue &&& 0x0001 ≠ 0 := by
    have hand : uiCrcValue.toUInt32 &&& 0x0001 = (uiCrcValue &&& 0x0001).toUInt32 := by
      rw [UInt16.toUInt32_and]
      rfl
    rw [hand, Ne, Ne, ← UInt16.toUInt32_inj]
    rfl
  simp only [uiCrc16Bit, flasher.uiCrc16Bit, hbit, shifted_eq, UInt32.toUInt16_xor]
  rfl

theorem uiCrc16Cal_eq (pucY : Nat → UInt8) (ucX : UInt16) :
    uiCrc16Cal pucY ucX = (flasher.uiCrc16Cal pucY ucX).toUInt32 := by
  have hbit : uiCrc16Bit = flasher.uiCrc16Bit := funext uiCrc16Bit_eq
  have hxor (uiCrcValue : UInt16) (b : UInt8) :
      (uiCrcValue.toUInt32 ^^^ b.toUInt32).toUInt16 = uiCrcValue ^^^ b.toUInt16 := by
    rw [UInt32.toUInt16_xor, UInt16.toUInt16_toUInt32, UInt8.toUInt16_toUInt32]
  simp only [uiCrc16Cal, flasher.uiCrc16Cal, hbit, hxor]
  rfl

theorem LOBYTE_eq (w : UInt16) : LOBYTE w.toUInt32 = flasher.LOBYTE w := by
  simp [LOBYTE, flasher.LOBYTE]

theorem HIBYTE_eq (w : UInt16) : HIBYTE w.toUInt32 = flasher.HIBYTE w := by
  have hlt := w.toNat_lt
  have hshift : (w.toUInt32 >>> 8).toNat = w.toNat / 256 := Nat.shiftRight_eq_div_pow w.toNat 8
  rw [← UInt8.toNat_inj, flasher.HIBYTE_toNat, HIBYTE, UInt16.toUInt16_toUInt32,
    UInt32.toNat_toUInt8, UInt32.toNat_and, hshift]
  have hmask : w.toNat / 256 &&& 0xFF = w.toNat / 256 % 256 :=
    Nat.and_two_pow_sub_one_eq_mod _ 8
  have hbyte : (0xFF : UInt32).toNat = 0xFF := rfl
  rw [hbyte, hmask]
  omega

/-- Both write the same bytes. -/
theorem enviarDados_eq (buffer : Nat → UInt8) (len : UInt16) :
    enviarDados buffer len = dadosFrame buffer len := by
  simp only [enviarDados, dadosFrame, uiCrc16Cal_eq, LOBYTE_eq, HIBYTE_eq]

theorem checarChecksum_eq (buffer : Nat → UInt8) (len : UInt16) (CRC_LSB CRC_MSB : UInt8) :
    checarChecksum buffer len CRC_LSB CRC_MSB =
      flasher.checarChecksum buffer len CRC_LSB CRC_MSB := by
  simp only [checarChecksum, flasher.checarChecksum, uiCrc16Cal_eq, LOBYTE_eq, HIBYTE_eq]

/-- The length on the line, put together with 32 bits. -/
theorem len_eq (len : UInt16) :
    (flasher.HIBYTE len).toUInt32 <<< 8 ||| (flasher.LOBYTE len).toUInt32 = len.toUInt32 := by
  have hfits : len.toNat / 256 * 256 < 0x100000000 := by
    have := len.toNat_lt
    omega
  have hhigh : ((flasher.HIBYTE len).toUInt32 <<< 8).toNat = len.toNat / 256 * 256 := by
    rw [UInt32.toNat_shiftLeft, UInt8.toNat_toUInt32, HIBYTE_toNat]
    exact (congrArg (· % 0x100000000) (Nat.shiftLeft_eq _ _)).trans (Nat.mod_eq_of_lt hfits)
  have hlow : (flasher.LOBYTE len).toUInt32.toNat = len.toNat % 256 := UInt16.toNat_toUInt8 len
  rw [← UInt32.toNat_inj, UInt32.toNat_or, hhigh, hlow, UInt16.toNat_toUInt32]
  calc len.toNat / 256 * 256 ||| len.toNat % 256
      = (len.toNat / 256) <<< 8 ||| len.toNat % 256 := by rw [Nat.shiftLeft_eq]
    _ = len.toNat / 256 * 256 + len.toNat % 256 := shift_or (Nat.mod_lt _ (by decide))
    _ = len.toNat := Nat.div_add_mod' _ _

/-- Whatever the questions find each time, `RS232_ReadBuffer` takes the next bytes. -/
theorem RS232_ReadBuffer_eq {line : Line UInt8} {bytes rest : List UInt8} (buf : Nat → UInt8)
    (i : Nat) {size : Nat} (hsymbols : line.symbols = bytes ++ rest) (hsize : size = bytes.length) :
    ∃ line', RS232_ReadBuffer line buf i size = some (store buf i bytes, line') ∧
      line'.symbols = rest := by
  induction hn : size + line.bursts.length using Nat.strongRecOn
    generalizing line buf i size bytes with
  | ind n ih =>
    rw [RS232_ReadBuffer]
    by_cases hzero : size = 0
    · obtain rfl : bytes = [] := List.eq_nil_of_length_eq_zero (hsize ▸ hzero)
      exact ⟨line, by rw [if_pos hzero, store_nil], hsymbols⟩
    rw [if_neg hzero]
    by_cases hpoll : (line.poll size).1 = []
    · have hbursts : line.bursts ≠ [] := by
        intro hnone
        have hnil := Line.symbols_of_poll_nil (Nat.pos_of_ne_zero hzero) hpoll hnone
        rw [hsymbols, List.append_eq_nil_iff] at hnil
        exact hzero (by rw [hsize, hnil.1, List.length_nil])
      have hpos := List.length_pos_of_ne_nil hbursts
      have hpolled := line.poll_symbols size
      rw [hpoll, List.nil_append] at hpolled
      rw [if_pos hpoll, if_neg hbursts]
      refine ih _ ?_ buf i (hpolled.trans hsymbols) hsize rfl
      rw [Line.poll_bursts, List.length_tail]
      omega
    · have hpos := List.length_pos_of_ne_nil hpoll
      obtain ⟨more, hbytes, hrest⟩ := Line.poll_split hsymbols (Nat.le_of_eq hsize)
      have hlength : size - (line.poll size).1.length = more.length := by
        have hboth := congrArg List.length hbytes
        rw [List.length_append] at hboth
        omega
      rw [if_neg hpoll]
      have hlt : size - (line.poll size).1.length + (line.poll size).2.bursts.length < n := by
        rw [← hn, Line.poll_bursts, List.length_tail]
        omega
      have hstore : store buf i bytes = store (store buf i (line.poll size).1)
          (i + (line.poll size).1.length) more := by
        rw [← store_append, ← hbytes]
      rw [hstore]
      exact ih _ hlt (store buf i (line.poll size).1) (i + (line.poll size).1.length) hrest
        hlength rfl

/-- A frame that comes whole is accepted with its payload, or rejected. -/
theorem receberDados_eq {line : Line UInt8} {len : UInt16} {payload rest : List UInt8}
    {CRC_LSB CRC_MSB : UInt8} (target : Nat → UInt8) (hpayload : payload.length = len.toNat)
    (hsymbols : line.symbols = [0x00, flasher.LOBYTE len, flasher.HIBYTE len] ++ payload ++
      [CRC_LSB, CRC_MSB] ++ rest) :
    ∃ line', line'.symbols = rest ∧ receberDados line target =
      some (if flasher.checarChecksum (store target 0 payload) len CRC_LSB CRC_MSB then
        .accepted len.toNat (store target 0 payload) line' else .rejected) := by
  obtain ⟨line₁, htipo, h₁⟩ := Line.await_eq (b := 0x00) hsymbols
  obtain ⟨line₂, hlsb, h₂⟩ := Line.await_eq (b := flasher.LOBYTE len) h₁
  obtain ⟨line₃, hmsb, h₃⟩ := Line.await_eq (b := flasher.HIBYTE len) h₂
  have hrest : line₃.symbols = payload ++ CRC_LSB :: CRC_MSB :: rest := by simpa using h₃
  obtain ⟨line₄, hbuffer, h₄⟩ := RS232_ReadBuffer_eq target 0 hrest hpayload.symm
  obtain ⟨line₅, hcrc, h₅⟩ := Line.await_eq h₄
  obtain ⟨line₆, hcrc', h₆⟩ := Line.await_eq h₅
  refine ⟨line₆, h₆, ?_⟩
  have hint : len.toUInt32.toInt32.toInt = len.toNat := by
    have hlt := len.toNat_lt
    have hnat : len.toUInt32.toBitVec.toNat = len.toNat := UInt16.toNat_toUInt32 len
    have hsigned : len.toUInt32.toBitVec.toInt = len.toUInt32.toBitVec.toNat :=
      BitVec.toInt_eq_toNat_of_lt (by omega)
    rw [← hnat]
    exact hsigned
  simp only [receberDados, RS232_ReadByte, htipo, hlsb, hmsb, len_eq, Option.bind_eq_bind,
    Option.bind_some, UInt16.toNat_toUInt32, hbuffer, hcrc, hcrc']
  simp only [checarChecksum_eq, UInt16.toUInt16_toUInt32, hint]
  simp only [ne_eq, not_true_eq_false, if_false]
  split <;> rfl

end host

namespace device

/-- A byte that comes in time is the one that is read. -/
theorem readByte_eq {line : Line UInt8} {b : UInt8} {rest : List UInt8} (hsymbols : line.symbols = b :: rest)
    (hintime : InTime TIMEOUT line.bursts) :
    ∃ line', readByte line = (b, line') ∧ line'.symbols = rest ∧ InTime TIMEOUT line'.bursts := by
  obtain ⟨line', hread, hrest⟩ := Line.awaitFor_eq hsymbols hintime
  exact ⟨line', by rw [readByte, hread]; rfl, hrest⟩

/-- With nothing for as long as the timeout the variable stays 0. -/
theorem readByte_late (bursts : List (Burst UInt8)) {time : Nat} (htime : TIMEOUT ≤ time) :
    readByte ⟨[], ⟨[], time⟩ :: bursts⟩ = (0, ⟨[], bursts⟩) := by
  have hwait : (⟨[], ⟨[], time⟩ :: bursts⟩ : Line UInt8).awaitFor TIMEOUT = (none, ⟨[], bursts⟩) := by
    rw [Line.awaitFor]
    exact if_neg (Nat.not_lt.mpr htime)
  rw [readByte, hwait]
  rfl

/-- One byte after the other, whenever it comes. -/
theorem readLoop_eq {line : Line UInt8} {bytes rest : List UInt8} (buffer : Nat → UInt8)
    (i : Nat) {count : Nat} (hsymbols : line.symbols = bytes ++ rest)
    (hcount : count = bytes.length) {limit : Nat} (hintime : InTime limit line.bursts) :
    ∃ line', readLoop line buffer i count = some (store buffer i bytes, line') ∧
      line'.symbols = rest ∧ InTime limit line'.bursts := by
  induction hn : count + line.bursts.length using Nat.strongRecOn
    generalizing line buffer i count bytes with
  | ind n ih =>
    rw [readLoop]
    cases bytes with
    | nil =>
      have hzero : count = 0 := hcount
      exact ⟨line, by rw [if_pos hzero, store_nil], hsymbols, hintime⟩
    | cons b bytes =>
      rw [List.length_cons] at hcount
      rw [if_neg (by omega)]
      have hpolled := line.poll_symbols 1
      cases hpoll : (line.poll 1).1 with
      | nil =>
        have hbursts : line.bursts ≠ [] := by
          intro hnone
          have hnil := Line.symbols_of_poll_nil Nat.one_pos hpoll hnone
          rw [hsymbols] at hnil
          cases hnil
        have hpos := List.length_pos_of_ne_nil hbursts
        rw [hpoll, List.nil_append] at hpolled
        dsimp only
        rw [if_neg hbursts]
        refine ih _ ?_ buffer i (hpolled.trans hsymbols) hcount hintime.tail rfl
        rw [← hn, Line.poll_bursts, List.length_tail]
        omega
      | cons c more =>
        have hlength := line.poll_length_le 1
        rw [hpoll, List.length_cons] at hlength
        obtain rfl : more = [] := List.eq_nil_of_length_eq_zero (by omega)
        rw [hpoll, hsymbols, List.singleton_append, List.cons_append] at hpolled
        obtain ⟨rfl, hrest⟩ := List.cons_eq_cons.mp hpolled
        have hlt : count - 1 + (line.poll 1).2.bursts.length < n := by
          rw [← hn, Line.poll_bursts, List.length_tail]
          omega
        have hstore : store buffer i (c :: bytes) =
            store (Function.update buffer i c) (i + 1) bytes := by
          rw [← List.singleton_append, store_append, store_single, List.length_singleton]
        rw [hstore]
        exact ih _ hlt (Function.update buffer i c) (i + 1) hrest (by omega) hintime.tail rfl

/-- A frame that comes whole and in time is accepted with its payload, or rejected; the
length is returned in an `int` of 16 bits. -/
theorem receberDados_eq {line : Line UInt8} {len : UInt16} {payload rest : List UInt8}
    {CRC_LSB CRC_MSB : UInt8} (target : Nat → UInt8) (hpayload : payload.length = len.toNat)
    (hsymbols : line.symbols = [0x00, LOBYTE len, HIBYTE len] ++ payload ++
      [CRC_LSB, CRC_MSB] ++ rest) (hintime : InTime TIMEOUT line.bursts) :
    ∃ line', line'.symbols = rest ∧ receberDados line target =
      some (if checarChecksum (store target 0 payload) len CRC_LSB CRC_MSB then
        .accepted len.toInt16.toInt (store target 0 payload) line' else .rejected) := by
  obtain ⟨line₁, htipo, h₁, hintime₁⟩ := readByte_eq (b := 0x00) hsymbols hintime
  obtain ⟨line₂, hlsb, h₂, hintime₂⟩ := readByte_eq (b := LOBYTE len) h₁ hintime₁
  obtain ⟨line₃, hmsb, h₃, hintime₃⟩ := readByte_eq (b := HIBYTE len) h₂ hintime₂
  have hrest : line₃.symbols = payload ++ CRC_LSB :: CRC_MSB :: rest := by simpa using h₃
  obtain ⟨line₄, hbuffer, h₄, hintime₄⟩ := readLoop_eq target 0 hrest hpayload.symm hintime₃
  obtain ⟨line₅, hcrc, h₅, hintime₅⟩ := readByte_eq h₄ hintime₄
  obtain ⟨line₆, hcrc', h₆, -⟩ := readByte_eq h₅ hintime₅
  refine ⟨line₆, h₆, ?_⟩
  simp only [receberDados, htipo, hlsb, hmsb, bytes_joined, Option.bind_eq_bind, Option.bind_some, hbuffer, hcrc,
    hcrc']
  simp only [ne_eq, not_true_eq_false, if_false]
  split <;> rfl

end device

/-! ## Across the line -/

def Side.other : Side → Side
  | .host => .device
  | .device => .host

/-- Each side's `enviarDados`. -/
def Side.enviarDados : Side → (Nat → UInt8) → UInt16 → List UInt8
  | .host => host.enviarDados
  | .device => device.enviarDados

/-- Each side's `receberDados`. -/
def Side.receberDados : Side → Line UInt8 → (Nat → UInt8) → Option Reception
  | .host => host.receberDados
  | .device => device.receberDados

theorem Side.enviarDados_eq (side : Side) (buffer : Nat → UInt8) (len : UInt16) :
    side.enviarDados buffer len = dadosFrame buffer len := by
  cases side with
  | host => exact host.enviarDados_eq buffer len
  | device => rfl

/-- The length in the `int` of a side. -/
def Side.int (side : Side) (len : UInt16) : Int :=
  match side with
  | .host => len.toNat
  | .device => len.toInt16.toInt

theorem Side.int_eq (side : Side) {len : UInt16} (hlen : len.toNat < 0x8000) :
    side.int len = len.toNat := by
  cases side with
  | host => rfl
  | device =>
    have hsigned : len.toBitVec.toInt = len.toBitVec.toNat :=
      BitVec.toInt_eq_toNat_of_lt (by
        change 2 * len.toNat < 0x10000
        omega)
    exact hsigned

theorem Side.receberDados_eq (side : Side) {line : Line UInt8} {len : UInt16}
    {payload rest : List UInt8} {CRC_LSB CRC_MSB : UInt8} (target : Nat → UInt8)
    (hpayload : payload.length = len.toNat)
    (hsymbols : line.symbols = [0x00, LOBYTE len, HIBYTE len] ++ payload ++
      [CRC_LSB, CRC_MSB] ++ rest) (hintime : side = .device → InTime device.TIMEOUT line.bursts) :
    ∃ line', line'.symbols = rest ∧ side.receberDados line target =
      some (if checarChecksum (store target 0 payload) len CRC_LSB CRC_MSB then
        .accepted (side.int len) (store target 0 payload) line' else .rejected) := by
  cases side with
  | host => exact host.receberDados_eq target hpayload hsymbols
  | device => exact device.receberDados_eq target hpayload hsymbols (hintime rfl)

/-- What one side sends the other accepts: it stores the payload, returns its length
and leaves what comes behind it, however the bytes come, to the device without a pause as long
as its timeout. A frame with another checksum is rejected. -/
theorem Side.receberDados_enviarDados (receiver : Side) (target : Nat → UInt8)
    (line : Line UInt8) (hintime : receiver = .device → InTime device.TIMEOUT line.bursts)
    (rest : List UInt8) (len : UInt16) :
    (∀ source, len.toNat < 0x8000 →
      line.symbols = receiver.other.enviarDados source len ++ rest →
      ∃ line', receiver.receberDados line target =
          some (.accepted len.toNat (store target 0 (load source 0 len.toNat)) line') ∧
        line'.symbols = rest) ∧
      ∀ payload CRC_LSB CRC_MSB, payload.length = len.toNat →
        line.symbols = [0x00, LOBYTE len, HIBYTE len] ++ payload ++ [CRC_LSB, CRC_MSB] ++ rest →
        (CRC_LSB, CRC_MSB) ≠ (LOBYTE (uiCrc16Cal (store target 0 payload) len),
          HIBYTE (uiCrc16Cal (store target 0 payload) len)) →
        receiver.receberDados line target = some .rejected := by
  constructor
  · intro source hlen hline
    rw [Side.enviarDados_eq, dadosFrame] at hline
    obtain ⟨line', hrest, hreceived⟩ := receiver.receberDados_eq target (load_length _ _ _) hline hintime
    refine ⟨line', ?_, hrest⟩
    rw [hreceived, receiver.int_eq hlen, if_pos]
    simp [checarChecksum, uiCrc16Cal_store]
  · intro payload CRC_LSB CRC_MSB hpayload hline hdiffers
    obtain ⟨line', -, hreceived⟩ := receiver.receberDados_eq target hpayload hline hintime
    rw [hreceived, if_neg]
    intro hcheck
    simp only [checarChecksum, Bool.and_eq_true, decide_eq_true_eq] at hcheck
    exact hdiffers (by rw [hcheck.1, hcheck.2])

/-- The three bytes `10 20 30` of the host come to the device in pieces, half a second and more
apart, with the next command behind them. -/
def inPieces (CRC_MSB : UInt8) : Line UInt8 where
  pending := [0x00]
  bursts := [⟨[0x03], 500⟩, ⟨[], 900⟩, ⟨[0x00, 0x10], 400⟩, ⟨[], 999⟩, ⟨[0x20, 0x30, 0x16, CRC_MSB, 0x01], 0⟩]

/-- They are taken, and with a byte of the checksum changed they are rejected. -/
theorem block_in_pieces :
    (∃ line', device.receberDados (inPieces 0xAE) (fun _ => 0xFF) =
        some (.accepted 3 (store (fun _ => 0xFF) 0 [0x10, 0x20, 0x30]) line') ∧ line'.symbols = [0x01]) ∧
      device.receberDados (inPieces 0xAF) (fun _ => 0xFF) = some .rejected := by
  have hintime (CRC_MSB : UInt8) (_ : Side.device = .device) :
      InTime device.TIMEOUT (inPieces CRC_MSB).bursts := by
    simp [inPieces, InTime, silence, device.TIMEOUT]
  constructor
  · exact (Side.receberDados_enviarDados .device (fun _ => 0xFF) _ (hintime 0xAE) [0x01] 3).1
      (fun i => [0x10, 0x20, 0x30].getD i 0) (by decide) (by decide +kernel)
  · exact (Side.receberDados_enviarDados .device (fun _ => 0xFF) _ (hintime 0xAF) [0x01] 3).2
      [0x10, 0x20, 0x30] 0x16 0xAF rfl rfl (by decide +kernel)

end concretid.flasher
