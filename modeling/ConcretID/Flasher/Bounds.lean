import ConcretID.Flasher.Device
import ConcretID.Flasher.Frames

namespace concretid.flasher

open memory line

/-! ## What a receive stores

The receive loops once more, with the places in the buffer they store to. -/

namespace device

def readLoopStores (line : Line UInt8) (buffer : Nat → UInt8) (i count : Nat) :
    List Nat × Option ((Nat → UInt8) × Line UInt8) :=
  if count = 0 then ([], some (buffer, line))
  else
    match (line.poll 1).1 with
    | b :: _ =>
      let rest := readLoopStores (line.poll 1).2 (Function.update buffer i b) (i + 1) (count - 1)
      (i :: rest.1, rest.2)
    | [] =>
      if line.bursts = [] then ([], none) else readLoopStores (line.poll 1).2 buffer i count
termination_by count + line.bursts.length
decreasing_by
  · rw [Line.poll_bursts, List.length_tail]
    omega
  · rw [Line.poll_bursts, List.length_tail]
    have := List.length_pos_of_ne_nil ‹line.bursts ≠ []›
    omega

/-- It is the loop, with its stores beside it. -/
theorem readLoopStores_loop (line : Line UInt8) (buffer : Nat → UInt8) (i count : Nat) :
    (readLoopStores line buffer i count).2 = readLoop line buffer i count := by
  fun_induction readLoopStores line buffer i count with
  | case1 => rw [readLoop, if_pos rfl]
  | case2 line buffer i count hcount b more hpoll rest ih =>
    rw [readLoop, if_neg hcount, hpoll]
    exact ih
  | case3 line buffer i count hcount hpoll hbursts =>
    rw [readLoop, if_neg hcount, hpoll]
    exact (if_pos hbursts).symm
  | case4 line buffer i count hcount hpoll hbursts ih =>
    rw [readLoop, if_neg hcount, hpoll]
    dsimp only
    rw [if_neg hbursts]
    exact ih

/-- The loop stores one byte after the other, as far as bytes come. -/
theorem readLoopStores_eq (line : Line UInt8) (buffer : Nat → UInt8) (i count : Nat) :
    (readLoopStores line buffer i count).1 = List.range' i (min count line.symbols.length) := by
  fun_induction readLoopStores line buffer i count with
  | case1 => rw [Nat.zero_min, List.range'_zero]
  | case2 line buffer i count hcount b more hpoll rest ih =>
    have hpolled := line.poll_symbols 1
    have hlength := line.poll_length_le 1
    rw [hpoll, List.length_cons] at hlength
    obtain rfl : more = [] := List.eq_nil_of_length_eq_zero (by omega)
    rw [hpoll] at hpolled
    have hsymbols : line.symbols.length = (line.poll 1).2.symbols.length + 1 := by
      rw [← hpolled, List.length_append, Nat.add_comm]
      rfl
    have hmin : min count line.symbols.length =
        min (count - 1) (line.poll 1).2.symbols.length + 1 := by omega
    rw [hmin, List.range'_succ, ih]
  | case3 line buffer i count hcount hpoll hbursts =>
    rw [Line.symbols_of_poll_nil Nat.one_pos hpoll hbursts, List.length_nil, Nat.min_zero,
      List.range'_zero]
  | case4 line buffer i count hcount hpoll hbursts ih =>
    have hpolled := line.poll_symbols 1
    rw [hpoll, List.nil_append] at hpolled
    rw [ih, hpolled]

end device

namespace host

def RS232_ReadBufferStores (line : Line UInt8) (buf : Nat → UInt8) (i size : Nat) :
    List Nat × Option ((Nat → UInt8) × Line UInt8) :=
  if size = 0 then ([], some (buf, line))
  else if (line.poll size).1 = [] then
    if line.bursts = [] then ([], none) else RS232_ReadBufferStores (line.poll size).2 buf i size
  else
    let rest := RS232_ReadBufferStores (line.poll size).2 (store buf i (line.poll size).1)
      (i + (line.poll size).1.length) (size - (line.poll size).1.length)
    (List.range' i (line.poll size).1.length ++ rest.1, rest.2)
termination_by size + line.bursts.length
decreasing_by
  · rw [Line.poll_bursts, List.length_tail]
    have := List.length_pos_of_ne_nil ‹line.bursts ≠ []›
    omega
  · rw [Line.poll_bursts, List.length_tail]
    have := List.length_pos_of_ne_nil ‹(line.poll size).1 ≠ []›
    omega

theorem RS232_ReadBufferStores_loop (line : Line UInt8) (buf : Nat → UInt8) (i size : Nat) :
    (RS232_ReadBufferStores line buf i size).2 = RS232_ReadBuffer line buf i size := by
  fun_induction RS232_ReadBufferStores line buf i size with
  | case1 => rw [RS232_ReadBuffer, if_pos rfl]
  | case2 line buf i size hsize hpoll hbursts =>
    rw [RS232_ReadBuffer, if_neg hsize, if_pos hpoll, if_pos hbursts]
  | case3 line buf i size hsize hpoll hbursts ih =>
    rw [RS232_ReadBuffer, if_neg hsize, if_pos hpoll, if_neg hbursts]
    exact ih
  | case4 line buf i size hsize hpoll rest ih =>
    rw [RS232_ReadBuffer, if_neg hsize, if_neg hpoll]
    exact ih

theorem RS232_ReadBufferStores_eq (line : Line UInt8) (buf : Nat → UInt8) (i size : Nat) :
    (RS232_ReadBufferStores line buf i size).1 =
      List.range' i (min size line.symbols.length) := by
  fun_induction RS232_ReadBufferStores line buf i size with
  | case1 => rw [Nat.zero_min, List.range'_zero]
  | case2 line buf i size hsize hpoll hbursts =>
    rw [Line.symbols_of_poll_nil (Nat.pos_of_ne_zero hsize) hpoll hbursts, List.length_nil,
      Nat.min_zero, List.range'_zero]
  | case3 line buf i size hsize hpoll hbursts ih =>
    have hpolled := line.poll_symbols size
    rw [hpoll, List.nil_append] at hpolled
    rw [ih, hpolled]
  | case4 line buf i size hsize hpoll rest ih =>
    have hpolled := congrArg List.length (line.poll_symbols size)
    rw [List.length_append] at hpolled
    have hle := line.poll_length_le size
    have hmin : min size line.symbols.length = (line.poll size).1.length +
        min (size - (line.poll size).1.length) (line.poll size).2.symbols.length := by omega
    rw [ih, List.range'_append_1, hmin]

end host

/-- How a side reads one byte: the host waits until it comes. -/
def Side.readByte : Side → Line UInt8 → Option (UInt8 × Line UInt8)
  | .host, line => host.RS232_ReadByte line
  | .device, line => some (device.readByte line)

/-- The head of a frame, as both sides read it, before the loop takes the payload. -/
def receiveStores (side : Side) (line : Line UInt8)
    (loop : UInt8 → UInt8 → Line UInt8 → List Nat × Option Reception) :
    List Nat × Option Reception :=
  match side.readByte line with
  | none => ([], none)
  | some (tipo, line) =>
    if tipo ≠ 0x00 then ([], some .rejected)
    else
      match side.readByte line with
      | none => ([], none)
      | some (len_LSB, line) =>
        match side.readByte line with
        | none => ([], none)
        | some (len_MSB, line) => loop len_LSB len_MSB line

/-- `receberDados` with the places it stores to before it checks the checksum. -/
def device.receberDadosStores (line : Line UInt8) (buffer : Nat → UInt8) :
    List Nat × Option Reception :=
  receiveStores .device line fun len_LSB len_MSB line =>
    let len : UInt16 := len_MSB.toUInt16 <<< 8 ||| len_LSB.toUInt16
    let received := readLoopStores line buffer 0 len.toNat
    (received.1, do
      let (buffer, line) ← received.2
      let (CRC_LSB, line) := readByte line
      let (CRC_MSB, line) := readByte line
      if checarChecksum buffer len CRC_LSB CRC_MSB then
        return .accepted len.toInt16.toInt buffer line
      else return .rejected)

def host.receberDadosStores (line : Line UInt8) (buffer : Nat → UInt8) :
    List Nat × Option Reception :=
  receiveStores .host line fun len_LSB len_MSB line =>
    let len : UInt32 := len_MSB.toUInt32 <<< 8 ||| len_LSB.toUInt32
    let received := RS232_ReadBufferStores line buffer 0 len.toNat
    (received.1, do
      let (buffer, line) ← received.2
      let (CRC_LSB, line) ← RS232_ReadByte line
      let (CRC_MSB, line) ← RS232_ReadByte line
      if checarChecksum buffer len.toUInt16 CRC_LSB CRC_MSB then
        return .accepted len.toInt32.toInt buffer line
      else return .rejected)

theorem device.receberDadosStores_reception (line : Line UInt8) (buffer : Nat → UInt8) :
    (device.receberDadosStores line buffer).2 = device.receberDados line buffer := by
  unfold device.receberDadosStores receiveStores device.receberDados
  dsimp only [Side.readByte]
  split
  · rfl
  · rw [readLoopStores_loop]

theorem host.receberDadosStores_reception (line : Line UInt8) (buffer : Nat → UInt8) :
    (host.receberDadosStores line buffer).2 = host.receberDados line buffer := by
  unfold host.receberDadosStores receiveStores host.receberDados
  dsimp only [Side.readByte]
  cases RS232_ReadByte line with
  | none => rfl
  | some first =>
    dsimp only [Option.bind_eq_bind, Option.bind_some]
    split
    · rfl
    · cases RS232_ReadByte first.2 with
      | none => rfl
      | some second =>
        dsimp only [Option.bind_some]
        cases RS232_ReadByte second.2 with
        | none => rfl
        | some third =>
          dsimp only [Option.bind_some]
          rw [RS232_ReadBufferStores_loop]

/-! ## What is stored -/

/-- The three bytes a side takes for the head of a frame, and what is on the line behind them.
For the device a byte that does not come in time is 0. -/
def Side.head (side : Side) (line : Line UInt8) : Option ((UInt8 × UInt8 × UInt8) × Line UInt8) := do
  let (tipo, line) ← side.readByte line
  let (len_LSB, line) ← side.readByte line
  let (len_MSB, line) ← side.readByte line
  return ((tipo, len_LSB, len_MSB), line)

/-- The host takes the next three bytes, and the device those that come without a pause as long
as its timeout. -/
theorem Side.head_eq (side : Side) {line : Line UInt8} {tipo len_LSB len_MSB : UInt8} {rest : List UInt8}
    (hsymbols : line.symbols = tipo :: len_LSB :: len_MSB :: rest)
    (hintime : side = .device → InTime device.TIMEOUT line.bursts) :
    ∃ line', side.head line = some ((tipo, len_LSB, len_MSB), line') ∧ line'.symbols = rest := by
  cases side with
  | host =>
    obtain ⟨line₁, htipo, h₁⟩ := Line.await_eq hsymbols
    obtain ⟨line₂, hlsb, h₂⟩ := Line.await_eq h₁
    obtain ⟨line₃, hmsb, h₃⟩ := Line.await_eq h₂
    exact ⟨line₃, by simp [head, readByte, host.RS232_ReadByte, htipo, hlsb, hmsb], h₃⟩
  | device =>
    obtain ⟨line₁, htipo, h₁, hintime₁⟩ := device.readByte_eq hsymbols (hintime rfl)
    obtain ⟨line₂, hlsb, h₂, hintime₂⟩ := device.readByte_eq h₁ hintime₁
    obtain ⟨line₃, hmsb, h₃, -⟩ := device.readByte_eq h₂ hintime₂
    exact ⟨line₃, by simp [head, readByte, htipo, hlsb, hmsb], h₃⟩

/-- When the first byte does not come in time, the device takes 0 for it and the next two bytes
for a length. -/
theorem device.head_late {time : Nat} (htime : TIMEOUT ≤ time) {bursts : List (Burst UInt8)}
    {len_LSB len_MSB : UInt8} {rest : List UInt8}
    (hsymbols : (⟨[], bursts⟩ : Line UInt8).symbols = len_LSB :: len_MSB :: rest) (hintime : InTime TIMEOUT bursts) :
    ∃ line', Side.device.head ⟨[], ⟨[], time⟩ :: bursts⟩ = some ((0x00, len_LSB, len_MSB), line') ∧
      line'.symbols = rest := by
  have hlate := readByte_late bursts htime
  obtain ⟨line₂, hlsb, h₂, hintime₂⟩ := readByte_eq hsymbols hintime
  obtain ⟨line₃, hmsb, h₃, -⟩ := readByte_eq h₂ hintime₂
  exact ⟨line₃, by simp [Side.head, Side.readByte, hlate, hlsb, hmsb], h₃⟩

/-- With a head of data the loop takes what follows. -/
theorem receiveStores_frame {side : Side} {line line' : Line UInt8} {len_LSB len_MSB : UInt8}
    (loop : UInt8 → UInt8 → Line UInt8 → List Nat × Option Reception)
    (hhead : side.head line = some ((0x00, len_LSB, len_MSB), line')) :
    receiveStores side line loop = loop len_LSB len_MSB line' := by
  simp only [Side.head, Option.bind_eq_bind, Option.bind_eq_some_iff] at hhead
  obtain ⟨first, hfirst, second, hsecond, third, hthird, hsome⟩ := hhead
  obtain ⟨⟨htipo, hlsb, hmsb⟩, rfl⟩ := by simpa [Prod.ext_iff] using hsome
  rw [receiveStores, hfirst]
  simp only [htipo, hsecond, hthird, hlsb, hmsb]
  rfl

/-- Without one nothing is stored. -/
theorem receiveStores_short {side : Side} {line : Line UInt8}
    (loop : UInt8 → UInt8 → Line UInt8 → List Nat × Option Reception)
    (hnone : ∀ len_LSB len_MSB line', side.head line ≠ some ((0x00, len_LSB, len_MSB), line')) :
    (receiveStores side line loop).1 = [] := by
  unfold receiveStores
  cases hfirst : side.readByte line with
  | none => rfl
  | some first =>
    dsimp only
    split
    · rfl
    · rename_i hdata
      rw [not_not] at hdata
      cases hsecond : side.readByte first.2 with
      | none => rfl
      | some second =>
        dsimp only
        cases hthird : side.readByte second.2 with
        | none => rfl
        | some third =>
          refine absurd ?_ (hnone second.1 third.1 third.2)
          simp [Side.head, hfirst, hsecond, hthird, hdata]

/-- Each side's receive, with its stores. -/
def Side.receberDadosStores : Side → Line UInt8 → (Nat → UInt8) → List Nat × Option Reception
  | .host => host.receberDadosStores
  | .device => device.receberDadosStores

theorem Side.receberDadosStores_reception (side : Side) (line : Line UInt8) (buffer : Nat → UInt8) :
    (side.receberDadosStores line buffer).2 = side.receberDados line buffer := by
  cases side with
  | host => exact host.receberDadosStores_reception line buffer
  | device => exact device.receberDadosStores_reception line buffer

/-- The length in the head says how many of the bytes that come are stored. -/
theorem Side.stores_frame (side : Side) {line line' : Line UInt8} (buffer : Nat → UInt8) {len : UInt16}
    (hhead : side.head line = some ((0x00, LOBYTE len, HIBYTE len), line')) :
    (side.receberDadosStores line buffer).1 = List.range' 0 (min len.toNat line'.symbols.length) := by
  cases side with
  | host =>
    apply (congrArg Prod.fst (receiveStores_frame _ hhead)).trans
    dsimp only
    rw [host.RS232_ReadBufferStores_eq, host.len_eq, UInt16.toNat_toUInt32]
  | device =>
    apply (congrArg Prod.fst (receiveStores_frame _ hhead)).trans
    dsimp only
    rw [device.readLoopStores_eq, bytes_joined]

theorem Side.stores_short (side : Side) {line : Line UInt8} (buffer : Nat → UInt8)
    (hnone : ∀ len_LSB len_MSB line', side.head line ≠ some ((0x00, len_LSB, len_MSB), line')) :
    (side.receberDadosStores line buffer).1 = [] := by
  cases side with
  | host => exact receiveStores_short _ hnone
  | device => exact receiveStores_short _ hnone

/-- Two bytes are those of a length. -/
theorem exists_len (len_LSB len_MSB : UInt8) :
    ∃ len : UInt16, len_LSB = LOBYTE len ∧ len_MSB = HIBYTE len := by
  have hlsb := len_LSB.toNat_lt
  have hmsb := len_MSB.toNat_lt
  have hlen : (UInt16.ofNat (len_MSB.toNat * 256 + len_LSB.toNat)).toNat =
      len_MSB.toNat * 256 + len_LSB.toNat := by
    rw [UInt16.toNat_ofNat']
    omega
  refine ⟨UInt16.ofNat (len_MSB.toNat * 256 + len_LSB.toNat), ?_, ?_⟩
  · rw [← UInt8.toNat_inj, LOBYTE, UInt16.toNat_toUInt8, hlen]
    omega
  · rw [← UInt8.toNat_inj, HIBYTE_toNat, hlen]
    omega

/-- A receive stays within the buffer exactly when the head it finds does not say that a frame
is longer, or not so many bytes come behind it. -/
theorem Side.stores_bounded_iff (side : Side) (line : Line UInt8) (buffer : Nat → UInt8) :
    (∀ i ∈ (side.receberDadosStores line buffer).1, i < BUFFER_SIZE) ↔
      ∀ (len : UInt16) (rest : Line UInt8), side.head line = some ((0x00, LOBYTE len, HIBYTE len), rest) →
        len.toNat ≤ BUFFER_SIZE ∨ rest.symbols.length ≤ BUFFER_SIZE := by
  constructor
  · intro hbounded len rest hhead
    rw [side.stores_frame buffer hhead] at hbounded
    by_contra hlong
    have hstored := hbounded BUFFER_SIZE (by rw [List.mem_range'_1]; omega)
    omega
  · intro hshort i hi
    by_cases hhead : ∃ len_LSB len_MSB rest, side.head line = some ((0x00, len_LSB, len_MSB), rest)
    · obtain ⟨len_LSB, len_MSB, rest, hhead⟩ := hhead
      obtain ⟨len, rfl, rfl⟩ := exists_len len_LSB len_MSB
      have hfits := hshort len rest hhead
      rw [side.stores_frame buffer hhead, List.mem_range'_1] at hi
      omega
    · push Not at hhead
      rw [side.stores_short buffer hhead] at hi
      cases hi

/-- A frame that says it has 1537 bytes. -/
def longFrame : Line UInt8 := ⟨[0x00, 0x01, 0x06] ++ List.replicate 1537 0x00, []⟩

/-- Both sides store its last byte behind their buffer. -/
theorem longFrame_stored_outside (side : Side) :
    1536 ∈ (side.receberDadosStores longFrame fun _ => 0).1 := by
  have hsymbols : longFrame.symbols = 0x00 :: LOBYTE 1537 :: HIBYTE 1537 :: List.replicate 1537 0x00 :=
    List.append_nil _
  obtain ⟨rest, hhead, hrest⟩ := side.head_eq hsymbols fun _ => trivial
  rw [side.stores_frame _ hhead, hrest, List.length_replicate, List.mem_range'_1]
  decide

/-- The same length, with the byte in front of it not in time for the device. -/
def lateFrame : Line UInt8 := ⟨[], [⟨[], 1000⟩, ⟨[0x01, 0x06] ++ List.replicate 1537 0x00, 0⟩]⟩

theorem lateFrame_stored_outside : 1536 ∈ (Side.device.receberDadosStores lateFrame fun _ => 0).1 := by
  let bursts : List (Burst UInt8) := [⟨[0x01, 0x06] ++ List.replicate 1537 0x00, 0⟩]
  have hsymbols : (⟨[], bursts⟩ : Line UInt8).symbols = LOBYTE 1537 :: HIBYTE 1537 :: List.replicate 1537 0x00 :=
    List.append_nil _
  obtain ⟨rest, hhead, hrest⟩ := device.head_late (Nat.le_refl _) hsymbols ⟨rfl, trivial⟩
  have hstores : (Side.device.receberDadosStores lateFrame fun _ => 0).1 = _ := Side.device.stores_frame _ hhead
  rw [hstores, hrest, List.length_replicate, List.mem_range'_1]
  decide

/-- Neither side's stores are bounded; on the device not even in a stream that begins with
the length. -/
theorem not_stores_bounded :
    (∀ side : Side, ¬ ∀ (line : Line UInt8) (buffer : Nat → UInt8),
      ∀ i ∈ (side.receberDadosStores line buffer).1, i < BUFFER_SIZE) ∧
    1536 ∈ (Side.device.receberDadosStores lateFrame fun _ => 0).1 := by
  refine ⟨fun side hall => ?_, lateFrame_stored_outside⟩
  exact absurd (hall longFrame _ _ (longFrame_stored_outside side)) (Nat.lt_irrefl _)

end concretid.flasher
