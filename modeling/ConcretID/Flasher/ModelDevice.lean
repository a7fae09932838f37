import ConcretID.Flasher.PinUpload

namespace concretid.flasher.debug

open calls duplex memory shift

/-- The memory and the flash of a simple device, and its debug configuration. -/
structure Cells where
  memory : Nat → UInt8
  flash : Nat → UInt8
  debugConfig : UInt8

/-- It shows a bank of its flash, and is never busy: a block is programmed when FCTL is written, with the descriptors and the
address that its memory holds then. -/
def cellsBus : Bus Cells where
  load a m :=
    (if a = DUP_CHIPID then 0xA5
    else if a = DUP_CLKCONSTA then 0x80
    else if a = DUP_FCTL then 0
    else if 0x8000 ≤ a.toNat then
      m.flash ((m.memory DUP_MEMCTR.toNat).toNat * 0x8000 + (a.toNat - 0x8000))
    else m.memory a.toNat, m)
  store a v m :=
    if a = DUP_FCTL then
      { m with
        flash := store m.flash (flashStart m.memory)
          (load m.memory (channel1 m.memory).src (channel1 m.memory).len) }
    else if a = DUP_DMAARM then m
    else { m with memory := store m.memory a.toNat [v] }
  status m := (0, m)
  erase m := (0, { m with flash := fun _ => 0xFF })
  config v m := (0, { m with debugConfig := v })
  burst src m := (0, { m with memory := store m.memory (channel0 m.memory).dest src })
  id := 0xA5
  revision := 0

def cellsInside : Inside Cells := ⟨Cells.memory, Cells.flash, Cells.debugConfig⟩

theorem notBusy : decide ((0 : UInt8) &&& 0x80 ≠ 0) = false := by decide

theorem cells_controls : Controls cellsBus cellsInside 1 where
  holds a v m ha := by
    have hplain : a ≠ DUP_FCTL ∧ a ≠ DUP_DMAARM := by
      obtain hram | rfl | rfl | rfl | rfl | rfl | rfl := ha
      · constructor <;> rintro rfl <;> exact absurd hram (by decide)
      all_goals decide
    simp only [cellsBus, if_neg hplain.1, if_neg hplain.2]
    rfl
  store_flash a v m ha := by
    simp only [cellsBus, if_neg ha]
    split <;> rfl
  store_config a v m := by
    simp only [cellsBus]
    split
    · rfl
    · split <;> rfl
  arm v m := rfl
  burst src dest m _ _ hchannel _ := by
    have harmed : cellsBus.store DUP_DMAARM CH_DBG_TO_BUF0 m = m := rfl
    rw [harmed]
    show store m.memory (channel0 m.memory).dest src = store m.memory dest src
    rw [show channel0 m.memory = _ from hchannel]
  burst_flash _ _ := rfl
  burst_config _ _ := rfl
  program src n m _ hchannel _ _ _ _ _ := by
    have hdone : repeatWhile (fun fctl => fctl &&& 0x80 ≠ 0) (cellsBus.load DUP_FCTL) 1
        (cellsBus.store DUP_FCTL 0x06 (cellsBus.store DUP_DMAARM CH_BUF0_TO_FLASH m)) =
          (some 0, cellsBus.store DUP_FCTL 0x06 m) := repeatWhile_done notBusy 0
    rw [hdone]
    show store m.flash (flashStart m.memory)
      (load m.memory (channel1 m.memory).src (channel1 m.memory).len) = _
    rw [show channel1 m.memory = _ from hchannel]
    rfl
  load_config _ _ := rfl
  erase m a := by rw [Bus.pollErase, repeatWhile_done notBusy 0]; rfl
  config _ _ := rfl
  config_flash _ _ := rfl

theorem cells_showBanks : ShowsBanks cellsBus cellsInside := by
  intro bank offset m hbank hoffset
  have hselected : (UInt8.ofNat bank).toNat = bank := by
    rw [UInt8.toNat_ofNat']
    exact Nat.mod_eq_of_lt (by omega)
  have haddr : (UInt16.ofNat (0x8000 + offset)).toNat = 0x8000 + offset := by
    rw [UInt16.toNat_ofNat']
    exact Nat.mod_eq_of_lt (by omega)
  have hother : ∀ a : UInt16, a.toNat < 0x8000 → UInt16.ofNat (0x8000 + offset) ≠ a := by
    rintro a ha rfl
    omega
  have hshown : (cellsBus.store DUP_MEMCTR (UInt8.ofNat bank) m).memory DUP_MEMCTR.toNat =
      UInt8.ofNat bank := rfl
  simp only [cellsBus, hother DUP_CHIPID (by decide), hother DUP_CLKCONSTA (by decide),
    hother DUP_FCTL (by decide), haddr, if_false, if_pos (Nat.le_add_right _ _)] at hshown ⊢
  rw [hshown, hselected, Nat.add_sub_cancel_left]
  rfl

theorem cells_settle : Settles cellsBus 1 where
  erase m := by rw [Bus.pollErase, repeatWhile_done notBusy 0]; rfl
  program src addr m := by rw [Bus.pollBlock, repeatWhile_done notBusy 0]; rfl

/-- The lines of a device: the bits of a byte on its way in, the bytes of a request so far, the
bits of an answer still to be given, and the level on DD. -/
structure Lines (μ : Type) where
  incoming : List Bool
  request : List UInt8
  answer : List Bool
  shown : Bool
  cpu : Cpu μ

/-- The command that a request of these bytes is, once it is complete. -/
def Command.ofRequest : List UInt8 → Option Command
  | [] => none
  | cmd :: args =>
    if cmd = CMD_READ_STATUS then some .readStatus
    else if cmd = CMD_CHIP_ERASE then some .chipErase
    else if cmd = CMD_GET_CHIP_ID then some .getChipId
    else if cmd = CMD_WR_CONFIG then
      match args with
      | [value] => some (.wrConfig value)
      | _ => none
    else if cmd = CMD_DEBUG_INSTR_1B then
      match args with
      | [code] =>
        if code = 0xF0 then some (.instr .movx_dptr_a)
        else if code = 0xE0 then some (.instr .movx_a_dptr)
        else some (.instr .inc_dptr)
      | _ => none
    else if cmd = CMD_DEBUG_INSTR_2B then
      match args with
      | [_, value] => some (.instr (.mov_a value))
      | _ => none
    else if cmd = CMD_DEBUG_INSTR_3B then
      match args with
      | [_, hi, lo] => some (.instr (.mov_dptr (hi.toUInt16 <<< 8 ||| lo.toUInt16)))
      | _ => none
    else
      match args with
      | [] => none
      | lo :: src => if word (cmd &&& 0x07) lo = src.length then some (.burst src) else none

theorem HIBYTE_cases {n : Nat} (hn : n < 2048) :
    HIBYTE n = 0 ∨ HIBYTE n = 1 ∨ HIBYTE n = 2 ∨ HIBYTE n = 3 ∨ HIBYTE n = 4 ∨ HIBYTE n = 5 ∨
      HIBYTE n = 6 ∨ HIBYTE n = 7 := by
  have hvalue := HIBYTE_value (w := n) (by omega)
  simp only [← UInt8.toNat_inj, hvalue, UInt8.reduceToNat]
  omega

/-- The first byte of a burst is none of the other commands, and its lower bits are the upper
ones of the length. -/
theorem burst_first {n : Nat} (hn : n < 2048) :
    (CMD_BURST_WRITE ||| HIBYTE n) &&& 0x07 = HIBYTE n ∧
      CMD_BURST_WRITE ||| HIBYTE n ≠ CMD_READ_STATUS ∧
      CMD_BURST_WRITE ||| HIBYTE n ≠ CMD_CHIP_ERASE ∧
      CMD_BURST_WRITE ||| HIBYTE n ≠ CMD_GET_CHIP_ID ∧
      CMD_BURST_WRITE ||| HIBYTE n ≠ CMD_WR_CONFIG ∧
      CMD_BURST_WRITE ||| HIBYTE n ≠ CMD_DEBUG_INSTR_1B ∧
      CMD_BURST_WRITE ||| HIBYTE n ≠ CMD_DEBUG_INSTR_2B ∧
      CMD_BURST_WRITE ||| HIBYTE n ≠ CMD_DEBUG_INSTR_3B := by
  obtain h | h | h | h | h | h | h | h := HIBYTE_cases hn <;> rw [h] <;> decide

theorem ofRequest_burst {n : Nat} (hn : n < 2048) (src : List UInt8) :
    Command.ofRequest ((CMD_BURST_WRITE ||| HIBYTE n) :: LOBYTE n :: src) =
      if n = src.length then some (.burst src) else none := by
  obtain ⟨hlow, hother⟩ := burst_first hn
  simp only [Command.ofRequest, hother, if_false, hlow, word_bytes (show n < 0x10000 by omega)]

/-- The bytes of a command are that command. -/
theorem ofRequest_request {command : Command} (hfits : command.Fits) :
    Command.ofRequest command.request = some command := by
  cases command with
  | instr i =>
    cases i with
    | mov_dptr address =>
      have hjoined : (address >>> 8).toUInt8.toUInt16 <<< 8 ||| address.toUInt8.toUInt16 = address :=
        bytes_joined address
      have hcode : Command.ofRequest [CMD_DEBUG_INSTR_3B, 0x90, (address >>> 8).toUInt8,
          address.toUInt8] = some (.instr (.mov_dptr ((address >>> 8).toUInt8.toUInt16 <<< 8 |||
            address.toUInt8.toUInt16))) := rfl
      rw [hjoined] at hcode
      exact hcode
    | mov_a value =>
      exact show Command.ofRequest [CMD_DEBUG_INSTR_2B, 0x74, value] = _ from rfl
    | movx_dptr_a => rfl
    | movx_a_dptr => rfl
    | inc_dptr => rfl
  | readStatus => rfl
  | chipErase => rfl
  | wrConfig value => rfl
  | burst src => exact (ofRequest_burst hfits src).trans (if_pos rfl)
  | getChipId => rfl

/-- Fewer bytes of it are none. -/
theorem ofRequest_take {command : Command} (hfits : command.Fits) {n : Nat}
    (hn : n < command.request.length) : Command.ofRequest (command.request.take n) = none := by
  cases n with
  | zero => rfl
  | succ n =>
    cases command with
    | instr i =>
      cases i with
      | mov_dptr address =>
        rw [show (Command.instr (.mov_dptr address)).request = CMD_DEBUG_INSTR_3B :: _ from rfl]
        match n, hn with
        | 0, _ | 1, _ | 2, _ => rfl
      | mov_a value =>
        rw [show (Command.instr (.mov_a value)).request = CMD_DEBUG_INSTR_2B :: _ from rfl]
        match n, hn with
        | 0, _ | 1, _ => rfl
      | movx_dptr_a | movx_a_dptr | inc_dptr =>
        match n, hn with
        | 0, _ => rfl
    | wrConfig value =>
      match n, hn with
      | 0, _ => rfl
    | burst src =>
      cases n with
      | zero =>
        obtain ⟨-, hother⟩ := burst_first hfits
        simp [Command.request, burstRequest, Command.ofRequest, hother]
      | succ n =>
        have hshort : src.length ≠ (src.take n).length := by
          simp only [Command.request, burstRequest, List.length_cons] at hn
          rw [List.length_take]
          omega
        exact (ofRequest_burst hfits (src.take n)).trans (if_neg hshort)
    | readStatus | chipErase | getChipId =>
      exact absurd (Nat.lt_of_succ_lt_succ hn) (Nat.not_lt_zero n)

section lines

variable {μ : Type} (bus : Bus μ)

/-- A byte that has come in whole. -/
def Lines.receive (s : Lines μ) (data : UInt8) : Lines μ :=
  match Command.ofRequest (s.request ++ [data]) with
  | none => { s with incoming := [], request := s.request ++ [data] }
  | some command =>
    { s with
      incoming := []
      request := []
      answer := (command.respond bus s.cpu).1.flatMap bits
      cpu := (command.respond bus s.cpu).2 }

/-- A device that takes a bit when the clock falls and shows one when it rises. It never has
the programmer wait. -/
def linesDup : Dup (Lines μ) where
  rise s :=
    match s.answer with
    | [] => s
    | level :: rest => { s with answer := rest, shown := level }
  fall
    | none, s => { s with shown := false }
    | some level, s =>
      if s.incoming.length = 7 then s.receive bus ⟨shiftIn 0 (s.incoming ++ [level])⟩
      else { s with incoming := s.incoming ++ [level] }
  reset _ s := ⟨[], [], [], false, s.cpu⟩
  dd s := s.shown

/-- Nothing is under way on the lines. -/
def quiet (s : Lines μ) (c : Cpu μ) : Prop := s = ⟨[], [], [], false, c⟩

/-- Fewer than eight bits are kept as they come. -/
theorem lines_takeBits (incoming levels : List Bool) (request : List UInt8) (c : Cpu μ)
    (h : incoming.length + levels.length < 8) :
    levels.foldl (linesDup bus).takeBit ⟨incoming, request, [], false, c⟩ =
      ⟨incoming ++ levels, request, [], false, c⟩ := by
  induction levels generalizing incoming with
  | nil => rw [List.append_nil]; rfl
  | cons level levels ih =>
    rw [List.length_cons] at h
    have hbit : (linesDup bus).takeBit ⟨incoming, request, [], false, c⟩ level =
        ⟨incoming ++ [level], request, [], false, c⟩ := if_neg (show incoming.length ≠ 7 by omega)
    rw [List.foldl_cons, hbit, ih _ (by rw [List.length_append, List.length_singleton]; omega),
      List.append_assoc]
    rfl

theorem lines_take (request : List UInt8) (c : Cpu μ) (data : UInt8) :
    (linesDup bus).take ⟨[], request, [], false, c⟩ data =
      Lines.receive bus ⟨[], request, [], false, c⟩ data := by
  have hdata : (⟨shiftIn 0 (bits data)⟩ : UInt8) = data :=
    UInt8.toBitVec_inj.mp (shiftIn_shiftOut data.toBitVec 0)
  have hlength : (bits data).length = 8 := shiftOut_length 8 data.toBitVec
  obtain hnil | ⟨first, last, hbits⟩ := List.eq_nil_or_concat (bits data)
  · rw [hnil] at hlength
    exact absurd hlength (by decide)
  · rw [List.concat_eq_append] at hbits
    rw [hbits, List.length_append, List.length_singleton] at hlength
    rw [hbits] at hdata
    rw [Dup.take, hbits, List.foldl_append, lines_takeBits bus [] first request c (by simp; omega),
      List.nil_append, List.foldl_cons, List.foldl_nil]
    refine (if_pos (show first.length = 7 by omega)).trans ?_
    show Lines.receive bus ⟨first, request, [], false, c⟩ ⟨shiftIn 0 (first ++ [last])⟩ = _
    rw [hdata]
    rfl

theorem lines_give (data : UInt8) (rest : List Bool) (c : Cpu μ) :
    (linesDup bus).give ⟨[], [], bits data ++ rest, false, c⟩ =
      (data, ⟨[], [], rest, false, c⟩) := by
  have hdata : (⟨shiftIn 0 (bits data)⟩ : UInt8) = data :=
    UInt8.toBitVec_inj.mp (shiftIn_shiftOut data.toBitVec 0)
  have hbits : (linesDup bus).give ⟨[], [], bits data ++ rest, false, c⟩ =
      (⟨shiftIn 0 (bits data)⟩, ⟨[], [], rest, false, c⟩) := rfl
  rw [hbits, hdata]

theorem lines_taken {command : Command} (hfits : command.Fits) (c : Cpu μ) {n : Nat}
    (hn : n < command.request.length) :
    (command.request.take n).foldl (linesDup bus).take ⟨[], [], [], false, c⟩ =
      ⟨[], command.request.take n, [], false, c⟩ := by
  induction n with
  | zero => rfl
  | succ n ih =>
    have hnone := ofRequest_take hfits hn
    rw [← List.take_concat_get' _ n (Nat.lt_of_succ_lt hn)] at hnone ⊢
    rw [List.foldl_append, ih (Nat.lt_of_succ_lt hn), List.foldl_cons, List.foldl_nil, lines_take,
      Lines.receive, hnone]

theorem lines_asked {command : Command} (hfits : command.Fits) (c : Cpu μ) :
    command.request.foldl (linesDup bus).take ⟨[], [], [], false, c⟩ =
      ⟨[], [], (command.respond bus c).1.flatMap bits, false, (command.respond bus c).2⟩ := by
  have hsome := ofRequest_request hfits
  obtain ⟨n, hn⟩ : ∃ n, command.request.length = n + 1 := by
    cases command <;> exact ⟨_, rfl⟩
  have hlast : command.request = command.request.take n ++ [command.request[n]] := by
    rw [List.take_concat_get' _ n (by omega), List.take_of_length_le (Nat.le_of_eq hn)]
  rw [hlast] at hsome
  rw [hlast, List.foldl_append, lines_taken bus hfits c (by omega), List.foldl_cons, List.foldl_nil,
    lines_take, Lines.receive, hsome]

theorem lines_gives (answer : List UInt8) (c : Cpu μ) :
    (linesDup bus).Gives answer ⟨[], [], answer.flatMap bits, false, c⟩ fun s => quiet s c := by
  induction answer with
  | nil => rfl
  | cons a rest ih =>
    rw [List.flatMap_cons, Dup.Gives, lines_give]
    exact ⟨rfl, ih⟩

theorem lines_debugs : (linesDup bus).Debugs bus quiet where
  answers command s c hs hfits := by
    rw [show s = _ from hs, lines_asked bus hfits]
    exact ⟨0, Nat.zero_le 16, rfl, lines_gives bus _ _⟩
  starts s := ⟨s.cpu, rfl⟩

end lines

theorem lines_isCC2530 : IsCC2530 (linesDup cellsBus) cellsBus quiet cellsInside 1 where
  debugs := lines_debugs cellsBus
  controls := cells_controls
  plain a m h := by
    simp only [cellsBus]
  settles := cells_settle
  oscillates m := rfl
  id := rfl
  chipid m := rfl

/-- Five bytes on this device, from its flash full of zeros. -/
theorem upload_over_pins_five :
    ∃ (written : Nat → UInt8) (d : Device (Board (Lines Cells))) (m : Cells)
      (sending serving : List Event),
      Relation.ReflTransGen (Step (loop (linesDup cellsBus) 1))
        (resting (loop (linesDup cellsBus) 1) (main [1, 2, 3, 4, 5] 115 (fun _ => 0) fun _ => 0)
          ⟨fun _ => 0, 0, 0, 0, ((setup 1).run (linesDup cellsBus).answer
            (Board.off ⟨[], [], [], false, 0, 0, ⟨fun _ => 0, fun _ => 0, 0⟩⟩)).2⟩ [] [])
        (resting (loop (linesDup cellsBus) 1)
          (question [1, 2, 3, 4, 5] 115 written fun _ => 0) d sending serving) ∧
      OnBus quiet d.chip m ∧ m.flash 4 = 5 ∧ m.flash 8 = 0xFF := by
  obtain ⟨b, hsetup, _, -, -, -, -, -, -, written, d, m, sending, serving, hrun, -, hon, hflash⟩ :=
    upload_over_pins lines_isCC2530 ⟨[], [], [], false, 0, 0, ⟨fun _ => 0, fun _ => 0, 0⟩⟩
      [1, 2, 3, 4, 5] (by decide) 115 (fun _ => 0) (fun _ => 0) fun _ => 0
  rw [hsetup]
  exact ⟨written, d, m, sending, serving, hrun, hon, congrFun hflash 4, congrFun hflash 8⟩

theorem transcript_over_pins_five :
    ∃ (info : List UInt8) (z : Session UInt8 Event Unit (Device (Board (Lines Cells)))),
      Leads (Step (loop (linesDup cellsBus) 1))
        (resting (loop (linesDup cellsBus) 1)
          (main [1, 2, 3, 4, 5] 's'.toUInt8 (fun _ => 0) fun _ => 0)
          ⟨fun _ => 0, 0, 0, 0, ((setup 1).run (linesDup cellsBus).answer
            (Board.off ⟨[], [], [], false, 0, 0, ⟨fun _ => 0, fun _ => 0, 0⟩⟩)).2⟩ [] []) z ∧
      shown z.clientLog = preparing info ++
        [.progress 0 5, .printf "100%%" [], .printf "\n%d bytes escritos.\n" [8],
          .printf "Deseja fazer a verificacao dos dados escritos? (s/n) " [], .progress 0 5,
          .printf "100%%" [], .printf "\n%d bytes verificados.\n" [8]] := by
  obtain ⟨b, m, hsetup, -, z, hleads, -, hshown⟩ :=
    transcript_over_pins lines_isCC2530 cells_showBanks
      ⟨[], [], [], false, 0, 0, ⟨fun _ => 0, fun _ => 0, 0⟩⟩ [1, 2, 3, 4, 5] (by decide)
      's'.toUInt8 (fun _ => 0) (fun _ => 0) fun _ => 0
  have hblocks : blocks BUFFER_SIZE 0 (padded [1, 2, 3, 4, 5]) = [(0, [1, 2, 3, 4, 5, 0, 0, 0])] := by
    rw [blocks_padded (List.cons_ne_nil _ _)]
    exact congrArg _ (blocks_nil _ _)
  rw [hsetup]
  refine ⟨flasher.chipInfo (busChip cellsBus cellsInside 1) m, z, hleads, hshown.trans ?_⟩
  rw [transcript, progressing, hblocks, if_pos (.inl rfl), List.append_assoc]
  rfl

end concretid.flasher.debug
