import ConcretID.Flasher.Verification

namespace concretid.flasher

open duplex memory

theorem shown_infoText (buffer : Nat → UInt8) : shown (infoText buffer) = infoText buffer := by
  unfold infoText flashSizeText
  split <;> rfl

/-- GET_INFO and the answer to it, which starts with the chip's identity. -/
theorem getInfo_communicates {κ : Type} (chip : Chip κ) (buffer : Nat → UInt8) (d : Device κ) :
    ∃ (buffer' : Nat → UInt8) (d' : Device κ),
      Communicates chip (getInfo buffer) d (.pure buffer') d' [] [] ∧
      buffer' 0 = chip.xdata d.chip DUP_CHIPID ∧ d'.chip = d.chip := by
  have hsend : Executes (getInfo buffer) []
      (receberDados .host buffer >>= fun received => .pure received.2) []
      (comandoFrame CMD_SERIAL_GET_INFO) [.sent (comandoFrame CMD_SERIAL_GET_INFO)] :=
    (enviarComando_executes CMD_SERIAL_GET_INFO []).before _
  have hreceive := receberDados_executes .host buffer
    (store d.buffer 0 (chipInfo chip d.chip)) 4 []
  rw [List.append_nil] at hreceive
  refine ⟨_, _, exchange (answers_get_info chip d) hsend
    (hreceive.before fun received => .pure received.2) ⟨rfl, rfl⟩, ?_, rfl⟩
  exact (store_load buffer (store d.buffer 0 (chipInfo chip d.chip)) 4 0).trans
    (if_pos (by decide))

theorem eraseChip_communicates {κ : Type} (chip : Chip κ) (d : Device κ) :
    Communicates chip eraseChip d (.pure ()) { d with chip := chip.chip_erase d.chip } []
      [.printf "Chip Apagado Completamente!\n" []] := by
  have hsend : Executes eraseChip [] _ [] (comandoFrame CMD_SERIAL_ERASE_CHIP)
      [.sent (comandoFrame CMD_SERIAL_ERASE_CHIP)] :=
    (enviarComando_executes CMD_SERIAL_ERASE_CHIP []).before _
  have hreceive : Executes
      (do
        let comando ← receberComando .host
        if comando ≠ CMD_SERIAL_ACK then
          record (.printf "Erro de comunicacao! Ack nao recebido CMD_SERIAL_ERASE_CHIP\n" [])
        else
          record (.printf "Chip Apagado Completamente!\n" []))
      (comandoFrame CMD_SERIAL_ACK) (.pure ()) [] []
      [.received (comandoFrame CMD_SERIAL_ACK), .printf "Chip Apagado Completamente!\n" []] := by
    apply (receberComando_executes .host CMD_SERIAL_ACK []).bind
    rw [if_neg (by decide)]
    exact record_executes _ []
  exact exchange (answers_erase_chip chip d) hsend hreceive ⟨rfl, rfl⟩

theorem enableDma_communicates {κ : Type} (chip : Chip κ) (d : Device κ) :
    Communicates chip enableDma d (.pure ()) { d with chip := chip.write_config 0x22 d.chip }
      [] [] := by
  have hsend : Executes enableDma [] _ [] (comandoFrame CMD_SERIAL_ENABLE_DMA)
      [.sent (comandoFrame CMD_SERIAL_ENABLE_DMA)] :=
    (enviarComando_executes CMD_SERIAL_ENABLE_DMA []).before _
  exact exchange (answers_enable_dma chip d) hsend (receberAck_executes _ []) ⟨rfl, rfl⟩

/-- A chip without an identity ends the session at once. -/
theorem prepare_stops {κ : Type} {chip : Chip κ} {d : Device κ} (buffer : Nat → UInt8)
    (hid : chip.xdata d.chip DUP_CHIPID = 0) :
    ∃ d' : Device κ, Communicates chip (prepare buffer) d .exit d' []
      [.printf "Nenhum Chip Detectado!\n" []] := by
  obtain ⟨buffer', d', hinfo, hzero, -⟩ := getInfo_communicates chip buffer d
  rw [hid] at hzero
  refine ⟨d', hinfo.bind ?_⟩
  rw [if_pos hzero]
  exact .show ((record_executes _ []).before _) rfl chip d'

/-- With any other chip the session goes on to the write phase. -/
theorem prepare_communicates {κ : Type} {chip : Chip κ} {d : Device κ} (buffer : Nat → UInt8)
    (hid : chip.xdata d.chip DUP_CHIPID ≠ 0) :
    ∃ (buffer' : Nat → UInt8) (d' : Device κ) (prints : List Event),
      Communicates chip (prepare buffer) d (.pure buffer') d' [] prints := by
  obtain ⟨buffer', d', hinfo, hid', -⟩ := getInfo_communicates chip buffer d
  rw [← hid'] at hid
  have hprint := recordAll_executes (β := UInt8) (infoText buffer') []
  refine ⟨buffer', { d' with chip := chip.write_config 0x22 (chip.chip_erase d'.chip) },
    [] ++ (infoText buffer' ++ [.printf "Chip Apagado Completamente!\n" []]), hinfo.bind ?_⟩
  rw [if_neg hid]
  exact (Communicates.show hprint (shown_infoText buffer') chip d').bind
    ((eraseChip_communicates chip d').bind
      ((enableDma_communicates chip _).bind (.refl chip (.pure buffer') _)))

/-- These calls program the bytes: each address from 0 on once and in order, and whole
words only. -/
structure ProgramsOnce (calls : List (Nat × List UInt8)) (bytes : List UInt8) : Prop where
  addresses : calls.flatMap addresses = List.range bytes.length
  bytes : calls.flatMap Prod.snd = bytes
  aligned : ∀ b ∈ calls, 4 ∣ b.1 ∧ 4 ∣ b.2.length

theorem blocks_programOnce (file : List UInt8) :
    ProgramsOnce (blocks BUFFER_SIZE 0 (padded file)) (padded file) where
  addresses := by
    rw [blocks_addresses (by decide), List.range_eq_range']
  bytes := blocks_flatMap (by decide) 0 _
  aligned := by
    intro b hb
    have hwhole : 4 ∣ (padded file).length := by
      rw [padded_length]
      exact Nat.dvd_mul_left _ _
    exact blocks_aligned (by decide) (by decide) (Nat.dvd_zero 4) hwhole hb

/-- With whatever answer, nothing is programmed after the question. -/
theorem question_communicates {κ : Type} (chip : Chip κ) (file : List UInt8) (answer : UInt8)
    (buffer buffer2 : Nat → UInt8) (d : Device κ) (hfile : file.length ≤ 0x40000) :
    ∃ (d' : Device κ) (prints : List Event),
      Communicates chip (question file answer buffer buffer2) d (.pure ()) d' [] prints := by
  have hask := record_executes (β := UInt8)
    (Event.printf "Deseja fazer a verificacao dos dados escritos? (s/n) " []) []
  unfold question
  split
  · obtain ⟨d', prints, hphase, -⟩ := verifyPhase_communicates chip file buffer buffer2 d hfile
    exact ⟨d', _, (Communicates.show hask rfl chip d).bind hphase⟩
  · exact ⟨d, _, (Communicates.show hask rfl chip d).bind (.refl chip (.pure ()) d)⟩

/-- The session up to the question, and the flash then. -/
theorem main_asks {κ : Type} {chip : Chip κ} (hprograms : chip.Programs) (file : List UInt8)
    (hfile : file.length ≤ 0x40000) (answer : UInt8) (buffer buffer2 : Nat → UInt8) (d : Device κ)
    (hid : chip.xdata d.chip DUP_CHIPID ≠ 0) :
    ∃ (written : Nat → UInt8) (d' : Device κ) (prints : List Event),
      Communicates chip (main file answer buffer buffer2) d
        (question file answer written buffer2) d' (blocks BUFFER_SIZE 0 (padded file)) prints ∧
      load (chip.flash d'.chip) 0 (padded file).length = padded file := by
  have hfits : 0 + (padded file).length ≤ 0x40000 := by
    rw [padded_length]
    omega
  obtain ⟨buffer', d₁, prints₁, hprepare⟩ := prepare_communicates buffer hid
  obtain ⟨written, d₂, hwrite, hflash⟩ :=
    writeLoop_communicates hprograms file.length file buffer' d₁ (Nat.dvd_zero 4) hfits
  have hend : Executes
      (do
        record (.printf "100%%" [])
        record (.printf "\n%d bytes escritos.\n" [0 + (padded file).length])
        question file answer written buffer2)
      [] (question file answer written buffer2) [] []
      [.printf "100%%" [], .printf "\n%d bytes escritos.\n" [0 + (padded file).length]] :=
    (record_executes _ []).bind ((record_executes _ []).before _)
  have hasked : Communicates chip (main file answer buffer buffer2) d
      (question file answer written buffer2) d₂ ([] ++ (blocks BUFFER_SIZE 0 (padded file) ++ [])) _ :=
    hprepare.bind (hwrite.bind (.show hend rfl chip d₂))
  rw [List.nil_append, List.append_nil] at hasked
  refine ⟨written, d₂, _, hasked, ?_⟩
  rw [hflash, load_store]

/-- Programming a file: in every order of steps the session comes to one end, with every
frame taken whole and nothing left on the lines. Unless no chip was detected, the write
phase has then programmed the padded file once, and the flash holds it when the
question is asked; nothing is programmed after that. -/
theorem programming_session {κ : Type} {chip : Chip κ} (hprograms : chip.Programs)
    (file : List UInt8) (hfile : file.length ≤ 0x40000) (answer : UInt8)
    (buffer buffer2 : Nat → UInt8) (d : Device κ) :
    ∃ z, Leads (Step (loop chip)) (session chip (main file answer buffer buffer2) d) z ∧
      z.request = [] ∧ z.reply = [] ∧ Matched z.clientLog z.serverLog ∧
      (chip.xdata d.chip DUP_CHIPID = 0 → z.client = .exit ∧ programmed z.serverLog = []) ∧
      (chip.xdata d.chip DUP_CHIPID ≠ 0 → z.client = .pure () ∧
        ProgramsOnce (programmed z.serverLog) (padded file) ∧
        ∃ (w : Session UInt8 Event Unit (Device κ)) (written : Nat → UInt8) (d' : Device κ),
          Relation.ReflTransGen (Step (loop chip))
            (session chip (main file answer buffer buffer2) d) w ∧
          w.client = question file answer written buffer2 ∧ w.server = loop chip d' ∧
          Matched w.clientLog w.serverLog ∧
          ProgramsOnce (programmed w.serverLog) (padded file) ∧
          load (chip.flash d'.chip) 0 (padded file).length = padded file) := by
  by_cases hid : chip.xdata d.chip DUP_CHIPID = 0
  · obtain ⟨d', hstop⟩ := prepare_stops buffer hid
    obtain ⟨clientLog, serverLog, hleads, hmatched, hwrites, -⟩ :=
      (hstop.before _ : Communicates chip (main file answer buffer buffer2) d .exit d' [] _).leads
        rfl
    exact ⟨_, hleads, rfl, rfl, hmatched, fun _ => ⟨rfl, hwrites⟩, fun h => absurd hid h⟩
  · obtain ⟨written, d₁, prints, hasked, hflash⟩ :=
      main_asks hprograms file hfile answer buffer buffer2 d hid
    obtain ⟨d₂, prints', hanswered⟩ := question_communicates chip file answer written buffer2 d₁ hfile
    obtain ⟨clientLog, serverLog, hleads, hmatched, hwrites, -⟩ := (hasked.trans hanswered).leads rfl
    rw [List.append_nil] at hwrites
    obtain ⟨sending, serving, hreach, hmatched', hwrites', -⟩ := hasked
    have honce := blocks_programOnce file
    refine ⟨_, hleads, rfl, rfl, hmatched, fun h => absurd h hid, fun _ => ⟨rfl, hwrites ▸ honce,
      resting (loop chip) (question file answer written buffer2) d₁ sending serving, written, d₁,
      hreach [] [], rfl, rfl, hmatched', ?_, hflash⟩⟩
    exact hwrites' ▸ honce

/-- A file of a whole block and five bytes more. -/
def twoBlocks : List UInt8 := List.replicate BUFFER_SIZE 0x11 ++ [1, 2, 3, 4, 5]

theorem padded_twoBlocks : padded twoBlocks = twoBlocks ++ [0, 0, 0] := by
  rw [padded, twoBlocks, List.length_append, List.length_replicate]
  rfl

theorem two_blocks_programmed :
    ∃ z, Leads (Step (loop memoryChip))
      (session memoryChip (main twoBlocks 's'.toUInt8 (fun _ => 0) (fun _ => 0))
        ⟨fun _ => 0, 0, 0, 0, fun _ => 0xFF, 0⟩) z ∧
      z.client = .pure () ∧
      (programmed z.serverLog).flatMap addresses = List.range 1544 ∧
      (programmed z.serverLog).flatMap Prod.snd = twoBlocks ++ [0, 0, 0] := by
  have hlength : twoBlocks.length = 1541 := by
    rw [twoBlocks, List.length_append, List.length_replicate]
    rfl
  obtain ⟨z, hleads, -, -, -, -, hwritten⟩ := programming_session memoryChip_programs
    twoBlocks (by rw [hlength]; decide) 's'.toUInt8 (fun _ => 0) (fun _ => 0)
    ⟨fun _ => 0, 0, 0, 0, fun _ => 0xFF, 0⟩
  obtain ⟨hclient, honce, -⟩ := hwritten (by decide)
  have hpadded : (padded twoBlocks).length = 1544 := by rw [padded_length, hlength]
  exact ⟨z, hleads, hclient, hpadded ▸ honce.addresses, padded_twoBlocks ▸ honce.bytes⟩

end concretid.flasher
