import ConcretID.Flasher.Programming

namespace concretid.flasher

open duplex memory

/-- What the comparison of a chunk with what was read back prints. -/
def discrepancy (written read : List UInt8) : List Event :=
  if written = read then []
  else
    [.printf "Erro de verificacao! Conteudo recebido apos escrita diferente do esperado\n" []]

/-- The comparison of a block with a flash, byte by byte. -/
theorem discrepancy_load (flash : Nat → UInt8) (b : Nat × List UInt8) :
    discrepancy b.2 (load flash b.1 b.2.length) =
      if ∃ i < b.2.length, b.2[i]? ≠ some (flash (b.1 + i)) then
        [.printf "Erro de verificacao! Conteudo recebido apos escrita diferente do esperado\n" []]
      else [] := by
  rw [discrepancy]
  by_cases hsame : b.2 = load flash b.1 b.2.length
  · rw [if_pos hsame, if_neg (mt ne_load_iff.mpr (not_not_intro hsame))]
  · rw [if_neg hsame, if_pos (ne_load_iff.mp hsame)]

/-- The comparison loop prints its message once when the buffers differ anywhere. -/
theorem compareLoop_executes (buffer buffer2 : Nat → UInt8) (i left : Nat) (x : List UInt8) :
    Executes (compareLoop buffer buffer2 i left) x (.pure ()) x []
      (discrepancy (load buffer i left) (load buffer2 i left)) := by
  induction left generalizing i with
  | zero => exact .refl _ _
  | succ left ih =>
    rw [compareLoop, load_succ, load_succ]
    by_cases hsame : buffer i = buffer2 i
    · rw [if_neg (not_not_intro hsame), hsame]
      simpa [discrepancy] using ih (i + 1)
    · rw [if_pos hsame]
      simpa [discrepancy, hsame] using record_executes _ x

/-- What the host does with the bytes read back and the acknowledgement behind them. -/
theorem readBack_executes (file_size count : Nat) (filled : Nat × (Nat → UInt8))
    (buffer2 data : Nat → UInt8) {len : UInt16} (hlen : len.toNat = filled.1) :
    Executes
      (do
        let received ← receberDados .host buffer2
        if received.1 ≠ filled.1 then
          record (.printf "Erro de comunicacao! Esperado %d bytes, chegaram %d bytes\n"
            [filled.1, received.1])
        compareLoop filled.2 received.2 0 filled.1
        receberAck "Erro de comunicacao! Ack nao recebido CMD_SERIAL_START_READ\n"
        record (.progress count file_size)
        return (filled, received.2))
      (dadosFrame data len ++ comandoFrame CMD_SERIAL_ACK)
      (.pure (filled, store buffer2 0 (load data 0 filled.1))) [] []
      (.received (dadosFrame data len) ::
        (discrepancy (load filled.2 0 filled.1) (load data 0 filled.1) ++
          [.received (comandoFrame CMD_SERIAL_ACK), .progress count file_size])) := by
  have hcompare := compareLoop_executes filled.2 (store buffer2 0 (load data 0 filled.1)) 0
    filled.1 (comandoFrame CMD_SERIAL_ACK)
  rw [load_store_load] at hcompare
  apply (receberDados_executes .host buffer2 data len _).bind
  rw [hlen, if_neg (by exact fun h => h rfl)]
  exact hcompare.bind ((receberAck_executes _ []).bind ((record_executes _ []).before _))

/-- What the host records for the bytes read back. -/
theorem readBack_log (written read frame ack : List UInt8) (count file_size : Nat)
    {log : List Event}
    (hlog : log = .received frame ::
      (discrepancy written read ++ [.received ack, .progress count file_size])) :
    framesSent log = [] ∧ framesReceived log = [frame, ack] ∧
      shown log = discrepancy written read ++ [.progress count file_size] := by
  subst hlog
  unfold discrepancy
  split <;> exact ⟨rfl, rfl, rfl⟩

/-- One chunk verified: what is printed is whether the bytes read back from the count
on are those of the padded chunk. -/
theorem verifyChunk_communicates {κ : Type} (chip : Chip κ) (file_size : Nat) {count n : Nat}
    (buffer buffer2 : Nat → UInt8) (d : Device κ) (hcount : count < 0x40000)
    (hn : n ≤ BUFFER_SIZE) :
    ∃ (buffer2' source : Nat → UInt8) (d' : Device κ),
      Communicates chip (verifyChunk file_size count n buffer buffer2) d
        (.pure (pad n buffer, buffer2')) d' []
        (discrepancy (padded (load buffer 0 n)) (load d'.buffer 0 (pad n buffer).1) ++
          [.progress count file_size]) ∧
      d'.buffer = (startRead chip count (pad n buffer).1 source d.chip).2.1 ∧
      d'.chip = (startRead chip count (pad n buffer).1 source d.chip).2.2 := by
  obtain ⟨hfits, hlen⟩ := pad_fits buffer hn
  let addressed : Device κ :=
    { d with
      buffer := d.filled (putAddr count) 3
      read_addr := takeAddr (d.filled (putAddr count) 3) }
  have haddr : addressed.read_addr = count := takeAddr_putAddr d.buffer hcount
  have hread : startRead chip addressed.read_addr
      (takeCount (addressed.filled (putCount (pad n buffer).1) 2))
      (addressed.filled (putCount (pad n buffer).1) 2) addressed.chip =
      startRead chip count (pad n buffer).1 (addressed.filled (putCount (pad n buffer).1) 2)
        d.chip := by
    rw [haddr, Device.filled, show (2 : UInt16).toNat = 2 from rfl, takeCount_putCount _ hfits]
  have htotal := startRead_total chip count (pad n buffer).1
    (addressed.filled (putCount (pad n buffer).1) 2) d.chip
  generalize hresult : startRead chip count (pad n buffer).1
    (addressed.filled (putCount (pad n buffer).1) 2) d.chip = result at hread htotal
  refine ⟨store buffer2 0 (load result.2.1 0 (pad n buffer).1),
    addressed.filled (putCount (pad n buffer).1) 2, { addressed with
      buffer := result.2.1
      chip := result.2.2 }, ?_, by rw [hresult], by rw [hresult]⟩
  have hanswer := answers_start_read chip addressed (putCount (pad n buffer).1) hread
  rw [htotal] at hanswer
  have hreceive := readBack_executes file_size count (pad n buffer) buffer2 result.2.1 hlen
  obtain ⟨hsent, hreceived, hshown⟩ := readBack_log (load (pad n buffer).2 0 (pad n buffer).1)
    (load result.2.1 0 (pad n buffer).1) (dadosFrame result.2.1 (UInt16.ofNat (pad n buffer).1))
    (comandoFrame CMD_SERIAL_ACK) count file_size rfl
  have hmatched := reply_exchange hanswer hreceive
    ⟨hreceived, (congrArg (fun l => _ :: _ :: l) hsent).symm⟩
  rw [hshown, pad_eq buffer hn] at hmatched
  exact (data_exchange (answers_set_read_addr chip d _ _) ⟨rfl, rfl⟩ _ _).trans hmatched

/-- What the verify loop prints for a block of the padded file against a flash. -/
def verdict (flash : Nat → UInt8) (file_size : Nat) (b : Nat × List UInt8) : List Event :=
  discrepancy b.2 (load flash b.1 b.2.length) ++ [.progress b.1 file_size]

/-- The verify loop goes through the padded file block after block; where XDATA shows
the selected bank it compares each block with the flash at its address. -/
theorem verifyLoop_communicates {κ : Type} (chip : Chip κ) (file_size : Nat) (fin : List UInt8)
    {count : Nat} (buffer buffer2 : Nat → UInt8) (d : Device κ)
    (hfits : count + (padded fin).length ≤ 0x40000) :
    ∃ (d' : Device κ) (prints : List Event),
      Communicates chip (verifyLoop file_size fin count buffer buffer2) d
        (.pure (count + (padded fin).length)) d' [] prints ∧
      (chip.ShowsBank → chip.flash d'.chip = chip.flash d.chip ∧
        prints = (blocks BUFFER_SIZE count (padded fin)).flatMap
          (verdict (chip.flash d.chip) file_size)) := by
  induction fin using blocks_induction BUFFER_SIZE (by decide)
    generalizing count buffer buffer2 d with
  | hnil =>
    have hnone : padded [] = [] := rfl
    refine ⟨d, [], ?_, fun _ => ⟨rfl, ?_⟩⟩
    · rw [verifyLoop, if_pos rfl, hnone]
      exact .refl _ _ _
    · rw [hnone, blocks_nil, List.flatMap_nil]
  | hdrop fin hfin ih =>
    have hlength := congrArg List.length (padded_parts fin)
    rw [List.length_append] at hlength
    have hchunk : (fin.take BUFFER_SIZE).length ≤ BUFFER_SIZE := List.length_take_le _ _
    have hstart : count < 0x40000 := by
      have hpos := List.length_pos_iff.mpr hfin
      rw [padded_length] at hfits
      omega
    have hrestfits : count + (padded (fin.take BUFFER_SIZE)).length +
        (padded (fin.drop BUFFER_SIZE)).length ≤ 0x40000 := by omega
    have hpad := pad_length (store buffer 0 (fin.take BUFFER_SIZE)) hchunk
    obtain ⟨buffer2', source, d₁, hverify, hbuffer, hchip⟩ := verifyChunk_communicates chip
      file_size (store buffer 0 (fin.take BUFFER_SIZE)) buffer2 d hstart hchunk
    rw [load_store] at hverify hpad
    rw [hpad] at hbuffer hchip hverify
    obtain ⟨d', prints, hrest, hprints⟩ := ih
      (pad (fin.take BUFFER_SIZE).length (store buffer 0 (fin.take BUFFER_SIZE))).2 buffer2' d₁
      hrestfits
    refine ⟨d', (discrepancy (padded (fin.take BUFFER_SIZE))
      (load d₁.buffer 0 (padded (fin.take BUFFER_SIZE)).length) ++ [.progress count file_size]) ++
        prints, ?_, fun hbank => ?_⟩
    · rw [Nat.add_assoc, hlength] at hrest
      rw [verifyLoop, if_neg hfin]
      apply hverify.bind
      rw [hpad]
      exact hrest
    · have hchunkfits : count + (padded (fin.take BUFFER_SIZE)).length ≤ 0x40000 := by omega
      obtain ⟨hread, hkept⟩ := startRead_eq hbank count source d.chip hchunkfits
      obtain ⟨hflash, rfl⟩ := hprints hbank
      rw [← hchip] at hkept
      have hcopied := load_store source 0
        (load (chip.flash d.chip) count (padded (fin.take BUFFER_SIZE)).length)
      rw [load_length] at hcopied
      rw [hflash, hkept, blocks_padded hfin, List.flatMap_cons, hbuffer, hread, hcopied, verdict]
      exact ⟨rfl, rfl⟩

theorem verifyPhase_communicates {κ : Type} (chip : Chip κ) (file : List UInt8)
    (buffer buffer2 : Nat → UInt8) (d : Device κ) (hfile : file.length ≤ 0x40000) :
    ∃ (d' : Device κ) (prints : List Event),
      Communicates chip (verifyPhase file buffer buffer2) d (.pure ()) d' []
        (prints ++
          [.printf "100%%" [], .printf "\n%d bytes verificados.\n" [(padded file).length]]) ∧
      (chip.ShowsBank →
        prints = (blocks BUFFER_SIZE 0 (padded file)).flatMap
          (verdict (chip.flash d.chip) file.length)) := by
  have hfits : 0 + (padded file).length ≤ 0x40000 := by
    rw [padded_length]
    omega
  obtain ⟨d', prints, hloop, hprints⟩ :=
    verifyLoop_communicates chip file.length file buffer buffer2 d hfits
  have hend : Executes
      (do
        record (.printf "100%%" [])
        record (.printf "\n%d bytes verificados.\n" [0 + (padded file).length]))
      [] (.pure () : Proc UInt8 Event Unit) [] []
      [.printf "100%%" [], .printf "\n%d bytes verificados.\n" [0 + (padded file).length]] :=
    (record_executes _ []).bind (record_executes _ [])
  have hphase : Communicates chip (verifyPhase file buffer buffer2) d (.pure ()) d' [] (prints ++ _) :=
    hloop.bind (.show hend rfl chip d')
  rw [Nat.zero_add] at hphase
  exact ⟨d', prints, hphase, fun hbank => (hprints hbank).2⟩

/-- The verify phase against any device: a message for exactly the blocks of the padded
file of which some byte is not what the flash holds at its address. A read of any
range of the flash is answered with exactly the bytes of that range. -/
theorem verification_exact {κ : Type} {chip : Chip κ} (hbank : chip.ShowsBank)
    (file : List UInt8) (hfile : file.length ≤ 0x40000) (buffer buffer2 : Nat → UInt8)
    (d : Device κ) :
    (∃ z, Leads (Step (loop chip)) (session chip (verifyPhase file buffer buffer2) d) z ∧
      z.client = .pure () ∧
      shown z.clientLog =
        (blocks BUFFER_SIZE 0 (padded file)).flatMap (fun b =>
          (if ∃ i < b.2.length, b.2[i]? ≠ some (chip.flash d.chip (b.1 + i)) then
            [Event.printf
              "Erro de verificacao! Conteudo recebido apos escrita diferente do esperado\n" []]
          else []) ++ [.progress b.1 file.length]) ++
        [.printf "100%%" [], .printf "\n%d bytes verificados.\n" [(padded file).length]]) ∧
    ∀ (e : Device κ) (source : Nat → UInt8) (read_count : Nat),
      takeCount (e.filled source 2) = read_count → e.read_addr + read_count ≤ 0x40000 →
      ∃ (e' : Device κ) (serving : List Event),
        Answers (loop chip) e (comandoFrame CMD_SERIAL_START_READ ++ dadosFrame source 2) e'
          (dadosFrame e'.buffer (UInt16.ofNat read_count) ++ comandoFrame CMD_SERIAL_ACK)
          serving ∧
        load e'.buffer 0 read_count = load (chip.flash e.chip) e.read_addr read_count := by
  constructor
  · obtain ⟨d', prints, hphase, hprints⟩ :=
      verifyPhase_communicates chip file buffer buffer2 d hfile
    obtain ⟨clientLog, serverLog, hleads, -, -, hshown⟩ := hphase.leads rfl
    refine ⟨_, hleads, rfl, ?_⟩
    rw [resting, hshown, hprints hbank]
    congr 2
    funext b
    rw [verdict, discrepancy_load]
  · intro e source read_count hcount hfits
    obtain ⟨hread, -⟩ := startRead_eq hbank e.read_addr (e.filled source 2) e.chip hfits
    have htotal := startRead_total chip e.read_addr read_count (e.filled source 2) e.chip
    have hanswer := answers_start_read chip e source (congrArg (startRead chip e.read_addr · _ _) hcount)
    rw [htotal] at hanswer
    refine ⟨_, _, hanswer, ?_⟩
    have hcopied := load_store (e.filled source 2) 0
      (load (chip.flash e.chip) e.read_addr read_count)
    rw [load_length] at hcopied
    rw [hread, hcopied]

theorem five_bytes_verified :
    ∃ z, Leads (Step (loop memoryChip))
      (session memoryChip (verifyPhase [1, 2, 3, 4, 5] (fun _ => 0) (fun _ => 0))
        ⟨fun _ => 0, 0, 0, 0, fun i => if i < 4 then UInt8.ofNat (i + 1) else 0xFF, 0⟩) z ∧
      shown z.clientLog =
        [.printf "Erro de verificacao! Conteudo recebido apos escrita diferente do esperado\n" [],
          .progress 0 5, .printf "100%%" [], .printf "\n%d bytes verificados.\n" [8]] := by
  obtain ⟨⟨z, hleads, -, hshown⟩, -⟩ := verification_exact memoryChip_showsBank [1, 2, 3, 4, 5]
    (by decide) (fun _ => 0) (fun _ => 0)
    ⟨fun _ => 0, 0, 0, 0, fun i => if i < 4 then UInt8.ofNat (i + 1) else 0xFF, 0⟩
  have hblocks : blocks BUFFER_SIZE 0 (padded [1, 2, 3, 4, 5]) = [(0, [1, 2, 3, 4, 5, 0, 0, 0])] := by
    rw [blocks_padded (List.cons_ne_nil _ _)]
    exact congrArg _ (blocks_nil _ _)
  refine ⟨z, hleads, ?_⟩
  rw [hshown, hblocks, List.flatMap_singleton, if_pos ⟨4, by decide, by decide⟩]
  rfl

end concretid.flasher
