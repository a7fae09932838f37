import ConcretID.Flasher.Upload

namespace concretid.flasher

open duplex memory

/-- A chip whose flash is erased as a whole and programmed, with DMA enabled, in whole words
that are still erased. -/
structure Chip.Flashes {κ : Type} (chip : Chip κ) (enabled : κ → Prop) : Prop where
  erases : ∀ k a, chip.flash (chip.chip_erase k) a = 0xFF
  enables : ∀ k, enabled (chip.write_config 0x22 k)
  config_flash : ∀ v k, chip.flash (chip.write_config v k) = chip.flash k
  programs : ∀ src addr n k, enabled k → 0 < n → 4 ∣ n → n ≤ BUFFER_SIZE → 4 ∣ addr →
    addr + n ≤ 0x40000 → (∀ i < n, chip.flash k (addr + i) = 0xFF) →
    enabled (chip.write_flash_memory_block src addr n k) ∧
      chip.flash (chip.write_flash_memory_block src addr n k) =
        store (chip.flash k) addr (load src 0 n)

/-- The write loop finds each block it programs still erased. -/
theorem writeLoop_flashes {κ : Type} {chip : Chip κ} {enabled : κ → Prop}
    (hflashes : chip.Flashes enabled) (file_size : Nat) (fin : List UInt8) {count : Nat}
    (buffer : Nat → UInt8) (d : Device κ) (henabled : enabled d.chip) (hcount : 4 ∣ count)
    (hfits : count + (padded fin).length ≤ 0x40000)
    (herased : ∀ a, count ≤ a → chip.flash d.chip a = 0xFF) :
    ∃ (buffer' : Nat → UInt8) (d' : Device κ),
      Communicates chip (writeLoop file_size fin count buffer) d
        (.pure (count + (padded fin).length, buffer')) d' (blocks BUFFER_SIZE count (padded fin))
        ((blocks BUFFER_SIZE count (padded fin)).map fun b => .progress b.1 file_size) ∧
      chip.flash d'.chip = store (chip.flash d.chip) count (padded fin) := by
  induction fin using blocks_induction BUFFER_SIZE (by decide) generalizing count buffer d with
  | hnil =>
    have hnone : padded [] = [] := rfl
    refine ⟨buffer, d, ?_, ?_⟩
    · rw [writeLoop, if_pos rfl, hnone, blocks_nil]
      exact .refl _ _ _
    · rw [hnone, store_nil]
  | hdrop fin hfin ih =>
    have hparts := padded_parts fin
    have hlength := congrArg List.length hparts
    rw [List.length_append] at hlength
    have hchunk : (fin.take BUFFER_SIZE).length ≤ BUFFER_SIZE := List.length_take_le _ _
    obtain ⟨hword, hsize⟩ := padded_chunk hchunk
    have hpos : 0 < (padded (fin.take BUFFER_SIZE)).length := by
      have hsome := List.length_pos_iff.mpr hfin
      rw [padded_length, List.length_take, BUFFER_SIZE]
      omega
    have hstart : count < 0x40000 := by omega
    have hpad := pad_length (store buffer 0 (fin.take BUFFER_SIZE)) hchunk
    obtain ⟨d₁, hwrite, src, hsrc, hchip⟩ := writeChunk_communicates chip file_size
      (store buffer 0 (fin.take BUFFER_SIZE)) d hstart hchunk
    rw [load_store] at hwrite hsrc hpad
    rw [hpad] at hchip hsrc
    obtain ⟨henabled', hprogrammed⟩ := hflashes.programs src count _ d.chip henabled hpos hword
      hsize hcount (by omega) fun i _ => herased _ (Nat.le_add_right _ _)
    rw [hsrc, ← hchip] at hprogrammed
    rw [← hchip] at henabled'
    have hrest : ∀ a, count + (padded (fin.take BUFFER_SIZE)).length ≤ a →
        chip.flash d₁.chip a = 0xFF := by
      intro a ha
      rw [hprogrammed, store_of_ge _ _ ha]
      exact herased a (by omega)
    obtain ⟨buffer', d', hloop, hflash⟩ := ih
      (pad (fin.take BUFFER_SIZE).length (store buffer 0 (fin.take BUFFER_SIZE))).2 d₁ henabled'
      (Nat.dvd_add hcount hword) (by omega) hrest
    refine ⟨buffer', d', ?_, ?_⟩
    · rw [writeLoop, if_neg hfin, blocks_padded hfin, List.map_cons]
      rw [Nat.add_assoc, hlength] at hloop
      apply hwrite.bind
      rw [hpad]
      exact hloop
    · rw [hflash, hprogrammed, ← store_append, hparts]

/-- What the host shows before the write phase: the chip, and that it is erased. -/
def preparing (info : List UInt8) : List Event :=
  infoText (fun i => info.getD i 0) ++ [.printf "Chip Apagado Completamente!\n" []]

/-- The progress the host shows, block after block of the padded file. -/
def progressing (file : List UInt8) : List Event :=
  (blocks BUFFER_SIZE 0 (padded file)).map fun b => .progress b.1 file.length

/-- What the host shows of a session in which nothing fails. -/
def transcript (info file : List UInt8) (answer : UInt8) : List Event :=
  preparing info ++ (progressing file ++
    [.printf "100%%" [], .printf "\n%d bytes escritos.\n" [(padded file).length]]) ++
  (.printf "Deseja fazer a verificacao dos dados escritos? (s/n) " [] ::
    if answer = 's'.toUInt8 ∨ answer = 'S'.toUInt8 ∨ answer = 'y'.toUInt8 ∨
        answer = 'Y'.toUInt8 then
      progressing file ++
        [.printf "100%%" [], .printf "\n%d bytes verificados.\n" [(padded file).length]]
    else [])

/-- GET_INFO brings what the chip is into the host's buffer. -/
theorem getInfo_filled {κ : Type} (chip : Chip κ) (buffer : Nat → UInt8) (d : Device κ) :
    ∃ (buffer' : Nat → UInt8) (d' : Device κ),
      Communicates chip (getInfo buffer) d (.pure buffer') d' [] [] ∧
      infoText buffer' = infoText (fun i => (chipInfo chip d.chip).getD i 0) ∧
      buffer' 0 = chip.xdata d.chip DUP_CHIPID ∧ d'.chip = d.chip := by
  have hsend : Executes (getInfo buffer) []
      (receberDados .host buffer >>= fun received => .pure received.2) []
      (comandoFrame CMD_SERIAL_GET_INFO) [.sent (comandoFrame CMD_SERIAL_GET_INFO)] :=
    (enviarComando_executes CMD_SERIAL_GET_INFO []).before _
  have hreceive := receberDados_executes .host buffer
    (store d.buffer 0 (chipInfo chip d.chip)) 4 []
  rw [List.append_nil] at hreceive
  exact ⟨_, _, exchange (answers_get_info chip d) hsend
    (hreceive.before fun received => .pure received.2) ⟨rfl, rfl⟩, rfl, rfl, rfl⟩

/-- What comes before the write phase leaves the chip erased and DMA enabled. -/
theorem prepare_flashes {κ : Type} {chip : Chip κ} {enabled : κ → Prop}
    (hflashes : chip.Flashes enabled) (buffer : Nat → UInt8) (d : Device κ)
    (hid : chip.xdata d.chip DUP_CHIPID ≠ 0) :
    ∃ (buffer' : Nat → UInt8) (d' : Device κ),
      Communicates chip (prepare buffer) d (.pure buffer') d' []
        (preparing (chipInfo chip d.chip)) ∧
      enabled d'.chip ∧ chip.flash d'.chip = fun _ => 0xFF := by
  obtain ⟨buffer', d', hinfo, htext, hid', -⟩ := getInfo_filled chip buffer d
  rw [← hid'] at hid
  have hprint := recordAll_executes (β := UInt8) (infoText buffer') []
  have hshown := Communicates.show hprint (shown_infoText buffer') chip d'
  refine ⟨buffer', { d' with chip := chip.write_config 0x22 (chip.chip_erase d'.chip) }, ?_,
    hflashes.enables _, ?_⟩
  · rw [preparing, ← htext]
    apply hinfo.bind
    rw [if_neg hid]
    exact hshown.bind ((eraseChip_communicates chip d').bind
      ((enableDma_communicates chip _).bind (.refl chip (.pure buffer') _)))
  · funext a
    rw [hflashes.config_flash, hflashes.erases]

/-- The session up to the question: the flash then holds the padded file and is erased behind
it. -/
theorem main_flashes {κ : Type} {chip : Chip κ} {enabled : κ → Prop}
    (hflashes : chip.Flashes enabled) (file : List UInt8) (hfile : file.length ≤ 0x40000)
    (answer : UInt8) (buffer buffer2 : Nat → UInt8) (d : Device κ)
    (hid : chip.xdata d.chip DUP_CHIPID ≠ 0) :
    ∃ (written : Nat → UInt8) (d' : Device κ),
      Communicates chip (main file answer buffer buffer2) d
        (question file answer written buffer2) d' (blocks BUFFER_SIZE 0 (padded file))
        (preparing (chipInfo chip d.chip) ++ (progressing file ++
          [.printf "100%%" [], .printf "\n%d bytes escritos.\n" [(padded file).length]])) ∧
      chip.flash d'.chip = store (fun _ => 0xFF) 0 (padded file) := by
  have hfits : 0 + (padded file).length ≤ 0x40000 := by
    rw [padded_length]
    omega
  obtain ⟨buffer', d₁, hprepare, henabled, hblank⟩ := prepare_flashes hflashes buffer d hid
  obtain ⟨written, d₂, hwrite, hflash⟩ :=
    writeLoop_flashes hflashes file.length file buffer' d₁ henabled (Nat.dvd_zero 4) hfits
      fun a _ => congrFun hblank a
  have hend : Executes
      (do
        record (.printf "100%%" [])
        record (.printf "\n%d bytes escritos.\n" [0 + (padded file).length])
        question file answer written buffer2)
      [] (question file answer written buffer2) [] []
      [.printf "100%%" [], .printf "\n%d bytes escritos.\n" [0 + (padded file).length]] :=
    (record_executes _ []).bind ((record_executes _ []).before _)
  have hasked : Communicates chip (main file answer buffer buffer2) d
      (question file answer written buffer2) d₂ ([] ++ (blocks BUFFER_SIZE 0 (padded file) ++ [])) _ :=
    hprepare.bind (hwrite.bind (.show hend rfl chip d₂))
  rw [List.nil_append, List.append_nil, Nat.zero_add] at hasked
  exact ⟨written, d₂, hasked, hblank ▸ hflash⟩

/-- The rest of the session. A flash that holds the padded file is found to, block by block. -/
theorem question_flashes {κ : Type} {chip : Chip κ} (hbank : chip.ShowsBank) (file : List UInt8)
    (hfile : file.length ≤ 0x40000) (answer : UInt8) (buffer buffer2 : Nat → UInt8) (d : Device κ)
    (hholds : load (chip.flash d.chip) 0 (padded file).length = padded file) :
    ∃ d' : Device κ, Communicates chip (question file answer buffer buffer2) d (.pure ()) d' []
      (.printf "Deseja fazer a verificacao dos dados escritos? (s/n) " [] ::
        if answer = 's'.toUInt8 ∨ answer = 'S'.toUInt8 ∨ answer = 'y'.toUInt8 ∨
            answer = 'Y'.toUInt8 then
          progressing file ++
            [.printf "100%%" [], .printf "\n%d bytes verificados.\n" [(padded file).length]]
        else []) := by
  have hask := record_executes (β := UInt8)
    (Event.printf "Deseja fazer a verificacao dos dados escritos? (s/n) " []) []
  unfold question
  split
  · obtain ⟨d', prints, hphase, hprints⟩ :=
      verifyPhase_communicates chip file buffer buffer2 d hfile
    have hsame : prints = progressing file := by
      rw [hprints hbank, progressing, List.map_eq_flatMap]
      apply List.flatMap_congr
      intro b hb
      rw [verdict, discrepancy, if_pos (blocks_load (by decide) _ hholds hb).symm]
      rfl
    rw [hsame] at hphase
    exact ⟨d', (Communicates.show hask rfl chip d).bind hphase⟩
  · exact ⟨d, (Communicates.show hask rfl chip d).bind (.refl chip (.pure ()) d)⟩

end concretid.flasher
