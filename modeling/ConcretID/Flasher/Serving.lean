import ConcretID.Flasher.Host

namespace concretid.flasher

open duplex memory

theorem mask_low (x : Nat) : x &&& 0xFF = x % 256 := Nat.and_two_pow_sub_one_eq_mod x 8

theorem mask_middle (x : Nat) : (x &&& 0xFF00) >>> 8 = x / 256 % 256 := by
  rw [Nat.shiftRight_and_distrib, Nat.shiftRight_eq_div_pow]
  exact Nat.and_two_pow_sub_one_eq_mod _ 8

theorem mask_high (x : Nat) : (x &&& 0x30000) >>> 16 = x / 0x10000 % 4 := by
  rw [Nat.shiftRight_and_distrib, Nat.shiftRight_eq_div_pow]
  exact Nat.and_two_pow_sub_one_eq_mod _ 2

/-- The device makes of an address frame the address the host put into it. -/
theorem takeAddr_putAddr (d : Nat → UInt8) {count : Nat} (hcount : count < 0x40000) :
    takeAddr (store d 0 (load (putAddr count) 0 3)) = count := by
  have hlow : (putAddr count 0).toNat = count % 256 := by
    simp [putAddr, store, mask_low]
  have hmiddle : (putAddr count 1).toNat = count / 256 % 256 := by
    simp [putAddr, store, mask_middle]
  have hhigh : (putAddr count 2).toNat = count / 0x10000 % 4 := by
    simp [putAddr, store, mask_high]
    omega
  have hcopied : ∀ i < 3, store d 0 (load (putAddr count) 0 3) i = putAddr count i :=
    fun i hi => by rw [store_load, if_pos hi]
  rw [takeAddr, hcopied 0 (by decide), hcopied 1 (by decide), hcopied 2 (by decide), hlow,
    hmiddle, hhigh, shift_or (Nat.mod_lt _ (by decide)), shift_or (Nat.mod_lt _ (by decide))]
  omega

/-- The device makes of a length frame the length the host put into it. -/
theorem takeCount_putCount (d : Nat → UInt8) {n : Nat} (hn : n < 0x10000) :
    takeCount (store d 0 (load (putCount n) 0 2)) = n := by
  have hlow : (putCount n 0).toNat = n % 256 := by
    simp [putCount, store, mask_low]
  have hhigh : (putCount n 1).toNat = n / 256 % 256 := by
    simp [putCount, store, mask_middle]
  have hcopied : ∀ i < 2, store d 0 (load (putCount n) 0 2) i = putCount n i :=
    fun i hi => by rw [store_load, if_pos hi]
  rw [takeCount, hcopied 0 (by decide), hcopied 1 (by decide), hlow, hhigh,
    shift_or (Nat.mod_lt _ (by decide))]
  omega

/-- Reading on from a pointer collects what XDATA shows there. -/
theorem movxLoop_eq {κ : Type} {chip : Chip κ} {k : κ} {flash : Nat → UInt8} {xaddr addr n : Nat}
    (hshows : ∀ i < n, chip.xdata k (UInt16.ofNat (xaddr + i)) = flash (addr + i)) :
    movxLoop chip k (UInt16.ofNat xaddr) n = load flash addr n := by
  induction n generalizing xaddr addr with
  | zero => rfl
  | succ n ih =>
    have hnext : UInt16.ofNat xaddr + 1 = UInt16.ofNat (xaddr + 1) := by
      rw [UInt16.ofNat_add]
      rfl
    have hrest : ∀ i < n, chip.xdata k (UInt16.ofNat (xaddr + 1 + i)) = flash (addr + 1 + i) := by
      intro i hi
      have h := hshows (i + 1) (by omega)
      rwa [Nat.add_comm i 1, ← Nat.add_assoc, ← Nat.add_assoc] at h
    rw [movxLoop, load_succ, hnext, ih hrest]
    exact congrArg (· :: _) (hshows 0 (by omega))

/-- Within a bank, a block is read as the flash holds it. -/
theorem read_flash_memory_block_eq {κ : Type} {chip : Chip κ} (hbank : chip.ShowsBank) {k : κ}
    {bank flash_addr num_bytes : Nat} (hlt : bank < 8) (hfits : flash_addr + num_bytes ≤ 0x8000) :
    (read_flash_memory_block chip (UInt8.ofNat bank) flash_addr num_bytes k).1 =
      load (chip.flash k) (bank * 0x8000 + flash_addr) num_bytes := by
  refine movxLoop_eq fun i hi => ?_
  rw [Nat.add_assoc, Nat.add_assoc]
  exact hbank.shows k bank (flash_addr + i) hlt (by omega)

/-- The loop returns as many bytes as were asked for, whatever the chip shows. -/
theorem readLoop_total {κ : Type} (chip : Chip κ) (read_count : Nat) (read_bank : UInt8)
    (read_xaddr : { x : Nat // x < 0x8000 }) (read_total : Nat) (buffer : Nat → UInt8) (k : κ) :
    (readLoop chip read_count read_bank read_xaddr read_total buffer k).1 =
      read_total + read_count := by
  induction read_count, read_bank, read_xaddr, read_total, buffer, k using readLoop.induct chip with
  | case1 read_bank read_xaddr read_total buffer k => rw [readLoop, if_pos rfl, Nat.add_zero]
  | case2 read_count read_bank read_xaddr read_total buffer k hcount read_len block ih =>
    have hle : read_len ≤ read_count := by
      simp only [read_len]
      split <;> omega
    rw [readLoop, if_neg hcount]
    exact ih.trans (by omega)

/-- What is left after a part of a bank fits behind that bank. -/
theorem next_bank_fits {bank xaddr count len : Nat}
    (hfits : bank * 0x8000 + xaddr + count ≤ 0x40000) (hlt : bank < 8) (hle : len ≤ count)
    (hends : len = count ∨ xaddr + len = 0x8000) :
    (bank + 1) * 0x8000 + (count - len) ≤ 0x40000 := by
  omega

/-- Bank after bank, the loop puts the bytes at consecutive addresses of the flash
behind each other into the buffer, and leaves the flash. -/
theorem readLoop_eq {κ : Type} {chip : Chip κ} (hbank : chip.ShowsBank) (read_count : Nat)
    (bank : Nat) (read_xaddr : { x : Nat // x < 0x8000 }) (read_total : Nat)
    (buffer : Nat → UInt8) (k : κ)
    (hfits : bank * 0x8000 + read_xaddr.val + read_count ≤ 0x40000) :
    (readLoop chip read_count (UInt8.ofNat bank) read_xaddr read_total buffer k).2.1 =
        store buffer read_total
          (load (chip.flash k) (bank * 0x8000 + read_xaddr.val) read_count) ∧
      chip.flash (readLoop chip read_count (UInt8.ofNat bank) read_xaddr read_total buffer k).2.2 =
        chip.flash k := by
  induction hn : read_count using Nat.strongRecOn
    generalizing read_count bank read_xaddr read_total buffer k with
  | _ n ih =>
    subst hn
    rw [readLoop]
    split
    · rename_i hzero
      subst hzero
      exact ⟨(store_nil _ _).symm, rfl⟩
    · rename_i hcount
      have hxaddr : read_xaddr.val < 0x8000 := read_xaddr.property
      dsimp only
      generalize hlen : (if read_xaddr.val + read_count < 0x8000 then read_count
        else 0x8000 - read_xaddr.val) = read_len
      have hwithin : 0 < read_len ∧ read_len ≤ read_count ∧ read_xaddr.val + read_len ≤ 0x8000 ∧
          (read_len = read_count ∨ read_xaddr.val + read_len = 0x8000) := by
        rw [← hlen]
        split <;> omega
      obtain ⟨hpos, hle, hinside, hends⟩ := hwithin
      have hlt : bank < 8 := by omega
      have hrest : (bank + 1) * 0x8000 + (read_count - read_len) ≤ 0x40000 :=
        next_bank_fits hfits hlt hle hends
      have hnext : UInt8.ofNat bank + 1 = UInt8.ofNat (bank + 1) := by
        rw [UInt8.ofNat_add]
        rfl
      have hblock := read_flash_memory_block_eq hbank (k := k) hlt hinside
      have hkept : chip.flash (read_flash_memory_block chip (UInt8.ofNat bank) read_xaddr.val
          read_len k).2 = chip.flash k := hbank.keeps k _
      obtain ⟨hbuffer, hflash⟩ := ih (read_count - read_len) (by omega) (read_count - read_len)
        (bank + 1) ⟨0, by decide⟩ (read_total + read_len)
        (store buffer read_total (load (chip.flash k) (bank * 0x8000 + read_xaddr.val) read_len))
        (read_flash_memory_block chip (UInt8.ofNat bank) read_xaddr.val read_len k).2
        (by rwa [Nat.add_zero]) rfl
      dsimp only at hbuffer
      rw [hkept, Nat.add_zero ((bank + 1) * 0x8000)] at hbuffer
      rw [hkept] at hflash
      rw [hnext, hblock]
      refine ⟨hbuffer.trans ?_, hflash⟩
      have hbehind : load (chip.flash k) ((bank + 1) * 0x8000) (read_count - read_len) =
          load (chip.flash k) (bank * 0x8000 + read_xaddr.val + read_len)
            (read_count - read_len) := by
        obtain hall | hedge := hends
        · rw [hall, Nat.sub_self, load_zero, load_zero]
        · rw [Nat.add_assoc, hedge, Nat.add_mul, Nat.one_mul]
      rw [hbehind, ← Nat.add_sub_cancel' hle, load_append, store_append, load_length,
        Nat.add_sub_cancel_left]

/-- A read of the flash from any linear address on. -/
theorem startRead_eq {κ : Type} {chip : Chip κ} (hbank : chip.ShowsBank) (read_addr : Nat)
    {read_count : Nat} (buffer : Nat → UInt8) (k : κ) (hfits : read_addr + read_count ≤ 0x40000) :
    (startRead chip read_addr read_count buffer k).2.1 =
        store buffer 0 (load (chip.flash k) read_addr read_count) ∧
      chip.flash (startRead chip read_addr read_count buffer k).2.2 = chip.flash k := by
  have haddr : (read_addr >>> 15) * 0x8000 + (read_addr &&& 0x7fff) = read_addr := by
    rw [Nat.shiftRight_eq_div_pow, Nat.and_two_pow_sub_one_eq_mod read_addr 15]
    exact Nat.div_add_mod' _ _
  have h := readLoop_eq hbank read_count (read_addr >>> 15)
    ⟨read_addr &&& 0x7fff, Nat.lt_of_le_of_lt Nat.and_le_right (by decide)⟩ 0 buffer k
    (by rwa [haddr])
  dsimp only at h
  rwa [haddr] at h

theorem startRead_total {κ : Type} (chip : Chip κ) (read_addr read_count : Nat)
    (buffer : Nat → UInt8) (k : κ) :
    (startRead chip read_addr read_count buffer k).1 = read_count := by
  rw [startRead, readLoop_total, Nat.zero_add]

/-- The buffer of a device that has received a block of data. -/
def Device.filled {κ : Type} (d : Device κ) (source : Nat → UInt8) (len : UInt16) : Nat → UInt8 :=
  store d.buffer 0 (load source 0 len.toNat)

theorem answers_get_info {κ : Type} (chip : Chip κ) (d : Device κ) :
    Answers (loop chip) d (comandoFrame CMD_SERIAL_GET_INFO)
      { d with buffer := store d.buffer 0 (chipInfo chip d.chip) }
      (dadosFrame (store d.buffer 0 (chipInfo chip d.chip)) 4)
      [.received (comandoFrame CMD_SERIAL_GET_INFO),
        .sent (dadosFrame (store d.buffer 0 (chipInfo chip d.chip)) 4)] := by
  apply (receberComando_executes .device _ []).bind
  rw [if_pos rfl]
  exact (enviarDados_executes _ _ _).before _

/-- A block of data received and acknowledged. -/
theorem data_acknowledged {κ : Type} (d : Device κ) (source : Nat → UInt8) (len : UInt16)
    (next : Nat × (Nat → UInt8) → Device κ) :
    Executes
      (do
        let received ← receberDados .device d.buffer
        enviarComando CMD_SERIAL_ACK
        return next received)
      (dadosFrame source len) (.pure (next (len.toNat, d.filled source len))) []
      (comandoFrame CMD_SERIAL_ACK)
      [.received (dadosFrame source len), .sent (comandoFrame CMD_SERIAL_ACK)] := by
  have hreceived := receberDados_executes .device d.buffer source len []
  rw [List.append_nil] at hreceived
  exact hreceived.bind ((enviarComando_executes _ _).before _)

theorem answers_set_write_addr {κ : Type} (chip : Chip κ) (d : Device κ) (source : Nat → UInt8)
    (len : UInt16) :
    Answers (loop chip) d (comandoFrame CMD_SERIAL_SET_WRITE_ADDR ++ dadosFrame source len)
      { d with
        buffer := d.filled source len
        write_addr := takeAddr (d.filled source len) }
      (comandoFrame CMD_SERIAL_ACK)
      [.received (comandoFrame CMD_SERIAL_SET_WRITE_ADDR), .received (dadosFrame source len),
        .sent (comandoFrame CMD_SERIAL_ACK)] := by
  apply (receberComando_executes .device _ _).bind
  rw [if_neg (by decide), if_pos rfl]
  exact data_acknowledged d source len fun received =>
    { d with
      buffer := received.2
      write_addr := takeAddr received.2 }

theorem answers_set_write_buffer {κ : Type} (chip : Chip κ) (d : Device κ) (source : Nat → UInt8)
    (len : UInt16) :
    Answers (loop chip) d (comandoFrame CMD_SERIAL_SET_WRITE_BUFFER ++ dadosFrame source len)
      { d with
        buffer := d.filled source len
        write_count := len.toNat }
      (comandoFrame CMD_SERIAL_ACK)
      [.received (comandoFrame CMD_SERIAL_SET_WRITE_BUFFER), .received (dadosFrame source len),
        .sent (comandoFrame CMD_SERIAL_ACK)] := by
  apply (receberComando_executes .device _ _).bind
  rw [if_neg (by decide), if_neg (by decide), if_pos rfl]
  exact data_acknowledged d source len fun received =>
    { d with
      buffer := received.2
      write_count := received.1 }

theorem answers_set_read_addr {κ : Type} (chip : Chip κ) (d : Device κ) (source : Nat → UInt8)
    (len : UInt16) :
    Answers (loop chip) d (comandoFrame CMD_SERIAL_SET_READ_ADDR ++ dadosFrame source len)
      { d with
        buffer := d.filled source len
        read_addr := takeAddr (d.filled source len) }
      (comandoFrame CMD_SERIAL_ACK)
      [.received (comandoFrame CMD_SERIAL_SET_READ_ADDR), .received (dadosFrame source len),
        .sent (comandoFrame CMD_SERIAL_ACK)] := by
  apply (receberComando_executes .device _ _).bind
  rw [if_neg (by decide), if_neg (by decide), if_neg (by decide), if_pos rfl]
  exact data_acknowledged d source len fun received =>
    { d with
      buffer := received.2
      read_addr := takeAddr received.2 }

theorem answers_enable_dma {κ : Type} (chip : Chip κ) (d : Device κ) :
    Answers (loop chip) d (comandoFrame CMD_SERIAL_ENABLE_DMA)
      { d with chip := chip.write_config 0x22 d.chip } (comandoFrame CMD_SERIAL_ACK)
      [.received (comandoFrame CMD_SERIAL_ENABLE_DMA), .sent (comandoFrame CMD_SERIAL_ACK)] := by
  apply (receberComando_executes .device _ []).bind
  rw [if_neg (by decide), if_neg (by decide), if_neg (by decide), if_neg (by decide), if_pos rfl]
  exact (enviarComando_executes _ _).before _

theorem answers_start_write {κ : Type} (chip : Chip κ) (d : Device κ) :
    Answers (loop chip) d (comandoFrame CMD_SERIAL_START_WRITE)
      { d with
        chip := chip.write_flash_memory_block d.buffer d.write_addr d.write_count d.chip }
      (comandoFrame CMD_SERIAL_ACK)
      [.received (comandoFrame CMD_SERIAL_START_WRITE),
        .programmed d.write_addr (load d.buffer 0 d.write_count),
        .sent (comandoFrame CMD_SERIAL_ACK)] := by
  apply (receberComando_executes .device _ []).bind
  rw [if_neg (by decide), if_neg (by decide), if_neg (by decide), if_neg (by decide),
    if_neg (by decide), if_pos rfl]
  exact (record_executes _ _).bind ((enviarComando_executes _ _).before _)

/-- A block of data sent with the acknowledgement behind it. -/
theorem data_answered {κ : Type} (buffer : Nat → UInt8) (len : UInt16) (d : Device κ) :
    Executes
      (do
        enviarDados buffer len
        enviarComando CMD_SERIAL_ACK
        return d)
      [] (.pure d) [] (dadosFrame buffer len ++ comandoFrame CMD_SERIAL_ACK)
      [.sent (dadosFrame buffer len), .sent (comandoFrame CMD_SERIAL_ACK)] :=
  (enviarDados_executes _ _ _).bind ((enviarComando_executes _ _).before _)

/-- The device's answer to a read: the bytes and the acknowledgement behind them. -/
theorem answers_start_read {κ : Type} (chip : Chip κ) (d : Device κ) (source : Nat → UInt8)
    {read : Nat × (Nat → UInt8) × κ}
    (hread : startRead chip d.read_addr (takeCount (d.filled source 2)) (d.filled source 2) d.chip =
      read) :
    Answers (loop chip) d (comandoFrame CMD_SERIAL_START_READ ++ dadosFrame source 2)
      { d with
        buffer := read.2.1
        chip := read.2.2 }
      (dadosFrame read.2.1 (UInt16.ofNat read.1) ++ comandoFrame CMD_SERIAL_ACK)
      [.received (comandoFrame CMD_SERIAL_START_READ), .received (dadosFrame source 2),
        .sent (dadosFrame read.2.1 (UInt16.ofNat read.1)), .sent (comandoFrame CMD_SERIAL_ACK)] := by
  subst hread
  have hreceived := receberDados_executes .device d.buffer source 2 []
  rw [List.append_nil] at hreceived
  apply (receberComando_executes .device _ _).bind
  rw [if_neg (by decide), if_neg (by decide), if_neg (by decide), if_neg (by decide),
    if_neg (by decide), if_neg (by decide), if_pos rfl]
  exact hreceived.bind (data_answered _ _ _)

theorem answers_erase_chip {κ : Type} (chip : Chip κ) (d : Device κ) :
    Answers (loop chip) d (comandoFrame CMD_SERIAL_ERASE_CHIP)
      { d with chip := chip.chip_erase d.chip } (comandoFrame CMD_SERIAL_ACK)
      [.received (comandoFrame CMD_SERIAL_ERASE_CHIP), .sent (comandoFrame CMD_SERIAL_ACK)] := by
  apply (receberComando_executes .device _ []).bind
  rw [if_neg (by decide), if_neg (by decide), if_neg (by decide), if_neg (by decide),
    if_neg (by decide), if_neg (by decide), if_neg (by decide), if_pos rfl]
  exact (enviarComando_executes _ _).before _

end concretid.flasher
