import ConcretID.Flasher.Flashing
import ConcretID.Flasher.DebugXdata

namespace concretid.flasher.debug

open calls memory

/-- What is inside a device: its RAM and the registers that keep what is written to them, its
flash, and the debug configuration. -/
structure Inside (μ : Type) where
  memory : μ → Nat → UInt8
  flash : μ → Nat → UInt8
  debugConfig : μ → UInt8

def word (hi lo : UInt8) : Nat := hi.toNat * 256 + lo.toNat

/-- A DMA descriptor as the DMA controller takes it from memory. -/
structure Descriptor where
  src : Nat
  dest : Nat
  len : Nat
  trigger : UInt8
  flags : UInt8
deriving DecidableEq

/-- The upper three bits of the length are not its own. -/
def descriptorAt (d : Nat → UInt8) (a : Nat) : Descriptor where
  src := word (d a) (d (a + 1))
  dest := word (d (a + 2)) (d (a + 3))
  len := word (d (a + 4) &&& 0x1F) (d (a + 5))
  trigger := d (a + 6)
  flags := d (a + 7)

/-- The descriptor channel 0 is pointed to. -/
def channel0 (d : Nat → UInt8) : Descriptor :=
  descriptorAt d (word (d DUP_DMA0CFGH.toNat) (d DUP_DMA0CFGL.toNat))

/-- The descriptor channel 1 is pointed to. -/
def channel1 (d : Nat → UInt8) : Descriptor :=
  descriptorAt d (word (d DUP_DMA1CFGH.toNat) (d DUP_DMA1CFGL.toNat))

/-- The linear address the flash controller starts at. -/
def flashStart (d : Nat → UInt8) : Nat := 4 * word (d DUP_FADDRH.toNat) (d DUP_FADDRL.toNat)

/-- The RAM below the CPU's own, and the registers of the transfer. -/
def Held (a : UInt16) : Prop :=
  a.toNat < 0x1F00 ∨ a = DUP_DMA0CFGL ∨ a = DUP_DMA0CFGH ∨ a = DUP_DMA1CFGL ∨ a = DUP_DMA1CFGH ∨
    a = DUP_FADDRL ∨ a = DUP_FADDRH

/-- A device with the DMA and flash controllers of a CC2530: the memory holds what is written
to it; with DMA enabled, channel 0 armed and its descriptor taking the bytes of a burst from
the debug interface to RAM, they arrive there; with channel 1 armed and its descriptor feeding
the flash controller, whole words are programmed where the flash is erased. -/
structure Controls {μ : Type} (bus : Bus μ) (inside : Inside μ) (fuel : Nat) : Prop where
  holds : ∀ a v m, Held a → inside.memory (bus.store a v m) = store (inside.memory m) a.toNat [v]
  store_flash : ∀ a v m, a ≠ DUP_FCTL → inside.flash (bus.store a v m) = inside.flash m
  store_config : ∀ a v m, inside.debugConfig (bus.store a v m) = inside.debugConfig m
  arm : ∀ v m, inside.memory (bus.store DUP_DMAARM v m) = inside.memory m
  burst : ∀ src dest m, inside.debugConfig m = 0x22 → src ≠ [] →
    channel0 (inside.memory m) = ⟨DUP_DBGDATA.toNat, dest, src.length, 31, 0x11⟩ →
    dest + src.length ≤ 0x1F00 →
    inside.memory (bus.burst src (bus.store DUP_DMAARM CH_DBG_TO_BUF0 m)).2 =
      store (inside.memory m) dest src
  burst_flash : ∀ src m, inside.flash (bus.burst src m).2 = inside.flash m
  burst_config : ∀ src m, inside.debugConfig (bus.burst src m).2 = inside.debugConfig m
  program : ∀ src n m, inside.debugConfig m = 0x22 →
    channel1 (inside.memory m) = ⟨src, DUP_FWDATA.toNat, n, 18, 0x42⟩ →
    0 < n → 4 ∣ n → src + n ≤ 0x1F00 → flashStart (inside.memory m) + n ≤ 0x40000 →
    (∀ i < n, inside.flash m (flashStart (inside.memory m) + i) = 0xFF) →
    inside.flash (repeatWhile (fun fctl => fctl &&& 0x80 ≠ 0) (bus.load DUP_FCTL) fuel
      (bus.store DUP_FCTL 0x06 (bus.store DUP_DMAARM CH_BUF0_TO_FLASH m))).2 =
        store (inside.flash m) (flashStart (inside.memory m)) (load (inside.memory m) src n)
  load_config : ∀ a m, inside.debugConfig (bus.load a m).2 = inside.debugConfig m
  erase : ∀ m a, inside.flash (bus.pollErase fuel m).2 a = 0xFF
  config : ∀ v m, inside.debugConfig (bus.config v m).2 = v
  config_flash : ∀ v m, inside.flash (bus.config v m).2 = inside.flash m

/-- The device is never busy for longer than `fuel` polls. -/
structure Settles {μ : Type} (bus : Bus μ) (fuel : Nat) : Prop where
  erase : ∀ m, (bus.pollErase fuel m).1.isSome
  program : ∀ src addr m, (bus.pollBlock fuel src addr m).1.isSome

/-- The device as the programs on the serial line see it. -/
def busChip {μ : Type} (bus : Bus μ) (inside : Inside μ) (fuel : Nat) : Chip μ where
  xdata m a := (bus.load a m).1
  write_xdata_memory a v m := bus.store a v m
  chip_erase m := (bus.pollErase fuel m).2
  write_config v m := (bus.config v m).2
  write_flash_memory_block src addr n m := (bus.pollBlock fuel (load src 0 n) addr m).2
  flash := inside.flash

theorem HIBYTE_value {w : Nat} (hw : w < 0x10000) : (HIBYTE w).toNat = w / 256 := by
  have hword : (UInt16.ofNat w).toNat = w := by
    rw [UInt16.toNat_ofNat']
    exact Nat.mod_eq_of_lt hw
  have hshift : w >>> 8 = w / 256 := Nat.shiftRight_eq_div_pow w 8
  rw [HIBYTE, hword, hshift, UInt8.toNat_ofNat']
  exact Nat.mod_eq_of_lt (by omega)

theorem word_bytes {w : Nat} (hw : w < 0x10000) : word (HIBYTE w) (LOBYTE w) = w := by
  have hlow : (LOBYTE w).toNat = w % 256 := UInt8.toNat_ofNat'
  rw [word, HIBYTE_value hw, hlow]
  exact Nat.div_add_mod' w 256

/-- A length of at most thirteen bits leaves the upper bits of its field clear. -/
theorem HIBYTE_mask {w : Nat} (hw : w < 0x2000) : HIBYTE w &&& 0x1F = HIBYTE w := by
  have hmask : w / 256 &&& 0x1F = w / 256 % 32 := Nat.and_two_pow_sub_one_eq_mod _ 5
  rw [← UInt8.toNat_inj, UInt8.toNat_and, HIBYTE_value (by omega)]
  exact hmask.trans (Nat.mod_eq_of_lt (by omega))

theorem next_toNat {a : UInt16} (h : a.toNat + 1 < 65536) : (a + 1).toNat = a.toNat + 1 := by
  rw [UInt16.toNat_add]
  exact Nat.mod_eq_of_lt h

section controls

variable {μ : Type} {bus : Bus μ} {inside : Inside μ} {fuel : Nat}

/-- A block of RAM holds what is written to it. -/
theorem storeAll_memory (hcontrols : Controls bus inside fuel) (a : UInt16) (values : List UInt8)
    (m : μ) (hram : a.toNat + values.length ≤ 0x1F00) :
    inside.memory (bus.storeAll a values m) = store (inside.memory m) a.toNat values := by
  induction values generalizing a m with
  | nil => exact (store_nil _ _).symm
  | cons value rest ih =>
    rw [List.length_cons] at hram
    have hnext : (a + 1).toNat = a.toNat + 1 := next_toNat (by omega)
    rw [Bus.storeAll, ih (a + 1) _ (by omega), hcontrols.holds a value m (.inl (by omega)), hnext]
    exact (store_append (inside.memory m) a.toNat [value] rest).symm

/-- The memory a block of `n` bytes for an address is set up in. -/
def setUpMemory (d : Nat → UInt8) (n start_addr : Nat) : Nat → UInt8 :=
  let len := [HIBYTE n, LOBYTE n]
  let d := store (store d 0x0800 dma_desc_0) 0x0808 dma_desc_1
  let d := store (store d 0x0804 len) 0x080C len
  let d := store (store d DUP_DMA0CFGH.toNat [0x08]) DUP_DMA0CFGL.toNat [0x00]
  let d := store (store d DUP_DMA1CFGH.toNat [0x08]) DUP_DMA1CFGL.toNat [0x08]
  store (store d DUP_FADDRH.toNat [HIBYTE (start_addr >>> 2)]) DUP_FADDRL.toNat
    [LOBYTE (start_addr >>> 2)]

theorem setUp_memory (hcontrols : Controls bus inside fuel) (src : List UInt8) (start_addr : Nat)
    (m : μ) :
    inside.memory (bus.setUp src start_addr m) =
      setUpMemory (inside.memory m) src.length start_addr := by
  have hblock := storeAll_memory hcontrols
  have hholds := hcontrols.holds
  rw [Bus.setUp, hholds _ _ _ (by simp [Held]), hholds _ _ _ (by simp [Held]),
    hholds _ _ _ (by simp [Held]), hholds _ _ _ (by simp [Held]), hholds _ _ _ (by simp [Held]),
    hholds _ _ _ (by simp [Held]), hblock (ADDR_DMA_DESC_1 + 4) _ _ (Nat.le_of_ble_eq_true rfl),
    hblock (ADDR_DMA_DESC_0 + 4) _ _ (Nat.le_of_ble_eq_true rfl), hblock _ _ _ (by decide),
    hblock _ _ _ (by decide)]
  rfl

theorem descriptorAt_load {d : Nat → UInt8} {a : Nat} {s₁ s₀ d₁ d₀ l₁ l₀ trigger flags : UInt8}
    (h : load d a 8 = [s₁, s₀, d₁, d₀, l₁, l₀, trigger, flags]) :
    descriptorAt d a = ⟨word s₁ s₀, word d₁ d₀, word (l₁ &&& 0x1F) l₀, trigger, flags⟩ := by
  simp only [load_succ, load_zero, List.cons.injEq, and_true, Nat.add_assoc] at h
  obtain ⟨rfl, rfl, rfl, rfl, rfl, rfl, rfl, rfl⟩ := h
  rfl

/-- The descriptors and the address as the controllers find them in that memory. -/
theorem setUpMemory_channels (d : Nat → UInt8) (n start_addr : Nat) (hn : n < 0x2000)
    (haddr : start_addr < 0x40000) (hword : 4 ∣ start_addr) :
    channel0 (setUpMemory d n start_addr) = ⟨DUP_DBGDATA.toNat, 0, n, 31, 0x11⟩ ∧
      channel1 (setUpMemory d n start_addr) = ⟨0, DUP_FWDATA.toNat, n, 18, 0x42⟩ ∧
      flashStart (setUpMemory d n start_addr) = start_addr := by
  have hlen : word (HIBYTE n &&& 0x1F) (LOBYTE n) = n := by
    rw [HIBYTE_mask hn, word_bytes (by omega)]
  have hstart : 4 * word (HIBYTE (start_addr >>> 2)) (LOBYTE (start_addr >>> 2)) = start_addr := by
    have hshift : start_addr >>> 2 = start_addr / 4 := Nat.shiftRight_eq_div_pow start_addr 2
    rw [word_bytes (by omega), hshift]
    exact Nat.mul_div_cancel' hword
  have hfirst : word 0x08 0x00 = 0x0800 := by decide
  have hsecond : word 0x08 0x08 = 0x0808 := by decide
  have hfrom : load (setUpMemory d n start_addr) 0x0800 8 =
      [HIBYTE DUP_DBGDATA.toNat, LOBYTE DUP_DBGDATA.toNat, 0, 0, HIBYTE n, LOBYTE n, 31, 0x11] := rfl
  have hto : load (setUpMemory d n start_addr) 0x0808 8 =
      [0, 0, HIBYTE DUP_FWDATA.toNat, LOBYTE DUP_FWDATA.toNat, HIBYTE n, LOBYTE n, 18, 0x42] := rfl
  have hdata : word (HIBYTE DUP_DBGDATA.toNat) (LOBYTE DUP_DBGDATA.toNat) = DUP_DBGDATA.toNat :=
    word_bytes (by decide)
  have hfwdata : word (HIBYTE DUP_FWDATA.toNat) (LOBYTE DUP_FWDATA.toNat) = DUP_FWDATA.toNat :=
    word_bytes (by decide)
  have hzero : word 0 0 = 0 := by decide
  have hdesc0 := descriptorAt_load hfrom
  have hdesc1 := descriptorAt_load hto
  rw [hlen, hdata, hzero] at hdesc0
  rw [hlen, hfwdata, hzero] at hdesc1
  exact ⟨(congrArg (descriptorAt _) hfirst).trans hdesc0,
    (congrArg (descriptorAt _) hsecond).trans hdesc1, hstart⟩

/-- The set-up writes RAM and the registers of the transfer only. -/
theorem storeAll_keeps (hcontrols : Controls bus inside fuel) (a : UInt16) (values : List UInt8)
    (m : μ) (hram : a.toNat + values.length ≤ 0x1F00) :
    inside.flash (bus.storeAll a values m) = inside.flash m ∧
      inside.debugConfig (bus.storeAll a values m) = inside.debugConfig m := by
  induction values generalizing a m with
  | nil => exact ⟨rfl, rfl⟩
  | cons value rest ih =>
    rw [List.length_cons] at hram
    have hnext : (a + 1).toNat = a.toNat + 1 := next_toNat (by omega)
    have hother : a ≠ DUP_FCTL := by
      rintro rfl
      have hvalue : DUP_FCTL.toNat = 0x6270 := rfl
      omega
    obtain ⟨hflash, hconfig⟩ := ih (a + 1) (bus.store a value m) (by omega)
    exact ⟨hflash.trans (hcontrols.store_flash a value m hother),
      hconfig.trans (hcontrols.store_config a value m)⟩

theorem setUp_keeps (hcontrols : Controls bus inside fuel) (src : List UInt8) (start_addr : Nat)
    (m : μ) :
    inside.flash (bus.setUp src start_addr m) = inside.flash m ∧
      inside.debugConfig (bus.setUp src start_addr m) = inside.debugConfig m := by
  have hblock := storeAll_keeps hcontrols
  have hflash := hcontrols.store_flash
  have hconfig := hcontrols.store_config
  constructor
  · rw [Bus.setUp, hflash _ _ _ (by decide), hflash _ _ _ (by decide), hflash _ _ _ (by decide),
      hflash _ _ _ (by decide), hflash _ _ _ (by decide), hflash _ _ _ (by decide),
      (hblock (ADDR_DMA_DESC_1 + 4) _ _ (Nat.le_of_ble_eq_true rfl)).1,
      (hblock (ADDR_DMA_DESC_0 + 4) _ _ (Nat.le_of_ble_eq_true rfl)).1,
      (hblock _ _ _ (by decide)).1, (hblock _ _ _ (by decide)).1]
  · rw [Bus.setUp, hconfig, hconfig, hconfig, hconfig, hconfig, hconfig,
      (hblock (ADDR_DMA_DESC_1 + 4) _ _ (Nat.le_of_ble_eq_true rfl)).2,
      (hblock (ADDR_DMA_DESC_0 + 4) _ _ (Nat.le_of_ble_eq_true rfl)).2,
      (hblock _ _ _ (by decide)).2, (hblock _ _ _ (by decide)).2]

/-- The bytes of a burst stay clear of the second descriptor and of the registers. -/
theorem channel1_behind (d : Nat → UInt8) {src : List UInt8} (hsrc : src.length ≤ 0x0800)
    (hpointer : word (d DUP_DMA1CFGH.toNat) (d DUP_DMA1CFGL.toNat) = 0x0808) :
    channel1 (store d 0 src) = channel1 d ∧ flashStart (store d 0 src) = flashStart d := by
  have hbehind : ∀ i, 0x0800 ≤ i → store d 0 src i = d i :=
    fun i hi => store_of_ge d src (by omega)
  have hregister : ∀ a : UInt16, 0x0800 ≤ a.toNat → store d 0 src a.toNat = d a.toNat :=
    fun a ha => hbehind _ ha
  constructor
  · rw [channel1, channel1, hregister _ (by decide), hregister _ (by decide), hpointer,
      descriptorAt, descriptorAt]
    simp only [hbehind _ (by decide : 0x0800 ≤ 0x0808), hbehind _ (by decide : 0x0800 ≤ 0x0808 + 1),
      hbehind _ (by decide : 0x0800 ≤ 0x0808 + 2), hbehind _ (by decide : 0x0800 ≤ 0x0808 + 3),
      hbehind _ (by decide : 0x0800 ≤ 0x0808 + 4), hbehind _ (by decide : 0x0800 ≤ 0x0808 + 5),
      hbehind _ (by decide : 0x0800 ≤ 0x0808 + 6), hbehind _ (by decide : 0x0800 ≤ 0x0808 + 7)]
  · rw [flashStart, flashStart, hregister _ (by decide), hregister _ (by decide)]

/-- A block of whole words of erased flash is programmed, and the flash left alone around it. -/
theorem pollBlock_flash (hcontrols : Controls bus inside fuel) {src : List UInt8} {start_addr : Nat}
    {m : μ} (hconfig : inside.debugConfig m = 0x22) (hpos : 0 < src.length)
    (hwords : 4 ∣ src.length) (hsrc : src.length ≤ 0x0800) (hword : 4 ∣ start_addr)
    (hfits : start_addr + src.length ≤ 0x40000)
    (herased : ∀ i < src.length, inside.flash m (start_addr + i) = 0xFF) :
    inside.flash (bus.pollBlock fuel src start_addr m).2 = store (inside.flash m) start_addr src := by
  have hmemory := setUp_memory hcontrols src start_addr m
  obtain ⟨hflash, hconfig'⟩ := setUp_keeps hcontrols src start_addr m
  obtain ⟨hchannel0, hchannel1, hstart⟩ := setUpMemory_channels (inside.memory m)
    src.length start_addr (by omega) (by omega) hword
  have hpointer : word 0x08 0x08 = 0x0808 := by decide
  obtain ⟨hbehind1, hbehind⟩ :=
    channel1_behind (setUpMemory (inside.memory m) src.length start_addr) hsrc hpointer
  let m₁ := bus.setUp src start_addr m
  let m₂ := (bus.burst src (bus.store DUP_DMAARM CH_DBG_TO_BUF0 m₁)).2
  have hsent : inside.memory m₂ =
      store (setUpMemory (inside.memory m) src.length start_addr) 0 src := by
    rw [← hmemory]
    exact hcontrols.burst src 0 m₁ (hconfig'.trans hconfig) (List.length_pos_iff.mp hpos)
      (hmemory ▸ hchannel0) (by omega)
  have hflash₂ : inside.flash m₂ = inside.flash m :=
    (hcontrols.burst_flash _ _).trans ((hcontrols.store_flash _ _ _ (by decide)).trans hflash)
  have hconfig₂ : inside.debugConfig m₂ = 0x22 :=
    (hcontrols.burst_config _ _).trans
      ((hcontrols.store_config _ _ _).trans (hconfig'.trans hconfig))
  have haddress : flashStart (inside.memory m₂) = start_addr := by rw [hsent, hbehind, hstart]
  have hprogram := hcontrols.program 0 src.length m₂ hconfig₂ (by rw [hsent, hbehind1, hchannel1])
    hpos hwords (by omega) (by rwa [haddress]) (by rwa [haddress, hflash₂])
  rw [haddress, hflash₂, hsent, load_store] at hprogram
  exact hprogram

theorem pollBlock_config (hcontrols : Controls bus inside fuel) {src : List UInt8}
    {start_addr : Nat} {m : μ} (hconfig : inside.debugConfig m = 0x22) :
    inside.debugConfig (bus.pollBlock fuel src start_addr m).2 = 0x22 := by
  refine repeatWhile_keeps (P := fun m => inside.debugConfig m = 0x22) (fun m hm => ?_) fuel ?_
  · rw [hcontrols.load_config, hm]
  · rw [Bus.startBlock, hcontrols.store_config, hcontrols.store_config, hcontrols.burst_config,
      hcontrols.store_config, (setUp_keeps hcontrols src start_addr m).2, hconfig]

/-- The programmer's operations on such a device erase and program its flash as the session
relies on. -/
theorem busChip_flashes (hcontrols : Controls bus inside fuel) :
    (busChip bus inside fuel).Flashes fun m => inside.debugConfig m = 0x22 where
  erases := hcontrols.erase
  enables := hcontrols.config 0x22
  config_flash := hcontrols.config_flash
  programs src addr n m hconfig hpos hwords hn hword hfits herased := by
    have hlength : (load src 0 n).length = n := load_length src 0 n
    refine ⟨pollBlock_config hcontrols hconfig, ?_⟩
    rw [BUFFER_SIZE] at hn
    exact pollBlock_flash hcontrols hconfig (by omega) (by rwa [hlength]) (by omega) hword
      (by rwa [hlength]) (by rwa [hlength])

/-- XDATA from 0x8000 on shows the bank of the flash selected in MEMCTR. -/
def ShowsBanks (bus : Bus μ) (inside : Inside μ) : Prop :=
  ∀ (bank offset : Nat) (m : μ), bank < 8 → offset < 0x8000 →
    (bus.load (UInt16.ofNat (0x8000 + offset)) (bus.store DUP_MEMCTR (UInt8.ofNat bank) m)).1 =
      inside.flash m (bank * 0x8000 + offset)

theorem busChip_showsBank (hcontrols : Controls bus inside fuel) (hbanks : ShowsBanks bus inside) :
    (busChip bus inside fuel).ShowsBank where
  shows m bank offset := hbanks bank offset m
  keeps m bank := hcontrols.store_flash DUP_MEMCTR bank m (by decide)

end controls

end concretid.flasher.debug
