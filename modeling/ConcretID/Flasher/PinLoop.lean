import ConcretID.Library.Simulation
import ConcretID.Flasher.FlashController

namespace concretid.flasher.debug

open calls duplex memory

/-- What GET_INFO puts into the buffer. -/
def chipInfo : Sketch (List UInt8) := do
  let chipid ← read_xdata_memory DUP_CHIPID
  let chver ← read_xdata_memory DUP_CHVER
  let chipinfo0 ← read_xdata_memory DUP_CHIPINFO0
  let chipinfo1 ← read_xdata_memory DUP_CHIPINFO1
  return [chipid, chver, (chipinfo0 >>> 4) &&& 0x05, (chipinfo1 &&& 0x07) + 1]

/-- `while (read_count)` of CMD_SERIAL_START_READ. -/
def readLoop (read_count : Nat) (read_bank : UInt8) (read_xaddr : { x : Nat // x < 0x8000 })
    (read_total : Nat) (buffer : Nat → UInt8) : Sketch (Nat × (Nat → UInt8)) :=
  if read_count = 0 then
    return (read_total, buffer)
  else do
    let read_len :=
      if read_xaddr.val + read_count < 0x8000 then read_count else 0x8000 - read_xaddr.val
    let values ← read_flash_memory_block read_bank read_xaddr.val read_len
    readLoop (read_count - read_len) (read_bank + 1) ⟨0, by decide⟩ (read_total + read_len)
      (store buffer read_total values)
termination_by read_count
decreasing_by
  have := read_xaddr.property
  split <;> omega

theorem xaddr_lt (read_addr : Nat) : read_addr &&& 0x7fff < 0x8000 :=
  Nat.lt_of_le_of_lt Nat.and_le_right (by decide)

def startRead (read_addr read_count : Nat) (buffer : Nat → UInt8) :
    Sketch (Nat × (Nat → UInt8)) :=
  let read_bank := UInt8.ofNat (read_addr >>> 15)
  let read_xaddr := ⟨read_addr &&& 0x7fff, xaddr_lt read_addr⟩
  readLoop read_count read_bank read_xaddr 0 buffer

/-- One pass of `loop()` with the pins of the board. A device that is still busy after `fuel`
polls keeps the sketch where it is. -/
def loop {σ : Type} (t : Dup σ) (fuel : Nat) (d : Device (Board σ)) :
    Proc UInt8 Event (Device (Board σ)) := do
  let comando ← receberComando .device
  if comando = CMD_SERIAL_GET_INFO then
    let info := chipInfo.run t.answer d.chip
    let buffer := store d.buffer 0 info.1
    enviarDados buffer 4
    return { d with
      buffer := buffer
      chip := info.2 }
  else if comando = CMD_SERIAL_SET_WRITE_ADDR then
    let received ← receberDados .device d.buffer
    enviarComando CMD_SERIAL_ACK
    return { d with
      buffer := received.2
      write_addr := takeAddr received.2 }
  else if comando = CMD_SERIAL_SET_WRITE_BUFFER then
    let received ← receberDados .device d.buffer
    enviarComando CMD_SERIAL_ACK
    return { d with
      buffer := received.2
      write_count := received.1 }
  else if comando = CMD_SERIAL_SET_READ_ADDR then
    let received ← receberDados .device d.buffer
    enviarComando CMD_SERIAL_ACK
    return { d with
      buffer := received.2
      read_addr := takeAddr received.2 }
  else if comando = CMD_SERIAL_ENABLE_DMA then
    let configured := (debug_command CMD_WR_CONFIG [0x22]).run t.answer d.chip
    enviarComando CMD_SERIAL_ACK
    return { d with chip := configured.2 }
  else if comando = CMD_SERIAL_START_WRITE then
    let src := load d.buffer 0 d.write_count
    record (.programmed d.write_addr src)
    let written := (write_flash_memory_block fuel src d.write_addr).run t.answer d.chip
    if written.1.isNone then
      .exit
    else
      enviarComando CMD_SERIAL_ACK
      return { d with chip := written.2 }
  else if comando = CMD_SERIAL_START_READ then
    let received ← receberDados .device d.buffer
    let read := (startRead d.read_addr (takeCount received.2) received.2).run t.answer d.chip
    enviarDados read.1.2 (UInt16.ofNat read.1.1)
    enviarComando CMD_SERIAL_ACK
    return { d with
      buffer := read.1.2
      chip := read.2 }
  else if comando = CMD_SERIAL_ERASE_CHIP then
    let erased := (chip_erase fuel).run t.answer d.chip
    if erased.1.isNone then
      .exit
    else
      enviarComando CMD_SERIAL_ACK
      return { d with chip := erased.2 }
  else
    return d

/-- Reading the identity of the device or its flash changes nothing in it. -/
def PlainReads {μ : Type} (bus : Bus μ) : Prop :=
  ∀ (a : UInt16) (m : μ), 0x8000 ≤ a.toNat ∨
    a = DUP_CHIPID ∨ a = DUP_CHVER ∨ a = DUP_CHIPINFO0 ∨ a = DUP_CHIPINFO1 →
    (bus.load a m).2 = m

section refines

variable {σ μ : Type} {t : Dup σ} {bus : Bus μ} {idle : σ → Cpu μ → Prop} (inside : Inside μ)
  (fuel : Nat)

theorem chipInfo_refines (hdebugs : t.Debugs bus idle) (hplain : PlainReads bus) :
    chipInfo.Refines t.answer (OnBus idle)
      fun m => (flasher.chipInfo (busChip bus inside fuel) m, m) := by
  intro b m hb
  have hread := read_xdata_memory_refines hdebugs
  obtain ⟨hid, hb⟩ := hread DUP_CHIPID b m hb
  rw [hplain DUP_CHIPID m (.inr (.inl rfl))] at hb
  obtain ⟨hver, hb⟩ := hread DUP_CHVER _ m hb
  rw [hplain DUP_CHVER m (.inr (.inr (.inl rfl)))] at hb
  obtain ⟨hinfo0, hb⟩ := hread DUP_CHIPINFO0 _ m hb
  rw [hplain DUP_CHIPINFO0 m (.inr (.inr (.inr (.inl rfl))))] at hb
  obtain ⟨hinfo1, hb⟩ := hread DUP_CHIPINFO1 _ m hb
  rw [hplain DUP_CHIPINFO1 m (.inr (.inr (.inr (.inr rfl))))] at hb
  simp only [chipInfo, run_bind, run_pure, hid, hver, hinfo0, hinfo1]
  exact ⟨rfl, hb⟩

/-- Within a bank, nothing but the values read depends on the loads. -/
theorem loadAll_plain (hplain : PlainReads bus) (a : UInt16) (n : Nat) (m : μ)
    (hlow : 0x8000 ≤ a.toNat) (hhigh : a.toNat + n ≤ 0x10000) :
    bus.loadAll a n m = (movxLoop (busChip bus inside fuel) m a n, m) := by
  induction n generalizing a with
  | zero => rfl
  | succ n ih =>
    rw [Bus.loadAll, hplain a m (.inl hlow)]
    cases n with
    | zero => rfl
    | succ n =>
      have hnext : (a + 1).toNat = a.toNat + 1 := next_toNat (by omega)
      rw [ih (a + 1) (by omega) (by omega)]
      rfl

theorem readLoop_refines (hdebugs : t.Debugs bus idle) (hplain : PlainReads bus)
    (read_count : Nat) (read_bank : UInt8) (read_xaddr : { x : Nat // x < 0x8000 })
    (read_total : Nat) (buffer : Nat → UInt8) :
    (readLoop read_count read_bank read_xaddr read_total buffer).Refines t.answer (OnBus idle)
      fun m =>
        let r := flasher.readLoop (busChip bus inside fuel) read_count read_bank read_xaddr read_total
          buffer m
        ((r.1, r.2.1), r.2.2) := by
  induction hn : read_count using Nat.strongRecOn
    generalizing read_count read_bank read_xaddr read_total buffer with
  | _ n ih =>
    subst hn
    intro b m hb
    dsimp only
    rw [readLoop, flasher.readLoop]
    split
    · exact ⟨rfl, hb⟩
    · rename_i hcount
      have hxaddr : read_xaddr.val < 0x8000 := read_xaddr.property
      dsimp only
      generalize hlen : (if read_xaddr.val + read_count < 0x8000 then read_count
        else 0x8000 - read_xaddr.val) = read_len
      have hwithin : 0 < read_len ∧ read_xaddr.val + read_len ≤ 0x8000 := by
        rw [← hlen]
        split <;> omega
      have haddr : (UInt16.ofNat (0x8000 + read_xaddr.val)).toNat = 0x8000 + read_xaddr.val := by
        rw [UInt16.toNat_ofNat']
        exact Nat.mod_eq_of_lt (show 0x8000 + read_xaddr.val < 65536 by omega)
      obtain ⟨hvalues, hread⟩ :=
        read_flash_memory_block_refines hdebugs read_bank read_xaddr.val read_len b m hb
      have hloads := loadAll_plain inside fuel hplain
        (UInt16.ofNat (0x8000 + read_xaddr.val)) read_len (bus.store DUP_MEMCTR read_bank m)
        (by omega) (by omega)
      simp only [hloads] at hvalues hread
      rw [run_bind, hvalues]
      exact ih (read_count - read_len) (by omega) (read_count - read_len) (read_bank + 1)
        ⟨0, by decide⟩ (read_total + read_len) _ rfl _ _ hread

theorem startRead_refines (hdebugs : t.Debugs bus idle) (hplain : PlainReads bus)
    (read_addr read_count : Nat) (buffer : Nat → UInt8) :
    (startRead read_addr read_count buffer).Refines t.answer (OnBus idle)
      fun m =>
        let r := flasher.startRead (busChip bus inside fuel) read_addr read_count buffer m
        ((r.1, r.2.1), r.2.2) :=
  readLoop_refines inside fuel hdebugs hplain read_count _ _ 0 buffer

variable {inside fuel}

/-- The programmer over the pins as the programmer over the device: the same buffer and
registers, and a board at rest with the device on it. -/
def DeviceOn (idle : σ → Cpu μ → Prop) (d : Device μ) (d' : Device (Board σ)) : Prop :=
  ∃ b, OnBus idle b d.chip ∧ d' = ⟨d.buffer, d.write_addr, d.write_count, d.read_addr, b⟩

/-- A block the length of a burst can tell. -/
def Sendable : Event → Prop
  | .programmed _ bytes => bytes.length < 2048
  | _ => True

theorem loop_related (hdebugs : t.Debugs bus idle) (hplain : PlainReads bus)
    (hsettles : Settles bus fuel) (d : Device μ) (d' : Device (Board σ))
    (hd : DeviceOn idle d d') :
    Related (DeviceOn idle) Sendable (flasher.loop (busChip bus inside fuel) d) (loop t fuel d') := by
  obtain ⟨b, hb, rfl⟩ := hd
  have hon : ∀ (buffer : Nat → UInt8) (write_addr write_count read_addr : Nat) {m : μ} {b : Board σ},
      OnBus idle b m → Related (β := UInt8) (DeviceOn idle) Sendable
        (.pure ⟨buffer, write_addr, write_count, read_addr, m⟩)
        (.pure ⟨buffer, write_addr, write_count, read_addr, b⟩) := by
    intro buffer write_addr write_count read_addr m b hb
    exact .pure ⟨b, hb, rfl⟩
  refine Related.after _ fun comando => .ite ?_ (.ite ?_ (.ite ?_ (.ite ?_ (.ite ?_ (.ite ?_ (.ite ?_
    (.ite ?_ (hon _ _ _ _ hb))))))))
  · obtain ⟨hinfo, hb'⟩ :=
      chipInfo_refines inside fuel hdebugs hplain b d.chip hb
    dsimp only
    rw [hinfo]
    exact Related.after _ fun _ => hon _ _ _ _ hb'
  · exact Related.after _ fun _ => Related.after _ fun _ => hon _ _ _ _ hb
  · exact Related.after _ fun _ => Related.after _ fun _ => hon _ _ _ _ hb
  · exact Related.after _ fun _ => Related.after _ fun _ => hon _ _ _ _ hb
  · obtain ⟨-, hb'⟩ := plain_refines hdebugs (.wrConfig 0x22) (bus.config 0x22)
      rfl trivial (fun _ => rfl) b d.chip hb
    exact Related.after _ fun _ => hon _ _ _ _ hb'
  · refine .emit fun hfits => ?_
    obtain ⟨hwritten, hb'⟩ := write_flash_memory_block_refines hdebugs fuel
      (load d.buffer 0 d.write_count) d.write_addr hfits b d.chip hb
    have hdone := hsettles.program (load d.buffer 0 d.write_count) d.write_addr d.chip
    rw [← hwritten] at hdone
    dsimp only
    rw [if_neg (by rwa [Option.isNone_iff_eq_none, ← Ne, ← Option.isSome_iff_ne_none])]
    exact Related.after _ fun _ => Related.after _ fun _ => hon _ _ _ _ hb'
  · refine Related.after _ fun received => ?_
    obtain ⟨hread, hb'⟩ := startRead_refines inside fuel hdebugs hplain
      d.read_addr (takeCount received.2) received.2 b d.chip hb
    dsimp only
    rw [hread]
    exact Related.after _ fun _ => Related.after _ fun _ => hon _ _ _ _ hb'
  · obtain ⟨herased, hb'⟩ := chip_erase_refines hdebugs fuel b d.chip hb
    have hdone := hsettles.erase d.chip
    rw [← herased] at hdone
    dsimp only
    rw [if_neg (by rwa [Option.isNone_iff_eq_none, ← Ne, ← Option.isSome_iff_ne_none])]
    exact Related.after _ fun _ => hon _ _ _ _ hb'

end refines

/-- A program within a pass: none of its receives records a single zero it has taken. -/
inductive Begun {α : Type} : Proc UInt8 Event α → Prop where
  | pure (a : α) : Begun (.pure a)
  | exit : Begun .exit
  | send {b : UInt8} {next : Proc UInt8 Event α} (h : Begun next) : Begun (.send b next)
  | emit {e : Event} {next : Proc UInt8 Event α} (h : Begun next) : Begun (.emit e next)
  | recv {next : UInt8 → Proc UInt8 Event α} (hzero : ∀ k, next 0 ≠ .emit (.received [0]) k)
      (h : ∀ b, Begun (next b)) : Begun (.recv next)

theorem Begun.move {α : Type} {p p' : Proc UInt8 Event α} (h : Begun p) {x x' out : List UInt8}
    {log : List Event} (hmove : p.move x = some (p', x', out, log)) : Begun p' := by
  cases h with
  | pure a => cases hmove
  | exit => cases hmove
  | send hnext => cases hmove; exact hnext
  | emit hnext => cases hmove; exact hnext
  | recv _ hnext =>
    cases x with
    | nil => cases hmove
    | cons b x => cases hmove; exact hnext b

theorem begun_writeAll {α : Type} (bytes : List UInt8) {f : Unit → Proc UInt8 Event α}
    (h : Begun (f ())) : Begun (writeAll bytes >>= f) := by
  induction bytes with
  | nil => exact h
  | cons b rest ih => exact .send ih

theorem begun_enviarComando {α : Type} (comando : UInt8) {f : Unit → Proc UInt8 Event α}
    (h : Begun (f ())) : Begun (enviarComando comando >>= f) :=
  .send (.send (.emit h))

theorem begun_enviarDados {α : Type} (buffer : Nat → UInt8) (len : UInt16)
    {f : Unit → Proc UInt8 Event α} (h : Begun (f ())) : Begun (enviarDados buffer len >>= f) := by
  have hrest : Begun ((writeAll (load buffer 0 len.toNat) >>= fun _ => do
      enviarChecksum buffer len
      record (.sent (dadosFrame buffer len))) >>= f) := by
    rw [Proc.bind_assoc]
    exact begun_writeAll _ (.send (.send (.emit h)))
  exact .send (.send (.send hrest))

/-- Bytes read in front of a program that receives are themselves in front of a receive. -/
theorem begun_readMany {α : Type} (n : Nat) {f : List UInt8 → Proc UInt8 Event α}
    (h : ∀ bytes, ∃ next, f bytes = .recv next ∧ Begun (f bytes)) :
    ∃ next, readMany n >>= f = .recv next ∧ Begun (readMany n >>= f) := by
  induction n generalizing f with
  | zero => exact h []
  | succ n ih =>
    have hrest : ∀ b, ∃ next, readMany n >>= (fun rest => f (b :: rest)) = .recv next ∧
        Begun (readMany n >>= fun rest => f (b :: rest)) := fun b => ih fun rest => h (b :: rest)
    have hunfold : readMany (n + 1) >>= f = .recv fun b => readMany n >>= fun rest => f (b :: rest) :=
      congrArg Proc.recv
        (funext fun b => Proc.bind_assoc (readMany n) (fun rest => .pure (b :: rest)) f)
    refine ⟨_, hunfold, ?_⟩
    rw [hunfold]
    refine .recv (fun k => ?_) fun b => (hrest b).elim fun _ hb => hb.2
    obtain ⟨next, hnext, -⟩ := hrest 0
    rw [hnext]
    exact nofun

/-- The same with another program behind both. -/
theorem begun_block {α γ : Type} (n : Nat) {g : List UInt8 → Proc UInt8 Event γ}
    {f : γ → Proc UInt8 Event α}
    (h : ∀ bytes, ∃ next, g bytes >>= f = .recv next ∧ Begun (g bytes >>= f)) :
    (∀ k, (readMany n >>= g) >>= f ≠ .emit (.received [0]) k) ∧
      Begun ((readMany n >>= g) >>= f) := by
  rw [Proc.bind_assoc]
  obtain ⟨next, hnext, hbegun⟩ := begun_readMany n h
  refine ⟨fun k => ?_, hbegun⟩
  rw [hnext]
  exact nofun

theorem begun_receberDados {α : Type} (buffer : Nat → UInt8)
    {f : Nat × (Nat → UInt8) → Proc UInt8 Event α} (h : ∀ r, Begun (f r)) :
    Begun (receberDados .device buffer >>= f) := by
  have hchecked : ∀ (bytes : List UInt8) (len : UInt16) (b c d : UInt8),
      ∃ next, (do
        let CRC_LSB ← read
        let CRC_MSB ← read
        record (.received ([b, c, d] ++ bytes ++ [CRC_LSB, CRC_MSB]))
        if checarChecksum (store buffer 0 bytes) len CRC_LSB CRC_MSB then
          return (len.toNat, store buffer 0 bytes)
        else
          abort .device "Erro na comunicacao! Erro Checksum de dados\n") >>= f = .recv next ∧
        Begun (.recv next) := by
    intro bytes len b c d
    refine ⟨_, rfl, .recv nofun fun CRC_LSB => .recv ?_ fun CRC_MSB => .emit ?_⟩
    · intro k hk
      injection hk with hevent
      injection hevent with hbytes
      simp at hbytes
    · simp only [Proc.bind]
      split
      · exact h _
      · exact .exit
  have hblock : ∀ (n : Nat) (len : UInt16) (b c d : UInt8), _ := fun n len b c d =>
    begun_block n (f := f) fun bytes => by
      obtain ⟨next, hnext, hbegun⟩ := hchecked bytes len b c d
      exact ⟨next, hnext, hnext ▸ hbegun⟩
  refine .recv ?_ fun tipo => ?_
  · simp only [Proc.bind]
    nofun
  · simp only [Proc.bind]
    split
    · exact .emit .exit
    · refine .recv nofun fun len_LSB => .recv ?_ fun len_MSB => ?_
      · exact (hblock _ _ _ _ _).1
      · exact (hblock _ _ _ _ _).2

theorem begun_ite {α : Type} {c : Prop} [Decidable c] {p q : Proc UInt8 Event α} (hp : Begun p)
    (hq : Begun q) : Begun (if c then p else q) := by
  split
  · exact hp
  · exact hq

/-- A pass begins by waiting for a command; from the first byte on it has begun. -/
theorem loop_begins {κ : Type} (chip : Chip κ) (d : Device κ) :
    ∃ next, flasher.loop chip d = .recv next ∧ next 0 = .emit (.received [0]) .exit ∧
      ∀ b, Begun (next b) := by
  refine ⟨_, rfl, rfl, fun b => ?_⟩
  simp only [Proc.bind]
  split
  · exact .emit .exit
  · refine .recv ?_ fun comando => .emit ?_
    · intro k hk
      injection hk with hevent
      injection hevent with hbytes
      simp at hbytes
    · refine begun_ite (begun_enviarDados _ _ (.pure _)) (begun_ite ?_ (begun_ite ?_ (begun_ite ?_
        (begun_ite (begun_enviarComando _ (.pure _)) (begun_ite ?_ (begun_ite ?_ (begun_ite
          (begun_enviarComando _ (.pure _)) (.pure _))))))))
      · exact begun_receberDados d.buffer fun _ => begun_enviarComando _ (.pure _)
      · exact begun_receberDados d.buffer fun _ => begun_enviarComando _ (.pure _)
      · exact begun_receberDados d.buffer fun _ => begun_enviarComando _ (.pure _)
      · exact .emit (begun_enviarComando _ (.pure _))
      · exact begun_receberDados d.buffer fun _ => begun_enviarDados _ _ (begun_enviarComando _ (.pure _))

/-- An unknown command leaves the device as it is, so that the pass tells the device. -/
theorem loop_injective {κ : Type} (chip : Chip κ) {d e : Device κ}
    (h : flasher.loop chip d = flasher.loop chip e) : d = e := by
  injection h with hnext
  have hfirst := congrFun hnext 0x01
  injection hfirst with hnext
  have hsecond := congrFun hnext 0xFF
  injection hsecond with _ hrest
  injection hrest

theorem loop_simulates {σ μ : Type} {t : Dup σ} {bus : Bus μ} {idle : σ → Cpu μ → Prop}
    {inside : Inside μ} {fuel : Nat} (hdebugs : t.Debugs bus idle) (hplain : PlainReads bus)
    (hsettles : Settles bus fuel) :
    Simulates (flasher.loop (busChip bus inside fuel)) (loop t fuel) (DeviceOn idle) Sendable
      Begun where
  related := loop_related hdebugs hplain hsettles
  starts d x p x' out log hmove := by
    obtain ⟨next, hnext, -, hbegun⟩ := loop_begins (busChip bus inside fuel) d
    rw [hnext] at hmove
    cases x with
    | nil => cases hmove
    | cons b x => cases hmove; exact hbegun b
  goes_on _ _ _ _ _ _ hbegun hmove := hbegun.move hmove
  fresh d hbegun := by
    obtain ⟨next, hnext, hzero, -⟩ := loop_begins (busChip bus inside fuel) d
    rw [hnext] at hbegun
    cases hbegun with
    | recv hnot _ => exact hnot _ hzero
  injective d e := loop_injective _

end concretid.flasher.debug
