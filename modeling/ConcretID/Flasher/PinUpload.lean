import ConcretID.Flasher.PinLoop

namespace concretid.flasher.debug

open calls duplex memory

/-- `setup()`, but for the speed of the serial line: `some false` is `exit(1)`, and there is no
result while the oscillator is not stable. -/
def setup (fuel : Nat) : Sketch (Option Bool) := do
  programmer_init
  debug_init
  let id ← read_chip_id
  if id ≠ 0xA5 then
    return some false
  else
    write_xdata_memory DUP_CLKCONCMD 0x80
    let stable ← doWhile (fun status => status ≠ 0x80) (read_xdata_memory DUP_CLKCONSTA) fuel
    return stable.map fun _ => true

/-- The board when it is switched on. -/
def Board.off {σ : Type} (s : σ) : Board σ := ⟨fun _ => .INPUT, fun _ => false, s⟩

/-- Switched to the crystal, the device says so within `fuel` polls. -/
def Oscillates {μ : Type} (bus : Bus μ) (fuel : Nat) : Prop :=
  ∀ m, (repeatWhile (fun status => status ≠ 0x80) (bus.load DUP_CLKCONSTA) fuel
    (bus.store DUP_CLKCONCMD 0x80 m)).1.isSome

section setup

variable {σ μ : Type} {t : Dup σ} {bus : Bus μ} {idle : σ → Cpu μ → Prop} {fuel : Nat}

/-- The two clocks of `debug_init` while RESET_N is low. -/
theorem debug_init_run (s : σ) :
    (debug_init.run t.answer (programmer_init.run t.answer (Board.off s)).2).2.Rests .INPUT
      (t.reset true (t.fall none (t.rise (t.fall none (t.rise (t.reset false s)))))) :=
  ⟨rfl, rfl, rfl, rfl⟩

/-- A device that is a CC2530 is brought into debug mode and onto its crystal. -/
theorem setup_ready (hdebugs : t.Debugs bus idle) (hid : bus.id = 0xA5)
    (hoscillates : Oscillates bus fuel) (s : σ) :
    ((setup fuel).run t.answer (Board.off s)).1 = some true ∧
      ∃ m, OnBus idle ((setup fuel).run t.answer (Board.off s)).2 m := by
  obtain ⟨c, hidle⟩ := hdebugs.starts s
  have hreset := debug_init_run (t := t) s
  obtain ⟨hfirst, hsecond, hafter⟩ := asked_gives hdebugs .getChipId hidle trivial
  obtain ⟨hread, hrests⟩ := read_chip_id_run t hreset
  have hvalue : _ = (0xA5 : UInt8) := hread.trans (hfirst.trans hid)
  have hon := write_xdata_memory_refines hdebugs DUP_CLKCONCMD 0x80 _ c.mem
    ⟨c, ⟨_, hrests, hafter⟩, rfl⟩
  obtain ⟨hpolled, hpolled'⟩ := (read_xdata_memory_refines hdebugs DUP_CLKCONSTA).doWhile
    (fun status => status ≠ 0x80) fuel _ _ hon.2
  obtain ⟨status, hstatus⟩ := Option.isSome_iff_exists.mp (hoscillates c.mem)
  rw [hstatus] at hpolled
  rw [setup, run_bind, run_bind, run_bind, hvalue, if_neg (by decide), run_bind, run_bind, hpolled]
  exact ⟨rfl, _, hpolled'⟩

end setup

/-- A CC2530 at the other end of the debug lines. -/
structure IsCC2530 {σ μ : Type} (t : Dup σ) (bus : Bus μ) (idle : σ → Cpu μ → Prop)
    (inside : Inside μ) (fuel : Nat) : Prop where
  debugs : t.Debugs bus idle
  controls : Controls bus inside fuel
  plain : PlainReads bus
  settles : Settles bus fuel
  oscillates : Oscillates bus fuel
  id : bus.id = 0xA5
  chipid : ∀ m, (bus.load DUP_CHIPID m).1 = 0xA5

section upload

variable {σ μ : Type} {t : Dup σ} {bus : Bus μ} {idle : σ → Cpu μ → Prop} {inside : Inside μ}
  {fuel : Nat}

/-- Where the session over the device gets, the session over the pins gets. -/
theorem communicates_pins {α : Type} (hchip : IsCC2530 t bus idle inside fuel)
    {p q : Proc UInt8 Event α} {d d' : Device μ} {e : Device (Board σ)}
    {writes : List (Nat × List UInt8)} {prints : List Event}
    (h : Communicates (busChip bus inside fuel) p d q d' writes prints)
    (hwrites : ∀ b ∈ writes, b.2.length < 2048) (hd : DeviceOn idle d e) :
    ∃ sending serving e', DeviceOn idle d' e' ∧ Matched sending serving ∧
      programmed serving = writes ∧ shown sending = prints ∧
      Relation.ReflTransGen (Step (loop t fuel)) (resting (loop t fuel) p e [] [])
        (resting (loop t fuel) q e' sending serving) := by
  obtain ⟨sending, serving, hreach, hmatched, hprogrammed, hprints⟩ := h
  have hsendable : ∀ event ∈ serving, Sendable event := by
    intro event hevent
    cases event with
    | programmed addr bytes =>
      apply hwrites (addr, bytes)
      rw [← hprogrammed]
      exact List.mem_filterMap.mpr ⟨_, hevent, rfl⟩
    | _ => trivial
  obtain ⟨e', he', hrun⟩ :=
    (loop_simulates hchip.debugs hchip.plain hchip.settles).reaches hd hreach hsendable
  exact ⟨sending, serving, e', he', hmatched, hprogrammed, hprints, hrun⟩

theorem loop_waits (d : Device (Board σ)) : ∃ next, loop t fuel d = .recv next := ⟨_, rfl⟩

/-- The upload from the switch-on of the programmer, over its pins: the sketch gets through
`setup`, and in every order of steps the session with the host comes to one end, with every
frame taken whole, the padded file programmed once and nothing programmed after the question;
when the question is asked, the flash of the device holds the padded file and is erased behind
it. -/
theorem upload_over_pins (hchip : IsCC2530 t bus idle inside fuel) (s : σ) (file : List UInt8)
    (hfile : file.length ≤ 0x40000) (answer : UInt8) (buffer buffer2 deviceBuffer : Nat → UInt8) :
    ∃ (b : Board σ), (setup fuel).run t.answer (Board.off s) = (some true, b) ∧
      ∃ z, Leads (Step (loop t fuel))
          (resting (loop t fuel) (main file answer buffer buffer2) ⟨deviceBuffer, 0, 0, 0, b⟩ [] [])
          z ∧
        z.client = .pure () ∧ z.request = [] ∧ z.reply = [] ∧ Matched z.clientLog z.serverLog ∧
        ProgramsOnce (programmed z.serverLog) (padded file) ∧
        ∃ (written : Nat → UInt8) (d : Device (Board σ)) (m : μ) (sending serving : List Event),
          Relation.ReflTransGen (Step (loop t fuel))
            (resting (loop t fuel) (main file answer buffer buffer2) ⟨deviceBuffer, 0, 0, 0, b⟩ [] [])
            (resting (loop t fuel) (question file answer written buffer2) d sending serving) ∧
          programmed serving = programmed z.serverLog ∧ OnBus idle d.chip m ∧
          inside.flash m = store (fun _ => 0xFF) 0 (padded file) := by
  obtain ⟨hsetup, m, hon⟩ := setup_ready hchip.debugs hchip.id hchip.oscillates s
  obtain ⟨b, hb⟩ : ∃ b, b = ((setup fuel).run t.answer (Board.off s)).2 := ⟨_, rfl⟩
  rw [← hb] at hon
  refine ⟨b, Prod.ext hsetup hb.symm, ?_⟩
  let d₀ : Device μ := ⟨deviceBuffer, 0, 0, 0, m⟩
  have hd : DeviceOn idle d₀ ⟨deviceBuffer, 0, 0, 0, b⟩ := ⟨b, hon, rfl⟩
  have hid : (busChip bus inside fuel).xdata d₀.chip DUP_CHIPID ≠ 0 := by
    rw [show (busChip bus inside fuel).xdata d₀.chip DUP_CHIPID = 0xA5 from hchip.chipid m]
    decide
  obtain ⟨written, d₁, hasked, hflash⟩ := main_flashes (busChip_flashes hchip.controls) file
    hfile answer buffer buffer2 d₀ hid
  obtain ⟨d₂, prints', hanswered⟩ :=
    question_communicates (busChip bus inside fuel) file answer written buffer2 d₁ hfile
  have hshort : ∀ b ∈ blocks BUFFER_SIZE 0 (padded file), b.2.length < 2048 :=
    fun b hb => Nat.lt_of_le_of_lt (blocks_length_le (by decide) hb) (by decide)
  obtain ⟨sending, serving, e₁, ⟨b₁, hb₁, rfl⟩, -, hwrites, -, hrun⟩ :=
    communicates_pins hchip hasked hshort hd
  obtain ⟨clientLog, serverLog, e₂, -, hmatched, hwrites', -, hrun'⟩ :=
    communicates_pins hchip (hasked.trans hanswered) (by rwa [List.append_nil]) hd
  rw [List.append_nil] at hwrites'
  have hover : ∀ y, ¬ Step (loop t fuel)
      (resting (loop t fuel) (.pure () : Proc UInt8 Event Unit) e₂ clientLog serverLog) y :=
    resting_over rfl (loop_waits e₂)
  exact ⟨_, leads_of_run (fun _ _ _ => Step.diamond) hover hrun', rfl, rfl, rfl, hmatched,
    hwrites' ▸ blocks_programOnce file, written, _, d₁.chip, sending, serving, hrun,
    hwrites.trans hwrites'.symm, hb₁, hflash⟩

/-- What the host shows of the upload, in every order of steps: the chip the programmer found
on its pins, every block, and, if asked to verify, every block again and no message of a
difference. -/
theorem transcript_over_pins (hchip : IsCC2530 t bus idle inside fuel)
    (hbanks : ShowsBanks bus inside) (s : σ) (file : List UInt8) (hfile : file.length ≤ 0x40000)
    (answer : UInt8) (buffer buffer2 deviceBuffer : Nat → UInt8) :
    ∃ (b : Board σ) (m : μ), (setup fuel).run t.answer (Board.off s) = (some true, b) ∧
      OnBus idle b m ∧
      ∃ z, Leads (Step (loop t fuel))
          (resting (loop t fuel) (main file answer buffer buffer2) ⟨deviceBuffer, 0, 0, 0, b⟩ [] [])
          z ∧
        z.client = .pure () ∧
        shown z.clientLog =
          transcript (flasher.chipInfo (busChip bus inside fuel) m) file answer := by
  obtain ⟨hsetup, m, hon⟩ := setup_ready hchip.debugs hchip.id hchip.oscillates s
  refine ⟨((setup fuel).run t.answer (Board.off s)).2, m, Prod.ext hsetup rfl, hon, ?_⟩
  let d₀ : Device μ := ⟨deviceBuffer, 0, 0, 0, m⟩
  have hid : (busChip bus inside fuel).xdata d₀.chip DUP_CHIPID ≠ 0 := by
    rw [show (busChip bus inside fuel).xdata d₀.chip DUP_CHIPID = 0xA5 from hchip.chipid m]
    decide
  obtain ⟨written, d₁, hasked, hflash⟩ := main_flashes (busChip_flashes hchip.controls) file
    hfile answer buffer buffer2 d₀ hid
  obtain ⟨d₂, hanswered⟩ := question_flashes (busChip_showsBank hchip.controls hbanks) file hfile
    answer written buffer2 d₁ (by rw [hflash, load_store])
  have hshort : ∀ b ∈ blocks BUFFER_SIZE 0 (padded file), b.2.length < 2048 :=
    fun b hb => Nat.lt_of_le_of_lt (blocks_length_le (by decide) hb) (by decide)
  obtain ⟨sending, serving, e, -, -, -, hshown, hrun⟩ :=
    communicates_pins hchip (hasked.trans hanswered) (by rwa [List.append_nil])
      (show DeviceOn idle d₀ ⟨deviceBuffer, 0, 0, 0, _⟩ from ⟨_, hon, rfl⟩)
  exact ⟨_, leads_of_run (fun _ _ _ => Step.diamond) (resting_over rfl (loop_waits e)) hrun, rfl,
    hshown⟩

end upload

end concretid.flasher.debug
