import ConcretID.Library.Blocks
import ConcretID.Flasher.Session

namespace concretid.flasher

open duplex memory

/-- Bytes followed by zeros up to the next multiple of four. -/
def padded (l : List UInt8) : List UInt8 :=
  l ++ List.replicate ((4 - l.length % 4) % 4) 0

theorem padded_length (l : List UInt8) : (padded l).length = (l.length + 3) / 4 * 4 := by
  rw [padded, List.length_append, List.length_replicate]
  omega

theorem padded_of_dvd {l : List UInt8} (h : 4 ∣ l.length) : padded l = l := by
  rw [padded, Nat.mod_eq_zero_of_dvd h]
  exact List.append_nil l

/-- One zero more does not change what comes out. -/
theorem padded_snoc {l : List UInt8} (h : l.length % 4 ≠ 0) : padded (l ++ [0]) = padded l := by
  have hmore : (4 - l.length % 4) % 4 = (4 - (l.length + 1) % 4) % 4 + 1 := by omega
  rw [padded, padded, hmore, List.replicate_succ, List.length_append, List.append_assoc]
  rfl

/-- The padding loop leaves the chunk followed by its zeros in the buffer. -/
theorem pad_eq {n : Nat} (buffer : Nat → UInt8) (hn : n ≤ BUFFER_SIZE) :
    load (pad n buffer).2 0 (pad n buffer).1 = padded (load buffer 0 n) := by
  induction n, buffer using pad.induct with
  | case1 n buffer hmore ih =>
    have hnext : n + 1 ≤ BUFFER_SIZE := by
      simp only [BUFFER_SIZE] at hn ⊢
      omega
    have hstored : load (Function.update buffer n 0) 0 (n + 1) = load buffer 0 n ++ [0] := by
      rw [load_append, ← store_single, load_store_of_disjoint _ _ (.inl (by omega)), Nat.zero_add]
      exact congrArg _ (load_store buffer n [0])
    rw [pad, if_pos hmore, ih hnext, hstored, padded_snoc (by rw [load_length]; exact hmore.1)]
  | case2 n buffer hdone =>
    have hdvd : 4 ∣ n := Nat.dvd_of_mod_eq_zero (by
      by_contra hne
      exact hdone ⟨hne, hn⟩)
    rw [pad, if_neg hdone, padded_of_dvd (by rwa [load_length])]

theorem pad_length {n : Nat} (buffer : Nat → UInt8) (hn : n ≤ BUFFER_SIZE) :
    (pad n buffer).1 = (padded (load buffer 0 n)).length := by
  rw [← pad_eq buffer hn, load_length]

/-- The length of a padded chunk fits in the 16 bits it is sent with. -/
theorem pad_fits {n : Nat} (buffer : Nat → UInt8) (hn : n ≤ BUFFER_SIZE) :
    (pad n buffer).1 < 0x10000 ∧ (UInt16.ofNat (pad n buffer).1).toNat = (pad n buffer).1 := by
  have hfits : (pad n buffer).1 < 0x10000 := by
    rw [pad_length buffer hn, padded_length, load_length]
    simp only [BUFFER_SIZE] at hn
    omega
  refine ⟨hfits, ?_⟩
  rw [UInt16.toNat_ofNat']
  exact Nat.mod_eq_of_lt hfits

/-- Cutting off a chunk commutes with padding. -/
theorem padded_cut (fin : List UInt8) :
    (padded fin).take BUFFER_SIZE = padded (fin.take BUFFER_SIZE) ∧
      (padded fin).drop BUFFER_SIZE = padded (fin.drop BUFFER_SIZE) := by
  obtain hshort | hlong := Nat.lt_or_ge fin.length BUFFER_SIZE
  · have hfits : (padded fin).length ≤ BUFFER_SIZE := by
      simp only [padded_length, BUFFER_SIZE] at hshort ⊢
      omega
    rw [List.take_of_length_le hfits, List.drop_of_length_le hfits,
      List.take_of_length_le (Nat.le_of_lt hshort), List.drop_of_length_le (Nat.le_of_lt hshort)]
    exact ⟨rfl, rfl⟩
  · have hwhole : 4 ∣ (fin.take BUFFER_SIZE).length := by
      rw [List.length_take_of_le hlong]
      decide
    have hrest : (fin.length - BUFFER_SIZE) % 4 = fin.length % 4 := by
      simp only [BUFFER_SIZE] at hlong ⊢
      omega
    constructor
    · exact (List.take_append_of_le_length hlong).trans (padded_of_dvd hwhole).symm
    · rw [padded, padded, List.drop_append_of_le_length hlong, List.length_drop, hrest]

theorem padded_parts (fin : List UInt8) :
    padded (fin.take BUFFER_SIZE) ++ padded (fin.drop BUFFER_SIZE) = padded fin := by
  rw [← (padded_cut fin).1, ← (padded_cut fin).2, List.take_append_drop]

/-- A padded chunk is of whole words and still fits the buffer. -/
theorem padded_chunk {chunk : List UInt8} (hchunk : chunk.length ≤ BUFFER_SIZE) :
    4 ∣ (padded chunk).length ∧ (padded chunk).length ≤ BUFFER_SIZE := by
  rw [padded_length]
  simp only [BUFFER_SIZE] at hchunk ⊢
  exact ⟨Nat.dvd_mul_left _ _, by omega⟩

/-- The first block of a padded file is the padded first chunk of the file. -/
theorem blocks_padded {fin : List UInt8} (hfin : fin ≠ []) (addr : Nat) :
    blocks BUFFER_SIZE addr (padded fin) =
      (addr, padded (fin.take BUFFER_SIZE)) ::
        blocks BUFFER_SIZE (addr + (padded (fin.take BUFFER_SIZE)).length)
          (padded (fin.drop BUFFER_SIZE)) := by
  have hlength := List.length_pos_iff.mpr hfin
  have hne : padded fin ≠ [] := by
    rw [← List.length_pos_iff, padded_length]
    omega
  rw [blocks_cons (by decide) addr hne, (padded_cut fin).1, (padded_cut fin).2]

/-- One chunk written: its bytes, padded, are programmed at the count. -/
theorem writeChunk_communicates {κ : Type} (chip : Chip κ) (file_size : Nat) {count n : Nat}
    (buffer : Nat → UInt8) (d : Device κ) (hcount : count < 0x40000) (hn : n ≤ BUFFER_SIZE) :
    ∃ d' : Device κ,
      Communicates chip (writeChunk file_size count n buffer) d (.pure (pad n buffer)) d'
        [(count, padded (load buffer 0 n))] [.progress count file_size] ∧
      ∃ src, load src 0 (pad n buffer).1 = padded (load buffer 0 n) ∧
        d'.chip = chip.write_flash_memory_block src count (pad n buffer).1 d.chip := by
  have hlen := (pad_fits buffer hn).2
  let addressed : Device κ :=
    { d with
      buffer := d.filled (putAddr count) 3
      write_addr := takeAddr (d.filled (putAddr count) 3) }
  let filled : Device κ :=
    { addressed with
      buffer := addressed.filled (pad n buffer).2 (UInt16.ofNat (pad n buffer).1)
      write_count := (UInt16.ofNat (pad n buffer).1).toNat }
  have haddr : filled.write_addr = count := takeAddr_putAddr d.buffer hcount
  have hbytes : load filled.buffer 0 (pad n buffer).1 = padded (load buffer 0 n) := by
    rw [← pad_eq buffer hn]
    simp only [filled, Device.filled, hlen]
    exact load_store_load _ _ _
  have hcall : (filled.write_addr, load filled.buffer 0 filled.write_count) =
      (count, padded (load buffer 0 n)) := by
    rw [haddr, ← hbytes, ← hlen]
  refine ⟨{ filled with
    chip := chip.write_flash_memory_block filled.buffer filled.write_addr filled.write_count
      filled.chip }, ?_, filled.buffer, hbytes, ?_⟩
  · rw [← hcall]
    exact (data_exchange (answers_set_write_addr chip d _ _) ⟨rfl, rfl⟩ _ _).trans
      ((data_exchange (answers_set_write_buffer chip addressed _ _) ⟨rfl, rfl⟩ _ _).trans
        ((command_exchange (answers_start_write chip filled) ⟨rfl, rfl⟩ _ _).trans
          (.show ((record_executes (.progress count file_size) []).before
            fun _ => .pure (pad n buffer)) rfl chip _)))
  · rw [haddr, ← hlen]

/-- The write loop programs what is left of the file, padded, block after block from
the count on. -/
theorem writeLoop_communicates {κ : Type} {chip : Chip κ} (hprograms : chip.Programs)
    (file_size : Nat) (fin : List UInt8) {count : Nat} (buffer : Nat → UInt8) (d : Device κ)
    (hcount : 4 ∣ count) (hfits : count + (padded fin).length ≤ 0x40000) :
    ∃ (buffer' : Nat → UInt8) (d' : Device κ),
      Communicates chip (writeLoop file_size fin count buffer) d
        (.pure (count + (padded fin).length, buffer')) d'
        (blocks BUFFER_SIZE count (padded fin))
        ((blocks BUFFER_SIZE count (padded fin)).map fun b => .progress b.1 file_size) ∧
      chip.flash d'.chip = store (chip.flash d.chip) count (padded fin) := by
  induction fin using blocks_induction BUFFER_SIZE (by decide) generalizing count buffer d with
  | hnil =>
    have hnone : padded [] = [] := rfl
    refine ⟨buffer, d, ?_, ?_⟩
    · rw [writeLoop, if_pos rfl, hnone, blocks_nil]
      exact .refl _ _ _
    · rw [hnone, store_nil]
  | hdrop fin hfin ih =>
    have hparts := padded_parts fin
    have hlength := congrArg List.length hparts
    rw [List.length_append] at hlength
    have hchunk : (fin.take BUFFER_SIZE).length ≤ BUFFER_SIZE := List.length_take_le _ _
    obtain ⟨hword, hsize⟩ := padded_chunk hchunk
    have hstart : count < 0x40000 := by
      have hpos := List.length_pos_iff.mpr hfin
      rw [padded_length] at hfits
      omega
    have hpad := pad_length (store buffer 0 (fin.take BUFFER_SIZE)) hchunk
    obtain ⟨d₁, hwrite, src, hsrc, hchip⟩ := writeChunk_communicates chip file_size
      (store buffer 0 (fin.take BUFFER_SIZE)) d hstart hchunk
    rw [load_store] at hwrite hsrc hpad
    rw [hpad] at hchip hsrc
    obtain ⟨buffer', d', hrest, hflash⟩ := ih
      (pad (fin.take BUFFER_SIZE).length (store buffer 0 (fin.take BUFFER_SIZE))).2 d₁
      (Nat.dvd_add hcount hword) (by omega)
    refine ⟨buffer', d', ?_, ?_⟩
    · rw [writeLoop, if_neg hfin, blocks_padded hfin, List.map_cons]
      rw [Nat.add_assoc, hlength] at hrest
      apply hwrite.bind
      rw [hpad]
      exact hrest
    · rw [hflash, hchip, hprograms src count _ d.chip hword hsize hcount (by omega), hsrc,
        ← store_append, hparts]

end concretid.flasher
