import ConcretID.Projetao.Sentences
import ConcretID.Projetao.Provenance

open concretid.memory

namespace concretid.projetao

/-! ## Where `encode` accepts -/

namespace Gps

/-- The state in which a terminator completes a term. -/
def ended (s : Gps) (c : UInt8) : Gps :=
  { s with
    encoded_characters := s.encoded_characters + 1
    parity := if c = 0x2c then s.parity ^^^ c else s.parity
    term := Function.update s.term s.term_offset 0 }

/-- The character ends a checksum term, and what stands in `_term` matches the parity,
with the flag of good data set. -/
structure Accepts (s : Gps) (c : UInt8) : Prop where
  terminator : isTerminator c = true
  checksum : s.is_checksum_term = true
  matched : 16 * from_hex ((s.ended c).term 0) + from_hex ((s.ended c).term 1) = (s.ended c).parity
  good : s.gps_data_good = true

theorem isTerminator_iff {c : UInt8} : isTerminator c = true ↔ c = 0x2c ∨ c = 0x0d ∨ c = 0x0a ∨ c = 0x2a := by
  simp [isTerminator, or_assoc]

theorem encode_terminator {s : Gps} {c : UInt8} (hc : isTerminator c = true) (hoffset : s.term_offset < 15)
    (now : UInt32) :
    s.encode now c =
      ({ ((s.ended c).term_complete now).1 with
          term_number := ((s.ended c).term_complete now).1.term_number + 1
          term_offset := 0
          is_checksum_term := decide (c = 0x2a) }, ((s.ended c).term_complete now).2) := by
  rw [encode, if_pos (isTerminator_iff.mp hc)]
  by_cases hcomma : c = 0x2c
  · simp only [ended, if_pos hcomma, if_pos hoffset]
  · simp only [ended, if_neg hcomma, if_pos hoffset]

theorem encode_dollar (s : Gps) (now : UInt32) :
    s.encode now 0x24 =
      ({ s with
          encoded_characters := s.encoded_characters + 1
          term_number := 0
          term_offset := 0
          parity := 0
          sentence_type := .OTHER
          is_checksum_term := false
          gps_data_good := false }.emit .dollar, false) := rfl

/-- An ordinary character goes into the term as long as there is room. -/
theorem encode_ordinary {s : Gps} {c : UInt8} (hc : isTerminator c = false) (hdollar : isDollar c = false)
    (now : UInt32) :
    s.encode now c =
      ({ s with
          encoded_characters := s.encoded_characters + 1
          term := if s.term_offset < 14 then Function.update s.term s.term_offset c else s.term
          term_offset := if s.term_offset < 14 then s.term_offset + 1 else s.term_offset
          parity := if s.is_checksum_term then s.parity else s.parity ^^^ c }, false) := by
  have hordinary : ¬ (c = 0x2c ∨ c = 0x0d ∨ c = 0x0a ∨ c = 0x2a) := by
    rw [← isTerminator_iff, hc]
    exact Bool.false_ne_true
  have hno : ¬ c = 0x24 := by simpa [isDollar] using hdollar
  rw [encode, if_neg hordinary, if_neg hno]
  by_cases hroom : s.term_offset < 14
  · simp only [if_pos hroom]
    split <;> rfl
  · simp only [if_neg hroom]
    split <;> rfl

/-! ## `term_complete` -/

/-- What publishing leaves alone. -/
theorem publishAll_frame (s : Gps) (fields : List Field) :
    (fields.foldl publish s).parity = s.parity ∧ (fields.foldl publish s).term_number = s.term_number ∧
      (fields.foldl publish s).sentence_type = s.sentence_type ∧
      (fields.foldl publish s).gps_data_good = s.gps_data_good := by
  induction fields generalizing s with
  | nil => exact ⟨rfl, rfl, rfl, rfl⟩
  | cons f fields ih => exact ih (s.publish f)

/-- The flag of good data behind a term that is stored. -/
theorem store_term_good (s : Gps) (now : UInt32) (code : Nat) :
    (s.store_term now code).gps_data_good =
      if code = COMBINE .GPRMC 2 then s.term 0 == 0x41
      else if code = COMBINE .GPGGA 6 then decide (0x30 < s.term 0) && decide (s.term 0 < 0x80)
      else s.gps_data_good := by
  by_cases hrmc : code = COMBINE .GPRMC 2
  · simp [store_term, hrmc, COMBINE, SentenceType.code]
  by_cases hgga : code = COMBINE .GPGGA 6
  · simp [store_term, hgga, COMBINE, SentenceType.code]
  simp only [store_term, if_neg hrmc, if_neg hgga, apply_ite Gps.gps_data_good, setNew, negateNew, emit, ite_self]

/-- What a stored term leaves alone. -/
theorem store_term_frame (s : Gps) (now : UInt32) (code : Nat) :
    (s.store_term now code).parity = s.parity ∧ (s.store_term now code).term_number = s.term_number ∧
      (s.store_term now code).sentence_type = s.sentence_type ∧
      (s.store_term now code).published = s.published := by
  have hstored := s.stored now code
  generalize s.store_term now code = s' at hstored ⊢
  cases hstored with
  | store => exact ⟨rfl, rfl, rfl, rfl⟩
  | sign => exact ⟨rfl, rfl, rfl, rfl⟩
  | keep => exact ⟨rfl, rfl, rfl, rfl⟩
  | other => exact ⟨rfl, rfl, rfl, rfl⟩

/-- What stands in `_term` spells the parity. -/
def Matches (s : Gps) : Prop := 16 * from_hex (s.term 0) + from_hex (s.term 1) = s.parity

/-- Everything `term_complete` can do. -/
inductive Completed (s : Gps) (now : UInt32) : Gps × Bool → Prop
  | accept (hchecksum : s.is_checksum_term = true) (hmatches : s.Matches) (hgood : s.gps_data_good = true)
      (s' : Gps) (hparity : s'.parity = s.parity) (hnumber : s'.term_number = s.term_number)
      (htype : s'.sentence_type = s.sentence_type) (hgood' : s'.gps_data_good = s.gps_data_good) :
      Completed s now (s', true)
  | reject (hchecksum : s.is_checksum_term = true) (h : ¬ (s.Matches ∧ s.gps_data_good = true))
      (failed : UInt16) (trace : List Event) : Completed s now ({ s with failed_checksum := failed, trace }, false)
  | first (hchecksum : s.is_checksum_term = false) (hnumber : s.term_number = 0) (trace : List Event) :
      Completed s now ({ s with sentence_type := typeOf s.text, trace }, false)
  | stored (hchecksum : s.is_checksum_term = false) (hnumber : s.term_number ≠ 0)
      (htype : s.sentence_type ≠ .OTHER) (hterm : s.term 0 ≠ 0) (trace : List Event) :
      Completed s now
        (({ s with trace } : Gps).store_term now (COMBINE s.sentence_type s.term_number.toNat), false)
  | skipped (hchecksum : s.is_checksum_term = false) (hnumber : s.term_number ≠ 0)
      (h : s.sentence_type = .OTHER ∨ s.term 0 = 0) (trace : List Event) : Completed s now ({ s with trace }, false)

theorem completed (s : Gps) (now : UInt32) : s.Completed now (s.term_complete now) := by
  rw [term_complete]
  by_cases hchecksum : s.is_checksum_term = true
  · rw [if_pos hchecksum]
    by_cases hmatches : s.Matches
    · have hmatched : (16 * from_hex (s.term 0) + from_hex (s.term 1) == s.parity) = true := beq_iff_eq.mpr hmatches
      dsimp only
      rw [if_pos hmatched]
      let s₁ := s.emit (.checksum (16 * from_hex (s.term 0) + from_hex (s.term 1) == s.parity) s.gps_data_good
        s.sentence_type)
      change s.Completed now (if s₁.gps_data_good = true then _ else (s₁, false))
      by_cases hgood : s₁.gps_data_good = true
      · rw [if_pos hgood]
        obtain ⟨hparity, hnumber, htype, hgood'⟩ := publishAll_frame
          { s₁ with
            good_sentences := s₁.good_sentences + 1
            last_time_fix := s₁.new_time_fix
            last_position_fix := s₁.new_position_fix } s₁.sentence_type.fields
        exact .accept hchecksum hmatches hgood _ hparity hnumber htype hgood'
      · rw [if_neg hgood]
        exact .reject hchecksum (fun h => hgood h.2) s.failed_checksum _
    · have hmatched : ¬ (16 * from_hex (s.term 0) + from_hex (s.term 1) == s.parity) = true :=
        mt beq_iff_eq.mp hmatches
      dsimp only
      rw [if_neg hmatched]
      exact .reject hchecksum (fun h => hmatches h.1) (s.failed_checksum + 1) _
  · have hno : s.is_checksum_term = false := Bool.eq_false_iff.mpr hchecksum
    rw [if_neg hchecksum]
    dsimp only [emit]
    by_cases hnumber : s.term_number = 0
    · rw [if_pos hnumber]
      exact .first hno hnumber _
    · rw [if_neg hnumber]
      by_cases hterm : s.sentence_type ≠ .OTHER ∧ s.term 0 ≠ 0
      · rw [if_pos hterm]
        exact .stored hno hnumber hterm.1 hterm.2 _
      · rw [if_neg hterm]
        exact .skipped hno hnumber (Decidable.or_iff_not_not_and_not.mpr hterm) _

/-- Where a term is accepted, and nowhere else, fields are published and the result is true. -/
theorem term_complete_accepts {s : Gps} {now : UInt32}
    (h : (s.term_complete now).2 = true ∨ (s.term_complete now).1.published ≠ s.published) :
    s.is_checksum_term = true ∧ s.Matches ∧ s.gps_data_good = true := by
  have hcompleted := s.completed now
  generalize s.term_complete now = r at h hcompleted
  cases hcompleted with
  | accept hchecksum hmatches hgood => exact ⟨hchecksum, hmatches, hgood⟩
  | reject => exact (h.elim Bool.noConfusion fun hne => hne rfl).elim
  | first => exact (h.elim Bool.noConfusion fun hne => hne rfl).elim
  | stored => exact (h.elim Bool.noConfusion fun hne => hne (store_term_frame _ _ _).2.2.2).elim
  | skipped => exact (h.elim Bool.noConfusion fun hne => hne rfl).elim

theorem term_complete_of_accepts {s : Gps} {now : UInt32} (hchecksum : s.is_checksum_term = true)
    (hmatches : s.Matches) (hgood : s.gps_data_good = true) : (s.term_complete now).2 = true := by
  have hcompleted := s.completed now
  generalize s.term_complete now = r at hcompleted
  cases hcompleted with
  | accept => rfl
  | reject _ h => exact absurd ⟨hmatches, hgood⟩ h
  | first hno => rw [hchecksum] at hno; cases hno
  | stored hno => rw [hchecksum] at hno; cases hno
  | skipped hno => rw [hchecksum] at hno; cases hno

/-- What a term leaves alone. -/
theorem term_complete_frame (s : Gps) (now : UInt32) :
    (s.term_complete now).1.parity = s.parity ∧ (s.term_complete now).1.term_number = s.term_number := by
  have hcompleted := s.completed now
  generalize s.term_complete now = r at hcompleted
  cases hcompleted with
  | accept _ _ _ s' hparity hnumber => exact ⟨hparity, hnumber⟩
  | reject => exact ⟨rfl, rfl⟩
  | first => exact ⟨rfl, rfl⟩
  | stored =>
    obtain ⟨hparity, hnumber, -⟩ := store_term_frame _ _ _
    exact ⟨hparity, hnumber⟩
  | skipped => exact ⟨rfl, rfl⟩

/-- The first term gives the type. -/
theorem term_complete_type (s : Gps) (now : UInt32) :
    (s.term_complete now).1.sentence_type =
      if s.is_checksum_term = false ∧ s.term_number = 0 then typeOf s.text else s.sentence_type := by
  have hcompleted := s.completed now
  generalize s.term_complete now = r at hcompleted
  cases hcompleted with
  | accept hchecksum _ _ s' _ _ htype =>
    rw [if_neg fun h => by rw [hchecksum] at h; cases h.1]
    exact htype
  | reject hchecksum => rw [if_neg fun h => by rw [hchecksum] at h; cases h.1]
  | first hchecksum hnumber => rw [if_pos ⟨hchecksum, hnumber⟩]
  | stored _ hnumber =>
    rw [if_neg fun h => hnumber h.2]
    exact (store_term_frame _ _ _).2.2.1
  | skipped _ hnumber => rw [if_neg fun h => hnumber h.2]

/-- A stored term may set the flag of good data, nothing else does. -/
theorem term_complete_good (s : Gps) (now : UInt32) :
    (s.term_complete now).1.gps_data_good = s.gps_data_good ∨
      s.is_checksum_term = false ∧ s.term_number ≠ 0 ∧ s.sentence_type ≠ .OTHER ∧ s.term 0 ≠ 0 ∧
        (s.term_complete now).1.gps_data_good =
          if COMBINE s.sentence_type s.term_number.toNat = COMBINE .GPRMC 2 then s.term 0 == 0x41
          else if COMBINE s.sentence_type s.term_number.toNat = COMBINE .GPGGA 6 then
            decide (0x30 < s.term 0) && decide (s.term 0 < 0x80)
          else s.gps_data_good := by
  have hcompleted := s.completed now
  generalize s.term_complete now = r at hcompleted
  cases hcompleted with
  | accept _ _ _ s' _ _ _ hgood' => exact .inl hgood'
  | reject => exact .inl rfl
  | first => exact .inl rfl
  | stored hchecksum hnumber htype hterm => exact .inr ⟨hchecksum, hnumber, htype, hterm, store_term_good _ _ _⟩
  | skipped => exact .inl rfl

/-- One step accepts, or publishes, exactly in a state that accepts the character. -/
theorem encode_accepts_iff {s : Gps} (hoffset : s.term_offset < 15) (now : UInt32) (c : UInt8) :
    ((s.encode now c).2 = true ∨ (s.encode now c).1.published ≠ s.published) ↔ s.Accepts c := by
  by_cases hc : isTerminator c = true
  · rw [encode_terminator hc hoffset]
    constructor
    · intro h
      obtain ⟨hchecksum, hmatches, hgood⟩ := term_complete_accepts (s := s.ended c) h
      exact ⟨hc, hchecksum, hmatches, hgood⟩
    · intro h
      exact .inl (term_complete_of_accepts (s := s.ended c) h.checksum h.matched h.good)
  · refine iff_of_false ?_ fun h => hc h.terminator
    by_cases hdollar : c = 0x24
    · subst hdollar
      rw [encode_dollar]
      exact fun h => h.elim Bool.noConfusion fun hne => hne rfl
    · rw [encode_ordinary (Bool.eq_false_iff.mpr hc) (beq_eq_false_iff_ne.mpr hdollar)]
      exact fun h => h.elim Bool.noConfusion fun hne => hne rfl

end Gps

end concretid.projetao
