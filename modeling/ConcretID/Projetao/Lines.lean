import ConcretID.Projetao.Records

open concretid.memory concretid.history

namespace concretid.projetao

/-! ## The end of a checksum term -/

/-- A sentence at its end: with the checksum that it has it is accepted if the data are
good, with another one it is counted. -/
def Fix.settle (fix : Fix) (checked : Prop) [Decidable checked] (type : SentenceType) (r : Record) : Fix :=
  if checked then
    if r.good then
      { value := fun f => if f ∈ type.fields then r.new f else fix.value f
        time_fix := r.time_fix
        position_fix := r.position_fix
        good_sentences := fix.good_sentences + 1
        failed_checksum := fix.failed_checksum }
    else fix
  else { fix with failed_checksum := fix.failed_checksum + 1 }

theorem Fix.settle_congr {checked checked' : Prop} [Decidable checked] [Decidable checked']
    (h : checked ↔ checked') (fix : Fix) (type : SentenceType) (r : Record) :
    fix.settle checked type r = fix.settle checked' type r := by
  simp only [settle, h]

namespace Gps

theorem publishAll_published (s : Gps) (fields : List Field) :
    (fields.foldl publish s).published = (fun f => if f ∈ fields then s.new f else s.published f) ∧
      (fields.foldl publish s).new = s.new := by
  induction fields generalizing s with
  | nil =>
    refine ⟨funext fun f => ?_, rfl⟩
    rw [if_neg List.not_mem_nil]
    rfl
  | cons g fields ih =>
    obtain ⟨hpublished, hnew⟩ := ih (s.publish g)
    refine ⟨funext fun f => ?_, hnew⟩
    have hf := congrFun hpublished f
    rw [List.foldl_cons, hf]
    by_cases hmem : f ∈ fields
    · rw [if_pos hmem, if_pos (List.mem_cons_of_mem g hmem)]
      rfl
    · rw [if_neg hmem]
      by_cases hfg : f = g
      · rw [if_pos (hfg ▸ List.mem_cons_self), hfg]
        exact Function.update_self _ _ _
      · rw [if_neg (by rw [List.mem_cons]; exact fun h => h.elim hfg hmem)]
        exact Function.update_of_ne hfg _ _

theorem publishAll_fix (s : Gps) (fields : List Field) :
    (fields.foldl publish s).fix = { s.fix with value := (fields.foldl publish s).published } := by
  induction fields generalizing s with
  | nil => rfl
  | cons f fields ih => exact ih (s.publish f)

instance (s : Gps) : Decidable s.Matches :=
  inferInstanceAs (Decidable (16 * from_hex (s.term 0) + from_hex (s.term 1) = s.parity))

/-- The end of a checksum term settles the sentence. -/
theorem term_complete_settled {s : Gps} (hchecksum : s.is_checksum_term = true) (now : UInt32) :
    (s.term_complete now).2 = (decide s.Matches && s.gps_data_good) ∧
      (s.term_complete now).1.fix = s.fix.settle s.Matches s.sentence_type s.record := by
  rw [term_complete, if_pos hchecksum]
  dsimp only
  by_cases hmatches : s.Matches
  · have hmatched : (16 * from_hex (s.term 0) + from_hex (s.term 1) == s.parity) = true := beq_iff_eq.mpr hmatches
    rw [hmatched, if_pos rfl, decide_eq_true hmatches, Bool.true_and, Fix.settle, if_pos hmatches]
    cases hgood : s.gps_data_good with
    | true =>
      rw [if_pos (show (s.emit _).gps_data_good = true from hgood), if_pos (show s.record.good = true from hgood)]
      generalize Event.checksum _ _ _ = e
      let accepted : Gps :=
        { s.emit e with
          good_sentences := (s.emit e).good_sentences + 1
          last_time_fix := (s.emit e).new_time_fix
          last_position_fix := (s.emit e).new_position_fix }
      obtain ⟨hpublished, -⟩ := publishAll_published accepted s.sentence_type.fields
      refine ⟨rfl, ?_⟩
      change (s.sentence_type.fields.foldl publish accepted).fix = _
      rw [publishAll_fix, hpublished]
      rfl
    | false =>
      have hbad : ∀ s' : Gps, s'.gps_data_good = s.gps_data_good → ¬s'.gps_data_good = true := by
        intro s' hsame
        rw [hsame, hgood]
        exact Bool.noConfusion
      rw [if_neg (hbad (s.emit _) rfl), if_neg (show ¬s.record.good = true from hbad s rfl)]
      exact ⟨rfl, rfl⟩
  · have hmatched : ¬(16 * from_hex (s.term 0) + from_hex (s.term 1) == s.parity) = true :=
      mt beq_iff_eq.mp hmatches
    rw [if_neg hmatched, decide_eq_false hmatches, Bool.false_and, Fix.settle, if_neg hmatches]
    exact ⟨rfl, rfl⟩

end Gps

/-! ## Whole lines -/

/-- Between `$` and `*`. -/
def Plain (body : List UInt8) : Prop := ∀ c ∈ body, isDollar c = false ∧ c ≠ 0x2a

/-- A sentence on the line, with two characters for its checksum. -/
def lineOf (body : List UInt8) (a b : UInt8) : List UInt8 := 0x24 :: (body ++ [0x2a, a, b, 0x0d, 0x0a])

theorem exists_line {stream : List (UInt32 × UInt8)} {body : List UInt8} {a b : UInt8}
    (h : stream.map Prod.snd = lineOf body a b) :
    ∃ t₀ bodyStream t₁ t₂ t₃ t₄ t₅, bodyStream.map Prod.snd = body ∧
      stream = (t₀, 0x24) :: (bodyStream ++ [(t₁, 0x2a), (t₂, a), (t₃, b), (t₄, 0x0d), (t₅, 0x0a)]) := by
  rw [lineOf, List.map_eq_cons_iff] at h
  obtain ⟨⟨t₀, c₀⟩, rest, rfl, rfl, hrest⟩ := h
  obtain ⟨bodyStream, ending, rfl, hbody, hending⟩ := List.map_eq_append_iff.mp hrest
  simp only [List.map_eq_cons_iff, List.map_eq_nil_iff] at hending
  obtain ⟨⟨t₁, c₁⟩, _, rfl, rfl, ⟨t₂, c₂⟩, _, rfl, rfl, ⟨t₃, c₃⟩, _, rfl, rfl, ⟨t₄, c₄⟩, _, rfl, rfl,
    ⟨t₅, c₅⟩, _, rfl, rfl, rfl⟩ := hending
  exact ⟨t₀, bodyStream, t₁, t₂, t₃, t₄, t₅, hbody, rfl⟩

theorem hexDigit_ordinary {c : UInt8} {v : Nat} (h : hexDigit c = some v) :
    isTerminator c = false ∧ isDollar c = false := by
  have hall : ∀ n < 256, (hexDigit (UInt8.ofNat n)).isSome →
      isTerminator (UInt8.ofNat n) = false ∧ isDollar (UInt8.ofNat n) = false := by
    decide +kernel
  have hc := hall c.toNat c.toNat_lt
  rw [UInt8.ofNat_toNat, h] at hc
  exact hc rfl

theorem skipped_of_none {text : List UInt8} (h : ∀ c ∈ text, c ≠ 0x2a) : skipped text = 0 := by
  induction text using List.reverseRecOn with
  | nil => rfl
  | append_singleton text c ih =>
    have hbefore : ∀ d ∈ text, d ≠ 0x2a := fun d hd => h d (List.mem_append_left _ hd)
    have hc : c ≠ 0x2a := h c (by simp)
    rw [skipped, combined_snoc, ← skipped, ih hbefore, starred_of_none hbefore]
    simp [hc]

namespace Gps

/-- A line up to its carriage return publishes nothing, and is read. -/
theorem line_reached {s : Gps} (hoffset : s.term_offset < 15) {bodyStream : List (UInt32 × UInt8)} {a b : UInt8}
    (hbody : Plain (bodyStream.map Prod.snd)) {high low : Nat} (ha : hexDigit a = some high)
    (hb : hexDigit b = some low) (t₀ t₁ t₂ t₃ : UInt32) :
    let front := (t₀, 0x24) :: (bodyStream ++ [(t₁, 0x2a), (t₂, a), (t₃, b)])
    s.Quiet front ∧ (s.encodeAll front).1.Reads (bodyStream.map Prod.snd ++ [0x2a, a, b]) ∧
      (((bodyStream.map Prod.snd).splitOnP isTerminator).length ≤ 32 →
        Takes (s.encode t₀ 0x24).1 (s.encodeAll front).1 (bodyStream ++ [(t₁, 0x2a), (t₂, a), (t₃, b)])) := by
  intro front
  let s₀ := (s.encode t₀ 0x24).1
  have hbegun : s.Quiet [(t₀, 0x24)] := .single (encode_quiet hoffset (.inr rfl) t₀)
  have hready : s₀.Ready := ⟨rfl, encode_offset_lt hoffset t₀ 0x24⟩
  have hreads : s₀.Reads [] := Reads.dollar s t₀
  have hstar : ∀ c ∈ bodyStream.map Prod.snd, c ≠ 0x2a := fun c hc => (hbody c hc).2
  have hdollar : ∀ c ∈ bodyStream.map Prod.snd, isDollar c = false := fun c hc => (hbody c hc).1
  obtain ⟨hquiet, hready'⟩ := hready.encodeAll hstar
  obtain ⟨ha₁, ha₂⟩ := hexDigit_ordinary ha
  obtain ⟨hb₁, hb₂⟩ := hexDigit_ordinary hb
  let s₁ := (s₀.encodeAll bodyStream).1
  let s₂ := (s₁.encode t₁ 0x2a).1
  let s₃ := (s₂.encode t₂ a).1
  have hoffset₂ : s₂.term_offset < 15 := encode_offset_lt hready'.offset_lt t₁ 0x2a
  have hoffset₃ : s₃.term_offset < 15 := encode_offset_lt hoffset₂ t₂ a
  have hend : s₁.Quiet [(t₁, 0x2a), (t₂, a), (t₃, b)] :=
    (Quiet.single (encode_quiet hready'.offset_lt (.inl hready'.plain) t₁)).append
      ((Quiet.single (s := s₂) (encode_quiet hoffset₂ (.inr ha₁) t₂)).append
        (Quiet.single (s := s₃) (encode_quiet hoffset₃ (.inr hb₁) t₃)))
  have hfront : (s.encodeAll front).1 = (s₁.encodeAll [(t₁, 0x2a), (t₂, a), (t₃, b)]).1 := by
    change (s₀.encodeAll (bodyStream ++ _)).1 = _
    rw [encodeAll_append]
  refine ⟨hbegun.append (hquiet.append hend), ?_, fun hlength => ?_⟩
  · have hmap : bodyStream.map Prod.snd ++ [0x2a, a, b] =
        (bodyStream ++ [(t₁, 0x2a), (t₂, a), (t₃, b)]).map Prod.snd := by simp
    rw [hmap]
    refine hreads.encodeAll fun c hc => ?_
    rw [← hmap] at hc
    simp only [List.mem_append, List.mem_cons, List.not_mem_nil, or_false] at hc
    obtain hc | rfl | rfl | rfl := hc
    · exact hdollar c hc
    · rfl
    · exact ha₂
    · exact hb₂
  · have hclosed : (closed isTerminator (bodyStream.map Prod.snd)).length < 32 := by
      have hsplit := congrArg List.length (closed_append_since isTerminator (bodyStream.map Prod.snd))
      rw [List.length_append, List.length_singleton] at hsplit
      omega
    have htakes :=
      (takes_body hreads hdollar hstar hclosed).terminator (c := 0x2a) rfl (starred_of_none hstar) hclosed t₁
    have htakes' := (htakes.ordinary ha₁ ha₂ t₂).ordinary hb₁ hb₂ t₃
    rw [List.append_assoc, List.append_assoc] at htakes'
    rw [hfront]
    exact htakes'

/-- The carriage return settles it. -/
theorem line_settled {s : Gps} {body : List UInt8} {a b : UInt8} (hbody : Plain body)
    (hreads : s.Reads (body ++ [0x2a, a, b])) {high low : Nat} (ha : hexDigit a = some high)
    (hb : hexDigit b = some low) (t₄ t₅ : UInt32) :
    (s.encodeAll [(t₄, 0x0d), (t₅, 0x0a)]).2 =
        [decide (16 * high + low = (exclusiveOr body).toNat) && s.gps_data_good, false] ∧
      (s.encodeAll [(t₄, 0x0d), (t₅, 0x0a)]).1.Ready ∧
      (s.encodeAll [(t₄, 0x0d), (t₅, 0x0a)]).1.fix =
        s.fix.settle (16 * high + low = (exclusiveOr body).toNat) s.sentence_type s.record := by
  have hdigits : ∀ d ∈ [a, b], isTerminator d = false := by
    simp [(hexDigit_ordinary ha).1, (hexDigit_ordinary hb).1]
  have hstar : ∀ c ∈ body, c ≠ 0x2a := fun c hc => (hbody c hc).2
  have hsince := since_digits body hdigits
  have hfirst : (s.ended 0x0d).term 0 = a := hreads.ended_term 0x0d (by decide) (by rw [hsince]; rfl)
  have hsecond : (s.ended 0x0d).term 1 = b := hreads.ended_term 0x0d (by decide) (by rw [hsince]; rfl)
  have hparity : (s.ended 0x0d).parity = exclusiveOr body := by
    rw [exclusiveOr_eq, skipped_of_none hstar, UInt8.xor_zero, ← (starred_digits body hdigits).2]
    exact hreads.parity
  have hmatches : (s.ended 0x0d).Matches ↔ 16 * high + low = (exclusiveOr body).toNat := by
    rw [Matches, hfirst, hsecond, hparity]
    exact projetao.spelled_iff ha hb
  have hchecksum : (s.ended 0x0d).is_checksum_term = true := hreads.star.trans (starred_digits body hdigits).1
  obtain ⟨hresult, hfix⟩ := term_complete_settled hchecksum t₄
  have hready : (s.encode t₄ 0x0d).1.Ready := by
    refine ⟨?_, encode_offset_lt hreads.offset_lt t₄ 0x0d⟩
    rw [encode_terminator rfl hreads.offset_lt]
    exact decide_eq_false (p := (0x0d : UInt8) = 0x2a) (by decide)
  have hreturn : (s.encode t₄ 0x0d).2 =
      (decide (16 * high + low = (exclusiveOr body).toNat) && s.gps_data_good) := by
    rw [encode_terminator rfl hreads.offset_lt, ← decide_eq_decide.mpr hmatches]
    exact hresult
  have hsettled : (s.encode t₄ 0x0d).1.fix =
      s.fix.settle (16 * high + low = (exclusiveOr body).toNat) s.sentence_type s.record := by
    rw [encode_terminator rfl hreads.offset_lt, ← Fix.settle_congr hmatches]
    exact hfix
  obtain ⟨hfeed, hfixed⟩ := encode_quiet hready.offset_lt (c := 0x0a) (.inl hready.plain) t₅
  rw [encodeAll_two]
  dsimp only
  rw [hreturn, hfeed, hfixed, hsettled]
  exact ⟨rfl, hready.encode (by decide) t₅, rfl⟩

end Gps

end concretid.projetao
