import ConcretID.Projetao.Steps

open concretid.memory concretid.history

namespace concretid.projetao

/-! ## What the variables say of the sentence received

Up to its 34th term; then `COMBINE` takes other terms for the ones with the flag. -/

structure Gps.Reads (s : Gps) (text : List UInt8) : Prop where
  star : s.is_checksum_term = starred text
  parity : s.parity = summed text
  number : s.term_number = UInt8.ofNat (closed isTerminator text).length
  offset : s.term_offset = min 14 (since isTerminator text).length
  term : load s.term 0 s.term_offset = (since isTerminator text).take 14
  type : (closed isTerminator text).length ≤ 34 →
    s.sentence_type = ((closed isTerminator text)[0]?.map fun first => typeOf (kept first)).getD .OTHER
  good : (closed isTerminator text).length ≤ 34 → s.gps_data_good = true →
    Flagged s.sentence_type (closed isTerminator text)

/-- The sentence behind the last `$`; without one, all characters. -/
def sentenceOf (chars : List UInt8) : List UInt8 := since isDollar chars

theorem Flagged.append {type : SentenceType} {terms : List (List UInt8)} (h : Flagged type terms)
    (more : List (List UInt8)) : Flagged type (terms ++ more) := by
  have hkeep {i : Nat} {term : List UInt8} (hterm : terms[i]? = some term) : (terms ++ more)[i]? = some term := by
    obtain ⟨hlt, -⟩ := List.getElem?_eq_some_iff.mp hterm
    rw [List.getElem?_append_left hlt, hterm]
  cases type with
  | GPRMC =>
    obtain ⟨term, hterm, hhead⟩ := h
    exact ⟨term, hkeep hterm, hhead⟩
  | GPGGA =>
    obtain ⟨term, flag, hterm, hhead⟩ := h
    exact ⟨term, flag, hkeep hterm, hhead⟩
  | OTHER => exact h

theorem not_flagged_nil (type : SentenceType) : ¬ Flagged type [] := by
  intro h
  cases type with
  | GPRMC =>
    obtain ⟨term, hterm, -⟩ := h
    cases hterm
  | GPGGA =>
    obtain ⟨term, flag, hterm, -⟩ := h
    cases hterm
  | OTHER => exact h

/-- Below 34, only the second term of one type and the sixth of the other are taken for
those with the flag. -/
theorem COMBINE_flag : ∀ n < 34,
    (COMBINE .GPRMC n = COMBINE .GPRMC 2 ↔ n = 2) ∧ COMBINE .GPRMC n ≠ COMBINE .GPGGA 6 ∧
      COMBINE .GPGGA n ≠ COMBINE .GPRMC 2 ∧ (COMBINE .GPGGA n = COMBINE .GPGGA 6 ↔ n = 6) := by
  decide

namespace Gps.Reads

variable {s : Gps} {text : List UInt8}

theorem initGps : initGps.Reads [] where
  star := rfl
  parity := rfl
  number := rfl
  offset := rfl
  term := rfl
  type := fun _ => rfl
  good := fun _ h => by cases h

theorem offset_lt (h : s.Reads text) : s.term_offset < 15 := by
  have := h.offset
  omega

/-- What stands in `_term` when a terminator comes. -/
theorem ended_text (h : s.Reads text) (c : UInt8) : (s.ended c).text = kept (since isTerminator text) := by
  have hlt := h.offset_lt
  have hsplit : load (s.ended c).term 0 15 =
      load s.term 0 s.term_offset ++ 0 :: load (s.ended c).term (s.term_offset + 1) (14 - s.term_offset) := by
    have hfifteen : 15 = s.term_offset + (14 - s.term_offset + 1) := by omega
    rw [hfifteen, load_append, load_succ, Nat.zero_add]
    congr 1
    · exact load_congr fun i hi => Function.update_of_ne (by omega) _ _
    · congr 1
      exact Function.update_self _ _ _
  rw [Gps.text, hsplit, h.term]
  exact library.before_append_self 0 _ _

/-- Its characters, as far as there is room for them. -/
theorem ended_term (h : s.Reads text) (c : UInt8) {k : Nat} {a : UInt8} (hk : k < 14)
    (hterm : (since isTerminator text)[k]? = some a) : (s.ended c).term k = a := by
  obtain ⟨hlt, -⟩ := List.getElem?_eq_some_iff.mp hterm
  have hoffset : k < s.term_offset := by
    rw [h.offset]
    omega
  have hloaded : (load s.term 0 s.term_offset)[k]? = ((since isTerminator text).take 14)[k]? := by rw [h.term]
  rw [load_getElem?, if_pos hoffset, Nat.zero_add, List.getElem?_take_of_lt hk, hterm] at hloaded
  exact (Function.update_of_ne (Nat.ne_of_lt hoffset) _ _).trans (Option.some.inj hloaded)

/-- The first one, unless there is none. -/
theorem ended_head (h : s.Reads text) {c : UInt8} (hzero : (s.ended c).term 0 ≠ 0) :
    (since isTerminator text).head? = some ((s.ended c).term 0) := by
  cases hterm : since isTerminator text with
  | nil =>
    have hoffset := h.offset
    rw [hterm] at hoffset
    refine absurd ?_ hzero
    simp only [ended, hoffset]
    exact Function.update_self _ _ _
  | cons a rest =>
    have hfirst : (s.ended c).term 0 = a := h.ended_term c (by decide) (by rw [hterm]; rfl)
    rw [hfirst, List.head?_cons]

/-! ## One character -/

theorem dollar (s : Gps) (now : UInt32) : (s.encode now 0x24).1.Reads [] where
  star := rfl
  parity := rfl
  number := rfl
  offset := rfl
  term := rfl
  type := fun _ => rfl
  good := fun _ h => by cases h

theorem ordinary (h : s.Reads text) {c : UInt8} (hc : isTerminator c = false) (hdollar : isDollar c = false)
    (now : UInt32) : (s.encode now c).1.Reads (text ++ [c]) := by
  have hclosed : closed isTerminator (text ++ [c]) = closed isTerminator text := by
    rw [closed_snoc, hc]
    rfl
  have hsince : since isTerminator (text ++ [c]) = since isTerminator text ++ [c] := since_snoc_neg text hc
  have hoffset := h.offset
  have hterm := h.term
  rw [encode_ordinary hc hdollar]
  refine ⟨?_, ?_, ?_, ?_, ?_, ?_, ?_⟩
  · rw [starred_snoc, hc]
    exact h.star
  · rw [summed, combined_snoc, hc, not_comma hc, ← summed, ← h.star, ← h.parity]
    cases s.is_checksum_term <;> rfl
  · rw [hclosed]
    exact h.number
  · rw [hsince, List.length_append, List.length_singleton]
    dsimp only
    split <;> omega
  · rw [hsince]
    dsimp only
    by_cases hroom : s.term_offset < 14
    · have hlength : s.term_offset = (since isTerminator text).length := by omega
      rw [if_pos hroom, if_pos hroom, load_append, load_succ, load_zero, Nat.zero_add, Function.update_self,
        List.take_of_length_le (by rw [List.length_append, List.length_singleton]; omega)]
      rw [List.take_of_length_le (by omega)] at hterm
      rw [← hterm]
      congr 1
      exact load_congr fun i hi => Function.update_of_ne (by omega) _ _
    · rw [if_neg hroom, if_neg hroom, hterm, List.take_append_of_le_length (by omega)]
  · rw [hclosed]
    exact h.type
  · rw [hclosed]
    exact h.good

/-- A term behind a `*` is not the first one. -/
theorem closed_ne_nil (h : starred text = true) : closed isTerminator text ≠ [] := by
  obtain ⟨body, digits, rfl, hdigits⟩ := exists_digits h
  rw [closed_digits body hdigits]
  exact List.splitOnP_ne_nil _ _

/-- The number of a term among the first ones. -/
theorem number_toNat (h : s.Reads text) (hlength : (closed isTerminator text).length < 34) :
    s.term_number.toNat = (closed isTerminator text).length := by
  rw [h.number, UInt8.toNat_ofNat', Nat.mod_eq_of_lt (by omega)]

/-- A term that a terminator ends may bring the flag of the type. -/
theorem flagged_of_stored (h : s.Reads text) {c : UInt8} (hlength : (closed isTerminator text).length < 34)
    (htype : s.sentence_type ≠ .OTHER) (hzero : (s.ended c).term 0 ≠ 0) {good : Bool} (hgood : good = true)
    (hflag : good =
      if COMBINE s.sentence_type s.term_number.toNat = COMBINE .GPRMC 2 then (s.ended c).term 0 == 0x41
      else if COMBINE s.sentence_type s.term_number.toNat = COMBINE .GPGGA 6 then
        decide (0x30 < (s.ended c).term 0) && decide ((s.ended c).term 0 < 0x80)
      else s.gps_data_good) :
    Flagged s.sentence_type (closed isTerminator text ++ [since isTerminator text]) := by
  have hhead := h.ended_head hzero
  have hlast : (closed isTerminator text ++ [since isTerminator text])[(closed isTerminator text).length]? =
      some (since isTerminator text) := by
    rw [List.getElem?_append_right (Nat.le_refl _), Nat.sub_self]
    rfl
  have hkept (hsame : good = s.gps_data_good) :
      Flagged s.sentence_type (closed isTerminator text ++ [since isTerminator text]) :=
    (h.good (Nat.le_of_lt hlength) (hsame ▸ hgood)).append _
  rw [h.number_toNat hlength] at hflag
  obtain ⟨hrmc, hrmc', hgga', hgga⟩ := COMBINE_flag _ hlength
  cases hkind : s.sentence_type with
  | OTHER => exact absurd hkind htype
  | GPRMC =>
    rw [hkind] at hflag hkept
    by_cases hnumber : (closed isTerminator text).length = 2
    · rw [if_pos (hrmc.mpr hnumber), hgood] at hflag
      rw [hnumber] at hlast
      exact ⟨_, hlast, hhead.trans (congrArg some (beq_iff_eq.mp hflag.symm))⟩
    · rw [if_neg (mt hrmc.mp hnumber), if_neg hrmc'] at hflag
      exact hkept hflag
  | GPGGA =>
    rw [hkind] at hflag hkept
    rw [if_neg hgga'] at hflag
    by_cases hnumber : (closed isTerminator text).length = 6
    · rw [if_pos (hgga.mpr hnumber), hgood, eq_comm, Bool.and_eq_true, decide_eq_true_eq, decide_eq_true_eq] at hflag
      rw [hnumber] at hlast
      exact ⟨_, _, hlast, hhead, hflag⟩
    · rw [if_neg (mt hgga.mp hnumber)] at hflag
      exact hkept hflag

/-- The type behind a terminator: that of the first term once it has ended. -/
theorem ended_type (h : s.Reads text) (c : UInt8) (now : UInt32)
    (hlength : (closed isTerminator text).length < 34) :
    ((s.ended c).term_complete now).1.sentence_type =
      if closed isTerminator text = [] then typeOf (kept (since isTerminator text)) else s.sentence_type := by
  rw [term_complete_type, h.ended_text]
  have hnumber := h.number_toNat hlength
  by_cases hnone : closed isTerminator text = []
  · rw [hnone, List.length_nil] at hnumber
    have hstar : s.is_checksum_term = false := by
      rw [h.star]
      exact Bool.eq_false_iff.mpr fun hstarred => closed_ne_nil hstarred hnone
    rw [if_pos hnone]
    exact if_pos ⟨hstar, UInt8.toNat_inj.mp hnumber⟩
  · rw [if_neg hnone]
    refine if_neg fun hfirst => hnone (List.eq_nil_of_length_eq_zero ?_)
    have hzero : s.term_number = 0 := hfirst.2
    rw [← hnumber, hzero]
    rfl

theorem terminator (h : s.Reads text) {c : UInt8} (hc : isTerminator c = true) (now : UInt32) :
    (s.encode now c).1.Reads (text ++ [c]) := by
  have hclosed : closed isTerminator (text ++ [c]) = closed isTerminator text ++ [since isTerminator text] := by
    rw [closed_snoc, if_pos hc]
  have hsince : since isTerminator (text ++ [c]) = [] := since_snoc_pos text hc
  obtain ⟨hparity, hnumber⟩ := term_complete_frame (s.ended c) now
  rw [encode_terminator hc h.offset_lt]
  refine ⟨?_, ?_, ?_, ?_, ?_, ?_, ?_⟩
  · rw [starred_snoc, if_pos hc]
    rfl
  · rw [summed, combined_snoc, hc, ← summed, ← h.parity]
    apply hparity.trans
    by_cases hcomma : c = 0x2c
    · simp [ended, hcomma]
    · simp [ended, hcomma]
  · rw [hclosed, List.length_append, List.length_singleton, UInt8.ofNat_add, ← h.number]
    exact congrArg (· + 1) hnumber
  · rw [hsince]
    rfl
  · rw [hsince]
    rfl
  · rw [hclosed, List.length_append, List.length_singleton]
    intro hlength
    apply (h.ended_type c now hlength).trans
    by_cases hnone : closed isTerminator text = []
    · rw [if_pos hnone, hnone]
      rfl
    · rw [if_neg hnone, h.type (Nat.le_of_lt hlength), List.getElem?_append_left (List.length_pos_iff.mpr hnone)]
  · rw [hclosed, List.length_append, List.length_singleton]
    intro hlength hgood
    have htype := h.ended_type c now hlength
    change Flagged ((s.ended c).term_complete now).1.sentence_type _
    change ((s.ended c).term_complete now).1.gps_data_good = true at hgood
    cases term_complete_good (s.ended c) now with
    | inl hsame =>
      have hflagged := h.good (Nat.le_of_lt hlength) (hsame.symm.trans hgood)
      have hsome : closed isTerminator text ≠ [] := by
        intro hnone
        rw [hnone] at hflagged
        exact not_flagged_nil _ hflagged
      rw [htype, if_neg hsome]
      exact hflagged.append _
    | inr hstored =>
      obtain ⟨-, hfirst, hkind, hzero, hflag⟩ := hstored
      have hsome : closed isTerminator text ≠ [] := by
        intro hnone
        have hlength := h.number
        rw [hnone] at hlength
        exact hfirst hlength
      rw [htype, if_neg hsome]
      exact h.flagged_of_stored hlength hkind hzero hgood hflag

end Gps.Reads

/-- The variables behind a stream. -/
theorem Gps.feed_reads (stream : List (UInt32 × UInt8)) :
    (feed stream).Reads (sentenceOf (stream.map Prod.snd)) := by
  induction stream using List.reverseRecOn with
  | nil => exact Reads.initGps
  | append_singleton stream input ih =>
    obtain ⟨now, c⟩ := input
    rw [feed_snoc, List.map_append, List.map_singleton, sentenceOf, since_snoc, ← sentenceOf]
    by_cases hdollar : isDollar c = true
    · rw [if_pos hdollar]
      obtain rfl : c = 0x24 := beq_iff_eq.mp hdollar
      exact Reads.dollar _ now
    · rw [if_neg hdollar]
      by_cases hc : isTerminator c = true
      · exact ih.terminator hc now
      · exact ih.ordinary (Bool.eq_false_iff.mpr hc) (Bool.eq_false_iff.mpr hdollar) now

/-! ## Where the sentence is what it is taken for -/

/-- The comma that ends a term is put into the parity before the comparison. -/
def commaOf (c : UInt8) : UInt8 := if c = 0x2c then c else 0

/-- Nothing of the sentence is mistaken: it begins with `$`, its checksum term has two
hexadecimal digits, nothing is missing in the parity, its first term is in full, and of
more terms than `COMBINE` tells apart the first ones have the type and the flag. -/
structure Unmistaken (chars : List UInt8) (c : UInt8) : Prop where
  begun : 0x24 ∈ chars
  sentence : ∃ body digits, sentenceOf chars = body ++ 0x2a :: digits ∧ (∀ d ∈ digits, isTerminator d = false) ∧
    (∃ a b rest, digits = a :: b :: rest ∧ (hexDigit a).isSome ∧ (hexDigit b).isSome) ∧
    skipped body = commaOf c ∧
    (if (body.splitOnP isTerminator).length ≤ 34 then
      ∀ first, (body.splitOnP isTerminator)[0]? = some first → ¬ Abbreviated first
    else Titled (body.splitOnP isTerminator))

theorem sentenceOf_append {text : List UInt8} (before : List UInt8) (h : ∀ d ∈ text, isDollar d = false) :
    sentenceOf (before ++ 0x24 :: text) = text := by
  rw [sentenceOf, since_append_cons before text rfl]
  exact since_append_of_none [] text h

namespace Gps.Accepts

variable {s : Gps} {chars : List UInt8} {c : UInt8}

/-- Two hexadecimal digits that match the parity spell all of the body combined when what
the parity leaves out is the comma in it. -/
theorem spelled_iff {body digits rest : List UInt8} {a b : UInt8} {high low : Nat} (h : s.Accepts c)
    (hreads : s.Reads (body ++ 0x2a :: digits)) (hnone : ∀ d ∈ digits, isTerminator d = false)
    (hdigits : digits = a :: b :: rest) (ha : hexDigit a = some high) (hb : hexDigit b = some low) :
    16 * high + low = (exclusiveOr body).toNat ↔ skipped body = commaOf c := by
  have hsince := since_digits body hnone
  have hfirst : (s.ended c).term 0 = a := hreads.ended_term c (by decide) (by rw [hsince, hdigits]; rfl)
  have hsecond : (s.ended c).term 1 = b := hreads.ended_term c (by decide) (by rw [hsince, hdigits]; rfl)
  have hparity : (s.ended c).parity = summed body ^^^ commaOf c := by
    have hsummed := hreads.parity.trans (starred_digits body hnone).2
    by_cases hcomma : c = 0x2c
    · simp only [ended, commaOf, if_pos hcomma, hsummed]
    · simp only [ended, commaOf, if_neg hcomma, hsummed, UInt8.xor_zero]
  have hmatched := h.matched
  rw [hfirst, hsecond, hparity] at hmatched
  rw [← projetao.spelled_iff ha hb, hmatched, exclusiveOr_eq, UInt8.xor_right_inj, eq_comm]

/-- Among up to 34 terms a first one that is no abbreviation is the title. -/
theorem titled {body digits : List UInt8} (h : s.Accepts c) (hreads : s.Reads (body ++ 0x2a :: digits))
    (hnone : ∀ d ∈ digits, isTerminator d = false) (hlength : (body.splitOnP isTerminator).length ≤ 34)
    (hfirst : ∀ first, (body.splitOnP isTerminator)[0]? = some first → ¬ Abbreviated first) :
    Titled (body.splitOnP isTerminator) := by
  have htype := hreads.type
  have hgood := hreads.good
  rw [closed_digits body hnone] at htype hgood
  have hflagged := hgood hlength h.good
  have hkind := htype hlength
  obtain ⟨first, terms, hterms⟩ := List.exists_cons_of_ne_nil (List.splitOnP_ne_nil isTerminator body)
  have htitle : (body.splitOnP isTerminator)[0]? = some first := by rw [hterms, List.getElem?_cons_zero]
  obtain ⟨hrmc, hgga⟩ := eq_of_typeOf (hfirst first htitle)
  rw [htitle, Option.map_some, Option.getD_some] at hkind
  cases hname : s.sentence_type with
  | GPRMC =>
    rw [hname] at hflagged hkind
    exact .inl ⟨hrmc hkind.symm ▸ htitle, hflagged⟩
  | GPGGA =>
    rw [hname] at hflagged hkind
    exact .inr ⟨hgga hkind.symm ▸ htitle, hflagged⟩
  | OTHER =>
    rw [hname] at hflagged
    exact hflagged.elim

/-- A terminator that is accepted ends a genuine sentence exactly if nothing of it is
mistaken. -/
theorem genuine_iff (h : s.Accepts c) (hreads : s.Reads (sentenceOf chars)) :
    Genuine chars c ↔ Unmistaken chars c := by
  constructor
  · rintro ⟨-, before, body, digits, hchars, hdollar, hnone, hspells, htitled⟩
    obtain ⟨a, b, rest, high, low, hdigits, ha, hb, hspelled⟩ := hspells
    have hsentence : sentenceOf chars = body ++ 0x2a :: digits := by rw [hchars, sentenceOf_append before hdollar]
    rw [hsentence] at hreads
    refine ⟨by simp [hchars], body, digits, hsentence, hnone, ⟨a, b, rest, hdigits, ?_, ?_⟩, ?_, ?_⟩
    · rw [ha, Option.isSome_some]
    · rw [hb, Option.isSome_some]
    · exact (h.spelled_iff hreads hnone hdigits ha hb).mp hspelled
    · split
      · exact fun first hfirst => not_abbreviated_of_titled htitled hfirst
      · exact htitled
  · rintro ⟨hbegun, body, digits, hsentence, hnone, ⟨a, b, rest, hdigits, ha, hb⟩, hskipped, hterms⟩
    obtain ⟨high, ha⟩ := Option.isSome_iff_exists.mp ha
    obtain ⟨low, hb⟩ := Option.isSome_iff_exists.mp hb
    obtain ⟨before, d, hd, hchars, hdollar⟩ := exists_append_since hbegun (p := isDollar) rfl
    rw [← sentenceOf, hsentence, beq_iff_eq.mp hd] at hchars
    rw [← sentenceOf, hsentence] at hdollar
    rw [hsentence] at hreads
    have hspelled := (h.spelled_iff hreads hnone hdigits ha hb).mpr hskipped
    refine ⟨h.terminator, before, body, digits, hchars, hdollar, hnone, ?_, ?_⟩
    · exact ⟨a, b, rest, high, low, hdigits, ha, hb, hspelled⟩
    · split at hterms
      · next hlength => exact h.titled hreads hnone hlength hterms
      · exact hterms

end Gps.Accepts

/-- What is accepted, or published, along a stream is genuine exactly if no sentence of
it is mistaken where the parity matches and the data are flagged good. -/
theorem Gps.accepted_genuine_iff (stream : List (UInt32 × UInt8)) :
    (∀ before now c after, stream = before ++ (now, c) :: after →
      ((feed before).encode now c).2 = true ∨
        ((feed before).encode now c).1.published ≠ (feed before).published →
      Genuine (before.map Prod.snd) c) ↔
    ∀ before now c after, stream = before ++ (now, c) :: after → (feed before).Accepts c →
      Unmistaken (before.map Prod.snd) c := by
  refine forall_congr' fun before => forall_congr' fun now => forall_congr' fun c => forall_congr' fun after =>
    forall_congr' fun _ => ?_
  have hreads := feed_reads before
  rw [encode_accepts_iff hreads.offset_lt]
  exact forall_congr' fun haccepts => haccepts.genuine_iff hreads

/-- The second character of the checksum is not a hexadecimal digit. -/
def mistakenDigit : List (UInt32 × UInt8) := characters "$GPRMC,1,A*0k"

/-- It is taken for the digit that matches the parity. -/
theorem Gps.accepts_mistaken_digit :
    ¬ ∀ (stream : List (UInt32 × UInt8)) before now c after, stream = before ++ (now, c) :: after →
      ((feed before).encode now c).2 = true ∨
        ((feed before).encode now c).1.published ≠ (feed before).published →
      Genuine (before.map Prod.snd) c := by
  intro h
  have haccepted : ((feed mistakenDigit).encode 0 0x0d).2 = true := by decide +kernel
  obtain ⟨-, before, body, digits, hchars, hdollar, hnone, ⟨a, b, rest, high, low, hdigits, -, hb, -⟩, -⟩ :=
    h (mistakenDigit ++ [(0, 0x0d)]) mistakenDigit 0 0x0d [] rfl (.inl haccepted)
  have hterm : since isTerminator (sentenceOf (mistakenDigit.map Prod.snd)) = [0x30, 0x6b] := by decide +kernel
  rw [hchars, sentenceOf_append before hdollar, since_digits body hnone, hdigits] at hterm
  cases hterm
  cases hb

end concretid.projetao
