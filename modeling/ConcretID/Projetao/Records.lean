import Mathlib.Tactic.IntervalCases
import ConcretID.Projetao.Acceptance

open concretid.memory concretid.history

namespace concretid.projetao

/-! ## What a sentence says, term by term -/

/-- What is published: the values, the times of the fix and the sentences counted. -/
structure Fix where
  value : Field → UInt32
  time_fix : UInt32
  position_fix : UInt32
  good_sentences : UInt16
  failed_checksum : UInt16

/-- The `_new_` variables and the flag of good data. -/
structure Record where
  new : Field → UInt32
  time_fix : UInt32
  position_fix : UInt32
  good : Bool

namespace Record

/-- A value for a field. -/
def set (r : Record) (f : Field) (value : UInt32) : Record := { r with new := Function.update r.new f value }

/-- The sign of a field turned for a letter. -/
def turn (r : Record) (f : Field) (letter : UInt8) (text : List UInt8) : Record :=
  if text.head? = some letter then r.set f (-r.new f) else r

/-- A term of a sentence, with its number in it and the time it ends at. An empty term says
nothing. -/
def read (r : Record) (type : SentenceType) (number : Nat) (text : List UInt8) (now : UInt32) : Record :=
  if text = [] then r
  else
    match type, number with
    | .GPRMC, 1 | .GPGGA, 1 => { r.set .time (parse_decimal text) with time_fix := now }
    | .GPRMC, 2 => { r with good := text.head? == some 0x41 }
    | .GPRMC, 3 | .GPGGA, 2 => { r.set .latitude (parse_degrees text) with position_fix := now }
    | .GPRMC, 4 | .GPGGA, 3 => r.turn .latitude 0x53 text
    | .GPRMC, 5 | .GPGGA, 4 => r.set .longitude (parse_degrees text)
    | .GPRMC, 6 | .GPGGA, 5 => r.turn .longitude 0x57 text
    | .GPRMC, 7 => r.set .speed (parse_decimal text)
    | .GPRMC, 8 => r.set .course (parse_decimal text)
    | .GPRMC, 9 => r.set .date (gpsatol text)
    | .GPGGA, 6 => { r with good := text.head?.any fun c => 0x30 < c && c < 0x80 }
    | .GPGGA, 7 => r.set .numsats (satellites text)
    | .GPGGA, 8 => r.set .hdop (parse_decimal text)
    | .GPGGA, 9 => r.set .altitude (parse_decimal text)
    | _, _ => r

/-- The terms of a sentence from the first one on, with their times. -/
def readAll (r : Record) (type : SentenceType) (terms : List (List UInt8 × UInt32)) : Record :=
  terms.zipIdx.foldl (fun r term => r.read type term.2 term.1.1 term.1.2) r

theorem readAll_snoc (r : Record) (type : SentenceType) (terms : List (List UInt8 × UInt32))
    (term : List UInt8 × UInt32) :
    r.readAll type (terms ++ [term]) = (r.readAll type terms).read type terms.length term.1 term.2 := by
  simp [readAll, List.zipIdx_append]

theorem read_zero (r : Record) (type : SentenceType) (text : List UInt8) (now : UInt32) :
    r.read type 0 text now = r := by
  unfold read
  split
  · rfl
  · cases type <;> rfl

theorem read_nil (r : Record) (type : SentenceType) (number : Nat) (now : UInt32) :
    r.read type number [] now = r := by
  unfold read
  exact if_pos rfl

theorem read_other (r : Record) (number : Nat) (text : List UInt8) (now : UInt32) :
    r.read .OTHER number text now = r := by
  unfold read
  split
  · rfl
  · rfl

/-- A term behind the tenth one says nothing. -/
theorem read_late (r : Record) (type : SentenceType) {number : Nat} (hlate : 10 ≤ number) (text : List UInt8)
    (now : UInt32) : r.read type number text now = r := by
  unfold read
  split
  · rfl
  · split <;> first | omega | rfl

end Record

namespace Gps

def fix (s : Gps) : Fix :=
  { value := s.published
    time_fix := s.last_time_fix
    position_fix := s.last_position_fix
    good_sentences := s.good_sentences
    failed_checksum := s.failed_checksum }

def record (s : Gps) : Record :=
  { new := s.new
    time_fix := s.new_time_fix
    position_fix := s.new_position_fix
    good := s.gps_data_good }

@[simp] theorem setNew_record (s : Gps) (f : Field) (value : UInt32) :
    (s.setNew f value).record = s.record.set f value := rfl

theorem turn_record (s : Gps) (f : Field) (letter : UInt8) {text : List UInt8}
    (hhead : text.head? = some (s.term 0)) :
    (if s.term 0 = letter then s.negateNew f else s).record = s.record.turn f letter text := by
  rw [Record.turn, hhead]
  by_cases hletter : s.term 0 = letter
  · rw [if_pos hletter, if_pos (congrArg some hletter)]
    rfl
  · rw [if_neg hletter, if_neg fun h => hletter (Option.some.inj h)]

/-- From the tenth term on, up to the 32nd, nothing is stored. -/
theorem store_term_late (s : Gps) (now : UInt32) {type : SentenceType} (htype : type ≠ .OTHER) {n : Nat}
    (hlate : 10 ≤ n) (hn : n < 32) : s.store_term now (COMBINE type n) = s := by
  have hcode : ∀ n < 32, 10 ≤ n → ∀ k < 10, COMBINE .GPRMC n ≠ COMBINE .GPRMC k ∧
      COMBINE .GPRMC n ≠ COMBINE .GPGGA k ∧ COMBINE .GPGGA n ≠ COMBINE .GPRMC k ∧
        COMBINE .GPGGA n ≠ COMBINE .GPGGA k := by
    decide
  have hfar := hcode n hn hlate
  cases type with
  | OTHER => exact absurd rfl htype
  | GPRMC => simp [store_term, hfar]
  | GPGGA => simp [store_term, hfar]

/-- A stored term is read. -/
theorem store_term_record (s : Gps) (now : UInt32) {n : Nat} (hn : n < 32) {type : SentenceType}
    (htype : type ≠ .OTHER) (hterm : s.term 0 ≠ 0) :
    (s.store_term now (COMBINE type n)).record = s.record.read type n s.text now := by
  have hhead : s.text.head? = some (s.term 0) := by simp [text_eq, hterm]
  have htext : s.text ≠ [] := by simp [text_eq, hterm]
  by_cases hlate : 10 ≤ n
  · rw [store_term_late s now htype hlate hn, Record.read_late _ _ hlate]
  unfold Record.read
  rw [if_neg htext]
  cases type with
  | OTHER => exact absurd rfl htype
  | GPRMC =>
    interval_cases n
    · rfl
    · rfl
    · change { s.record with good := s.term 0 == 0x41 } = { s.record with good := s.text.head? == some 0x41 }
      rw [hhead]
      rfl
    · rfl
    · exact turn_record s .latitude 0x53 hhead
    · rfl
    · exact turn_record s .longitude 0x57 hhead
    · rfl
    · rfl
    · rfl
  | GPGGA =>
    interval_cases n
    · rfl
    · rfl
    · rfl
    · exact turn_record s .latitude 0x53 hhead
    · rfl
    · exact turn_record s .longitude 0x57 hhead
    · change { s.record with good := decide (0x30 < s.term 0) && decide (s.term 0 < 0x80) } =
        { s.record with good := s.text.head?.any fun c => 0x30 < c && c < 0x80 }
      rw [hhead]
      rfl
    · rfl
    · rfl
    · rfl

/-- A term in front of the checksum is read. -/
theorem term_complete_record (s : Gps) (now : UInt32) (hplain : s.is_checksum_term = false)
    (hnumber : s.term_number.toNat < 32) :
    (s.term_complete now).1.record = s.record.read s.sentence_type s.term_number.toNat s.text now := by
  rw [term_complete, if_neg (by simp [hplain])]
  generalize Event.term s.sentence_type s.term_number s.text = e
  by_cases hzero : s.term_number = 0
  · rw [if_pos (show (s.emit e).term_number = 0 from hzero), hzero]
    exact (Record.read_zero _ _ _ _).symm
  · rw [if_neg (show ¬(s.emit e).term_number = 0 from hzero)]
    by_cases hterm : (s.emit e).sentence_type ≠ .OTHER ∧ (s.emit e).term 0 ≠ 0
    · rw [if_pos hterm]
      exact store_term_record _ now hnumber hterm.1 hterm.2
    · rw [if_neg hterm]
      obtain htype | hempty := Decidable.or_iff_not_not_and_not.mpr hterm
      · rw [show s.sentence_type = .OTHER from htype, Record.read_other]
        rfl
      · rw [text_eq, if_pos (show s.term 0 = 0 from hempty), Record.read_nil]
        rfl

theorem store_term_fix (s : Gps) (now : UInt32) (code : Nat) : (s.store_term now code).fix = s.fix := by
  have hstored := s.stored now code
  generalize s.store_term now code = s' at hstored ⊢
  cases hstored <;> rfl

/-- It publishes nothing. -/
theorem term_complete_quiet (s : Gps) (now : UInt32) (hplain : s.is_checksum_term = false) :
    (s.term_complete now).2 = false ∧ (s.term_complete now).1.fix = s.fix := by
  have hcompleted := s.completed now
  generalize s.term_complete now = r at hcompleted
  cases hcompleted with
  | accept hchecksum => rw [hchecksum] at hplain; cases hplain
  | reject hchecksum => rw [hchecksum] at hplain; cases hplain
  | first => exact ⟨rfl, rfl⟩
  | stored => exact ⟨rfl, store_term_fix _ now _⟩
  | skipped => exact ⟨rfl, rfl⟩

end Gps

/-! ## A sentence, character by character -/

/-- When the terms of a stream have ended. -/
def stops (stream : List (UInt32 × UInt8)) : List UInt32 :=
  (stream.filter fun input => isTerminator input.2).map Prod.fst

/-- The terms of a stream that have ended, as they fit into `_term`, with their times. -/
def timedTerms (stream : List (UInt32 × UInt8)) : List (List UInt8 × UInt32) :=
  ((closed isTerminator (stream.map Prod.snd)).map kept).zip (stops stream)

/-- The type that the first term gives. -/
def titleOf (terms : List (List UInt8)) : SentenceType := (terms[0]?.map typeOf).getD .OTHER

theorem stops_length (stream : List (UInt32 × UInt8)) :
    (stops stream).length = (closed isTerminator (stream.map Prod.snd)).length := by
  induction stream using List.reverseRecOn with
  | nil => rfl
  | append_singleton stream input ih =>
    rw [List.map_append, List.map_singleton, closed_snoc]
    by_cases hc : isTerminator input.2 = true
    · rw [if_pos hc, List.length_append, ← ih]
      simp [stops, hc]
    · rw [if_neg hc, ← ih]
      simp [stops, hc]

theorem timedTerms_fst (stream : List (UInt32 × UInt8)) :
    (timedTerms stream).map Prod.fst = (closed isTerminator (stream.map Prod.snd)).map kept := by
  rw [timedTerms, List.map_fst_zip]
  rw [stops_length, List.length_map]

theorem timedTerms_length (stream : List (UInt32 × UInt8)) :
    (timedTerms stream).length = (closed isTerminator (stream.map Prod.snd)).length := by
  rw [← List.length_map (f := Prod.fst), timedTerms_fst, List.length_map]

theorem timedTerms_snoc (stream : List (UInt32 × UInt8)) (now : UInt32) {c : UInt8} (hc : isTerminator c = true) :
    timedTerms (stream ++ [(now, c)]) =
      timedTerms stream ++ [(kept (since isTerminator (stream.map Prod.snd)), now)] := by
  have hstops : stops (stream ++ [(now, c)]) = stops stream ++ [now] := by simp [stops, hc]
  rw [timedTerms, hstops, List.map_append, List.map_singleton, closed_snoc, if_pos hc, List.map_append,
    List.zip_append (by rw [List.length_map, stops_length])]
  rfl

theorem timedTerms_snoc_neg (stream : List (UInt32 × UInt8)) (now : UInt32) {c : UInt8}
    (hc : isTerminator c = false) : timedTerms (stream ++ [(now, c)]) = timedTerms stream := by
  rw [timedTerms, List.map_append, List.map_singleton, closed_snoc, if_neg (by simp [hc])]
  simp [timedTerms, stops, hc]

theorem starred_of_none {text : List UInt8} (h : ∀ c ∈ text, c ≠ 0x2a) : starred text = false := by
  induction text using List.reverseRecOn with
  | nil => rfl
  | append_singleton text c ih =>
    have hc : c ≠ 0x2a := h c (by simp)
    rw [starred_snoc, ih fun d hd => h d (List.mem_append_left _ hd)]
    split
    · simpa using hc
    · rfl

namespace Gps

/-- Not in a checksum term, with room for the end of the term. -/
structure Ready (s : Gps) : Prop where
  plain : s.is_checksum_term = false
  offset_lt : s.term_offset < 15

theorem encode_offset_lt {s : Gps} (hoffset : s.term_offset < 15) (now : UInt32) (c : UInt8) :
    (s.encode now c).1.term_offset < 15 := by
  by_cases hc : isTerminator c = true
  · rw [encode_terminator hc hoffset]
    exact Nat.zero_lt_succ _
  · by_cases hdollar : isDollar c = true
    · rw [beq_iff_eq.mp hdollar, encode_dollar]
      exact Nat.zero_lt_succ _
    · rw [encode_ordinary (Bool.eq_false_iff.mpr hc) (Bool.eq_false_iff.mpr hdollar)]
      dsimp only
      split <;> omega

/-- Only the end of a checksum term publishes. -/
theorem encode_quiet {s : Gps} (hoffset : s.term_offset < 15) {c : UInt8}
    (hplain : s.is_checksum_term = false ∨ isTerminator c = false) (now : UInt32) :
    (s.encode now c).2 = false ∧ (s.encode now c).1.fix = s.fix := by
  by_cases hc : isTerminator c = true
  · rw [encode_terminator hc hoffset]
    exact (s.ended c).term_complete_quiet now (hplain.resolve_right (by rw [hc]; exact Bool.noConfusion))
  · by_cases hdollar : isDollar c = true
    · rw [beq_iff_eq.mp hdollar, encode_dollar]
      exact ⟨rfl, rfl⟩
    · rw [encode_ordinary (Bool.eq_false_iff.mpr hc) (Bool.eq_false_iff.mpr hdollar)]
      exact ⟨rfl, rfl⟩

theorem Ready.encode {s : Gps} (h : s.Ready) {c : UInt8} (hc : c ≠ 0x2a) (now : UInt32) :
    (s.encode now c).1.Ready := by
  refine ⟨?_, encode_offset_lt h.offset_lt now c⟩
  by_cases hterminator : isTerminator c = true
  · rw [encode_terminator hterminator h.offset_lt]
    exact decide_eq_false hc
  · by_cases hdollar : isDollar c = true
    · rw [beq_iff_eq.mp hdollar, encode_dollar]
      rfl
    · rw [encode_ordinary (Bool.eq_false_iff.mpr hterminator) (Bool.eq_false_iff.mpr hdollar)]
      exact h.plain

/-- Characters fed one after the other, with what `encode` returns for each. -/
def encodeAll (s : Gps) : List (UInt32 × UInt8) → Gps × List Bool
  | [] => (s, [])
  | input :: rest =>
    let step := s.encode input.1 input.2
    let later := step.1.encodeAll rest
    (later.1, step.2 :: later.2)

theorem encodeAll_append (s : Gps) (stream more : List (UInt32 × UInt8)) :
    s.encodeAll (stream ++ more) =
      (((s.encodeAll stream).1.encodeAll more).1,
        (s.encodeAll stream).2 ++ ((s.encodeAll stream).1.encodeAll more).2) := by
  induction stream generalizing s with
  | nil => rfl
  | cons input stream ih =>
    simp only [List.cons_append, encodeAll]
    rw [ih]

theorem encodeAll_two (s : Gps) (input input' : UInt32 × UInt8) :
    s.encodeAll [input, input'] =
      (((s.encode input.1 input.2).1.encode input'.1 input'.2).1,
        [(s.encode input.1 input.2).2, ((s.encode input.1 input.2).1.encode input'.1 input'.2).2]) := rfl

/-- Nothing of a stream publishes anything. -/
structure Quiet (s : Gps) (stream : List (UInt32 × UInt8)) : Prop where
  results : (s.encodeAll stream).2 = List.replicate stream.length false
  fix_eq : (s.encodeAll stream).1.fix = s.fix

namespace Quiet

variable {s : Gps} {stream more : List (UInt32 × UInt8)}

theorem nil (s : Gps) : s.Quiet [] := ⟨rfl, rfl⟩

theorem append (h : s.Quiet stream) (hmore : (s.encodeAll stream).1.Quiet more) : s.Quiet (stream ++ more) := by
  refine ⟨?_, ?_⟩
  · rw [encodeAll_append, h.results, hmore.results, List.length_append, List.replicate_add]
  · rw [encodeAll_append]
    exact hmore.fix_eq.trans h.fix_eq

theorem single {now : UInt32} {c : UInt8} (h : (s.encode now c).2 = false ∧ (s.encode now c).1.fix = s.fix) :
    s.Quiet [(now, c)] := by
  refine ⟨?_, h.2⟩
  rw [encodeAll, h.1]
  rfl

end Quiet

/-- Without a `*` nothing is published, and no checksum term is reached. -/
theorem Ready.encodeAll {s : Gps} (h : s.Ready) {stream : List (UInt32 × UInt8)}
    (hstar : ∀ c ∈ stream.map Prod.snd, c ≠ 0x2a) : s.Quiet stream ∧ (s.encodeAll stream).1.Ready := by
  induction stream generalizing s with
  | nil => exact ⟨.nil s, h⟩
  | cons input stream ih =>
    obtain ⟨now, c⟩ := input
    rw [List.map_cons, List.forall_mem_cons] at hstar
    obtain ⟨hquiet, hready⟩ := ih (h.encode hstar.1 now) hstar.2
    exact ⟨(Quiet.single (encode_quiet h.offset_lt (.inl h.plain) now)).append hquiet, hready⟩

/-- What the variables say of a sentence goes on with its characters. -/
theorem Reads.encodeAll {s : Gps} {text : List UInt8} (h : s.Reads text) {stream : List (UInt32 × UInt8)}
    (hdollar : ∀ c ∈ stream.map Prod.snd, isDollar c = false) :
    (s.encodeAll stream).1.Reads (text ++ stream.map Prod.snd) := by
  induction stream generalizing s text with
  | nil => simpa [Gps.encodeAll] using h
  | cons input stream ih =>
    obtain ⟨now, c⟩ := input
    rw [List.map_cons, List.forall_mem_cons] at hdollar
    have hnext : (s.encode now c).1.Reads (text ++ [c]) := by
      by_cases hc : isTerminator c = true
      · exact h.terminator hc now
      · exact h.ordinary (Bool.eq_false_iff.mpr hc) hdollar.1 now
    rw [List.map_cons, List.append_cons]
    exact ih hnext hdollar.2

/-- A state in the middle of a sentence that has begun in `s₀`, with the terms that have
ended read. -/
structure Takes (s₀ s : Gps) (stream : List (UInt32 × UInt8)) : Prop where
  reads : s.Reads (stream.map Prod.snd)
  record_eq : s.record =
    s₀.record.readAll (titleOf ((closed isTerminator (stream.map Prod.snd)).map kept)) (timedTerms stream)

namespace Takes

variable {s₀ s : Gps} {stream : List (UInt32 × UInt8)}

theorem ordinary (h : Takes s₀ s stream) {c : UInt8} (hc : isTerminator c = false) (hdollar : isDollar c = false)
    (now : UInt32) : Takes s₀ (s.encode now c).1 (stream ++ [(now, c)]) := by
  have hclosed : closed isTerminator ((stream ++ [(now, c)]).map Prod.snd) =
      closed isTerminator (stream.map Prod.snd) := by
    rw [List.map_append, List.map_singleton, closed_snoc, if_neg (by simp [hc])]
  have hreads := h.reads.ordinary hc hdollar now
  rw [encode_ordinary hc hdollar now] at hreads ⊢
  refine ⟨?_, ?_⟩
  · rw [List.map_append]
    exact hreads
  · rw [hclosed, timedTerms_snoc_neg _ _ hc]
    exact h.record_eq

theorem sentence_type_eq (h : Takes s₀ s stream)
    (hlength : (closed isTerminator (stream.map Prod.snd)).length ≤ 34) :
    s.sentence_type = titleOf ((closed isTerminator (stream.map Prod.snd)).map kept) := by
  rw [h.reads.type hlength, titleOf, List.getElem?_map, Option.map_map]
  rfl

/-- A terminator in front of the checksum ends a term, which is read. -/
theorem terminator (h : Takes s₀ s stream) {c : UInt8} (hc : isTerminator c = true)
    (hplain : starred (stream.map Prod.snd) = false)
    (hlength : (closed isTerminator (stream.map Prod.snd)).length < 32) (now : UInt32) :
    Takes s₀ (s.encode now c).1 (stream ++ [(now, c)]) := by
  have hreads := h.reads.terminator hc now
  have hnumber : s.term_number.toNat = (closed isTerminator (stream.map Prod.snd)).length :=
    h.reads.number_toNat (by omega)
  have hread := term_complete_record (s.ended c) now (h.reads.star.trans hplain)
    (by rw [show (s.ended c).term_number = s.term_number from rfl, hnumber]; exact hlength)
  have hterm := h.reads.ended_text c
  rw [encode_terminator hc h.reads.offset_lt] at hreads ⊢
  refine ⟨?_, ?_⟩
  · rw [List.map_append]
    exact hreads
  · rw [List.map_append, List.map_singleton, closed_snoc, if_pos hc, timedTerms_snoc _ _ hc, Record.readAll_snoc,
      timedTerms_length]
    apply hread.trans
    rw [hterm, show (s.ended c).term_number = s.term_number from rfl, hnumber,
      show (s.ended c).sentence_type = s.sentence_type from rfl, h.sentence_type_eq (by omega),
      show (s.ended c).record = s.record from rfl, h.record_eq]
    cases hclosed : closed isTerminator (stream.map Prod.snd) with
    | nil =>
      have hnone : timedTerms stream = [] := by
        rw [← List.length_eq_zero_iff, timedTerms_length, hclosed]
        rfl
      rw [hnone, List.length_nil, Record.read_zero, Record.read_zero]
      rfl
    | cons first rest => rfl

end Takes

/-- A sentence up to its checksum is read term by term. -/
theorem takes_body {s₀ : Gps} (hreads : s₀.Reads []) {stream : List (UInt32 × UInt8)}
    (hdollar : ∀ c ∈ stream.map Prod.snd, isDollar c = false) (hstar : ∀ c ∈ stream.map Prod.snd, c ≠ 0x2a)
    (hlength : (closed isTerminator (stream.map Prod.snd)).length < 32) :
    Takes s₀ (s₀.encodeAll stream).1 stream := by
  induction stream using List.reverseRecOn with
  | nil => exact ⟨hreads, rfl⟩
  | append_singleton stream input ih =>
    obtain ⟨now, c⟩ := input
    rw [List.map_append, List.map_singleton] at hdollar hstar hlength
    have hshorter : (closed isTerminator (stream.map Prod.snd)).length < 32 := by
      rw [closed_snoc] at hlength
      split at hlength
      · rw [List.length_append] at hlength
        omega
      · exact hlength
    have hstar' : ∀ d ∈ stream.map Prod.snd, d ≠ 0x2a := fun d hd => hstar d (List.mem_append_left _ hd)
    have htakes := ih (fun d hd => hdollar d (List.mem_append_left _ hd)) hstar' hshorter
    rw [encodeAll_append]
    by_cases hc : isTerminator c = true
    · exact htakes.terminator hc (starred_of_none hstar') hshorter now
    · exact htakes.ordinary (Bool.eq_false_iff.mpr hc) (hdollar c (by simp)) now

end Gps

end concretid.projetao
