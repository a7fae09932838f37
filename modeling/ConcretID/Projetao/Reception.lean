import ConcretID.Projetao.Reports

open concretid.history

namespace concretid.projetao

/-! ## Sentences of reports -/

inductive Report where
  | rmc (m : Rmc)
  | gga (g : Gga)

namespace Report

def type : Report → SentenceType
  | rmc _ => .GPRMC
  | gga _ => .GPGGA

def front : Report → List (List UInt8)
  | rmc m => m.front
  | gga g => g.front

def more : Report → List (List UInt8)
  | rmc m => m.more
  | gga g => g.more

def terms (r : Report) : List (List UInt8) := r.front ++ r.more

/-- Its terms with commas between them. -/
def body (r : Report) : List UInt8 := [0x2c].intercalate r.terms

def value : Report → Field → Option Int
  | rmc m => m.value
  | gga g => g.value

variable (r : Report)

theorem front_length : r.front.length = 10 := by cases r <;> rfl

theorem more_length : r.more.length ≤ 22 := by
  cases r with
  | rmc m => exact m.more_length
  | gga g => exact g.more_length

theorem terms_length : r.terms.length ≤ 32 := by
  have hmore := r.more_length
  rw [terms, List.length_append, front_length]
  omega

theorem terms_ne_nil : r.terms ≠ [] := by
  rw [Ne, ← List.length_eq_zero_iff, terms, List.length_append, front_length]
  omega

theorem front_written : ∀ term ∈ r.front, Written term := by
  cases r with
  | rmc m => exact m.written
  | gga g => exact g.written

theorem more_ignored : ∀ term ∈ r.more, Ignored term := by
  cases r with
  | rmc m => exact m.ignored
  | gga g => exact g.ignored

theorem terms_chars : ∀ term ∈ r.terms, ∀ c ∈ term, isTerminator c = false ∧ isDollar c = false := by
  intro term hterm c hc
  obtain hfront | hmore := List.mem_append.mp hterm
  · exact ((r.front_written term hfront).chars c hc).2.2
  · exact r.more_ignored term hmore c hc

theorem front_kept : r.front.map kept = r.front :=
  (List.map_congr_left fun term hterm => (r.front_written term hterm).kept_eq).trans (List.map_id _)

/-- The first term gives the type. -/
theorem title : titleOf (r.terms.map kept) = r.type := by
  rw [terms, List.map_append, front_kept]
  cases r with
  | rmc m => exact show typeOf GPRMC_TERM = .GPRMC by decide
  | gga g => exact show typeOf GPGGA_TERM = .GPGGA by decide

theorem value_isSome (f : Field) : (r.value f).isSome = true ↔ f ∈ r.type.fields := by
  cases r with
  | rmc m => cases f <;> simp [value, type, Rmc.value, SentenceType.fields]
  | gga g => cases f <;> simp [value, type, Gga.value, SentenceType.fields]

theorem read (old : Record) {timed : List (List UInt8 × UInt32)}
    (htimed : timed.map Prod.fst = r.terms.map kept) :
    (old.readAll r.type timed).good = true ∧
      ∀ f v, r.value f = some v → signed ((old.readAll r.type timed).new f) = v := by
  rw [terms, List.map_append, front_kept] at htimed
  obtain ⟨front, more, rfl, hfront, -⟩ := List.map_eq_append_iff.mp htimed
  have hlength : 10 ≤ front.length := by
    rw [← List.length_map (f := Prod.fst), hfront, front_length]
  rw [Record.readAll_append old r.type hlength]
  cases r with
  | rmc m => exact m.read old hfront
  | gga g => exact g.read old hfront

end Report

/-- Terms with commas between them are cut where they were put together. -/
theorem splitOnP_terms {terms : List (List UInt8)} (hne : terms ≠ [])
    (hterms : ∀ term ∈ terms, ∀ c ∈ term, isTerminator c = false) :
    ([0x2c].intercalate terms).splitOnP isTerminator = terms := by
  induction terms with
  | nil => exact absurd rfl hne
  | cons term terms ih =>
    rw [List.forall_mem_cons] at hterms
    cases terms with
    | nil =>
      rw [List.intercalate_singleton]
      exact List.splitOnP_eq_singleton hterms.1
    | cons next terms =>
      rw [List.intercalate_cons_cons, List.append_assoc, List.singleton_append, List.splitOnP_append_cons _ _ rfl,
        List.splitOnP_eq_singleton hterms.1, ih (List.cons_ne_nil _ _) hterms.2]
      rfl

theorem mem_intercalate {terms : List (List UInt8)} {c : UInt8} (h : c ∈ [0x2c].intercalate terms) :
    c = 0x2c ∨ ∃ term ∈ terms, c ∈ term := by
  induction terms with
  | nil => exact absurd h List.not_mem_nil
  | cons term terms ih =>
    cases terms with
    | nil => exact .inr ⟨term, List.mem_cons_self, by simpa using h⟩
    | cons next terms =>
      rw [List.intercalate_cons_cons, List.append_assoc, List.mem_append, List.singleton_append, List.mem_cons] at h
      obtain hterm | hcomma | hrest := h
      · exact .inr ⟨term, List.mem_cons_self, hterm⟩
      · exact .inl hcomma
      · obtain hcomma | ⟨term', hmem, hc⟩ := ih hrest
        · exact .inl hcomma
        · exact .inr ⟨term', List.mem_cons_of_mem _ hmem, hc⟩

theorem Report.body_plain (r : Report) : Plain r.body := by
  intro c hc
  obtain rfl | ⟨term, hterm, hc⟩ := mem_intercalate hc
  · decide
  · obtain ⟨hterminator, hdollar⟩ := r.terms_chars term hterm c hc
    refine ⟨hdollar, ?_⟩
    rintro rfl
    cases hterminator

theorem Report.body_split (r : Report) : r.body.splitOnP isTerminator = r.terms :=
  splitOnP_terms r.terms_ne_nil fun term hterm c hc => (r.terms_chars term hterm c hc).1

/-! ## What is said, line by line -/

inductive Said where
  | nothing
  | wrong
  | report (r : Report)

/-- The lines of a receiver: a report, a sentence with a checksum that is wrong, one
without good data, and characters without a `*`, as in a sentence cut short. -/
inductive Line : List UInt8 → Said → Prop
  | report (r : Report) {a b : UInt8} {high low : Nat} (ha : hexDigit a = some high) (hb : hexDigit b = some low)
      (hsum : 16 * high + low = (exclusiveOr r.body).toNat) : Line (lineOf r.body a b) (.report r)
  | wrong {body : List UInt8} (hbody : Plain body) {a b : UInt8} {high low : Nat} (ha : hexDigit a = some high)
      (hb : hexDigit b = some low) (hsum : 16 * high + low ≠ (exclusiveOr body).toNat) :
      Line (lineOf body a b) .wrong
  | unflagged {body : List UInt8} (hbody : Plain body) {a b : UInt8} {high low : Nat} (ha : hexDigit a = some high)
      (hb : hexDigit b = some low) (hsum : 16 * high + low = (exclusiveOr body).toNat)
      (hlength : (body.splitOnP isTerminator).length ≤ 34)
      (hflag : ¬ Flagged (titleOf ((body.splitOnP isTerminator).map kept)) (body.splitOnP isTerminator)) :
      Line (lineOf body a b) .nothing
  | noise {text : List UInt8} (h : ∀ c ∈ text, c ≠ 0x2a) : Line text .nothing

/-- What `encode` returns for the characters of a line: true for the carriage return
behind a report, and for nothing else. -/
def Said.answers (length : Nat) : Said → List Bool
  | nothing => List.replicate length false
  | wrong => List.replicate length false
  | report _ => List.replicate (length - 2) false ++ [true, false]

/-- What a receiver has said so far. -/
structure Status where
  value : Field → Int
  reports : Nat
  wrong : Nat

def Status.hear (st : Status) : Said → Status
  | .nothing => st
  | .wrong => { st with wrong := st.wrong + 1 }
  | .report r => { st with
      value := fun f => (r.value f).getD (st.value f)
      reports := st.reports + 1 }

def Said.isReport : Said → Bool
  | report _ => true
  | _ => false

def Said.isWrong : Said → Bool
  | wrong => true
  | _ => false

/-- The variables show it. -/
structure Fix.Shows (fix : Fix) (st : Status) : Prop where
  value : ∀ f, signed (fix.value f) = st.value f
  reports : fix.good_sentences = UInt16.ofNat st.reports
  wrong : fix.failed_checksum = UInt16.ofNat st.wrong

/-- What the variables show at any time. -/
def Fix.status (fix : Fix) : Status :=
  { value := fun f => signed (fix.value f)
    reports := fix.good_sentences.toNat
    wrong := fix.failed_checksum.toNat }

theorem Fix.shows_itself (fix : Fix) : fix.Shows fix.status :=
  ⟨fun _ => rfl, UInt16.ofNat_toNat.symm, UInt16.ofNat_toNat.symm⟩

theorem Fix.Shows.wrong_one {fix : Fix} {st : Status} (h : fix.Shows st) {checked : Prop} [Decidable checked]
    (hchecked : ¬ checked) (type : SentenceType) (r : Record) :
    (fix.settle checked type r).Shows (st.hear .wrong) := by
  rw [Fix.settle, if_neg hchecked]
  exact ⟨h.value, h.reports, by rw [h.wrong]; exact (UInt16.ofNat_add _ _).symm⟩

theorem Fix.Shows.unflagged {fix : Fix} {st : Status} (h : fix.Shows st) {checked : Prop} [Decidable checked]
    (hchecked : checked) (type : SentenceType) {r : Record} (hgood : ¬ r.good = true) :
    (fix.settle checked type r).Shows st := by
  rw [Fix.settle, if_pos hchecked, if_neg hgood]
  exact h

/-- A report that is read is shown. -/
theorem Fix.Shows.report {fix : Fix} {st : Status} (h : fix.Shows st) {checked : Prop} [Decidable checked]
    (hchecked : checked) (r : Report) {read : Record} (hgood : read.good = true)
    (hnew : ∀ f v, r.value f = some v → signed (read.new f) = v) :
    (fix.settle checked r.type read).Shows (st.hear (.report r)) := by
  rw [Fix.settle, if_pos hchecked, if_pos hgood]
  refine ⟨fun f => ?_, by rw [h.reports]; exact (UInt16.ofNat_add _ _).symm, h.wrong⟩
  change signed (if f ∈ r.type.fields then read.new f else fix.value f) = (r.value f).getD (st.value f)
  cases hvalue : r.value f with
  | some v =>
    rw [if_pos ((r.value_isSome f).mp (by rw [hvalue]; rfl)), hnew f v hvalue]
    rfl
  | none =>
    rw [if_neg fun hf => by simpa [hvalue] using (r.value_isSome f).mpr hf, h.value f]
    rfl

/-! ## What is heard -/

/-- A sentence with two hexadecimal digits for its checksum. -/
theorem Gps.Ready.sentence {s : Gps} (h : s.Ready) {body : List UInt8} (hbody : Plain body) {a b : UInt8}
    {high low : Nat} (ha : hexDigit a = some high) (hb : hexDigit b = some low) {stream : List (UInt32 × UInt8)}
    (hstream : stream.map Prod.snd = lineOf body a b) :
    ∃ s' : Gps, s'.Reads (body ++ [0x2a, a, b]) ∧
      (s.encodeAll stream).2 = List.replicate ((lineOf body a b).length - 2) false ++
        [decide (16 * high + low = (exclusiveOr body).toNat) && s'.gps_data_good, false] ∧
      (s.encodeAll stream).1.Ready ∧
      (s.encodeAll stream).1.fix =
        s.fix.settle (16 * high + low = (exclusiveOr body).toNat) s'.sentence_type s'.record ∧
      ((body.splitOnP isTerminator).length ≤ 32 →
        ∃ (old : Record) (timed : List (List UInt8 × UInt32)),
          timed.map Prod.fst = (body.splitOnP isTerminator).map kept ∧
          s'.sentence_type = titleOf ((body.splitOnP isTerminator).map kept) ∧
          s'.record = old.readAll (titleOf ((body.splitOnP isTerminator).map kept)) timed) := by
  obtain ⟨t₀, bodyStream, t₁, t₂, t₃, t₄, t₅, rfl, rfl⟩ := exists_line hstream
  let front := (t₀, 0x24) :: (bodyStream ++ [(t₁, 0x2a), (t₂, a), (t₃, b)])
  have hsplit : (t₀, 0x24) :: (bodyStream ++ [(t₁, 0x2a), (t₂, a), (t₃, b), (t₄, 0x0d), (t₅, 0x0a)]) =
      front ++ [(t₄, 0x0d), (t₅, 0x0a)] := by simp [front]
  obtain ⟨hquiet, hreads, htakes⟩ := line_reached h.offset_lt hbody ha hb t₀ t₁ t₂ t₃
  obtain ⟨hanswers, hready, hfix⟩ := line_settled hbody hreads ha hb t₄ t₅
  rw [hsplit, encodeAll_append]
  dsimp only
  refine ⟨(s.encodeAll front).1, hreads, ?_, hready, ?_, fun hlength => ?_⟩
  · have hlength : front.length = (lineOf (bodyStream.map Prod.snd) a b).length - 2 := by simp [front, lineOf]
    rw [hanswers, hquiet.results, hlength]
  · rw [hfix, hquiet.fix_eq]
  · have htaken := htakes hlength
    have hdigits : ∀ d ∈ [a, b], isTerminator d = false := by
      simp [(hexDigit_ordinary ha).1, (hexDigit_ordinary hb).1]
    have hclosed : closed isTerminator ((bodyStream ++ [(t₁, 0x2a), (t₂, a), (t₃, b)]).map Prod.snd) =
        (bodyStream.map Prod.snd).splitOnP isTerminator := by
      rw [List.map_append]
      exact closed_digits _ hdigits
    have htype := htaken.sentence_type_eq (by rw [hclosed]; omega)
    have hrecord := htaken.record_eq
    rw [hclosed] at htype hrecord
    exact ⟨_, _, by rw [timedTerms_fst, hclosed], htype, hrecord⟩

/-- With the flag of good data set, the sentence has the term that says so. -/
theorem Gps.Reads.flagged {s : Gps} {body : List UInt8} {a b : UInt8} (h : s.Reads (body ++ [0x2a, a, b]))
    (ha : isTerminator a = false) (hb : isTerminator b = false)
    (hlength : (body.splitOnP isTerminator).length ≤ 34) (hgood : s.gps_data_good = true) :
    Flagged (titleOf ((body.splitOnP isTerminator).map kept)) (body.splitOnP isTerminator) := by
  have hclosed : closed isTerminator (body ++ [0x2a, a, b]) = body.splitOnP isTerminator :=
    closed_digits body (by simp [ha, hb])
  have hflagged := h.good (by rw [hclosed]; exact hlength) hgood
  have htype := h.type (by rw [hclosed]; exact hlength)
  rw [hclosed] at hflagged htype
  rw [htype] at hflagged
  rw [titleOf, List.getElem?_map, Option.map_map]
  exact hflagged

theorem replicate_append_false {n : Nat} (hn : 2 ≤ n) :
    List.replicate (n - 2) false ++ [false, false] = List.replicate n false := by
  rw [show [false, false] = List.replicate 2 false from rfl, ← List.replicate_add, Nat.sub_add_cancel hn]

/-- A line does what it says. -/
theorem Line.heard {text : List UInt8} {said : Said} (h : Line text said) {s : Gps} (hready : s.Ready)
    {st : Status} (hst : s.fix.Shows st) {stream : List (UInt32 × UInt8)} (hstream : stream.map Prod.snd = text) :
    (s.encodeAll stream).2 = said.answers text.length ∧ (s.encodeAll stream).1.Ready ∧
      (s.encodeAll stream).1.fix.Shows (st.hear said) := by
  cases h with
  | report r ha hb hsum =>
    obtain ⟨s', -, hanswers, hready', hfix, hread⟩ := hready.sentence r.body_plain ha hb hstream
    obtain ⟨old, timed, htimed, htype, hrecord⟩ := hread (by rw [r.body_split]; exact r.terms_length)
    rw [r.body_split] at htimed htype hrecord
    rw [r.title] at htype hrecord
    obtain ⟨hgood, hnew⟩ := r.read old htimed
    rw [← hrecord] at hgood hnew
    refine ⟨?_, hready', ?_⟩
    · rw [hanswers, show s'.gps_data_good = true from hgood, decide_eq_true hsum]
      rfl
    · rw [hfix, htype]
      exact hst.report hsum r hgood hnew
  | wrong hbody ha hb hsum =>
    obtain ⟨s', -, hanswers, hready', hfix, -⟩ := hready.sentence hbody ha hb hstream
    refine ⟨?_, hready', ?_⟩
    · rw [hanswers, decide_eq_false hsum]
      exact replicate_append_false (by simp [lineOf])
    · rw [hfix]
      exact hst.wrong_one hsum _ _
  | unflagged hbody ha hb hsum hlength hflag =>
    obtain ⟨s', hreads, hanswers, hready', hfix, -⟩ := hready.sentence hbody ha hb hstream
    have hgood : s'.gps_data_good = false :=
      Bool.eq_false_iff.mpr fun hgood =>
        hflag (hreads.flagged (hexDigit_ordinary ha).1 (hexDigit_ordinary hb).1 hlength hgood)
    refine ⟨?_, hready', ?_⟩
    · rw [hanswers, hgood, Bool.and_false]
      exact replicate_append_false (by simp [lineOf])
    · rw [hfix]
      exact hst.unflagged hsum _ (by rw [show s'.record.good = false from hgood]; exact Bool.noConfusion)
  | noise hnone =>
    have hstar : ∀ c ∈ stream.map Prod.snd, c ≠ 0x2a := by
      rw [hstream]
      exact hnone
    obtain ⟨hquiet, hready'⟩ := hready.encodeAll hstar
    refine ⟨?_, hready', ?_⟩
    · rw [hquiet.results, ← hstream, List.length_map]
      rfl
    · rw [hquiet.fix_eq]
      exact hst

/-- Line after line, the variables show what has been said. -/
theorem Gps.lines_heard {lines : List (List UInt8 × Said)} (hlines : ∀ line ∈ lines, Line line.1 line.2) {s : Gps}
    (hready : s.Ready) {st : Status} (hst : s.fix.Shows st) {stream : List (UInt32 × UInt8)}
    (hstream : stream.map Prod.snd = lines.flatMap Prod.fst) :
    (s.encodeAll stream).2 = lines.flatMap (fun line => line.2.answers line.1.length) ∧
      (s.encodeAll stream).1.Ready ∧
      (s.encodeAll stream).1.fix.Shows ((lines.map Prod.snd).foldl Status.hear st) := by
  induction lines generalizing s st stream with
  | nil =>
    obtain rfl := List.map_eq_nil_iff.mp hstream
    exact ⟨rfl, hready, hst⟩
  | cons line lines ih =>
    rw [List.forall_mem_cons] at hlines
    rw [List.flatMap_cons] at hstream
    obtain ⟨first, rest, rfl, hfirst, hrest⟩ := List.map_eq_append_iff.mp hstream
    obtain ⟨hanswers, hready', hst'⟩ := hlines.1.heard hready hst hfirst
    obtain ⟨hlater, hend⟩ := ih hlines.2 hready' hst' hrest
    rw [encodeAll_append, List.flatMap_cons]
    dsimp only
    rw [hanswers, hlater]
    exact ⟨rfl, hend⟩

/-- What is said of a field. -/
def Said.value (f : Field) : Said → Option Int
  | report r => r.value f
  | _ => none

/-- The values are the last ones said. -/
theorem Status.foldl_hear_value (st : Status) (saids : List Said) (f : Field) :
    (saids.foldl hear st).value f = (saids.filterMap (Said.value f)).getLast?.getD (st.value f) := by
  induction saids using List.reverseRecOn with
  | nil => rfl
  | append_singleton saids said ih =>
    rw [List.foldl_append, List.foldl_cons, List.foldl_nil, List.filterMap_append]
    cases said with
    | nothing => simpa [hear, Said.value] using ih
    | wrong => simpa [hear, Said.value] using ih
    | report r =>
      cases hvalue : r.value f with
      | none => simpa [hear, Said.value, hvalue] using ih
      | some v => simp [hear, Said.value, hvalue]

theorem Status.foldl_hear_counts (st : Status) (saids : List Said) :
    (saids.foldl hear st).reports = st.reports + saids.countP Said.isReport ∧
      (saids.foldl hear st).wrong = st.wrong + saids.countP Said.isWrong := by
  induction saids generalizing st with
  | nil => exact ⟨rfl, rfl⟩
  | cons said saids ih =>
    obtain ⟨hreports, hwrong⟩ := ih (st.hear said)
    rw [List.foldl_cons, hreports, hwrong, List.countP_cons, List.countP_cons]
    cases said with
    | nothing => exact ⟨rfl, rfl⟩
    | wrong => exact ⟨rfl, by simp [hear, Said.isWrong]; omega⟩
    | report r => exact ⟨by simp [hear, Said.isReport]; omega, rfl⟩

theorem Gps.initGps_ready : initGps.Ready := ⟨rfl, by decide⟩

/-- Noon on the first of May, at a place in the south and west. -/
def noon : Rmc where
  time := ⟨[1, 2, 0, 0, 0, 0], some [5, 0, 0], by decide⟩
  place :=
    { latitude := ⟨[0, 8], 0, 3, some [1, 2, 3, 4], by decide, by decide, by decide⟩
      south := true
      longitude := ⟨[0, 3, 4], 5, 2, some [6, 7, 8, 9], by decide, by decide, by decide⟩
      west := true
      fits := by decide }
  speed := ⟨[1], some [2, 5], by decide⟩
  course := ⟨[3, 5, 9], none, by decide⟩
  date := [0, 1, 0, 5, 1, 3]
  more := [[0x4e], []]
  fits := by decide
  date_length := by decide
  more_length := by decide
  ignored := by
    rintro term (_ | ⟨_, _ | ⟨_, ⟨⟩⟩⟩) c hc
    · obtain rfl := List.mem_singleton.mp hc
      decide
    · cases hc

/-- A sentence cut short, the report and a sentence with another checksum. -/
def spoken : List (List UInt8 × Said) :=
  [([0x24, 0x47, 0x50], .nothing), (lineOf (Report.rmc noon).body 0x36 0x41, .report (.rmc noon)),
    (lineOf [0x41] 0x30 0x30, .wrong)]

theorem spoken_lines : ∀ line ∈ spoken, Line line.1 line.2 := by
  intro line hline
  simp only [spoken, List.mem_cons, List.not_mem_nil, or_false] at hline
  obtain rfl | rfl | rfl := hline
  · exact .noise (by simp)
  · have hsix : hexDigit 0x36 = some 6 := rfl
    have hten : hexDigit 0x41 = some 10 := rfl
    exact .report (.rmc noon) hsix hten (by decide +kernel)
  · have hzero : hexDigit 0x30 = some 0 := rfl
    refine .wrong (fun c hc => ?_) hzero hzero (by decide)
    obtain rfl := List.mem_singleton.mp hc
    decide

def spokenStream : List (UInt32 × UInt8) := (spoken.flatMap Prod.fst).map fun c => (0, c)

end concretid.projetao
