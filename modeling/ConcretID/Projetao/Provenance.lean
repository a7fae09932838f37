import ConcretID.Projetao.Flow

open concretid.memory concretid.history

namespace concretid.projetao

/-! ## What the stream alone tells

The terms, the `$` and the checksums of the stream, without any value. -/

/-- What a term does to the fields when it is complete. -/
def Event.action : Event → Option Gps.Action
  | .term type number text =>
    if type = .OTHER ∨ number = 0 ∨ text = [] then none
    else
      match Gps.actions.lookup (COMBINE type number.toNat) with
      | some (.store f) => some (.store f)
      | some (.sign f letter) => if text.head? = some letter then some (.sign f letter) else none
      | none => none
  | _ => none

theorem Event.action_skipped {type : SentenceType} {number : UInt8} {text : List UInt8}
    (h : type = .OTHER ∨ number = 0 ∨ text = []) : (Event.term type number text).action = none := by
  rw [Event.action, if_pos h]

/-- A non-empty term of the field. -/
def Event.Stores (f : Field) (e : Event) : Prop := e.action = some (.store f)

/-- A term that turns the sign of the field. -/
def Event.Signs (f : Field) (e : Event) : Prop := ∃ letter, e.action = some (.sign f letter)

theorem Event.Signs.not_stores {f g : Field} {e : Event} (h : e.Signs f) : ¬e.Stores g := by
  obtain ⟨letter, haction⟩ := h
  simp [Event.Stores, haction]

theorem Event.not_stores {e : Event} (haction : e.action = none) (f : Field) : ¬e.Stores f := by
  simp [Event.Stores, haction]

theorem Event.not_signs {e : Event} (haction : e.action = none) (f : Field) : ¬e.Signs f := by
  simp [Event.Signs, haction]

/-- The number of the sentence that comes next. -/
def sentence (trace : List Event) : Nat := trace.count .dollar

/-- The checksum of a sentence matched. -/
def Matched (trace : List Event) (k : Nat) : Prop :=
  ∃ before e after, trace = before ++ e :: after ∧
    (∃ good type, e = .checksum true good type) ∧ sentence before = k

/-- A sentence has the last non-empty term of the field, or a term behind it that
turns the sign. -/
def Contributes (f : Field) (trace : List Event) (k : Nat) : Prop :=
  ∃ before e after, trace = before ++ e :: after ∧
    (e.Stores f ∨ e.Signs f) ∧ (∀ e' ∈ after, ¬e'.Stores f) ∧ sentence before = k

/-- There is a non-empty term of the field, and the sentences that have the last
one and the signs behind it matched their checksums. -/
def Supplied (f : Field) (trace : List Event) : Prop :=
  (∃ e ∈ trace, e.Stores f) ∧ ∀ k, Contributes f trace k → Matched trace k

@[simp] theorem sentence_nil : sentence [] = 0 := rfl

theorem sentence_snoc (trace : List Event) (e : Event) :
    sentence (trace ++ [e]) = sentence trace + if e = .dollar then 1 else 0 := by
  simp [sentence, List.count_append, List.count_singleton]

theorem matched_snoc {trace : List Event} {e : Event} {k : Nat} :
    Matched (trace ++ [e]) k ↔
      ((∃ good type, e = .checksum true good type) ∧ sentence trace = k) ∨ Matched trace k := by
  unfold Matched
  rw [exists_split_snoc (q := fun before e _ =>
    (∃ good type, e = Event.checksum true good type) ∧ sentence before = k)]

theorem contributes_snoc {f : Field} {trace : List Event} {e : Event} {k : Nat} :
    Contributes f (trace ++ [e]) k ↔
      ((e.Stores f ∨ e.Signs f) ∧ sentence trace = k) ∨
        ¬e.Stores f ∧ Contributes f trace k := by
  unfold Contributes
  rw [exists_split_snoc (q := fun before e after =>
    (e.Stores f ∨ e.Signs f) ∧ (∀ e' ∈ after, ¬e'.Stores f) ∧ sentence before = k)]
  refine or_congr ?_ ?_
  · simp
  · constructor
    · rintro ⟨before, e', after, rfl, hsource, hafter, hk⟩
      rw [List.forall_mem_append, List.forall_mem_singleton] at hafter
      exact ⟨hafter.2, before, e', after, rfl, hsource, hafter.1, hk⟩
    · rintro ⟨hstores, before, e', after, rfl, hsource, hafter, hk⟩
      refine ⟨before, e', after, rfl, hsource, ?_, hk⟩
      rw [List.forall_mem_append, List.forall_mem_singleton]
      exact ⟨hafter, hstores⟩

/-! ## The trace follows the stream -/

/-- The flow of a trace agrees with what the stream alone tells. -/
structure Tracked (trace : List Event) : Prop where
  sentence : (flow trace).sentence = sentence trace
  matched : ∀ k, k ∈ (flow trace).matched ↔ Matched trace k
  stored : ∀ f, ((flow trace).new f).sources = none ↔ ∀ e ∈ trace, ¬e.Stores f
  sources : ∀ f ks, ((flow trace).new f).sources = some ks →
    ∀ k, k ∈ ks ↔ Contributes f trace k

/-- The events one character can add to the trace. -/
inductive Chunk : List Event → Prop
  | nothing : Chunk []
  | dollar : Chunk [.dollar]
  | term (type : SentenceType) (number : UInt8) (text : List UInt8)
      (haction : (Event.term type number text).action = none) : Chunk [.term type number text]
  | store (type : SentenceType) (number : UInt8) (text : List UInt8) (f : Field) (value : UInt32)
      (haction : (Event.term type number text).Stores f) :
      Chunk [.term type number text, .parse f value]
  | sign (type : SentenceType) (number : UInt8) (text : List UInt8) (f : Field)
      (haction : (Event.term type number text).Signs f) :
      Chunk [.term type number text, .negate f]
  | reject (matched good : Bool) (type : SentenceType) (hreject : (matched && good) = false) :
      Chunk [.checksum matched good type]
  | accept (type : SentenceType) : Chunk (.checksum true true type :: type.fields.map .publish)

namespace Tracked

theorem nil : Tracked [] := by
  refine ⟨rfl, ?_, ?_, ?_⟩
  · intro k
    simp [flow, Flow.initial, Matched]
  · intro f
    simp [flow, Flow.initial]
  · intro f ks h
    cases h

/-- An event that is no term, `$` or matching checksum and assigns nothing. -/
theorem snoc_quiet {trace : List Event} {e : Event} (ht : Tracked trace) (haction : e.action = none)
    (hdollar : e ≠ .dollar) (hmatched : ∀ good type, e ≠ .checksum true good type)
    (hsentence : (Flow.step (flow trace) e).sentence = (flow trace).sentence)
    (hmatches : (Flow.step (flow trace) e).matched = (flow trace).matched)
    (hnew : (Flow.step (flow trace) e).new = (flow trace).new) : Tracked (trace ++ [e]) := by
  have hstores := Event.not_stores haction
  have hsigns := Event.not_signs haction
  refine ⟨?_, ?_, ?_, ?_⟩
  · simpa [sentence_snoc, hdollar, hsentence] using ht.sentence
  · intro k
    simpa [matched_snoc, hmatched, hmatches] using ht.matched k
  · intro f
    simpa [hnew, hstores, or_imp, forall_and] using ht.stored f
  · intro f ks hks k
    simpa [contributes_snoc, hstores, hsigns] using
      ht.sources f ks (by simpa [hnew] using hks) k

theorem dollar {trace : List Event} (ht : Tracked trace) : Tracked (trace ++ [.dollar]) := by
  have hstores (f : Field) : ¬Event.dollar.Stores f := Event.not_stores rfl f
  have hsigns (f : Field) : ¬Event.dollar.Signs f := Event.not_signs rfl f
  refine ⟨?_, ?_, ?_, ?_⟩
  · simpa [sentence_snoc, Flow.step] using ht.sentence
  · intro k
    simpa [matched_snoc, Flow.step] using ht.matched k
  · intro f
    simpa [Flow.step, hstores, or_imp, forall_and] using ht.stored f
  · intro f ks hks k
    simpa [contributes_snoc, hstores, hsigns] using
      ht.sources f ks (by simpa [Flow.step] using hks) k

theorem matching {trace : List Event} (ht : Tracked trace) (good : Bool) (type : SentenceType) :
    Tracked (trace ++ [.checksum true good type]) := by
  have hstores (f : Field) : ¬(Event.checksum true good type).Stores f := Event.not_stores rfl f
  have hsigns (f : Field) : ¬(Event.checksum true good type).Signs f := Event.not_signs rfl f
  refine ⟨?_, ?_, ?_, ?_⟩
  · simpa [sentence_snoc, Flow.step] using ht.sentence
  · intro k
    simp [matched_snoc, Flow.step, ht.matched, ht.sentence, eq_comm]
  · intro f
    simpa [Flow.step, hstores, or_imp, forall_and] using ht.stored f
  · intro f ks hks k
    simpa [contributes_snoc, hstores, hsigns] using
      ht.sources f ks (by simpa [Flow.step] using hks) k

theorem publishes {trace : List Event} (ht : Tracked trace) (fields : List Field) :
    Tracked (trace ++ fields.map .publish) := by
  induction fields generalizing trace with
  | nil => simpa using ht
  | cons f fields ih =>
    rw [List.map_cons, List.append_cons]
    exact ih (ht.snoc_quiet rfl nofun nofun rfl rfl rfl)

theorem store {trace : List Event} (ht : Tracked trace) {type : SentenceType} {number : UInt8}
    {text : List UInt8} {f : Field} (value : UInt32)
    (haction : (Event.term type number text).Stores f) :
    Tracked (trace ++ [.term type number text, .parse f value]) := by
  have hother {g : Field} (hg : g ≠ f) : ¬(Event.term type number text).Stores g := by
    intro h
    have heq := h.symm.trans haction
    exact hg (by simpa using heq)
  have hsigns (g : Field) : ¬(Event.term type number text).Signs g := fun h =>
    h.not_stores haction
  have hquiet (g : Field) : ¬(Event.parse f value).Stores g := Event.not_stores rfl g
  have hquiet' (g : Field) : ¬(Event.parse f value).Signs g := Event.not_signs rfl g
  rw [List.append_cons]
  refine ⟨?_, ?_, ?_, ?_⟩
  · rw [sentence_snoc, sentence_snoc]
    simpa [Flow.step] using ht.sentence
  · intro k
    rw [matched_snoc, matched_snoc]
    simpa [Flow.step] using ht.matched k
  · intro g
    by_cases hg : g = f
    · subst hg
      have hmem : ∃ e ∈ trace ++ [.term type number text] ++ [.parse g value], e.Stores g :=
        ⟨.term type number text, by simp, haction⟩
      simpa [Flow.step] using hmem
    · simpa [Flow.step, hg, hother hg, hquiet, or_imp, forall_and] using ht.stored g
  · intro g ks hks k
    rw [contributes_snoc, contributes_snoc]
    by_cases hg : g = f
    · subst hg
      simp [Flow.step] at hks
      simp [hquiet, hquiet', haction, ← hks, ht.sentence, eq_comm]
    · simpa [hquiet, hquiet', hsigns, hother hg] using
        ht.sources g ks (by simpa [Flow.step, hg] using hks) k

theorem sign {trace : List Event} (ht : Tracked trace) {type : SentenceType} {number : UInt8}
    {text : List UInt8} {f : Field} (haction : (Event.term type number text).Signs f) :
    Tracked (trace ++ [.term type number text, .negate f]) := by
  have hother {g : Field} (hg : g ≠ f) : ¬(Event.term type number text).Signs g := by
    rintro ⟨letter, h⟩
    obtain ⟨letter', haction⟩ := haction
    have heq := h.symm.trans haction
    simp only [Option.some.injEq, Gps.Action.sign.injEq] at heq
    exact hg heq.1
  have hstores (g : Field) : ¬(Event.term type number text).Stores g := haction.not_stores
  have hquiet (g : Field) : ¬(Event.negate f).Stores g := Event.not_stores rfl g
  have hquiet' (g : Field) : ¬(Event.negate f).Signs g := Event.not_signs rfl g
  rw [List.append_cons]
  refine ⟨?_, ?_, ?_, ?_⟩
  · rw [sentence_snoc, sentence_snoc]
    simpa [Flow.step] using ht.sentence
  · intro k
    rw [matched_snoc, matched_snoc]
    simpa [Flow.step] using ht.matched k
  · intro g
    by_cases hg : g = f
    · subst hg
      simpa [Flow.step, Sourced.negated, hstores, hquiet, or_imp, forall_and] using ht.stored g
    · simpa [Flow.step, hg, hstores, hquiet, or_imp, forall_and] using ht.stored g
  · intro g ks hks k
    rw [contributes_snoc, contributes_snoc]
    by_cases hg : g = f
    · subst hg
      simp [Flow.step, Sourced.negated] at hks
      obtain ⟨rest, hrest, rfl⟩ := hks
      simp [hquiet, hquiet', haction, hstores, ht.sentence, ht.sources g rest hrest, eq_comm]
    · simpa [hquiet, hquiet', hstores, hother hg] using
        ht.sources g ks (by simpa [Flow.step, hg] using hks) k

theorem chunk {trace events : List Event} (ht : Tracked trace) (hevents : Chunk events) :
    Tracked (trace ++ events) := by
  cases hevents with
  | nothing => simpa using ht
  | dollar => exact ht.dollar
  | term type number text haction => exact ht.snoc_quiet haction nofun nofun rfl rfl rfl
  | store type number text f value haction => exact ht.store value haction
  | sign type number text f haction => exact ht.sign haction
  | reject matched good type hreject =>
    cases matched with
    | false => exact ht.snoc_quiet rfl nofun nofun rfl rfl rfl
    | true => exact ht.matching good type
  | accept type =>
    rw [List.append_cons]
    exact (ht.matching true type).publishes type.fields

end Tracked

namespace Gps

theorem text_eq (s : Gps) :
    s.text = if s.term 0 = 0 then [] else s.term 0 :: (load s.term 1 14).takeWhile (· ≠ 0) := by
  rw [text, load_succ]
  split <;> simp_all

theorem publishAll_trace (s : Gps) (fields : List Field) :
    (fields.foldl publish s).trace = s.trace ++ fields.map .publish := by
  induction fields generalizing s with
  | nil => simp
  | cons f fields ih => simp [ih, publish, emit]

/-- A term that is not the first one adds what it does to the fields. -/
theorem store_term_chunk (s : Gps) (now : UInt32) (htype : s.sentence_type ≠ .OTHER)
    (hnumber : s.term_number ≠ 0) (hterm : s.term 0 ≠ 0) :
    ∃ events, Chunk (.term s.sentence_type s.term_number s.text :: events) ∧
      (s.store_term now (COMBINE s.sentence_type s.term_number.toNat)).trace =
        s.trace ++ events := by
  have hhead : s.text.head? = some (s.term 0) := by simp [text_eq, hterm]
  have htext : s.text ≠ [] := by simp [text_eq, hterm]
  have hstored := s.stored now (COMBINE s.sentence_type s.term_number.toNat)
  generalize s.store_term now (COMBINE s.sentence_type s.term_number.toNat) = s' at hstored ⊢
  cases hstored with
  | store f value time position haction =>
    refine ⟨[.parse f value], .store _ _ _ f value ?_, rfl⟩
    simp [Event.Stores, Event.action, htype, hnumber, htext, haction]
  | sign f letter haction hletter =>
    refine ⟨[.negate f], .sign _ _ _ f ⟨letter, ?_⟩, rfl⟩
    simp [Event.action, htype, hnumber, htext, haction, hhead, hletter]
  | keep f letter haction hletter =>
    refine ⟨[], .term _ _ _ ?_, by simp⟩
    simp [Event.action, haction, hhead, hletter]
  | other good haction =>
    refine ⟨[], .term _ _ _ ?_, by simp⟩
    simp [Event.action, haction]

theorem term_complete_chunk (s : Gps) (now : UInt32) :
    ∃ events, Chunk events ∧ (s.term_complete now).1.trace = s.trace ++ events := by
  unfold term_complete
  dsimp only
  have hskipped (hnumber : s.term_number = 0) :
      (Event.term s.sentence_type s.term_number s.text).action = none :=
    Event.action_skipped (Or.inr (Or.inl hnumber))
  split_ifs with hchecksum hmatched hgood hnumber hfirst hgga hterm
  · refine ⟨_, .accept s.sentence_type, ?_⟩
    simp_all [publishAll_trace, emit]
  · refine ⟨_, .reject _ _ s.sentence_type ?_, rfl⟩
    have hbad : s.gps_data_good = false := Bool.eq_false_iff.mpr hgood
    rw [hbad, Bool.and_false]
  · refine ⟨_, .reject _ _ s.sentence_type ?_, rfl⟩
    rw [Bool.eq_false_iff.mpr hmatched, Bool.false_and]
  · exact ⟨_, .term s.sentence_type s.term_number s.text (hskipped hnumber), rfl⟩
  · exact ⟨_, .term s.sentence_type s.term_number s.text (hskipped hnumber), rfl⟩
  · exact ⟨_, .term s.sentence_type s.term_number s.text (hskipped hnumber), rfl⟩
  · obtain ⟨events, hevents, htrace⟩ := store_term_chunk
      (s.emit (.term s.sentence_type s.term_number s.text)) now hterm.1 hnumber hterm.2
    refine ⟨_, hevents, ?_⟩
    rw [List.append_cons]
    exact htrace
  · refine ⟨_, .term s.sentence_type s.term_number s.text ?_, rfl⟩
    apply Event.action_skipped
    by_contra hskip
    rw [not_or, not_or, text_eq] at hskip
    exact hterm ⟨hskip.1, fun hzero => hskip.2.2 (if_pos hzero)⟩

/-- What one character adds to the trace. -/
theorem encode_chunk (s : Gps) (now : UInt32) (c : UInt8) :
    ∃ events, Chunk events ∧ (s.encode now c).1.trace = s.trace ++ events := by
  have hquiet : ∃ events, Chunk events ∧ s.trace = s.trace ++ events :=
    ⟨[], .nothing, by simp⟩
  unfold encode
  dsimp only
  split_ifs
  · exact term_complete_chunk _ now
  · exact hquiet
  · exact term_complete_chunk _ now
  · exact hquiet
  · exact ⟨[.dollar], .dollar, rfl⟩
  all_goals exact hquiet

theorem feed_snoc (stream : List (UInt32 × UInt8)) (input : UInt32 × UInt8) :
    feed (stream ++ [input]) = ((feed stream).encode input.1 input.2).1 := by
  simp [feed]

theorem feed_tracked (stream : List (UInt32 × UInt8)) : Tracked (feed stream).trace := by
  induction stream using List.reverseRecOn with
  | nil => exact Tracked.nil
  | append_singleton stream input ih =>
    obtain ⟨events, hevents, htrace⟩ := (feed stream).encode_chunk input.1 input.2
    rw [feed_snoc, htrace]
    exact ih.chunk hevents

/-- Every value published was parsed from terms of sentences whose checksums
matched. -/
def Provenance (s : Gps) : Prop :=
  ∀ f, ((flow s.trace).published f = none ∧ s.published f = f.invalid) ∨
    ∃ ks, (flow s.trace).published f = some ⟨s.published f, some ks⟩ ∧
      ∀ k ∈ ks, k ∈ (flow s.trace).matched

end Gps

theorem flow_publishes (w : Flow) (fields : List Field) :
    (fields.map .publish).foldl Flow.step w =
      { w with published := fun f => if f ∈ fields then some (w.new f) else w.published f } := by
  induction fields generalizing w with
  | nil => simp
  | cons g fields ih =>
    rw [List.map_cons, List.foldl_cons, ih]
    simp only [Flow.step, Flow.mk.injEq, true_and, and_true]
    funext f
    by_cases hf : f ∈ fields
    · simp [hf]
    · by_cases hg : f = g
      · simp [hg]
      · simp [hf, hg]

/-- What a supplied field holds came from sentences that matched, and the reverse. -/
theorem Tracked.supplied_iff {trace : List Event} (ht : Tracked trace) (f : Field) :
    Supplied f trace ↔ ∃ ks, ((flow trace).new f).sources = some ks ∧
      ∀ k ∈ ks, k ∈ (flow trace).matched := by
  have hstored := ht.stored f
  cases hsources : ((flow trace).new f).sources with
  | none =>
    have hnone := hstored.mp hsources
    constructor
    · rintro ⟨⟨e, hmem, hstores⟩, -⟩
      exact absurd hstores (hnone e hmem)
    · rintro ⟨ks, hks, -⟩
      cases hks
  | some ks =>
    have hks := ht.sources f ks hsources
    constructor
    · rintro ⟨-, hmatched⟩
      exact ⟨ks, rfl, fun k hk => (ht.matched k).mpr (hmatched k ((hks k).mp hk))⟩
    · rintro ⟨ks', hks', hmatched⟩
      cases hks'
      refine ⟨?_, fun k hk => (ht.matched k).mp (hmatched k ((hks k).mpr hk))⟩
      by_contra hnone
      rw [hstored.mpr (by simpa using hnone)] at hsources
      cases hsources

/-- The provenance of what is published, by the flow alone. -/
def Flow.Clean (w : Flow) : Prop :=
  ∀ f v, w.published f = some v → ∃ ks, v.sources = some ks ∧ ∀ k ∈ ks, k ∈ w.matched

theorem Gps.Followed.provenance_iff {s : Gps} (hs : s.Followed) :
    s.Provenance ↔ (flow s.trace).Clean := by
  constructor
  · intro hp f v hv
    obtain ⟨hnone, -⟩ | ⟨ks, hsome, hks⟩ := hp f
    · rw [hnone] at hv
      cases hv
    · rw [hsome] at hv
      cases hv
      exact ⟨ks, rfl, hks⟩
  · intro hc f
    have hvalue := hs.published f
    cases hpublished : (flow s.trace).published f with
    | none =>
      rw [hpublished] at hvalue
      exact Or.inl ⟨rfl, hvalue⟩
    | some v =>
      obtain ⟨ks, hsources, hks⟩ := hc f v hpublished
      rw [hpublished] at hvalue
      exact Or.inr ⟨ks, by rw [hvalue, ← hsources]; rfl, hks⟩

/-- What is published stays, and what matched stays matched. -/
theorem Flow.Clean.mono {w w' : Flow} (hc : w.Clean) (hpublished : w'.published = w.published)
    (hmatched : ∀ k ∈ w.matched, k ∈ w'.matched) : w'.Clean := by
  intro f v hv
  rw [hpublished] at hv
  obtain ⟨ks, hsources, hks⟩ := hc f v hv
  exact ⟨ks, hsources, fun k hk => hmatched k (hks k hk)⟩

/-- A sentence that is published keeps the provenance exactly when its fields are
supplied. -/
theorem Tracked.accept_clean_iff {trace : List Event} (ht : Tracked trace)
    (hc : (flow trace).Clean) (type : SentenceType) :
    (flow (trace ++ .checksum true true type :: type.fields.map .publish)).Clean ↔
      ∀ f ∈ type.fields, Supplied f (trace ++ [.checksum true true type]) := by
  have htracked := ht.matching true type
  have hmono : ∀ k ∈ (flow trace).matched,
      k ∈ (flow (trace ++ [.checksum true true type])).matched := by
    intro k hk
    rw [htracked.matched, matched_snoc]
    exact Or.inr ((ht.matched k).mp hk)
  have hpublished : (flow (trace ++ [.checksum true true type])).published =
      (flow trace).published := by simp [Flow.step]
  rw [List.append_cons, flow_append, flow_publishes]
  constructor
  · intro hclean f hf
    rw [htracked.supplied_iff]
    exact hclean f _ (if_pos hf)
  · intro hsupplied f v hv
    dsimp only at hv
    by_cases hf : f ∈ type.fields
    · rw [if_pos hf] at hv
      cases hv
      exact (htracked.supplied_iff f).mp (hsupplied f hf)
    · rw [if_neg hf] at hv
      exact hc.mono hpublished hmono f v hv

/-- The fields of the sentence that an event publishes, if it does, are supplied. -/
def Grounded (before : List Event) (e : Event) : Prop :=
  ∀ type, e = .checksum true true type → ∀ f ∈ type.fields, Supplied f (before ++ [e])

theorem grounded_of_ne {before : List Event} {e : Event}
    (he : ∀ type, e ≠ .checksum true true type) : Grounded before e :=
  fun type heq => absurd heq (he type)

/-- One character keeps the provenance exactly when the sentence it publishes, if
any, has its fields supplied. -/
theorem Tracked.chunk_clean_iff {trace events : List Event} (ht : Tracked trace)
    (hevents : Chunk events) (hc : (flow trace).Clean) :
    (flow (trace ++ events)).Clean ↔
      ∀ before e after, events = before ++ e :: after → Grounded (trace ++ before) e := by
  have hquiet (hpublished : (flow (trace ++ events)).published = (flow trace).published)
      (hmatched : ∀ k ∈ (flow trace).matched, k ∈ (flow (trace ++ events)).matched)
      (hnone : ∀ e ∈ events, ∀ type, e ≠ .checksum true true type) :
      (flow (trace ++ events)).Clean ↔
        ∀ before e after, events = before ++ e :: after → Grounded (trace ++ before) e := by
    apply iff_of_true (hc.mono hpublished hmatched)
    intro before e after heq
    exact grounded_of_ne (hnone e (by simp [heq]))
  cases hevents with
  | nothing => exact hquiet (by simp) (by simp) (by simp)
  | dollar => exact hquiet (by simp [Flow.step]) (by simp [Flow.step]) (by simp)
  | term type number text haction =>
    exact hquiet (by simp [Flow.step]) (by simp [Flow.step]) (by simp)
  | store type number text f value haction =>
    exact hquiet (by simp [Flow.step]) (by simp [Flow.step]) (by simp)
  | sign type number text f haction =>
    exact hquiet (by simp [Flow.step]) (by simp [Flow.step]) (by simp)
  | reject matched good type hreject =>
    refine hquiet ?_ ?_ ?_
    · cases matched <;> simp [Flow.step]
    · cases matched <;> simp +contextual [Flow.step]
    · rintro e hmem type' rfl
      obtain rfl : matched = true := by simp_all
      simp_all
  | accept type =>
    refine (ht.accept_clean_iff hc type).trans (Iff.trans ?_ (forall_split_append
      (q := fun before e => Grounded (trace ++ before) e) [.checksum true true type] _).symm)
    rw [forall_split_singleton]
    constructor
    · intro hsupplied
      refine ⟨?_, ?_⟩
      · rintro type' ⟨⟩ f hf
        simpa using hsupplied f hf
      · intro before e after heq
        apply grounded_of_ne
        have hmem : e ∈ type.fields.map Event.publish := by simp [heq]
        obtain ⟨f, -, rfl⟩ := List.mem_map.mp hmem
        intro type' heq'
        cases heq'
    · rintro ⟨hgrounded, -⟩ f hf
      simpa using hgrounded type rfl f hf

/-- Every sentence published has its fields supplied by sentences whose checksums
matched. -/
def Sound (trace : List Event) : Prop :=
  ∀ before e after, trace = before ++ e :: after → Grounded before e

/-- A stream written as text, all of it at time 0. -/
def characters (text : String) : List (UInt32 × UInt8) :=
  text.toList.map fun c => (0, c.toNat.toUInt8)

/-- A sentence whose checksum is wrong and a good one without a latitude. -/
def rejectedLatitude : List (UInt32 × UInt8) :=
  characters "$GPGGA,120000,1200,N,01000,E,1,04,1.0,9.0,M*00\r" ++
    characters "$GPGGA,120001,,N,01000,E,1,04,1.0,9.0,M*1E\r"

end concretid.projetao
