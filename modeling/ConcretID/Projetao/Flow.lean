import ConcretID.Projetao.Gps
import ConcretID.Library.Since

open concretid.memory concretid.history

namespace concretid.projetao

/-! ## Where the values come from

The sentences of a stream are numbered by the `$` before them. Each assignment
of the trace is followed: a value carries the numbers of the sentences whose
terms it was made from. -/

/-- A value and the sentences it was made from, none for the zero of boot. -/
structure Sourced where
  value : UInt32
  sources : Option (List Nat)
  deriving DecidableEq

/-- The value negated by a term of a sentence. -/
def Sourced.negated (v : Sourced) (sentence : Nat) : Sourced :=
  ⟨-v.value, v.sources.map (sentence :: ·)⟩

structure Flow where
  sentence : Nat
  new : Field → Sourced
  published : Field → Option Sourced
  matched : List Nat

namespace Flow

def initial : Flow := ⟨0, fun _ => ⟨0, none⟩, fun _ => none, []⟩

def step (w : Flow) : Event → Flow
  | .dollar => { w with sentence := w.sentence + 1 }
  | .term _ _ _ => w
  | .checksum matched _ _ => if matched then { w with matched := w.sentence :: w.matched } else w
  | .parse f value => { w with new := Function.update w.new f ⟨value, some [w.sentence]⟩ }
  | .negate f => { w with new := Function.update w.new f ((w.new f).negated w.sentence) }
  | .publish f => { w with published := Function.update w.published f (some (w.new f)) }

end Flow

def flow (trace : List Event) : Flow := trace.foldl Flow.step Flow.initial

@[simp] theorem flow_append (trace events : List Event) :
    flow (trace ++ events) = events.foldl Flow.step (flow trace) := by
  simp [flow]

namespace Gps

/-- What the last `switch` of `term_complete` does with a term: the `_new_`
variable it parses into, or turns the sign of for a letter. -/
inductive Action where
  | store (f : Field)
  | sign (f : Field) (letter : UInt8)

def actions : List (Nat × Action) :=
  [(COMBINE .GPRMC 1, .store .time), (COMBINE .GPGGA 1, .store .time),
    (COMBINE .GPRMC 3, .store .latitude), (COMBINE .GPGGA 2, .store .latitude),
    (COMBINE .GPRMC 4, .sign .latitude 0x53), (COMBINE .GPGGA 3, .sign .latitude 0x53),
    (COMBINE .GPRMC 5, .store .longitude), (COMBINE .GPGGA 4, .store .longitude),
    (COMBINE .GPRMC 6, .sign .longitude 0x57), (COMBINE .GPGGA 5, .sign .longitude 0x57),
    (COMBINE .GPRMC 7, .store .speed), (COMBINE .GPRMC 8, .store .course),
    (COMBINE .GPRMC 9, .store .date), (COMBINE .GPGGA 7, .store .numsats),
    (COMBINE .GPGGA 8, .store .hdop), (COMBINE .GPGGA 9, .store .altitude)]

/-- Everything `store_term` can do. -/
inductive Stored (s : Gps) (code : Nat) : Gps → Prop
  | store (f : Field) (value time position : UInt32)
      (haction : actions.lookup code = some (.store f)) :
      Stored s code
        ({ s with new_time_fix := time, new_position_fix := position }.setNew f value)
  | sign (f : Field) (letter : UInt8) (haction : actions.lookup code = some (.sign f letter))
      (hletter : s.term 0 = letter) : Stored s code (s.negateNew f)
  | keep (f : Field) (letter : UInt8) (haction : actions.lookup code = some (.sign f letter))
      (hletter : s.term 0 ≠ letter) : Stored s code s
  | other (good : Bool) (haction : actions.lookup code = none) :
      Stored s code { s with gps_data_good := good }

theorem stored (s : Gps) (now : UInt32) (code : Nat) : s.Stored code (s.store_term now code) := by
  have hsign (f : Field) (letter : UInt8) (haction : actions.lookup code = some (.sign f letter)) :
      s.Stored code (if s.term 0 = letter then s.negateNew f else s) := by
    split
    · exact .sign f letter haction ‹_›
    · exact .keep f letter haction ‹_›
  by_cases hcode : code ∈ COMBINE .GPRMC 2 :: COMBINE .GPGGA 6 :: actions.map Prod.fst
  · simp only [actions, List.map_cons, List.map_nil, List.mem_cons, List.not_mem_nil,
      or_false] at hcode
    rcases hcode with rfl | rfl | rfl | rfl | rfl | rfl | rfl | rfl | rfl | rfl | rfl | rfl | rfl
      | rfl | rfl | rfl | rfl | rfl
    · exact .other _ rfl
    · exact .other _ rfl
    · exact .store .time (parse_decimal s.text) now s.new_position_fix rfl
    · exact .store .time (parse_decimal s.text) now s.new_position_fix rfl
    · exact .store .latitude (parse_degrees s.text) s.new_time_fix now rfl
    · exact .store .latitude (parse_degrees s.text) s.new_time_fix now rfl
    · exact hsign .latitude 0x53 rfl
    · exact hsign .latitude 0x53 rfl
    · exact .store .longitude (parse_degrees s.text) s.new_time_fix s.new_position_fix rfl
    · exact .store .longitude (parse_degrees s.text) s.new_time_fix s.new_position_fix rfl
    · exact hsign .longitude 0x57 rfl
    · exact hsign .longitude 0x57 rfl
    · exact .store .speed (parse_decimal s.text) s.new_time_fix s.new_position_fix rfl
    · exact .store .course (parse_decimal s.text) s.new_time_fix s.new_position_fix rfl
    · exact .store .date (gpsatol s.text) s.new_time_fix s.new_position_fix rfl
    · exact .store .numsats (satellites s.text) s.new_time_fix s.new_position_fix rfl
    · exact .store .hdop (parse_decimal s.text) s.new_time_fix s.new_position_fix rfl
    · exact .store .altitude (parse_decimal s.text) s.new_time_fix s.new_position_fix rfl
  · simp only [actions, List.map_cons, List.map_nil, List.mem_cons, List.not_mem_nil,
      or_false, not_or] at hcode
    have hkeep : s.store_term now code = s := by
      simp only [store_term, hcode, or_self, if_false]
    rw [hkeep]
    refine .other s.gps_data_good ?_
    rw [List.lookup_eq_none_iff]
    simp [actions, hcode]

/-- The values followed are the values of the variables. -/
structure Followed (s : Gps) : Prop where
  new : ∀ f, ((flow s.trace).new f).value = s.new f
  published : ∀ f, s.published f = ((flow s.trace).published f).elim f.invalid Sourced.value

namespace Followed

theorem initGps : initGps.Followed := ⟨fun _ => rfl, fun _ => rfl⟩

/-- `Followed` only reads the variables of the fields and the trace. -/
theorem congr {s s' : Gps} (hs : s.Followed) (htrace : s'.trace = s.trace)
    (hnew : s'.new = s.new) (hpublished : s'.published = s.published) : s'.Followed := by
  refine ⟨?_, ?_⟩
  · rw [htrace, hnew]
    exact hs.new
  · rw [htrace, hpublished]
    exact hs.published

theorem emit_dollar {s : Gps} (hs : s.Followed) : (s.emit .dollar).Followed := by
  refine ⟨?_, ?_⟩
  · simpa [emit, Flow.step] using hs.new
  · simpa [emit, Flow.step] using hs.published

theorem emit_term {s : Gps} (hs : s.Followed) (type : SentenceType) (number : UInt8)
    (text : List UInt8) : (s.emit (.term type number text)).Followed := by
  refine ⟨?_, ?_⟩
  · simpa [emit, Flow.step] using hs.new
  · simpa [emit, Flow.step] using hs.published

theorem emit_checksum {s : Gps} (hs : s.Followed) (matched good : Bool) (type : SentenceType) :
    (s.emit (.checksum matched good type)).Followed := by
  cases matched with
  | false => exact ⟨by simpa [emit, Flow.step] using hs.new,
      by simpa [emit, Flow.step] using hs.published⟩
  | true => exact ⟨by simpa [emit, Flow.step] using hs.new,
      by simpa [emit, Flow.step] using hs.published⟩

theorem setNew {s : Gps} (hs : s.Followed) (f : Field) (value : UInt32) :
    (s.setNew f value).Followed := by
  refine ⟨?_, ?_⟩
  · intro g
    by_cases hg : g = f
    · subst hg
      simp [Gps.setNew, emit, Flow.step]
    · simpa [Gps.setNew, emit, Flow.step, hg] using hs.new g
  · simpa [Gps.setNew, emit, Flow.step] using hs.published

theorem negateNew {s : Gps} (hs : s.Followed) (f : Field) : (s.negateNew f).Followed := by
  refine ⟨?_, ?_⟩
  · intro g
    by_cases hg : g = f
    · subst hg
      simp [Gps.negateNew, emit, Flow.step, Sourced.negated, hs.new]
    · simpa [Gps.negateNew, emit, Flow.step, hg] using hs.new g
  · simpa [Gps.negateNew, emit, Flow.step] using hs.published

theorem publish {s : Gps} (hs : s.Followed) (f : Field) : (s.publish f).Followed := by
  refine ⟨?_, ?_⟩
  · simpa [Gps.publish, emit, Flow.step] using hs.new
  · intro g
    by_cases hg : g = f
    · subst hg
      simp [Gps.publish, emit, Flow.step, hs.new]
    · simpa [Gps.publish, emit, Flow.step, hg] using hs.published g

theorem publishAll {s : Gps} (hs : s.Followed) (fields : List Field) :
    (fields.foldl Gps.publish s).Followed := by
  induction fields generalizing s with
  | nil => exact hs
  | cons f fields ih => exact ih (hs.publish f)

theorem store_term {s : Gps} (hs : s.Followed) (now : UInt32) (code : Nat) :
    (s.store_term now code).Followed := by
  have hstored := s.stored now code
  generalize s.store_term now code = s' at hstored ⊢
  cases hstored with
  | store f value time position haction =>
    refine setNew ?_ f value
    exact hs.congr rfl rfl rfl
  | sign f letter haction hletter => exact hs.negateNew f
  | keep f letter haction hletter => exact hs
  | other good haction => exact hs.congr rfl rfl rfl

theorem term_complete {s : Gps} (hs : s.Followed) (now : UInt32) :
    (s.term_complete now).1.Followed := by
  unfold Gps.term_complete
  dsimp only
  split_ifs
  · refine publishAll ?_ _
    exact (hs.emit_checksum _ _ _).congr rfl rfl rfl
  · exact hs.emit_checksum _ _ _
  · exact (hs.emit_checksum _ _ _).congr rfl rfl rfl
  all_goals first
    | exact ((hs.emit_term _ _ _).congr rfl rfl rfl)
    | exact (hs.emit_term _ _ _).store_term _ _

theorem encode {s : Gps} (hs : s.Followed) (now : UInt32) (c : UInt8) :
    (s.encode now c).1.Followed := by
  have hterm (parity : UInt8) (term : Nat → UInt8) : Followed ({ s with
      parity, term, encoded_characters := s.encoded_characters + 1 }.term_complete now).1 := by
    refine term_complete ?_ now
    exact hs.congr rfl rfl rfl
  unfold Gps.encode
  dsimp only
  split_ifs
  · exact congr (hterm _ _) rfl rfl rfl
  · exact hs.congr rfl rfl rfl
  · exact congr (hterm _ _) rfl rfl rfl
  · exact hs.congr rfl rfl rfl
  · apply emit_dollar
    exact hs.congr rfl rfl rfl
  · exact hs.congr rfl rfl rfl
  · exact hs.congr rfl rfl rfl
  · exact hs.congr rfl rfl rfl
  · exact hs.congr rfl rfl rfl

end Followed

/-- The variables hold the values followed, whatever is fed. -/
theorem feed_followed (stream : List (UInt32 × UInt8)) : (feed stream).Followed := by
  induction stream using List.reverseRecOn with
  | nil => exact Followed.initGps
  | append_singleton stream input ih => simpa [feed] using ih.encode input.1 input.2

end Gps

end concretid.projetao
