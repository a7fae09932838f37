import ConcretID.Edna.Fixo
import ConcretID.Library.Since

open concretid.history

namespace concretid.edna

/-! ## The entries -/

namespace Fixo

theorem locate_some {s : Fixo} {number : UInt32} {loc : Fin HISTORY_SIZE}
    (h : s.locate number = some loc) :
    (s.history loc).id = number ∧ ∀ j < loc, (s.history j).id ≠ number := by
  obtain ⟨hid, i, hi, hloc, hbefore⟩ := List.find?_eq_some_iff_getElem.mp h
  refine ⟨by simpa using hid, ?_⟩
  intro j hj
  have hindex : i = loc.val := by
    rw [← hloc]
    simp
  have hne := hbefore j.val (by omega)
  simpa using hne

theorem locate_none {s : Fixo} {number : UInt32} (h : s.locate number = none)
    (i : Fin HISTORY_SIZE) : (s.history i).id ≠ number := by
  have hne := List.find?_eq_none.mp h i (List.mem_finRange i)
  simpa using hne

/-- Only one entry is the first with a number. -/
theorem first_unique {s : Fixo} {number : UInt32} {loc i : Fin HISTORY_SIZE}
    (hloc : s.locate number = some loc) (hfirst : ∀ j < i, (s.history j).id ≠ (s.history i).id)
    (hi : i ≠ loc) : number ≠ (s.history i).id := by
  obtain ⟨hid, hbefore⟩ := locate_some hloc
  intro hsameid
  obtain hlt | hgt := Nat.lt_or_gt_of_ne (fun hv => hi (Fin.ext hv))
  · exact hbefore i hlt hsameid.symm
  · exact hfirst loc hgt (hid.trans hsameid)

/-- A new time leaves the numbers. -/
theorem setEntry_ids (s : Fixo) (loc : Fin HISTORY_SIZE) (time : UInt32) (i : Fin HISTORY_SIZE) :
    ((s.setEntry loc { s.history loc with time }).history i).id = (s.history i).id := by
  by_cases hi : i = loc
  · rw [hi, setEntry_self]
  · rw [setEntry_other s _ hi]

/-- No entry is older than the one the second loop ends with. -/
theorem oldest_le (s : Fixo) (i : Fin HISTORY_SIZE) :
    (s.history s.oldest).time ≤ (s.history i).time := by
  have hfold : ∀ (l : List (Fin HISTORY_SIZE)) (first : Fin HISTORY_SIZE),
      ∀ j, j = first ∨ j ∈ l → (s.history (l.foldl
        (fun loc k => if (s.history k).time < (s.history loc).time then k else loc) first)).time ≤
          (s.history j).time := by
    intro l
    induction l with
    | nil =>
      intro first j hj
      obtain rfl | hj := hj
      · exact UInt32.le_refl _
      · exact absurd hj List.not_mem_nil
    | cons k l ih =>
      intro first j hj
      rw [List.foldl_cons]
      split
      · rename_i hless
        obtain rfl | hj := hj
        · exact UInt32.le_trans (ih k k (.inl rfl)) (UInt32.le_of_lt hless)
        · exact ih k j (by simpa using hj)
      · rename_i hmore
        obtain rfl | hj := hj
        · exact ih j j (.inl rfl)
        · obtain rfl | hj := List.mem_cons.mp hj
          · exact UInt32.le_trans (ih first first (.inl rfl)) (UInt32.not_lt.mp hmore)
          · exact ih first j (.inr hj)
  apply hfold _ _ i
  by_cases hzero : i.val = 0
  · exact .inl (Fin.ext hzero)
  · refine .inr ?_
    rw [List.mem_iff_getElem]
    refine ⟨i.val - 1, ?_, ?_⟩
    · simp only [List.length_tail, List.length_finRange, HISTORY_SIZE]
      omega
    · rw [List.getElem_tail]
      apply Fin.ext
      simp
      omega

/-- What the case `'A'` does with a number. -/
inductive Announced (s : Fixo) (number : UInt32) : Fixo → List What → Prop where
  | opened {loc : Fin HISTORY_SIZE} (hloc : s.locate number = some loc)
      (hbegin : s.cur_time - INTERV_END ≤ (s.history loc).time)
      (hend : (s.history loc).time ≤ s.cur_time - INTERV_BEG) :
      Announced s number (s.setEntry loc { s.history loc with time := 0 }) [.abrir number]
  | renewed {loc : Fin HISTORY_SIZE} (hloc : s.locate number = some loc)
      (hold : (s.history loc).time < s.cur_time - INTERV_END) :
      Announced s number (s.setEntry loc { s.history loc with time := s.cur_time }) []
  | kept {loc : Fin HISTORY_SIZE} (hloc : s.locate number = some loc)
      (hwindow : ¬ (s.cur_time - INTERV_END ≤ (s.history loc).time ∧
        (s.history loc).time ≤ s.cur_time - INTERV_BEG))
      (hnew : ¬ (s.history loc).time < s.cur_time - INTERV_END) : Announced s number s []
  | entered (hnone : s.locate number = none) :
      Announced s number (s.setEntry s.oldest { id := number, time := s.cur_time }) []

theorem announce_cases (s : Fixo) (number : UInt32) :
    Announced s number (s.announce number).1 (s.announce number).2 := by
  unfold announce
  split
  · rename_i loc hloc
    dsimp only
    split
    · rename_i hwindow
      exact .opened hloc hwindow.1 hwindow.2
    · rename_i hwindow
      split
      · rename_i hold
        exact .renewed hloc hold
      · rename_i hnew
        exact .kept hloc hwindow hnew
  · rename_i hnone
    exact .entered hnone

end Fixo

/-! ## What the entries know of the past -/

/-- Whether an event opens the door for a number. -/
def Event.opens (number : UInt32) (e : Event) : Bool := e.what == .abrir number

theorem opens_abrir (number : UInt32) (tick : UInt32) :
    Event.opens number (Event.mk tick (.abrir number)) = true := by
  simp [Event.opens]

theorem opens_abrir_other {number other : UInt32} (hne : other ≠ number) (tick : UInt32) :
    Event.opens number (Event.mk tick (.abrir other)) = false := by
  simp [Event.opens, hne]

theorem opens_anuncio (number other : UInt32) (tick : UInt32) :
    Event.opens number (Event.mk tick (.anuncio other)) = false := by
  simp [Event.opens]

/-- The times of the entries are those of announcements that came after the last
opening for their number. An entry with time 0 is blank or just opened: its
number has not been announced since. -/
structure Held (s : Fixo) (log : List Event) : Prop where
  times : ∀ i, (s.history i).time ≤ s.cur_time
  single : ∀ i j, i < j → (s.history i).id = (s.history j).id → (s.history j).time = 0
  heard : ∀ i, (s.history i).time ≠ 0 →
    Event.mk (s.history i).time (.anuncio (s.history i).id) ∈
      since (Event.opens (s.history i).id) log
  forgotten : ∀ i, (∀ j < i, (s.history j).id ≠ (s.history i).id) → (s.history i).time = 0 →
    ∀ tick, Event.mk tick (.anuncio (s.history i).id) ∉
      since (Event.opens (s.history i).id) log
  positive : s.cur_time ≠ 0

theorem start_held : Held .start [] := by
  refine ⟨?_, ?_, ?_, ?_, ?_⟩
  · intro i
    exact UInt32.zero_le
  · intro i j _ _
    rfl
  · intro i hne
    exact absurd rfl hne
  · intro i _ _ tick
    simp
  · decide

/-- An event that neither announces nor opens changes nothing of this. -/
theorem Held.other {s : Fixo} {log : List Event} (h : Held s log) {tick : UInt32} {what : What}
    (hanuncio : ∀ n, what ≠ .anuncio n) (habrir : ∀ n, what ≠ .abrir n) :
    Held s (log ++ [Event.mk tick what]) := by
  have hsince : ∀ n, since (Event.opens n) (log ++ [Event.mk tick what]) =
      since (Event.opens n) log ++ [Event.mk tick what] :=
    fun n => since_snoc_neg log (by simpa [Event.opens] using habrir n)
  refine ⟨h.times, h.single, ?_, ?_, h.positive⟩
  · intro i hne
    rw [hsince]
    exact List.mem_append_left _ (h.heard i hne)
  · intro i hfirst hzero t
    rw [hsince, List.mem_append, List.mem_singleton, not_or]
    refine ⟨h.forgotten i hfirst hzero t, ?_⟩
    intro heq
    exact hanuncio _ (congrArg Event.what heq).symm

theorem Held.tick {s : Fixo} {log : List Event} (h : Held s log)
    (hroom : s.cur_time.toNat + 1 < 0x100000000) :
    Held { s with cur_time := s.cur_time + 1 } log := by
  have hnext : (s.cur_time + 1).toNat = s.cur_time.toNat + 1 := by
    rw [UInt32.toNat_add]
    exact Nat.mod_eq_of_lt hroom
  refine ⟨?_, h.single, h.heard, h.forgotten, ?_⟩
  · intro i
    have hle := UInt32.le_iff_toNat_le.mp (h.times i)
    rw [UInt32.le_iff_toNat_le, hnext]
    exact Nat.le_succ_of_le hle
  · intro hzero
    have hvalue := congrArg UInt32.toNat hzero
    rw [hnext] at hvalue
    exact absurd hvalue (Nat.succ_ne_zero _)

/-- The log after an announcement, seen from any number. -/
theorem since_anuncio (log : List Event) (number n tick : UInt32) :
    since (Event.opens n) (log ++ [Event.mk tick (.anuncio number)]) =
      since (Event.opens n) log ++ [Event.mk tick (.anuncio number)] :=
  since_snoc_neg log (opens_anuncio n number tick)

/-- An announcement of another number is none of this one. -/
theorem not_mem_since_anuncio {log : List Event} {number n tick : UInt32} (hne : number ≠ n)
    {t : UInt32} (hnot : Event.mk t (.anuncio n) ∉ since (Event.opens n) log) :
    Event.mk t (.anuncio n) ∉
      since (Event.opens n) (log ++ [Event.mk tick (.anuncio number)]) := by
  rw [since_anuncio, List.mem_append, List.mem_singleton, not_or]
  refine ⟨hnot, ?_⟩
  intro heq
  exact hne (by simpa using (congrArg Event.what heq).symm)

theorem mem_since_anuncio {log : List Event} {number n tick : UInt32} {e : Event}
    (h : e ∈ since (Event.opens n) log) :
    e ∈ since (Event.opens n) (log ++ [Event.mk tick (.anuncio number)]) := by
  rw [since_anuncio]
  exact List.mem_append_left _ h

/-- An entry gets a time that is no later than the current one. -/
theorem Held.setEntry_times {s : Fixo} {log : List Event} (h : Held s log)
    (loc : Fin HISTORY_SIZE) {entry : Entry} (hle : entry.time ≤ s.cur_time)
    (i : Fin HISTORY_SIZE) : ((s.setEntry loc entry).history i).time ≤ s.cur_time := by
  by_cases hi : i = loc
  · rw [hi, Fixo.setEntry_self]
    exact hle
  · rw [Fixo.setEntry_other s _ hi]
    exact h.times i

/-- Opening for the number of an entry. -/
theorem Held.opened {s : Fixo} {log : List Event} (h : Held s log) {number : UInt32}
    {loc : Fin HISTORY_SIZE} (hloc : s.locate number = some loc) :
    Held (s.setEntry loc { s.history loc with time := 0 })
      (log ++ [.mk s.cur_time (.anuncio number)] ++ [.mk s.cur_time (.abrir number)]) := by
  obtain ⟨hid, hbefore⟩ := Fixo.locate_some hloc
  have hids := s.setEntry_ids loc 0
  have hsame : since (Event.opens number) (log ++ [.mk s.cur_time (.anuncio number)] ++
      [.mk s.cur_time (.abrir number)]) = [] :=
    since_snoc_pos _ (opens_abrir number s.cur_time)
  have hothers : ∀ n, n ≠ number → since (Event.opens n) (log ++
      [.mk s.cur_time (.anuncio number)] ++ [.mk s.cur_time (.abrir number)]) =
      since (Event.opens n) (log ++ [.mk s.cur_time (.anuncio number)]) ++
        [.mk s.cur_time (.abrir number)] :=
    fun n hn => since_snoc_neg _ (opens_abrir_other (Ne.symm hn) s.cur_time)
  refine ⟨h.setEntry_times loc UInt32.zero_le, ?_, ?_, ?_, h.positive⟩
  · intro i j hlt heq
    rw [hids, hids] at heq
    by_cases hj : j = loc
    · rw [hj, Fixo.setEntry_self]
    · rw [Fixo.setEntry_other s _ hj]
      exact h.single i j hlt heq
  · intro i hne
    have hi : i ≠ loc := by
      rintro rfl
      rw [Fixo.setEntry_self] at hne
      exact hne rfl
    rw [Fixo.setEntry_other s _ hi] at hne ⊢
    -- another entry with the number would have time 0
    have hnumber : (s.history i).id ≠ number := by
      intro hsameid
      obtain hlt | hgt := Nat.lt_or_gt_of_ne (fun hv => hi (Fin.ext hv))
      · exact hbefore i hlt hsameid
      · exact hne (h.single loc i hgt (hid.trans hsameid.symm))
    rw [hothers _ hnumber]
    exact List.mem_append_left _ (mem_since_anuncio (h.heard i hne))
  · intro i hfirst hzero t
    rw [hids]
    by_cases hnumber : (s.history i).id = number
    · rw [hnumber, hsame]
      exact List.not_mem_nil
    · have hi : i ≠ loc := by
        rintro rfl
        exact hnumber hid
      rw [Fixo.setEntry_other s _ hi] at hzero
      rw [hothers _ hnumber, List.mem_append, List.mem_singleton, not_or]
      refine ⟨not_mem_since_anuncio (Ne.symm hnumber) (h.forgotten i ?_ hzero t), by simp⟩
      intro j hj
      have hfirst' := hfirst j hj
      rwa [hids, hids] at hfirst'

/-- An announcement that makes the entry of its number as old as itself. -/
theorem Held.renewed {s : Fixo} {log : List Event} (h : Held s log) {number : UInt32}
    {loc : Fin HISTORY_SIZE} (hloc : s.locate number = some loc) :
    Held (s.setEntry loc { s.history loc with time := s.cur_time })
      (log ++ [.mk s.cur_time (.anuncio number)]) := by
  obtain ⟨hid, hbefore⟩ := Fixo.locate_some hloc
  have hids := s.setEntry_ids loc s.cur_time
  refine ⟨h.setEntry_times loc (UInt32.le_refl _), ?_, ?_, ?_, h.positive⟩
  · intro i j hlt heq
    rw [hids, hids] at heq
    have hj : j ≠ loc := by
      rintro rfl
      exact hbefore i hlt (heq.trans hid)
    rw [Fixo.setEntry_other s _ hj]
    exact h.single i j hlt heq
  · intro i hne
    by_cases hi : i = loc
    · rw [hi, Fixo.setEntry_self, since_anuncio]
      exact List.mem_append_right _ (by simp [hid])
    · rw [Fixo.setEntry_other s _ hi] at hne ⊢
      exact mem_since_anuncio (h.heard i hne)
  · intro i hfirst hzero t
    have hi : i ≠ loc := by
      rintro rfl
      rw [Fixo.setEntry_self] at hzero
      exact h.positive hzero
    have hfirst' : ∀ j < i, (s.history j).id ≠ (s.history i).id := by
      intro j hj
      have hne := hfirst j hj
      rwa [hids, hids] at hne
    rw [Fixo.setEntry_other s _ hi] at hzero ⊢
    exact not_mem_since_anuncio (Fixo.first_unique hloc hfirst' hi) (h.forgotten i hfirst' hzero t)

/-- The window contains 0 unless times before it are renewed. -/
theorem window_zero {c t : UInt32} (hwindow : ¬ (c - INTERV_END ≤ t ∧ t ≤ c - INTERV_BEG))
    (hnew : ¬ t < c - INTERV_END) : t ≠ 0 := by
  rintro rfl
  have hlow : c - INTERV_END = 0 := by
    have hle := UInt32.not_lt.mp hnew
    exact UInt32.le_antisymm hle UInt32.zero_le
  exact hwindow ⟨by rw [hlow]; exact UInt32.le_refl _, UInt32.zero_le⟩

/-- An announcement that changes no entry. -/
theorem Held.kept {s : Fixo} {log : List Event} (h : Held s log) {number : UInt32}
    {loc : Fin HISTORY_SIZE} (hloc : s.locate number = some loc)
    (hused : (s.history loc).time ≠ 0) : Held s (log ++ [.mk s.cur_time (.anuncio number)]) := by
  refine ⟨h.times, h.single, fun i hne => mem_since_anuncio (h.heard i hne), ?_, h.positive⟩
  intro i hfirst hzero t
  have hi : i ≠ loc := by
    rintro rfl
    exact hused hzero
  exact not_mem_since_anuncio (Fixo.first_unique hloc hfirst hi) (h.forgotten i hfirst hzero t)

/-- An announcement of a number that has no entry takes the place of the oldest
one. -/
theorem Held.entered {s : Fixo} {log : List Event} (h : Held s log) {number : UInt32}
    (hnone : s.locate number = none) :
    Held (s.setEntry s.oldest { id := number, time := s.cur_time })
      (log ++ [.mk s.cur_time (.anuncio number)]) := by
  have hfresh := Fixo.locate_none hnone
  refine ⟨h.setEntry_times s.oldest (UInt32.le_refl _), ?_, ?_, ?_, h.positive⟩
  · intro i j hlt heq
    by_cases hj : j = s.oldest
    · have hi : i ≠ s.oldest := by
        rintro rfl
        exact absurd (congrArg Fin.val hj) (Nat.ne_of_gt hlt)
      rw [hj, Fixo.setEntry_self, Fixo.setEntry_other s _ hi] at heq
      exact absurd heq (hfresh i)
    · rw [Fixo.setEntry_other s _ hj] at heq ⊢
      by_cases hi : i = s.oldest
      · rw [hi, Fixo.setEntry_self] at heq
        exact absurd heq.symm (hfresh j)
      · rw [Fixo.setEntry_other s _ hi] at heq
        exact h.single i j hlt heq
  · intro i hne
    by_cases hi : i = s.oldest
    · rw [hi, Fixo.setEntry_self, since_anuncio]
      exact List.mem_append_right _ (List.mem_singleton_self _)
    · rw [Fixo.setEntry_other s _ hi] at hne ⊢
      exact mem_since_anuncio (h.heard i hne)
  · intro i hfirst hzero t
    have hi : i ≠ s.oldest := by
      rintro rfl
      rw [Fixo.setEntry_self] at hzero
      exact h.positive hzero
    rw [Fixo.setEntry_other s _ hi] at hfirst hzero ⊢
    apply not_mem_since_anuncio (Ne.symm (hfresh i))
    have hfirst' : ∀ j < i, j ≠ s.oldest → (s.history j).id ≠ (s.history i).id := by
      intro j hj hne
      have hother := hfirst j hj
      rwa [Fixo.setEntry_other s _ hne] at hother
    by_cases hevicted : s.oldest < i ∧ (s.history s.oldest).id = (s.history i).id
    · -- the entry taken was the first one with the number, and not older than this one
      have holdest : (s.history s.oldest).time = 0 := by
        have hle := s.oldest_le i
        rw [hzero] at hle
        exact UInt32.le_antisymm hle UInt32.zero_le
      rw [← hevicted.2]
      refine h.forgotten s.oldest ?_ holdest t
      intro j hj
      rw [hevicted.2]
      exact hfirst' j (Fin.lt_trans hj hevicted.1) (Fin.ne_of_lt hj)
    · refine h.forgotten i ?_ hzero t
      intro j hj
      by_cases hne : j = s.oldest
      · intro hsameid
        exact hevicted ⟨hne ▸ hj, by rw [← hne, hsameid]⟩
      · exact hfirst' j hj hne

/-! ## A run -/

/-- The package an input is, when it is an announcement. -/
def Input.announced : Input → Option UInt32
  | .timeout => none
  | .tcpip newdata appdata => Fixo.announced newdata appdata

def Input.isTimeout : Input → Bool
  | .timeout => true
  | .tcpip .. => false

/-- What one input does. -/
inductive Processed (r : Run) : Input → Run → Prop where
  | timeout : Processed r .timeout
      { node := { r.node with cur_time := r.node.cur_time + 1 }
        log := r.log ++ [.mk (r.node.cur_time + 1) .poll] }
  | announced {newdata : Bool} {appdata : Nat → UInt8} {number : UInt32} {node : Fixo}
      {done : List What} (hnumber : Fixo.announced newdata appdata = some number)
      (hdone : Fixo.Announced r.node number node done) (htime : node.cur_time = r.node.cur_time) :
      Processed r (.tcpip newdata appdata)
        { node
          log := r.log ++ [.mk r.node.cur_time (.anuncio number)] ++
            done.map (Event.mk r.node.cur_time) }
  | ignored {appdata : Nat → UInt8} : Processed r (.tcpip false appdata) r
  | printed {appdata : Nat → UInt8} (hnone : Fixo.announced true appdata = none) :
      Processed r (.tcpip true appdata)
        { r with log := r.log ++ [.mk r.node.cur_time (.putchar (appdata 0))] }

theorem Fixo.Announced.cur_time_eq {s s' : Fixo} {number : UInt32} {done : List What}
    (h : Fixo.Announced s number s' done) : s'.cur_time = s.cur_time := by
  cases h <;> rfl

theorem Run.processed (r : Run) (input : Input) : Processed r input (r.fixed_process input) := by
  cases input with
  | timeout => exact .timeout
  | tcpip newdata appdata =>
    cases hannounced : Fixo.announced newdata appdata with
    | some number =>
      have hcases := r.node.announce_cases number
      have htime := hcases.cur_time_eq
      have hstep : r.fixed_process (.tcpip newdata appdata) =
          { node := (r.node.announce number).1
            log := r.log ++ [.mk r.node.cur_time (.anuncio number)] ++
              (r.node.announce number).2.map (Event.mk r.node.cur_time) } := by
        simp [Run.fixed_process, Fixo.tcpip_handler, hannounced, htime]
      rw [hstep]
      exact .announced hannounced hcases htime
    | none =>
      cases newdata with
      | true =>
        have hstep : r.fixed_process (.tcpip true appdata) =
            { r with log := r.log ++ [.mk r.node.cur_time (.putchar (appdata 0))] } := by
          simp [Run.fixed_process, Fixo.tcpip_handler, hannounced]
        rw [hstep]
        exact .printed hannounced
      | false =>
        have hstep : r.fixed_process (.tcpip false appdata) = r := by
          simp [Run.fixed_process, Fixo.tcpip_handler, hannounced]
        rw [hstep]
        exact .ignored

/-- Every input keeps what the entries know of the past. -/
theorem Processed.held {r r' : Run} {input : Input} (hstep : Processed r input r')
    (h : Held r.node r.log)
    (hroom : input.isTimeout = true → r.node.cur_time.toNat + 1 < 0x100000000) :
    Held r'.node r'.log := by
  cases hstep with
  | timeout => exact (h.tick (hroom rfl)).other (by simp) (by simp)
  | ignored => exact h
  | printed => exact h.other (by simp) (by simp)
  | announced hnumber hdone htime =>
    cases hdone with
    | opened hloc => exact h.opened hloc
    | renewed hloc =>
      rw [List.map_nil, List.append_nil]
      exact h.renewed hloc
    | kept hloc hwindow hnew =>
      rw [List.map_nil, List.append_nil]
      exact h.kept hloc (window_zero hwindow hnew)
    | entered hnone =>
      rw [List.map_nil, List.append_nil]
      exact h.entered hnone

theorem Run.of_snoc (inputs : List Input) (input : Input) :
    Run.of (inputs ++ [input]) = (Run.of inputs).fixed_process input := by
  simp [Run.of]

theorem Processed.cur_time_eq {r r' : Run} {input : Input} (hstep : Processed r input r')
    (hroom : input.isTimeout = true → r.node.cur_time.toNat + 1 < 0x100000000) :
    r'.node.cur_time.toNat = r.node.cur_time.toNat + [input].countP Input.isTimeout := by
  cases hstep with
  | timeout =>
    have hone : [Input.timeout].countP Input.isTimeout = 1 := rfl
    rw [hone]
    change (r.node.cur_time + 1).toNat = _
    rw [UInt32.toNat_add]
    exact Nat.mod_eq_of_lt (hroom rfl)
  | announced _ _ htime => exact congrArg UInt32.toNat htime
  | ignored => rfl
  | printed => rfl

/-- While `cur_time` does not wrap it counts the timeouts, and the entries know
of the past what they should. -/
theorem Run.held {inputs : List Input} (hwrap : inputs.countP Input.isTimeout + 1 < 0x100000000) :
    (Run.of inputs).node.cur_time.toNat = inputs.countP Input.isTimeout + 1 ∧
      Held (Run.of inputs).node (Run.of inputs).log := by
  induction inputs using List.reverseRecOn with
  | nil => exact ⟨rfl, start_held⟩
  | append_singleton inputs input ih =>
    rw [List.countP_append] at hwrap ⊢
    obtain ⟨htime, hheld⟩ := ih (by omega)
    have hroom : input.isTimeout = true →
        (Run.of inputs).node.cur_time.toNat + 1 < 0x100000000 := by
      intro htimeout
      have hone : [input].countP Input.isTimeout = 1 := by simp [htimeout]
      omega
    have hstep := (Run.of inputs).processed input
    rw [Run.of_snoc]
    refine ⟨?_, hstep.held hheld hroom⟩
    rw [hstep.cur_time_eq hroom, htime]
    omega

/-! ## Openings -/

/-- An opening has an announcement of its number behind it, made since the last
opening for the number and the right time ago. -/
def Justified (before : List Event) (e : Event) : Prop :=
  ∀ number, e.what = .abrir number → ∃ t, Event.mk t (.anuncio number) ∈
    since (Event.opens number) before ∧ e.tick.toNat ≤ t.toNat + 10 ∧ t.toNat + 5 ≤ e.tick.toNat

/-- Every opening is justified, and two for the same number are apart. -/
structure Timely (log : List Event) : Prop where
  justified : ∀ before e after, log = before ++ e :: after → Justified before e
  apart : ∀ before number t middle t' after,
    log = before ++ .mk t (.abrir number) :: (middle ++ .mk t' (.abrir number) :: after) →
    t.toNat + 5 ≤ t'.toNat

/-- An announcement in tick 10 of a number whose entry has time 0: it has been
opened in this tick, or it is 0 and the entry is blank. -/
def Reopens (s : Fixo) (input : Input) : Prop :=
  s.cur_time = 10 ∧ ∃ number loc, input.announced = some number ∧ s.locate number = some loc ∧
    (s.history loc).time = 0

/-- What opening is justified by: the time of the entry, unless it is 0. -/
theorem Held.justified_iff {s : Fixo} {log : List Event} (h : Held s log) {number : UInt32}
    {loc : Fin HISTORY_SIZE} (hloc : s.locate number = some loc)
    (hbegin : s.cur_time - INTERV_END ≤ (s.history loc).time)
    (hend : (s.history loc).time ≤ s.cur_time - INTERV_BEG) :
    Justified (log ++ [.mk s.cur_time (.anuncio number)]) (.mk s.cur_time (.abrir number)) ↔
      ¬ (s.cur_time = 10 ∧ (s.history loc).time = 0) := by
  obtain ⟨hid, hbefore⟩ := Fixo.locate_some hloc
  constructor
  · rintro hjustified ⟨hten, hzero⟩
    obtain ⟨t, hmem, -, hold⟩ := hjustified number rfl
    rw [since_anuncio, List.mem_append, List.mem_singleton] at hmem
    obtain hmem | hmem := hmem
    · have hforgotten := h.forgotten loc (by rwa [hid]) hzero t
      rw [hid] at hforgotten
      exact hforgotten hmem
    · have htick : t = s.cur_time := congrArg Event.tick hmem
      dsimp only at hold
      rw [htick] at hold
      omega
  · intro hfine n hn
    obtain rfl : number = n := by simpa using hn
    have hle := UInt32.le_iff_toNat_le.mp (h.times loc)
    rw [UInt32.le_iff_toNat_le, UInt32.toNat_sub] at hbegin hend
    have hten : INTERV_END.toNat = 10 := rfl
    have hfive : INTERV_BEG.toNat = 5 := rfl
    have hbound := s.cur_time.toNat_lt
    rw [hten] at hbegin
    rw [hfive] at hend
    have hused : (s.history loc).time ≠ 0 := by
      intro hzero
      refine hfine ⟨?_, hzero⟩
      have hvalue : (s.history loc).time.toNat = 0 := by rw [hzero]; rfl
      apply UInt32.toNat_inj.mp
      change _ = 10
      omega
    have hheard := h.heard loc hused
    rw [hid] at hheard
    exact ⟨(s.history loc).time, mem_since_anuncio hheard, by simp only; omega, by simp only; omega⟩

/-- One input adds justified events exactly when it does not open again in tick
10. -/
theorem Processed.justified_iff {r r' : Run} {input : Input} (hstep : Processed r input r')
    (h : Held r.node r.log) :
    ∃ new, r'.log = r.log ++ new ∧
      ((∀ before e after, new = before ++ e :: after → Justified (r.log ++ before) e) ↔
        ¬ Reopens r.node input) := by
  -- events that are no opening are justified
  have hsilent : ∀ {what : What} {tick : UInt32}, (∀ n, what ≠ .abrir n) →
      ∀ before e after, [Event.mk tick what] = before ++ e :: after →
        Justified (r.log ++ before) e := by
    intro what tick hwhat
    refine forall_split_singleton.mpr ?_
    intro n hn
    exact absurd hn (hwhat n)
  have hnone : input.announced = none → ¬ Reopens r.node input := by
    rintro hnot ⟨-, number, loc, hannounced, -⟩
    rw [hnot] at hannounced
    cases hannounced
  cases hstep with
  | timeout => exact ⟨_, rfl, iff_of_true (hsilent (by simp)) (hnone rfl)⟩
  | ignored =>
    refine ⟨[], (List.append_nil _).symm, iff_of_true ?_ (hnone rfl)⟩
    intro before e after heq
    cases before <;> cases heq
  | printed hnot => exact ⟨_, rfl, iff_of_true (hsilent (by simp)) (hnone hnot)⟩
  | @announced newdata appdata number node done hnumber hdone htime =>
    have hread : ∀ n, Input.announced (.tcpip newdata appdata) = some n → number = n := by
      intro n hannounced
      rw [Input.announced, hnumber] at hannounced
      exact Option.some.inj hannounced
    have hreopens : ∀ loc, r.node.locate number = some loc →
        (Reopens r.node (.tcpip newdata appdata) ↔
          r.node.cur_time = 10 ∧ (r.node.history loc).time = 0) := by
      intro loc hloc
      constructor
      · rintro ⟨hten, n, l, hannounced, hl, hzero⟩
        obtain rfl := hread n hannounced
        rw [hloc] at hl
        obtain rfl := Option.some.inj hl
        exact ⟨hten, hzero⟩
      · rintro ⟨hten, hzero⟩
        exact ⟨hten, number, loc, hnumber, hloc, hzero⟩
    have hquiet : ∀ before e after, [Event.mk r.node.cur_time (.anuncio number)] =
        before ++ e :: after → Justified (r.log ++ before) e := hsilent (by simp)
    refine ⟨.mk r.node.cur_time (.anuncio number) :: done.map (Event.mk r.node.cur_time),
      by simp, ?_⟩
    cases hdone with
    | @opened loc hloc hbegin hend =>
      rw [hreopens loc hloc, ← h.justified_iff hloc hbegin hend]
      refine (forall_split_append [Event.mk r.node.cur_time (.anuncio number)]
        [Event.mk r.node.cur_time (.abrir number)]).trans ?_
      rw [and_iff_right hquiet, forall_split_singleton, List.append_nil]
    | @renewed loc hloc hold =>
      apply iff_of_true hquiet
      rw [hreopens loc hloc]
      rintro ⟨hten, hzero⟩
      rw [hten, hzero] at hold
      exact absurd hold (by decide)
    | @kept loc hloc hwindow hnew =>
      apply iff_of_true hquiet
      rw [hreopens loc hloc]
      exact fun h => window_zero hwindow hnew h.2
    | entered hnot =>
      apply iff_of_true hquiet
      rintro ⟨-, n, l, hannounced, hl, -⟩
      obtain rfl := hread n hannounced
      rw [hnot] at hl
      cases hl

/-- The openings of a run are all justified exactly when no input opens again in
tick 10. -/
theorem Run.justified_iff {inputs : List Input}
    (hwrap : inputs.countP Input.isTimeout + 1 < 0x100000000) :
    (∀ before e after, (Run.of inputs).log = before ++ e :: after → Justified before e) ↔
      ∀ before input after, inputs = before ++ input :: after →
        ¬ Reopens (Run.of before).node input := by
  induction inputs using List.reverseRecOn with
  | nil =>
    refine iff_of_true ?_ ?_ <;>
    · intro before e after heq
      cases before <;> cases heq
  | append_singleton inputs input ih =>
    rw [List.countP_append] at hwrap
    have hbefore := ih (by omega)
    obtain ⟨new, hlog, hnew⟩ :=
      ((Run.of inputs).processed input).justified_iff (Run.held (by omega)).2
    rw [Run.of_snoc, hlog, forall_split_append, hbefore, hnew,
      forall_split_append (q := fun before input => ¬ Reopens (Run.of before).node input),
      forall_split_singleton, List.append_nil]

/-- The ticks in a log go up, and none is ahead of the time. -/
structure Run.Ordered (r : Run) : Prop where
  sorted : r.log.Pairwise fun e e' => e.tick.toNat ≤ e'.tick.toNat
  past : ∀ e ∈ r.log, e.tick.toNat ≤ r.node.cur_time.toNat

theorem Run.Ordered.append {r r' : Run} {new : List Event} (h : r.Ordered)
    (hlog : r'.log = r.log ++ new) (hnew : ∀ e ∈ new, e.tick = r'.node.cur_time)
    (hle : r.node.cur_time.toNat ≤ r'.node.cur_time.toNat) : r'.Ordered := by
  refine ⟨?_, ?_⟩
  · rw [hlog, List.pairwise_append]
    refine ⟨h.sorted, ?_, ?_⟩
    · rw [List.pairwise_iff_forall_sublist]
      intro e e' hpair
      have hmem := hpair.subset
      have htick : e.tick = e'.tick :=
        (hnew e (hmem (by simp))).trans (hnew e' (hmem (by simp))).symm
      exact Nat.le_of_eq (congrArg UInt32.toNat htick)
    · intro e he e' he'
      rw [hnew e' he']
      exact Nat.le_trans (h.past e he) hle
  · intro e he
    rw [hlog, List.mem_append] at he
    obtain he | he := he
    · exact Nat.le_trans (h.past e he) hle
    · exact Nat.le_of_eq (congrArg UInt32.toNat (hnew e he))

theorem Processed.ordered {r r' : Run} {input : Input} (hstep : Processed r input r')
    (h : r.Ordered) (hroom : input.isTimeout = true → r.node.cur_time.toNat + 1 < 0x100000000) :
    r'.Ordered := by
  have hle : r.node.cur_time.toNat ≤ r'.node.cur_time.toNat := by
    rw [hstep.cur_time_eq hroom]
    exact Nat.le_add_right _ _
  cases hstep with
  | timeout => exact h.append rfl (by simp) hle
  | ignored => exact h
  | printed => exact h.append rfl (by simp) hle
  | announced _ _ htime =>
    refine h.append (List.append_assoc _ _ _) ?_ hle
    intro e he
    simp only [List.mem_append, List.mem_singleton, List.mem_map] at he
    obtain rfl | ⟨_, _, rfl⟩ := he <;> exact htime.symm

theorem Run.ordered {inputs : List Input}
    (hwrap : inputs.countP Input.isTimeout + 1 < 0x100000000) : (Run.of inputs).Ordered := by
  induction inputs using List.reverseRecOn with
  | nil => exact ⟨.nil, fun e he => absurd he List.not_mem_nil⟩
  | append_singleton inputs input ih =>
    rw [List.countP_append] at hwrap
    rw [Run.of_snoc]
    apply ((Run.of inputs).processed input).ordered (ih (by omega))
    intro htimeout
    have hone : [input].countP Input.isTimeout = 1 := by simp [htimeout]
    rw [(Run.held (by omega)).1]
    omega

/-- Justified openings for one number are apart: the announcement behind the
second one came after the first. -/
theorem Timely.of_justified {log : List Event}
    (hsorted : log.Pairwise fun e e' => e.tick.toNat ≤ e'.tick.toNat)
    (hjustified : ∀ before e after, log = before ++ e :: after → Justified before e) :
    Timely log := by
  refine ⟨hjustified, ?_⟩
  intro before number t middle t' after hlog
  have hsplit : log = (before ++ .mk t (.abrir number) :: middle) ++
      .mk t' (.abrir number) :: after := by
    rw [hlog, List.append_assoc, List.cons_append]
  obtain ⟨t₀, hmem, -, hold⟩ := hjustified _ _ _ hsplit number rfl
  rw [since_append_cons _ _ (opens_abrir number t)] at hmem
  have hmiddle := mem_of_mem_since hmem
  rw [hlog] at hsorted
  have hlater := (List.pairwise_cons.mp (List.pairwise_append.mp hsorted).2.1).1
    (.mk t₀ (.anuncio number)) (List.mem_append_left _ hmiddle)
  dsimp only at hlater hold
  omega

/-- In a run in which `cur_time` does not wrap, every opening is justified and
openings for the same number are apart exactly when no number is announced in
tick 10 while its entry has time 0. -/
theorem Run.timely_iff {inputs : List Input}
    (hwrap : inputs.countP Input.isTimeout + 1 < 0x100000000) :
    Timely (Run.of inputs).log ↔
      ∀ before input after, inputs = before ++ input :: after →
        ¬ Reopens (Run.of before).node input := by
  rw [← Run.justified_iff hwrap]
  constructor
  · exact Timely.justified
  · exact Timely.of_justified (Run.ordered hwrap).sorted

/-- The package that announces a number below 256. -/
def anuncio (number : UInt8) : Input :=
  .tcpip true fun i => if i = 0 then 0x41 else if i = 1 then number else 0

/-- The blank entries have the number 0 and the time 0, which the window of tick
10 contains: announced for the first time then, the number 0 opens the door. -/
theorem opens_for_blank_entry :
    ¬ ∀ inputs : List Input, inputs.countP Input.isTimeout + 1 < 0x100000000 →
      Timely (Run.of inputs).log := by
  intro hall
  have htimely := hall (List.replicate 9 .timeout ++ [anuncio 0]) (by decide)
  have hnever := (Run.justified_iff (by decide)).mp htimely.justified
    (List.replicate 9 .timeout) (anuncio 0) [] rfl
  exact hnever ⟨by decide, 0, ⟨0, by decide⟩, by decide, by decide, by decide⟩

/-- Announced in tick 1 and in tick 11, the number 7 opens the door in time. -/
theorem opens_for_seven :
    Event.mk 11 (.abrir 7) ∈ (Run.of (anuncio 7 :: (List.replicate 10 .timeout ++ [anuncio 7]))).log ∧
      Timely (Run.of (anuncio 7 :: (List.replicate 10 .timeout ++ [anuncio 7]))).log := by
  refine ⟨by decide, (Run.timely_iff (by decide)).mpr ?_⟩
  have hfirst : ¬ Reopens (Run.of []).node (anuncio 7) := fun h => absurd h.1 (by decide)
  have hlast : ¬ Reopens (Run.of (anuncio 7 :: List.replicate 10 .timeout)).node (anuncio 7) :=
    fun h => absurd h.1 (by decide)
  refine (forall_split_append [anuncio 7] _).mpr ⟨forall_split_singleton.mpr hfirst, ?_⟩
  refine (forall_split_append
    (q := fun before input => ¬ Reopens (Run.of ([anuncio 7] ++ before)).node input)
    (List.replicate 10 .timeout) [anuncio 7]).mpr ⟨?_, forall_split_singleton.mpr hlast⟩
  rintro before input after heq ⟨-, n, loc, hannounced, -⟩
  have hinput : input ∈ List.replicate 10 Input.timeout := by simp [heq]
  rw [List.eq_of_mem_replicate hinput] at hannounced
  cases hannounced

end concretid.edna
