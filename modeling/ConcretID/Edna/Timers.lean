import Mathlib.Data.Finset.Card
import Mathlib.Data.Fintype.Card
import Mathlib.Data.List.FinRange
import ConcretID.Edna.Opening

open concretid.history

namespace concretid.edna

/-! ## One number on its own -/

namespace Timer

/-- A number that is heard: the tick it waits from, and whether the door opens. Before tick 10
the bounds of the window wrap around, and the waiting starts again. -/
def hear (tick : Nat) : Option Nat → Option Nat × Bool
  | none => (some tick, false)
  | some t =>
    if tick < 10 ∨ t + 10 < tick then (some tick, false)
    else if t + 5 ≤ tick then (none, true)
    else (some t, false)

/-- What a number waits from after it was heard in these ticks, and the ticks in which the door
has opened for it. -/
def run (ticks : List Nat) : Option Nat × List Nat :=
  ticks.foldl (fun s tick =>
    let r := hear tick s.1
    (r.1, if r.2 then s.2 ++ [tick] else s.2)) (none, [])

theorem run_snoc (ticks : List Nat) (tick : Nat) :
    run (ticks ++ [tick]) = ((hear tick (run ticks).1).1,
      if (hear tick (run ticks).1).2 then (run ticks).2 ++ [tick] else (run ticks).2) := by
  rw [run, List.foldl_append]
  rfl

/-- What a number heard in every tick waits from, told by the tick from which six are counted. -/
def waiting (start tick : Nat) : Option Nat :=
  if tick < start then some tick
  else if (tick - start) % 6 = 5 then none
  else some (tick - (tick - start) % 6)

theorem hear_waiting {start tick : Nat} (hstart : 9 ≤ start) (hearly : tick < start → start = 9) :
    hear (tick + 1) (waiting start tick) =
      (waiting start (tick + 1), decide ((tick + 1 - start) % 6 = 5)) := by
  by_cases hbefore : tick < start
  · have hnone : tick + 1 - start = 0 := by omega
    have hwaiting : waiting start (tick + 1) = some (tick + 1) := by
      rw [waiting]
      split
      · rfl
      · rw [hnone]
        rfl
    rw [hwaiting, hnone, waiting, if_pos hbefore, hear, if_pos (by omega)]
    rfl
  · obtain ⟨phase, hphase⟩ : ∃ phase, phase = (tick - start) % 6 := ⟨_, rfl⟩
    have hnext : (tick + 1 - start) % 6 = (phase + 1) % 6 := by omega
    rw [waiting, waiting, if_neg hbefore, if_neg (show ¬ tick + 1 < start by omega), hnext, ← hphase]
    obtain hopen | hfourth | hearlier : phase = 5 ∨ phase = 4 ∨ phase < 4 := by omega
    · rw [hopen]
      rfl
    · rw [hfourth, if_neg (show ¬ 4 = 5 by decide), hear, if_neg (by omega), if_pos (by omega)]
      rfl
    · have hmod : (phase + 1) % 6 = phase + 1 := by omega
      rw [hmod, if_neg (by omega), if_neg (by omega), hear, if_neg (by omega), if_neg (by omega),
        Nat.add_sub_add_right, decide_eq_false (by omega)]

/-- A number heard in every tick from `first` on: the door opens every six ticks, counted from
`first` or tick 9. -/
theorem run_range' (first n : Nat) :
    run (List.range' first (n + 1)) = (waiting (max first 9) (first + n),
      (List.range' first (n + 1)).filter fun tick => (tick - max first 9) % 6 = 5) := by
  obtain ⟨start, hstart⟩ : ∃ start, start = max first 9 := ⟨_, rfl⟩
  rw [← hstart]
  induction n with
  | zero =>
    have hnone : first - start = 0 := by omega
    simp [run, hear, waiting, hnone]
  | succ n ih =>
    have hhear := @hear_waiting start (first + n) (by omega) (by omega)
    rw [List.range'_concat, run_snoc, ih, List.filter_append, Nat.one_mul, ← Nat.add_assoc, hhear]
    by_cases hopens : (first + n + 1 - start) % 6 = 5
    · simp [hopens]
    · simp [hopens]

end Timer

/-! ## The table of all numbers -/

/-- The ticks in which a number has been heard. -/
def heard (number : UInt32) (log : List Event) : List Nat :=
  log.filterMap fun e => if e.what = .anuncio number then some e.tick.toNat else none

/-- The ticks in which the door has opened for a number. -/
def opened (number : UInt32) (log : List Event) : List Nat :=
  log.filterMap fun e => if e.what = .abrir number then some e.tick.toNat else none

def What.number? : What → Option UInt32
  | .anuncio number => some number
  | _ => none

/-- The numbers heard at all. -/
def numbers (log : List Event) : Finset UInt32 := (log.filterMap fun e => e.what.number?).toFinset

theorem mem_numbers {number tick : UInt32} {log : List Event}
    (h : Event.mk tick (.anuncio number) ∈ log) : number ∈ numbers log := by
  rw [numbers, List.mem_toFinset, List.mem_filterMap]
  exact ⟨_, h, rfl⟩

theorem numbers_append (log more : List Event) :
    numbers (log ++ more) = numbers log ∪ numbers more := by
  rw [numbers, List.filterMap_append, List.toFinset_append]
  rfl

theorem numbers_subset (log more : List Event) : numbers log ⊆ numbers (log ++ more) := by
  rw [numbers_append]
  exact Finset.subset_union_left

namespace Fixo

theorem locate_eq_some_iff {s : Fixo} {number : UInt32} {loc : Fin HISTORY_SIZE} :
    s.locate number = some loc ↔
      (s.history loc).id = number ∧ ∀ j < loc, (s.history j).id ≠ number := by
  refine ⟨locate_some, ?_⟩
  rintro ⟨hid, hbefore⟩
  cases hfound : s.locate number with
  | none => exact absurd hid (locate_none hfound loc)
  | some i =>
    obtain ⟨hi, hfirst⟩ := locate_some hfound
    obtain hlt | rfl | hgt := lt_trichotomy i loc
    · exact absurd hi (hbefore i hlt)
    · rfl
    · exact absurd hid (hfirst loc hgt)

/-- Where a number is found depends on the entries that have it, and on nothing else. -/
theorem locate_congr {s s' : Fixo} {number : UInt32}
    (h : ∀ i, (s'.history i).id = number ↔ (s.history i).id = number) :
    s'.locate number = s.locate number := by
  have hsame : ∀ loc, s'.locate number = some loc ↔ s.locate number = some loc := by
    intro loc
    simp only [locate_eq_some_iff, h, ne_eq]
  cases hfound : s.locate number with
  | some loc => exact (hsame loc).mpr hfound
  | none =>
    cases hfound' : s'.locate number with
    | none => rfl
    | some loc => exact absurd ((hsame loc).mp hfound') (by rw [hfound]; exact nofun)

end Fixo

/-- With no more numbers than entries, the entry a new number takes is not waiting. -/
theorem Held.oldest_unused {s : Fixo} {log : List Event} (h : Held s log) {number : UInt32}
    (hnone : s.locate number = none)
    (hfew : (insert number (numbers log)).card ≤ HISTORY_SIZE) :
    (s.history s.oldest).time = 0 := by
  by_contra hused
  have hall : ∀ i, (s.history i).time ≠ 0 := by
    intro i hzero
    have hle := s.oldest_le i
    rw [hzero] at hle
    exact hused (UInt32.le_antisymm hle UInt32.zero_le)
  have hinjective : Function.Injective fun i => (s.history i).id := by
    intro i j hid
    obtain hlt | heq | hgt := lt_trichotomy i j
    · exact absurd (h.single i j hlt hid) (hall j)
    · exact heq
    · exact absurd (h.single j i hgt hid.symm) (hall i)
  have hfresh : number ∉ Finset.univ.image fun i => (s.history i).id := by
    rw [Finset.mem_image]
    rintro ⟨i, -, hid⟩
    exact Fixo.locate_none hnone i hid
  have hheard : (Finset.univ.image fun i => (s.history i).id) ⊆ numbers log := by
    intro id hid
    obtain ⟨i, -, rfl⟩ := Finset.mem_image.mp hid
    exact mem_numbers (mem_of_mem_since (h.heard i (hall i)))
  have hcount := Finset.card_le_card (Finset.insert_subset_insert number hheard)
  rw [Finset.card_insert_of_notMem hfresh, Finset.card_image_of_injective _ hinjective,
    Finset.card_univ, Fintype.card_fin] at hcount
  exact absurd (Nat.le_trans hcount hfew) (Nat.not_succ_le_self _)

/-! ## A number in the table -/

/-- The window of the source, for a time that is not ahead. -/
theorem window_iff {c time : UInt32} (hle : time ≤ c) :
    (c - INTERV_END ≤ time ∧ time ≤ c - INTERV_BEG) ↔
      10 ≤ c.toNat ∧ c.toNat ≤ time.toNat + 10 ∧ time.toNat + 5 ≤ c.toNat := by
  have hbound := c.toNat_lt
  have hten : INTERV_END.toNat = 10 := rfl
  have hfive : INTERV_BEG.toNat = 5 := rfl
  rw [UInt32.le_iff_toNat_le] at hle
  rw [UInt32.le_iff_toNat_le, UInt32.le_iff_toNat_le, UInt32.toNat_sub, UInt32.toNat_sub, hten, hfive]
  omega

theorem before_window_iff {c time : UInt32} (hle : time ≤ c) :
    time < c - INTERV_END ↔ c.toNat < 10 ∨ time.toNat + 10 < c.toNat := by
  have hbound := c.toNat_lt
  have hten : INTERV_END.toNat = 10 := rfl
  rw [UInt32.le_iff_toNat_le] at hle
  rw [UInt32.lt_iff_toNat_lt, UInt32.toNat_sub, hten]
  omega

/-- What the table holds of a number: the tick it waits from; or nothing, or an entry with
time 0 that the door has been opened for. -/
def Waits (s : Fixo) (log : List Event) (number : UInt32) : Option Nat → Prop
  | some t => ∃ loc, s.locate number = some loc ∧ (s.history loc).time.toNat = t ∧
      (s.history loc).time ≠ 0
  | none => ∀ loc, s.locate number = some loc →
      (s.history loc).time = 0 ∧ ∃ t ∈ heard number log, 10 ≤ t

theorem heard_append (number : UInt32) (log more : List Event) :
    heard number (log ++ more) = heard number log ++ heard number more :=
  List.filterMap_append

theorem opened_append (number : UInt32) (log more : List Event) :
    opened number (log ++ more) = opened number log ++ opened number more :=
  List.filterMap_append

/-- What is done while the number is not heard, with the entries that have it left alone. -/
theorem Waits.kept {s s' : Fixo} {log : List Event} {number : UInt32} {waiting : Option Nat}
    (hw : Waits s log number waiting) (more : List Event)
    (hlocate : s'.locate number = s.locate number)
    (hsame : ∀ loc, s.locate number = some loc → s'.history loc = s.history loc) :
    Waits s' (log ++ more) number waiting := by
  cases waiting with
  | some t =>
    obtain ⟨loc, hloc, htime⟩ := hw
    exact ⟨loc, hlocate.trans hloc, by rwa [hsame loc hloc]⟩
  | none =>
    intro loc hloc
    rw [hlocate] at hloc
    obtain ⟨hzero, t, ht, hten⟩ := hw loc hloc
    rw [hsame loc hloc, heard_append]
    exact ⟨hzero, t, List.mem_append_left _ ht, hten⟩

/-- An entry whose time is changed keeps its number, and so every number its place. -/
theorem Fixo.locate_setEntry (s : Fixo) (loc : Fin HISTORY_SIZE) (time : UInt32) (number : UInt32) :
    (s.setEntry loc { s.history loc with time }).locate number = s.locate number :=
  locate_congr fun i => by rw [s.setEntry_ids]

/-- The number is heard: its entry does what its timer does. -/
theorem Waits.hear {s s' : Fixo} {log : List Event} {number : UInt32} {waiting : Option Nat}
    {done : List What} (h : Held s log) (hw : Waits s log number waiting)
    (honce : ∀ t ∈ heard number log, t < s.cur_time.toNat)
    (hdone : Fixo.Announced s number s' done) :
    Waits s' (log ++ [.mk s.cur_time (.anuncio number)]) number
        (Timer.hear s.cur_time.toNat waiting).1 ∧
      done = if (Timer.hear s.cur_time.toNat waiting).2 then [.abrir number] else [] := by
  cases hdone with
  | @opened loc hloc hbegin hend =>
    obtain ⟨hten, hlate, hearly⟩ := (window_iff (h.times loc)).mp ⟨hbegin, hend⟩
    cases waiting with
    | some t =>
      obtain ⟨loc', hloc', rfl, -⟩ := hw
      obtain rfl : loc = loc' := Option.some.inj (hloc.symm.trans hloc')
      rw [Timer.hear, if_neg (by omega), if_pos hearly]
      refine ⟨?_, rfl⟩
      intro i hi
      rw [s.locate_setEntry, hloc] at hi
      obtain rfl := Option.some.inj hi
      rw [Fixo.setEntry_self, heard_append]
      exact ⟨rfl, _, List.mem_append_right _ (by simp [heard]), hten⟩
    | none =>
      obtain ⟨hzero, t, ht, hlarge⟩ := hw loc hloc
      have hbefore := honce t ht
      rw [hzero] at hlate
      exact absurd hlate (by rw [UInt32.toNat_zero]; omega)
  | @renewed loc hloc hold =>
    have hwait : Timer.hear s.cur_time.toNat waiting = (some s.cur_time.toNat, false) := by
      cases waiting with
      | none => rfl
      | some t =>
        obtain ⟨loc', hloc', rfl, -⟩ := hw
        obtain rfl : loc = loc' := Option.some.inj (hloc.symm.trans hloc')
        exact if_pos ((before_window_iff (h.times loc)).mp hold)
    rw [hwait]
    refine ⟨⟨loc, (s.locate_setEntry _ _ _).trans hloc, ?_, ?_⟩, rfl⟩
    · rw [Fixo.setEntry_self]
    · rw [Fixo.setEntry_self]
      exact h.positive
  | @kept loc hloc hwindow hnew =>
    cases waiting with
    | none => exact absurd (hw loc hloc).1 (window_zero hwindow hnew)
    | some t =>
      have hwaits : Waits s (log ++ [.mk s.cur_time (.anuncio number)]) number (some t) :=
        hw.kept _ rfl fun _ _ => rfl
      obtain ⟨loc', hloc', rfl, -⟩ := hw
      obtain rfl : loc = loc' := Option.some.inj (hloc.symm.trans hloc')
      rw [window_iff (h.times loc)] at hwindow
      rw [before_window_iff (h.times loc)] at hnew
      rw [Timer.hear, if_neg hnew, if_neg (by omega)]
      exact ⟨hwaits, rfl⟩
  | entered hnone =>
    cases waiting with
    | some t =>
      obtain ⟨loc, hloc, -⟩ := hw
      exact absurd hloc (by rw [hnone]; exact nofun)
    | none =>
      refine ⟨⟨s.oldest, Fixo.locate_eq_some_iff.mpr ⟨?_, ?_⟩, ?_, ?_⟩, rfl⟩
      · rw [Fixo.setEntry_self]
      · intro j hj
        rw [Fixo.setEntry_other s _ (ne_of_lt hj)]
        exact Fixo.locate_none hnone j
      · rw [Fixo.setEntry_self]
      · rw [Fixo.setEntry_self]
        exact h.positive

/-- Another number takes an entry that is not waiting and has the number. The first entry with
the number stays, unless it is this one. -/
theorem Waits.overwritten {s : Fixo} {log : List Event} {number other : UInt32} {waiting : Option Nat}
    (h : Held s log) (hw : Waits s log number waiting) (hne : other ≠ number) {loc : Fin HISTORY_SIZE}
    (hzero : (s.history loc).time = 0) (htaken : (s.history loc).id = number) (time : UInt32) (more : List Event) :
    Waits (s.setEntry loc { id := other, time }) (log ++ more) number waiting := by
  have hstays : ∀ {i : Fin HISTORY_SIZE}, i ≠ loc →
      (s.setEntry loc { id := other, time }).history i = s.history i := fun hi => Fixo.setEntry_other s _ hi
  have hothers : ∀ {i : Fin HISTORY_SIZE}, ((s.setEntry loc { id := other, time }).history i).id = number →
      i ≠ loc := by
    rintro i hid rfl
    rw [Fixo.setEntry_self] at hid
    exact hne hid
  cases waiting with
  | some t =>
    obtain ⟨first, hlocate, htime, hused⟩ := hw
    obtain ⟨hid, hfirst⟩ := Fixo.locate_some hlocate
    have hother : first ≠ loc := by
      rintro rfl
      exact hused hzero
    refine ⟨first, Fixo.locate_eq_some_iff.mpr ⟨by rwa [hstays hother], ?_⟩, ?_, ?_⟩
    · intro j hj hid'
      rw [hstays (hothers hid')] at hid'
      exact hfirst j hj hid'
    · rwa [hstays hother]
    · rwa [hstays hother]
  | none =>
    intro i hi
    have hid := (Fixo.locate_some hi).1
    have hother := hothers hid
    rw [hstays hother] at hid ⊢
    cases hfound : s.locate number with
    | none => exact absurd htaken (Fixo.locate_none hfound loc)
    | some first =>
      obtain ⟨hblank, t, ht, hten⟩ := hw first hfound
      obtain ⟨hfirstid, hfirst⟩ := Fixo.locate_some hfound
      rw [heard_append]
      refine ⟨?_, t, List.mem_append_left _ ht, hten⟩
      obtain hlt | rfl | hgt := lt_trichotomy first i
      · exact h.single first i hlt (hfirstid.trans hid.symm)
      · exact hblank
      · exact absurd hid (hfirst i hgt)

/-- Another number is heard: with room for all numbers the entry stays as it is, or was not
waiting. -/
theorem Waits.hear_other {s s' : Fixo} {log : List Event} {number other : UInt32}
    {waiting : Option Nat} {done : List What} (h : Held s log) (hw : Waits s log number waiting)
    (hne : other ≠ number) (hfew : (insert other (numbers log)).card ≤ HISTORY_SIZE)
    (hdone : Fixo.Announced s other s' done) (more : List Event) :
    Waits s' (log ++ more) number waiting := by
  have htimed : ∀ {loc : Fin HISTORY_SIZE} (time : UInt32), s.locate other = some loc →
      Waits (s.setEntry loc { s.history loc with time }) (log ++ more) number waiting := by
    intro loc time hloc
    refine hw.kept more (s.locate_setEntry _ _ _) fun i hi => Fixo.setEntry_other s _ ?_
    rintro rfl
    exact hne ((Fixo.locate_some hloc).1.symm.trans (Fixo.locate_some hi).1)
  cases hdone with
  | opened hloc => exact htimed 0 hloc
  | renewed hloc => exact htimed s.cur_time hloc
  | kept => exact hw.kept more rfl fun _ _ => rfl
  | entered hnone =>
    by_cases htaken : (s.history s.oldest).id = number
    · exact hw.overwritten h hne (h.oldest_unused hnone hfew) htaken s.cur_time more
    · refine hw.kept more (Fixo.locate_congr fun i => ?_) fun i hi => Fixo.setEntry_other s _ ?_
      · by_cases hi : i = s.oldest
        · rw [hi, Fixo.setEntry_self]
          exact iff_of_false hne htaken
        · rw [Fixo.setEntry_other s _ hi]
      · rintro rfl
        exact htaken (Fixo.locate_some hi).1

/-! ## A run -/

theorem Fixo.Announced.done_cases {s s' : Fixo} {number : UInt32} {done : List What}
    (h : Fixo.Announced s number s' done) : done = [] ∨ done = [.abrir number] := by
  cases h with
  | opened => exact .inr rfl
  | renewed => exact .inl rfl
  | kept => exact .inl rfl
  | entered => exact .inl rfl

/-- One input does to the entry of a number, and opens, what it does to a timer. -/
theorem Processed.timer {r r' : Run} {input : Input} (hstep : Processed r input r')
    (h : Held r.node r.log) {number : UInt32}
    (honce : (heard number r'.log).Pairwise (· < ·))
    (hfew : (numbers r'.log).card ≤ HISTORY_SIZE)
    (hw : Waits r.node r.log number (Timer.run (heard number r.log)).1)
    (hopened : opened number r.log = (Timer.run (heard number r.log)).2) :
    Waits r'.node r'.log number (Timer.run (heard number r'.log)).1 ∧
      opened number r'.log = (Timer.run (heard number r'.log)).2 := by
  -- nothing is heard or opened
  have hquiet : ∀ {s : Fixo} {e : Event}, e.what.number? = none → (∀ n, e.what ≠ .abrir n) →
      s.history = r.node.history →
      Waits s (r.log ++ [e]) number (Timer.run (heard number (r.log ++ [e]))).1 ∧
        opened number (r.log ++ [e]) = (Timer.run (heard number (r.log ++ [e]))).2 := by
    intro s e hnumber habrir hhistory
    have hheard : heard number [e] = [] := by
      have hne : e.what ≠ .anuncio number := by
        intro heq
        rw [heq] at hnumber
        cases hnumber
      simp [heard, hne]
    have hopens : opened number [e] = [] := by simp [opened, habrir]
    rw [heard_append, opened_append, hheard, hopens, List.append_nil, List.append_nil]
    exact ⟨hw.kept [e] (Fixo.locate_congr fun i => by rw [hhistory]) fun i _ => by rw [hhistory],
      hopened⟩
  cases hstep with
  | timeout => exact hquiet rfl (by simp) rfl
  | ignored => exact ⟨hw, hopened⟩
  | printed => exact hquiet rfl (by simp) rfl
  | @announced _ _ other node done hnumber hdone htime =>
    obtain ⟨c, hc⟩ : ∃ c, c = r.node.cur_time := ⟨_, rfl⟩
    rw [← hc] at honce hfew ⊢
    have hdone' : heard number (done.map (Event.mk c)) = [] := by
      obtain rfl | rfl := hdone.done_cases <;> rfl
    have hanuncio : opened number [Event.mk c (.anuncio other)] = [] := rfl
    rw [heard_append, heard_append, hdone', List.append_nil] at honce ⊢
    rw [opened_append, opened_append, hanuncio, List.append_nil, hopened]
    by_cases hsame : other = number
    · subst hsame
      have hself : heard other [Event.mk c (.anuncio other)] = [c.toNat] := by simp [heard]
      rw [hself] at honce ⊢
      have hbefore : ∀ t ∈ heard other r.log, t < r.node.cur_time.toNat := by
        intro t ht
        rw [← hc]
        exact (List.pairwise_append.mp honce).2.2 t ht _ (List.mem_singleton_self _)
      obtain ⟨hwaits, hopens⟩ := hw.hear h hbefore hdone
      rw [← hc] at hwaits hopens
      rw [Timer.run_snoc]
      refine ⟨hwaits.kept _ rfl fun _ _ => rfl, ?_⟩
      rw [hopens]
      split
      · simp [opened]
      · exact List.append_nil _
    · have hother : heard number [Event.mk c (.anuncio other)] = [] := by simp [heard, hsame]
      have hcloses : opened number (done.map (Event.mk c)) = [] := by
        obtain rfl | rfl := hdone.done_cases
        · rfl
        · simp [opened, hsame]
      have hroom : (insert other (numbers r.log)).card ≤ HISTORY_SIZE := by
        refine Nat.le_trans (Finset.card_le_card ?_) hfew
        rw [List.append_assoc, Finset.insert_subset_iff]
        exact ⟨mem_numbers (List.mem_append_right _ List.mem_cons_self), numbers_subset _ _⟩
      rw [hother, List.append_nil, hcloses, List.append_nil, List.append_assoc]
      exact ⟨hw.hear_other h hsame hroom hdone _, rfl⟩

/-- The entry of a number waits as its timer does, and the door has opened for it as the timer
says. -/
theorem Run.waits_as_timer {inputs : List Input}
    (hwrap : inputs.countP Input.isTimeout + 1 < 0x100000000)
    (hfew : (numbers (Run.of inputs).log).card ≤ HISTORY_SIZE) {number : UInt32}
    (hnumber : number ≠ 0) (honce : (heard number (Run.of inputs).log).Pairwise (· < ·)) :
    Waits (Run.of inputs).node (Run.of inputs).log number
        (Timer.run (heard number (Run.of inputs).log)).1 ∧
      opened number (Run.of inputs).log = (Timer.run (heard number (Run.of inputs).log)).2 := by
  induction inputs using List.reverseRecOn with
  | nil =>
    refine ⟨fun loc hloc => ?_, rfl⟩
    exact absurd (Fixo.locate_some hloc).1 hnumber.symm
  | append_singleton inputs input ih =>
    have hless : inputs.countP Input.isTimeout + 1 < 0x100000000 := by
      rw [List.countP_append] at hwrap
      omega
    have hstep := (Run.of inputs).processed input
    obtain ⟨more, hlog⟩ : ∃ more, ((Run.of inputs).fixed_process input).log =
        (Run.of inputs).log ++ more := ⟨_, rfl⟩
    rw [Run.of_snoc] at hfew honce ⊢
    have hprefix := hlog ▸ honce
    rw [heard_append] at hprefix
    obtain ⟨hw, hopened⟩ := ih hless
      (Nat.le_trans (Finset.card_le_card (hlog ▸ numbers_subset _ _)) hfew)
      (List.pairwise_append.mp hprefix).1
    exact hstep.timer (Run.held hless).2 honce hfew hw hopened

/-- A table of a hundred entries for at most a hundred numbers is a timer for each: whatever
other numbers are heard, and however their entries are replaced, the door opens for a number in
exactly the ticks its own timer says. -/
theorem Run.opens_as_timer {inputs : List Input}
    (hwrap : inputs.countP Input.isTimeout + 1 < 0x100000000)
    (hfew : (numbers (Run.of inputs).log).card ≤ HISTORY_SIZE) {number : UInt32}
    (hnumber : number ≠ 0) (honce : (heard number (Run.of inputs).log).Pairwise (· < ·)) :
    opened number (Run.of inputs).log = (Timer.run (heard number (Run.of inputs).log)).2 :=
  (Run.waits_as_timer hwrap hfew hnumber honce).2

theorem seven_as_timer :
    opened 7 (Run.of (anuncio 7 :: (List.replicate 10 .timeout ++ [anuncio 7]))).log = [11] := by
  rw [Run.opens_as_timer (by decide) (by decide) (by decide) (by decide)]
  decide

end concretid.edna
