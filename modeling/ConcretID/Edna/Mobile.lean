import Mathlib.Data.List.Range
import Mathlib.Tactic.IntervalCases
import ConcretID.Edna.Timers

namespace concretid.edna

/-! ## The mobile node -/

namespace Mobile

abbrev MAC_SIZE : Nat := 6

/-- The number a mobile node takes from its address: six bytes folded into four. -/
def number (mac : Fin MAC_SIZE → UInt8) : UInt32 :=
  (List.finRange MAC_SIZE).foldl
    (fun number i => number ^^^ (mac i).toUInt32 <<< UInt32.ofNat (i.val % 4 * 8)) 0

/-- `'A'` and the number as it lies in memory, least significant byte first. -/
def announcement (number : UInt32) : List UInt8 :=
  [0x41, number.toUInt8, (number >>> 8).toUInt8, (number >>> 16).toUInt8, (number >>> 24).toUInt8]

/-- What `tcpip_handler` of `mobile.c` prints and what it sends back. -/
def tcpip_handler (number : UInt32) (newdata : Bool) (appdata : Nat → UInt8) :
    List UInt8 × Option (List UInt8) :=
  if newdata then
    ([0x2C, 0x2E], if appdata 0 = 0x50 then some (announcement number) else none)
  else
    ([0x2C], none)

end Mobile

/-- A package as the receiver finds it. -/
def received (payload : List UInt8) : Nat → UInt8 := fun i => payload.getD i 0

/-- The package `timeout_handler` sends to all nodes. -/
def poll : List UInt8 := [0x50]

/-- A mobile node in range hears the poll, and the door node its answer. -/
def answer (r : Run) (mac : Fin Mobile.MAC_SIZE → UInt8) : Run :=
  match (Mobile.tcpip_handler (Mobile.number mac) true (received poll)).2 with
  | some payload => r.fixed_process (.tcpip true (received payload))
  | none => r

/-- One tick of the door node, with the mobile nodes in range in the order of their answers. -/
def round (r : Run) (present : List (Fin Mobile.MAC_SIZE → UInt8)) : Run :=
  present.foldl answer (r.fixed_process .timeout)

/-- A number that is sent is the number that is heard. -/
theorem announced_announcement (number : UInt32) :
    Fixo.announced true (received (Mobile.announcement number)) = some number := by
  have hnumber : Fixo.numberAt (received (Mobile.announcement number)) = number := by
    apply UInt32.toBitVec_inj.mp
    apply BitVec.eq_of_getLsbD_eq
    intro i hi
    simp only [Fixo.numberAt, received, Mobile.announcement, List.getD_cons_zero,
      List.getD_cons_succ, BitVec.getLsbD_append, UInt32.toBitVec_toUInt8,
      UInt32.toBitVec_shiftRight, BitVec.getLsbD_setWidth]
    interval_cases i <;> simp
  exact congrArg some hnumber

theorem answer_eq (r : Run) (mac : Fin Mobile.MAC_SIZE → UInt8) :
    answer r mac =
      r.fixed_process (.tcpip true (received (Mobile.announcement (Mobile.number mac)))) := rfl

/-! ## The nodes together -/

/-- Rounds of ticks, each with the mobile nodes in range. -/
def Run.ofRounds (rounds : List (List (Fin Mobile.MAC_SIZE → UInt8))) : Run :=
  rounds.foldl round .start

def answers (present : List (Fin Mobile.MAC_SIZE → UInt8)) : List Input :=
  present.map fun mac => .tcpip true (received (Mobile.announcement (Mobile.number mac)))

theorem answer_of (inputs : List Input) (present : List (Fin Mobile.MAC_SIZE → UInt8)) :
    present.foldl answer (Run.of inputs) = Run.of (inputs ++ answers present) := by
  induction present generalizing inputs with
  | nil => rw [answers, List.map_nil, List.append_nil]; rfl
  | cons mac rest ih =>
    rw [List.foldl_cons, answer_eq, ← Run.of_snoc, ih, List.append_assoc]
    rfl

theorem round_of (inputs : List Input) (present : List (Fin Mobile.MAC_SIZE → UInt8)) :
    round (Run.of inputs) present = Run.of (inputs ++ .timeout :: answers present) := by
  rw [round, ← Run.of_snoc, answer_of, List.append_assoc]
  rfl

/-- The nodes together are a run of the door node. -/
theorem ofRounds_of (rounds : List (List (Fin Mobile.MAC_SIZE → UInt8))) :
    Run.ofRounds rounds = Run.of (rounds.flatMap fun present => .timeout :: answers present) := by
  induction rounds using List.reverseRecOn with
  | nil => rfl
  | append_singleton rounds present ih =>
    rw [Run.ofRounds] at ih ⊢
    rw [List.foldl_append, ih, List.foldl_cons, List.foldl_nil, round_of, List.flatMap_append,
      List.flatMap_singleton]

theorem countP_rounds (rounds : List (List (Fin Mobile.MAC_SIZE → UInt8))) :
    (rounds.flatMap fun present => Input.timeout :: answers present).countP Input.isTimeout =
      rounds.length := by
  induction rounds with
  | nil => rfl
  | cons present rest ih =>
    have hanswers : (answers present).countP Input.isTimeout = 0 := by
      rw [List.countP_eq_zero]
      intro input hinput
      obtain ⟨mac, -, rfl⟩ := List.mem_map.mp hinput
      exact Bool.false_ne_true
    rw [List.flatMap_cons, List.cons_append, List.countP_cons_of_pos rfl, List.countP_append,
      hanswers, ih, List.length_cons, Nat.zero_add]

/-- What the door node hears of one answer. -/
theorem answer_heard (r : Run) (mac : Fin Mobile.MAC_SIZE → UInt8) (number : UInt32) :
    (answer r mac).node.cur_time = r.node.cur_time ∧
      heard number (answer r mac).log = heard number r.log ++
        List.replicate ([Mobile.number mac].count number) r.node.cur_time.toNat ∧
      numbers (answer r mac).log = insert (Mobile.number mac) (numbers r.log) := by
  rw [answer_eq]
  obtain ⟨input, hinput⟩ : ∃ input, input =
      Input.tcpip true (received (Mobile.announcement (Mobile.number mac))) := ⟨_, rfl⟩
  have hstep := r.processed input
  have hannounced : input.announced = some (Mobile.number mac) := by
    rw [hinput]
    exact announced_announcement _
  rw [← hinput]
  generalize r.fixed_process input = r' at hstep ⊢
  cases hstep with
  | timeout => cases hinput
  | ignored => cases hannounced
  | printed hnone => cases hnone.symm.trans hannounced
  | @announced newdata appdata other node done hnumber hdone htime =>
    obtain rfl : other = Mobile.number mac := Option.some.inj (hnumber.symm.trans hannounced)
    have hquiet : heard number (done.map (Event.mk r.node.cur_time)) = [] ∧
        numbers (done.map (Event.mk r.node.cur_time)) = ∅ := by
      obtain rfl | rfl := hdone.done_cases <;> exact ⟨rfl, rfl⟩
    refine ⟨htime, ?_, ?_⟩
    · rw [heard_append, heard_append, hquiet.1, List.append_nil]
      congr 1
      by_cases hsame : Mobile.number mac = number
      · simp [heard, hsame]
      · simp [heard, hsame]
    · rw [numbers_append, numbers_append, hquiet.2, Finset.union_empty, Finset.union_comm]
      rfl

/-- What the door node hears in a round. -/
theorem round_heard {r : Run} (hwrap : r.node.cur_time.toNat + 1 < 0x100000000)
    (present : List (Fin Mobile.MAC_SIZE → UInt8)) (number : UInt32) :
    (round r present).node.cur_time.toNat = r.node.cur_time.toNat + 1 ∧
      heard number (round r present).log = heard number r.log ++
        List.replicate ((present.map Mobile.number).count number) (r.node.cur_time.toNat + 1) ∧
      numbers (round r present).log =
        numbers r.log ∪ (present.map Mobile.number).toFinset := by
  have hticked : (r.fixed_process .timeout).node.cur_time.toNat = r.node.cur_time.toNat + 1 ∧
      heard number (r.fixed_process .timeout).log = heard number r.log ∧
      numbers (r.fixed_process .timeout).log = numbers r.log := by
    refine ⟨?_, ?_, ?_⟩
    · exact (UInt32.toNat_add _ _).trans (Nat.mod_eq_of_lt hwrap)
    · exact (heard_append _ _ _).trans (List.append_nil _)
    · exact (numbers_append _ _).trans (Finset.union_empty _)
  induction present using List.reverseRecOn with
  | nil =>
    rw [List.map_nil, List.count_nil, List.replicate_zero, List.append_nil, List.toFinset_nil,
      Finset.union_empty]
    exact hticked
  | append_singleton present mac ih =>
    obtain ⟨htime, hheard, hnumbers⟩ := ih
    obtain ⟨htime', hheard', hnumbers'⟩ := answer_heard (round r present) mac number
    have hround : round r (present ++ [mac]) = answer (round r present) mac := by
      rw [round, List.foldl_append]
      rfl
    rw [hround, htime', hheard', hnumbers', htime, hheard, hnumbers, List.map_append,
      List.count_append, List.replicate_add, List.toFinset_append, List.append_assoc]
    refine ⟨rfl, rfl, ?_⟩
    rw [← Finset.union_assoc, Finset.insert_eq, Finset.union_comm]
    rfl

/-- What the door node has heard after some rounds. -/
theorem ofRounds_heard {rounds : List (List (Fin Mobile.MAC_SIZE → UInt8))}
    (hwrap : rounds.length + 1 < 0x100000000) (number : UInt32) :
    (Run.ofRounds rounds).node.cur_time.toNat = rounds.length + 1 ∧
      heard number (Run.ofRounds rounds).log = (rounds.zipIdx 2).flatMap (fun round =>
        List.replicate ((round.1.map Mobile.number).count number) round.2) ∧
      numbers (Run.ofRounds rounds).log = (rounds.flatten.map Mobile.number).toFinset := by
  induction rounds using List.reverseRecOn with
  | nil => exact ⟨rfl, rfl, rfl⟩
  | append_singleton rounds present ih =>
    rw [List.length_append, List.length_singleton] at hwrap
    obtain ⟨htime, hheard, hnumbers⟩ := ih (by omega)
    have hstep : Run.ofRounds (rounds ++ [present]) = round (Run.ofRounds rounds) present := by
      rw [Run.ofRounds, List.foldl_append]
      rfl
    obtain ⟨htime', hheard', hnumbers'⟩ :=
      round_heard (r := Run.ofRounds rounds) (by omega) present number
    rw [hstep, htime', hheard', hnumbers', htime, hheard, hnumbers]
    refine ⟨by rw [List.length_append, List.length_singleton], ?_, ?_⟩
    · rw [List.zipIdx_append, List.flatMap_append, Nat.add_comm 2]
      simp
    · rw [List.flatten_append, List.map_append, List.toFinset_append, List.flatten_singleton]

/-- A node that comes into range and stays is heard in every tick from then on. -/
theorem flatMap_replicate_range' {α : Type} (l : List α) (count : α → Nat) (first k₀ : Nat)
    (h : ∀ k (hk : k < l.length), count l[k] = if k < k₀ then 0 else 1) :
    (l.zipIdx first).flatMap (fun a => List.replicate (count a.1) a.2) =
      List.range' (first + k₀) (l.length - k₀) := by
  induction l using List.reverseRecOn with
  | nil => simp
  | append_singleton l a ih =>
    have hbefore := ih fun k hk => by
      have := h k (by rw [List.length_append]; omega)
      rwa [List.getElem_append_left hk] at this
    have hlast := h l.length (by simp)
    rw [List.getElem_concat_length rfl] at hlast
    rw [List.zipIdx_append, List.flatMap_append, hbefore, List.length_append]
    simp only [List.zipIdx_singleton, List.flatMap_singleton, List.length_singleton, hlast]
    split
    · rename_i hk
      rw [List.replicate_zero, List.append_nil, Nat.sub_eq_zero_of_le (Nat.le_of_lt hk),
        Nat.sub_eq_zero_of_le hk]
    · rename_i hk
      have htick : first + l.length = first + k₀ + 1 * (l.length - k₀) := by omega
      rw [Nat.sub_add_comm (Nat.not_lt.mp hk), List.range'_concat, List.replicate_one, htick]

/-- A mobile node comes into range for good and answers every poll, and others come and go: with
no more numbers than entries the door opens for it every six ticks, counted from its first one or
tick 9. -/
theorem opens_every_six {rounds : List (List (Fin Mobile.MAC_SIZE → UInt8))}
    (hwrap : rounds.length + 1 < 0x100000000)
    (hfew : (rounds.flatten.map Mobile.number).toFinset.card ≤ HISTORY_SIZE) {number : UInt32}
    (hnumber : number ≠ 0) (k₀ : Nat)
    (hpresent : ∀ k (hk : k < rounds.length),
      (rounds[k].map Mobile.number).count number = if k < k₀ then 0 else 1) :
    opened number (Run.ofRounds rounds).log =
      (List.range' (k₀ + 2) (rounds.length - k₀)).filter fun tick =>
        (tick - max (k₀ + 2) 9) % 6 = 5 := by
  obtain ⟨-, hheard, hnumbers⟩ := ofRounds_heard hwrap number
  have hticks : heard number (Run.ofRounds rounds).log =
      List.range' (k₀ + 2) (rounds.length - k₀) := by
    rw [hheard, Nat.add_comm k₀]
    exact flatMap_replicate_range' rounds (fun present => (present.map Mobile.number).count number)
      2 k₀ hpresent
  rw [← hnumbers] at hfew
  rw [ofRounds_of] at hfew hticks ⊢
  rw [(Run.waits_as_timer (by rwa [countP_rounds]) hfew hnumber
    (by rw [hticks]; exact List.pairwise_lt_range')).2, hticks]
  cases rounds.length - k₀ with
  | zero => rfl
  | succ n => rw [Timer.run_range']

/-- The node 7 from the first tick on, and the node 8 in every other one. -/
theorem opens_every_six_seven :
    opened 7 (Run.ofRounds ((List.range 20).map fun k =>
      if k % 2 = 0 then [fun i => if i = 0 then 7 else 0, fun i => if i = 0 then 8 else 0]
      else [fun i => if i = 0 then 7 else 0])).log = [14, 20] := by
  rw [opens_every_six (by decide) (by decide) (by decide) 0 (by decide)]
  decide

end concretid.edna
