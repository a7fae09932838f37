import Mathlib.Data.List.Basic

namespace concretid.line

/-- What has come by a question of the reader, and the time from it to the next one. -/
structure Burst (β : Type) where
  come : List β
  time : Nat

/-- A line as its reader finds it: the symbols that have come, and what comes between one
question and the next. -/
structure Line (β : Type) where
  pending : List β
  bursts : List (Burst β)

namespace Line

/-- All the symbols, in order. -/
def symbols {β : Type} (line : Line β) : List β := line.pending ++ line.bursts.flatMap Burst.come

/-- One question for at most `size` symbols. -/
def poll {β : Type} (line : Line β) (size : Nat) : List β × Line β :=
  let pending := line.pending ++ line.bursts.head?.elim [] Burst.come
  (pending.take size, ⟨pending.drop size, line.bursts.tail⟩)

theorem poll_symbols {β : Type} (line : Line β) (size : Nat) :
    (line.poll size).1 ++ (line.poll size).2.symbols = line.symbols := by
  cases line with
  | mk pending bursts =>
    cases bursts with
    | nil => simp [poll, symbols]
    | cons burst bursts => simp [poll, symbols, ← List.append_assoc]

theorem poll_length_le {β : Type} (line : Line β) (size : Nat) :
    (line.poll size).1.length ≤ size := by
  rw [poll, List.length_take]
  exact Nat.min_le_left _ _

/-- A question for no more than the first part of the symbols finds some of that part. -/
theorem poll_split {β : Type} {line : Line β} {size : Nat} {first rest : List β}
    (hsymbols : line.symbols = first ++ rest) (hsize : size ≤ first.length) :
    ∃ more, first = (line.poll size).1 ++ more ∧ (line.poll size).2.symbols = more ++ rest := by
  have hpolled := line.poll_symbols size
  have hle := line.poll_length_le size
  rw [hsymbols] at hpolled
  obtain ⟨more, hfirst, hrest⟩ | ⟨more, hfirst, hrest⟩ := List.append_eq_append_iff.mp hpolled
  · exact ⟨more, hfirst, hrest⟩
  · obtain rfl : more = [] := by
      apply List.eq_nil_of_length_eq_zero
      have hlength := congrArg List.length hfirst
      rw [List.length_append] at hlength
      omega
    rw [List.append_nil] at hfirst
    exact ⟨[], by rw [hfirst, List.append_nil], by simpa using hrest.symm⟩

theorem poll_bursts {β : Type} (line : Line β) (size : Nat) :
    (line.poll size).2.bursts = line.bursts.tail := rfl

/-- With nothing left to come, a question that finds nothing finds nothing for ever. -/
theorem symbols_of_poll_nil {β : Type} {line : Line β} {size : Nat} (hsize : 0 < size)
    (hpoll : (line.poll size).1 = []) (hbursts : line.bursts = []) : line.symbols = [] := by
  simp only [poll, hbursts, List.head?_nil, Option.elim_none, List.append_nil, List.take_eq_nil_iff] at hpoll
  obtain hzero | hpending := hpoll
  · omega
  · simp [symbols, hpending, hbursts]

/-- Waits for one symbol, `none` when there is never one. -/
def await {β : Type} (line : Line β) : Option (β × Line β) :=
  match (line.poll 1).1 with
  | b :: _ => some (b, (line.poll 1).2)
  | [] => if line.bursts = [] then none else await (line.poll 1).2
termination_by line.bursts.length
decreasing_by
  rw [poll_bursts, List.length_tail]
  exact Nat.sub_lt (List.length_pos_of_ne_nil ‹_›) Nat.one_pos

/-- The symbol waited for is the next one, however it comes. -/
theorem await_eq {β : Type} {line : Line β} {b : β} {rest : List β}
    (hsymbols : line.symbols = b :: rest) :
    ∃ line', line.await = some (b, line') ∧ line'.symbols = rest := by
  induction hn : line.bursts.length using Nat.strongRecOn generalizing line with
  | ind n ih =>
    have hpolled := line.poll_symbols 1
    rw [await]
    cases hpoll : (line.poll 1).1 with
    | nil =>
      rw [hpoll, List.nil_append] at hpolled
      have hbursts : line.bursts ≠ [] := by
        intro hnone
        rw [symbols_of_poll_nil Nat.one_pos hpoll hnone] at hsymbols
        cases hsymbols
      have hlt : (line.poll 1).2.bursts.length < n := by
        rw [poll_bursts, List.length_tail, ← hn]
        exact Nat.sub_lt (List.length_pos_of_ne_nil hbursts) Nat.one_pos
      obtain ⟨line', hawait, hrest⟩ := ih _ hlt (hpolled.trans hsymbols) rfl
      refine ⟨line', ?_, hrest⟩
      dsimp only
      rw [if_neg hbursts, hawait]
    | cons c more =>
      have hlength := line.poll_length_le 1
      rw [hpoll, List.length_cons] at hlength
      obtain rfl : more = [] := List.eq_nil_of_length_eq_zero (by omega)
      rw [hpoll, hsymbols] at hpolled
      obtain ⟨rfl, hrest⟩ := List.cons_eq_cons.mp hpolled
      exact ⟨(line.poll 1).2, rfl, hrest⟩

/-- With a question that finds nothing nothing has come, and nothing was left over. -/
theorem come_of_poll_nil {β : Type} {line : Line β} {size : Nat} (hsize : 0 < size)
    (hpoll : (line.poll size).1 = []) {burst : Burst β} {bursts : List (Burst β)}
    (hbursts : line.bursts = burst :: bursts) : line.pending = [] ∧ burst.come = [] := by
  simp only [poll, hbursts, List.head?_cons, Option.elim_some, List.take_eq_nil_iff, List.append_eq_nil_iff] at hpoll
  obtain hzero | hcome := hpoll
  · omega
  · exact hcome

/-! ## Reading with a clock -/

/-- Asks for one symbol until the time is over. -/
def awaitFor {β : Type} (line : Line β) (limit : Nat) : Option β × Line β :=
  match (line.poll 1).1 with
  | b :: _ => (some b, (line.poll 1).2)
  | [] =>
    -- with nothing more to come the time runs out
    let time := line.bursts.head?.elim limit Burst.time
    if time < limit then awaitFor (line.poll 1).2 (limit - time) else (none, (line.poll 1).2)
termination_by line.bursts.length
decreasing_by
  rename_i hless
  cases hbursts : line.bursts with
  | nil => simp [time, hbursts] at hless
  | cons burst bursts =>
    rw [poll_bursts, hbursts]
    exact Nat.lt_succ_self _

end Line

/-- How long it is until something comes, if something does. -/
def silence {β : Type} : List (Burst β) → Option Nat
  | [] => none
  | burst :: bursts => if burst.come.isEmpty then (silence bursts).map (burst.time + ·) else some 0

/-- Nothing that comes is as late as the limit. -/
def InTime {β : Type} (limit : Nat) : List (Burst β) → Prop
  | [] => True
  | burst :: bursts => (silence (burst :: bursts)).all (· < limit) = true ∧ InTime limit bursts

instance decInTime {β : Type} (limit : Nat) : (bursts : List (Burst β)) → Decidable (InTime limit bursts)
  | [] => inferInstanceAs (Decidable True)
  | _ :: bursts =>
    have := decInTime limit bursts
    inferInstanceAs (Decidable (_ ∧ _))

theorem silence_isSome {β : Type} {bursts : List (Burst β)} (h : bursts.flatMap Burst.come ≠ []) :
    (silence bursts).isSome = true := by
  induction bursts with
  | nil => exact absurd rfl h
  | cons burst bursts ih =>
    rw [silence]
    split
    · rename_i hempty
      rw [List.isEmpty_iff] at hempty
      rw [List.flatMap_cons, hempty, List.nil_append] at h
      rw [Option.isSome_map]
      exact ih h
    · rfl

theorem InTime.tail {β : Type} {limit : Nat} {bursts : List (Burst β)} (h : InTime limit bursts) :
    InTime limit bursts.tail := by
  cases bursts with
  | nil => exact trivial
  | cons burst bursts => exact h.2

namespace Line

/-- Nothing is lost by waiting. -/
theorem awaitFor_symbols {β : Type} (line : Line β) (limit : Nat) :
    (line.awaitFor limit).1.toList ++ (line.awaitFor limit).2.symbols = line.symbols := by
  fun_induction awaitFor line limit with
  | case1 line limit b more hpoll =>
    have hlength := line.poll_length_le 1
    rw [hpoll, List.length_cons] at hlength
    obtain rfl : more = [] := List.eq_nil_of_length_eq_zero (by omega)
    have hpolled := line.poll_symbols 1
    rwa [hpoll] at hpolled
  | case2 line limit hpoll time hless ih =>
    have hpolled := line.poll_symbols 1
    rw [hpoll] at hpolled
    exact ih.trans hpolled
  | case3 line limit hpoll time hmore =>
    have hpolled := line.poll_symbols 1
    rwa [hpoll] at hpolled

/-- The next symbol is found when it comes before the time is over. -/
theorem awaitFor_of_silence {β : Type} {line : Line β} {limit : Nat} (hsymbols : line.symbols ≠ [])
    (hsoon : (silence line.bursts).all (· < limit) = true) : (line.awaitFor limit).1.isSome = true := by
  fun_induction awaitFor line limit with
  | case1 => rfl
  | case2 line limit hpoll time hless ih =>
    have hpolled := line.poll_symbols 1
    rw [hpoll, List.nil_append] at hpolled
    refine ih (by rwa [hpolled]) ?_
    cases hbursts : line.bursts with
    | nil => simp [time, hbursts] at hless
    | cons burst bursts =>
      obtain ⟨-, hcome⟩ := come_of_poll_nil Nat.one_pos hpoll hbursts
      have htime : time = burst.time := by simp [time, hbursts]
      rw [hbursts, silence, hcome] at hsoon
      rw [poll_bursts, hbursts, List.tail_cons, htime]
      cases hsilence : silence bursts with
      | none => rfl
      | some t =>
        simp only [hsilence, List.isEmpty_nil, if_true, Option.map_some, Option.all_some, decide_eq_true_eq] at hsoon ⊢
        omega
  | case3 line limit hpoll time hmore =>
    cases hbursts : line.bursts with
    | nil => exact absurd (symbols_of_poll_nil Nat.one_pos hpoll hbursts) hsymbols
    | cons burst bursts =>
      obtain ⟨hpending, hcome⟩ := come_of_poll_nil Nat.one_pos hpoll hbursts
      have htime : time = burst.time := by simp [time, hbursts]
      have hlater : bursts.flatMap Burst.come ≠ [] := by
        simpa [symbols, hpending, hbursts, hcome] using hsymbols
      obtain ⟨t, ht⟩ := Option.isSome_iff_exists.mp (silence_isSome hlater)
      rw [hbursts, silence, hcome] at hsoon
      simp only [ht, List.isEmpty_nil, if_true, Option.map_some, Option.all_some, decide_eq_true_eq] at hsoon
      omega

theorem awaitFor_bursts {β : Type} {line : Line β} {limit whole : Nat} (h : InTime whole line.bursts) :
    InTime whole (line.awaitFor limit).2.bursts := by
  fun_induction awaitFor line limit with
  | case1 => exact h.tail
  | case2 line limit hpoll time hless ih => exact ih h.tail
  | case3 => exact h.tail

theorem awaitFor_eq {β : Type} {line : Line β} {limit : Nat} {b : β} {rest : List β}
    (hsymbols : line.symbols = b :: rest) (hintime : InTime limit line.bursts) :
    ∃ line', line.awaitFor limit = (some b, line') ∧ line'.symbols = rest ∧ InTime limit line'.bursts := by
  have hsoon : (silence line.bursts).all (· < limit) = true := by
    cases hbursts : line.bursts with
    | nil => rfl
    | cons burst bursts =>
      rw [hbursts] at hintime
      exact hintime.1
  have hfound := awaitFor_of_silence (hsymbols ▸ List.cons_ne_nil b rest) hsoon
  obtain ⟨c, hc⟩ := Option.isSome_iff_exists.mp hfound
  have hall := line.awaitFor_symbols limit
  rw [hc, hsymbols] at hall
  obtain ⟨rfl, hrest⟩ := List.cons_eq_cons.mp hall
  exact ⟨_, Prod.ext hc rfl, hrest, awaitFor_bursts hintime⟩

end Line

end concretid.line
