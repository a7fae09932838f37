import ConcretID.Ems.Handshake
import ConcretID.Library.Since

open concretid.history

namespace concretid.ems

/-- Whether a call registers a uid as a neighbour. -/
def Event.renews (uid : Uid) (e : Event) : Bool := e == .register_neighbor uid

namespace Node

/-- The ticks since a uid was last registered. -/
def silence (s : Node) (uid : Uid) : Nat :=
  (history.since (Event.renews uid) s.trace).count .check_transmission

/-- A uid is found by `find_neighbor`, or is the link of a route in use. -/
def Keeps (s : Node) (uid : Uid) : Prop :=
  (∃ x, s.transmission.find_neighbor uid = .ok (some x)) ∨
    ∃ e ∈ s.transmission.active, ∃ x, (s.transmission.uid_table e).link = some x ∧
      s.transmission.neighbor x = uid

/-- The ticks after which a silent neighbour is to be gone. -/
def patience (s : Node) : Nat := 2 * s.me.neighbor_good_till.toNat

/-- No neighbour is kept that has been silent for longer. -/
def AgedOut (s : Node) : Prop :=
  ∀ uid, .register_neighbor uid ∈ s.trace → s.patience < s.silence uid → ¬ s.Keeps uid

/-- No slot holds a neighbour that one more tick makes too old. -/
def Fresh (s : Node) : Prop :=
  ∀ x, .register_neighbor (s.transmission.neighbor x) ∈ s.trace →
    s.silence (s.transmission.neighbor x) < s.patience

/-- What a node becomes by calls and receptions, with a condition on the states
in which it ticks. -/
inductive History (condition : Node → Prop) : Node → Prop where
  | boot (uid : Uid) (me : Settings) (random : Nat → UInt8) : History condition (boot uid me random)
  | call {s s' : Node} {call : Call} (hbefore : History condition s)
      (hcondition : call = .check_transmission → condition s) (hcall : call.run s = .ok s') :
      History condition s'
  | receive {s s' : Node} {p : Package} {src : Uid} (hbefore : History condition s)
      (hcall : s.process_package p p.size src = .ok s') : History condition s'

theorem History.tick {condition : Node → Prop} {s : Node} (h : History condition s)
    (hcondition : condition s) : History condition s.check_transmission := by
  have hcall : Call.run s .check_transmission = .ok s.check_transmission := rfl
  exact h.call (fun _ => hcondition) hcall

/-- What is kept has a slot. -/
theorem Keeps.slot {s : Node} {uid : Uid} (h : s.Keeps uid) :
    ∃ x, s.transmission.neighbor x = uid := by
  obtain hfound | ⟨_, _, x, _, hx⟩ := h
  · exact Knows.neighbor (.inr hfound)
  · exact ⟨x, hx⟩

/-! ## A step -/

theorem Acts.patience_eq {s s' : Node} {new : List Event} (h : Acts s s' new) :
    s'.patience = s.patience := by
  have hgood := congrArg Timing.neighbor_good_till h.timing_eq
  rw [patience, patience, show s'.me.neighbor_good_till = s.me.neighbor_good_till from hgood]

/-- A uid that is registered is no longer silent, unless there are ticks later on. -/
theorem Acts.silence_registered {s s' : Node} {new : List Event} {uid : Uid} (h : Acts s s' new)
    (htick : .check_transmission ∉ new) (hmem : .register_neighbor uid ∈ new) :
    s'.silence uid = 0 := by
  obtain ⟨before, after, rfl⟩ := List.append_of_mem hmem
  have hself : Event.renews uid (.register_neighbor uid) = true := beq_self_eq_true _
  rw [silence, h.trace_eq, ← List.append_assoc, since_append_cons _ _ hself, List.count_eq_zero]
  intro hafter
  have hbehind := mem_of_mem_since hafter
  apply htick
  simp [hbehind]

theorem Acts.silence_other {s s' : Node} {new : List Event} {uid : Uid} (h : Acts s s' new)
    (hmem : .register_neighbor uid ∉ new) :
    s'.silence uid = s.silence uid + new.count .check_transmission := by
  rw [silence, h.trace_eq, since_append_of_none, List.count_append, silence]
  intro e he
  rw [Event.renews, beq_eq_false_iff_ne]
  rintro rfl
  exact hmem he

/-- Without a tick nobody gets older. -/
theorem Acts.silence_le {s s' : Node} {new : List Event} (h : Acts s s' new)
    (htick : .check_transmission ∉ new) (uid : Uid) : s'.silence uid ≤ s.silence uid := by
  by_cases hmem : .register_neighbor uid ∈ new
  · rw [h.silence_registered htick hmem]
    exact Nat.zero_le _
  · rw [h.silence_other hmem, List.count_eq_zero_of_not_mem htick, Nat.add_zero]

/-- Only a call of `check_transmission` is one. -/
theorem tick_not_mem_call {s s' : Node} {call : Call} (h : call.run s = .ok s')
    (hcall : call ≠ .check_transmission) : .check_transmission ∉ s.since s' := by
  intro hmem
  obtain hdeed | ⟨hown, _⟩ := (Call.handles h).mem hmem
  · cases call with
    | check_transmission => exact hcall rfl
    | _ => simp [Call.deeds] at hdeed
  · cases hown

theorem tick_not_mem_receive {s s' : Node} {p : Package} {src : Uid}
    (h : s.process_package p p.size src = .ok s') : .check_transmission ∉ s.since s' := by
  obtain ⟨deeds, hhandles, houtcome⟩ := process_package_outcome h
  intro hmem
  obtain hdeed | ⟨hown, _⟩ := hhandles.mem hmem
  · obtain heq | hdeed := List.mem_cons.mp hdeed
    · cases heq
    · cases houtcome.mem hdeed with
      | handled _ _ hdeed => cases hdeed
  · cases hown

/-! ## A tick -/

theorem check_transmission_acts (s : Node) :
    Acts s s.check_transmission (s.since s.check_transmission) :=
  (Handles.check_transmission s.alone s).acts

/-- A tick registers nobody, and is one. -/
theorem check_transmission_since (s : Node) :
    (s.since s.check_transmission).filter Event.ages = [.check_transmission] := by
  rw [(Handles.check_transmission s.alone s).filter_eq]
  · rfl
  · intro e he
    cases e <;> first | rfl | cases he

theorem register_not_mem_tick (s : Node) (uid : Uid) :
    .register_neighbor uid ∉ s.since s.check_transmission := by
  intro hmem
  have hages := List.mem_filter.mpr ⟨hmem, (rfl : Event.ages (.register_neighbor uid) = true)⟩
  rw [check_transmission_since] at hages
  cases List.mem_singleton.mp hages

theorem check_transmission_registers (s : Node) (uid : Uid) :
    .register_neighbor uid ∈ s.check_transmission.trace ↔ .register_neighbor uid ∈ s.trace := by
  rw [(check_transmission_acts s).trace_eq, List.mem_append]
  exact or_iff_left (register_not_mem_tick s uid)

/-- A tick makes everybody older by one. -/
theorem check_transmission_silence (s : Node) (uid : Uid) :
    s.check_transmission.silence uid = s.silence uid + 1 := by
  have hages := check_transmission_since s
  rw [(check_transmission_acts s).silence_other (register_not_mem_tick s uid)]
  have hcount : (s.since s.check_transmission).count .check_transmission =
      ((s.since s.check_transmission).filter Event.ages).count .check_transmission :=
    (List.count_filter rfl).symm
  rw [hcount, hages]
  rfl

theorem check_transmission_patience (s : Node) : s.check_transmission.patience = s.patience :=
  (check_transmission_acts s).patience_eq

theorem check_transmission_find_neighbor (s : Node) (uid : Uid) :
    s.check_transmission.transmission.find_neighbor uid = s.transmission.find_neighbor uid := by
  rw [check_transmission_transmission]
  exact Transmission.find_neighbor_congr rfl uid

/-- The branch that deletes a neighbour is never taken: a tick keeps them all. -/
theorem check_transmission_keeps (s : Node) (uid : Uid) :
    s.check_transmission.Keeps uid ↔ s.Keeps uid := by
  rw [Keeps, Keeps, check_transmission_find_neighbor, check_transmission_transmission]
  rfl

/-- After a tick all neighbours kept are young enough exactly when before it
they were younger. -/
theorem check_transmission_agedOut_iff (s : Node) :
    s.check_transmission.AgedOut ↔
      ∀ uid, .register_neighbor uid ∈ s.trace → s.Keeps uid → s.silence uid < s.patience := by
  unfold AgedOut
  simp only [check_transmission_registers, check_transmission_patience,
    check_transmission_silence, check_transmission_keeps]
  refine forall₂_congr fun uid _ => ⟨?_, ?_⟩
  · intro hgone hkept
    by_contra hold
    exact hgone (by omega) hkept
  · intro hyoung hold hkept
    have := hyoung hkept
    omega

/-! ## Runs -/

/-- No slot holds a neighbour that is too old. -/
def Young (s : Node) : Prop :=
  ∀ x, .register_neighbor (s.transmission.neighbor x) ∈ s.trace →
    s.silence (s.transmission.neighbor x) ≤ s.patience

theorem Young.agedOut {s : Node} (h : s.Young) : s.AgedOut := by
  intro uid hregistered hold hkept
  obtain ⟨x, rfl⟩ := hkept.slot
  exact Nat.not_lt.mpr (h x hregistered) hold

/-- Without a tick a slot gets a new neighbour or keeps one that gets no older. -/
theorem Young.step {s s' : Node} {new : List Event} (h : s.Young) (hacts : Acts s s' new)
    (htick : .check_transmission ∉ new) : s'.Young := by
  intro x hregistered
  by_cases hnew : .register_neighbor (s'.transmission.neighbor x) ∈ new
  · rw [hacts.silence_registered htick hnew]
    exact Nat.zero_le _
  · have hslot : s'.transmission.neighbor x = s.transmission.neighbor x := by
      obtain hsame | hmem := hacts.neighbors.uid_cases x
      · exact hsame
      · exact absurd (List.mem_filter.mp hmem).1 hnew
    rw [hacts.trace_eq, List.mem_append] at hregistered
    have hold := hregistered.resolve_right hnew
    rw [hslot] at hold ⊢
    rw [hacts.patience_eq]
    exact Nat.le_trans (hacts.silence_le htick _) (h x hold)

theorem Fresh.tick {s : Node} (h : s.Fresh) : s.check_transmission.Young := by
  intro x hregistered
  have hslot : s.check_transmission.transmission.neighbor x = s.transmission.neighbor x := by
    rw [check_transmission_transmission]
    rfl
  rw [hslot, check_transmission_registers] at hregistered
  rw [hslot, check_transmission_silence, check_transmission_patience]
  exact h x hregistered

theorem History.young {s : Node} (h : History Fresh s) : s.Young := by
  induction h with
  | boot uid me random =>
    intro x hregistered
    cases hregistered
  | @call s s' call _ hfresh hcall ih =>
    by_cases htick : call = .check_transmission
    · subst htick
      obtain rfl := Except.ok.inj hcall
      exact (hfresh rfl).tick
    · exact ih.step (Call.handles hcall).acts (tick_not_mem_call hcall htick)
  | receive _ hcall ih =>
    obtain ⟨deeds, hhandles, _⟩ := process_package_outcome hcall
    exact ih.step hhandles.acts (tick_not_mem_receive hcall)

/-- As long as a node ticks only while it holds no neighbour that this makes too
old, none is kept too long. No tick deletes a neighbour, and one while such a
neighbour is kept leaves it there. -/
theorem History.aged_out {s : Node} (h : History Fresh s) :
    s.AgedOut ∧ (∀ uid, s.check_transmission.Keeps uid ↔ s.Keeps uid) ∧
      (s.check_transmission.AgedOut ↔
        ∀ uid, .register_neighbor uid ∈ s.trace → s.Keeps uid → s.silence uid < s.patience) :=
  ⟨h.young.agedOut, check_transmission_keeps s, check_transmission_agedOut_iff s⟩

/-! ## A silent neighbour -/

/-- A node that ticks a number of times. -/
theorem History.ticks {condition : Node → Prop} {s : Node} (h : History condition s)
    (hcondition : ∀ s, condition s) (n : Nat) : History condition (check_transmission^[n] s) := by
  induction n with
  | zero => exact h
  | succ n ih =>
    rw [Function.iterate_succ_apply']
    exact ih.tick (hcondition _)

theorem ticks_keeps (s : Node) (uid : Uid) (n : Nat) :
    (check_transmission^[n] s).Keeps uid ↔ s.Keeps uid := by
  induction n with
  | zero => rfl
  | succ n ih => rw [Function.iterate_succ_apply', check_transmission_keeps, ih]

theorem ticks_silence (s : Node) (uid : Uid) (n : Nat) :
    (check_transmission^[n] s).silence uid = s.silence uid + n := by
  induction n with
  | zero => rfl
  | succ n ih => rw [Function.iterate_succ_apply', check_transmission_silence, ih, Nat.add_assoc]

theorem ticks_patience (s : Node) (n : Nat) : (check_transmission^[n] s).patience = s.patience := by
  induction n with
  | zero => rfl
  | succ n ih => rw [Function.iterate_succ_apply', check_transmission_patience, ih]

theorem ticks_registers (s : Node) (uid : Uid) (n : Nat) :
    .register_neighbor uid ∈ (check_transmission^[n] s).trace ↔
      .register_neighbor uid ∈ s.trace := by
  induction n with
  | zero => rfl
  | succ n ih => rw [Function.iterate_succ_apply', check_transmission_registers, ih]

/-- A neighbour that is kept stays however long it is silent. -/
theorem not_agedOut_ticks {s : Node} {uid : Uid} (hregistered : .register_neighbor uid ∈ s.trace)
    (hkept : s.Keeps uid) {n : Nat} (hn : s.patience < n) :
    ¬ (check_transmission^[n] s).AgedOut := by
  intro haged
  apply haged uid ((ticks_registers s uid n).mpr hregistered)
  · rw [ticks_patience, ticks_silence]
    omega
  · exact (ticks_keeps s uid n).mpr hkept

end Node

namespace Deployment

open Node

theorem history_received {condition : Node → Prop} {s : Node} (h : History condition s) (p : Package) (src : Uid) :
    History condition (received s p src) := by
  unfold received
  split
  · rename_i hcall
    exact h.receive hcall
  · exact h

theorem pairRegistered_history (condition : Node → Prop) : History condition pairRegistered :=
  history_received (history_received (.boot (pair.uid 1) _ _) _ _) _ _

set_option maxRecDepth 20000 in
/-- The second node keeps the first one after 61 ticks without a word of it. -/
theorem silent_neighbor_kept : ¬ ∀ s, History (fun _ => True) s → s.AgedOut := by
  intro hall
  have hregistered : .register_neighbor (pair.uid 0) ∈ pairRegistered.trace := by decide
  have hkept : pairRegistered.Keeps (pair.uid 0) := .inl ⟨0, by decide⟩
  have hpatience : pairRegistered.patience < 61 := by decide
  exact not_agedOut_ticks hregistered hkept hpatience
    (hall _ ((pairRegistered_history _).ticks (fun _ => trivial) 61))

/-- A node that is to keep no neighbour that has been silent for more than two ticks. -/
def impatientNode : Node :=
  boot (linkLocal 1 0) { init_settings (nameOf []) with neighbor_good_till := 1 } fun n => UInt8.ofNat (n + 1)

/-- What another node's echo to its echo makes of it. -/
def reechoed (s : Node) (i : UInt8) : Node :=
  received s { rid := (i.toUInt32 <<< 24) + 0x60504, flags := PackageType.REECHO.code, data := [] } (linkLocal 0 i)

/-- The first neighbour says no more, and eight others come a tick later. -/
def crowdedNode : Node :=
  [2, 3, 4, 5, 6, 7, 8, 9].foldl reechoed (reechoed impatientNode 1).check_transmission

theorem history_reechoed {condition : Node → Prop} {s : Node} (h : History condition s) (uids : List UInt8) :
    History condition (uids.foldl reechoed s) := by
  induction uids generalizing s with
  | nil => exact h
  | cons i uids ih => exact ih (history_received h _ _)

/-- Two ticks later the first one is overdue, and gone: the last one has its slot. -/
theorem crowdedNode_aged_out :
    let s := crowdedNode.check_transmission.check_transmission
    .register_neighbor (linkLocal 0 1) ∈ s.trace ∧ s.patience < s.silence (linkLocal 0 1) ∧
      ¬ s.Keeps (linkLocal 0 1) := by
  intro s
  have hfirst : (reechoed impatientNode 1).Fresh := by
    unfold Fresh
    decide +kernel
  have hcrowded : crowdedNode.Fresh := by
    unfold Fresh
    decide +kernel
  have htick : crowdedNode.check_transmission.Fresh := by
    unfold Fresh
    decide +kernel
  have hhistory : History Fresh s := by
    have hheard : History Fresh (reechoed impatientNode 1) := history_received (.boot _ _ _) _ _
    exact ((history_reechoed (hheard.tick hfirst) _).tick hcrowded).tick htick
  have hregistered : .register_neighbor (linkLocal 0 1) ∈ s.trace := by decide +kernel
  have hsilent : s.patience < s.silence (linkLocal 0 1) := by decide +kernel
  exact ⟨hregistered, hsilent, (History.aged_out hhistory).1 _ hregistered hsilent⟩

end Deployment

end concretid.ems
