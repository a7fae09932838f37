import ConcretID.Ems.Interface
import ConcretID.Ems.Slot

open concretid.memory

namespace concretid.ems

/-- The id a call registers. -/
def Event.registered? : Event → Option Rid
  | .register_rid rid => some rid
  | _ => none

/-- Whether a call changes the lists or times of neighbours. -/
def Event.ages : Event → Bool
  | .register_neighbor _ => true
  | .check_transmission => true
  | _ => false

/-- Whether a call fills a slot or sends from it. -/
def Event.ofSlot (i : Fin SENDOUT_QTY) : Event → Bool
  | .make_package_head (.sendout j) _ => j == i
  | .send_package (.sendout j) _ _ => j == i
  | _ => false

namespace Transmission

/-- The times once `check_transmission` has counted them. -/
def Neighborhood.aged (n : Neighborhood) : Neighborhood :=
  { n with time := fun i => if Valid_num (n.time i) then n.time i + 1 else n.time i }

/-- A run of the calls that change the neighbours. -/
inductive Neighborhood.Run (n : Neighborhood) : List Event → Neighborhood → Prop where
  | refl : n.Run [] n
  | register {events : List Event} {t t' : Transmission} {uid : Uid}
      (hrun : n.Run events t.neighborhood) (hregister : t.register_neighbor uid = .ok t') :
      n.Run (events ++ [.register_neighbor uid]) t'.neighborhood
  | tick {events : List Event} {m : Neighborhood} (hrun : n.Run events m) :
      n.Run (events ++ [.check_transmission]) m.aged

theorem Neighborhood.Run.trans {n m k : Neighborhood} {events later : List Event}
    (hrun : n.Run events m) (hrest : m.Run later k) :
    n.Run (events ++ later) k := by
  induction hrest with
  | refl => simpa using hrun
  | register _ hregister ih =>
    rw [← List.append_assoc]
    exact .register ih hregister
  | tick _ ih =>
    rw [← List.append_assoc]
    exact .tick ih

theorem Neighborhood.Run.of_nil {n m : Neighborhood} (hrun : n.Run [] m) : m = n := by
  generalize hnone : ([] : List Event) = events at hrun
  cases hrun with
  | refl => rfl
  | register => simp at hnone
  | tick => simp at hnone

end Transmission

namespace Node

/-- What every part of the program does to a node: it adds to the trace, and
registered ids, neighbours and slots change only as the trace shows. -/
structure Acts (s s' : Node) (new : List Event) : Prop where
  trace_eq : s'.trace = s.trace ++ new
  my_uid_eq : s'.my_uid = s.my_uid
  timing_eq : s'.me.timing = s.me.timing
  rids_eq : s'.rids = (new.filterMap Event.registered?).foldl RidTable.register_rid s.rids
  neighbors : s.transmission.neighborhood.Run (new.filter Event.ages)
    s'.transmission.neighborhood
  slot : ∀ i, SlotRun s.me.timing s.my_uid i (s.sendout_package i) (new.filter (Event.ofSlot i))
    (s'.sendout_package i)

/-- An action that leaves the receive buffer alone. -/
structure Quiet (s s' : Node) (new : List Event) : Prop where
  acts : Acts s s' new
  buffer_eq : s'.buffer = s.buffer

/-- Without a call that changes the neighbours they stay as they are. -/
theorem Acts.neighborhood_eq {s s' : Node} {new : List Event} (h : Acts s s' new)
    (hages : ∀ e ∈ new, e.ages = false) :
    s'.transmission.neighborhood = s.transmission.neighborhood := by
  have hnone : new.filter Event.ages = [] := by
    rw [List.filter_eq_nil_iff]
    exact fun e he => by simp [hages e he]
  have hrun := h.neighbors
  rw [hnone] at hrun
  exact hrun.of_nil

theorem Acts.refl (s : Node) : Acts s s [] :=
  ⟨by simp, rfl, rfl, rfl, .refl, fun _ => .refl⟩

theorem Acts.trans {s s' s'' : Node} {new later : List Event} (h : Acts s s' new)
    (h' : Acts s' s'' later) : Acts s s'' (new ++ later) := by
  refine ⟨?_, ?_, ?_, ?_, ?_, ?_⟩
  · rw [h'.trace_eq, h.trace_eq, List.append_assoc]
  · rw [h'.my_uid_eq, h.my_uid_eq]
  · rw [h'.timing_eq, h.timing_eq]
  · rw [h'.rids_eq, h.rids_eq, List.filterMap_append, List.foldl_append]
  · rw [List.filter_append]
    exact h.neighbors.trans h'.neighbors
  · intro i
    have hrest := h'.slot i
    rw [h.timing_eq, h.my_uid_eq] at hrest
    rw [List.filter_append]
    exact (h.slot i).trans hrest

theorem Quiet.refl (s : Node) : Quiet s s [] := ⟨.refl s, rfl⟩

theorem Quiet.trans {s s' s'' : Node} {new later : List Event} (h : Quiet s s' new)
    (h' : Quiet s' s'' later) : Quiet s s'' (new ++ later) :=
  ⟨h.acts.trans h'.acts, by rw [h'.buffer_eq, h.buffer_eq]⟩

/-- A call that shows as one event and changes neither ids, neighbours nor slots. -/
theorem Quiet.one {s s' : Node} {e : Event} (htrace : s'.trace = s.trace ++ [e])
    (huid : s'.my_uid = s.my_uid) (hme : s'.me = s.me) (hrids : s'.rids = s.rids)
    (hneighborhood : s'.transmission.neighborhood = s.transmission.neighborhood)
    (hsendout : s'.sendout_package = s.sendout_package) (hbuffer : s'.buffer = s.buffer)
    (hrid : e.registered? = none) (hages : e.ages = false) (hslot : ∀ i, e.ofSlot i = false) :
    Quiet s s' [e] := by
  refine ⟨⟨htrace, huid, by rw [hme], by simp [hrids, hrid], ?_, ?_⟩, hbuffer⟩
  · simpa [hages, hneighborhood] using Transmission.Neighborhood.Run.refl
  · intro i
    rw [hsendout]
    simpa [hslot i] using SlotRun.refl

theorem Quiet.emit (s : Node) {e : Event} (hrid : e.registered? = none) (hages : e.ages = false)
    (hslot : ∀ i, e.ofSlot i = false) : Quiet s (s.emit e) [e] :=
  .one rfl rfl rfl rfl rfl rfl rfl hrid hages hslot

theorem Quiet.register_rid (s : Node) (rid : Rid) :
    Quiet s (s.register_rid rid) [.register_rid rid] := by
  refine ⟨⟨rfl, rfl, rfl, rfl, .refl, ?_⟩, rfl⟩
  intro i
  simpa [Event.ofSlot] using SlotRun.refl

/-- Building a package in `messages_buffer`. -/
theorem Quiet.make_package_head (s : Node) (flags : UInt8) (type : PackageType) :
    Quiet s (s.make_package_head .messages flags type)
      [.make_package_head .messages s.nextRid] := by
  refine .one ?_ ?_ ?_ ?_ ?_ ?_ ?_ rfl rfl fun _ => rfl
  all_goals simp

theorem Quiet.writeData (s : Node) (offset : Nat) (bytes : List UInt8) :
    Quiet s (s.writeData .messages offset bytes) [] := by
  refine ⟨⟨?_, rfl, rfl, rfl, .refl, fun i => .refl⟩, rfl⟩
  simp [Node.writeData]

/-- Sending from a buffer that is not a slot's. -/
theorem Quiet.send_package (s : Node) {b : Buffer} (hb : ∀ i, b ≠ .sendout i) (size : Nat)
    (dest : Uid) : Quiet s (s.send_package b size dest)
      [.send_package b ((s.packageBuffer b).package size) dest] := by
  refine .emit s rfl rfl ?_
  intro i
  cases b with
  | process => rfl
  | messages => rfl
  | sendout j => exact absurd rfl (hb j)

theorem Quiet.register_uid (s : Node) (uid : Uid) (link : Option Slot)
    (name : Option (List UInt8)) :
    Quiet s (s.register_uid uid link name) [.register_uid uid link] := by
  refine .one rfl rfl rfl rfl ?_ rfl rfl rfl rfl fun _ => rfl
  simp only [Node.register_uid, emit_transmission, setTransmission_transmission,
    Transmission.register_uid]
  split
  · rfl
  · split <;> rfl

theorem Quiet.promote_uid_table {s s' : Node} {uidt : Option Entry}
    (h : s.promote_uid_table uidt = .ok s') : Quiet s s' [] := by
  cases uidt with
  | none => cases h
  | some e =>
    obtain rfl := Except.ok.inj h
    refine ⟨⟨by simp, rfl, rfl, rfl, .refl, fun i => .refl⟩, rfl⟩

theorem Quiet.register_neighbor {s s' : Node} {uid : Uid} (h : s.register_neighbor uid = .ok s') :
    Quiet s s' [.register_neighbor uid] := by
  obtain ⟨t, hregister, hdone⟩ := bind_eq_ok_iff.mp h
  obtain rfl := Except.ok.inj hdone
  refine ⟨⟨rfl, rfl, rfl, rfl, ?_, ?_⟩, rfl⟩
  · exact .register .refl hregister
  · intro i
    simpa [Event.ofSlot] using SlotRun.refl

/-- Sending by the table sends one package, rewritten for the route's link. -/
theorem send_package_by_table_cases {s s' : Node} {b : Buffer} {size size' : Nat}
    {uidt : Option Entry} (h : s.send_package_by_table b size uidt = .ok (s', size')) :
    ∃ e l value order, uidt = some e ∧ (s.transmission.uid_table e).link = some l ∧
      Transmission.wrapFor (s.transmission.uid_table e)
        ((s.transmission.uid_table e).uid == s.transmission.neighbor l) b.capacity
        (s.packageBuffer b) size = .ok (value, size') ∧
      s' = ((s.setTransmission (s.transmission.setOrder order)).setPackageBuffer b value).emit
        (.send_package b (value.package size') (s.transmission.neighbor l)) := by
  obtain ⟨⟨t, value, size₁, sent⟩, hsend, hrest⟩ := bind_eq_ok_iff.mp h
  simp only [pure_eq_ok, Except.ok.injEq, Prod.mk.injEq] at hrest
  obtain ⟨rfl, rfl⟩ := hrest
  unfold Transmission.send_package_by_table at hsend
  cases uidt with
  | none => cases hsend
  | some e =>
    dsimp only at hsend
    split at hsend
    · cases hsend
    · rename_i l hlink
      obtain ⟨⟨value', size''⟩, hwrap, hdone⟩ := bind_eq_ok_iff.mp hsend
      simp only [pure_eq_ok, Except.ok.injEq, Prod.mk.injEq] at hdone
      obtain ⟨rfl, rfl, rfl, rfl⟩ := hdone
      exact ⟨e, l, value', _, rfl, hlink, hwrap, rfl⟩

theorem send_package_by_table_ok {s : Node} {b : Buffer} {size : Nat} {e : Entry} {l : Slot}
    {result : PackageBuffer × Nat} (hlink : (s.transmission.uid_table e).link = some l)
    (hwrap : Transmission.wrapFor (s.transmission.uid_table e)
      ((s.transmission.uid_table e).uid == s.transmission.neighbor l) b.capacity
      (s.packageBuffer b) size = .ok result) :
    ∃ s' size', s.send_package_by_table b size (some e) = .ok (s', size') := by
  obtain ⟨value, size'⟩ := result
  simp only [send_package_by_table, Transmission.send_package_by_table, hlink, hwrap, ok_bind,
    pure_eq_ok, Except.ok.injEq, Prod.mk.injEq]
  exact ⟨_, size', rfl, rfl⟩

/-- Sending by the table from `messages_buffer`. -/
theorem Quiet.send_package_by_table {s s' : Node} {size size' : Nat} {uidt : Option Entry}
    (h : s.send_package_by_table .messages size uidt = .ok (s', size'))
    (hsized : s.messages_buffer.Sized size)
    (hbound : size + sizeof_intermediate_head < 2 ^ 16) :
    ∃ p l, Quiet s s' [.send_package .messages p (s.transmission.neighbor l)] ∧
      p.content = (s.messages_buffer.package size).content := by
  obtain ⟨e, l, value, order, _, _, hwrap, rfl⟩ := send_package_by_table_cases h
  exact ⟨value.package size', l, .one rfl rfl rfl rfl rfl rfl rfl rfl rfl fun _ => rfl,
    (wrapFor_content hwrap hsized hbound).1⟩

end Node

end concretid.ems
