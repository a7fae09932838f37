import Mathlib.Logic.Function.Basic
import Mathlib.Data.List.Basic
import Mathlib.Data.Fintype.Card

namespace concretid.network

/-- A transmitted message with where it comes from: its sender made it up, or
made it from a message it had received. -/
inductive Packet (ι μ : Type) where
  | origin (sender : ι) (msg : μ)
  | copy (sender : ι) (msg : μ) (received : Packet ι μ)
deriving DecidableEq

def Packet.sender {ι μ : Type} : Packet ι μ → ι
  | .origin sender _ => sender
  | .copy sender _ _ => sender

def Packet.msg {ι μ : Type} : Packet ι μ → μ
  | .origin _ msg => msg
  | .copy _ msg _ => msg

/-- The message all of a chain of copies goes back to. -/
def Packet.root {ι μ : Type} : Packet ι μ → Packet ι μ
  | .origin sender msg => .origin sender msg
  | .copy _ _ received => received.root

/-- How often a message has been copied on its way. -/
def Packet.hops {ι μ : Type} : Packet ι μ → Nat
  | .origin _ _ => 0
  | .copy _ _ received => received.hops + 1

@[simp] theorem Packet.origin_sender {ι μ : Type} (i : ι) (msg : μ) :
    (Packet.origin i msg).sender = i := rfl
@[simp] theorem Packet.origin_msg {ι μ : Type} (i : ι) (msg : μ) :
    (Packet.origin i msg).msg = msg := rfl
@[simp] theorem Packet.origin_root {ι μ : Type} (i : ι) (msg : μ) :
    (Packet.origin i msg).root = .origin i msg := rfl
@[simp] theorem Packet.origin_hops {ι μ : Type} (i : ι) (msg : μ) :
    (Packet.origin i msg).hops = 0 := rfl
@[simp] theorem Packet.copy_sender {ι μ : Type} (i : ι) (msg : μ) (m : Packet ι μ) :
    (Packet.copy i msg m).sender = i := rfl
@[simp] theorem Packet.copy_msg {ι μ : Type} (i : ι) (msg : μ) (m : Packet ι μ) :
    (Packet.copy i msg m).msg = msg := rfl
@[simp] theorem Packet.copy_root {ι μ : Type} (i : ι) (msg : μ) (m : Packet ι μ) :
    (Packet.copy i msg m).root = m.root := rfl
@[simp] theorem Packet.copy_hops {ι μ : Type} (i : ι) (msg : μ) (m : Packet ι μ) :
    (Packet.copy i msg m).hops = m.hops + 1 := rfl

/-- Nodes that exchange messages. A step of a node transmits messages; those
marked `true` in a reception are copies of the message received. -/
structure Protocol (ι σ μ : Type) where
  start : ι → σ → Prop
  act : ι → σ → σ → List μ → Prop
  receive : ι → σ → ι → μ → σ → List (Bool × μ) → Prop
  hears : ι → ι → μ → Prop

/-- One reception, with the receiver's state before and after it. -/
structure Arrival (ι σ μ : Type) where
  receiver : ι
  packet : Packet ι μ
  before : σ
  after : σ

/-- The nodes' states, everything transmitted so far and every reception so
far. Messages stay on the air for good, which covers delay, reordering and
duplication; one that is never received again is lost. -/
structure Config (ι σ μ : Type) where
  node : ι → σ
  air : List (Packet ι μ)
  arrivals : List (Arrival ι σ μ)

def emitted {ι μ : Type} (sender : ι) (received : Packet ι μ) : Bool × μ → Packet ι μ
  | (true, msg) => .copy sender msg received
  | (false, msg) => .origin sender msg

inductive Step {ι σ μ : Type} [DecidableEq ι] (N : Protocol ι σ μ) :
    Config ι σ μ → Config ι σ μ → Prop where
  | act {c : Config ι σ μ} {i : ι} {s : σ} {out : List μ} (hact : N.act i (c.node i) s out) :
      Step N c
        { node := Function.update c.node i s
          air := c.air ++ out.map (Packet.origin i)
          arrivals := c.arrivals }
  | receive {c : Config ι σ μ} {i : ι} {m : Packet ι μ} {s : σ} {out : List (Bool × μ)}
      (hair : m ∈ c.air) (hhears : N.hears m.sender i m.msg)
      (hreceive : N.receive i (c.node i) m.sender m.msg s out) :
      Step N c
        { node := Function.update c.node i s
          air := c.air ++ out.map (emitted i m)
          arrivals := c.arrivals ++ [{ receiver := i, packet := m, before := c.node i, after := s }] }

/-- The configurations of all runs: any interleaving of the nodes' steps. -/
inductive Reachable {ι σ μ : Type} [DecidableEq ι] (N : Protocol ι σ μ) :
    Config ι σ μ → Prop where
  | start {node : ι → σ} (hstart : ∀ i, N.start i (node i)) :
      Reachable N { node, air := [], arrivals := [] }
  | step {before after : Config ι σ μ} (hreach : Reachable N before)
      (hstep : Step N before after) : Reachable N after

/-- A property of each node's state that its own steps keep holds in every run. -/
theorem Reachable.node_invariant {ι σ μ : Type} [DecidableEq ι] {N : Protocol ι σ μ}
    {I : ι → σ → Prop} (hstart : ∀ i s, N.start i s → I i s)
    (hact : ∀ i s s' out, I i s → N.act i s s' out → I i s')
    (hreceive : ∀ i s j msg s' out, I i s → N.receive i s j msg s' out → I i s')
    {c : Config ι σ μ} (h : Reachable N c) (i : ι) : I i (c.node i) := by
  induction h generalizing i with
  | start hinit => exact hstart i _ (hinit i)
  | step _ hstep ih =>
    cases hstep with
    | @act j s _ hstep =>
      by_cases hi : i = j
      · subst hi
        simpa using hact i _ _ _ (ih i) hstep
      · simpa [hi] using ih i
    | @receive j m s _ _ _ hstep =>
      by_cases hi : i = j
      · subst hi
        simpa using hreceive i _ _ _ _ _ (ih i) hstep
      · simpa [hi] using ih i

/-- What a step leaves on the air was there or was transmitted by the step. -/
theorem Step.air_subset {ι σ μ : Type} [DecidableEq ι] {N : Protocol ι σ μ}
    {before after : Config ι σ μ} (h : Step N before after) {m : Packet ι μ}
    (hm : m ∈ before.air) : m ∈ after.air := by
  cases h <;> exact List.mem_append_left _ hm

theorem Step.arrivals_subset {ι σ μ : Type} [DecidableEq ι] {N : Protocol ι σ μ}
    {before after : Config ι σ μ} (h : Step N before after) {a : Arrival ι σ μ}
    (ha : a ∈ before.arrivals) : a ∈ after.arrivals := by
  cases h with
  | act => exact ha
  | receive => exact List.mem_append_left _ ha

/-- What a step does to a node: nothing, or it is the node's own, or the node's reception of
a message on the air. -/
theorem Step.node_cases {ι σ μ : Type} [DecidableEq ι] {N : Protocol ι σ μ} {before after : Config ι σ μ}
    (h : Step N before after) (i : ι) :
    after.node i = before.node i ∨ (∃ out, N.act i (before.node i) (after.node i) out) ∨
      ∃ a ∈ after.arrivals, a.receiver = i ∧ a.packet ∈ before.air ∧ a.before = before.node i ∧
        ∃ out, N.receive i (before.node i) a.packet.sender a.packet.msg (after.node i) out := by
  cases h with
  | @act j s out hact =>
    by_cases hi : i = j
    · subst hi
      exact .inr (.inl ⟨out, by simpa using hact⟩)
    · exact .inl (Function.update_of_ne hi _ _)
  | @receive j m s out hair hhears hreceive =>
    by_cases hi : i = j
    · subst hi
      refine .inr (.inr ⟨_, List.mem_append_right _ (List.mem_singleton_self _), rfl, hair, rfl, out, ?_⟩)
      simpa using hreceive
    · exact .inl (Function.update_of_ne hi _ _)

/-- Every reception in a run was of a transmitted message its receiver could
hear, and was a receiving step of that node. -/
theorem Reachable.arrival {ι σ μ : Type} [DecidableEq ι] {N : Protocol ι σ μ}
    {c : Config ι σ μ} (h : Reachable N c) {a : Arrival ι σ μ} (ha : a ∈ c.arrivals) :
    a.packet ∈ c.air ∧ N.hears a.packet.sender a.receiver a.packet.msg ∧
      ∃ out, N.receive a.receiver a.before a.packet.sender a.packet.msg a.after out := by
  induction h with
  | start => simp at ha
  | step _ hstep ih =>
    cases hstep with
    | act hstep =>
      obtain ⟨hair, hrest⟩ := ih ha
      exact ⟨List.mem_append_left _ hair, hrest⟩
    | receive hair hhears hstep =>
      obtain hold | hnew := List.mem_append.mp ha
      · obtain ⟨hair, hrest⟩ := ih hold
        exact ⟨List.mem_append_left _ hair, hrest⟩
      · rw [List.mem_singleton] at hnew
        subst hnew
        exact ⟨List.mem_append_left _ hair, hhears, _, hstep⟩

/-- What was transmitted in a reception is on the air. -/
theorem Reachable.arrival_emitted {ι σ μ : Type} [DecidableEq ι] {N : Protocol ι σ μ}
    {c : Config ι σ μ} (h : Reachable N c) {a : Arrival ι σ μ} (ha : a ∈ c.arrivals) :
    ∃ out, N.receive a.receiver a.before a.packet.sender a.packet.msg a.after out ∧
      ∀ sent ∈ out, emitted a.receiver a.packet sent ∈ c.air := by
  induction h with
  | start => simp at ha
  | step _ hstep ih =>
    cases hstep with
    | act =>
      obtain ⟨out, hreceive, hair⟩ := ih ha
      exact ⟨out, hreceive, fun sent hsent => List.mem_append_left _ (hair sent hsent)⟩
    | @receive i m s out hair hhears hreceive =>
      obtain hold | hnew := List.mem_append.mp ha
      · obtain ⟨out, hreceive, hair⟩ := ih hold
        exact ⟨out, hreceive, fun sent hsent => List.mem_append_left _ (hair sent hsent)⟩
      · rw [List.mem_singleton] at hnew
        subst hnew
        exact ⟨out, hreceive, fun sent hsent => List.mem_append_right _ (List.mem_map_of_mem hsent)⟩

/-- Every copy on the air was made by its sender while receiving the message
it is a copy of. -/
theorem Reachable.copy {ι σ μ : Type} [DecidableEq ι] {N : Protocol ι σ μ}
    {c : Config ι σ μ} (h : Reachable N c) {i : ι} {msg : μ} {m : Packet ι μ}
    (hcopy : Packet.copy i msg m ∈ c.air) :
    ∃ a ∈ c.arrivals, a.receiver = i ∧ a.packet = m ∧
      ∃ out, N.receive i a.before m.sender m.msg a.after out ∧ (true, msg) ∈ out := by
  induction h with
  | start => simp at hcopy
  | step _ hstep ih =>
    cases hstep with
    | act hstep =>
      obtain hold | hnew := List.mem_append.mp hcopy
      · exact ih hold
      · simp at hnew
    | @receive j m' s out hair hhears hstep =>
      obtain hold | hnew := List.mem_append.mp hcopy
      · obtain ⟨a, ha, hrest⟩ := ih hold
        exact ⟨a, List.mem_append_left _ ha, hrest⟩
      · obtain ⟨⟨flag, msg'⟩, hout, heq⟩ := List.mem_map.mp hnew
        cases flag with
        | false => simp [emitted] at heq
        | true =>
          simp only [emitted, Packet.copy.injEq] at heq
          obtain ⟨rfl, rfl, rfl⟩ := heq
          exact ⟨_, List.mem_append_right _ (List.mem_singleton_self _), rfl, rfl, out, hstep, hout⟩

/-- The message a copy was made of is on the air, and so is its root. -/
theorem Reachable.copy_source {ι σ μ : Type} [DecidableEq ι] {N : Protocol ι σ μ}
    {c : Config ι σ μ} (h : Reachable N c) {i : ι} {msg : μ} {m : Packet ι μ}
    (hcopy : Packet.copy i msg m ∈ c.air) : m ∈ c.air := by
  obtain ⟨a, ha, _, rfl, _⟩ := h.copy hcopy
  exact (h.arrival ha).1

/-- Whether a message was made from a received one. -/
def Packet.copied {ι μ : Type} : Packet ι μ → Bool
  | .origin _ _ => false
  | .copy _ _ _ => true

@[simp] theorem Packet.origin_copied {ι μ : Type} (i : ι) (msg : μ) :
    (Packet.origin i msg).copied = false := rfl
@[simp] theorem Packet.copy_copied {ι μ : Type} (i : ι) (msg : μ) (m : Packet ι μ) :
    (Packet.copy i msg m).copied = true := rfl

@[simp] theorem emitted_sender {ι μ : Type} (i : ι) (m : Packet ι μ) (sent : Bool × μ) :
    (emitted i m sent).sender = i := by
  obtain ⟨flag, msg⟩ := sent
  cases flag <;> rfl

theorem map_emitted_sender {ι μ : Type} {i : ι} {m : Packet ι μ} {out : List (Bool × μ)} :
    ∀ m' ∈ out.map (emitted i m), m'.sender = i := by
  intro m' hm'
  obtain ⟨sent, _, rfl⟩ := List.mem_map.mp hm'
  exact emitted_sender i m sent

@[simp] theorem emitted_sent {ι μ : Type} (i : ι) (m : Packet ι μ) (sent : Bool × μ) :
    ((emitted i m sent).copied, (emitted i m sent).msg) = sent := by
  obtain ⟨flag, msg⟩ := sent
  cases flag <;> rfl

theorem filter_sender {ι μ : Type} [DecidableEq ι] {packets : List (Packet ι μ)} {i : ι}
    (j : ι) (h : ∀ m ∈ packets, m.sender = j) :
    packets.filter (fun m => m.sender = i) = if i = j then packets else [] := by
  split
  · rename_i hi
    rw [List.filter_eq_self]
    exact fun m hm => by simp [h m hm, hi]
  · rename_i hi
    rw [List.filter_eq_nil_iff]
    exact fun m hm => by simp [h m hm, Ne.symm hi]

/-- Messages of a kind of which each node sends at most one are no more than
there are nodes. -/
theorem countP_le_card {ι μ : Type} [DecidableEq ι] [Fintype ι] {packets : List (Packet ι μ)}
    {q : Packet ι μ → Bool}
    (hone : ∀ i, (packets.filter fun m => m.sender = i).countP q ≤ 1) :
    packets.countP q ≤ Fintype.card ι := by
  have hnodup : ((packets.filter q).map Packet.sender).Nodup := by
    rw [List.nodup_iff_count_le_one]
    intro i
    refine le_trans (le_of_eq ?_) (hone i)
    rw [List.count, List.countP_map, List.countP_filter, List.countP_filter]
    refine List.countP_congr fun m _ => ?_
    simp [and_comm]
  rw [List.countP_eq_length_filter, ← List.length_map (f := Packet.sender)]
  exact hnodup.length_le_card

/-- What a node's state records of its transmissions is all it has put on the air. -/
theorem Reachable.sent {ι σ μ : Type} [DecidableEq ι] {N : Protocol ι σ μ}
    (log : σ → List (Bool × μ)) (hstart : ∀ i s, N.start i s → log s = [])
    (hact : ∀ i s s' out, N.act i s s' out → log s' = log s ++ out.map fun msg => (false, msg))
    (hreceive : ∀ i s j msg s' out, N.receive i s j msg s' out → log s' = log s ++ out)
    {c : Config ι σ μ} (h : Reachable N c) (i : ι) :
    (c.air.filter fun m => m.sender = i).map (fun m => (m.copied, m.msg)) = log (c.node i) := by
  induction h with
  | start hinit => simp [hstart i _ (hinit i)]
  | step _ hstep ih =>
    cases hstep with
    | @act j s out hstep =>
      rw [List.filter_append, List.map_append, ih, filter_sender j (by simp)]
      by_cases hi : i = j
      · subst hi
        simp [hact _ _ _ _ hstep, Function.comp_def]
      · simp [hi]
    | @receive j m s out _ _ hstep =>
      rw [List.filter_append, List.map_append, ih, filter_sender j map_emitted_sender]
      by_cases hi : i = j
      · subst hi
        simp [hreceive _ _ _ _ _ _ hstep, Function.comp_def]
      · simp [hi]

/-- The states around a reception are states the receiver has been in. -/
theorem Reachable.arrival_invariant {ι σ μ : Type} [DecidableEq ι] {N : Protocol ι σ μ}
    {I : ι → σ → Prop} (hstart : ∀ i s, N.start i s → I i s)
    (hact : ∀ i s s' out, I i s → N.act i s s' out → I i s')
    (hreceive : ∀ i s j msg s' out, I i s → N.receive i s j msg s' out → I i s')
    {c : Config ι σ μ} (h : Reachable N c) {a : Arrival ι σ μ} (ha : a ∈ c.arrivals) :
    I a.receiver a.before ∧ I a.receiver a.after := by
  induction h with
  | start => simp at ha
  | step hreach hstep ih =>
    cases hstep with
    | act => exact ih ha
    | @receive j m s out _ _ hstep =>
      obtain hold | hnew := List.mem_append.mp ha
      · exact ih hold
      · rw [List.mem_singleton] at hnew
        subst hnew
        have hnode := hreach.node_invariant hstart hact hreceive j
        exact ⟨hnode, hreceive _ _ _ _ _ _ hnode hstep⟩

/-- Every state of a node comes after the receptions it has had, and the
receptions of a node come one after the other. -/
theorem Reachable.arrivals_ordered {ι σ μ : Type} [DecidableEq ι] {N : Protocol ι σ μ}
    (le : σ → σ → Prop) (hrefl : ∀ s, le s s) (htrans : ∀ s s' s'', le s s' → le s' s'' → le s s'')
    (hact : ∀ i s s' out, N.act i s s' out → le s s')
    (hreceive : ∀ i s j msg s' out, N.receive i s j msg s' out → le s s')
    {c : Config ι σ μ} (h : Reachable N c) :
    (∀ a ∈ c.arrivals, le a.after (c.node a.receiver)) ∧
      c.arrivals.Pairwise fun a b => a.receiver = b.receiver → le a.after b.before := by
  induction h with
  | start => simp
  | step _ hstep ih =>
    obtain ⟨hlast, hordered⟩ := ih
    cases hstep with
    | @act j s out hstep =>
      refine ⟨fun a ha => ?_, hordered⟩
      dsimp only
      by_cases hi : a.receiver = j
      · rw [hi, Function.update_self]
        have hbefore := hlast a ha
        rw [hi] at hbefore
        exact htrans _ _ _ hbefore (hact _ _ _ _ hstep)
      · rw [Function.update_of_ne hi]
        exact hlast a ha
    | @receive j m s out _ _ hstep =>
      refine ⟨fun a ha => ?_, ?_⟩
      · dsimp only
        obtain hold | hnew := List.mem_append.mp ha
        · by_cases hi : a.receiver = j
          · rw [hi, Function.update_self]
            have hbefore := hlast a hold
            rw [hi] at hbefore
            exact htrans _ _ _ hbefore (hreceive _ _ _ _ _ _ hstep)
          · rw [Function.update_of_ne hi]
            exact hlast a hold
        · rw [List.mem_singleton] at hnew
          subst hnew
          rw [Function.update_self]
          exact hrefl s
      · rw [List.pairwise_append]
        refine ⟨hordered, List.pairwise_singleton _ _, ?_⟩
        intro a ha b hb hsame
        rw [List.mem_singleton] at hb
        subst hb
        have hbefore := hlast a ha
        rwa [hsame] at hbefore

/-- Before a reception the run had had the receptions listed before it. -/
theorem Reachable.arrival_split {ι σ μ : Type} [DecidableEq ι] {N : Protocol ι σ μ}
    {c : Config ι σ μ} (h : Reachable N c) {before later : List (Arrival ι σ μ)}
    {a : Arrival ι σ μ} (hsplit : c.arrivals = before ++ a :: later) :
    ∃ c₀, Reachable N c₀ ∧ c₀.arrivals = before ∧ c₀.node a.receiver = a.before ∧
      a.packet ∈ c₀.air ∧ ∀ m ∈ c₀.air, m ∈ c.air := by
  induction h generalizing later with
  | start => simp at hsplit
  | @step c₁ c₂ hreach hstep ih =>
    have hkept : ∀ m ∈ c₁.air, m ∈ c₂.air := fun m hm => hstep.air_subset hm
    have hearlier : ∀ {later'}, c₁.arrivals = before ++ a :: later' →
        ∃ c₀, Reachable N c₀ ∧ c₀.arrivals = before ∧ c₀.node a.receiver = a.before ∧
          a.packet ∈ c₀.air ∧ ∀ m ∈ c₀.air, m ∈ c₂.air := by
      intro later' hsplit'
      obtain ⟨c₀, hreach', hbefore, hnode, hair, hsubset⟩ := ih hsplit'
      exact ⟨c₀, hreach', hbefore, hnode, hair, fun m hm => hkept m (hsubset m hm)⟩
    cases hstep with
    | act => exact hearlier hsplit
    | @receive i m s out hair hhears hreceive =>
      obtain rfl | ⟨later', last, rfl⟩ := List.eq_nil_or_concat later
      · obtain ⟨hbefore, hlast⟩ := List.append_inj' hsplit rfl
        obtain rfl := List.singleton_inj.mp hlast
        exact ⟨c₁, hreach, hbefore, rfl, hair, hkept⟩
      · rw [List.concat_eq_append, ← List.cons_append, ← List.append_assoc] at hsplit
        exact hearlier (List.append_inj' hsplit rfl).1

/-- Whatever a node's history holds was added by an act of the node or in one
of its receptions. -/
theorem Reachable.event {ι σ μ ε : Type} [DecidableEq ι] {N : Protocol ι σ μ}
    {I : ι → σ → Prop} (history : σ → List ε) (hstart : ∀ i s, N.start i s → I i s)
    (hact : ∀ i s s' out, I i s → N.act i s s' out → I i s')
    (hreceive : ∀ i s j msg s' out, I i s → N.receive i s j msg s' out → I i s')
    (hempty : ∀ i s, N.start i s → history s = [])
    (hactGrows : ∀ i s s' out, N.act i s s' out → history s <+: history s')
    (hreceiveGrows : ∀ i s j msg s' out, N.receive i s j msg s' out → history s <+: history s')
    {c : Config ι σ μ} (h : Reachable N c) {i : ι} {e : ε} (he : e ∈ history (c.node i)) :
    (∃ s s' out, I i s ∧ N.act i s s' out ∧ e ∈ (history s').drop (history s).length) ∨
      ∃ a ∈ c.arrivals, a.receiver = i ∧ e ∈ (history a.after).drop (history a.before).length := by
  induction h with
  | start hinit => simp [hempty i _ (hinit i)] at he
  | step hreach hstep ih =>
    have hsplit : ∀ {s s' : σ}, history s <+: history s' → e ∈ history s' →
        e ∈ history s ∨ e ∈ (history s').drop (history s).length := by
      rintro s s' ⟨new, hnew⟩ hmem
      rw [← hnew] at hmem ⊢
      rw [List.drop_left]
      exact List.mem_append.mp hmem
    cases hstep with
    | @act j s out hstep =>
      dsimp only at he
      by_cases hi : i = j
      · subst hi
        rw [Function.update_self] at he
        obtain hold | hnew := hsplit (hactGrows _ _ _ _ hstep) he
        · exact ih hold
        · exact .inl ⟨_, _, _, hreach.node_invariant hstart hact hreceive i, hstep, hnew⟩
      · rw [Function.update_of_ne hi] at he
        exact ih he
    | @receive j m s out _ _ hstep =>
      dsimp only at he
      by_cases hi : i = j
      · subst hi
        rw [Function.update_self] at he
        obtain hold | hnew := hsplit (hreceiveGrows _ _ _ _ _ _ hstep) he
        · exact (ih hold).imp_right fun ⟨a, ha, hrest⟩ => ⟨a, List.mem_append_left _ ha, hrest⟩
        · exact .inr ⟨_, List.mem_append_right _ (List.mem_singleton_self _), rfl, hnew⟩
      · rw [Function.update_of_ne hi] at he
        exact (ih he).imp_right fun ⟨a, ha, hrest⟩ => ⟨a, List.mem_append_left _ ha, hrest⟩

/-- A walk of `n` edges of a graph. -/
inductive Walk {ι : Type} (adj : ι → ι → Prop) : Nat → ι → ι → Prop where
  | refl (i : ι) : Walk adj 0 i i
  | step {n : Nat} {i j k : ι} (hwalk : Walk adj n i j) (hadj : adj j k) : Walk adj (n + 1) i k

/-- Copies travel along the edges over which nodes hear each other. -/
theorem Reachable.walk {ι σ μ : Type} [DecidableEq ι] {N : Protocol ι σ μ}
    {adj : ι → ι → Prop} (hadj : ∀ i j msg, N.hears i j msg → adj i j)
    {c : Config ι σ μ} (h : Reachable N c) {m : Packet ι μ} (hm : m ∈ c.air) :
    Walk adj m.hops m.root.sender m.sender := by
  induction m with
  | origin => exact .refl _
  | copy i msg received ih =>
    obtain ⟨a, ha, hreceiver, hpacket, _⟩ := h.copy hm
    have hedge : adj received.sender i := by
      have hhears := (h.arrival ha).2.1
      rw [hreceiver, hpacket] at hhears
      exact hadj _ _ _ hhears
    exact (ih (h.copy_source hm)).step hedge

/-- When every copy of a message of some kind is of that kind and carries a
smaller budget, a message has been copied at most as often as its root's
budget allows, and has only what is left of it. -/
theorem Reachable.hops_le {ι σ μ : Type} [DecidableEq ι] {N : Protocol ι σ μ}
    (kind : μ → Prop) (budget : μ → Nat)
    (hcopy : ∀ i s j msg s' out msg', N.receive i s j msg s' out → (true, msg') ∈ out →
      kind msg → kind msg' ∧ budget msg' < budget msg)
    {c : Config ι σ μ} (h : Reachable N c) {m : Packet ι μ} (hm : m ∈ c.air)
    (hroot : kind m.root.msg) : kind m.msg ∧ m.hops + budget m.msg ≤ budget m.root.msg := by
  induction m with
  | origin => exact ⟨hroot, by simp⟩
  | copy i msg received ih =>
    obtain ⟨hkind, hhops⟩ := ih (h.copy_source hm) hroot
    obtain ⟨a, _, _, _, out, hreceive, hout⟩ := h.copy hm
    obtain ⟨hkind', hless⟩ := hcopy _ _ _ _ _ _ _ hreceive hout hkind
    refine ⟨hkind', ?_⟩
    simp only [Packet.copy_hops, Packet.copy_root, Packet.copy_msg]
    omega

end concretid.network
