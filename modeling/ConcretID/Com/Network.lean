import ConcretID.Com.Mesh
import ConcretID.Library.Network

open concretid.memory concretid.network
open concretid.ems (Uid)

namespace concretid.com

/-- A package on the air, for one neighbour or, without a destination, for
everyone in reach. -/
structure Message where
  package : List UInt8
  dest : Option Uid
  deriving DecidableEq

/-- A transmission; the flag says whether a received package is shared on. -/
def Event.transmission? : Event → Option (Bool × Message)
  | .SendPackage _ package ip => some (false, { package, dest := some ip })
  | .SharePackage r package => some (r = .uip_appdata, { package, dest := none })
  | _ => none

/-- Whether a call registers another id in the block of `rid`. -/
def Event.crowds (rid : Rid) : Event → Bool
  | .registerRid other => ridBlock other = ridBlock rid ∧ other ≠ rid
  | _ => false

/-- Nodes with their addresses, and which of them hear which. -/
structure Deployment (ι : Type) where
  ip : ι → Uid
  adj : ι → ι → Prop

/-- A message as a datagram from an address, with any bytes behind it. -/
structure Datagram.Holds (d : Datagram) (m : Message) (src : Uid) : Prop where
  src : d.src = src
  len : d.len = m.package.length
  content : load d.data 0 d.len = m.package

namespace Node

/-- What a node transmits between two states. -/
def transmitted (before after : Node) : List (Bool × Message) :=
  (before.since after).filterMap Event.transmission?

end Node

/-- The nodes of a deployment as a protocol. A node acts of its own at its UART
and at its timer. -/
def Deployment.protocol {ι : Type} (D : Deployment ι) : Protocol ι Node Message where
  start i s := s.Booted ∧ s.myIp = D.ip i
  act _ s s' out :=
    ((∃ x, s' = s.step (.char x)) ∨ s' = s.step .timeout) ∧
      out = (s.transmitted s').map Prod.snd
  receive _ s j m s' out :=
    ∃ d : Datagram, d.Holds m (D.ip j) ∧ s' = s.step (.datagram d) ∧ out = s.transmitted s'
  hears i j m := D.adj i j ∧ (m.dest = none ∨ m.dest = some (D.ip j))

namespace Node

theorem step_datagram (s : Node) (d : Datagram) : s.step (.datagram d) = s.receive d := rfl

/-- The calls a node makes of its own are none that answer. -/
theorem works_act {ι : Type} {D : Deployment ι} {i : ι} {s s' : Node} {out : List Message}
    (hact : D.protocol.act i s s' out) : Works s s' := by
  obtain ⟨⟨x, rfl⟩ | rfl, -⟩ := hact
  · exact works_getc0 s x
  · exact works_checkSendOutAll s

/-- What a node's history says about its state. -/
structure Lives (ip : Uid) (s : Node) : Prop where
  myIp_eq : s.myIp = ip
  rids_eq : s.rids = (s.trace.filterMap Event.registered?).foldl RidTable.registerRid .zero
  shared : Shared s.trace

theorem Lives.of_booted {ip : Uid} {s : Node} (h : s.Booted ∧ s.myIp = ip) : Lives ip s := by
  refine ⟨h.2, ?_, ?_⟩
  · rw [h.1.rids, h.1.trace]
    rfl
  · rw [h.1.trace]
    exact .nil

theorem Lives.step {ip : Uid} {s s' : Node} {new : List Event} (h : Lives ip s)
    (hacts : Acts s s' new) : Lives ip s' := by
  refine ⟨hacts.myIp_eq.trans h.myIp_eq, ?_, ?_⟩
  · rw [hacts.rids_eq, h.rids_eq, hacts.trace_eq, List.filterMap_append, List.foldl_append]
  · rw [hacts.trace_eq]
    exact h.shared.append hacts.shared

theorem Lives.step_act {ι : Type} {D : Deployment ι} {i : ι} {s s' : Node} {out : List Message}
    (h : Lives (D.ip i) s) (hact : D.protocol.act i s s' out) : Lives (D.ip i) s' := by
  obtain ⟨new, hacts, -⟩ := works_act hact
  exact h.step hacts

theorem Lives.step_receive {ι : Type} {D : Deployment ι} {i j : ι} {s s' : Node} {m : Message}
    {out : List (Bool × Message)} (h : Lives (D.ip i) s)
    (hreceive : D.protocol.receive i s j m s' out) : Lives (D.ip i) s' := by
  obtain ⟨d, -, rfl, -⟩ := hreceive
  obtain ⟨new, hacts, -⟩ := receive_reaction s d
  exact h.step hacts

/-- A registered id is recognised while at most fifteen others have been
registered in its block since. -/
theorem Lives.existsRid_eq_one {ip : Uid} {s : Node} (h : Lives ip s) {rid : Rid}
    {before later : List Event} (htrace : s.trace = before ++ .registerRid rid :: later)
    (hroom : later.countP (Event.crowds rid) ≤ 15) : s.rids.existsRid rid = 1 := by
  have hcount : (later.filterMap Event.registered?).countP
      (fun r => ridBlock r = ridBlock rid ∧ r ≠ rid) = later.countP (Event.crowds rid) := by
    rw [List.countP_filterMap]
    refine List.countP_congr fun e _ => ?_
    cases e <;> simp [Event.registered?, Event.crowds]
  have hids : s.trace.filterMap Event.registered? =
      before.filterMap Event.registered? ++ rid :: later.filterMap Event.registered? := by
    rw [htrace, List.filterMap_append, List.filterMap_cons]
    rfl
  rw [h.rids_eq, hids, List.foldl_append, List.foldl_cons]
  exact RidTable.register_list_recognised _ _ (by rwa [hcount])

end Node

namespace Deployment

theorem lives {ι : Type} [DecidableEq ι] {D : Deployment ι} {c : Config ι Node Message}
    (h : Reachable D.protocol c) (i : ι) : Node.Lives (D.ip i) (c.node i) :=
  h.node_invariant (fun _ _ => Node.Lives.of_booted) (fun _ _ _ _ => Node.Lives.step_act)
    (fun _ _ _ _ _ _ => Node.Lives.step_receive) i

theorem arrival_lives {ι : Type} [DecidableEq ι] {D : Deployment ι} {c : Config ι Node Message}
    (h : Reachable D.protocol c) {a : Arrival ι Node Message} (ha : a ∈ c.arrivals) :
    Node.Lives (D.ip a.receiver) a.before ∧ Node.Lives (D.ip a.receiver) a.after :=
  h.arrival_invariant (fun _ _ => Node.Lives.of_booted) (fun _ _ _ _ => Node.Lives.step_act)
    (fun _ _ _ _ _ _ => Node.Lives.step_receive) ha

end Deployment

end concretid.com
