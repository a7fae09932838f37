import ConcretID.Com.Network

open concretid.memory concretid.network
open concretid.ems (Uid linkLocal)

namespace concretid.com

/-- Whether a call shares a package with this id. -/
def Event.shares (rid : Rid) : Event → Bool
  | .SharePackage _ package => ridOf package = rid
  | _ => false

/-- Whether a call shares what it has not made itself. -/
def Event.relays : Event → Bool
  | .SharePackage r _ => r ≠ .buf
  | _ => false

/-- An id is drawn for a package to be shared after it has been shared before. -/
def Redraws (rid : Rid) (trace : List Event) : Prop :=
  ∃ before t later, trace = before ++ .initPackage t rid :: later ∧ t.flooded = true ∧
    before.countP (Event.shares rid) ≠ 0

/-- An id has been shared at most once, if it has not been drawn twice, and has
been registered then. -/
structure SharedOnce (rid : Rid) (trace : List Event) : Prop where
  once : trace.countP (Event.shares rid) ≤ 1 ∨ Redraws rid trace
  registered : trace.countP (Event.shares rid) ≠ 0 → .registerRid rid ∈ trace

theorem Event.relays_responds {e : Event} (h : e.responds = false) : e.relays = false := by
  cases e with
  | SharePackage r package => exact h
  | _ => rfl

theorem Event.shares_of_other {e : Event} (hmakes : e.makes = false) (hrelays : e.relays = false)
    (rid : Rid) : e.shares rid = false := by
  cases e with
  | SharePackage r package =>
    have hbuf : r = .buf := by simpa [Event.relays] using hrelays
    subst hbuf
    cases hmakes
  | _ => rfl

theorem Redraws.append {rid : Rid} {trace : List Event} (h : Redraws rid trace)
    (new : List Event) : Redraws rid (trace ++ new) := by
  obtain ⟨before, t, later, rfl, ht, hshared⟩ := h
  exact ⟨before, t, later ++ new, by simp, ht, hshared⟩

/-- Calls that share nothing with this id. -/
theorem SharedOnce.append {rid : Rid} {trace new : List Event} (h : SharedOnce rid trace)
    (hnew : new.countP (Event.shares rid) = 0) : SharedOnce rid (trace ++ new) := by
  refine ⟨?_, fun hshared => ?_⟩
  · rw [List.countP_append, hnew]
    exact h.once.imp_right fun hredraws => hredraws.append new
  · rw [List.countP_append, hnew] at hshared
    exact List.mem_append_left _ (h.registered hshared)

/-- An id that has not been shared before is registered and shared. -/
theorem SharedOnce.share {rid : Rid} {trace new : List Event}
    (hfresh : trace.countP (Event.shares rid) = 0) (hnew : new.countP (Event.shares rid) ≤ 1)
    (hregistered : .registerRid rid ∈ new) : SharedOnce rid (trace ++ new) := by
  refine ⟨.inl ?_, fun _ => List.mem_append_right _ hregistered⟩
  rw [List.countP_append, hfresh]
  omega

/-- The packages a node makes of its own are shared once each. -/
theorem Shared.once {rid : Rid} {new : List Event} (h : Shared new)
    (hnew : ∀ e ∈ new, e.relays = false) {trace : List Event} (htrace : SharedOnce rid trace) :
    SharedOnce rid (trace ++ new) := by
  induction h generalizing trace with
  | nil => simpa using htrace
  | @made t r package rest hflooded hrid _ ih =>
    have hrest : ∀ e ∈ rest, e.relays = false := fun e he => hnew e (by simp [he])
    suffices hblock : SharedOnce rid
        (trace ++ [.initPackage t r, .registerRid r, .SharePackage .buf package]) by
      simpa using ih hrest hblock
    by_cases hsame : r = rid
    · subst hsame
      by_cases hfresh : trace.countP (Event.shares r) = 0
      · refine SharedOnce.share hfresh ?_ (by simp)
        simp [Event.shares, hrid]
      · refine ⟨.inr ⟨trace, t, _, rfl, hflooded, hfresh⟩, fun _ => by simp⟩
    · apply htrace.append
      simp [Event.shares, hrid, hsame]
  | @other e rest hother _ ih =>
    have hrest : ∀ e ∈ rest, e.relays = false := fun e he => hnew e (by simp [he])
    have hquiet := Event.shares_of_other hother (hnew e (by simp)) rid
    have hone : SharedOnce rid (trace ++ [e]) := htrace.append (by simp [hquiet])
    simpa using ih hrest hone

/-- A package made to be shared has been shared. -/
theorem Shared.of_initPackage {before later : List Event} {t : PackageType} {rid : Rid}
    (h : Shared (before ++ .initPackage t rid :: later)) (ht : t.flooded = true) :
    ∃ package rest, later = .registerRid rid :: .SharePackage .buf package :: rest ∧
      ridOf package = rid := by
  generalize htrace : before ++ .initPackage t rid :: later = trace at h
  induction h generalizing before with
  | nil => simp at htrace
  | made _ hrid _ ih =>
    match before, htrace with
    | [], htrace =>
      obtain ⟨hhead, rfl⟩ := List.cons.inj htrace
      cases hhead
      exact ⟨_, _, rfl, hrid⟩
    | [_], htrace => cases (List.cons.inj (List.cons.inj htrace).2).1
    | [_, _], htrace =>
      cases (List.cons.inj (List.cons.inj (List.cons.inj htrace).2).2).1
    | _ :: _ :: _ :: before, htrace =>
      exact ih (List.cons.inj (List.cons.inj (List.cons.inj htrace).2).2).2
  | other hother _ ih =>
    match before, htrace with
    | [], htrace =>
      obtain ⟨rfl, -⟩ := List.cons.inj htrace
      rw [show (Event.initPackage t rid).makes = t.flooded from rfl, ht] at hother
      cases hother
    | _ :: before, htrace => exact ih (List.cons.inj htrace).2

/-- An id that is drawn again is shared twice. -/
theorem Redraws.two_le {rid : Rid} {trace : List Event} (h : Redraws rid trace)
    (hshared : Shared trace) : 2 ≤ trace.countP (Event.shares rid) := by
  obtain ⟨before, t, later, rfl, ht, hbefore⟩ := h
  obtain ⟨package, rest, rfl, hrid⟩ := hshared.of_initPackage ht
  have hlater : 1 ≤ (Event.initPackage t rid :: .registerRid rid :: .SharePackage .buf package ::
      rest).countP (Event.shares rid) := by
    rw [Nat.one_le_iff_ne_zero, ← Nat.pos_iff_ne_zero, List.countP_pos_iff]
    exact ⟨.SharePackage .buf package, by simp, by simp [Event.shares, hrid]⟩
  rw [List.countP_append]
  omega

namespace Node

theorem ridOf_load {d : Nat → UInt8} {n : Nat} (hn : RID_SIZE ≤ n) : ridOf (load d 0 n) = ridAt d 0 :=
  ridAt_congr fun _ hi => load_getD d (lt_of_lt_of_le hi hn) 0

theorem ridOf_package {m : Datagram} (hlen : PACKAGE_HEAD ≤ m.len) : ridOf m.package = m.rid :=
  ridOf_load (le_min (le_trans (by decide) hlen) (by decide))

/-- What the second half of `case NEIGHBOR_REQUEST_M` shares has the id of the
announcement that has just been shared. -/
theorem ridOf_echoed (s : Node) {m : Datagram} (hlen : PACKAGE_HEAD ≤ m.len) :
    ridOf (s.echoed m) = s.nextRid := by
  rw [echoed, ridOf_load (le_min (le_trans (by decide) hlen) (by decide)),
    ← ridAt_store_bytes m.data s.nextRid (PackageType.ANNOUNCEMENT_M.code :: s.announcement)]
  refine ridAt_congr fun i hi => ?_
  rw [store_of_lt _ _ (by simp only [PACKAGE_HEAD]; omega), made, List.append_assoc]
  rfl

/-- An accepted neighbour request is announced to and passed on. -/
theorem receive_explored {s : Node} {m : Datagram} (haccepts : s.Accepts m)
    (htype : m.type = some .NEIGHBOR_REQUEST_M) :
    Acts s (s.receive m) (.registerRid m.rid :: (s.announcing ++ s.echoing m)) := by
  rw [haccepts.receive_eq, htype]
  exact (acts_seen s m).trans (acts_neighborRequest s m haccepts.len)

/-- A neighbour request is accepted and the announcement that answers it is
made under an id and then shared a second time in its place. -/
structure Echoes (s : Node) (m : Datagram) (rid : Rid) : Prop where
  accepts : s.Accepts m
  type : m.type = some .NEIGHBOR_REQUEST_M
  body : PACKAGE_HEAD < m.len
  address : s.myIp.head ≠ 1
  drawn : s.nextRid = rid

theorem sub_one_eq_zero (x : UInt8) : x - 1 = 0 ↔ x = 1 := by
  constructor
  · intro h
    rw [← UInt8.sub_add_cancel x 1, h, UInt8.zero_add]
  · rintro rfl
    rfl

theorem Echoes.echoing_eq {s : Node} {m : Datagram} {rid : Rid} (h : s.Echoes m rid) :
    s.echoing m = [.registerRid s.nextRid, .SharePackage .uip_appdata (s.echoed m)] := by
  rw [echoing, if_neg]
  rintro (hshort | hzero)
  · exact Nat.ne_of_gt h.body hshort
  · exact h.address ((sub_one_eq_zero _).mp hzero)

theorem shared_announcing (s : Node) : Shared s.announcing := (acts_announceMe s).shared

theorem relays_announcing (s : Node) : ∀ e ∈ s.announcing, e.relays = false := by
  simp [announcing, sharing, Event.relays]

/-- The id of an echo is shared twice. -/
theorem Echoes.two_le {s : Node} {m : Datagram} {rid : Rid} (h : s.Echoes m rid) :
    2 ≤ (s.receive m).trace.countP (Event.shares rid) := by
  have hannounced : 1 ≤ s.announcing.countP (Event.shares rid) := by
    rw [Nat.one_le_iff_ne_zero, ← Nat.pos_iff_ne_zero, List.countP_pos_iff]
    refine ⟨.SharePackage .buf (s.made .ANNOUNCEMENT_M s.announcement), ?_, ?_⟩
    · simp [announcing, sharing]
    · simp only [Event.shares, made, List.append_assoc, ridOf_bytes, h.drawn, decide_true]
  have hechoed : (s.echoing m).countP (Event.shares rid) = 1 := by
    rw [h.echoing_eq]
    simp [Event.shares, ridOf_echoed s (Nat.le_of_lt h.body), h.drawn]
  rw [(receive_explored h.accepts h.type).trace_eq, List.countP_append, List.countP_cons,
    List.countP_append, hechoed]
  omega

/-- A reception shares an id only if it is not known, or echoes it. -/
theorem receive_shares {s : Node} {m : Datagram} {rid : Rid} (h : SharedOnce rid s.trace)
    (hremembers : s.Accepts m → m.rid = rid → .registerRid rid ∈ s.trace → s.rids.existsRid rid = 1) :
    SharedOnce rid (s.receive m).trace ∨ s.Echoes m rid := by
  obtain ⟨new, hacts, hreaction⟩ := receive_reaction s m
  rw [hacts.trace_eq]
  have hown : (∀ e ∈ new, e.relays = false) → SharedOnce rid (s.trace ++ new) :=
    fun hnew => hacts.shared.once hnew h
  cases hreaction with
  | dropped => exact .inl (hown (by simp))
  | retried => exact .inl (hown (by simp [Event.relays]))
  | worked _ hnew =>
    refine .inl (hown fun e he => ?_)
    obtain rfl | hmem := List.mem_cons.mp he
    · rfl
    · exact Event.relays_responds (hnew e hmem)
  | passed haccepts =>
    left
    by_cases hrid : m.rid = rid
    · have hfresh : s.trace.countP (Event.shares rid) = 0 := by
        by_contra hshared
        have hknown := hremembers haccepts hrid (h.registered hshared)
        rw [← hrid] at hknown
        exact haccepts.fresh hknown
      refine SharedOnce.share hfresh ?_ (by simp [hrid])
      simp [Event.shares, ridOf_package haccepts.len, hrid]
    · apply h.append
      simp [Event.shares, ridOf_package haccepts.len, hrid]
  | announced =>
    refine .inl (hown fun e he => ?_)
    obtain rfl | hmem := List.mem_cons.mp he
    · rfl
    · exact relays_announcing s e hmem
  | explored haccepts htype =>
    by_cases hnone : m.len = PACKAGE_HEAD ∨ s.myIp.head - 1 = 0
    · have hsilent : s.echoing m = [] := if_pos hnone
      refine .inl (hown fun e he => ?_)
      rw [hsilent, List.append_nil] at he
      obtain rfl | hmem := List.mem_cons.mp he
      · rfl
      · exact relays_announcing s e hmem
    · by_cases hdrawn : s.nextRid = rid
      · refine .inr ⟨haccepts, htype, ?_, ?_, hdrawn⟩
        · exact lt_of_le_of_ne haccepts.len fun hlen => hnone (.inl hlen.symm)
        · exact fun hone => hnone (.inr ((sub_one_eq_zero _).mpr hone))
      · left
        have hregistered : SharedOnce rid (s.trace ++ [.registerRid m.rid]) :=
          h.append (by simp [Event.shares])
        have hannounced := (shared_announcing s).once (relays_announcing s) hregistered
        have hechoed : (s.echoing m).countP (Event.shares rid) = 0 := by
          have hecho : s.echoing m =
              [.registerRid s.nextRid, .SharePackage .uip_appdata (s.echoed m)] := if_neg hnone
          rw [hecho]
          simp [Event.shares, ridOf_echoed s haccepts.len, hdrawn]
        simpa using hannounced.append hechoed
  | acked _ _ hfirst hlast =>
    refine .inl (hown fun e he => ?_)
    obtain rfl | hmem := List.mem_cons.mp he
    · rfl
    · obtain hmem | hmem := List.mem_append.mp hmem
      · exact Event.relays_responds (hfirst e hmem)
      · obtain rfl | hmem := List.mem_cons.mp hmem
        · rfl
        · exact Event.relays_responds (hlast e hmem)

end Node

/-- Whether a datagram that holds a message is accepted does not depend on the
bytes behind it. -/
theorem Datagram.Holds.accepts {d d' : Datagram} {m : Message} {src : Uid} (h : d.Holds m src)
    (h' : d'.Holds m src) {s : Node} (haccepts : s.Accepts d) :
    s.Accepts d' ∧ d'.type = d.type ∧ d'.len = d.len := by
  have hlen : d'.len = d.len := h'.len.trans h.len.symm
  have hread : ∀ i < PACKAGE_HEAD, d'.data i = d.data i := by
    intro i hi
    have hin : i < d.len := lt_of_lt_of_le hi haccepts.len
    have hcontent : load d'.data 0 d.len = load d.data 0 d.len := by
      rw [h.content, ← h'.content, hlen]
    have hat := congrArg (·[i]?) hcontent
    rw [load_getElem?, load_getElem?, if_pos hin, if_pos hin, Nat.zero_add] at hat
    exact Option.some.inj hat
  have hrid : d'.rid = d.rid := Node.ridAt_congr fun i hi => hread i (Nat.lt_succ_of_lt hi)
  have htype : d'.type = d.type := by
    rw [Datagram.type, Datagram.type, Datagram.letter, hread RID_SIZE (by decide)]
    rfl
  refine ⟨⟨?_, ?_, ?_, ?_⟩, htype, hlen⟩
  · rw [h'.src, ← h.src]
    exact haccepts.src
  · rw [hlen]
    exact haccepts.len
  · rw [hrid]
    exact haccepts.fresh
  · rw [hrid, htype]
    exact haccepts.retried

theorem Datagram.Holds.echoes {d d' : Datagram} {m : Message} {src : Uid} (h : d.Holds m src)
    (h' : d'.Holds m src) {rid : Rid} {s : Node} (hechoes : s.Echoes d rid) : s.Echoes d' rid := by
  obtain ⟨haccepts, htype, hlen⟩ := h.accepts h' hechoes.accepts
  refine ⟨haccepts, htype.trans hechoes.type, ?_, hechoes.address, hechoes.drawn⟩
  rw [hlen]
  exact hechoes.body

namespace Deployment

/-- No node registers more than fifteen other ids in an id's block between
registering the id and the last time it arrives. -/
def Remembers {ι : Type} (c : Config ι Node Message) (rid : Rid) : Prop :=
  ∀ a ∈ c.arrivals, ridOf a.packet.msg.package = rid →
    ∀ before later, a.before.trace = before ++ .registerRid rid :: later →
      later.countP (Event.crowds rid) ≤ 15

/-- A reception that echoes an announcement with an id. -/
def Echoed {ι : Type} (D : Deployment ι) (rid : Rid) (a : Arrival ι Node Message) : Prop :=
  ∃ d : Datagram, d.Holds a.packet.msg (D.ip a.packet.sender) ∧ a.before.Echoes d rid

/-- In every run, an id is shared at most once by each node, or it has been
drawn twice or echoed. -/
theorem shared_once {ι : Type} [DecidableEq ι] {D : Deployment ι} {c : Config ι Node Message}
    (h : Reachable D.protocol c) {rid : Rid} (hremembers : Remembers c rid) :
    (∃ a ∈ c.arrivals, D.Echoed rid a) ∨ ∀ i, SharedOnce rid (c.node i).trace := by
  induction h with
  | start hinit =>
    refine .inr fun i => ?_
    rw [(hinit i).1.trace]
    exact ⟨.inl (Nat.zero_le 1), fun hshared => absurd rfl hshared⟩
  | @step c₁ _ hreach hstep ih =>
    obtain ⟨a, ha, hechoed⟩ | hbefore := ih fun a ha => hremembers a (hstep.arrivals_subset ha)
    · exact .inl ⟨a, hstep.arrivals_subset ha, hechoed⟩
    · cases hstep with
      | @act j s out hact =>
        refine .inr fun i => ?_
        by_cases hi : i = j
        · subst hi
          obtain ⟨new, hacts, hown⟩ := Node.works_act hact
          have hshared := hacts.shared.once (fun e he => Event.relays_responds (hown e he)) (hbefore i)
          simpa [hacts.trace_eq] using hshared
        · simpa [hi] using hbefore i
      | @receive j m s out hair hhears hreceive =>
        have hnew := hremembers _ (List.mem_append_right _ (List.mem_singleton_self _))
        obtain ⟨d, hholds, rfl, -⟩ := hreceive
        have hknown : (c₁.node j).Accepts d → d.rid = rid → .registerRid rid ∈ (c₁.node j).trace →
            (c₁.node j).rids.existsRid rid = 1 := by
          intro haccepts hrid hregistered
          obtain ⟨before, later, htrace⟩ := List.append_of_mem hregistered
          have hpackage : ridOf m.msg.package = rid := by
            rw [← hholds.content, Node.ridOf_load (le_trans (by decide) haccepts.len)]
            exact hrid
          exact (lives hreach j).existsRid_eq_one htrace (hnew hpackage before later htrace)
        obtain hshared | hechoes := Node.receive_shares (hbefore j) hknown
        · refine .inr fun i => ?_
          by_cases hi : i = j
          · subst hi
            simp only [Function.update_self]
            exact hshared
          · simpa [hi] using hbefore i
        · exact .inl ⟨_, List.mem_append_right _ (List.mem_singleton_self _), d, hholds, hechoes⟩

/-- What a node has shared it has shared for good. -/
theorem arrival_grows {ι : Type} [DecidableEq ι] {D : Deployment ι} {c : Config ι Node Message}
    (h : Reachable D.protocol c) {a : Arrival ι Node Message} (ha : a ∈ c.arrivals) :
    a.after.trace <+: (c.node a.receiver).trace := by
  refine (h.arrivals_ordered (fun s s' => s.trace <+: s'.trace) (fun s => List.prefix_rfl)
    (fun _ _ _ => List.IsPrefix.trans) ?_ ?_).1 a ha
  · intro i s s' out hact
    obtain ⟨new, hacts, -⟩ := Node.works_act hact
    exact ⟨new, hacts.trace_eq.symm⟩
  · rintro i s j m s' out ⟨d, -, rfl, -⟩
    obtain ⟨new, hacts, -⟩ := Node.receive_reaction s d
    exact ⟨new, hacts.trace_eq.symm⟩

/-- An echo is a second transmission of its id. -/
theorem Echoed.two_le {ι : Type} [DecidableEq ι] {D : Deployment ι} {c : Config ι Node Message}
    (h : Reachable D.protocol c) {rid : Rid} {a : Arrival ι Node Message} (ha : a ∈ c.arrivals)
    (hechoed : D.Echoed rid a) : 2 ≤ (c.node a.receiver).trace.countP (Event.shares rid) := by
  obtain ⟨d, hholds, hechoes⟩ := hechoed
  obtain ⟨-, -, out, d', hholds', hafter, -⟩ := h.arrival ha
  have htwo := (hholds.echoes hholds' hechoes).two_le
  have hgrows : ((a.before.step (.datagram d'))).trace <+: (c.node a.receiver).trace := by
    rw [← hafter]
    exact arrival_grows h ha
  exact le_trans htwo (hgrows.sublist.countP_le)

/-- `registerRid` keeps an id through fifteen others, and while nodes remember
an id, no node shares it twice exactly if none has echoed it, the announcement
in place of the neighbour request, or drawn it again. -/
theorem flooding_once_iff {ι : Type} [DecidableEq ι] {D : Deployment ι} {c : Config ι Node Message}
    (h : Reachable D.protocol c) {rid : Rid} (hremembers : Remembers c rid) :
    (∀ (t : RidTable) (later : List Rid), later.length ≤ 15 →
      (later.foldl RidTable.registerRid (t.registerRid rid)).existsRid rid = 1) ∧
    ((∀ i, (c.node i).trace.countP (Event.shares rid) ≤ 1) ↔
      (∀ a ∈ c.arrivals, ¬ D.Echoed rid a) ∧ ∀ i, ¬ Redraws rid (c.node i).trace) := by
  refine ⟨fun t later hlength => ?_, fun honce => ⟨?_, ?_⟩, ?_⟩
  · exact t.register_list_recognised later (le_trans List.countP_le_length hlength)
  · intro a ha hechoed
    have htwo := Echoed.two_le h ha hechoed
    have hone := honce a.receiver
    omega
  · intro i hredraws
    have htwo := hredraws.two_le (lives h i).shared
    have hone := honce i
    omega
  · rintro ⟨hsilent, hfresh⟩ i
    obtain ⟨a, ha, hechoed⟩ | hshared := shared_once h hremembers
    · exact absurd hechoed (hsilent a ha)
    · exact (hshared i).once.resolve_right (hfresh i)

/-- Two nodes that hear each other, `fe80::1` and `fe80::2`. -/
def duo : Deployment (Fin 2) where
  ip i := linkLocal 0 (UInt8.ofNat (i.val + 1))
  adj i j := i ≠ j

def duoNode (i : Fin 2) : Node :=
  Node.boot (duo.ip i) (ems.nameOf [97]) fun n => UInt8.ofNat (100 * i.val + n + 1)

/-- The neighbour request that `D2` makes the first one share. -/
def duoRequest : Message :=
  { package := [1, 2, 3, 4, PackageType.NEIGHBOR_REQUEST_M.code, 2]
    dest := none }

def duoDatagram : Datagram :=
  { src := duo.ip 0
    data := store (fun _ => 0) 0 duoRequest.package
    len := 6 }

/-- The second one has received it. -/
def duoArrival : Arrival (Fin 2) Node Message :=
  { receiver := 1
    packet := .origin 0 duoRequest
    before := duoNode 1
    after := (duoNode 1).step (.datagram duoDatagram) }

/-- The id of its announcement. -/
def duoAnnounced : Rid :=
  { h0 := 101
    h1 := 102
    h2 := 103
    h3 := 104 }

/-- The byte behind the announcement's id and letter is one less than the first
of the address. -/
def duoEcho : Message :=
  { package := [101, 102, 103, 104, PackageType.ANNOUNCEMENT_M.code, 0xfd]
    dest := none }

theorem duo_asked : ∃ c, Reachable duo.protocol c ∧ c.node 1 = duoNode 1 ∧
    c.air = [.origin 0 duoRequest] ∧ c.arrivals = [] := by
  have hstart : ∀ i, duo.protocol.start i (duoNode i) := fun i => ⟨Node.boot_booted _ _ _, rfl⟩
  have hd : duo.protocol.act 0 (duoNode 0) ((duoNode 0).step (.char 0x44)) [] :=
    ⟨.inl ⟨_, rfl⟩, by decide⟩
  have h2 : duo.protocol.act 0 ((duoNode 0).step (.char 0x44))
      (((duoNode 0).step (.char 0x44)).step (.char 0x32)) [] := ⟨.inl ⟨_, rfl⟩, by decide⟩
  have hline : duo.protocol.act 0 (((duoNode 0).step (.char 0x44)).step (.char 0x32))
      ((((duoNode 0).step (.char 0x44)).step (.char 0x32)).step (.char 0x0a)) [duoRequest] :=
    ⟨.inl ⟨_, rfl⟩, by decide⟩
  exact ⟨_, (((Reachable.start hstart).step (.act hd)).step (.act h2)).step (.act hline), rfl, rfl, rfl⟩

theorem duo_echoed : ∃ c, Reachable duo.protocol c ∧ c.node 1 = duoArrival.after ∧
    c.arrivals = [duoArrival] ∧
    .copy 1 duoEcho (.origin 0 duoRequest) ∈ c.air := by
  obtain ⟨c, hreach, hnode, hair, harrivals⟩ := duo_asked
  have hreceive : duo.protocol.receive 1 (c.node 1) 0 duoRequest duoArrival.after
      ((duoNode 1).transmitted duoArrival.after) := by
    rw [hnode]
    exact ⟨duoDatagram, ⟨rfl, rfl, by decide⟩, rfl, rfl⟩
  have hmem : .origin 0 duoRequest ∈ c.air := by
    rw [hair]
    exact List.mem_singleton_self _
  have hadj : duo.adj 0 1 := fun h => absurd h (by decide)
  have hstep := hreach.step (.receive (m := .origin 0 duoRequest) hmem ⟨hadj, .inl rfl⟩ hreceive)
  refine ⟨_, hstep, ?_, ?_, ?_⟩
  · exact Function.update_self 1 duoArrival.after c.node
  · rw [harrivals, hnode]
    rfl
  · have hcopied : (true, duoEcho) ∈ (duoNode 1).transmitted duoArrival.after := by decide
    exact List.mem_append_right _ (List.mem_map.mpr ⟨_, hcopied, rfl⟩)

theorem duo_remembers {c : Config (Fin 2) Node Message} (h : c.arrivals = [duoArrival]) :
    Remembers c duoAnnounced := by
  intro a ha hrid
  rw [h, List.mem_singleton] at ha
  rw [ha] at hrid
  exact absurd hrid (by decide)

/-- The second node shares its announcement's id twice, though nothing with
that id has ever been received. -/
theorem duo_shared_twice : ∃ c, Reachable duo.protocol c ∧ Remembers c duoAnnounced ∧
    (c.node 1).trace.countP (Event.shares duoAnnounced) = 2 := by
  obtain ⟨c, hreach, hnode, harrivals, -⟩ := duo_echoed
  refine ⟨c, hreach, duo_remembers harrivals, ?_⟩
  rw [hnode]
  decide +kernel

theorem duo_not_once : ∃ c, Reachable duo.protocol c ∧ Remembers c duoAnnounced ∧
    ¬ ∀ i, (c.node i).trace.countP (Event.shares duoAnnounced) ≤ 1 := by
  obtain ⟨c, hreach, hnode, harrivals, -⟩ := duo_echoed
  have hremembers := duo_remembers harrivals
  have hechoes : (duoNode 1).Echoes duoDatagram duoAnnounced :=
    ⟨⟨by decide, by decide, by decide, by decide⟩, by decide, by decide, by decide, by decide⟩
  refine ⟨c, hreach, hremembers, fun honce => ?_⟩
  refine ((flooding_once_iff hreach hremembers).2.mp honce).1 duoArrival ?_ ⟨duoDatagram, ?_, hechoes⟩
  · rw [harrivals]
    exact List.mem_singleton_self _
  · exact ⟨rfl, rfl, by decide⟩

end Deployment

end concretid.com
