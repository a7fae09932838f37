import Mathlib.Data.List.TakeWhile
import ConcretID.Ems.Reliability

open concretid.memory

namespace concretid.ems

namespace Node

/-! ## A relay -/

/-- What a node passes on when it receives a datagram, if that is one datagram. -/
def passOn (r : Node) (src : Uid) (m : Datagram) : Option Datagram :=
  match r.process_package m.package m.package.size src with
  | .error _ => none
  | .ok r' =>
    match r.transmitted r' with
    | [next] => some next
    | _ => none

/-- The node has a route to `last` over the neighbour `next`. -/
def RouteTo (r : Node) (last next : Uid) : Prop :=
  ∃ e l, r.transmission.find_table_by_uid last = some e ∧
    (r.transmission.uid_table e).link = some l ∧ r.transmission.neighbor l = next

/-- Looking for a uid among the neighbours ends. -/
def Searches (r : Node) (uid : Uid) : Prop := ∃ loc, r.transmission.find_neighbor uid = .ok loc

/-- A package between its source and its end: the content is as it was built,
and everyone but the end gets it with a head naming the end. -/
structure Underway (content : Package) (last : Uid) (m : Datagram) : Prop where
  content_eq : m.package.content = content
  end_eq : m.package.finalDest m.dest = last
  bypass : m.package.intermediate = true → m.dest ≠ m.package.head

/-- What is carried fits every buffer with its head. -/
structure Portable (content : Package) : Prop where
  nonempty : content.data ≠ []
  room : content.size + sizeof_intermediate_head ≤ BUFFER_PROCESS_SIZE
  plain : content.type ≠ .ANNOUNCEMENT

theorem Underway.arrived {content : Package} {last : Uid} {m : Datagram}
    (h : Underway content last m) (hdest : m.dest = last) :
    m = { package := content, dest := last } := by
  have hdirect : m.package.intermediate = false := by
    by_contra hset
    rw [Bool.not_eq_false] at hset
    have hend := h.end_eq
    rw [Package.finalDest, if_pos hset] at hend
    exact h.bypass hset (hdest.trans hend.symm)
  have hcontent := h.content_eq
  rw [Package.content_of_direct hdirect] at hcontent
  rw [← hcontent, ← hdest]

/-- On the way to someone else than its end a package has its head. -/
theorem Underway.passing {content : Package} {last : Uid} {m : Datagram}
    (h : Underway content last m) (hcontent : Portable content) (hdest : m.dest ≠ last) :
    m.package.intermediate = true ∧ m.package.head = last ∧
      sizeof_package + sizeof_intermediate_head ≤ m.package.size ∧
      m.package.size ≤ BUFFER_PROCESS_SIZE := by
  have hset : m.package.intermediate = true := by
    by_contra hdirect
    have hend := h.end_eq
    rw [Package.finalDest, if_neg hdirect] at hend
    exact hdest hend
  have hend := h.end_eq
  rw [Package.finalDest, if_pos hset] at hend
  have hdata := congrArg (List.length ∘ Package.data) h.content_eq
  simp only [Function.comp_apply, Package.content_of_intermediate hset, List.length_drop] at hdata
  have hsome := List.length_pos_of_ne_nil hcontent.nonempty
  have hroom := hcontent.room
  simp only [Package.size, sizeof_package, sizeof_intermediate_head, BUFFER_PROCESS_SIZE] at *
  exact ⟨hset, hend, by omega, by omega⟩

/-- A relay with a route to the end passes the package on to its next hop, as
soon as it knows whether the sender is a neighbour. -/
theorem Underway.passOn_iff {content : Package} {last next src : Uid} {m : Datagram} {r : Node}
    (h : Underway content last m) (hcontent : Portable content) (hdest : m.dest ≠ last)
    (hopen : r.is_blocked src = false) (hnew : r.rids.exists_rid m.package.rid ≠ 1)
    (hroute : r.RouteTo last next) :
    (r.Searches src → ∃ q, r.passOn src m = some { package := q, dest := next } ∧
      Underway content last { package := q, dest := next }) ∧
    (¬ r.Searches src → r.passOn src m = none) := by
  obtain ⟨hinter, hhead, hmin, hmax⟩ := h.passing hcontent hdest
  obtain ⟨e, l, hfind, hlink, hnext⟩ := hroute
  have haccept : ¬ r.Rejects m.package m.package.size src := by
    simp only [Rejects, hopen, hnew, or_false, Bool.false_eq_true, not_or]
    simp only [sizeof_package, sizeof_intermediate_head] at hmin ⊢
    omega
  have hcall := process_package_accepted haccept
  constructor
  · rintro ⟨loc, hloc⟩
    rw [hloc, ok_bind, if_pos hinter] at hcall
    let a := r.accept m.package m.package.size src
    have hholds : a.Holds m.package := accept_package r m.package src
    have hend : uidAt a.buffer.data 0 = last := by rw [accept_head r src hmin, hhead]
    have hplain : ¬ a.Announces := by
      intro hkind
      have htype := hkind.1
      rw [hholds.type_eq, ← Package.content_type, h.content_eq] at htype
      exact hcontent.plain htype
    rw [((process_intermediate_eq (s := a) hmin).2 e (by rw [hend]; exact hfind)).1 hplain] at hcall
    have hsends : ∃ r' size' q, (a.register_rid a.buffer.rid).send_package_by_table .process
        m.package.size (some e) = .ok (r', size') ∧ r'.trace =
          (a.register_rid a.buffer.rid).trace ++ [.send_package .process q next] :=
      (send_intermediate_iff (s := a.register_rid a.buffer.rid) hinter hmin hmax).mpr
        ⟨e, l, rfl, hlink, hnext⟩
    obtain ⟨r', size', q, hsend, htrace⟩ := hsends
    have hdone : (((a.register_rid a.buffer.rid).send_package_by_table .process m.package.size
        (some e)) >>= fun result => .ok result.1) = .ok r' := by rw [hsend, ok_bind]
    obtain ⟨e', l', q', he', hhandles, hcontent', hend'⟩ :=
      relays_on (c := r.alone) (s := a.register_rid a.buffer.rid) hholds hinter hmin hmax hdone
    obtain rfl := Option.some.inj he'
    -- the one transmission of the trace is the one with the same content
    have hmem := (hhandles.deed_mem (List.mem_singleton_self _)).1
    rw [since, htrace, List.drop_left, List.mem_singleton, Event.send_package.injEq] at hmem
    obtain ⟨-, rfl, hhop⟩ := hmem
    rw [hhop] at hend'
    have huid : (r.transmission.uid_table e).uid = m.package.head := by
      rw [find_table_by_uid_eq hfind, hhead]
    obtain ⟨hfinal, hbypass⟩ := hend' huid
    refine ⟨q', ?_, ⟨by rw [hcontent', h.content_eq], by rw [hfinal, hhead], hbypass⟩⟩
    have htransmitted : r.transmitted r' = [{ package := q', dest := next }] := by
      rw [transmitted, htrace, register_rid_trace, accept_trace, List.append_assoc,
        List.append_assoc, List.drop_left]
      rfl
    rw [passOn, hcall, hdone]
    dsimp only
    rw [htransmitted]
  · intro hnone
    rw [passOn, hcall]
    cases hfound : r.transmission.find_neighbor src with
    | error => rfl
    | ok loc => exact absurd ⟨loc, hfound⟩ hnone

/-! ## A chain of relays -/

/-- What comes out of a chain of relays, with the last one that sent it. -/
def convey : List Node → Uid → Datagram → Option (Uid × Datagram)
  | [], src, m => some (src, m)
  | r :: rest, src, m => (r.passOn src m).bind (convey rest r.my_uid)

/-- Who sends last along a chain. -/
def lastHop : List Node → Uid → Uid
  | [], src => src
  | r :: rest, _ => lastHop rest r.my_uid

/-- A chain of relays from `dest` to `last` for a package with the given id. Each
has not got that very package yet, does not block its sender, is not the end
itself and has a route for the end to the next one. -/
def Leads (last : Uid) (rid : Rid) : List Node → Uid → Uid → Prop
  | [], _, dest => dest = last
  | r :: rest, src, dest => r.my_uid = dest ∧ dest ≠ last ∧ r.is_blocked src = false ∧
      r.rids.exists_rid rid ≠ 1 ∧ ∃ next, r.RouteTo last next ∧ Leads last rid rest dest next

/-- Every relay of a chain finds out whether the one before it is a neighbour. -/
def AllSearch : List Node → Uid → Prop
  | [], _ => True
  | r :: rest, src => r.Searches src ∧ AllSearch rest r.my_uid

/-- What a chain of relays lets through arrives bare and with the content it was
sent with; only a search that does not end stops it. -/
theorem Underway.convey_iff {content : Package} {last : Uid} {relays : List Node} {src : Uid}
    {m : Datagram} (h : Underway content last m) (hcontent : Portable content)
    (hleads : Leads last m.package.rid relays src m.dest) :
    (AllSearch relays src →
      convey relays src m = some (lastHop relays src, { package := content, dest := last })) ∧
    (¬ AllSearch relays src → convey relays src m = none) := by
  induction relays generalizing src m with
  | nil =>
    refine ⟨fun _ => ?_, fun hnone => absurd trivial hnone⟩
    rw [convey, h.arrived hleads, lastHop]
  | cons r rest ih =>
    obtain ⟨huid, hdest, hopen, hnew, next, hroute, hrest⟩ := hleads
    obtain ⟨hpasses, hstuck⟩ := h.passOn_iff hcontent hdest hopen hnew hroute
    by_cases hsearch : r.Searches src
    · obtain ⟨q, hpass, hunderway⟩ := hpasses hsearch
      have hrid : q.rid = m.package.rid := by
        rw [← Package.content_rid, hunderway.content_eq, ← h.content_eq, Package.content_rid]
      rw [← hrid, ← huid] at hrest
      obtain ⟨hall, hnone⟩ := ih hunderway hrest
      rw [convey, hpass, Option.bind_some, lastHop, AllSearch]
      exact ⟨fun hsearches => hall hsearches.2, fun hfails => hnone fun hsearches =>
        hfails ⟨hsearch, hsearches⟩⟩
    · rw [convey, hstuck hsearch, AllSearch]
      exact ⟨fun hsearches => absurd hsearches.1 hsearch, fun _ => rfl⟩

/-! ## The end -/

/-- The flags a message is sent with. -/
def messageFlags : UInt8 := PACKAGE_ACKLY ||| PACKAGE_IDENTIFIED ||| PackageType.MSG.code

/-- A message of the given source without an intermediate head. -/
def messagePackage (rid : Rid) (source : Uid) (data : List UInt8) : Package :=
  { rid, flags := messageFlags, data := source.toList ++ data }

/-- A node that takes messages from a neighbour: it does not block it and has not
got a package with these upper bits. -/
structure Awaits (t : Node) (src : Uid) (rid : Rid) : Prop where
  unblocked : t.is_blocked src = false
  new : t.rids.exists_rid rid = 0
  neighbor : ∃ x, t.transmission.find_neighbor src = .ok (some x)

/-- The route a node would acknowledge over has a link, when there is one. -/
def Answers (t : Node) (source : Uid) : Prop :=
  ∀ e, t.transmission.find_table_by_uid source = some e →
    (t.transmission.uid_table e).link.isSome = true

/-- What a node prints and executes while it receives a package. -/
def effectsOf (t : Node) (src : Uid) (p : Package) : Option (List Event) :=
  match t.process_package p p.size src with
  | .error _ => none
  | .ok t' => some ((t.since t').filter Event.effect)

theorem messageFlags_spec : hasFlag messageFlags PACKAGE_INTERMEDIATE = false ∧
    hasFlag messageFlags PACKAGE_IDENTIFIED = true ∧
      hasFlag messageFlags PACKAGE_ACKLY = true ∧ typeOf messageFlags = .MSG := by
  decide

theorem messagePackage_intermediate (rid : Rid) (source : Uid) (data : List UInt8) :
    (messagePackage rid source data).intermediate = false := messageFlags_spec.1

theorem messagePackage_identified (rid : Rid) (source : Uid) (data : List UInt8) :
    (messagePackage rid source data).identified = true := messageFlags_spec.2.1

theorem messagePackage_type (rid : Rid) (source : Uid) (data : List UInt8) :
    (messagePackage rid source data).type = .MSG := messageFlags_spec.2.2.2

theorem messagePackage_head (rid : Rid) (source : Uid) (data : List UInt8) :
    (messagePackage rid source data).head = source :=
  uidAt_append source data

theorem messagePackage_source (rid : Rid) (source : Uid) (data : List UInt8) :
    (messagePackage rid source data).source = some source := by
  rw [Package.source, messagePackage_identified, if_pos rfl, messagePackage_head]

theorem messagePackage_body (rid : Rid) (source : Uid) (data : List UInt8) :
    (messagePackage rid source data).body = data := by
  have hlength : sizeof_identified_head = source.toList.length :=
    (List.Vector.toList_length source).symm
  rw [Package.body, Package.offset, messagePackage_identified, if_pos rfl, hlength]
  exact List.drop_left

theorem messagePackage_size (rid : Rid) (source : Uid) (data : List UInt8) :
    (messagePackage rid source data).size =
      sizeof_package + (sizeof_identified_head + data.length) := by
  simp [messagePackage, Package.size]

theorem messagePackage_short (rid : Rid) (source : Uid) (data : List UInt8) :
    (messagePackage rid source data).short = false := by
  simp [messagePackage, Package.short]

theorem cstring_of_not_mem {data : List UInt8} (h : 0 ∉ data) : cstring data = data := by
  rw [cstring, List.takeWhile_eq_self_iff]
  intro b hb
  rw [decide_eq_true_iff]
  rintro rfl
  exact h hb

/-- An acknowledgement for an identified package is sent, or needs no route,
unless its route has no link. -/
theorem send_ack_iff {t : Node} {b : PackageBuffer}
    (hidentified : hasFlag b.flags PACKAGE_IDENTIFIED = true) :
    (∃ t', t.send_ack b = .ok t') ↔ t.Answers (uidAt b.data 0) := by
  unfold Answers send_ack
  rw [if_pos hidentified]
  cases hfind : t.transmission.find_table_by_uid (uidAt b.data 0) with
  | none => simp
  | some e =>
    simp only [Option.some.injEq, forall_eq']
    cases hlink : (t.transmission.uid_table e).link with
    | none =>
      simp [Node.send_package_by_table, Transmission.send_package_by_table, Node.writeData, hlink]
    | some l =>
      simp only [Option.isSome_some, iff_true]
      let built := (t.make_package_head .messages 0 .ACK).writeData .messages 0 (ridBytes b.rid)
      have htables : built.transmission = t.transmission := by simp [built, Node.writeData]
      have hflag : hasFlag (built.packageBuffer .messages).flags PACKAGE_INTERMEDIATE = false := by
        simp [built, Node.writeData]
      have hwraps : ∃ result, Transmission.wrapFor (t.transmission.uid_table e)
          ((t.transmission.uid_table e).uid == t.transmission.neighbor l)
          Buffer.messages.capacity (built.packageBuffer .messages) (sizeof_package + RID_SIZE) =
            .ok result :=
        wrapFor_bare_ok _ _ hflag (by decide) (by decide) (by decide)
      obtain ⟨result, hwrap⟩ := hwraps
      rw [← htables] at hlink hwrap
      obtain ⟨t', size', hsend⟩ := send_package_by_table_ok hlink hwrap
      exact ⟨t', by rw [hsend]; rfl⟩

theorem Awaits.not_rejects {t : Node} {src : Uid} {p : Package} (h : t.Awaits src p.rid)
    (hsize : p.size ≤ BUFFER_PROCESS_SIZE) : ¬ t.Rejects p p.size src := by
  have hmin : sizeof_package ≤ p.size := Nat.le_add_right _ _
  simp only [Rejects, h.unblocked, h.new, Bool.false_eq_true, not_or]
  exact ⟨Nat.not_lt.mpr hmin, Nat.not_lt.mpr hsize, by decide⟩

theorem Awaits.not_again {t : Node} {src : Uid} {rid : Rid} (h : t.Awaits src rid) :
    t.rids.exists_rid rid ≠ 2 := by
  rw [h.new]
  decide

/-- A node that takes messages from a neighbour handles this one to the end
unless it would acknowledge it over a route without a link. -/
theorem Awaits.process_iff {t : Node} {src source : Uid} {rid : Rid} {data : List UInt8}
    (h : t.Awaits src rid)
    (hsize : (messagePackage rid source data).size ≤ BUFFER_PROCESS_SIZE) :
    (∃ t', t.process_package (messagePackage rid source data)
      (messagePackage rid source data).size src = .ok t') ↔ t.Answers source := by
  obtain ⟨x, hfind⟩ := h.neighbor
  let p := messagePackage rid source data
  have haccept : ¬ t.Rejects p p.size src := h.not_rejects hsize
  let a := t.accept p p.size src
  have hholds : a.Holds p := accept_package t p src
  have hcourse : t.process_package p p.size src =
      (a.register_rid a.buffer.rid).send_ack a.buffer >>= fun s =>
        .ok (s.printMessage "new msg" 0 (p.size - sizeof_package - a.dataOffset)) := by
    have hlong : ¬ p.size - sizeof_package < sizeof_identified_head := by
      rw [messagePackage_size, Nat.add_sub_cancel_left]
      exact Nat.not_lt.mpr (Nat.le_add_right _ _)
    have htype : (a.register_rid a.buffer.rid).type = .MSG :=
      (hholds.type_eq).trans (messagePackage_type rid source data)
    have hackly : (a.register_rid a.buffer.rid).flag PACKAGE_ACKLY = true :=
      (hholds.flag_eq PACKAGE_ACKLY).trans messageFlags_spec.2.2.1
    have hagain : t.rids.exists_rid p.rid ≠ 2 := h.not_again
    rw [process_package_accepted haccept, hfind, ok_bind, messagePackage_intermediate,
      if_neg Bool.false_ne_true, process_direct, if_neg fun hshort => hlong hshort.2]
    dsimp only
    rw [if_neg hagain, Option.isSome_some, if_pos rfl, process_type, htype]
    dsimp only
    rw [ackIfAckly, if_pos hackly]
    rfl
  have hsource : uidAt a.buffer.data 0 = source := by
    have hident := hholds.ident_eq (messagePackage_short rid source data)
    rw [messagePackage_source, Node.ident, hholds.flag_eq, ← Package.identified,
      messagePackage_identified, if_pos rfl] at hident
    exact Option.some.inj hident
  have hidentified : hasFlag a.buffer.flags PACKAGE_IDENTIFIED = true := by
    rw [hholds.flags_eq]
    exact messageFlags_spec.2.1
  have hack := send_ack_iff (t := a.register_rid a.buffer.rid) hidentified
  rw [hsource] at hack
  rw [hcourse]
  refine Iff.trans ?_ hack
  constructor
  · rintro ⟨t', hcall⟩
    obtain ⟨s, hsend, _⟩ := bind_eq_ok_iff.mp hcall
    exact ⟨s, hsend⟩
  · rintro ⟨s, hsend⟩
    exact ⟨_, by rw [hsend, ok_bind]⟩

/-- What a node that takes messages makes of one: it registers the id and prints
the text. -/
theorem Awaits.deeds_eq {t : Node} {src source : Uid} {rid : Rid} {data : List UInt8}
    {deeds : List Event} (h : t.Awaits src rid) (hnul : 0 ∉ data)
    (hsize : (messagePackage rid source data).size ≤ BUFFER_PROCESS_SIZE)
    (houtcome : Outcome t (messagePackage rid source data) src deeds) :
    deeds = [.register_rid rid, .message "new msg" (some source) data] := by
  cases houtcome with
  | rejected hreject => exact absurd hreject (h.not_rejects hsize)
  | relayed _ hinter =>
    rw [messagePackage_intermediate] at hinter
    cases hinter
  | handled _ _ hfind hcourse =>
    obtain ⟨x, hneighbor⟩ := h.neighbor
    obtain rfl := Except.ok.inj (hneighbor.symm.trans hfind)
    cases hcourse with
    | short hshort =>
      rw [messagePackage_short] at hshort
      cases hshort
    | refused _ _ hlink => cases hlink
    | again _ hrid => exact absurd hrid h.not_again
    | new _ _ _ hdeeds =>
      simp only [Deeds, messagePackage_type] at hdeeds
      rw [hdeeds, messagePackage_source, messagePackage_body, cstring_of_not_mem hnul]
      rfl

/-- A node that takes messages from a neighbour prints this one, and nothing
else, unless it would acknowledge it over a route without a link. -/
theorem Awaits.effectsOf_iff {t : Node} {src source : Uid} {rid : Rid} {data : List UInt8}
    (h : t.Awaits src rid) (hnul : 0 ∉ data)
    (hsize : (messagePackage rid source data).size ≤ BUFFER_PROCESS_SIZE) :
    (t.Answers source →
      t.effectsOf src (messagePackage rid source data) =
        some [.message "new msg" (some source) data]) ∧
    (¬ t.Answers source → t.effectsOf src (messagePackage rid source data) = none) := by
  constructor
  · intro hanswers
    obtain ⟨t', hcall⟩ := (h.process_iff hsize).mpr hanswers
    obtain ⟨deeds, hhandles, houtcome⟩ := process_package_outcome hcall
    rw [effectsOf, hcall]
    dsimp only
    rw [hhandles.filter_eq fun e => Event.effect_deed]
    rw [h.deeds_eq hnul hsize houtcome]
    rfl
  · intro hnone
    rw [effectsOf]
    cases hcall : t.process_package (messagePackage rid source data)
      (messagePackage rid source data).size src with
    | error => rfl
    | ok t' => exact absurd ((h.process_iff hsize).mp ⟨t', hcall⟩) hnone

end Node

end concretid.ems
