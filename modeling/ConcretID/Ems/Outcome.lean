import ConcretID.Ems.Handling
import ConcretID.Ems.Relay

open concretid.memory

namespace concretid.ems

/-- What becomes of a package for this node. One that is too short, or refused
from a stranger, comes to nothing; one whose upper bits are known is only
registered; a new one is registered and handled. -/
inductive Course (p : Package) (src : Uid) (e_rid : Nat) (link : Option Slot) :
    List Event → Prop where
  | short (hshort : p.short = true) : Course p src e_rid link []
  | refused (hshort : p.short = false) (hrid : e_rid ≠ 2) (hlink : link = none)
      (hrefused : p.refused = true) : Course p src e_rid link []
  | again (hshort : p.short = false) (hrid : e_rid = 2) :
      Course p src e_rid link [.register_rid p.rid]
  | new {deeds : List Event} (hshort : p.short = false) (hrid : e_rid ≠ 2)
      (hopen : link.isSome = true ∨ p.refused = false) (hdeeds : Deeds p src link deeds) :
      Course p src e_rid link (.register_rid p.rid :: deeds)

/-- What becomes of a package on its way to another node: it is registered, and
passed on with its content when there is a route. The next hop of an
announcement may be any neighbour. -/
inductive Passage (p : Package) (neighbor : Slot → Uid) : List Event → Prop where
  | short (hshort : p.size < sizeof_package + sizeof_intermediate_head) : Passage p neighbor []
  | stuck : Passage p neighbor [.register_rid p.rid]
  | relay {q : Package} (l : Slot) (hcontent : q.content = p.content)
      (hend : p.type ≠ .ANNOUNCEMENT → q.finalDest (neighbor l) = p.head ∧
        (q.intermediate = true → neighbor l ≠ q.head)) :
      Passage p neighbor [.register_rid p.rid, .send_package .process q (neighbor l)]

/-- What becomes of a received package. -/
inductive Outcome (s : Node) (p : Package) (src : Uid) : List Event → Prop where
  | rejected (hreject : s.Rejects p p.size src) : Outcome s p src []
  | relayed {deeds : List Event} (haccept : ¬ s.Rejects p p.size src)
      (hintermediate : p.intermediate = true) (hpassage : Passage p s.transmission.neighbor deeds) :
      Outcome s p src deeds
  | handled {deeds : List Event} {link : Option Slot} (haccept : ¬ s.Rejects p p.size src)
      (hdirect : p.intermediate = false) (hfind : s.transmission.find_neighbor src = .ok link)
      (hcourse : Course p src (s.rids.exists_rid p.rid) link deeds) : Outcome s p src deeds

/-- A deed of an outcome: the id is registered, a package for another node is
passed on, or a new one is handled. -/
inductive OutcomeDeed (s : Node) (p : Package) (src : Uid) : Event → Prop where
  | registered : OutcomeDeed s p src (.register_rid p.rid)
  | relay {q : Package} (l : Slot) (hintermediate : p.intermediate = true)
      (hcontent : q.content = p.content)
      (hend : p.type ≠ .ANNOUNCEMENT → q.finalDest (s.transmission.neighbor l) = p.head ∧
        (q.intermediate = true → s.transmission.neighbor l ≠ q.head)) :
      OutcomeDeed s p src (.send_package .process q (s.transmission.neighbor l))
  | handled {link : Option Slot} {e : Event} (hdirect : p.intermediate = false)
      (hnew : s.rids.exists_rid p.rid = 0) (hdeed : Deed p src link e) : OutcomeDeed s p src e

/-- What is neither rejected nor known by its upper bits is new. -/
theorem exists_rid_eq_zero_of_new {s : Node} {p : Package} {src : Uid}
    (haccept : ¬ s.Rejects p p.size src) (hrid : s.rids.exists_rid p.rid ≠ 2) :
    s.rids.exists_rid p.rid = 0 := by
  have hle := s.rids.exists_rid_le p.rid
  have hne : s.rids.exists_rid p.rid ≠ 1 := fun hseen => haccept (.inr (.inr (.inr hseen)))
  omega

theorem Outcome.mem {s : Node} {p : Package} {src : Uid} {deeds : List Event} {e : Event}
    (h : Outcome s p src deeds) (he : e ∈ deeds) : OutcomeDeed s p src e := by
  cases h with
  | rejected => simp at he
  | relayed haccept hintermediate hpassage =>
    cases hpassage with
    | short => simp at he
    | stuck =>
      rw [List.mem_singleton.mp he]
      exact .registered
    | relay l hcontent hend =>
      obtain rfl | hsend := List.mem_cons.mp he
      · exact .registered
      · rw [List.mem_singleton.mp hsend]
        exact .relay l hintermediate hcontent hend
  | handled haccept hdirect hfind hcourse =>
    cases hcourse with
    | short => simp at he
    | refused => simp at he
    | again =>
      rw [List.mem_singleton.mp he]
      exact .registered
    | new hshort hrid hopen hdeeds =>
      obtain rfl | hdeed := List.mem_cons.mp he
      · exact .registered
      · exact .handled hdirect (exists_rid_eq_zero_of_new haccept hrid) (hdeeds.mem hdeed)

/-- Whatever a package comes to, it is registered first, and only once. -/
theorem Outcome.registers {s : Node} {p : Package} {src : Uid} {deeds : List Event}
    (h : Outcome s p src deeds) :
    deeds = [] ∨ ∃ rest, deeds = .register_rid p.rid :: rest ∧
      rest.filterMap Event.registered? = [] ∧ rest.countP Event.relays ≤ 1 := by
  cases h with
  | rejected => exact .inl rfl
  | relayed haccept hintermediate hpassage =>
    cases hpassage with
    | short => exact .inl rfl
    | stuck => exact .inr ⟨[], rfl, rfl, by decide⟩
    | relay l hcontent hend => exact .inr ⟨_, rfl, rfl, by simp [Event.relays]⟩
  | handled haccept hdirect hfind hcourse =>
    cases hcourse with
    | short => exact .inl rfl
    | refused => exact .inl rfl
    | again => exact .inr ⟨[], rfl, rfl, by decide⟩
    | @new deeds hshort hrid hopen hdeeds =>
      refine .inr ⟨deeds, rfl, ?_, hdeeds.relays_le⟩
      rw [List.filterMap_eq_nil_iff]
      intro e he
      cases hdeeds.mem he <;> rfl

namespace Node

/-- A package from a stranger is refused with a request, or registered. -/
theorem process_stranger_cases {c : Context} {s : Node} {p : Package} (h : s.Holds p)
    (hfits : c.Fits s) (src : Uid) :
    (p.refused = true ∧ (s.process_stranger src).2 = false ∧
      Replies c s (s.process_stranger src).1) ∨
    (p.refused = false ∧ (s.process_stranger src).2 = true ∧
      Handles c s (s.process_stranger src).1 [.register_rid p.rid] ∧
      (s.process_stranger src).1.Holds p ∧ c.Fits (s.process_stranger src).1) := by
  have hregister : Handles c s (s.register_rid s.buffer.rid) [.register_rid p.rid] := by
    rw [h.rid_eq]
    exact .register_rid c s p.rid
  have hkept : (s.register_rid s.buffer.rid).Holds p ∧ c.Fits (s.register_rid s.buffer.rid) :=
    ⟨h, hfits.uid_eq, hfits.neighbor_eq⟩
  have hrequest := Replies.send_neighboor_request_to c s src
  have hholds := h.of_buffer hrequest.buffer_eq
  have hlater : Handles c s
      ((s.send_neighboor_request_to src).register_rid (s.send_neighboor_request_to src).buffer.rid)
      [.register_rid p.rid] := by
    rw [hholds.rid_eq]
    exact (Handles.register_rid c _ p.rid).after_replies hrequest
  have hfits' := hrequest.fits hfits
  have hkept' : ((s.send_neighboor_request_to src).register_rid
        (s.send_neighboor_request_to src).buffer.rid).Holds p ∧
      c.Fits ((s.send_neighboor_request_to src).register_rid
        (s.send_neighboor_request_to src).buffer.rid) :=
    ⟨hholds, hfits'.uid_eq, hfits'.neighbor_eq⟩
  have hflag := hholds.flag_eq PACKAGE_ACKLY
  unfold Node.process_stranger Package.refused
  rw [h.type_eq]
  cases p.type <;> dsimp only
  -- the types that are registered, refused, and refused when they want an answer
  case MSG_TO | BROADCAST_MSG | NEIGHBOR_REQUEST | ECHO | REECHO | BROADCAST_ACK =>
    exact .inr ⟨rfl, rfl, hregister, hkept⟩
  case NAME_REQUEST | UID_REQUEST | ANNOUNCEMENT => exact .inl ⟨rfl, rfl, hrequest⟩
  all_goals
    rw [hflag]
    cases hasFlag p.flags PACKAGE_ACKLY with
    | true => exact .inl ⟨rfl, rfl, hrequest⟩
    | false => exact .inr ⟨rfl, rfl, hlater, hkept'⟩

/-- A package for this node takes its course. -/
theorem process_direct_course {s s' : Node} {p : Package} {src : Uid} {e_rid : Nat}
    {link : Option Slot} (h : s.Holds p)
    (hcall : s.process_direct p.size src e_rid link = .ok s') :
    ∃ deeds, Handles (s.context (· = src) (fun r => r = p.rid ∧ deeds ≠ [])) s s' deeds ∧
      Course p src e_rid link deeds := by
  have hlength : p.size - sizeof_package = p.data.length := by simp [Package.size]
  have hregister : ∀ c, Handles c s (s.register_rid s.buffer.rid) [.register_rid p.rid] := by
    intro c
    rw [h.rid_eq]
    exact .register_rid c s p.rid
  have hkept : (s.register_rid s.buffer.rid).Holds p := h
  have hfits : ∀ answers acks, (s.context answers acks).Fits (s.register_rid s.buffer.rid) :=
    fun _ _ => ⟨rfl, rfl⟩
  have hwhether : (s.flag PACKAGE_IDENTIFIED = true ∧ p.data.length < sizeof_identified_head) ↔
      p.short = true := by
    rw [h.flag_eq, Package.short, Bool.and_eq_true, decide_eq_true_iff]
    rfl
  unfold Node.process_direct at hcall
  simp only [hlength, hwhether] at hcall
  split at hcall
  · rename_i hshort
    obtain rfl := Except.ok.inj hcall
    exact ⟨[], .silent (.refl s), .short hshort⟩
  · rename_i hshort
    rw [Bool.not_eq_true] at hshort
    rw [h.offset_eq] at hcall
    split at hcall
    · rename_i hagain
      refine ⟨_, (hregister _).then_replies (.ackIfAckly (hfits _ _) ?_ hcall), .again hshort hagain⟩
      exact ⟨hkept.rid_eq, by simp⟩
    · rename_i hnew
      split at hcall
      · -- a neighbour's package
        rename_i hneighbor
        obtain ⟨deeds, hhandles, hdeeds⟩ := process_type_deeds
          (c := s.context (· = src) (· = p.rid)) hkept hshort (hfits _ _) rfl rfl hcall
        have hall := (hregister _).trans hhandles
        refine ⟨_, hall.context_mono ?_, .new hshort hnew (.inl hneighbor) hdeeds⟩
        exact fun r hr => ⟨hr, by simp⟩
      · rename_i hstranger
        rcases process_stranger_cases (c := s.context (· = src) (· = p.rid)) h ⟨rfl, rfl⟩ src with
          ⟨hrefused, hstop, _⟩ | ⟨hrefused, hgo, hstart, hholds, hfits'⟩
        · rw [hstop] at hcall
          obtain rfl := Except.ok.inj hcall
          have hlink : link = none := by simpa using hstranger
          have hrequest := process_stranger_cases
            (c := s.context (· = src) (fun r => r = p.rid ∧ ([] : List Event) ≠ [])) h ⟨rfl, rfl⟩ src
          obtain ⟨_, _, hreplies⟩ | ⟨hopen, _⟩ := hrequest
          · exact ⟨[], .of_replies hreplies, .refused hshort hnew hlink hrefused⟩
          · rw [hrefused] at hopen
            cases hopen
        · rw [hgo, if_pos rfl] at hcall
          obtain ⟨deeds, hhandles, hdeeds⟩ := process_type_deeds hholds hshort hfits' rfl rfl hcall
          have hall := hstart.trans hhandles
          refine ⟨_, hall.context_mono ?_, .new hshort hnew (.inr hrefused) hdeeds⟩
          exact fun r hr => ⟨hr, by simp⟩

/-- Sending on a package that has an intermediate head: it keeps its content,
and goes bare to the end of the route and with its head to anyone else. -/
theorem relays_on {c : Context} {s s' : Node} {p : Package} {uidt : Option Entry} (h : s.Holds p)
    (hinter : p.intermediate = true) (hmin : sizeof_package + sizeof_intermediate_head ≤ p.size)
    (hmax : p.size ≤ BUFFER_PROCESS_SIZE)
    (hcall : (s.send_package_by_table .process p.size uidt >>= fun result => .ok result.1) = .ok s') :
    ∃ e l q, uidt = some e ∧
      Handles c s s' [.send_package .process q (s.transmission.neighbor l)] ∧
      q.content = p.content ∧
      ((s.transmission.uid_table e).uid = p.head →
        q.finalDest (s.transmission.neighbor l) = p.head ∧
          (q.intermediate = true → s.transmission.neighbor l ≠ q.head)) := by
  obtain ⟨⟨s₁, size'⟩, hsend, hdone⟩ := bind_eq_ok_iff.mp hcall
  obtain rfl := Except.ok.inj hdone
  obtain ⟨e, l, value, order, he, _, hwrap, rfl⟩ := send_package_by_table_cases hsend
  have hflag : hasFlag (s.packageBuffer .process).flags PACKAGE_INTERMEDIATE = true := by
    rw [packageBuffer, h.flags_eq]
    exact hinter
  have hsized : s.buffer.Sized p.size := ⟨by omega, fun _ => hmin⟩
  have hbound : p.size + sizeof_intermediate_head < 2 ^ 16 := by
    simp only [BUFFER_PROCESS_SIZE, sizeof_intermediate_head] at *
    omega
  have hhead : uidAt (s.packageBuffer .process).data 0 = p.head := by
    rw [← PackageBuffer.head_eq hmin]
    exact congrArg Package.head h
  obtain ⟨hcontent, hsized', hflag', hhead', _⟩ := wrapFor_content hwrap hsized hbound
  refine ⟨e, l, value.package size', he, .one ⟨rfl, rfl, rfl, rfl, .refl, ?_⟩ rfl, ?_, ?_⟩
  · intro i
    exact .refl
  · rw [hcontent]
    exact congrArg Package.content h
  · intro huid
    have hreached : hasFlag value.flags PACKAGE_INTERMEDIATE = true →
        (value.package size').head = p.head ∧ s.transmission.neighbor l ≠ p.head := by
      intro hset
      rw [hset, huid] at hflag'
      have hdirect : (p.head == s.transmission.neighbor l) = false := by simpa using hflag'.symm
      refine ⟨?_, ?_⟩
      · rw [PackageBuffer.head_eq (hsized'.2 hset), hhead' (by rwa [huid]), if_pos hflag, hhead]
      · rintro hsame
        simp [hsame] at hdirect
    refine ⟨?_, ?_⟩
    · unfold Package.finalDest
      split
      · rename_i hset
        exact (hreached hset).1
      · rename_i hset
        rw [PackageBuffer.package_intermediate] at hset
        have hdirect : (p.head == s.transmission.neighbor l) = true := by
          simpa [hset, huid] using hflag'
        exact (beq_iff_eq.mp hdirect).symm
    · intro hset
      rw [(hreached hset).1]
      exact (hreached hset).2

/-- A package on its way to another node takes its passage. -/
theorem process_intermediate_passage {c : Context} {s s' : Node} {p : Package} (h : s.Holds p)
    (hinter : p.intermediate = true) (hmax : p.size ≤ BUFFER_PROCESS_SIZE)
    (hcall : s.process_intermediate p.size = .ok s') :
    ∃ deeds, Handles c s s' deeds ∧ Passage p s.transmission.neighbor deeds := by
  by_cases hmin : sizeof_package + sizeof_intermediate_head ≤ p.size
  · obtain ⟨hnone, hsome⟩ := process_intermediate_eq (s := s) hmin
    have hregister : Handles c s (s.register_rid s.buffer.rid) [.register_rid p.rid] := by
      rw [h.rid_eq]
      exact .register_rid c s p.rid
    have hhead : uidAt s.buffer.data 0 = p.head := by
      rw [← PackageBuffer.head_eq hmin]
      exact congrArg Package.head h
    cases hfind : s.transmission.find_table_by_uid (uidAt s.buffer.data 0) with
    | none =>
      rw [hnone hfind] at hcall
      obtain rfl := Except.ok.inj hcall
      exact ⟨_, hregister, .stuck⟩
    | some e =>
      obtain ⟨hplain, hannounce⟩ := hsome e hfind
      by_cases hkind : s.Announces
      · rw [hannounce hkind] at hcall
        have hpromoted : Handles c (s.register_rid s.buffer.rid)
            ((s.register_rid s.buffer.rid).setTransmission (s.transmission.promoteBoth e
              (uidAt s.buffer.data sizeof_intermediate_head))) [] := by
          refine .silent ⟨by simp, rfl, rfl, rfl, ?_, fun i => .refl⟩
          have hsame : (s.transmission.promoteBoth e (uidAt s.buffer.data
              sizeof_intermediate_head)).neighborhood = s.transmission.neighborhood := by
            unfold Transmission.promoteBoth
            split <;> rfl
          rw [setTransmission_transmission, hsame]
          exact .refl
        have hholds : ((s.register_rid s.buffer.rid).setTransmission (s.transmission.promoteBoth e
            (uidAt s.buffer.data sizeof_intermediate_head))).Holds p := h
        obtain ⟨e', l, q, _, hsend, hcontent, _⟩ :=
          relays_on (c := c) hholds hinter hmin hmax hcall
        rw [setTransmission_transmission, Transmission.promoteBoth_neighbor] at hsend
        refine ⟨_, (hregister.trans hpromoted).trans hsend, .relay l hcontent ?_⟩
        intro hother
        exact absurd (h.type_eq ▸ hkind.1) hother
      · rw [hplain hkind] at hcall
        have hholds : (s.register_rid s.buffer.rid).Holds p := h
        obtain ⟨e', l, q, he, hsend, hcontent, hend⟩ :=
          relays_on (c := c) hholds hinter hmin hmax hcall
        obtain rfl := Option.some.inj he
        have huid := find_table_by_uid_eq hfind
        rw [hhead] at huid
        exact ⟨_, hregister.trans hsend, .relay l hcontent fun _ => hend huid⟩
  · unfold Node.process_intermediate at hcall
    rw [if_pos (by omega)] at hcall
    obtain rfl := Except.ok.inj hcall
    exact ⟨[], .silent (.refl s), .short (by omega)⟩

/-- A call of `process_package` shows as the call itself and the deeds of its
outcome. Only what is meant for this node is acknowledged. -/
theorem process_package_outcome {s s' : Node} {p : Package} {src : Uid}
    (hcall : s.process_package p p.size src = .ok s') :
    ∃ deeds, Handles (s.context (· = src)
        (fun r => r = p.rid ∧ p.intermediate = false ∧ deeds ≠ [])) s s'
        (.process_package p src :: deeds) ∧ Outcome s p src deeds := by
  have hcalled : ∀ c, Handles c s (s.emit (.process_package p src)) [.process_package p src] :=
    fun c => .one (Quiet.emit s rfl rfl fun _ => rfl).acts rfl
  have haccepted : ∀ c, Handles c s (s.accept p p.size src) [.process_package p src] :=
    fun c => .one ⟨rfl, rfl, rfl, rfl, .refl, fun i => .refl⟩ rfl
  have hholds : (s.accept p p.size src).Holds p := accept_package s p src
  obtain ⟨hreject, rfl⟩ | ⟨haccept, link, hfind, hbranch⟩ := process_package_cases hcall
  · exact ⟨[], hcalled _, .rejected hreject⟩
  · obtain ⟨hinter, hcall'⟩ | ⟨hdirect, hcall'⟩ := hbranch
    · have hmax : p.size ≤ BUFFER_PROCESS_SIZE := by
        by_contra hlong
        exact haccept (.inr (.inl (by omega)))
      obtain ⟨deeds, hhandles, hpassage⟩ := process_intermediate_passage
        (c := s.context (· = src) (fun _ => False)) hholds hinter hmax hcall'
      have hall := (haccepted _).trans hhandles
      exact ⟨deeds, hall.context_mono (fun _ hr => hr.elim), .relayed haccept hinter hpassage⟩
    · obtain ⟨deeds, hhandles, hcourse⟩ := process_direct_course hholds hcall'
      have hall : Handles (s.context (· = src) (fun r => r = p.rid ∧ deeds ≠ [])) s s' _ :=
        (haccepted _).trans hhandles
      refine ⟨deeds, hall.context_mono (fun r hr => ?_), .handled haccept hdirect hfind hcourse⟩
      exact ⟨hr.1, hdirect, hr.2⟩

end Node

end concretid.ems
