import ConcretID.Ems.Reliability

open concretid.memory concretid.network

namespace concretid.ems

/-- The name an entry has for its uid. -/
def UidTableEntry.text (entry : UidTableEntry) : List UInt8 := cstring entry.name.toList

theorem cstring_replicate (n : Nat) : cstring (List.replicate n 0) = [] := by
  cases n with
  | zero => rfl
  | succ n => rfl

theorem cstring_append {text : List UInt8} (h : ∀ b ∈ text, b ≠ 0) (rest : List UInt8) :
    cstring (text ++ rest) = text ++ cstring rest := by
  rw [cstring, List.takeWhile_append_of_pos]
  · rfl
  · intro b hb
    simpa using h b hb

theorem cstring_ne_zero {text : List UInt8} {b : UInt8} (hb : b ∈ cstring text) : b ≠ 0 := by
  have hkept := List.all_eq_true.mp (List.all_takeWhile (p := fun b : UInt8 => decide (b ≠ 0))) b hb
  simpa using hkept

theorem cstring_cstring (text : List UInt8) : cstring (cstring text) = cstring text := by
  have hplain := cstring_append (fun b (hb : b ∈ cstring text) => cstring_ne_zero hb) []
  rw [List.append_nil] at hplain
  rw [hplain]
  exact List.append_nil _

/-- What `strncpy` writes is the text as far as it fits. -/
theorem cstring_strncpy (text : List UInt8) (n : Nat) : cstring (strncpy text n) = (cstring text).take n := by
  have hplain : ∀ b ∈ (cstring text).take n, b ≠ 0 := fun b hb => cstring_ne_zero (List.mem_of_mem_take hb)
  rw [strncpy, cstring_append hplain, cstring_replicate, List.append_nil]

/-- The text of a name survives being packed into an announcement. -/
theorem cstring_announced (name : Name) : (cstring (strncpy name.toList NAME_SIZE)).take NAME_SIZE =
    cstring name.toList := by
  have hlength : (cstring name.toList).length ≤ NAME_SIZE := by
    have hname : name.toList.length = NAME_SIZE := name.2
    exact Nat.le_trans (List.takeWhile_prefix _).length_le (Nat.le_of_eq hname)
  rw [cstring_strncpy, List.take_take, Nat.min_self, List.take_of_length_le hlength]

theorem cstring_cleared (name : Name) : cstring (name.set 0 0).toList = [] := by
  have hlength : name.toList.length = NAME_SIZE := name.2
  rw [List.Vector.toList_set]
  generalize name.toList = bytes at hlength
  cases bytes with
  | nil => cases hlength
  | cons b rest => rfl

/-- The package announces a name as that of a uid. -/
def Package.Announces (p : Package) (uid : Uid) (name : Name) : Prop :=
  p.content.data = uid.toList ++ strncpy name.toList NAME_SIZE

/-- The text a node that the package has come to takes for the name of a uid. -/
structure Package.Teaches (p : Package) (uid : Uid) (text : List UInt8) : Prop where
  type_eq : p.type = .ANNOUNCEMENT
  direct : p.intermediate = false
  source_eq : p.source = some uid
  text_eq : text = (cstring p.body).take NAME_SIZE

/-- What a node tells of its own name and keeps of the others' from one state to another:
every announcement it sends is one of `tells`, and an entry of its table that has a name
has kept it with its uid or is one of `learns`. -/
structure Node.Names (tells : Package → Prop) (learns : Uid → List UInt8 → Prop) (s s' : Node) : Prop where
  told : ∀ p dest, .send_package .messages p dest ∈ s'.trace → p.type = .ANNOUNCEMENT →
    .send_package .messages p dest ∈ s.trace ∨ tells p
  kept : ∀ e, (s'.transmission.uid_table e).text = [] ∨
    ((s'.transmission.uid_table e).uid = (s.transmission.uid_table e).uid ∧
      (s'.transmission.uid_table e).text = (s.transmission.uid_table e).text) ∨
    learns (s'.transmission.uid_table e).uid (s'.transmission.uid_table e).text

namespace Node

variable {tells : Package → Prop} {learns : Uid → List UInt8 → Prop}

/-! ## Steps that tell and learn nothing -/

theorem Names.trans {s s' s'' : Node} (h : Names tells learns s s') (h' : Names tells learns s' s'') :
    Names tells learns s s'' := by
  refine ⟨fun p dest hmem htype => ?_, fun e => ?_⟩
  · obtain hold | hsays := h'.told p dest hmem htype
    · exact h.told p dest hold htype
    · exact .inr hsays
  · obtain hnone | ⟨huid, htext⟩ | hlearns := h'.kept e
    · exact .inl hnone
    · rw [huid, htext]
      exact h.kept e
    · exact .inr (.inr hlearns)

/-- The table keeps its uids and names, and what is sent is no announcement. -/
theorem Names.of_trace {s s' : Node} (new : List Event) (htrace : s'.trace = s.trace ++ new)
    (hnew : ∀ p dest, .send_package .messages p dest ∈ new → p.type = .ANNOUNCEMENT → tells p)
    (htable : ∀ e, (s'.transmission.uid_table e).uid = (s.transmission.uid_table e).uid ∧
      (s'.transmission.uid_table e).name = (s.transmission.uid_table e).name) :
    Names tells learns s s' := by
  refine ⟨fun p dest hmem htype => ?_, fun e => .inr (.inl ⟨(htable e).1, ?_⟩)⟩
  · rw [htrace] at hmem
    obtain hold | hsent := List.mem_append.mp hmem
    · exact .inl hold
    · exact .inr (hnew p dest hsent htype)
  · rw [UidTableEntry.text, UidTableEntry.text, (htable e).2]

theorem Names.refl (s : Node) : Names tells learns s s :=
  .of_trace [] (List.append_nil _).symm (by simp) fun _ => ⟨rfl, rfl⟩

/-- Nothing is sent, and the table stays. -/
theorem Names.quiet {s s' : Node} (new : List Event) (htrace : s'.trace = s.trace ++ new)
    (hnew : ∀ p dest, .send_package .messages p dest ∉ new)
    (htable : s'.transmission.uid_table = s.transmission.uid_table) : Names tells learns s s' :=
  .of_trace new htrace (fun p dest hmem => absurd hmem (hnew p dest)) fun e => by simp [htable]

theorem Names.emit (s : Node) {e : Event} (he : ∀ p dest, e ≠ .send_package .messages p dest) :
    Names tells learns s (s.emit e) :=
  .quiet [e] rfl (fun p dest hmem => he p dest (List.mem_singleton.mp hmem).symm) rfl

theorem Names.make_package_head (s : Node) (b : Buffer) (flags : UInt8) (type : PackageType) :
    Names tells learns s (s.make_package_head b flags type) :=
  .quiet [.make_package_head b s.nextRid] (by simp) (by simp) (by simp)

theorem Names.writeData (s : Node) (b : Buffer) (offset : Nat) (bytes : List UInt8) :
    Names tells learns s (s.writeData b offset bytes) :=
  .quiet [] (by simp [Node.writeData]) (by simp) (by simp [Node.writeData])

theorem Names.setSendout (s : Node) (i : Fin SENDOUT_QTY) (slot : Sendout) :
    Names tells learns s (s.setSendout i slot) :=
  .quiet [] (List.append_nil _).symm (by simp) rfl

theorem Names.register_rid (s : Node) (rid : Rid) : Names tells learns s (s.register_rid rid) :=
  .quiet [.register_rid rid] rfl (by simp) rfl

theorem Names.promote_uid_table {s s' : Node} {uidt : Option Entry}
    (h : s.promote_uid_table uidt = .ok s') : Names tells learns s s' := by
  cases uidt with
  | none => cases h
  | some e =>
    obtain rfl := Except.ok.inj h
    exact .quiet [] (by simp) (by simp) rfl

/-- Sending what is no announcement. -/
theorem Names.send_package (s : Node) (b : Buffer) (size : Nat) (dest : Uid)
    (htype : b = .messages → typeOf (s.packageBuffer b).flags ≠ .ANNOUNCEMENT) :
    Names tells learns s (s.send_package b size dest) := by
  refine .of_trace [.send_package b ((s.packageBuffer b).package size) dest] rfl ?_ fun _ => ⟨rfl, rfl⟩
  intro p d hmem hp
  obtain ⟨rfl, rfl, rfl⟩ := Event.send_package.inj (List.mem_singleton.mp hmem)
  exact absurd hp (htype rfl)

theorem Names.send_package_by_table {s s' : Node} {b : Buffer} {size size' : Nat} {uidt : Option Entry}
    (h : s.send_package_by_table b size uidt = .ok (s', size'))
    (htype : b = .messages → typeOf (s.packageBuffer b).flags ≠ .ANNOUNCEMENT) :
    Names tells learns s s' := by
  obtain ⟨e, l, value, order, _, _, hwrap, rfl⟩ := send_package_by_table_cases h
  refine .of_trace [.send_package b (value.package size') (s.transmission.neighbor l)] (by simp) ?_
    fun _ => by simp
  intro p d hmem hp
  obtain ⟨rfl, rfl, rfl⟩ := Event.send_package.inj (List.mem_singleton.mp hmem)
  rw [Package.type, PackageBuffer.package_flags, wrapFor_type hwrap] at hp
  exact absurd hp (htype rfl)

/-- A package built in `messages_buffer` is of the type it was built with. -/
theorem built_type (s : Node) (flags : UInt8) (type : PackageType) (offset : Nat) (bytes : List UInt8) :
    typeOf (((s.make_package_head .messages flags type).writeData .messages offset bytes).packageBuffer
      .messages).flags = typeOf (flags ||| type.code) := by
  simp [Node.writeData]

/-- Building a package and sending it. -/
theorem Names.letter (s : Node) (flags : UInt8) (type : PackageType) (offset : Nat) (bytes : List UInt8)
    (size : Nat) (dest : Uid) (htype : typeOf (flags ||| type.code) ≠ .ANNOUNCEMENT) :
    Names tells learns s (((s.make_package_head .messages flags type).writeData .messages offset
      bytes).send_package .messages size dest) := by
  refine ((Names.make_package_head s _ _ _).trans (.writeData _ _ _ _)).trans (.send_package _ _ _ _ ?_)
  intro _
  rwa [built_type]

theorem Names.note (s : Node) (type : PackageType) (size : Nat) (dest : Uid)
    (htype : typeOf (0 ||| type.code) ≠ .ANNOUNCEMENT) :
    Names tells learns s ((s.make_package_head .messages 0 type).send_package .messages size dest) := by
  refine (Names.make_package_head s _ _ _).trans (.send_package _ _ _ _ ?_)
  intro _
  simpa using htype

theorem Names.send_ack {s s' : Node} {pkg : PackageBuffer} (h : s.send_ack pkg = .ok s') :
    Names tells learns s s' := by
  unfold Node.send_ack at h
  split at h
  · split at h
    · obtain ⟨⟨s₁, size'⟩, hsend, hdone⟩ := bind_eq_ok_iff.mp h
      obtain rfl := Except.ok.inj hdone
      refine ((Names.make_package_head s _ _ _).trans (.writeData _ _ _ _)).trans
        (.send_package_by_table hsend fun _ => ?_)
      rw [built_type]
      decide
    · obtain rfl := Except.ok.inj h
      exact .refl s
  · obtain rfl := Except.ok.inj h
    exact .letter s _ _ _ _ _ _ (by decide)

theorem Names.ackIfAckly {s s' : Node} (h : s.ackIfAckly = .ok s') : Names tells learns s s' := by
  unfold Node.ackIfAckly at h
  split at h
  · exact .send_ack h
  · obtain rfl := Except.ok.inj h
    exact .refl s

theorem Names.send_name_request (s : Node) (name : List UInt8) :
    Names tells learns s (s.send_name_request name) :=
  .letter s _ _ _ _ _ _ (by decide)

theorem Names.send_uid_request (s : Node) (uid : Uid) : Names tells learns s (s.send_uid_request uid) :=
  .letter s _ _ _ _ _ _ (by decide)

theorem Names.discovery_neighborhood (s : Node) (depth : UInt8) :
    Names tells learns s (s.discovery_neighborhood depth) :=
  .letter s _ _ _ _ _ _ (by decide)

theorem Names.send_neighboor_request_to (s : Node) (uid : Uid) :
    Names tells learns s (s.send_neighboor_request_to uid) :=
  .note s _ _ _ (by decide)

theorem Names.send_broadcast_msg {s s' : Node} {msg : List UInt8} (h : s.send_broadcast_msg msg = .ok s') :
    Names tells learns s s' := by
  unfold Node.send_broadcast_msg at h
  dsimp only at h
  split at h
  · cases h
  · obtain rfl := Except.ok.inj h
    exact .letter s _ _ _ _ _ _ (by decide)

/-- Steps over a list of things. -/
theorem Names.foldl {α : Type} {f : Node → α → Node} (hf : ∀ s a, Names tells learns s (f s a)) (s : Node)
    (list : List α) : Names tells learns s (list.foldl f s) := by
  induction list generalizing s with
  | nil => exact .refl s
  | cons a list ih => exact (hf s a).trans (ih (f s a))

/-! ## The slots -/

theorem Names.sendSlot {s s' : Node} {i : Fin SENDOUT_QTY} {uidt : Entry} (h : s.sendSlot i uidt = .ok s') :
    Names tells learns s s' := by
  obtain ⟨⟨s₁, size⟩, hsend, hdone⟩ := bind_eq_ok_iff.mp h
  obtain rfl := Except.ok.inj hdone
  exact (Names.send_package_by_table hsend nofun).trans (.setSendout _ _ _)

theorem Names.solveSlot {s s' : Node} {i : Fin SENDOUT_QTY} {uidt : Entry} (h : s.solveSlot i uidt = .ok s') :
    Names tells learns s s' :=
  (Names.setSendout s i _).trans (.sendSlot h)

theorem Names.check_send_out_slot {s s' : Node} {i : Fin SENDOUT_QTY} (h : s.check_send_out_slot i = .ok s') :
    Names tells learns s s' := by
  unfold Node.check_send_out_slot at h
  dsimp only at h
  split at h
  · split at h
    · exact .solveSlot h
    · split at h
      · cases h
      · split at h
        · obtain rfl := Except.ok.inj h
          exact (Names.setSendout s i _).trans (.send_name_request _ _)
        · obtain rfl := Except.ok.inj h
          exact .setSendout s i _
  · split at h
    · split at h
      · cases h
      · split at h
        · split at h
          · have hset : ∀ (s : Node) value, Names tells learns s (s.setPackageBuffer (.sendout i) value) :=
              fun s value => .quiet [] (by simp) (by simp) (by simp)
            exact ((Names.setSendout s i _).trans (hset _ _)).trans (.sendSlot h)
          · obtain rfl := Except.ok.inj h
            exact (Names.setSendout s i _).trans (.send_uid_request _ _)
        · obtain rfl := Except.ok.inj h
          exact .setSendout s i _
    · obtain rfl := Except.ok.inj h
      exact .refl s

theorem Names.check_send_out {s s' : Node} (h : s.check_send_out = .ok s') : Names tells learns s s' := by
  obtain ⟨s₁, hfirst, hsecond⟩ := bind_eq_ok_iff.mp h
  exact ((Names.emit s (by simp)).trans (.check_send_out_slot hfirst)).trans (.check_send_out_slot hsecond)

theorem Names.filled (s : Node) (i : Fin SENDOUT_QTY) (size : Nat) (type : PackageType) (data : List UInt8) :
    Names tells learns s (s.filled i size type data) :=
  ((Names.setSendout s i _).trans (.make_package_head _ _ _ _)).trans (.writeData _ _ _ _)

theorem Names.send_out_by_name {s s' : Node} {name data : List UInt8} {type : PackageType} {accepted : Bool}
    (h : s.send_out_by_name name data type = .ok (s', accepted)) : Names tells learns s s' := by
  cases send_out_by_name_offered h with
  | full => exact .refl s
  | refuse hslot size => exact .setSendout s _ _
  | solve hslot hsize hroom hsolve => exact (Names.filled s _ _ _ _).trans (.solveSlot hsolve)
  | wait hslot hsize hroom hbuilt =>
    subst hbuilt
    exact ((Names.filled s _ _ _ _).trans (.setSendout _ _ _)).trans (.send_name_request _ _)

/-! ## Commands and ticks -/

theorem Names.print (s : Node) (line : List Out) : Names tells learns s (s.emit (.print line)) :=
  .emit s (by simp)

theorem Names.cmd_send_out {s s' : Node} {type : PackageType} {arg : List UInt8}
    (h : s.cmd_send_out type arg = .ok s') : Names tells learns s s' := by
  unfold Node.cmd_send_out at h
  split at h
  · obtain rfl := Except.ok.inj h
    exact .refl s
  · dsimp only at h
    split at h
    · obtain rfl := Except.ok.inj h
      exact .refl s
    · obtain ⟨⟨s₁, accepted⟩, hsend, hdone⟩ := bind_eq_ok_iff.mp h
      obtain rfl := Except.ok.inj hdone
      exact .send_out_by_name hsend

theorem Names.cmd_set (s : Node) (arg : List UInt8) : Names tells learns s (s.cmd_set arg) := by
  have hset : (s.cmd_set arg).trace = s.trace ∧
      (s.cmd_set arg).transmission.uid_table = s.transmission.uid_table := by
    unfold Node.cmd_set
    split
    · exact ⟨rfl, rfl⟩
    · split
      · exact ⟨rfl, rfl⟩
      · split
        · exact ⟨rfl, rfl⟩
        · split
          · split <;> exact ⟨rfl, rfl⟩
          · exact ⟨rfl, rfl⟩
  exact .quiet [] (by rw [hset.1, List.append_nil]) (by simp) hset.2

theorem Names.cmd_get (s : Node) (arg : List UInt8) : Names tells learns s (s.cmd_get arg) := by
  unfold Node.cmd_get
  split
  · exact .refl s
  · split
    · exact .print s _
    · split
      · exact .print s _
      · split
        · exact .print s _
        · exact .refl s

theorem Names.cmd_list (s : Node) (arg : List UInt8) : Names tells learns s (s.cmd_list arg) := by
  unfold Node.cmd_list
  split
  · exact .refl s
  · split
    · exact .foldl (fun s e => .print s _) s _
    · split
      · refine .foldl (fun s i => ?_) s _
        split
        · exact .print s _
        · exact .refl s
      · exact .refl s

/-- No command tells or learns a name. -/
theorem Names.execute_cmd {s s' : Node} {cmd : List UInt8} (h : s.execute_cmd cmd = .ok s') :
    Names tells learns s s' := by
  have hprint : Names tells learns s ((s.emit (.execute_cmd cmd)).emit (.print [.bytes cmd])) :=
    (Names.emit s (by simp)).trans (.print _ _)
  apply hprint.trans
  unfold Node.execute_cmd at h
  dsimp only at h
  generalize (s.emit (.execute_cmd cmd)).emit (.print [.bytes cmd]) = s₁ at h ⊢
  split at h
  · obtain rfl := Except.ok.inj h
    unfold Node.cmd_echo
    split
    · exact .print s₁ _
    · exact .refl s₁
  split at h
  · exact .cmd_send_out h
  split at h
  · exact .cmd_send_out h
  split at h
  · obtain rfl := Except.ok.inj h
    exact .cmd_set s₁ _
  split at h
  · obtain rfl := Except.ok.inj h
    exact .cmd_get s₁ _
  split at h
  · obtain rfl := Except.ok.inj h
    exact .cmd_list s₁ _
  split at h
  · obtain rfl := Except.ok.inj h
    unfold Node.cmd_block
    split
    · exact .refl s₁
    · exact .quiet [] (List.append_nil _).symm (by simp) rfl
  split at h
  · obtain rfl := Except.ok.inj h
    unfold Node.cmd_discovery
    split
    · exact .refl s₁
    · exact .discovery_neighborhood s₁ _
  · obtain rfl := Except.ok.inj h
    exact .refl s₁

theorem Names.setTime (s : Node) (time : Slot → UInt8) : Names tells learns s (s.setTime time) :=
  .quiet [] (List.append_nil _).symm (by simp) rfl

theorem Names.check_transmission (s : Node) : Names tells learns s s.check_transmission := by
  have hslots : Names tells learns s ((List.finRange NEIGHBORHOOD_SIZE).foldl check_transmission_slot
      (s.emit .check_transmission)) := by
    refine (Names.emit s (by simp)).trans (.foldl (fun s i => ?_) _ _)
    obtain haged | hasked := check_transmission_slot_cases s i
    · rw [haged]
      exact .setTime s _
    · rw [hasked]
      exact (Names.setTime s _).trans (.send_neighboor_request_to _ _)
  have hcount : ∀ (s : Node) count, Names tells learns s { s with count } :=
    fun s count => .quiet [] (List.append_nil _).symm (by simp) rfl
  apply hslots.trans
  unfold Node.check_transmission
  generalize (List.finRange NEIGHBORHOOD_SIZE).foldl check_transmission_slot
    (s.emit .check_transmission) = s₁
  dsimp only
  split
  · exact (hcount s₁ _).trans (.send_neighboor_request_to _ broadcast_uid)
  · exact hcount s₁ _

/-- A node tells and learns no name of its own accord. -/
theorem Names.call {s s' : Node} {call : Call} (h : call.run s = .ok s') : Names tells learns s s' := by
  cases call with
  | check_send_out => exact .check_send_out h
  | check_transmission =>
    obtain rfl := Except.ok.inj h
    exact .check_transmission s
  | execute_cmd cmd => exact .execute_cmd h
  | send_broadcast_msg msg => exact .send_broadcast_msg h
  | send_name_request name =>
    obtain rfl := Except.ok.inj h
    exact .send_name_request s name
  | send_uid_request uid =>
    obtain rfl := Except.ok.inj h
    exact .send_uid_request s uid
  | discovery_neighborhood depth =>
    obtain rfl := Except.ok.inj h
    exact .discovery_neighborhood s depth
  | send_out_by_name name data type hkind =>
    obtain ⟨⟨s₁, accepted⟩, hsend, hdone⟩ := bind_eq_ok_iff.mp h
    obtain rfl := Except.ok.inj hdone
    exact .send_out_by_name hsend

/-! ## Receiving -/

/-- The node's own address and name. -/
def Called (s : Node) (uid : Uid) (name : Name) : Prop := s.my_uid = uid ∧ s.me.name = name

variable {uid : Uid} {own : Name}

theorem Called.of_eq {s s' : Node} (h : s.Called uid own) (huid : s'.my_uid = s.my_uid) (hme : s'.me = s.me) :
    s'.Called uid own :=
  ⟨huid.trans h.1, by rw [hme, h.2]⟩

theorem Called.promote_uid_table {s s' : Node} {uidt : Option Entry} (h : s.Called uid own)
    (hcall : s.promote_uid_table uidt = .ok s') : s'.Called uid own := by
  cases uidt with
  | none => cases hcall
  | some e =>
    obtain rfl := Except.ok.inj hcall
    exact h.of_eq rfl rfl

theorem register_neighbor_table {t t' : Transmission} {uid : Uid} (h : t.register_neighbor uid = .ok t')
    (e : Entry) : (t'.uid_table e).uid = (t.uid_table e).uid ∧ (t'.uid_table e).name = (t.uid_table e).name := by
  have hoccupy : ∀ (r : Transmission) (ret : Slot), (r.occupy ret uid).uid_table = r.uid_table := by
    intro r ret
    simp only [Transmission.occupy]
    split <;> rfl
  obtain ⟨loc, _, rfl⟩ | ⟨_, rfl⟩ := Transmission.register_neighbor_cases h
  · exact ⟨rfl, rfl⟩
  · unfold Transmission.new_neighbor
    split
    · rw [hoccupy]
      exact ⟨rfl, rfl⟩
    · have hunlink : (t.unlink t.oldest).uid_table = t.uid_table := by
        simp only [Transmission.unlink]
        split <;> split <;> rfl
      rw [hoccupy]
      simp only [Transmission.Del_neighbor, Transmission.release, Transmission.Correct_table_order,
        Transmission.unroute, hunlink]
      split <;> exact ⟨rfl, rfl⟩

theorem Names.register_neighbor {s s' : Node} {src : Uid} (h : s.register_neighbor src = .ok s') :
    Names tells learns s s' := by
  obtain ⟨t, hregister, hdone⟩ := bind_eq_ok_iff.mp h
  obtain rfl := Except.ok.inj hdone
  exact .of_trace [.register_neighbor src] rfl (by simp) (register_neighbor_table hregister)

theorem Names.acknowledge (s : Node) (rid : Rid) : Names tells learns s (s.acknowledge rid).1 := by
  unfold Node.acknowledge
  split
  · exact .quiet [.acknowledge _ rid] rfl (by simp) rfl
  · exact .refl s

theorem Names.send_echo_to (s : Node) (dest : Uid) : Names tells learns s (s.send_echo_to dest) :=
  .note s _ _ _ (by decide)

theorem Names.send_reecho_to (s : Node) (dest : Uid) : Names tells learns s (s.send_reecho_to dest) :=
  .note s _ _ _ (by decide)

theorem Names.writeProcess (s : Node) (offset : Nat) (bytes : List UInt8) :
    Names tells learns s (s.writeData .process offset bytes) :=
  .writeData s _ _ _

theorem Names.printMessage (s : Node) (title : String) (offset len : Nat) :
    Names tells learns s (s.printMessage title offset len) :=
  .emit s (by simp)

/-- Passing on what came. -/
theorem Names.flood (s : Node) (size : Nat) : Names tells learns s (s.send_package .process size broadcast_uid) :=
  .send_package s _ _ _ nofun

/-- An entry after a route has been entered: it is another one's, or the name it has is the
one given, the one it had with this uid, or none. -/
theorem register_uid_entry (t : Transmission) (source : Uid) (link : Option Slot) (name : Option (List UInt8))
    (e : Entry) :
    (t.register_uid source link name).uid_table e = t.uid_table e ∨
    ∃ kept : Name, (t.register_uid source link name).uid_table e =
        { uid := source, link, name := (name.map nameOf).getD kept } ∧
      (cstring kept.toList = [] ∨ (t.uid_table e).uid = source ∧ kept = (t.uid_table e).name) := by
  unfold Transmission.register_uid
  dsimp only
  split
  · rename_i e' hfind
    have huid : (t.uid_table e').uid = source := find_table_by_uid_eq hfind
    by_cases he : e = e'
    · subst he
      refine .inr ⟨(t.uid_table e).name, ?_, .inr ⟨huid, rfl⟩⟩
      dsimp only
      rw [Function.update_self, huid]
      cases name <;> rfl
    · exact .inl (Function.update_of_ne he _ _)
  · split
    · exact .inl rfl
    · rename_i e' _
      by_cases he : e = e'
      · subst he
        refine .inr ⟨(t.uid_table e).name.set 0 0, ?_, .inl (cstring_cleared _)⟩
        dsimp only
        rw [Function.update_self]
        cases name <;> rfl
      · exact .inl (Function.update_of_ne he _ _)

/-- Entering a route: its name goes, stays or is the one given. -/
theorem Names.register_uid (s : Node) (source : Uid) (link : Option Slot) (name : Option (List UInt8))
    (hlearns : ∀ text, name = some text → learns source ((cstring text).take NAME_SIZE)) :
    Names tells learns s (s.register_uid source link name) := by
  refine ⟨fun p dest hmem _ => .inl ?_, fun e => ?_⟩
  · obtain hold | hnew := List.mem_append.mp hmem
    · exact hold
    · simp at hnew
  · have htable : (s.register_uid source link name).transmission.uid_table =
      (s.transmission.register_uid source link name).uid_table := rfl
    rw [htable]
    obtain hsame | ⟨kept, hentry, hkept⟩ := register_uid_entry s.transmission source link name e
    · rw [hsame]
      exact .inr (.inl ⟨rfl, rfl⟩)
    · rw [hentry, UidTableEntry.text, UidTableEntry.text]
      cases name with
      | some text =>
        refine .inr (.inr ?_)
        have hfits := hlearns text rfl
        rwa [← cstring_strncpy] at hfits
      | none =>
        obtain hempty | ⟨huid, rfl⟩ := hkept
        · exact .inl hempty
        · exact .inr (.inl ⟨huid.symm, rfl⟩)

/-- Sending a built announcement by the table. -/
theorem Names.send_announcement {s s' : Node} {size size' : Nat} {uidt : Option Entry} {p : Package}
    (h : s.send_package_by_table .messages size uidt = .ok (s', size'))
    (hpackage : (s.packageBuffer .messages).package size = p) (hdirect : p.intermediate = false)
    (hmin : sizeof_package ≤ size) (hbound : size + sizeof_intermediate_head < 2 ^ 16)
    (hdata : p.data = uid.toList ++ strncpy own.toList NAME_SIZE) :
    Names (·.Announces uid own) learns s s' := by
  obtain ⟨q, l, hquiet, hcontent, _⟩ := Quiet.mailed_by_table h hpackage hdirect hmin hbound
  have htable : s'.transmission.uid_table = s.transmission.uid_table := by
    obtain ⟨e, _, value, order, _, _, _, rfl⟩ := send_package_by_table_cases h
    simp
  refine .of_trace _ hquiet.acts.trace_eq ?_ fun e => by simp [htable]
  intro p' d hmem _
  obtain ⟨-, rfl, -⟩ := Event.send_package.inj (List.mem_singleton.mp hmem)
  rw [Package.Announces, hcontent, hdata]

theorem Names.announce_me_to {s s' : Node} {dest : Uid} (hcalled : s.Called uid own)
    (h : s.announce_me_to dest = .ok s') : Names (·.Announces uid own) learns s s' := by
  unfold Node.announce_me_to at h
  split at h
  · obtain rfl := Except.ok.inj h
    exact .refl s
  · obtain ⟨⟨s₁, size'⟩, hsend, hdone⟩ := bind_eq_ok_iff.mp h
    obtain rfl := Except.ok.inj hdone
    rw [make_package_head_me] at hsend
    have hpackage := package_identified s .ANNOUNCEMENT (strncpy s.me.name.toList NAME_SIZE)
    rw [strncpy_length] at hpackage
    have hbuilt : Names (·.Announces uid own) learns s
        ((s.make_package_head .messages PACKAGE_IDENTIFIED .ANNOUNCEMENT).writeData .messages
          sizeof_identified_head (strncpy s.me.name.toList NAME_SIZE)) :=
      (Names.make_package_head s _ _ _).trans (.writeData _ _ _ _)
    refine hbuilt.trans (.send_announcement hsend hpackage ?_ (by decide) (by decide) ?_)
    · simp [Package.intermediate]
    · rw [hcalled.1, hcalled.2]

/-- The way to who has asked. -/
theorem Names.registerSource (s : Node) (link : Option Slot) : Names tells learns s (s.registerSource link) := by
  unfold Node.registerSource
  split
  · exact .register_uid s _ _ none nofun
  · exact .refl s

theorem Called.registerSource {s : Node} (h : s.Called uid own) (link : Option Slot) :
    (s.registerSource link).Called uid own := by
  unfold Node.registerSource
  split
  · exact h.of_eq rfl rfl
  · exact h

theorem Names.terminate {s s' : Node} {len : Nat} (h : s.terminate len = .ok s') : Names tells learns s s' := by
  unfold Node.terminate at h
  split at h
  · obtain rfl := Except.ok.inj h
    exact .writeProcess s _ _
  · cases h

theorem Called.terminate {s s' : Node} {len : Nat} (h : s.Called uid own) (hcall : s.terminate len = .ok s') :
    s'.Called uid own := by
  unfold Node.terminate at hcall
  split at hcall
  · obtain rfl := Except.ok.inj hcall
    exact h.of_eq rfl rfl
  · cases hcall

theorem Names.answerRequest {s s' : Node} {size : Nat} {forMe : Bool} (hcalled : s.Called uid own)
    (h : s.answerRequest size forMe = .ok s') : Names (·.Announces uid own) learns s s' := by
  unfold Node.answerRequest at h
  split at h
  · split at h
    · obtain ⟨s₁, hpromote, hannounce⟩ := bind_eq_ok_iff.mp h
      exact (Names.promote_uid_table hpromote).trans
        (.announce_me_to (hcalled.promote_uid_table hpromote) hannounce)
    · obtain rfl := Except.ok.inj h
      exact .refl s
  · obtain rfl := Except.ok.inj h
    exact .flood s size

/-- An announcement that has come teaches the name of its source. -/
theorem Names.process_announcement {s s' : Node} {p : Package} {src : Uid} {link : Option Slot}
    (h : s.Holds p) (hshort : p.short = false) (hdirect : p.intermediate = false)
    (htype : p.type = .ANNOUNCEMENT)
    (hcall : s.process_type p.size src link (p.data.length - p.offset) = .ok s') :
    Names tells p.Teaches s s' := by
  unfold Node.process_type at hcall
  rw [h.type_eq, htype] at hcall
  dsimp only at hcall
  rw [h.ident_eq hshort] at hcall
  cases hsource : p.source with
  | none =>
    rw [hsource] at hcall
    obtain rfl := Except.ok.inj hcall
    exact .refl s
  | some source =>
    rw [hsource] at hcall
    dsimp only at hcall
    split at hcall
    · obtain ⟨s₁, hterminate, hpromote⟩ := bind_eq_ok_iff.mp hcall
      obtain ⟨_, hholds, _, _⟩ := terminate_cases h hshort hterminate
      rw [hholds.offset_eq, hholds.body_eq] at hpromote
      refine ((Names.terminate hterminate).trans (.register_uid s₁ source link _ ?_)).trans
        (.promote_uid_table hpromote)
      intro text htext
      obtain rfl := Option.some.inj htext
      exact ⟨htype, hdirect, hsource, by rw [cstring_cstring]⟩
    · exact (Names.register_uid s source link none nofun).trans (.promote_uid_table hcall)

/-- A request for the neighbours with a depth. -/
theorem Names.process_depth {s s' : Node} {size : Nat} {link : Option Slot} (hcalled : s.Called uid own)
    (hcall : (let depth := s.buffer.data s.dataOffset
      let s := s.writeData .process s.dataOffset [depth - 1]
      let s := if depth ≠ 0 then s.send_package .process size broadcast_uid else s
      match s.ident with
      | some source => (s.register_uid source link none).announce_me_to source
      | none => .ok s) = .ok s') : Names (·.Announces uid own) learns s s' := by
  dsimp only at hcall
  generalize s.buffer.data s.dataOffset = depth at hcall
  have hwritten : Names (·.Announces uid own) learns s (s.writeData .process s.dataOffset [depth - 1]) :=
    .writeProcess s _ _
  have hcalled₁ : (s.writeData .process s.dataOffset [depth - 1]).Called uid own := hcalled.of_eq rfl rfl
  generalize s.writeData .process s.dataOffset [depth - 1] = s₁ at hcall hwritten hcalled₁
  have hpassed : ∃ s₂, s₂ = (if depth ≠ 0 then s₁.send_package .process size broadcast_uid else s₁) ∧
      s₂.Called uid own ∧ Names (·.Announces uid own) learns s₁ s₂ := by
    refine ⟨_, rfl, ?_⟩
    split
    · exact ⟨hcalled₁.of_eq rfl rfl, .flood s₁ size⟩
    · exact ⟨hcalled₁, .refl s₁⟩
  obtain ⟨s₂, hs₂, hcalled₂, hflood⟩ := hpassed
  rw [← hs₂] at hcall
  apply (hwritten.trans hflood).trans
  split at hcall
  · exact (Names.register_uid s₂ _ link none nofun).trans (.announce_me_to (hcalled₂.of_eq rfl rfl) hcall)
  · obtain rfl := Except.ok.inj hcall
    exact .refl s₂

/-- What a node tells and learns by a package that has come for it. -/
theorem Names.process_type {s s' : Node} {p : Package} {src : Uid} {link : Option Slot}
    (hcalled : s.Called uid own) (h : s.Holds p) (hshort : p.short = false) (hdirect : p.intermediate = false)
    (hcall : s.process_type p.size src link (p.data.length - p.offset) = .ok s') :
    Names (·.Announces uid own) p.Teaches s s' := by
  by_cases hannouncement : p.type = .ANNOUNCEMENT
  · exact .process_announcement h hshort hdirect hannouncement hcall
  unfold Node.process_type at hcall
  rw [h.type_eq] at hcall
  cases htype : p.type <;> rw [htype] at hcall <;> dsimp only at hcall
  case SEQUENCE => exact .ackIfAckly hcall
  case BASE64 => exact .ackIfAckly hcall
  case NACK | FIRST =>
    obtain rfl := Except.ok.inj hcall
    exact .refl s
  case ANNOUNCEMENT => exact absurd htype hannouncement
  case MSG =>
    obtain ⟨s₁, hack, hdone⟩ := bind_eq_ok_iff.mp hcall
    obtain rfl := Except.ok.inj hdone
    exact (Names.ackIfAckly hack).trans (.printMessage _ _ _ _)
  case MSG_TO =>
    split at hcall
    · obtain rfl := Except.ok.inj hcall
      exact .refl s
    · split at hcall
      · obtain ⟨s₁, hack, hdone⟩ := bind_eq_ok_iff.mp hcall
        obtain rfl := Except.ok.inj hdone
        exact (Names.ackIfAckly hack).trans (.printMessage _ _ _ _)
      · obtain rfl := Except.ok.inj hcall
        exact .flood s _
  case BROADCAST_MSG =>
    obtain rfl := Except.ok.inj hcall
    exact (Names.printMessage s _ _ _).trans (.flood _ _)
  case NAME_REQUEST =>
    split at hcall
    · obtain rfl := Except.ok.inj hcall
      exact .refl s
    · obtain ⟨s₁, hterminate, hanswer⟩ := bind_eq_ok_iff.mp hcall
      exact ((Names.registerSource s link).trans (.terminate hterminate)).trans
        (.answerRequest ((hcalled.registerSource link).terminate hterminate) hanswer)
  case UID_REQUEST =>
    split at hcall
    · obtain rfl := Except.ok.inj hcall
      exact .refl s
    · exact (Names.registerSource s link).trans (.answerRequest (hcalled.registerSource link) hcall)
  case NEIGHBOR_REQUEST =>
    split at hcall
    · split at hcall
      · exact .process_depth hcalled hcall
      · obtain rfl := Except.ok.inj hcall
        exact .send_neighboor_request_to s src
    · split at hcall
      · obtain rfl := Except.ok.inj hcall
        exact .send_echo_to s src
      · obtain rfl := Except.ok.inj hcall
        exact .refl s
  case ECHO =>
    obtain ⟨s₁, hregister, hdone⟩ := bind_eq_ok_iff.mp hcall
    obtain rfl := Except.ok.inj hdone
    exact (Names.register_neighbor hregister).trans (.send_reecho_to s₁ src)
  case REECHO => exact .register_neighbor hcall
  case ACK =>
    split at hcall
    · obtain rfl := Except.ok.inj hcall
      exact .refl s
    · obtain rfl := Except.ok.inj hcall
      exact .acknowledge s _
  case BROADCAST_ACK =>
    split at hcall
    · obtain rfl := Except.ok.inj hcall
      exact .refl s
    · split at hcall
      · obtain rfl := Except.ok.inj hcall
        exact .acknowledge s _
      · obtain rfl := Except.ok.inj hcall
        exact (Names.acknowledge s _).trans (.flood _ _)
  case COMMAND =>
    obtain ⟨s₁, hack, hrest⟩ := bind_eq_ok_iff.mp hcall
    obtain ⟨s₂, hterminate, hexecute⟩ := bind_eq_ok_iff.mp hrest
    exact ((Names.ackIfAckly hack).trans (.terminate hterminate)).trans (.execute_cmd hexecute)

/-- A package from a stranger is registered, or its sender is asked, or both. -/
theorem process_stranger_node (s : Node) (src : Uid) :
    let asked := s.send_neighboor_request_to src
    (s.process_stranger src).1 = s.register_rid s.buffer.rid ∨ (s.process_stranger src).1 = asked ∨
      (s.process_stranger src).1 = asked.register_rid asked.buffer.rid := by
  intro asked
  have hboth : (if asked.flag PACKAGE_ACKLY = true then (asked, false)
      else (asked.register_rid asked.buffer.rid, true)).1 = asked ∨
      (if asked.flag PACKAGE_ACKLY = true then (asked, false)
      else (asked.register_rid asked.buffer.rid, true)).1 = asked.register_rid asked.buffer.rid := by
    split
    · exact .inl rfl
    · exact .inr rfl
  unfold Node.process_stranger
  cases s.type
  case MSG_TO | BROADCAST_MSG | NEIGHBOR_REQUEST | ECHO | REECHO | BROADCAST_ACK => exact .inl rfl
  case NAME_REQUEST | UID_REQUEST | ANNOUNCEMENT => exact .inr (.inl rfl)
  all_goals exact .inr hboth

theorem Called.process_stranger {s : Node} (h : s.Called uid own) (src : Uid) :
    (s.process_stranger src).1.Called uid own ∧ (s.process_stranger src).1.buffer = s.buffer := by
  obtain hnode | hnode | hnode := process_stranger_node s src
  all_goals
    rw [hnode]
    exact ⟨h.of_eq rfl rfl, rfl⟩

theorem Names.process_stranger (s : Node) (src : Uid) : Names tells learns s (s.process_stranger src).1 := by
  obtain hnode | hnode | hnode := process_stranger_node s src
  · rw [hnode]
    exact .register_rid s _
  · rw [hnode]
    exact .send_neighboor_request_to s src
  · rw [hnode]
    exact (Names.send_neighboor_request_to s src).trans (.register_rid _ _)

theorem Names.process_direct {s s' : Node} {p : Package} {src : Uid} {e_rid : Nat} {link : Option Slot}
    (hcalled : s.Called uid own) (h : s.Holds p) (hdirect : p.intermediate = false)
    (hcall : s.process_direct p.size src e_rid link = .ok s') :
    Names (·.Announces uid own) p.Teaches s s' := by
  have hsize : p.size - sizeof_package = p.data.length := by simp [Package.size]
  unfold Node.process_direct at hcall
  dsimp only at hcall
  rw [hsize, h.offset_eq, h.flag_eq] at hcall
  split at hcall
  · obtain rfl := Except.ok.inj hcall
    exact .refl s
  · rename_i hlong
    have hshort : p.short = false := by
      simpa [Package.short, Package.identified] using hlong
    split at hcall
    · exact (Names.register_rid s _).trans (.ackIfAckly hcall)
    · split at hcall
      · exact (Names.register_rid s _).trans
          (.process_type (hcalled.of_eq rfl rfl) (h.of_buffer rfl) hshort hdirect hcall)
      · obtain ⟨hcalled', hbuffer⟩ := hcalled.process_stranger src
        split at hcall
        · exact (Names.process_stranger s src).trans
            (.process_type hcalled' (h.of_buffer hbuffer) hshort hdirect hcall)
        · obtain rfl := Except.ok.inj hcall
          exact .process_stranger s src

theorem Names.process_intermediate {s s' : Node} {size : Nat} (h : s.process_intermediate size = .ok s') :
    Names tells learns s s' := by
  have hsend : ∀ {s s' : Node} {uidt : Option Entry} {size' : Nat},
      s.send_package_by_table .process size uidt = .ok (s', size') → Names tells learns s s' :=
    fun hsend => .send_package_by_table hsend nofun
  unfold Node.process_intermediate at h
  split at h
  · obtain rfl := Except.ok.inj h
    exact .refl s
  · dsimp only at h
    refine (Names.register_rid s s.buffer.rid).trans ?_
    split at h
    · obtain rfl := Except.ok.inj h
      exact .refl _
    · split at h
      · obtain ⟨s₁, hfirst, hrest⟩ := bind_eq_ok_iff.mp h
        refine (Names.promote_uid_table hfirst).trans ?_
        split at hrest
        · obtain ⟨s₂, hsecond, hpassed⟩ := bind_eq_ok_iff.mp hrest
          obtain ⟨⟨s₃, size'⟩, hlast, hdone⟩ := bind_eq_ok_iff.mp hpassed
          obtain rfl := Except.ok.inj hdone
          exact (Names.promote_uid_table hsecond).trans (hsend hlast)
        · obtain ⟨s₂, hsame, hpassed⟩ := bind_eq_ok_iff.mp hrest
          obtain rfl := Except.ok.inj hsame
          obtain ⟨⟨s₃, size'⟩, hlast, hdone⟩ := bind_eq_ok_iff.mp hpassed
          obtain rfl := Except.ok.inj hdone
          exact hsend hlast
      · obtain ⟨⟨s₁, size'⟩, hlast, hdone⟩ := bind_eq_ok_iff.mp h
        obtain rfl := Except.ok.inj hdone
        exact hsend hlast

/-- What a node tells and learns by a package: it tells its own name, and learns what an
announcement for it says. -/
theorem Names.process_package {s s' : Node} {p : Package} {src : Uid} (h : s.process_package p p.size src = .ok s') :
    Names (·.Announces s.my_uid s.me.name) p.Teaches s s' := by
  have hemit : ∀ e, (∀ p dest, e ≠ .send_package .messages p dest) →
      Names (·.Announces s.my_uid s.me.name) p.Teaches s (s.emit e) := fun e he => .emit s he
  obtain ⟨_, rfl⟩ | ⟨_, loc, _, hbranch⟩ := process_package_cases h
  · exact hemit _ (by simp)
  · have haccept : Names (·.Announces s.my_uid s.me.name) p.Teaches s (s.accept p p.size src) :=
      .quiet [.process_package p src] rfl (by simp) rfl
    apply haccept.trans
    obtain ⟨_, hcall⟩ | ⟨hdirect, hcall⟩ := hbranch
    · exact .process_intermediate hcall
    · exact .process_direct ⟨rfl, rfl⟩ (accept_package s p src) hdirect hcall

end Node

end concretid.ems
