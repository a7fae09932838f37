import ConcretID.Com.Reaction

open concretid.memory
open concretid.ems (Uid linkLocal sub16 sub16_of_le)

namespace concretid.com

/-- A package with the mesh head for an address, the layout both ends of a hop
are meant to share: id, `MESH_M`, address, original type, original body. -/
def meshed (package : List UInt8) (dest : Uid) : List UInt8 :=
  package.take RID_SIZE ++ [PackageType.MESH_M.code] ++ dest.toList ++ package.drop RID_SIZE

/-- The package that a call hands to `uip` for one neighbour. -/
def Event.sent? : Event → Option (List UInt8)
  | .SendPackage _ package _ => some package
  | _ => none

namespace Node

/-- The calls between two states of a node. -/
def since (before after : Node) : List Event := after.trace.drop before.trace.length

theorem Acts.since_eq {s s' : Node} {new : List Event} (h : Acts s s' new) : s.since s' = new := by
  rw [since, h.trace_eq, List.drop_left]

/-- The packages sent to one neighbour between two states of a node. -/
def sent (before after : Node) : List (List UInt8) := (before.since after).filterMap Event.sent?

/-- A region reads the same where `buf` does. -/
theorem memory_of_buf {s : Node} {d : Nat → UInt8} {data : Region} {i : Nat} (h : d i = s.buf i) :
    memory { s with buf := d } data i = s.memory data i := by
  cases data with
  | buf => exact h
  | uip_appdata => rfl
  | cmd => rfl
  | sendOut => rfl

/-- The copying loop reads every byte before it is overwritten, also when it
copies `buf` onto itself. -/
theorem insertMeshHead_eq (s : Node) (data : Region) (n : Nat) :
    s.insertMeshHead data n =
      { s with
        buf := fun i =>
          if RID_SIZE + MESH_HEAD_SIZE ≤ i ∧ i < RID_SIZE + MESH_HEAD_SIZE + n
          then s.memory data (i - MESH_HEAD_SIZE) else s.buf i } := by
  induction n generalizing s with
  | zero =>
    have hnone : ∀ i, ¬ (RID_SIZE + MESH_HEAD_SIZE ≤ i ∧ i < RID_SIZE + MESH_HEAD_SIZE + 0) := by
      intro i
      omega
    simp only [insertMeshHead, hnone, if_false]
  | succ n ih =>
    rw [insertMeshHead, ih]
    congr 1
    funext i
    have hsource : RID_SIZE + MESH_HEAD_SIZE ≤ i ∧ i < RID_SIZE + MESH_HEAD_SIZE + n →
        Function.update s.buf (RID_SIZE + n + MESH_HEAD_SIZE) (s.memory data (RID_SIZE + n))
          (i - MESH_HEAD_SIZE) = s.buf (i - MESH_HEAD_SIZE) :=
      fun _ => Function.update_of_ne (by simp only [MESH_HEAD_SIZE] at *; omega) _ _
    by_cases hlast : i = RID_SIZE + n + MESH_HEAD_SIZE
    · subst hlast
      have hout : ¬ (RID_SIZE + MESH_HEAD_SIZE ≤ RID_SIZE + n + MESH_HEAD_SIZE ∧
          RID_SIZE + n + MESH_HEAD_SIZE < RID_SIZE + MESH_HEAD_SIZE + n) := by omega
      have hin : RID_SIZE + MESH_HEAD_SIZE ≤ RID_SIZE + n + MESH_HEAD_SIZE ∧
          RID_SIZE + n + MESH_HEAD_SIZE < RID_SIZE + MESH_HEAD_SIZE + (n + 1) := by omega
      rw [if_neg hout, if_pos hin, Nat.add_sub_cancel]
      exact Function.update_self _ _ _
    · by_cases hin : RID_SIZE + MESH_HEAD_SIZE ≤ i ∧ i < RID_SIZE + MESH_HEAD_SIZE + n
      · have hmore : RID_SIZE + MESH_HEAD_SIZE ≤ i ∧ i < RID_SIZE + MESH_HEAD_SIZE + (n + 1) := by
          omega
        rw [if_pos hin, if_pos hmore, memory_of_buf (hsource hin)]
      · have hnot : ¬ (RID_SIZE + MESH_HEAD_SIZE ≤ i ∧
            i < RID_SIZE + MESH_HEAD_SIZE + (n + 1)) := by omega
        rw [if_neg hin, if_neg hnot]
        exact Function.update_of_ne hlast _ _

/-- The head of the package and the rest, as the mesh head divides them. -/
theorem meshed_load (d : Nat → UInt8) {len : Nat} (hlen : PACKAGE_HEAD ≤ len) (dest : Uid) :
    meshed (load d 0 len) dest =
      load d 0 RID_SIZE ++ [PackageType.MESH_M.code] ++ dest.toList ++
        load d RID_SIZE (len - RID_SIZE) := by
  have hsplit : load d 0 len = load d 0 RID_SIZE ++ load d RID_SIZE (len - RID_SIZE) := by
    have happend := load_append d 0 RID_SIZE (len - RID_SIZE)
    rwa [Nat.zero_add, Nat.add_sub_cancel' (Nat.le_of_lt hlen)] at happend
  rw [meshed, hsplit, List.take_left' (load_length _ _ _), List.drop_left' (load_length _ _ _)]

/-- `buf` once the mesh head is in: the package as a relay is to get it, and
behind it whatever `buf` and the memory after it held. -/
theorem meshed_buf (s : Node) (data : Region) {len : Nat} (hlen : PACKAGE_HEAD ≤ len)
    (hshort : len ≤ BUF_SIZE) (dest : Uid) :
    load (store (s.insertMeshHead data (sub16 len 1 + 1 - RID_SIZE)).buf 0
        (load (s.memory data) 0 RID_SIZE ++ [PackageType.MESH_M.code] ++ dest.toList)) 0
      (len + PackageType.MESH_M.code.toNat) =
    meshed (load (s.memory data) 0 len) dest ++
      load s.buf (len + MESH_HEAD_SIZE) (PackageType.MESH_M.code.toNat - MESH_HEAD_SIZE) := by
  have hcount : sub16 len 1 + 1 - RID_SIZE = len - RID_SIZE := by
    simp only [PACKAGE_HEAD, RID_SIZE, BUF_SIZE] at hlen hshort ⊢
    rw [sub16_of_le (by omega) (by omega)]
    omega
  have hhead : (load (s.memory data) 0 RID_SIZE ++ [PackageType.MESH_M.code] ++
      dest.toList).length = RID_SIZE + MESH_HEAD_SIZE := by
    simp only [List.length_append, load_length, List.length_singleton, List.Vector.toList_length]
    decide
  have hsize : len + PackageType.MESH_M.code.toNat = RID_SIZE + MESH_HEAD_SIZE +
      (len - RID_SIZE) + (PackageType.MESH_M.code.toNat - MESH_HEAD_SIZE) := by
    have hcode : PackageType.MESH_M.code.toNat = 77 := rfl
    simp only [PACKAGE_HEAD, RID_SIZE, MESH_HEAD_SIZE, UID_SIZE] at hlen ⊢
    omega
  have hend : RID_SIZE + MESH_HEAD_SIZE + (len - RID_SIZE) = len + MESH_HEAD_SIZE := by
    simp only [PACKAGE_HEAD, RID_SIZE, MESH_HEAD_SIZE, UID_SIZE] at hlen ⊢
    omega
  rw [hsize, load_append, load_append, Nat.zero_add, Nat.zero_add, hend, ← hhead, load_store, hhead,
    load_store_of_disjoint _ _ (.inr (by rw [Nat.zero_add, hhead])),
    load_store_of_disjoint _ _ (.inr (by rw [Nat.zero_add, hhead, ← hend]; omega)),
    meshed_load _ hlen, hcount, insertMeshHead_eq]
  have hbody : load (fun i => if RID_SIZE + MESH_HEAD_SIZE ≤ i ∧
        i < RID_SIZE + MESH_HEAD_SIZE + (len - RID_SIZE)
      then s.memory data (i - MESH_HEAD_SIZE) else s.buf i) (RID_SIZE + MESH_HEAD_SIZE)
      (len - RID_SIZE) = load (s.memory data) RID_SIZE (len - RID_SIZE) := by
    refine load_congr fun i hi => ?_
    have hsource : RID_SIZE + MESH_HEAD_SIZE + i - MESH_HEAD_SIZE = RID_SIZE + i := by omega
    rw [if_pos ⟨by omega, by omega⟩, hsource]
  have hbehind : load (fun i => if RID_SIZE + MESH_HEAD_SIZE ≤ i ∧
        i < RID_SIZE + MESH_HEAD_SIZE + (len - RID_SIZE)
      then s.memory data (i - MESH_HEAD_SIZE) else s.buf i) (len + MESH_HEAD_SIZE)
      (PackageType.MESH_M.code.toNat - MESH_HEAD_SIZE) =
      load s.buf (len + MESH_HEAD_SIZE) (PackageType.MESH_M.code.toNat - MESH_HEAD_SIZE) := by
    refine load_congr fun i _ => ?_
    rw [if_neg (by rw [hend]; omega)]
  rw [hbody, hbehind]

/-- The state `sendPackageByTable` looks at. -/
def called (s : Node) (data : Region) : Node :=
  s.emit (.sendPackageByTable data (ridAt (s.memory data) 0))

@[simp] theorem called_memory (s : Node) (data r : Region) : (s.called data).memory r = s.memory r := by
  cases r <;> rfl

theorem sendPackageByTable_eq (s : Node) (data : Region) (len : Nat) (ipt : Fin IPTABLE_SIZE) :
    s.sendPackageByTable data len ipt =
      if (s.table.iptable ipt).ipaddr ≠ (s.table.iptable ipt).link then
        if s.memory data RID_SIZE ≠ PackageType.MESH_M.code then
          (((s.called data).insertMeshHead data (sub16 len 1 + 1 - RID_SIZE)).write .buf 0
            (load (((s.called data).insertMeshHead data (sub16 len 1 + 1 - RID_SIZE)).memory data) 0
              RID_SIZE ++ [PackageType.MESH_M.code] ++ (s.table.iptable ipt).ipaddr.toList)).SendPackage
            .buf (len + PackageType.MESH_M.code.toNat) (s.table.iptable ipt).link
        else (s.called data).SendPackage data len (s.table.iptable ipt).link
      else if s.memory data RID_SIZE = PackageType.MESH_M.code then
        ((s.called data).setMemory data (shiftDown (s.memory data) PACKAGE_HEAD MESH_HEAD_SIZE
          (len - (PACKAGE_HEAD + MESH_HEAD_SIZE)))).SendPackage data (sub16 len MESH_HEAD_SIZE)
          (s.table.iptable ipt).link
      else (s.called data).SendPackage data len (s.table.iptable ipt).link := by
  cases data <;> rfl

/-- Sending leaves the slots alone, unless a slot's own package has a mesh head. -/
theorem sendPackageByTable_sendOut {s : Node} {data : Region} (len : Nat) (ipt : Fin IPTABLE_SIZE)
    (htype : s.memory data RID_SIZE ≠ PackageType.MESH_M.code) :
    (s.sendPackageByTable data len ipt).sendOut = s.sendOut := by
  rw [sendPackageByTable_eq]
  split
  · rw [insertMeshHead_eq]
    rfl
  · rfl

/-- A package over a direct route is sent as it is. -/
theorem sendPackageByTable_direct {s : Node} {data : Region} {len : Nat} {ipt : Fin IPTABLE_SIZE}
    (hdirect : (s.table.iptable ipt).ipaddr = (s.table.iptable ipt).link)
    (htype : s.memory data RID_SIZE ≠ PackageType.MESH_M.code) :
    s.sendPackageByTable data len ipt =
      (s.called data).SendPackage data len (s.table.iptable ipt).link := by
  rw [sendPackageByTable_eq, if_neg (not_not.mpr hdirect), if_neg htype]

/-- A package over an indirect route is sent from `buf`, behind a mesh head
and with as many bytes after it as the letter `M` exceeds the head by. -/
theorem sendPackageByTable_meshed {s : Node} {data : Region} {len : Nat} {ipt : Fin IPTABLE_SIZE}
    (hindirect : (s.table.iptable ipt).ipaddr ≠ (s.table.iptable ipt).link)
    (htype : s.memory data RID_SIZE ≠ PackageType.MESH_M.code) (hlen : PACKAGE_HEAD ≤ len)
    (hshort : len ≤ BUF_SIZE) :
    ∃ d : Nat → UInt8,
      s.sendPackageByTable data len ipt =
        ({ s.called data with buf := d } : Node).SendPackage .buf
          (len + PackageType.MESH_M.code.toNat) (s.table.iptable ipt).link ∧
      load d 0 (len + PackageType.MESH_M.code.toNat) =
        meshed (load (s.memory data) 0 len) (s.table.iptable ipt).ipaddr ++
          load s.buf (len + MESH_HEAD_SIZE) (PackageType.MESH_M.code.toNat - MESH_HEAD_SIZE) := by
  have hcontent := meshed_buf (s.called data) data hlen hshort (s.table.iptable ipt).ipaddr
  have hhead : load (((s.called data).insertMeshHead data (sub16 len 1 + 1 - RID_SIZE)).memory data)
      0 RID_SIZE = load ((s.called data).memory data) 0 RID_SIZE := by
    refine load_congr fun i hi => ?_
    rw [insertMeshHead_eq]
    exact memory_of_buf (if_neg (by omega))
  rw [called_memory] at hcontent hhead
  refine ⟨_, ?_, hcontent⟩
  rw [sendPackageByTable_eq, if_pos hindirect, if_pos htype, hhead, insertMeshHead_eq]
  rfl

/-- What `SendPackage` adds to what has been sent. -/
theorem sent_SendPackage {s s' : Node} {data : Region} {len : Nat} {ip : Uid} {new : List Event}
    (h : Acts s s' new) (hnew : new.filterMap Event.sent? = []) :
    s.sent (s'.SendPackage data len ip) = [s'.packet data len] := by
  rw [sent, (h.trans (acts_SendPackage s' data len ip)).since_eq, List.filterMap_append, hnew]
  rfl

@[simp] theorem setMemory_memory (s : Node) (r : Region) (d : Nat → UInt8) :
    (s.setMemory r d).memory r = d := by
  cases r <;> simp [setMemory, memory]

theorem acts_called (s : Node) (data : Region) :
    Acts s (s.called data) [.sendPackageByTable data (ridAt (s.memory data) 0)] :=
  .emit s rfl rfl

/-- The one package that goes out over an indirect route. -/
theorem sent_meshed {s : Node} {data : Region} {len : Nat} {ipt : Fin IPTABLE_SIZE}
    (hindirect : (s.table.iptable ipt).ipaddr ≠ (s.table.iptable ipt).link)
    (htype : s.memory data RID_SIZE ≠ PackageType.MESH_M.code) (hlen : PACKAGE_HEAD ≤ len)
    (hshort : len ≤ BUF_SIZE) :
    s.sent (s.sendPackageByTable data len ipt) =
      [meshed (load (s.memory data) 0 len) (s.table.iptable ipt).ipaddr ++
        load s.buf (len + MESH_HEAD_SIZE) (PackageType.MESH_M.code.toNat - MESH_HEAD_SIZE)] := by
  obtain ⟨d, heq, hcontent⟩ := sendPackageByTable_meshed hindirect htype hlen hshort
  have hroom : len + PackageType.MESH_M.code.toNat ≤ UIP_BUFSIZE := by
    have hcode : PackageType.MESH_M.code.toNat = 77 := rfl
    simp only [BUF_SIZE, UIP_BUFSIZE] at hshort ⊢
    omega
  have hacts : Acts s ({ s.called data with buf := d } : Node)
      [.sendPackageByTable data (ridAt (s.memory data) 0)] :=
    (acts_called s data).trans (.of_eq rfl rfl rfl)
  rw [heq, sent_SendPackage hacts rfl, packet, memory, Nat.min_eq_left hroom, hcontent]

theorem packet_getElem? (s : Node) (data : Region) {len i : Nat} (hlen : i < len)
    (hroom : i < UIP_BUFSIZE) : (s.packet data len)[i]? = some (s.memory data i) := by
  rw [packet, load_getElem?, if_pos (lt_min hlen hroom), Nat.zero_add]

/-- A package that has a mesh head keeps `MESH_M` in front of its body, whether
or not the address is taken out. -/
theorem sendPackageByTable_letter {s s' : Node} {data : Region} {len : Nat}
    {ipt : Fin IPTABLE_SIZE} {new : List Event} (hacts : Acts s s' new)
    (hnew : new.filterMap Event.sent? = []) (hlen : PACKAGE_HEAD + MESH_HEAD_SIZE ≤ len)
    (hshort : len < 2 ^ 16) (htype : s'.memory data RID_SIZE = PackageType.MESH_M.code) :
    ∃ q, s.sent (s'.sendPackageByTable data len ipt) = [q] ∧
      q[RID_SIZE]? = some PackageType.MESH_M.code := by
  have hcalled := hacts.trans (acts_called s' data)
  have hquiet : (new ++ [Event.sendPackageByTable data (ridAt (s'.memory data) 0)]).filterMap
      Event.sent? = [] := by
    rw [List.filterMap_append, hnew]
    rfl
  rw [sendPackageByTable_eq]
  by_cases hroute : (s'.table.iptable ipt).ipaddr = (s'.table.iptable ipt).link
  · rw [if_neg (not_not.mpr hroute), if_pos htype]
    have hmoved := hcalled.trans (acts_setMemory (s'.called data) data (shiftDown (s'.memory data)
      PACKAGE_HEAD MESH_HEAD_SIZE (len - (PACKAGE_HEAD + MESH_HEAD_SIZE))))
    rw [List.append_nil] at hmoved
    have hrest : sub16 len MESH_HEAD_SIZE = len - MESH_HEAD_SIZE :=
      sub16_of_le (le_trans (by decide) hlen) hshort
    refine ⟨_, sent_SendPackage hmoved hquiet, ?_⟩
    rw [packet_getElem? _ _ (by rw [hrest]; exact Nat.lt_sub_of_add_lt hlen) (by decide),
      setMemory_memory, shiftDown_apply, if_neg (fun hin => absurd hin.1 (by decide)), htype]
  · rw [if_pos hroute, if_neg (not_not.mpr htype)]
    refine ⟨_, sent_SendPackage hcalled hquiet, ?_⟩
    rw [packet_getElem? _ _ (lt_of_lt_of_le (by decide) hlen) (by decide), called_memory, htype]

/-- So a relay never sends anything else on. -/
theorem forward_letter {s : Node} {len : Nat} (hlen : PACKAGE_HEAD + MESH_HEAD_SIZE ≤ len)
    (hshort : len < 2 ^ 16) (htype : s.uip_appdata RID_SIZE = PackageType.MESH_M.code)
    {q : List UInt8} (hq : q ∈ s.sent (s.forward len)) :
    q[RID_SIZE]? = some PackageType.MESH_M.code := by
  have hcall : Acts s ((s.emit (.forward (ridAt s.uip_appdata 0))).registerInner len)
      [.forward (ridAt s.uip_appdata 0)] :=
    (Acts.emit s rfl rfl).trans (acts_registerInner _ len)
  have hinside : ((s.emit (.forward (ridAt s.uip_appdata 0))).registerInner len).memory
      .uip_appdata RID_SIZE = PackageType.MESH_M.code := by
    rw [registerInner]
    split <;> exact htype
  rw [forward] at hq
  simp only [Nat.not_lt.mpr hlen, if_false] at hq
  split at hq
  · obtain ⟨p, hsent, hletter⟩ := sendPackageByTable_letter hcall rfl hlen hshort hinside
    rw [hsent, List.mem_singleton] at hq
    rw [hq, hletter]
  · rw [sent, hcall.since_eq] at hq
    cases hq

/-- Neither end of a hop keeps to the layout of the other: no package leaves a
node over an indirect route with the mesh head alone, and from no package with
a mesh head does a relay get the original back. -/
theorem mesh_never_undone {p : List UInt8} (hlen : PACKAGE_HEAD ≤ p.length)
    (hshort : p.length ≤ BUF_SIZE) (htype : p.getD RID_SIZE 0 ≠ PackageType.MESH_M.code) :
    (∀ (s : Node) (data : Region) (ipt : Fin IPTABLE_SIZE),
      load (s.memory data) 0 p.length = p →
      (s.table.iptable ipt).ipaddr ≠ (s.table.iptable ipt).link →
      s.sent (s.sendPackageByTable data p.length ipt) ≠ [meshed p (s.table.iptable ipt).ipaddr]) ∧
    ∀ (s : Node) (dest : Uid),
      load s.uip_appdata 0 (p.length + MESH_HEAD_SIZE) = meshed p dest →
      s.sent (s.forward (p.length + MESH_HEAD_SIZE)) ≠ [p] := by
  have hletter : p[RID_SIZE]? = some (p.getD RID_SIZE 0) := by
    rw [List.getD_eq_getElem?_getD, List.getElem?_eq_getElem hlen, Option.getD_some]
  refine ⟨?_, ?_⟩
  · intro s data ipt hp hindirect hsent
    have hload : s.memory data RID_SIZE = p.getD RID_SIZE 0 := by
      have hread := load_getElem? (s.memory data) 0 p.length RID_SIZE
      rw [hp, hletter, if_pos (Nat.lt_of_succ_le hlen), Nat.zero_add, Option.some.injEq] at hread
      exact hread.symm
    rw [sent_meshed hindirect (by rwa [hload]) hlen hshort, hp, List.cons.injEq] at hsent
    have hlength := congrArg List.length hsent.1
    rw [List.length_append, load_length] at hlength
    have hextra : PackageType.MESH_M.code.toNat - MESH_HEAD_SIZE = 60 := rfl
    omega
  · intro s dest hp hsent
    have hinside : s.uip_appdata RID_SIZE = PackageType.MESH_M.code := by
      have hread := load_getElem? s.uip_appdata 0 (p.length + MESH_HEAD_SIZE) RID_SIZE
      rw [hp, if_pos (Nat.lt_add_right _ hlen), Nat.zero_add, meshed, List.append_assoc, List.append_assoc,
        List.getElem?_append_right (by simp)] at hread
      simpa [Nat.min_eq_left (Nat.le_of_lt hlen)] using hread.symm
    have hq := forward_letter (s := s) (q := p) (Nat.add_le_add_right hlen _)
      (by simp only [BUF_SIZE, MESH_HEAD_SIZE, UID_SIZE] at hshort ⊢; omega) hinside
      (by rw [hsent]; exact List.mem_singleton_self p)
    rw [hletter, Option.some.injEq] at hq
    exact htype hq

/-- A node that reaches `fe80::9` through `fe80::2`, with a package in `buf`. -/
def detour : Node :=
  { boot (linkLocal 0 1) (ems.nameOf [97]) (fun _ => 0) with
    table := IpTable.zero.registerIp (linkLocal 0 9) (linkLocal 0 2) (some [98])
    buf := store (fun _ => 0) 0 [1, 2, 3, 4, 0x50, 104, 105] }

/-- A node next to `fe80::9` that has received the package as it should come. -/
def lastHop : Node :=
  { boot (linkLocal 0 2) (ems.nameOf [99]) (fun _ => 0) with
    table := IpTable.zero.registerIp (linkLocal 0 9) (linkLocal 0 9) (some [98])
    uip_appdata :=
      store (fun _ => 0) 0 (meshed [1, 2, 3, 4, 0x50, 104, 105] (linkLocal 0 9)) }

/-- Of a package of 7 bytes 84 are sent and not 24; and of the 24 that should
have come the relay makes a `MESH_M` package of 7. -/
theorem detour_overlong :
    detour.sent (detour.sendPackageByTable .buf 7 0) ≠
        [meshed [1, 2, 3, 4, 0x50, 104, 105] (linkLocal 0 9)] ∧
      (detour.sent (detour.sendPackageByTable .buf 7 0)).map List.length = [84] ∧
      lastHop.sent (lastHop.forward 24) = [[1, 2, 3, 4, 0x4d, 104, 105]] := by
  decide

theorem detour_not_undone :
    detour.sent (detour.sendPackageByTable .buf 7 0) ≠
        [meshed [1, 2, 3, 4, 0x50, 104, 105] (linkLocal 0 9)] ∧
      lastHop.sent (lastHop.forward 24) ≠ [[1, 2, 3, 4, 0x50, 104, 105]] := by
  obtain ⟨hfirst, hlast⟩ := mesh_never_undone (p := [1, 2, 3, 4, 0x50, 104, 105])
    (by decide) (by decide) (by decide)
  exact ⟨hfirst detour .buf 0 (by decide) (by decide), hlast lastHop (linkLocal 0 9) (by decide)⟩

end Node

end concretid.com
