import Mathlib.Data.List.Find
import ConcretID.Com.Addresses
import ConcretID.Com.Mesh

open concretid.memory
open concretid.ems (Uid uidAt linkLocal)

namespace concretid.com

/-! ## What a registration changes for the other addresses -/

namespace IpTable

/-- A link, not a name, is all that an update without a name changes. -/
theorem findTableByIp_register_known {t : IpTable} {r : Registration} {ipt : Fin IPTABLE_SIZE}
    (hknown : t.findTableByIp r.ip = some ipt) (ip : Uid) :
    (t.register r).findTableByIp ip = t.findTableByIp ip := by
  have hipaddr : ∀ j, ((t.register r).iptable j).ipaddr = (t.iptable j).ipaddr := by
    intro j
    rw [register, registerIp, hknown]
    by_cases hj : j = ipt
    · rw [hj]
      simp
    · simp [Function.update_of_ne hj]
  have horder : (t.register r).order = t.order := by
    rw [register, registerIp, hknown]
    rfl
  rw [findTableByIp, findTableByIp, horder]
  simp only [hipaddr]

/-- An insertion hides the entry whose place it takes, and no other. -/
theorem findTableByIp_register_new {t : IpTable} {r : Registration}
    (hnew : t.findTableByIp r.ip = none) {ip : Uid} (hne : r.ip ≠ ip) :
    (t.register r).findTableByIp ip = (t.findTableByIp ip).filter (· ≠ t.lastIp) := by
  have hordered := List.dropLast_append_getLast? _ t.order_getLast
  have hlast : t.lastIp ∉ t.order.dropLast := by
    have hnodup := t.order_nodup
    rw [← hordered, List.nodup_append] at hnodup
    exact fun hmem => hnodup.2.2 _ hmem _ (List.mem_singleton_self _) rfl
  have hrest : ∀ j ∈ t.order.dropLast,
      ((t.register r).iptable j).ipaddr = (t.iptable j).ipaddr := by
    intro j hj
    rw [(t.register_evicts r hnew).2.2 j]
    rintro rfl
    exact hlast hj
  have hfirst : ((t.register r).iptable t.lastIp).ipaddr = r.ip := by
    rw [register, registerIp, hnew]
    simp
  have horder : (t.register r).order = t.lastIp :: t.order.dropLast := by
    rw [← t.order_succ, register, registerIp, hnew]
    rfl
  have hfind : (t.register r).findTableByIp ip =
      t.order.dropLast.find? fun j => (t.iptable j).ipaddr = ip := by
    rw [findTableByIp, horder, List.find?_cons, hfirst]
    simp only [hne, decide_false]
    exact List.find?_congr fun j hj => by rw [hrest j hj]
  have hold : t.findTableByIp ip =
      (t.order.dropLast.find? fun j => (t.iptable j).ipaddr = ip).or
        ([t.lastIp].find? fun j => (t.iptable j).ipaddr = ip) := by
    rw [← List.find?_append, hordered, findTableByIp]
  rw [hfind, hold]
  cases hfound : t.order.dropLast.find? fun j => (t.iptable j).ipaddr = ip with
  | some j =>
    have hj : j ≠ t.lastIp := by
      rintro rfl
      exact hlast (List.mem_of_find?_eq_some hfound)
    rw [Option.some_or, Option.filter_some, if_pos (decide_eq_true hj)]
  | none =>
    rw [Option.none_or, List.find?_singleton]
    split
    · rw [Option.filter_some, if_neg (by simp)]
    · rfl

/-- The route to an address goes over a link. -/
def Routes (t : IpTable) (ip link : Uid) : Prop :=
  ∃ ipt, t.findTableByIp ip = some ipt ∧ (t.iptable ipt).link = link

theorem register_routes (t : IpTable) (r : Registration) : (t.register r).Routes r.ip r.link := by
  cases hfind : t.findTableByIp r.ip with
  | some ipt =>
    refine ⟨ipt, by rw [findTableByIp_register_known hfind, hfind], ?_⟩
    rw [register, registerIp, hfind]
    simp
  | none =>
    have hlast : (t.register r).iptable t.lastIp = r.write.make (t.iptable t.lastIp) := by
      rw [register, registerIp, hfind]
      exact Function.update_self _ _ _
    obtain ⟨ipt, hipt⟩ := exists_findTableByIp (t := t.register r) (j := t.lastIp)
      (show _ = r.ip by rw [hlast]; rfl)
    refine ⟨ipt, hipt, ?_⟩
    by_cases hj : ipt = t.lastIp
    · rw [hj, hlast]
      rfl
    · have hip := findTableByIp_ipaddr hipt
      rw [(t.register_evicts r hfind).2.2 ipt hj] at hip
      obtain ⟨old, hold⟩ := exists_findTableByIp hip
      rw [hfind] at hold
      cases hold

/-- A registration keeps the route to another address unless it takes the
place of its entry. -/
theorem routes_register_iff {t : IpTable} {r : Registration} {ip link : Uid} (hne : r.ip ≠ ip) :
    (t.register r).Routes ip link ↔
      ∃ ipt, t.findTableByIp ip = some ipt ∧ (t.iptable ipt).link = link ∧
        ((t.findTableByIp r.ip).isSome ∨ ipt ≠ t.lastIp) := by
  cases hfind : t.findTableByIp r.ip with
  | some known =>
    rw [Routes, findTableByIp_register_known hfind]
    refine exists_congr fun ipt => and_congr_right fun hipt => ?_
    have hother : ipt ≠ known := by
      rintro rfl
      exact hne ((findTableByIp_ipaddr hfind).symm.trans (findTableByIp_ipaddr hipt))
    rw [(t.register_updates r known hfind).2 ipt hother]
    simp
  | none =>
    rw [Routes, findTableByIp_register_new hfind hne]
    simp only [Option.filter_eq_some_iff, ne_eq, decide_eq_true_eq, Option.isSome_none,
      Bool.false_eq_true, false_or]
    constructor
    · rintro ⟨ipt, ⟨hipt, hlast⟩, hlink⟩
      rw [(t.register_evicts r hfind).2.2 ipt hlast] at hlink
      exact ⟨ipt, hipt, hlink, hlast⟩
    · rintro ⟨ipt, hipt, hlink, hlast⟩
      refine ⟨ipt, ⟨hipt, hlast⟩, ?_⟩
      rwa [(t.register_evicts r hfind).2.2 ipt hlast]

/-- A registration without a name changes nothing exactly when its route is
there already. -/
theorem register_eq_iff {t : IpTable} {r : Registration} (hd : r.d = none) :
    t.register r = t ↔ t.Routes r.ip r.link := by
  constructor
  · intro heq
    have hroutes := t.register_routes r
    rwa [heq] at hroutes
  · rintro ⟨ipt, hfind, hlink⟩
    rw [register, registerIp, hfind, hd]
    dsimp only
    rw [Option.map_none, Option.getD_none, ← hlink, Function.update_eq_self]

end IpTable

/-! ## Mesh packages -/

/-- A mesh package as `sendPackageByTable` makes it, of a package of the type
`letter`; `more` are the bytes by which the letter of `MESH_M` exceeds the head. -/
structure MeshPackage where
  rid : Rid
  dest : Uid
  letter : UInt8
  body : List UInt8
  more : List UInt8
  more_length : more.length = PackageType.MESH_M.code.toNat - MESH_HEAD_SIZE

namespace MeshPackage

def bytes (p : MeshPackage) : List UInt8 :=
  meshed (p.rid.bytes ++ [p.letter] ++ p.body) p.dest ++ p.more

/-- What lies behind the letter of the inner package. -/
def behind (p : MeshPackage) : List UInt8 := p.body ++ p.more

theorem behind_length (p : MeshPackage) : UID_SIZE + 1 ≤ p.behind.length := by
  rw [behind, List.length_append, p.more_length]
  exact Nat.le_trans (by decide) (Nat.le_add_left _ _)

/-- The address that `forward` finds, one byte too far. -/
def misread (p : MeshPackage) : Uid :=
  ⟨(p.behind.drop 1).take UID_SIZE, by
    have hlength : ems.UID_SIZE + 1 ≤ p.behind.length := p.behind_length
    rw [List.length_take, List.length_drop]
    exact Nat.min_eq_left (Nat.le_sub_of_add_le hlength)⟩

/-- The letter that `forward` looks at is that of an identified package. -/
def Mistaken (p : MeshPackage) : Prop :=
  p.behind.head? = some PackageType.IDENTIFIED_PACKAGE_M.code

instance (p : MeshPackage) : Decidable p.Mistaken := by
  unfold Mistaken
  infer_instance

theorem bytes_eq (p : MeshPackage) :
    p.bytes = p.rid.bytes ++ [PackageType.MESH_M.code] ++ p.dest.toList ++ [p.letter] ++ p.behind := by
  simp [bytes, meshed, behind, Rid.bytes]

/-- The bytes in front of those behind the inner letter. -/
theorem bytes_drop (p : MeshPackage) :
    p.bytes.drop (PACKAGE_HEAD + MESH_HEAD_SIZE) = p.behind := by
  rw [bytes_eq]
  apply List.drop_left'
  simp only [List.length_append, List.length_singleton, List.Vector.toList_length]
  rfl

theorem bytes_length (p : MeshPackage) :
    PACKAGE_HEAD + MESH_HEAD_SIZE + 1 + UID_SIZE ≤ p.bytes.length := by
  have hlength := p.behind_length
  rw [← bytes_drop, List.length_drop] at hlength
  omega

end MeshPackage

namespace Node

/-- What goes out over an indirect route is such a package. -/
theorem sent_meshPackage {s : Node} {data : Region} {len : Nat} {ipt : Fin IPTABLE_SIZE}
    (hindirect : (s.table.iptable ipt).ipaddr ≠ (s.table.iptable ipt).link)
    (htype : s.memory data RID_SIZE ≠ PackageType.MESH_M.code) (hlen : PACKAGE_HEAD ≤ len)
    (hshort : len ≤ BUF_SIZE) :
    ∃ p : MeshPackage, s.sent (s.sendPackageByTable data len ipt) = [p.bytes] ∧
      p.rid = ridAt (s.memory data) 0 ∧ p.dest = (s.table.iptable ipt).ipaddr ∧
      p.letter = s.memory data RID_SIZE ∧
      p.body = load (s.memory data) PACKAGE_HEAD (len - PACKAGE_HEAD) := by
  refine ⟨{
    rid := ridAt (s.memory data) 0
    dest := (s.table.iptable ipt).ipaddr
    letter := s.memory data RID_SIZE
    body := load (s.memory data) PACKAGE_HEAD (len - PACKAGE_HEAD)
    more := load s.buf (len + MESH_HEAD_SIZE) (PackageType.MESH_M.code.toNat - MESH_HEAD_SIZE)
    more_length := load_length _ _ _ }, ?_, rfl, rfl, rfl, rfl⟩
  rw [sent_meshed hindirect htype hlen hshort, MeshPackage.bytes]
  have hsplit : load (s.memory data) 0 len =
      (ridAt (s.memory data) 0).bytes ++ [s.memory data RID_SIZE] ++
        load (s.memory data) PACKAGE_HEAD (len - PACKAGE_HEAD) := by
    have happend := load_append (s.memory data) 0 PACKAGE_HEAD (len - PACKAGE_HEAD)
    rw [Nat.zero_add, Nat.add_sub_cancel' hlen] at happend
    exact happend
  rw [hsplit]

/-- The package lies in `uip_buf`. -/
def Received (s : Node) (p : MeshPackage) : Prop :=
  load s.uip_appdata 0 p.bytes.length = p.bytes

theorem Received.behind {s : Node} {p : MeshPackage} (h : s.Received p) {i : Nat}
    (hi : i < p.behind.length) :
    p.behind[i]? = some (s.uip_appdata (PACKAGE_HEAD + MESH_HEAD_SIZE + i)) := by
  have hlength := congrArg List.length p.bytes_drop
  rw [List.length_drop] at hlength
  rw [← p.bytes_drop, List.getElem?_drop, ← h, load_getElem?, if_pos (by omega), Nat.zero_add]

theorem Received.mistaken {s : Node} {p : MeshPackage} (h : s.Received p) :
    p.Mistaken ↔ s.uip_appdata (PACKAGE_HEAD + MESH_HEAD_SIZE) =
      PackageType.IDENTIFIED_PACKAGE_M.code := by
  have hlength := p.behind_length
  rw [MeshPackage.Mistaken, List.head?_eq_getElem?, h.behind (by omega), Option.some.injEq,
    Nat.add_zero]

theorem Received.misread {s : Node} {p : MeshPackage} (h : s.Received p) :
    uidAt s.uip_appdata (PACKAGE_HEAD + MESH_HEAD_SIZE + 1) = p.misread := by
  have hlength := p.behind_length
  apply List.Vector.toList_injective
  apply List.ext_getElem?
  intro i
  change (load s.uip_appdata (PACKAGE_HEAD + MESH_HEAD_SIZE + 1) UID_SIZE)[i]? =
    ((p.behind.drop 1).take UID_SIZE)[i]?
  rw [load_getElem?, List.getElem?_take, List.getElem?_drop]
  by_cases hi : i < UID_SIZE
  · rw [if_pos hi, if_pos hi, h.behind (by omega), Nat.add_assoc]
  · rw [if_neg hi, if_neg hi]

theorem sendPackageByTable_table (s : Node) (data : Region) (len : Nat) (ipt : Fin IPTABLE_SIZE) :
    (s.sendPackageByTable data len ipt).table = s.table := by
  rw [sendPackageByTable_eq]
  split
  · rw [insertMeshHead_eq]
    split
    · rfl
    · rfl
  · split
    · cases data <;> rfl
    · rfl

/-- The registration that `forward` makes for a mistaken package. -/
def misregistration (s : Node) (p : MeshPackage) : Registration :=
  { ip := p.misread
    link := s.srcipaddr
    d := none }

/-- `forward` looks for the source of an identified package one byte behind
the place where it lies. -/
theorem forward_table {s : Node} {p : MeshPackage} (h : s.Received p) :
    (s.forward p.bytes.length).table =
      if p.Mistaken then s.table.register (s.misregistration p) else s.table := by
  have hlength := p.bytes_length
  have hinner : ((s.emit (.forward (ridAt s.uip_appdata 0))).registerInner p.bytes.length).table =
      if p.Mistaken then s.table.register (s.misregistration p) else s.table := by
    rw [registerInner]
    simp only [h.mistaken]
    by_cases hletter : s.uip_appdata (PACKAGE_HEAD + MESH_HEAD_SIZE) =
        PackageType.IDENTIFIED_PACKAGE_M.code
    · rw [if_pos ⟨hlength, hletter⟩, if_pos hletter, misregistration, ← h.misread]
      rfl
    · rw [if_neg fun hboth => hletter hboth.2, if_neg hletter]
      rfl
  rw [forward]
  dsimp only
  rw [if_neg (by omega)]
  split
  · rw [sendPackageByTable_table, hinner]
  · exact hinner

/-! ## Reverse routes -/

/-- A relay records the route to the source of an identified package, and for
a package of any other type it leaves the table alone. -/
def RecordsSource (s : Node) (p : MeshPackage) : Prop :=
  (∀ (src : Uid) (text : List UInt8), p.letter = PackageType.IDENTIFIED_PACKAGE_M.code →
    p.body = src.toList ++ text → (s.forward p.bytes.length).table.Routes src s.srcipaddr) ∧
  (p.letter ≠ PackageType.IDENTIFIED_PACKAGE_M.code →
    (s.forward p.bytes.length).table = s.table)

/-- What a relay does with an identified package from `src`: either it is the
source itself that lies one byte behind, or the route has been there before and
what is registered instead does not take its place. -/
def Reaches (s : Node) (p : MeshPackage) (src : Uid) : Prop :=
  (p.Mistaken ∧ p.misread = src) ∨
    ∃ ipt, s.table.findTableByIp src = some ipt ∧ (s.table.iptable ipt).link = s.srcipaddr ∧
      (p.Mistaken → (s.table.findTableByIp p.misread).isSome ∨ ipt ≠ s.table.lastIp)

/-- The table routes to the source after `forward` exactly when it did before
or the source is misread as itself. -/
theorem forward_routes_iff {s : Node} {p : MeshPackage} (h : s.Received p) (src : Uid) :
    (s.forward p.bytes.length).table.Routes src s.srcipaddr ↔ s.Reaches p src := by
  rw [forward_table h, Reaches]
  by_cases hmistaken : p.Mistaken
  · rw [if_pos hmistaken]
    by_cases hsame : p.misread = src
    · subst hsame
      exact iff_of_true (s.table.register_routes (s.misregistration p)) (.inl ⟨hmistaken, rfl⟩)
    · rw [IpTable.routes_register_iff (r := s.misregistration p) hsame]
      simp [hmistaken, hsame, misregistration]
  · rw [if_neg hmistaken]
    simp [hmistaken, IpTable.Routes]

/-- A relay records the source of an identified package just when it reads it
right, which takes a source and a text made of the letter itself, or knows the
route; for a package of another type it leaves the table alone just when what
lies behind the letter does not look like an identified package or is a route
that is known. -/
theorem recordsSource_iff {s : Node} {p : MeshPackage} (h : s.Received p) :
    s.RecordsSource p ↔
      (∀ (src : Uid) (text : List UInt8), p.letter = PackageType.IDENTIFIED_PACKAGE_M.code →
        p.body = src.toList ++ text → s.Reaches p src) ∧
      (p.letter ≠ PackageType.IDENTIFIED_PACKAGE_M.code → p.Mistaken →
        s.table.Routes p.misread s.srcipaddr) := by
  apply and_congr
  · refine forall_congr' fun src => forall_congr' fun text => forall_congr' fun hletter => ?_
    exact forall_congr' fun hbody => forward_routes_iff h src
  · refine forall_congr' fun hletter => ?_
    rw [forward_table h]
    by_cases hmistaken : p.Mistaken
    · rw [if_pos hmistaken, IpTable.register_eq_iff rfl]
      simp [hmistaken, misregistration]
    · simp [hmistaken]

/-- A node that has just started, with a mesh package in `uip_buf`. -/
def relaying (p : MeshPackage) : Node :=
  { boot (linkLocal 0 1) (ems.nameOf [97]) (fun _ => 0) with
    uip_appdata := store (fun _ => 0) 0 p.bytes
    srcipaddr := linkLocal 0 2 }

theorem relaying_received (p : MeshPackage) : (relaying p).Received p :=
  load_store (fun _ => 0) 0 p.bytes

/-- A mesh package from the neighbour `fe80::2` with the text `hi`. -/
def meshedHi (letter : UInt8) (head : List UInt8) : MeshPackage :=
  { rid :=
      { h0 := 1
        h1 := 2
        h2 := 3
        h3 := 4 }
    dest := linkLocal 0 3
    letter
    body := head ++ [104, 105]
    more := List.replicate (PackageType.MESH_M.code.toNat - MESH_HEAD_SIZE) 0
    more_length := List.length_replicate }

/-- The text of a plain package is not misread. -/
theorem relaying_plain :
    (relaying (meshedHi PackageType.PACKAGE_M.code [])).RecordsSource
      (meshedHi PackageType.PACKAGE_M.code []) :=
  (recordsSource_iff (relaying_received _)).mpr
    ⟨fun _ _ hletter => absurd hletter (by decide), fun _ hmistaken => absurd hmistaken (by decide)⟩

/-- The route to the source of an identified package is not recorded. -/
theorem source_unrecorded :
    (relaying (meshedHi PackageType.IDENTIFIED_PACKAGE_M.code (linkLocal 0 2).toList)).Received
      (meshedHi PackageType.IDENTIFIED_PACKAGE_M.code (linkLocal 0 2).toList) ∧
    ¬ (relaying (meshedHi PackageType.IDENTIFIED_PACKAGE_M.code (linkLocal 0 2).toList)).RecordsSource
      (meshedHi PackageType.IDENTIFIED_PACKAGE_M.code (linkLocal 0 2).toList) := by
  refine ⟨relaying_received _, fun hrecords => ?_⟩
  have hroute := hrecords.1 (linkLocal 0 2) [104, 105] rfl rfl
  rw [forward_routes_iff (relaying_received _)] at hroute
  obtain ⟨hmistaken, -⟩ | ⟨ipt, hknown, -⟩ := hroute
  · exact absurd hmistaken (by decide)
  · have hnone : IpTable.zero.findTableByIp (linkLocal 0 2) = none := by decide
    cases hnone.symm.trans hknown

end Node

end concretid.com
