import ConcretID.Com.Types

open concretid.memory
open concretid.ems (Uid Name strncmp_eq nameOf null_uid)

namespace concretid.com

/-- An `iptable_t`: the neighbour through which an address is reached. -/
structure IpEntry where
  ipaddr : Uid
  link : Uid
  name : Name
  deriving DecidableEq

structure IpTable where
  iptable : Fin IPTABLE_SIZE → IpEntry
  lastIp : Fin IPTABLE_SIZE

namespace IpTable

def zero : IpTable :=
  { iptable := fun _ =>
      { ipaddr := null_uid
        link := null_uid
        name := List.Vector.replicate NAME_SIZE 0 }
    lastIp := 0 }

/-- The entries in the order in which the lookups visit them, newest first:
`(lastIp-i-1+IPTABLE_SIZE)%IPTABLE_SIZE`. -/
def order (t : IpTable) : List (Fin IPTABLE_SIZE) :=
  (List.finRange IPTABLE_SIZE).map fun i => t.lastIp - i - 1

def findTableByName (t : IpTable) (name : List UInt8) : Option (Fin IPTABLE_SIZE) :=
  t.order.find? fun j => strncmp_eq (t.iptable j).name.toList name NAME_SIZE

def findTableByIp (t : IpTable) (ip : Uid) : Option (Fin IPTABLE_SIZE) :=
  t.order.find? fun j => (t.iptable j).ipaddr = ip

/-- `registerIp`; `d` is the string at the pointer, `none` for `NULL`. -/
def registerIp (t : IpTable) (ip link : Uid) (d : Option (List UInt8)) : IpTable :=
  match t.findTableByIp ip with
  | some ipt =>
    let name := (d.map nameOf).getD (t.iptable ipt).name
    { t with iptable := Function.update t.iptable ipt { t.iptable ipt with link, name } }
  | none =>
    let kept := (t.iptable t.lastIp).name
    let name := (d.map nameOf).getD ⟨kept.toList.set 0 0, by simp⟩
    { iptable := Function.update t.iptable t.lastIp { ipaddr := ip, link, name }
      lastIp := t.lastIp + 1 }

/-- Every entry is visited. -/
theorem mem_order (t : IpTable) (j : Fin IPTABLE_SIZE) : j ∈ t.order := by
  have hvisit : ∀ last j : Fin IPTABLE_SIZE, last - (last - 1 - j) - 1 = j := by decide
  exact List.mem_map.mpr ⟨t.lastIp - 1 - j, List.mem_finRange _, hvisit _ _⟩

theorem findTableByIp_ipaddr {t : IpTable} {ip : Uid} {j : Fin IPTABLE_SIZE}
    (h : t.findTableByIp ip = some j) : (t.iptable j).ipaddr = ip := by
  simpa using List.find?_some h

/-- An address with an entry is found. -/
theorem exists_findTableByIp {t : IpTable} {ip : Uid} {j : Fin IPTABLE_SIZE}
    (h : (t.iptable j).ipaddr = ip) : ∃ ipt, t.findTableByIp ip = some ipt := by
  rw [← Option.isSome_iff_exists, findTableByIp, List.find?_isSome]
  exact ⟨j, t.mem_order j, by simpa using h⟩

end IpTable

end concretid.com
