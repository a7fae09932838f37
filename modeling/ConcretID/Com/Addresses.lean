import ConcretID.Library.Fifo
import ConcretID.Com.IpTable

open concretid.fifo
open concretid.ems (Uid Name cstring nameOf strncpy null_uid)

namespace concretid.com

/-- The arguments of a `registerIp` call; `d` is `none` for `NULL`. -/
structure Registration where
  ip : Uid
  link : Uid
  d : Option (List UInt8)

/-- A `registerIp` call as a write to the table of the addresses. -/
def Registration.write (r : Registration) : Write IpEntry.ipaddr where
  of := r.ip
  change e := { e with link := r.link, name := (r.d.map nameOf).getD e.name }
  make e :=
    { ipaddr := r.ip
      link := r.link
      name := (r.d.map nameOf).getD ⟨e.name.toList.set 0 0, by simp⟩ }
  key_change _ := rfl
  key_make _ := rfl

@[simp] theorem Registration.write_of (r : Registration) : r.write.of = r.ip := rfl

/-- The link of the latest of the calls for an address. -/
def latestLink (ip : Uid) (calls : List Registration) : Option Uid :=
  ((calls.filter (·.ip = ip)).map (·.link)).getLast?

/-- The name of the latest of the calls for an address that give one. -/
def latestName (ip : Uid) (calls : List Registration) : Option (List UInt8) :=
  ((calls.filter (·.ip = ip)).filterMap (·.d)).getLast?

namespace IpTable

def register (t : IpTable) (r : Registration) : IpTable := t.registerIp r.ip r.link r.d

/-- The table after a sequence of `registerIp` calls. -/
def registered (calls : List Registration) : IpTable := calls.foldl register zero

/-- The addresses that a sequence of calls inserts, oldest first: those that
`findTableByIp` does not find. -/
def inserted : IpTable → List Registration → List Uid
  | _, [] => []
  | t, r :: calls =>
    (if t.findTableByIp r.ip = none then [r.ip] else []) ++ inserted (t.register r) calls

/-- The entries in the order of the lookups. -/
def entries (t : IpTable) : List IpEntry := t.order.map t.iptable

/-- The addresses in the order of the lookups. -/
def addresses (t : IpTable) : List Uid := t.order.map fun j => (t.iptable j).ipaddr

/-! ## The order of the lookups -/

theorem order_nodup (t : IpTable) : t.order.Nodup := by
  have hnodup : ∀ last : Fin IPTABLE_SIZE,
      ((List.finRange IPTABLE_SIZE).map fun i => last - i - 1).Nodup := by decide
  exact hnodup t.lastIp

/-- `lastIp` is the last place of the order, and the first one after an insertion. -/
theorem order_succ (t : IpTable) :
    ((List.finRange IPTABLE_SIZE).map fun i => t.lastIp + 1 - i - 1) =
      t.lastIp :: t.order.dropLast := by
  have hsucc : ∀ last : Fin IPTABLE_SIZE,
      ((List.finRange IPTABLE_SIZE).map fun i => last + 1 - i - 1) =
        last :: ((List.finRange IPTABLE_SIZE).map fun i => last - i - 1).dropLast := by decide
  exact hsucc t.lastIp

theorem order_getLast (t : IpTable) : t.order.getLast? = some t.lastIp := by
  have hlast : ∀ last : Fin IPTABLE_SIZE,
      ((List.finRange IPTABLE_SIZE).map fun i => last - i - 1).getLast? = some last := by decide
  exact hlast t.lastIp

theorem order_length (t : IpTable) : t.order.length = IPTABLE_SIZE := by
  simp [order]

theorem addresses_eq (t : IpTable) : t.addresses = t.entries.map IpEntry.ipaddr := by
  simp [addresses, entries]

theorem findTableByIp_eq_none (t : IpTable) (ip : Uid) :
    t.findTableByIp ip = none ↔ ip ∉ t.entries.map IpEntry.ipaddr := by
  simp [findTableByIp, entries, List.find?_eq_none]

theorem findTableByIp_map (t : IpTable) (ip : Uid) :
    (t.findTableByIp ip).map t.iptable = t.entries.find? (IpEntry.ipaddr · = ip) := by
  rw [findTableByIp, entries, List.find?_map]
  rfl

/-- `registerIp` is the write of its arguments to the entries. -/
theorem entries_register (t : IpTable) (r : Registration) :
    (t.register r).entries = put t.entries r.write := by
  rw [register, registerIp]
  cases hfind : t.findTableByIp r.ip with
  | some ipt =>
    have hknown : r.write.of ∈ t.entries.map IpEntry.ipaddr := by
      by_contra hnew
      rw [(t.findTableByIp_eq_none r.ip).mpr hnew] at hfind
      cases hfind
    rw [put, if_pos hknown]
    exact map_update_find t.order t.order_nodup t.iptable (fun e => e.ipaddr = r.ip)
      r.write.change hfind
  | none =>
    have hnew : r.write.of ∉ t.entries.map IpEntry.ipaddr := (t.findTableByIp_eq_none r.ip).mp hfind
    have hlast : t.entries.getLast? = some (t.iptable t.lastIp) := by
      rw [entries, List.getLast?_map, order_getLast, Option.map_some]
    rw [put, if_neg hnew, hlast]
    change List.map _ ((List.finRange IPTABLE_SIZE).map fun i => t.lastIp + 1 - i - 1) = _
    rw [order_succ, List.map_cons, entries, ← List.map_dropLast]
    congr 1
    · exact Function.update_self _ _ _
    · apply List.map_congr_left
      intro j hj
      apply Function.update_of_ne
      rintro rfl
      have hordered := List.dropLast_append_getLast? _ t.order_getLast
      have hnodup := t.order_nodup
      rw [← hordered, List.nodup_append] at hnodup
      exact hnodup.2.2 _ hj _ (List.mem_singleton_self _) rfl

theorem entries_registered (t : IpTable) (calls : List Registration) :
    (calls.foldl register t).entries = (calls.map Registration.write).foldl put t.entries := by
  induction calls generalizing t with
  | nil => rfl
  | cons r calls ih =>
    rw [List.foldl_cons, ih, entries_register, List.map_cons, List.foldl_cons]

theorem inserted_eq (t : IpTable) (calls : List Registration) :
    t.inserted calls = fifo.inserted t.entries (calls.map Registration.write) := by
  induction calls generalizing t with
  | nil => rfl
  | cons r calls ih =>
    rw [inserted, ih, entries_register, List.map_cons, fifo.inserted]
    congr 1
    by_cases hnew : t.findTableByIp r.ip = none
    · rw [if_pos hnew, Registration.write_of, if_neg ((t.findTableByIp_eq_none r.ip).mp hnew)]
    · rw [if_neg hnew, if_pos]
      by_contra hout
      exact hnew ((t.findTableByIp_eq_none r.ip).mpr hout)

/-! ## What an entry carries -/

/-- The later calls for an address give its entry the latest link. -/
theorem changed_link (ip : Uid) (e : IpEntry) (calls : List Registration) :
    (changed ip e (calls.map Registration.write)).link = (latestLink ip calls).getD e.link := by
  induction calls generalizing e with
  | nil => simp [changed, latestLink]
  | cons r calls ih =>
    rw [List.map_cons, changed_cons, ih]
    by_cases hip : r.ip = ip
    · simp only [Registration.write_of, hip, if_true, latestLink, List.filter_cons, decide_true,
        List.map_cons, List.getLast?_cons, Option.getD_some]
      rfl
    · simp [latestLink, hip]

/-- The later calls for an address give its entry the latest name. -/
theorem changed_name (ip : Uid) (e : IpEntry) (calls : List Registration) :
    (changed ip e (calls.map Registration.write)).name =
      ((latestName ip calls).map nameOf).getD e.name := by
  induction calls generalizing e with
  | nil => simp [changed, latestName]
  | cons r calls ih =>
    rw [List.map_cons, changed_cons, ih]
    by_cases hip : r.ip = ip
    · simp only [Registration.write_of, hip, if_true, latestName, List.filter_cons, decide_true]
      cases hd : r.d with
      | none => simp [Registration.write, hd]
      | some d =>
        rw [List.filterMap_cons_some hd, List.getLast?_cons, Option.map_some, Option.getD_some]
        cases hlatest : latestName ip calls with
        | none =>
          rw [latestName] at hlatest
          simp [Registration.write, hd, hlatest]
        | some name =>
          rw [latestName] at hlatest
          simp [hlatest]
    · simp [latestName, hip]

/-- The entry carries the latest link of the calls for its address, and the
first bytes of their latest name or, without one, an empty name. -/
structure Carries (e : IpEntry) (ip : Uid) (calls : List Registration) : Prop where
  ipaddr : e.ipaddr = ip
  link : latestLink ip calls = some e.link
  named : ∀ d, latestName ip calls = some d → e.name = nameOf d
  unnamed : latestName ip calls = none → cstring e.name.toList = []

/-- The entry made by a call carries what this and the later calls give. -/
theorem changed_make_carries (r : Registration) (oldest : IpEntry) (calls : List Registration) :
    Carries (changed r.ip (r.write.make oldest) (calls.map Registration.write)) r.ip
      (r :: calls) where
  ipaddr := by
    have hkey : ∀ ws : List (Write IpEntry.ipaddr), ∀ e : IpEntry,
        (ws.foldl (fun e w => w.change e) e).ipaddr = e.ipaddr := by
      intro ws
      induction ws with
      | nil => exact fun _ => rfl
      | cons w ws ih => exact fun e => (ih _).trans (w.key_change e)
    exact hkey _ _
  link := by
    rw [changed_link]
    simp only [latestLink, List.filter_cons, decide_true, if_true, List.map_cons, List.getLast?_cons]
    rfl
  named d hd := by
    rw [changed_name]
    cases hlatest : latestName r.ip calls with
    | none =>
      rw [latestName] at hd hlatest
      cases hrd : r.d with
      | none => simp [hrd, hlatest] at hd
      | some d' =>
        have hsame : d' = d := by simpa [hrd, List.getLast?_cons, hlatest] using hd
        simp only [Registration.write, hrd, hsame]
        rfl
    | some name =>
      rw [latestName] at hd hlatest
      cases hrd : r.d with
      | none =>
        have hsame : name = d := by simpa [hrd, hlatest] using hd
        simp [hsame]
      | some d' =>
        have hsame : name = d := by simpa [hrd, List.getLast?_cons, hlatest] using hd
        simp [hsame]
  unnamed hnone := by
    rw [changed_name]
    rw [latestName] at hnone
    cases hrd : r.d with
    | some d => simp [hrd, List.getLast?_cons] at hnone
    | none =>
      have hlatest : latestName r.ip calls = none := by simpa [hrd, latestName] using hnone
      have hlength : oldest.name.toList.length = NAME_SIZE := oldest.name.2
      rw [hlatest]
      cases hname : oldest.name.toList with
      | nil => simp [hname] at hlength
      | cons c name =>
        simp only [Registration.write, hrd, hname, cstring]
        rfl

/-! ## Registration histories -/

/-- The table after calls for nonzero addresses: a queue of the last inserted
addresses, each with what the calls since its insertion have given it. -/
structure Queue (calls : List Registration) : Prop where
  /-- No nonzero address has two entries. -/
  distinct : ∀ i j, ((registered calls).iptable i).ipaddr ≠ null_uid →
    ((registered calls).iptable i).ipaddr = ((registered calls).iptable j).ipaddr → i = j
  /-- An inserted address is found until as many others have been inserted as
  the table has entries. -/
  found : ∀ before r after, calls = before ++ r :: after →
    (registered before).findTableByIp r.ip = none →
    ((registered (before ++ [r])).inserted after).countP (· ≠ r.ip) < IPTABLE_SIZE →
    ∃ ipt, (registered calls).findTableByIp r.ip = some ipt ∧
      Carries ((registered calls).iptable ipt) r.ip (r :: after)
  /-- The entries are those of the last inserted addresses. -/
  addresses : (registered calls).addresses =
    ((zero.inserted calls).reverse ++ List.replicate IPTABLE_SIZE null_uid).take IPTABLE_SIZE
  /-- An insertion takes the place of the oldest one and changes no other entry. -/
  evicts : ∀ r, (registered calls).findTableByIp r.ip = none →
    ((registered calls).register r).addresses = r.ip :: (registered calls).addresses.dropLast ∧
    (registered calls).addresses.getLast? =
      some ((registered calls).iptable (registered calls).lastIp).ipaddr ∧
    ∀ i, i ≠ (registered calls).lastIp →
      ((registered calls).register r).iptable i = (registered calls).iptable i
  /-- An update of a known address changes no other entry. -/
  updates : ∀ r ipt, (registered calls).findTableByIp r.ip = some ipt →
    ((registered calls).register r).addresses = (registered calls).addresses ∧
    ∀ i, i ≠ ipt → ((registered calls).register r).iptable i = (registered calls).iptable i

theorem entries_zero_keys :
    zero.entries.map IpEntry.ipaddr = List.replicate IPTABLE_SIZE null_uid := rfl

theorem entries_length (t : IpTable) : t.entries.length = IPTABLE_SIZE := by
  rw [entries, List.length_map, order_length]

theorem registered_distinct (calls : List Registration)
    (hnonzero : ∀ r ∈ calls, r.ip ≠ null_uid) (i j : Fin IPTABLE_SIZE)
    (hi : ((registered calls).iptable i).ipaddr ≠ null_uid)
    (hsame : ((registered calls).iptable i).ipaddr = ((registered calls).iptable j).ipaddr) :
    i = j := by
  have hnodup : (((registered calls).entries.map IpEntry.ipaddr).filter (· ≠ null_uid)).Nodup := by
    rw [registered, entries_registered]
    apply nodup_run
    · intro w hw
      obtain ⟨r, hr, rfl⟩ := List.mem_map.mp hw
      exact hnonzero r hr
    · rw [entries_zero_keys]
      simp
  rw [← addresses_eq, IpTable.addresses, List.filter_map] at hnodup
  refine List.inj_on_of_nodup_map hnodup ?_ ?_ hsame
  · simpa [mem_order] using hi
  · simpa [mem_order] using hsame ▸ hi

theorem registered_found (before : List Registration) (r : Registration)
    (after : List Registration) (hnew : (registered before).findTableByIp r.ip = none)
    (hroom : ((registered (before ++ [r])).inserted after).countP (· ≠ r.ip) < IPTABLE_SIZE) :
    ∃ ipt, (registered (before ++ r :: after)).findTableByIp r.ip = some ipt ∧
      Carries ((registered (before ++ r :: after)).iptable ipt) r.ip (r :: after) := by
  have hstep : registered (before ++ [r]) = (registered before).register r := by
    simp [registered]
  have hrun : registered (before ++ r :: after) =
      after.foldl register ((registered before).register r) := by
    simp [registered]
  rw [hstep, inserted_eq, entries_register] at hroom
  have hout := ((registered before).findTableByIp_eq_none r.ip).mp hnew
  obtain ⟨oldest, -, hfind⟩ := find_inserted (w := r.write) hout (after.map Registration.write)
    (by rwa [entries_length])
  rw [← entries_register, ← entries_registered, ← hrun, Registration.write_of,
    ← findTableByIp_map, Option.map_eq_some_iff] at hfind
  obtain ⟨ipt, hipt, hentry⟩ := hfind
  exact ⟨ipt, hipt, hentry ▸ changed_make_carries r oldest after⟩

theorem registered_addresses (calls : List Registration) :
    (registered calls).addresses =
      ((zero.inserted calls).reverse ++ List.replicate IPTABLE_SIZE null_uid).take
        IPTABLE_SIZE := by
  rw [addresses_eq, registered, entries_registered, keys_run, ← inserted_eq, entries_zero_keys,
    entries_length]

theorem register_evicts (t : IpTable) (r : Registration) (hnew : t.findTableByIp r.ip = none) :
    (t.register r).addresses = r.ip :: t.addresses.dropLast ∧
    t.addresses.getLast? = some (t.iptable t.lastIp).ipaddr ∧
    ∀ i, i ≠ t.lastIp → (t.register r).iptable i = t.iptable i := by
  refine ⟨?_, ?_, ?_⟩
  · rw [addresses_eq, entries_register, keys_put_new ((t.findTableByIp_eq_none r.ip).mp hnew),
      ← addresses_eq, Registration.write_of]
    intro hnil
    simpa [hnil] using t.entries_length
  · rw [IpTable.addresses, List.getLast?_map, order_getLast, Option.map_some]
  · intro i hi
    rw [register, registerIp, hnew]
    exact Function.update_of_ne hi _ _

theorem register_updates (t : IpTable) (r : Registration) (ipt : Fin IPTABLE_SIZE)
    (hknown : t.findTableByIp r.ip = some ipt) :
    (t.register r).addresses = t.addresses ∧
    ∀ i, i ≠ ipt → (t.register r).iptable i = t.iptable i := by
  constructor
  · rw [addresses_eq, entries_register, keys_put_known, ← addresses_eq]
    by_contra hnew
    rw [(t.findTableByIp_eq_none r.ip).mpr hnew] at hknown
    cases hknown
  · intro i hi
    rw [register, registerIp, hknown]
    exact Function.update_of_ne hi _ _

/-- After every sequence of `registerIp` calls for nonzero addresses the
table is the queue of the last inserted ones. -/
theorem registered_queue (calls : List Registration) (hnonzero : ∀ r ∈ calls, r.ip ≠ null_uid) :
    Queue calls where
  distinct := registered_distinct calls hnonzero
  found := by
    rintro before r after rfl
    exact registered_found before r after
  addresses := registered_addresses calls
  evicts := register_evicts (registered calls)
  updates := register_updates (registered calls)

/-- Calls for fourteen addresses, and one more for the last of them without a name. -/
def fifteenCalls : List Registration :=
  (List.range' 1 14).map (fun i => ⟨ems.linkLocal 0 (.ofNat i), ems.linkLocal 0 2, some [0x60 + .ofNat i]⟩) ++
    [⟨ems.linkLocal 0 14, ems.linkLocal 0 3, none⟩]

/-- The first two addresses have been evicted. -/
theorem fifteenCalls_queue :
    Queue fifteenCalls ∧ (registered fifteenCalls).addresses =
      [14, 13, 12, 11, 10, 9, 8, 7, 6, 5, 4, 3].map (ems.linkLocal 0) := by
  have hqueue : Queue fifteenCalls := registered_queue fifteenCalls (by decide)
  refine ⟨hqueue, hqueue.addresses.trans ?_⟩
  decide

end IpTable

end concretid.com
