import ConcretID.Ems.Effects
import ConcretID.Ems.Neighbors.Register

namespace concretid.ems

namespace Transmission

/-- The neighbours without their times. -/
def Neighborhood.links (n : Neighborhood) : Neighborhood := { n with time := fun _ => 0 }

@[simp] theorem Neighborhood.aged_links (n : Neighborhood) : n.aged.links = n.links := rfl
@[simp] theorem Neighborhood.aged_uid (n : Neighborhood) : n.aged.uid = n.uid := rfl

@[simp] theorem unlink_neighbor (t : Transmission) (x : Slot) : (t.unlink x).neighbor = t.neighbor := by
  simp only [unlink]
  split <;> split <;> rfl

@[simp] theorem Del_neighbor_neighbor (t : Transmission) (x : Slot) :
    (t.Del_neighbor x).neighbor = t.neighbor := unlink_neighbor t x

/-- Registering a neighbour writes its uid into at most one slot. -/
theorem register_neighbor_uid {t t' : Transmission} {uid : Uid}
    (h : t.register_neighbor uid = .ok t') (x : Slot) :
    t'.neighbor x = t.neighbor x ∨ t'.neighbor x = uid := by
  have hoccupy : ∀ (r : Transmission) (ret : Slot),
      (r.occupy ret uid).neighbor x = r.neighbor x ∨ (r.occupy ret uid).neighbor x = uid := by
    intro r ret
    by_cases hx : x = ret
    · simp [hx]
    · simp [hx]
  obtain ⟨loc, _, rfl⟩ | ⟨_, rfl⟩ := register_neighbor_cases h
  · exact .inl rfl
  · unfold new_neighbor
    split
    · exact hoccupy t _
    · simpa using hoccupy (t.Del_neighbor t.oldest) t.oldest

/-- Every slot holds what it held at first or a uid that has been registered. -/
theorem Neighborhood.Run.uid_cases {n m : Neighborhood} {events : List Event}
    (h : n.Run events m) (x : Slot) : m.uid x = n.uid x ∨ .register_neighbor (m.uid x) ∈ events := by
  induction h with
  | refl => exact .inl rfl
  | @register events t t' uid hrun hregister ih =>
    obtain hsame | hnew := register_neighbor_uid hregister x
    · have hold : t'.neighborhood.uid x = t.neighborhood.uid x := hsame
      rw [hold]
      exact ih.imp_right fun hmem => List.mem_append_left _ hmem
    · have huid : t'.neighborhood.uid x = uid := hnew
      rw [huid]
      exact .inr (List.mem_append_right _ (List.mem_singleton_self _))
  | tick hrun ih => exact ih.imp_right fun hmem => List.mem_append_left _ hmem

/-- `find_neighbor` follows the links only. -/
theorem find_neighbor_congr {t t' : Transmission}
    (h : t.neighborhood.links = t'.neighborhood.links) (uid : Uid) :
    t.find_neighbor uid = t'.find_neighbor uid := by
  have hhead := congrArg Neighborhood.head h
  have huid := congrArg Neighborhood.uid h
  have hnext := congrArg Neighborhood.next h
  simp only [Neighborhood.links, neighborhood] at hhead huid hnext
  unfold find_neighbor
  rw [hhead, huid, hnext]

end Transmission

end concretid.ems
