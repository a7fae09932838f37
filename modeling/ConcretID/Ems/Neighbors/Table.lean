import ConcretID.Ems.Transmission

open concretid.chain

namespace concretid.ems

/-- A slot in use is one whose time byte is not the free marker. -/
def Transmission.live (t : Transmission) (x : Slot) : Prop := Valid_num (t.neighbor_time x) = true

instance (t : Transmission) (x : Slot) : Decidable (t.live x) := by
  unfold Transmission.live
  infer_instance

/-- The forward links form a hash of lists: following `neighbor_next` from each
head gives the slots in use with that hash, and from the last head the unused
slots. -/
structure Transmission.Hashed (t : Transmission)
    (lists : Fin (NEIGHBORHOOD_HEAD_SIZE + 1) → List Slot) : Prop where
  chain : ∀ b, IsChain t.neighbor_next (t.neighbor_head b) (lists b)
  bucket : ∀ b, b ≠ trashIndex → ∀ x, x ∈ lists b ↔ t.live x ∧ uidHash (t.neighbor x) = b
  unused : ∀ x, x ∈ lists trashIndex ↔ ¬ t.live x

theorem uidHash_ne_trash (uid : Uid) : uidHash uid ≠ trashIndex := by
  intro h
  have hval := congrArg Fin.val h
  have hlt : (uidHash uid).val < NEIGHBORHOOD_HEAD_SIZE := Nat.mod_lt _ (by decide)
  rw [hval] at hlt
  exact absurd hlt (by decide)

namespace Transmission

@[simp] theorem occupy_next (t : Transmission) (ret : Slot) (uid : Uid) :
    (t.occupy ret uid).neighbor_next =
      Function.update t.neighbor_next ret (t.neighbor_head (uidHash uid)) := by
  simp only [occupy, Function.update_of_ne (uidHash_ne_trash uid)]
  split <;> simp_all [Function.update_of_ne (uidHash_ne_trash uid)]

@[simp] theorem occupy_head (t : Transmission) (ret : Slot) (uid : Uid) :
    (t.occupy ret uid).neighbor_head =
      Function.update (Function.update t.neighbor_head trashIndex (t.neighbor_next ret))
        (uidHash uid) (some ret) := by
  simp only [occupy]
  split <;> rfl

@[simp] theorem occupy_time (t : Transmission) (ret : Slot) (uid : Uid) :
    (t.occupy ret uid).neighbor_time = Function.update t.neighbor_time ret 0 := by
  simp only [occupy]
  split <;> rfl

@[simp] theorem occupy_neighbor (t : Transmission) (ret : Slot) (uid : Uid) :
    (t.occupy ret uid).neighbor = Function.update t.neighbor ret uid := by
  simp only [occupy]
  split <;> rfl

/-- Every slot is in exactly one of the lists. -/
theorem Hashed.exactly_one_list {t : Transmission} {lists} (h : t.Hashed lists) (x : Slot) :
    ∃! b, x ∈ lists b := by
  by_cases hlive : t.live x
  · refine ⟨uidHash (t.neighbor x), (h.bucket _ (uidHash_ne_trash _) x).mpr ⟨hlive, rfl⟩, ?_⟩
    intro b hb
    have hne : b ≠ trashIndex := by
      rintro rfl
      exact (h.unused x).mp hb hlive
    exact ((h.bucket b hne x).mp hb).2.symm
  · refine ⟨trashIndex, (h.unused x).mpr hlive, ?_⟩
    intro b hb
    by_contra hne
    exact hlive ((h.bucket b hne x).mp hb).1

/-- On a hash of lists the search of `find_neighbor` ends. -/
theorem Hashed.find_neighbor_eq {t : Transmission} {lists} (h : t.Hashed lists) (uid : Uid) :
    t.find_neighbor uid = .ok ((lists (uidHash uid)).find? fun i => t.neighbor i == uid) := by
  have hlength : (lists (uidHash uid)).length ≤ NEIGHBORHOOD_SIZE := by
    simpa using (h.chain (uidHash uid)).length_le_card
  rw [find_neighbor, (h.chain (uidHash uid)).walk_eq hlength]

/-- On a hash of lists `find_neighbor` returns a slot in use that holds the uid
exactly when there is one. -/
theorem Hashed.find_neighbor_spec {t : Transmission} {lists} (h : t.Hashed lists) (uid : Uid) :
    ∃ loc, t.find_neighbor uid = .ok loc ∧
      (∀ x, loc = some x → t.live x ∧ t.neighbor x = uid) ∧
      (loc.isSome ↔ ∃ x, t.live x ∧ t.neighbor x = uid) := by
  have hfound : ∀ x, (lists (uidHash uid)).find? (fun i => t.neighbor i == uid) = some x →
      t.live x ∧ t.neighbor x = uid := by
    intro x hx
    have hmem := List.mem_of_find?_eq_some hx
    have huid := List.find?_some hx
    exact ⟨((h.bucket _ (uidHash_ne_trash uid) x).mp hmem).1, by simpa using huid⟩
  refine ⟨_, h.find_neighbor_eq uid, hfound, ?_⟩
  constructor
  · intro hsome
    obtain ⟨x, hx⟩ := Option.isSome_iff_exists.mp hsome
    exact ⟨x, hfound x hx⟩
  · rintro ⟨x, hlive, huid⟩
    have hmem : x ∈ lists (uidHash uid) := by
      rw [h.bucket _ (uidHash_ne_trash uid) x]
      exact ⟨hlive, by rw [huid]⟩
    rw [List.find?_isSome]
    exact ⟨x, hmem, by simpa using huid⟩

/-- Occupying an unused slot keeps the forward links a hash of lists. -/
theorem Hashed.occupy {t : Transmission} {lists} (h : t.Hashed lists) {ret : Slot}
    (htrash : t.trash = some ret) (uid : Uid) : ∃ lists', (t.occupy ret uid).Hashed lists' := by
  have hfree := h.chain trashIndex
  rw [show t.neighbor_head trashIndex = some ret from htrash] at hfree
  cases hcells : lists trashIndex with
  | nil =>
    rw [hcells] at hfree
    cases hfree
  | cons first rest =>
    rw [hcells] at hfree
    have hnodup := hfree.nodup
    cases hfree with
    | cons htail =>
      have hdead : ¬ t.live ret := (h.unused ret).mp (by rw [hcells]; exact List.mem_cons_self)
      have hfresh : ∀ b, b ≠ trashIndex → ret ∉ lists b := by
        intro b hb hmem
        exact hdead ((h.bucket b hb ret).mp hmem).1
      have hrest : ret ∉ rest := (List.nodup_cons.mp hnodup).1
      have hlive : ∀ x, (t.occupy ret uid).live x ↔ x = ret ∨ t.live x := by
        intro x
        by_cases hx : x = ret
        · subst hx
          simp [live, Valid_num]
        · simp [live, hx]
      refine ⟨Function.update (Function.update lists trashIndex rest) (uidHash uid)
        (ret :: lists (uidHash uid)), ?_, ?_, ?_⟩
      · intro b
        rw [occupy_next, occupy_head]
        by_cases hb : b = uidHash uid
        · subst hb
          simp only [Function.update_self]
          exact (h.chain _).push (hfresh _ (uidHash_ne_trash uid))
        · by_cases hbt : b = trashIndex
          · subst hbt
            simp only [Function.update_self, Function.update_of_ne hb]
            exact htail.update hrest _
          · simp only [Function.update_of_ne hb, Function.update_of_ne hbt]
            exact (h.chain b).update (hfresh b hbt) _
      · intro b hb x
        rw [hlive x, occupy_neighbor]
        by_cases hx : x = ret
        · subst hx
          by_cases hbu : b = uidHash uid
          · subst hbu
            simp
          · simp [hbu, hb, hfresh b hb, Ne.symm hbu]
        · by_cases hbu : b = uidHash uid
          · subst hbu
            simp [hx, h.bucket _ hb x]
          · simp [hbu, hb, hx, h.bucket b hb x]
      · intro x
        rw [hlive x, Function.update_of_ne (Ne.symm (uidHash_ne_trash uid)), Function.update_self]
        have hunused := h.unused x
        rw [hcells, List.mem_cons] at hunused
        by_cases hx : x = ret
        · subst hx
          simp [hrest]
        · simpa [hx] using hunused

/-- No two slots in use hold the same uid. -/
def Distinct (t : Transmission) : Prop :=
  ∀ x y, t.live x → t.live y → t.neighbor x = t.neighbor y → x = y

/-- What `register_neighbor` does: refresh the slot found, or take a new one. -/
theorem register_neighbor_cases {t t' : Transmission} {uid : Uid}
    (h : t.register_neighbor uid = .ok t') :
    (∃ loc, t.find_neighbor uid = .ok (some loc) ∧
      t' = { t with neighbor_time := Function.update t.neighbor_time loc 0 }) ∨
    (t.find_neighbor uid = .ok none ∧ t' = t.new_neighbor uid) := by
  obtain ⟨loc, hfind, hrest⟩ := bind_eq_ok_iff.mp h
  cases loc with
  | some loc => exact .inl ⟨loc, hfind, (Except.ok.inj hrest).symm⟩
  | none => exact .inr ⟨hfind, (Except.ok.inj hrest).symm⟩

/-- Registering a neighbour keeps the forward links a hash of lists, as long
as no slot has to be evicted for it. -/
theorem Hashed.register_neighbor {t : Transmission} {lists} (h : t.Hashed lists) {uid : Uid}
    (hroom : (∃ x, t.live x ∧ t.neighbor x = uid) ∨ t.trash ≠ none) :
    ∃ t' lists', t.register_neighbor uid = .ok t' ∧ t'.Hashed lists' ∧
      (t.Distinct → t'.Distinct) ∧
      (∀ v, (∃ x, t'.live x ∧ t'.neighbor x = v) ↔ v = uid ∨ ∃ x, t.live x ∧ t.neighbor x = v) := by
  obtain ⟨loc, hfind, hsound, hcomplete⟩ := h.find_neighbor_spec uid
  cases loc with
  | some loc =>
    obtain ⟨hlive, huid⟩ := hsound loc rfl
    let t' := { t with neighbor_time := Function.update t.neighbor_time loc 0 }
    have hsame : ∀ x, t'.live x ↔ t.live x := by
      intro x
      by_cases hx : x = loc
      · subst hx
        simpa [t', live, Valid_num] using hlive
      · simp [t', live, hx]
    refine ⟨t', lists, by simp [Transmission.register_neighbor, hfind, t'],
      ⟨h.chain, ?_, ?_⟩, ?_, ?_⟩
    · intro b hb x
      rw [hsame]
      exact h.bucket b hb x
    · intro x
      rw [hsame]
      exact h.unused x
    · intro hdistinct x y hx hy hxy
      exact hdistinct x y ((hsame x).mp hx) ((hsame y).mp hy) hxy
    · intro v
      constructor
      · rintro ⟨x, hx, hv⟩
        exact .inr ⟨x, (hsame x).mp hx, hv⟩
      · rintro (rfl | ⟨x, hx, hv⟩)
        · exact ⟨loc, (hsame loc).mpr hlive, huid⟩
        · exact ⟨x, (hsame x).mpr hx, hv⟩
  | none =>
    have hnone : ¬ ∃ x, t.live x ∧ t.neighbor x = uid := by simpa using hcomplete
    obtain ⟨ret, htrash⟩ := Option.ne_none_iff_exists'.mp (hroom.resolve_left hnone)
    obtain ⟨lists', hlists'⟩ := h.occupy htrash uid
    have hdead : ¬ t.live ret := by
      apply (h.unused ret).mp
      have hstart := (h.chain trashIndex).start_eq
      rw [show t.neighbor_head trashIndex = some ret from htrash] at hstart
      exact List.mem_of_mem_head? hstart.symm
    refine ⟨t.occupy ret uid, lists', ?_, hlists', ?_, ?_⟩
    · simp [Transmission.register_neighbor, hfind, new_neighbor, htrash]
    · intro hdistinct x y hx hy hxy
      by_cases hxr : x = ret
      · by_cases hyr : y = ret
        · rw [hxr, hyr]
        · refine absurd ⟨y, by simpa [live, hyr] using hy, ?_⟩ hnone
          simpa [hxr, hyr] using hxy.symm
      · by_cases hyr : y = ret
        · refine absurd ⟨x, by simpa [live, hxr] using hx, ?_⟩ hnone
          simpa [hxr, hyr] using hxy
        · exact hdistinct x y (by simpa [live, hxr] using hx) (by simpa [live, hyr] using hy)
            (by simpa [hxr, hyr] using hxy)
    · intro v
      constructor
      · rintro ⟨x, hx, hv⟩
        by_cases hxr : x = ret
        · subst hxr
          exact .inl (by simpa using hv.symm)
        · exact .inr ⟨x, by simpa [live, hxr] using hx, by simpa [hxr] using hv⟩
      · rintro (rfl | ⟨x, hx, hv⟩)
        · exact ⟨ret, by simp [live, Valid_num], by simp⟩
        · have hxr : x ≠ ret := by
            rintro rfl
            exact hdead hx
          exact ⟨x, by simpa [live, hxr] using hx, by simpa [hxr] using hv⟩

end Transmission

end concretid.ems
