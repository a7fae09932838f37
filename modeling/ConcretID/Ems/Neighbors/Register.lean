import Mathlib.Data.Finset.Card
import Mathlib.Data.Fintype.Card
import ConcretID.Ems.Neighbors.Table

open concretid.chain

namespace concretid.ems

namespace Transmission

/-- The tables of a node that has just started. -/
def initial : Transmission := zero.init_transmission

/-- A sequence of `register_neighbor` calls. -/
def registrations (t : Transmission) (uids : List Uid) : Result Transmission :=
  uids.foldlM register_neighbor t

/-- The neighbour table is a hash of doubly linked lists of the slots in use,
and every slot is in exactly one of the lists and the list of unused slots. -/
def TableCorrect (t : Transmission) : Prop :=
  ∃ lists, t.Hashed lists ∧ (∀ b, b ≠ trashIndex → Backlinked t.neighbor_prev none (lists b)) ∧
    ∀ x, ∃! b, x ∈ lists b

/-- `find_neighbor` ends for every uid and finds it exactly when a slot in use
holds it. -/
def FindsRegistered (t : Transmission) : Prop :=
  ∀ uid, ∃ loc, t.find_neighbor uid = .ok loc ∧
    (∀ x, loc = some x → t.live x ∧ t.neighbor x = uid) ∧
    (loc.isSome ↔ ∃ x, t.live x ∧ t.neighbor x = uid)

/-- At the start all slots are unused and linked in order. -/
theorem initial_hashed :
    initial.Hashed fun b => if b = trashIndex then List.finRange NEIGHBORHOOD_SIZE else [] := by
  refine ⟨?_, ?_, ?_⟩
  · intro b
    by_cases hb : b = trashIndex
    · subst hb
      exact .cons (.cons (.cons (.cons (.cons (.cons (.cons (.cons .nil)))))))
    · simpa [initial, init_transmission, hb] using IsChain.nil
  · intro b hb x
    simp [hb, live, initial, init_transmission, Valid_num]
  · intro x
    simp [live, initial, init_transmission, Valid_num]

/-- No `prev` link is the null index. Nothing ever stores it in one. -/
def PrevSet (t : Transmission) : Prop := ∀ x, t.neighbor_prev x ≠ none

theorem unlink_prevSet {t : Transmission} (h : t.PrevSet) (x : Slot) : (t.unlink x).PrevSet := by
  intro y
  simp only [unlink]
  split <;> split <;> simp only [Function.update_apply] <;> (try split) <;> exact h _

theorem Del_neighbor_prevSet {t : Transmission} (h : t.PrevSet) (x : Slot) :
    (t.Del_neighbor x).PrevSet :=
  unlink_prevSet h x

theorem occupy_prevSet {t : Transmission} (h : t.PrevSet) (ret : Slot) (uid : Uid) :
    (t.occupy ret uid).PrevSet := by
  intro y
  simp only [occupy]
  split
  · simp only [Function.update_apply]
    split
    · simp
    · exact h y
  · exact h y

/-- The missing `neighbor_prev[ret] = -1`: registering leaves every `prev` link
set, those of the heads of the lists included. -/
theorem register_neighbor_prevSet {t t' : Transmission} {uid : Uid} (h : t.PrevSet)
    (hregister : t.register_neighbor uid = .ok t') : t'.PrevSet := by
  obtain ⟨loc, _, rfl⟩ | ⟨_, rfl⟩ := register_neighbor_cases hregister
  · exact h
  · unfold new_neighbor
    split
    · exact occupy_prevSet h _ _
    · exact occupy_prevSet (Del_neighbor_prevSet h _) _ _

/-- After a registration some slot is in use. -/
theorem register_neighbor_live {t t' : Transmission} {uid : Uid}
    (hregister : t.register_neighbor uid = .ok t') : ∃ x, t'.live x := by
  obtain ⟨loc, _, rfl⟩ | ⟨_, rfl⟩ := register_neighbor_cases hregister
  · exact ⟨loc, by simp [live, Valid_num]⟩
  · unfold new_neighbor
    split
    · rename_i ret _
      exact ⟨ret, by simp [live, Valid_num]⟩
    · exact ⟨t.oldest, by simp [live, Valid_num]⟩

theorem registrations_prevSet {t t' : Transmission} {uids : List Uid} (h : t.PrevSet)
    (hrun : t.registrations uids = .ok t') : t'.PrevSet := by
  induction uids generalizing t with
  | nil => exact (Except.ok.inj hrun) ▸ h
  | cons uid uids ih =>
    obtain ⟨t₁, hstep, hrest⟩ := bind_eq_ok_iff.mp hrun
    exact ih (register_neighbor_prevSet h hstep) hrest

/-- A slot in use is in a list, whose first slot should have no `prev`. -/
theorem not_tableCorrect {t : Transmission} (hprev : t.PrevSet) (hlive : ∃ x, t.live x) :
    ¬ t.TableCorrect := by
  rintro ⟨lists, hhashed, hback, _⟩
  obtain ⟨x, hx⟩ := hlive
  have hmem := (hhashed.bucket _ (uidHash_ne_trash (t.neighbor x)) x).mpr ⟨hx, rfl⟩
  have hlinks := hback _ (uidHash_ne_trash (t.neighbor x))
  cases hcells : lists (uidHash (t.neighbor x)) with
  | nil => simp [hcells] at hmem
  | cons a rest =>
    rw [hcells] at hlinks
    cases hlinks with
    | cons hlink _ => exact hprev a hlink

/-- A sequence of registrations leaves a correct table exactly when it is
empty: the first one already leaves a list head with a `prev` link. -/
theorem registrations_correct_iff (uids : List Uid) :
    (∃ t, initial.registrations uids = .ok t ∧ t.TableCorrect ∧ t.FindsRegistered) ↔
      uids = [] := by
  constructor
  · rintro ⟨t, hrun, hcorrect, _⟩
    by_contra hne
    obtain ⟨before, uid, rfl⟩ := (List.eq_nil_or_concat uids).resolve_left hne
    rw [List.concat_eq_append, registrations, List.foldlM_append] at hrun
    obtain ⟨t₁, hbefore, hlast⟩ := bind_eq_ok_iff.mp hrun
    obtain ⟨t₂, hstep, hdone⟩ := bind_eq_ok_iff.mp hlast
    obtain rfl := Except.ok.inj hdone
    have hstart : initial.PrevSet := fun x => by simp [initial, init_transmission, zero]
    have hprev : t₁.PrevSet := registrations_prevSet hstart hbefore
    exact not_tableCorrect (register_neighbor_prevSet hprev hstep)
      (register_neighbor_live hstep) hcorrect
  · rintro rfl
    have hhashed := initial_hashed
    refine ⟨initial, rfl, ⟨_, hhashed, ?_, hhashed.exactly_one_list⟩, hhashed.find_neighbor_spec⟩
    intro b hb
    simpa [hb] using Backlinked.nil none

/-- While at most eight different uids have been registered, there is an unused
slot for a new one. -/
theorem Hashed.room {t : Transmission} {lists} (h : t.Hashed lists) (hdistinct : t.Distinct)
    {before : List Uid} (hlive : ∀ v, (∃ x, t.live x ∧ t.neighbor x = v) ↔ v ∈ before) {uid : Uid}
    (hroom : (before ++ [uid]).toFinset.card ≤ NEIGHBORHOOD_SIZE) :
    (∃ x, t.live x ∧ t.neighbor x = uid) ∨ t.trash ≠ none := by
  by_contra hnot
  rw [not_or, not_not] at hnot
  obtain ⟨hnew, htrash⟩ := hnot
  have hempty : lists trashIndex = [] := by
    have hchain := h.chain trashIndex
    rw [show t.neighbor_head trashIndex = none from htrash] at hchain
    generalize lists trashIndex = cells at hchain ⊢
    cases hchain
    rfl
  have hall : ∀ x, t.live x := by
    intro x
    by_contra hdead
    have hmem := (h.unused x).mpr hdead
    simp [hempty] at hmem
  have hinj : Function.Injective t.neighbor :=
    fun x y hxy => hdistinct x y (hall x) (hall y) hxy
  have hheld : insert uid (Finset.univ.image t.neighbor) ⊆ (before ++ [uid]).toFinset := by
    intro v hv
    simp only [Finset.mem_insert, Finset.mem_image, Finset.mem_univ, true_and] at hv
    simp only [List.mem_toFinset, List.mem_append, List.mem_singleton]
    obtain rfl | ⟨x, hx⟩ := hv
    · exact .inr rfl
    · exact .inl ((hlive v).mp ⟨x, hall x, hx⟩)
  have hfresh : uid ∉ Finset.univ.image t.neighbor := by
    intro hmem
    obtain ⟨x, _, hx⟩ := Finset.mem_image.mp hmem
    exact hnew ⟨x, hall x, hx⟩
  have hcard := Finset.card_le_card hheld
  rw [Finset.card_insert_of_notMem hfresh, Finset.card_image_of_injective _ hinj,
    Finset.card_univ, Fintype.card_fin] at hcard
  omega

/-- Up to eight different neighbours the forward links stay right: all of them
are found, and nothing else is. -/
theorem registrations_hashed {uids : List Uid} (hroom : uids.toFinset.card ≤ NEIGHBORHOOD_SIZE) :
    ∃ t lists, initial.registrations uids = .ok t ∧ t.Hashed lists ∧ t.Distinct ∧
      ∀ v, (∃ x, t.live x ∧ t.neighbor x = v) ↔ v ∈ uids := by
  induction uids using List.reverseRecOn with
  | nil =>
    have hdead : ∀ x, ¬ initial.live x := fun x => by
      simp [live, initial, init_transmission, Valid_num]
    refine ⟨initial, _, rfl, initial_hashed, ?_, ?_⟩
    · intro x _ hx
      exact absurd hx (hdead x)
    · intro v
      simp [hdead]
  | append_singleton before uid ih =>
    have hsubset : before.toFinset ⊆ (before ++ [uid]).toFinset := by
      intro v hv
      simp only [List.mem_toFinset, List.mem_append] at hv ⊢
      exact .inl hv
    obtain ⟨t, lists, hrun, hhashed, hdistinct, hlive⟩ :=
      ih (le_trans (Finset.card_le_card hsubset) hroom)
    have hfree := hhashed.room hdistinct hlive hroom
    obtain ⟨t', lists', hstep, hhashed', hdistinct', hlive'⟩ := hhashed.register_neighbor hfree
    refine ⟨t', lists', ?_, hhashed', hdistinct' hdistinct, ?_⟩
    · unfold registrations at hrun ⊢
      simp [List.foldlM_append, hrun, hstep]
    · intro v
      rw [hlive' v, hlive v]
      simp [or_comm]

end Transmission

/-- One neighbour in bucket 0, seven in bucket 1 and a ninth one in bucket 0.
The ninth evicts the first one, whose stale `prev` names itself. -/
def nineNeighbors : List Uid :=
  [linkLocal 0 0, linkLocal 0 1, linkLocal 0 5, linkLocal 0 9, linkLocal 0 13, linkLocal 0 17,
    linkLocal 0 21, linkLocal 0 25, linkLocal 0 4]

namespace Transmission

set_option maxRecDepth 20000 in
theorem nineNeighbors_loop :
    (initial.registrations nineNeighbors >>= fun t => t.find_neighbor (linkLocal 0 8)) =
      .error .endless_loop := by
  decide

/-- After nine registrations the table is broken and looking for a tenth
neighbour runs around one slot for ever. -/
theorem nineNeighbors_not_correct :
    ¬ ∃ t, initial.registrations nineNeighbors = .ok t ∧ t.TableCorrect ∧ t.FindsRegistered := by
  rintro ⟨t, hrun, _, hfinds⟩
  obtain ⟨loc, hfind, _⟩ := hfinds (linkLocal 0 8)
  have hloop := nineNeighbors_loop
  rw [hrun] at hloop
  rw [ok_bind, hfind] at hloop
  cases hloop

end Transmission

end concretid.ems
