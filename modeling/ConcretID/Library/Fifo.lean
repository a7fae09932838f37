import Mathlib.Data.List.Basic
import Mathlib.Data.List.Nodup
import Mathlib.Logic.Function.Basic

namespace concretid.fifo

/-- A write to the entry of a key. An entry that is there is changed; where
there is none, one is made from the entry whose place it takes. -/
structure Write {κ ε : Type} (key : ε → κ) where
  of : κ
  change : ε → ε
  make : ε → ε
  key_change : ∀ e, key (change e) = key e
  key_make : ∀ e, key (make e) = of

variable {κ ε : Type} [DecidableEq κ] {key : ε → κ}

/-- One write to a table that is listed from the newest insertion to the
oldest. A new entry goes first and the oldest one leaves. -/
def put (s : List ε) (w : Write key) : List ε :=
  if w.of ∈ s.map key then s.modify (s.findIdx fun e => key e = w.of) w.change
  else
    match s.getLast? with
    | some oldest => w.make oldest :: s.dropLast
    | none => []

/-- The keys that a run of writes inserts, oldest first. -/
def inserted : List ε → List (Write key) → List κ
  | _, [] => []
  | s, w :: ws => (if w.of ∈ s.map key then [] else [w.of]) ++ inserted (put s w) ws

/-- The entry with all changes that a run of writes makes to it. -/
def changed (k : κ) (e : ε) (ws : List (Write key)) : ε :=
  (ws.filter (·.of = k)).foldl (fun e w => w.change e) e

theorem changed_cons (k : κ) (e : ε) (w : Write key) (ws : List (Write key)) :
    changed k e (w :: ws) = changed k (if w.of = k then w.change e else e) ws := by
  by_cases hof : w.of = k
  · simp [changed, hof]
  · simp [changed, hof]

/-- A write to a known key keeps the keys. -/
theorem keys_put_known {s : List ε} {w : Write key} (hknown : w.of ∈ s.map key) :
    (put s w).map key = s.map key := by
  rw [put, if_pos hknown]
  apply List.ext_getElem
  · simp
  · intro i hi hi'
    simp only [List.getElem_map, List.getElem_modify]
    split
    · exact w.key_change _
    · rfl

/-- A write to a new key puts it first and the oldest key leaves. -/
theorem keys_put_new {s : List ε} {w : Write key} (hnew : w.of ∉ s.map key) (hs : s ≠ []) :
    (put s w).map key = w.of :: (s.map key).dropLast := by
  rw [put, if_neg hnew, List.getLast?_eq_some_getLast hs]
  simp [w.key_make, List.map_dropLast]

@[simp] theorem length_put (s : List ε) (w : Write key) : (put s w).length = s.length := by
  rw [put]
  split
  · simp
  · cases hs : s.getLast? with
    | none => simp [List.getLast?_eq_none_iff.mp hs]
    | some oldest =>
      have hpos : s ≠ [] := by
        rintro rfl
        simp at hs
      have := List.length_pos_iff.mpr hpos
      simp
      omega

/-- A written key is found with its change, the others as they were. -/
theorem find_put_known {s : List ε} {w : Write key} (hknown : w.of ∈ s.map key) (k : κ) :
    (put s w).find? (key · = k) =
      (s.find? (key · = k)).map fun e => if w.of = k then w.change e else e := by
  rw [put, if_pos hknown]
  clear hknown
  induction s with
  | nil => simp
  | cons e s ih =>
    by_cases he : key e = w.of
    · have hidx : (e :: s).findIdx (fun e => key e = w.of) = 0 := by simp [List.findIdx_cons, he]
      rw [hidx, List.modify_zero_cons, List.find?_cons, List.find?_cons, w.key_change, he]
      by_cases hk : w.of = k
      · simp [hk]
      · simp [hk]
    · have hidx : (e :: s).findIdx (fun e => key e = w.of) =
          s.findIdx (fun e => key e = w.of) + 1 := by simp [List.findIdx_cons, he]
      rw [hidx, List.modify_succ_cons, List.find?_cons, List.find?_cons, ih]
      by_cases hk : key e = k
      · have hne : w.of ≠ k := fun h => he (hk.trans h.symm)
        simp [hk, hne]
      · simp [hk]

/-- A key that is not the oldest one outlives an insertion with its entry. -/
theorem find_put_new {s : List ε} {w : Write key} (hnew : w.of ∉ s.map key) {k : κ}
    (hk : k ∈ (s.map key).dropLast) : (put s w).find? (key · = k) = s.find? (key · = k) := by
  have hs : s ≠ [] := by
    rintro rfl
    simp at hk
  have hne : w.of ≠ k := fun h => hnew (h ▸ List.dropLast_subset _ hk)
  rw [put, if_neg hnew, List.getLast?_eq_some_getLast hs]
  obtain ⟨e, he, hek⟩ : ∃ e ∈ s.dropLast, key e = k := by
    rw [← List.map_dropLast] at hk
    exact List.mem_map.mp hk
  have hfound : (s.dropLast.find? (key · = k)).isSome := by
    rw [List.find?_isSome]
    exact ⟨e, he, by simpa using hek⟩
  rw [List.find?_cons]
  simp only [w.key_make, hne, decide_false]
  conv_rhs => rw [← List.dropLast_append_getLast hs, List.find?_append]
  rw [Option.or_of_isSome hfound]

/-- Changing the entry that a lookup finds is changing the first one listed
that answers to it. -/
theorem map_update_find {n : Nat} {α : Type} (order : List (Fin n)) (hnodup : order.Nodup)
    (cell : Fin n → α) (p : α → Bool) (change : α → α) {j : Fin n}
    (hfind : order.find? (fun i => p (cell i)) = some j) :
    order.map (Function.update cell j (change (cell j))) =
      (order.map cell).modify ((order.map cell).findIdx p) change := by
  induction order with
  | nil => simp at hfind
  | cons i order ih =>
    obtain ⟨hfresh, hnodup⟩ := List.nodup_cons.mp hnodup
    by_cases hi : p (cell i) = true
    · have hij : i = j := by simpa [List.find?_cons, hi] using hfind
      subst hij
      have hrest : order.map (Function.update cell i (change (cell i))) = order.map cell := by
        apply List.map_congr_left
        intro a ha
        apply Function.update_of_ne
        rintro rfl
        exact hfresh ha
      simp [List.findIdx_cons, hi, hrest]
    · have hfind : order.find? (fun i => p (cell i)) = some j := by
        simpa [List.find?_cons, hi] using hfind
      have hne : i ≠ j := by
        rintro rfl
        exact hfresh (List.mem_of_find?_eq_some hfind)
      have hidx : ((i :: order).map cell).findIdx p = (order.map cell).findIdx p + 1 := by
        simp [List.findIdx_cons, hi]
      rw [hidx, List.map_cons, List.map_cons, List.modify_succ_cons, ih hnodup hfind,
        Function.update_of_ne hne]

/-! ## Runs -/

/-- The keys after a run are the last inserted ones, newest first. -/
theorem keys_run (s : List ε) (ws : List (Write key)) :
    (ws.foldl put s).map key =
      ((inserted s ws).reverse ++ s.map key).take s.length := by
  induction ws generalizing s with
  | nil => simp [inserted, List.take_of_length_le]
  | cons w ws ih =>
    rw [List.foldl_cons, ih, length_put, inserted]
    by_cases hknown : w.of ∈ s.map key
    · rw [if_pos hknown, keys_put_known hknown, List.nil_append]
    · by_cases hs : s = []
      · simp [hs]
      · have hlength : 0 < s.length := List.length_pos_iff.mpr hs
        rw [if_neg hknown, keys_put_new hknown hs, List.reverse_append, List.reverse_singleton,
          List.append_assoc, List.singleton_append, List.take_append, List.take_append]
        congr 1
        cases hroom : s.length - (inserted (put s w) ws).reverse.length with
        | zero => simp
        | succ room =>
          rw [List.take_succ_cons, List.take_succ_cons]
          congr 1
          rw [List.dropLast_eq_take, List.take_take]
          congr 1
          simp only [List.length_map]
          omega

/-- A key that is among the newest entries keeps its entry, changed by the
writes to it, while the other insertions leave it among the entries. -/
theorem find_run {k : κ} {e : ε} (ws : List (Write key)) (s : List ε) (age : Nat)
    (hfound : s.find? (key · = k) = some e) (hage : k ∈ (s.map key).take age)
    (hroom : age + (inserted s ws).countP (· ≠ k) ≤ s.length) :
    (ws.foldl put s).find? (key · = k) = some (changed k e ws) := by
  induction ws generalizing s e age with
  | nil => simpa [changed] using hfound
  | cons w ws ih =>
    rw [List.foldl_cons, changed_cons]
    by_cases hknown : w.of ∈ s.map key
    · refine ih (put s w) age ?_ ?_ ?_
      · rw [find_put_known hknown, hfound, Option.map_some]
      · rwa [keys_put_known hknown]
      · rw [inserted, if_pos hknown, List.nil_append] at hroom
        rwa [length_put]
    · have hne : w.of ≠ k := fun h => hknown (h ▸ List.mem_of_mem_take hage)
      have hs : s ≠ [] := by
        rintro rfl
        simp at hage
      rw [inserted, if_neg hknown, List.countP_append] at hroom
      rw [List.countP_singleton, if_pos (by simpa using hne)] at hroom
      have hkept : k ∈ ((s.map key).dropLast).take age := by
        rw [List.dropLast_eq_take, List.take_take, List.length_map,
          Nat.min_eq_left (by omega : age ≤ s.length - 1)]
        exact hage
      rw [if_neg hne]
      refine ih (put s w) (age + 1) ?_ ?_ ?_
      · rw [find_put_new hknown (List.mem_of_mem_take hkept), hfound]
      · rw [keys_put_new hknown hs, List.take_succ_cons]
        exact List.mem_cons_of_mem _ hkept
      · rw [length_put]
        omega

/-- An inserted key keeps the entry made for it, changed by the writes to it,
until as many others are inserted as the table has entries. -/
theorem find_inserted {s : List ε} {w : Write key} (hnew : w.of ∉ s.map key)
    (ws : List (Write key)) (hroom : (inserted (put s w) ws).countP (· ≠ w.of) < s.length) :
    ∃ oldest, s.getLast? = some oldest ∧
      (ws.foldl put (put s w)).find? (key · = w.of) = some (changed w.of (w.make oldest) ws) := by
  have hs : s ≠ [] := by
    rintro rfl
    simp at hroom
  refine ⟨s.getLast hs, List.getLast?_eq_some_getLast hs, ?_⟩
  apply find_run ws (put s w) 1
  · rw [put, if_neg hnew, List.getLast?_eq_some_getLast hs]
    simp [w.key_make]
  · rw [keys_put_new hnew hs]
    simp
  · rw [length_put]
    omega

/-- No key is there twice but the blank one, which nothing is written to. -/
theorem nodup_run {blank : κ} (ws : List (Write key)) (s : List ε)
    (hblank : ∀ w ∈ ws, w.of ≠ blank) (hs : ((s.map key).filter (· ≠ blank)).Nodup) :
    (((ws.foldl put s).map key).filter (· ≠ blank)).Nodup := by
  induction ws generalizing s with
  | nil => exact hs
  | cons w ws ih =>
    rw [List.foldl_cons]
    apply ih (put s w) fun v hv => hblank v (List.mem_cons_of_mem _ hv)
    by_cases hknown : w.of ∈ s.map key
    · rwa [keys_put_known hknown]
    · by_cases hnil : s = []
      · simp [hnil, put]
      · have hfilter : ((w.of :: (s.map key).dropLast).filter (· ≠ blank)) =
            w.of :: ((s.map key).dropLast.filter (· ≠ blank)) := by
          simp [hblank w List.mem_cons_self]
        rw [keys_put_new hknown hnil, hfilter, List.nodup_cons]
        refine ⟨?_, hs.sublist ((List.dropLast_sublist _).filter _)⟩
        intro hmem
        exact hknown (List.dropLast_subset _ (List.mem_of_mem_filter hmem))

end concretid.fifo
