import Mathlib.Data.List.Induction

namespace concretid.history

/-- What stands in a list after the last element of a kind. -/
def since {α : Type} (p : α → Bool) (l : List α) : List α :=
  l.foldl (fun rest a => if p a then [] else rest ++ [a]) []

@[simp] theorem since_nil {α : Type} (p : α → Bool) : since p ([] : List α) = [] := rfl

theorem since_snoc {α : Type} (p : α → Bool) (l : List α) (a : α) :
    since p (l ++ [a]) = if p a then [] else since p l ++ [a] := by
  simp [since]

theorem since_snoc_pos {α : Type} {p : α → Bool} (l : List α) {a : α} (ha : p a = true) :
    since p (l ++ [a]) = [] := by
  rw [since_snoc, if_pos ha]

theorem since_snoc_neg {α : Type} {p : α → Bool} (l : List α) {a : α} (ha : p a = false) :
    since p (l ++ [a]) = since p l ++ [a] := by
  rw [since_snoc, if_neg (by simp [ha])]

/-- What is there before an element of the kind does not matter. -/
theorem since_append_cons {α : Type} {p : α → Bool} (l m : List α) {a : α} (ha : p a = true) :
    since p (l ++ a :: m) = since p m := by
  simp [since, ha]

/-- Without an element of the kind what is there grows. -/
theorem since_append_of_none {α : Type} {p : α → Bool} (l m : List α)
    (h : ∀ a ∈ m, p a = false) : since p (l ++ m) = since p l ++ m := by
  induction m using List.reverseRecOn with
  | nil => simp
  | append_singleton m a ih =>
    have hlast := h a (by simp)
    have hrest := ih fun b hb => h b (List.mem_append_left _ hb)
    rw [← List.append_assoc, since_snoc_neg _ hlast, hrest, List.append_assoc]

/-- An element of the kind ends the part begun, another one belongs to it. -/
def part {α : Type} (p : α → Bool) (parts : List (List α) × List α) (a : α) : List (List α) × List α :=
  if p a then (parts.1 ++ [parts.2], []) else (parts.1, parts.2 ++ [a])

/-- The parts of a list that have ended. -/
def closed {α : Type} (p : α → Bool) (l : List α) : List (List α) := (l.foldl (part p) ([], [])).1

theorem foldl_part {α : Type} (p : α → Bool) (l : List α) :
    l.foldl (part p) ([], []) = (closed p l, since p l) := by
  induction l using List.reverseRecOn with
  | nil => rfl
  | append_singleton l a ih =>
    rw [closed, since_snoc, List.foldl_append, ih, List.foldl_cons, List.foldl_nil, part]
    split <;> rfl

theorem closed_snoc {α : Type} (p : α → Bool) (l : List α) (a : α) :
    closed p (l ++ [a]) = if p a then closed p l ++ [since p l] else closed p l := by
  rw [closed, List.foldl_append, foldl_part, List.foldl_cons, List.foldl_nil, part]
  split <;> rfl

theorem foldl_part_splitOnP {α : Type} (p : α → Bool) (l : List α) (parts : List (List α) × List α) :
    (l.foldl (part p) parts).1 ++ [(l.foldl (part p) parts).2] =
      parts.1 ++ (l.splitOnP p).modifyHead (parts.2 ++ ·) := by
  induction l generalizing parts with
  | nil => simp
  | cons a l ih =>
    rw [List.foldl_cons, ih, List.splitOnP_cons_eq_if_modifyHead, part]
    split
    · cases l.splitOnP p <;> simp
    · simp [List.modifyHead_modifyHead, Function.comp_def]

/-- With the part begun, these are the parts between the elements of the kind. -/
theorem closed_append_since {α : Type} (p : α → Bool) (l : List α) :
    closed p l ++ [since p l] = l.splitOnP p := by
  have h := foldl_part_splitOnP p l ([], [])
  rw [foldl_part] at h
  rw [h]
  cases l.splitOnP p <;> simp

/-- Behind the last element of the kind stands what is since it, without any of the kind. -/
theorem exists_append_since {α : Type} {p : α → Bool} {l : List α} {a : α} (ha : a ∈ l) (hp : p a = true) :
    ∃ before b, p b = true ∧ l = before ++ b :: since p l ∧ ∀ d ∈ since p l, p d = false := by
  induction l using List.reverseRecOn with
  | nil => exact absurd ha List.not_mem_nil
  | append_singleton l c ih =>
    by_cases hc : p c = true
    · rw [since_snoc_pos l hc]
      exact ⟨l, c, hc, rfl, fun d hd => absurd hd List.not_mem_nil⟩
    · have hmem : a ∈ l := by
        obtain hmem | hlast := List.mem_append.mp ha
        · exact hmem
        · rw [List.mem_singleton.mp hlast] at hp
          exact absurd hp hc
      obtain ⟨before, b, hb, hl, hnone⟩ := ih hmem
      rw [since_snoc_neg l (Bool.eq_false_iff.mpr hc)]
      refine ⟨before, b, hb, ?_, fun d hd => ?_⟩
      · rw [← List.cons_append, ← List.append_assoc, ← hl]
      · obtain hd | hd := List.mem_append.mp hd
        · exact hnone d hd
        · rw [List.mem_singleton.mp hd]
          exact Bool.eq_false_iff.mpr hc

theorem mem_of_mem_since {α : Type} {p : α → Bool} {l : List α} {a : α} (h : a ∈ since p l) :
    a ∈ l := by
  induction l using List.reverseRecOn with
  | nil => exact h
  | append_singleton l b ih =>
    rw [since_snoc] at h
    split at h
    · exact absurd h List.not_mem_nil
    · rw [List.mem_append] at h ⊢
      exact h.imp_left ih

/-- A property of each prefix and the element behind it, told of the elements
behind a list. -/
theorem forall_split_append {α : Type} {q : List α → α → Prop} (l m : List α) :
    (∀ before a after, l ++ m = before ++ a :: after → q before a) ↔
      (∀ before a after, l = before ++ a :: after → q before a) ∧
        ∀ before a after, m = before ++ a :: after → q (l ++ before) a := by
  constructor
  · intro h
    constructor
    · intro before a after hl
      exact h before a (after ++ m) (by rw [hl]; simp)
    · intro before a after hm
      exact h (l ++ before) a after (by rw [hm, List.append_assoc])
  · rintro ⟨hl, hm⟩ before a after heq
    obtain ⟨rest, hbefore, hrest⟩ | ⟨rest, hbefore, hrest⟩ := List.append_eq_append_iff.mp heq
    · subst hbefore
      exact hm rest a after hrest
    · cases rest with
      | nil =>
        rw [List.append_nil] at hbefore
        rw [List.nil_append] at hrest
        have hq := hm [] a after hrest.symm
        rwa [List.append_nil, hbefore] at hq
      | cons b rest =>
        obtain ⟨rfl, -⟩ := List.cons_eq_cons.mp hrest
        exact hl before a rest hbefore

theorem forall_split_singleton {α : Type} {q : List α → α → Prop} {b : α} :
    (∀ before a after, [b] = before ++ a :: after → q before a) ↔ q [] b := by
  constructor
  · intro h
    exact h [] b [] rfl
  · intro h before a after heq
    cases before with
    | nil =>
      obtain ⟨rfl, -⟩ := List.cons_eq_cons.mp heq
      exact h
    | cons c before =>
      have hrest := (List.cons_eq_cons.mp heq).2
      cases before <;> cases hrest

/-- The places of a list grown by one element: the new one, and the old ones
with the element behind them. -/
theorem exists_split_snoc {α : Type} {q : List α → α → List α → Prop} (l : List α) (b : α) :
    (∃ before a after, l ++ [b] = before ++ a :: after ∧ q before a after) ↔
      q l b [] ∨ ∃ before a after, l = before ++ a :: after ∧ q before a (after ++ [b]) := by
  constructor
  · rintro ⟨before, a, after, heq, hq⟩
    obtain rfl | ⟨after, c, rfl⟩ := List.eq_nil_or_concat after
    · obtain ⟨rfl, hlast⟩ := List.append_inj' heq rfl
      obtain ⟨rfl, -⟩ := List.cons_eq_cons.mp hlast
      exact Or.inl hq
    · rw [List.concat_eq_append, ← List.cons_append, ← List.append_assoc] at heq
      obtain ⟨hl, hlast⟩ := List.append_inj' heq rfl
      obtain ⟨rfl, -⟩ := List.cons_eq_cons.mp hlast
      exact Or.inr ⟨before, a, after, hl, by simpa using hq⟩
  · rintro (hq | ⟨before, a, after, rfl, hq⟩)
    · exact ⟨l, b, [], rfl, hq⟩
    · exact ⟨before, a, after ++ [b], by simp, hq⟩

/-- A property of all beginnings of a list grown by one element. -/
theorem forall_prefix_snoc {α : Type} {q : List α → Prop} (l : List α) (b : α) :
    (∀ before after, l ++ [b] = before ++ after → q before) ↔
      (∀ before after, l = before ++ after → q before) ∧ q (l ++ [b]) := by
  constructor
  · intro h
    exact ⟨fun before after hl => h before (after ++ [b]) (by rw [hl, List.append_assoc]),
      h (l ++ [b]) [] (by simp)⟩
  · rintro ⟨hl, hlast⟩ before after heq
    obtain rfl | ⟨after, c, rfl⟩ := List.eq_nil_or_concat after
    · rw [List.append_nil] at heq
      exact heq ▸ hlast
    · rw [List.concat_eq_append, ← List.append_assoc] at heq
      exact hl before after (List.append_inj' heq rfl).1

end concretid.history
