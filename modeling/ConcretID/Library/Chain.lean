import Mathlib.Data.Fintype.Card
import Mathlib.Data.List.Nodup
import Mathlib.Logic.Function.Basic

namespace concretid.chain

/-- The list of cells reached from `start` by following `next` until it ends.
An index-linked list in arrays is such a chain; a cyclic one has no list. -/
inductive IsChain {α : Type} (next : α → Option α) : Option α → List α → Prop where
  | nil : IsChain next none []
  | cons {a : α} {rest : List α} (tail : IsChain next (next a) rest) :
      IsChain next (some a) (a :: rest)

/-- Each cell's `prev` link names the cell before it, the first cell's the
given one. Together with `IsChain` this is a doubly linked list. -/
inductive Backlinked {α : Type} (prev : α → Option α) : Option α → List α → Prop where
  | nil (before : Option α) : Backlinked prev before []
  | cons {before : Option α} {a : α} {rest : List α} (link : prev a = before)
      (tail : Backlinked prev (some a) rest) : Backlinked prev before (a :: rest)

/-- Search along the links for a cell satisfying `found`, giving up after
`fuel` cells. The outer `none` is a search that has not ended by then. -/
def walk {α : Type} (next : α → Option α) (found : α → Bool) :
    Nat → Option α → Option (Option α)
  | _, none => some none
  | 0, some _ => none
  | fuel + 1, some a => if found a then some (some a) else walk next found fuel (next a)

theorem IsChain.unique {α : Type} {next : α → Option α} {start : Option α}
    {first second : List α} (hfirst : IsChain next start first)
    (hsecond : IsChain next start second) : first = second := by
  induction hfirst generalizing second with
  | nil =>
    cases hsecond
    rfl
  | cons _ ih =>
    cases hsecond with
    | cons htail => rw [ih htail]

theorem IsChain.start_eq {α : Type} {next : α → Option α} {start : Option α}
    {cells : List α} (h : IsChain next start cells) : start = cells.head? := by
  cases h <;> rfl

/-- What follows a cell of a chain is the chain from that cell's link. -/
theorem IsChain.tail_of_append {α : Type} {next : α → Option α} {start : Option α}
    {before rest : List α} {a : α} (h : IsChain next start (before ++ a :: rest)) :
    IsChain next (next a) rest := by
  induction before generalizing start with
  | nil =>
    cases h with
    | cons htail => exact htail
  | cons b before ih =>
    cases h with
    | cons htail => exact ih htail

/-- A chain that ends visits no cell twice. -/
theorem IsChain.nodup {α : Type} {next : α → Option α} {start : Option α}
    {cells : List α} (h : IsChain next start cells) : cells.Nodup := by
  induction h with
  | nil => exact List.nodup_nil
  | @cons a rest htail ih =>
    refine List.nodup_cons.mpr ⟨?_, ih⟩
    intro hmem
    obtain ⟨before, after, rfl⟩ := List.append_of_mem hmem
    have heq := htail.unique htail.tail_of_append
    have hlength := congrArg List.length heq
    simp only [List.length_append, List.length_cons] at hlength
    omega

/-- A chain has at most as many cells as its index type. -/
theorem IsChain.length_le_card {α : Type} [Fintype α] {next : α → Option α}
    {start : Option α} {cells : List α} (h : IsChain next start cells) :
    cells.length ≤ Fintype.card α :=
  h.nodup.length_le_card

/-- Rewriting the link of a cell outside a chain leaves the chain as it was. -/
theorem IsChain.update {α : Type} [DecidableEq α] {next : α → Option α}
    {start : Option α} {cells : List α} {a : α} (h : IsChain next start cells)
    (hfresh : a ∉ cells) (link : Option α) :
    IsChain (Function.update next a link) start cells := by
  induction h with
  | nil => exact .nil
  | @cons b rest htail ih =>
    rw [List.mem_cons, not_or] at hfresh
    refine .cons ?_
    rw [Function.update_of_ne (Ne.symm hfresh.1)]
    exact ih hfresh.2

/-- Inserting a cell in front of a chain it does not belong to. -/
theorem IsChain.push {α : Type} [DecidableEq α] {next : α → Option α}
    {start : Option α} {cells : List α} {a : α} (h : IsChain next start cells)
    (hfresh : a ∉ cells) :
    IsChain (Function.update next a start) (some a) (a :: cells) := by
  refine .cons ?_
  rw [Function.update_self]
  exact h.update hfresh start

/-- On a chain the search finds the first cell that satisfies the test, once
it may visit as many cells as the chain has. -/
theorem IsChain.walk_eq {α : Type} {next : α → Option α} {found : α → Bool}
    {start : Option α} {cells : List α} (h : IsChain next start cells) {fuel : Nat}
    (hfuel : cells.length ≤ fuel) :
    walk next found fuel start = some (cells.find? found) := by
  induction h generalizing fuel with
  | nil => simp [walk]
  | @cons a rest htail ih =>
    cases fuel with
    | zero => simp at hfuel
    | succ fuel =>
      simp only [List.length_cons, Nat.add_le_add_iff_right] at hfuel
      cases hfound : found a <;> simp [walk, hfound, ih hfuel]

/-- A search result is a cell that satisfies the test. -/
theorem walk_found {α : Type} {next : α → Option α} {found : α → Bool} {fuel : Nat}
    {start : Option α} {a : α} (h : walk next found fuel start = some (some a)) :
    found a = true := by
  induction fuel generalizing start with
  | zero => cases start <;> simp [walk] at h
  | succ fuel ih =>
    cases start with
    | none => simp [walk] at h
    | some b =>
      rw [walk] at h
      split at h
      · rename_i hb
        simp only [Option.some.injEq] at h
        rwa [← h]
      · exact ih h

end concretid.chain
