import Mathlib.Data.List.Basic

/-!
Symbols in records: the head of each says how many follow it.
-/

namespace concretid.library

variable {α : Type*} {size : α → Nat}

structure Record (size : α → Nat) where
  head : α
  body : List α
  length_body : body.length = size head

namespace Record

def symbols (r : Record size) : List α := r.head :: r.body

end Record

/-- The records one behind the other. -/
def flatten (records : List (Record size)) : List α := records.flatMap Record.symbols

@[simp] theorem flatten_nil : flatten ([] : List (Record size)) = [] := rfl

theorem flatten_cons (r : Record size) (records : List (Record size)) :
    flatten (r :: records) = r.head :: (r.body ++ flatten records) := rfl

theorem flatten_append (records more : List (Record size)) :
    flatten (records ++ more) = flatten records ++ flatten more := List.flatMap_append

theorem length_le_flatten (records : List (Record size)) : records.length ≤ (flatten records).length := by
  induction records with
  | nil => exact Nat.le_refl 0
  | cons r records ih =>
    rw [flatten_cons, List.length_cons, List.length_cons, List.length_append]
    omega

/-- Whole records are read off, and the symbols of the last one that are there are left. -/
def split (size : α → Nat) : List α → List (Record size) × List α
  | [] => ([], [])
  | head :: rest =>
    if h : size head ≤ rest.length then
      let later := split size (rest.drop (size head))
      (⟨head, rest.take (size head), List.length_take_of_le h⟩ :: later.1, later.2)
    else ([], head :: rest)
termination_by symbols => symbols.length
decreasing_by
  rw [List.length_drop, List.length_cons]
  omega

@[simp] theorem split_nil : split size [] = ([], []) := by rw [split]

/-- A record that is not all there is left. -/
theorem split_short {head : α} {rest : List α} (h : rest.length < size head) :
    split size (head :: rest) = ([], head :: rest) := by
  rw [split, dif_neg (Nat.not_le.mpr h)]

/-- Whole records in front of other symbols are read off as they are. -/
theorem split_flatten_append (records : List (Record size)) (rest : List α) :
    split size (flatten records ++ rest) = (records ++ (split size rest).1, (split size rest).2) := by
  induction records with
  | nil => rfl
  | cons r records ih =>
    have hlength : size r.head = r.body.length := r.length_body.symm
    have hroom : size r.head ≤ (r.body ++ (flatten records ++ rest)).length := by
      rw [hlength, List.length_append]
      omega
    rw [flatten_cons, List.cons_append, List.append_assoc, split, dif_pos hroom]
    have hdrop : (r.body ++ (flatten records ++ rest)).drop (size r.head) = flatten records ++ rest :=
      List.drop_left' r.length_body
    have htake : (r.body ++ (flatten records ++ rest)).take (size r.head) = r.body :=
      List.take_left' r.length_body
    simp only [hdrop, htake, ih, List.cons_append]

theorem split_flatten (records : List (Record size)) : split size (flatten records) = (records, []) := by
  have h := split_flatten_append records []
  rwa [List.append_nil, split_nil, List.append_nil] at h

/-- The symbols begin with `n` records of at most `limit` symbols, or with fewer and
the head of one that is longer. -/
def Begins (size : α → Nat) (limit n : Nat) (symbols : List α) : Prop :=
  ∃ (records : List (Record size)) (rest : List α), symbols = flatten records ++ rest ∧
    (∀ r ∈ records, r.body.length ≤ limit) ∧
      (records.length = n ∨
        records.length < n ∧ ∃ head rest', rest = head :: rest' ∧ limit < size head)

theorem begins_zero (limit : Nat) (symbols : List α) : Begins size limit 0 symbols :=
  ⟨[], symbols, rfl, fun _ hr => absurd hr List.not_mem_nil, .inl rfl⟩

theorem not_begins_nil (limit n : Nat) : ¬ Begins size limit (n + 1) [] := by
  rintro ⟨records, rest, hsymbols, -, hlength⟩
  obtain ⟨hflatten, rfl⟩ := List.append_eq_nil_iff.mp hsymbols.symm
  have hle := length_le_flatten records
  rw [hflatten, List.length_nil] at hle
  obtain hn | ⟨-, head, rest', hrest, -⟩ := hlength
  · omega
  · cases hrest

theorem begins_of_long {limit n : Nat} {head : α} {rest : List α} (h : limit < size head) :
    Begins size limit (n + 1) (head :: rest) :=
  ⟨[], head :: rest, rfl, fun _ hr => absurd hr List.not_mem_nil,
    .inr ⟨Nat.succ_pos n, head, rest, rfl, h⟩⟩

/-- One record after the other. -/
theorem begins_succ_iff {limit n : Nat} {head : α} {rest : List α} (h : size head ≤ limit) :
    Begins size limit (n + 1) (head :: rest) ↔
      size head ≤ rest.length ∧ Begins size limit n (rest.drop (size head)) := by
  constructor
  · rintro ⟨records, behind, hsymbols, hlimit, hlength⟩
    cases records with
    | nil =>
      obtain hn | ⟨-, head', rest', rfl, hlong⟩ := hlength
      · cases hn
      · obtain ⟨rfl, -⟩ := List.cons_eq_cons.mp hsymbols
        omega
    | cons r records =>
      rw [flatten_cons, List.cons_append, List.append_assoc] at hsymbols
      obtain ⟨rfl, rfl⟩ := List.cons_eq_cons.mp hsymbols
      refine ⟨?_, records, behind, List.drop_left' r.length_body, ?_, ?_⟩
      · rw [List.length_append, r.length_body]
        exact Nat.le_add_right _ _
      · exact fun r' hr' => hlimit r' (List.mem_cons_of_mem r hr')
      · simpa only [List.length_cons, Nat.succ.injEq, Nat.succ_lt_succ_iff] using hlength
  · rintro ⟨hle, records, behind, hdrop, hlimit, hlength⟩
    let r : Record size := ⟨head, rest.take (size head), List.length_take_of_le hle⟩
    refine ⟨r :: records, behind, ?_, ?_, ?_⟩
    · rw [flatten_cons, List.cons_append, List.append_assoc, ← hdrop]
      exact congrArg (head :: ·) (List.take_append_drop _ _).symm
    · intro r' hr'
      obtain rfl | hmem := List.mem_cons.mp hr'
      · rw [r.length_body]
        exact h
      · exact hlimit r' hmem
    · simpa only [List.length_cons, Nat.succ.injEq, Nat.succ_lt_succ_iff] using hlength

end concretid.library
