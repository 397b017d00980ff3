import Mathlib.Data.List.Sort

/-!
# Orders on rows

Boolean comparisons as a query's `ORDER BY` makes them: by one key, and by further
keys where the first are equal.  Sorting by such a comparison does not depend on
the order in which rows are met, as long as rows that compare equal are equal.
-/

namespace AiGateway.Order

set_option autoImplicit false

variable {α β κ : Type}

/-- A comparison that is defined on all pairs and can be chained. -/
structure Preorder (le : α → α → Bool) : Prop where
  total : ∀ a b, le a b = true ∨ le b a = true
  trans : ∀ a b c, le a b = true → le b c = true → le a c = true

structure Linear (le : κ → κ → Bool) : Prop extends Preorder le where
  antisymm : ∀ a b, le a b = true → le b a = true → a = b

/-- The comparison by a key, and by another comparison where the keys are equal. -/
def thenBy [DecidableEq κ] (key : α → κ) (le : κ → κ → Bool) (rest : α → α → Bool) (a b : α) :
    Bool :=
  if key a ≠ key b then le (key a) (key b) else rest a b

section ThenBy

variable [DecidableEq κ] {key : α → κ} {le : κ → κ → Bool} {rest : α → α → Bool}

theorem thenBy_eq_true {a b : α} :
    thenBy key le rest a b = true ↔
      (key a ≠ key b ∧ le (key a) (key b) = true) ∨ (key a = key b ∧ rest a b = true) := by
  unfold thenBy
  split
  · next hNe => simp [hNe]
  · next hEq => simp [not_not.mp hEq]

theorem Linear.thenBy (hLe : Linear le) (hRest : Preorder rest) :
    Preorder (thenBy key le rest) := by
  constructor
  · intro a b
    simp only [thenBy_eq_true]
    rcases Decidable.em (key a = key b) with hEq | hNe
    · exact (hRest.total a b).imp (fun h => .inr ⟨hEq, h⟩) fun h => .inr ⟨hEq.symm, h⟩
    · exact (hLe.total (key a) (key b)).imp (fun h => .inl ⟨hNe, h⟩) fun h => .inl ⟨Ne.symm hNe, h⟩
  · intro a b c
    simp only [thenBy_eq_true]
    rintro (⟨hNe, hAB⟩ | ⟨hEq, hAB⟩) (⟨hNe', hBC⟩ | ⟨hEq', hBC⟩)
    · refine .inl ⟨fun hAC => hNe ?_, hLe.trans _ _ _ hAB hBC⟩
      exact hLe.antisymm _ _ hAB (hAC ▸ hBC)
    · exact .inl ⟨hEq' ▸ hNe, hEq' ▸ hAB⟩
    · exact .inl ⟨hEq ▸ hNe', hEq ▸ hBC⟩
    · exact .inr ⟨hEq.trans hEq', hRest.trans _ _ _ hAB hBC⟩

/-- Rows that compare equal have equal keys and compare equal by what follows. -/
theorem Linear.eq_of_thenBy (hLe : Linear le) {a b : α} (h : Order.thenBy key le rest a b = true)
    (h' : Order.thenBy key le rest b a = true) :
    key a = key b ∧ rest a b = true ∧ rest b a = true := by
  rw [thenBy_eq_true] at h h'
  obtain ⟨hNe, hAB⟩ | ⟨hEq, hAB⟩ := h
  · obtain ⟨-, hBA⟩ | ⟨hEq, -⟩ := h'
    · exact absurd (hLe.antisymm _ _ hAB hBA) hNe
    · exact absurd hEq.symm hNe
  · obtain ⟨hNe, -⟩ | ⟨-, hBA⟩ := h'
    · exact absurd hEq.symm hNe
    · exact ⟨hEq, hAB, hBA⟩

end ThenBy

/-- Sorting forgets the order of the rows. -/
theorem insertionSort_eq_of_perm {le : α → α → Bool} (h : Preorder le) {rows rows' : List α}
    (hAntisymm : ∀ a ∈ rows, ∀ b ∈ rows, le a b = true → le b a = true → a = b)
    (hPerm : rows'.Perm rows) :
    rows'.insertionSort (fun a b => le a b = true) =
      rows.insertionSort fun a b => le a b = true := by
  have : Std.Total fun a b => le a b = true := ⟨h.total⟩
  have : IsTrans α fun a b => le a b = true := ⟨h.trans⟩
  have hSorted := (List.perm_insertionSort (fun a b => le a b = true) rows').trans
    (hPerm.trans (List.perm_insertionSort (fun a b => le a b = true) rows).symm)
  refine List.Perm.eq_of_pairwise ?_ (List.pairwise_insertionSort _ _)
    (List.pairwise_insertionSort _ _) hSorted
  intro a b hA hB
  refine hAntisymm a ?_ b ?_
  · exact hPerm.mem_iff.mp (((List.perm_insertionSort _ _).mem_iff).mp hA)
  · exact ((List.perm_insertionSort _ _).mem_iff).mp hB

/-- Rows that a filter keeps and that are in order already are left in that order. -/
theorem filter_insertionSort {r : α → α → Prop} [DecidableRel r] {p : α → Bool} {rows : List α}
    (h : (rows.filter p).Pairwise r) : (rows.insertionSort r).filter p = rows.filter p := by
  have hKept := (List.sublist_insertionSort h List.filter_sublist).filter p
  simp only [List.filter_filter, Bool.and_self] at hKept
  have hLength := ((List.perm_insertionSort r rows).filter p).length_eq
  exact (hKept.eq_of_length_le hLength.le).symm

end AiGateway.Order
