import Mathlib.Algebra.BigOperators.Group.List.Basic
import Mathlib.Data.List.Dedup

/-!
# Grouped rows

Rows fall into groups by a key.  What is summed over the rows is the sum of what is
summed over the groups, whatever is summed.
-/

namespace AiGateway.Grouped

set_option autoImplicit false

variable {α β κ M : Type} [DecidableEq κ]

/-- The keys of the rows, each once. -/
def keys (key : α → κ) (rows : List α) : List κ := (rows.map key).dedup

def group (key : α → κ) (rows : List α) (k : κ) : List α := rows.filter fun a => key a = k

/-- Each key with its rows. -/
def groups (key : α → κ) (rows : List α) : List (κ × List α) :=
  (keys key rows).map fun k => (k, group key rows k)

/-- The rows of the right side for each row of the left one, or none of them. -/
def leftJoin (matching : α → β → Bool) (left : List α) (right : List β) :
    List (α × Option β) :=
  left.flatMap fun a =>
    let found := right.filter (matching a)
    if found.isEmpty then [(a, none)] else found.map fun b => (a, some b)

section Keys

variable {key : α → κ} {rows : List α} {k : κ} {a : α}

theorem keys_nodup (key : α → κ) (rows : List α) : (keys key rows).Nodup := List.nodup_dedup _

theorem mem_keys : k ∈ keys key rows ↔ ∃ a ∈ rows, key a = k := by
  rw [keys, List.mem_dedup, List.mem_map]

theorem mem_group : a ∈ group key rows k ↔ a ∈ rows ∧ key a = k := by
  rw [group, List.mem_filter, decide_eq_true_iff]

theorem group_ne_nil (h : k ∈ keys key rows) : group key rows k ≠ [] := by
  obtain ⟨a, ha, hKey⟩ := mem_keys.mp h
  exact List.ne_nil_of_mem (mem_group.mpr ⟨ha, hKey⟩)

theorem group_eq_nil (h : k ∉ keys key rows) : group key rows k = [] := by
  rw [List.eq_nil_iff_forall_not_mem]
  intro a ha
  exact h (mem_keys.mpr ⟨a, mem_group.mp ha⟩)

end Keys

section Sums

variable [AddCommMonoid M] {key : α → κ}

/-- One row adds to the group of its key and to no other. -/
theorem sum_single {ks : List κ} (hKeys : ks.Nodup) {k : κ} (hk : k ∈ ks) (m : M) :
    (ks.map fun k' => if k = k' then m else 0).sum = m := by
  induction ks with
  | nil => cases hk
  | cons first rest ih =>
    obtain ⟨hFirst, hRest⟩ := List.nodup_cons.mp hKeys
    rw [List.map_cons, List.sum_cons]
    by_cases hSame : k = first
    · have hNone : (rest.map fun k' => if k = k' then m else 0).sum = 0 := by
        apply List.sum_eq_zero
        intro x hx
        obtain ⟨k', hk', rfl⟩ := List.mem_map.mp hx
        refine if_neg fun hOther => hFirst ?_
        rw [← hSame, hOther]
        exact hk'
      rw [if_pos hSame, hNone, add_zero]
    · have hk' : k ∈ rest := (List.mem_cons.mp hk).resolve_left hSame
      rw [if_neg hSame, ih hRest hk', zero_add]

/-- The keys may come in any order. -/
theorem sum_groups {ks : List κ} (hKeys : ks.Nodup) {rows : List α}
    (hAll : ∀ a ∈ rows, key a ∈ ks) (f : α → M) :
    (ks.map fun k => ((group key rows k).map f).sum).sum = (rows.map f).sum := by
  induction rows with
  | nil =>
    apply List.sum_eq_zero
    intro x hx
    obtain ⟨k, hk, rfl⟩ := List.mem_map.mp hx
    rfl
  | cons a rest ih =>
    have hGroup : ∀ k, ((group key (a :: rest) k).map f).sum =
        (if key a = k then f a else 0) + ((group key rest k).map f).sum := by
      intro k
      rw [group, List.filter_cons]
      by_cases hSame : key a = k
      · rw [if_pos (decide_eq_true hSame), if_pos hSame, List.map_cons, List.sum_cons, group]
      · rw [if_neg (by simpa using hSame), if_neg hSame, zero_add, group]
    simp only [hGroup]
    rw [List.sum_map_add, sum_single hKeys (hAll a List.mem_cons_self),
      ih fun b hb => hAll b (List.mem_cons_of_mem a hb), List.map_cons, List.sum_cons]

end Sums

section Joins

variable {matching : α → β → Bool} {left : List α} {right : List β}

/-- A left row that no two right rows match is there once. -/
theorem leftJoin_eq_map (h : ∀ a ∈ left, (right.filter (matching a)).length ≤ 1) :
    leftJoin matching left right = left.map fun a => (a, right.find? (matching a)) := by
  induction left with
  | nil => rfl
  | cons a rest ih =>
    rw [List.forall_mem_cons] at h
    rw [leftJoin, List.flatMap_cons, ← leftJoin, ih h.2, List.map_cons, ← List.head?_filter]
    cases hFound : right.filter (matching a) with
    | nil => rfl
    | cons b more =>
      have hOne : more = [] := by
        have hLength := h.1
        rw [hFound, List.length_cons] at hLength
        exact List.eq_nil_of_length_eq_zero (by omega)
      rw [hOne]
      rfl

/-- A key has one group. -/
theorem length_filter_groups_le_one (key : α → κ) (rows : List α) (k : κ) :
    ((groups key rows).filter fun made => made.1 = k).length ≤ 1 := by
  have hCount := List.nodup_iff_count_le_one.mp (keys_nodup key rows) k
  rw [List.count_eq_countP, List.countP_eq_length_filter] at hCount
  rw [groups, List.filter_map, List.length_map]
  simpa only [Function.comp_def, beq_eq_decide] using hCount

/-- The group of a key, from the list of all of them. -/
theorem find?_groups (key : α → κ) (rows : List α) (k : κ) :
    (groups key rows).find? (fun made => made.1 = k) =
      if k ∈ keys key rows then some (k, group key rows k) else none := by
  rw [groups]
  induction keys key rows with
  | nil => rfl
  | cons first rest ih =>
    rw [List.map_cons, List.find?_cons]
    by_cases hSame : first = k
    · subst hSame
      simp
    · rw [decide_eq_false hSame]
      simp only [ih, List.mem_cons, Ne.symm hSame, false_or]

end Joins

end AiGateway.Grouped
