import Mathlib.Data.List.Basic
import Mathlib.Data.List.Nodup
import Mathlib.Data.List.TakeDrop

/-!
# Rows deleted in batches

Rows kept in the order of a key, and the deletion of the first few of them that
match a condition.  A second list drained at the same pace tells which of its
companions are still there when a batch is removed.
-/

namespace AiGateway

set_option autoImplicit false

/-- Rows in the order of their key. -/
structure Stored {α : Type} (key : α → ℕ) where
  rows : List α
  ordered : rows.Pairwise fun a b => key a < key b

namespace Stored

variable {α : Type} {key : α → ℕ}

/-- The first rows, by key, that match a condition. -/
def batch (s : Stored key) (p : α → Bool) (n : ℕ) : List α := (s.rows.filter p).take n

def keep (s : Stored key) (p : α → Bool) : Stored key where
  rows := s.rows.filter p
  ordered := s.ordered.filter p

/-- Deletes the rows whose key is listed. -/
def delete (s : Stored key) (keys : List ℕ) : Stored key := s.keep fun r => !keys.contains (key r)

/-- Adds a row with a key later than every stored one. -/
def append (s : Stored key) (row : α) (hLater : ∀ r ∈ s.rows, key r < key row) : Stored key where
  rows := s.rows ++ [row]
  ordered := by
    rw [List.pairwise_append]
    refine ⟨s.ordered, List.pairwise_singleton _ _, ?_⟩
    intro r hr r' hr'
    rw [List.mem_singleton.mp hr']
    exact hLater r hr

theorem mem_delete {s : Stored key} {keys : List ℕ} {r : α} :
    r ∈ (s.delete keys).rows ↔ r ∈ s.rows ∧ key r ∉ keys := by
  simp [delete, keep]

theorem filter_keys_take {rows : List α} (h : rows.Pairwise fun a b => key a < key b) (n : ℕ) :
    rows.filter (fun r => !((rows.take n).map key).contains (key r)) = rows.drop n := by
  have hSplit := List.take_append_drop n rows
  have hOrdered : (rows.take n ++ rows.drop n).Pairwise fun a b => key a < key b := by
    rw [hSplit]
    exact h
  obtain ⟨-, -, hApart⟩ := List.pairwise_append.mp hOrdered
  -- the rows taken all go, the rows behind them have later keys
  have hTaken : (rows.take n).filter (fun r => !((rows.take n).map key).contains (key r)) = [] := by
    rw [List.filter_eq_nil_iff]
    intro r hr
    simp only [Bool.not_eq_true', Bool.not_eq_false, List.contains_iff_mem]
    exact List.mem_map_of_mem hr
  have hBehind : (rows.drop n).filter (fun r => !((rows.take n).map key).contains (key r)) =
      rows.drop n := by
    rw [List.filter_eq_self]
    intro r hr
    simp only [Bool.not_eq_true', List.contains_eq_mem, decide_eq_false_iff_not, List.mem_map,
      not_exists, not_and]
    intro r' hr' hKey
    have := hApart r' hr' r hr
    omega
  calc rows.filter (fun r => !((rows.take n).map key).contains (key r))
      = (rows.take n ++ rows.drop n).filter
          (fun r => !((rows.take n).map key).contains (key r)) := by rw [hSplit]
    _ = rows.drop n := by rw [List.filter_append, hTaken, hBehind, List.nil_append]

/-- After a batch is deleted, the matching rows behind it are left. -/
theorem filter_delete_batch (s : Stored key) (p : α → Bool) (n : ℕ) :
    (s.delete ((s.batch p n).map key)).rows.filter p = (s.rows.filter p).drop n := by
  rw [← filter_keys_take (s.ordered.filter p) n]
  simp only [delete, keep, batch, List.filter_filter, Bool.and_comm]

theorem eq_of_key {s : Stored key} {a b : α} (ha : a ∈ s.rows) (hb : b ∈ s.rows)
    (hKey : key a = key b) : a = b := by
  have hNodup : (s.rows.map key).Nodup := by
    rw [List.Nodup, List.pairwise_map]
    exact s.ordered.imp fun h => Nat.ne_of_lt h
  exact List.inj_on_of_nodup_map hNodup ha hb hKey

/-- Rows that do not match stay. -/
theorem mem_delete_batch_of_not {s : Stored key} {p : α → Bool} {n : ℕ} {r : α} (hr : r ∈ s.rows)
    (hNot : p r = false) : r ∈ (s.delete ((s.batch p n).map key)).rows := by
  rw [mem_delete]
  refine ⟨hr, ?_⟩
  intro hMem
  obtain ⟨r', hr', hKey⟩ := List.mem_map.mp hMem
  have hMatch := List.mem_filter.mp (List.mem_of_mem_take hr')
  rw [eq_of_key hMatch.1 hr hKey, hNot] at hMatch
  exact Bool.noConfusion hMatch.2

end Stored

/-! ## Two lists drained at one pace -/

section Paced

variable {α β : Type}

/-- Whatever is related to an element of the second list is drained no later than it, when
both lists lose their first `n` elements again and again. -/
def Paced (n : ℕ) (R : α → β → Prop) (as : List α) (bs : List β) : Prop :=
  ∀ (i : ℕ) (hi : i < as.length) (j : ℕ) (hj : j < bs.length), R as[i] bs[j] → i / n ≤ j / n

instance {n : ℕ} {R : α → β → Prop} [∀ a b, Decidable (R a b)] {as : List α} {bs : List β} :
    Decidable (Paced n R as bs) := by
  unfold Paced
  infer_instance

theorem paced_nil {n : ℕ} {R : α → β → Prop} {bs : List β} : Paced n R [] bs := by
  intro i hi
  exact absurd hi (Nat.not_lt_zero i)

/-- The first batches leave nothing behind, and the rest is drained at the same pace. -/
theorem paced_iff {n : ℕ} (hPos : 0 < n) {R : α → β → Prop} {as : List α} {bs : List β} :
    Paced n R as bs ↔
      (∀ a ∈ as.drop n, ∀ b ∈ bs.take n, ¬R a b) ∧ Paced n R (as.drop n) (bs.drop n) := by
  constructor
  · intro h
    constructor
    · intro a ha b hb hR
      obtain ⟨i, hi, rfl⟩ := List.mem_iff_getElem.mp ha
      obtain ⟨j, hj, rfl⟩ := List.mem_iff_getElem.mp hb
      rw [List.length_drop] at hi
      rw [List.length_take] at hj
      rw [List.getElem_drop, List.getElem_take] at hR
      have hLe := h (n + i) (by omega) j (by omega) hR
      rw [Nat.add_div_left i hPos, Nat.div_eq_of_lt (by omega : j < n)] at hLe
      exact Nat.not_succ_le_zero _ hLe
    · intro i hi j hj hR
      rw [List.length_drop] at hi hj
      rw [List.getElem_drop, List.getElem_drop] at hR
      have hLe := h (n + i) (by omega) (n + j) (by omega) hR
      rw [Nat.add_div_left i hPos, Nat.add_div_left j hPos] at hLe
      exact Nat.le_of_succ_le_succ hLe
  · rintro ⟨hFirst, hRest⟩ i hi j hj hR
    rcases Nat.lt_or_ge i n with hLow | hHigh
    · rw [Nat.div_eq_of_lt hLow]
      exact Nat.zero_le _
    · obtain ⟨k, rfl⟩ := Nat.exists_eq_add_of_le hHigh
      have hDropped : k < (as.drop n).length := by
        rw [List.length_drop]
        omega
      rcases Nat.lt_or_ge j n with hEarly | hLate
      · have hTaken : j < (bs.take n).length := by
          rw [List.length_take]
          omega
        refine absurd hR ?_
        have := hFirst _ (List.getElem_mem hDropped) _ (List.getElem_mem hTaken)
        rwa [List.getElem_drop, List.getElem_take] at this
      · obtain ⟨l, rfl⟩ := Nat.exists_eq_add_of_le hLate
        have hBehind : l < (bs.drop n).length := by
          rw [List.length_drop]
          omega
        have hLe := hRest k hDropped l hBehind (by rwa [List.getElem_drop, List.getElem_drop])
        rw [Nat.add_div_left k hPos, Nat.add_div_left l hPos]
        exact Nat.succ_le_succ hLe

end Paced

end AiGateway
