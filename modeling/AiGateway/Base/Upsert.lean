import Mathlib.Data.List.Basic
import Mathlib.Data.List.Nodup

/-!
# Lists updated in place

A loop that looks for an entry of a list, changes the first it finds and adds a
new one when there is none.  The entries keep distinct keys, and a fact that an
update adds to an entry is the same that a new entry brings.
-/

namespace AiGateway

set_option autoImplicit false

variable {α κ : Type}

def upsert (found : α → Prop) [DecidablePred found] (update : α → α) (new : α) :
    List α → List α
  | [] => [new]
  | a :: rest => if found a then update a :: rest else a :: upsert found update new rest

/-- A key behind those already met, unless it is one of them. -/
def addNew [DecidableEq κ] (seen : List κ) (k : κ) : List κ :=
  if k ∈ seen then seen else seen ++ [k]

section Upsert

variable {found : α → Prop} [DecidablePred found] {update : α → α} {new : α} {entries : List α}

theorem forall_upsert {P : α → Prop} (h : ∀ a ∈ entries, P a) (hNew : P new)
    (hUpdate : ∀ a, P a → P (update a)) : ∀ a ∈ upsert found update new entries, P a := by
  induction entries with
  | nil =>
    intro a ha
    rw [upsert, List.mem_singleton] at ha
    rwa [ha]
  | cons entry rest ih =>
    rw [List.forall_mem_cons] at h
    rw [upsert]
    split
    · exact List.forall_mem_cons.mpr ⟨hUpdate entry h.1, h.2⟩
    · exact List.forall_mem_cons.mpr ⟨h.1, ih h.2⟩

theorem mem_upsert {a : α} (h : a ∈ upsert found update new entries) :
    a ∈ entries ∨ a = new ∨ ∃ old ∈ entries, found old ∧ a = update old := by
  induction entries with
  | nil => exact .inr (.inl (List.mem_singleton.mp h))
  | cons entry rest ih =>
    rw [upsert] at h
    split at h
    · rename_i hFound
      obtain rfl | hRest := List.mem_cons.mp h
      · exact .inr (.inr ⟨entry, List.mem_cons_self, hFound, rfl⟩)
      · exact .inl (List.mem_cons_of_mem _ hRest)
    · obtain rfl | hRest := List.mem_cons.mp h
      · exact .inl List.mem_cons_self
      · obtain hOld | hNew | ⟨old, hOld, hUpdated⟩ := ih hRest
        · exact .inl (List.mem_cons_of_mem _ hOld)
        · exact .inr (.inl hNew)
        · exact .inr (.inr ⟨old, List.mem_cons_of_mem _ hOld, hUpdated⟩)

/-- What the new entry has, the updated one has beside what it had before. -/
theorem exists_upsert {P : α → Prop} {Q : Prop} (hNew : P new ↔ Q)
    (hUpdate : ∀ a, found a → (P (update a) ↔ P a ∨ Q)) :
    (∃ a ∈ upsert found update new entries, P a) ↔ (∃ a ∈ entries, P a) ∨ Q := by
  induction entries with
  | nil => simp [upsert, hNew]
  | cons entry rest ih =>
    rw [upsert]
    split
    · next hFound =>
      simp only [List.mem_cons, exists_eq_or_imp]
      rw [hUpdate entry hFound, or_right_comm]
    · simp only [List.mem_cons, exists_eq_or_imp]
      rw [ih, or_assoc]

/-- Entries that a condition leaves out are not seen by an update of one it keeps. -/
theorem filter_upsert {p : α → Bool} (hFound : ∀ a, found a → p a = true)
    (hUpdate : ∀ a, found a → p (update a) = true) (hNew : p new = true) :
    (upsert found update new entries).filter p = upsert found update new (entries.filter p) := by
  induction entries with
  | nil => simp [upsert, hNew]
  | cons entry rest ih =>
    rw [upsert]
    split
    · next hEntry =>
      rw [List.filter_cons_of_pos (hUpdate entry hEntry),
        List.filter_cons_of_pos (hFound entry hEntry), upsert, if_pos hEntry]
    · next hEntry =>
      by_cases hKept : p entry = true
      · rw [List.filter_cons_of_pos hKept, List.filter_cons_of_pos hKept, upsert, if_neg hEntry, ih]
      · rw [List.filter_cons_of_neg hKept, List.filter_cons_of_neg hKept, ih]

theorem filter_upsert_of_not {p : α → Bool} (hFound : ∀ a, found a → p a = false)
    (hUpdate : ∀ a, found a → p (update a) = false) (hNew : p new = false) :
    (upsert found update new entries).filter p = entries.filter p := by
  induction entries with
  | nil => simp [upsert, hNew]
  | cons entry rest ih =>
    rw [upsert]
    split
    · next hEntry =>
      rw [List.filter_cons_of_neg (Bool.not_eq_true _ ▸ hUpdate entry hEntry),
        List.filter_cons_of_neg (Bool.not_eq_true _ ▸ hFound entry hEntry)]
    · simp only [List.filter_cons, ih]

variable [DecidableEq κ] {key : α → κ} {k : κ}

theorem keys_upsert (hFound : ∀ a, found a ↔ key a = k) (hNew : key new = k)
    (hUpdate : ∀ a, key (update a) = key a) :
    (upsert found update new entries).map key = addNew (entries.map key) k := by
  unfold addNew
  induction entries with
  | nil => simp [upsert, hNew]
  | cons entry rest ih =>
    rw [upsert]
    split
    · next hEntry =>
      have hKey := (hFound entry).mp hEntry
      rw [List.map_cons, List.map_cons, hUpdate, if_pos]
      rw [hKey]
      exact List.mem_cons_self
    · next hEntry =>
      have hKey : k ≠ key entry := fun h => hEntry ((hFound entry).mpr h.symm)
      rw [List.map_cons, List.map_cons, ih]
      simp only [List.mem_cons, hKey, false_or]
      split <;> rfl

theorem nodup_upsert (hFound : ∀ a, found a ↔ key a = k) (hNew : key new = k)
    (hUpdate : ∀ a, key (update a) = key a) (h : (entries.map key).Nodup) :
    ((upsert found update new entries).map key).Nodup := by
  rw [keys_upsert hFound hNew hUpdate, addNew]
  split
  · exact h
  · next hOut =>
    rw [← List.concat_eq_append, List.nodup_concat]
    exact ⟨hOut, h⟩

end Upsert

/-! ## Keys in the order they are met -/

section AddNew

variable [DecidableEq κ]

theorem foldl_addNew_of_mem {seen block : List κ} {k : κ} (hSame : ∀ k' ∈ block, k' = k)
    (hSeen : k ∈ seen) : block.foldl addNew seen = seen := by
  induction block with
  | nil => rfl
  | cons head rest ih =>
    rw [List.forall_mem_cons] at hSame
    rw [List.foldl_cons, addNew, hSame.1, if_pos hSeen]
    exact ih hSame.2

theorem foldl_addNew_of_not_mem {seen block : List κ} {k : κ} (hBlock : block ≠ [])
    (hSame : ∀ k' ∈ block, k' = k) (hSeen : k ∉ seen) :
    block.foldl addNew seen = seen ++ [k] := by
  cases block with
  | nil => exact absurd rfl hBlock
  | cons head rest =>
    rw [List.forall_mem_cons] at hSame
    rw [List.foldl_cons, addNew, hSame.1, if_neg hSeen]
    exact foldl_addNew_of_mem hSame.2 (List.mem_append_right seen List.mem_cons_self)

/-- Keys that come in blocks, one after the other, are met in the order of the blocks. -/
theorem foldl_addNew_flatMap {items : List α} {key : α → κ} {block : α → List κ} {seen : List κ}
    (hBlock : ∀ a ∈ items, block a ≠ [] ∧ ∀ k ∈ block a, k = key a)
    (hNodup : (seen ++ items.map key).Nodup) :
    (items.flatMap block).foldl addNew seen = seen ++ items.map key := by
  induction items generalizing seen with
  | nil => simp
  | cons a rest ih =>
    rw [List.forall_mem_cons] at hBlock
    obtain ⟨⟨hNe, hSame⟩, hRest⟩ := hBlock
    rw [List.map_cons] at hNodup ⊢
    have hSeen : key a ∉ seen := by
      intro hMem
      exact (List.nodup_append.mp hNodup).2.2 _ hMem _ List.mem_cons_self rfl
    have hSplit : seen ++ key a :: rest.map key = seen ++ [key a] ++ rest.map key := by
      rw [List.append_assoc, List.singleton_append]
    rw [hSplit] at hNodup ⊢
    rw [List.flatMap_cons, List.foldl_append, foldl_addNew_of_not_mem hNe hSame hSeen]
    exact ih hRest hNodup

end AddNew

end AiGateway
