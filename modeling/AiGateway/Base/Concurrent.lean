import Mathlib.Algebra.BigOperators.Group.List.Basic
import Mathlib.Data.UInt
import Mathlib.Logic.Relation

/-!
# Calls in flight

Code that is entered many times at once is a list of calls, each at some point
of its own; a step moves one of them and leaves the others where they are.
-/

namespace AiGateway.Concurrent

set_option autoImplicit false

open Relation

variable {α σ : Type}

/-- One call moves from a point to another. -/
inductive Moves (a b : α) : List α → List α → Prop where
  | at (before after : List α) : Moves a b (before ++ a :: after) (before ++ b :: after)

theorem Moves.exists_eq {a b : α} {calls calls' : List α} (h : Moves a b calls calls') :
    ∃ before after, calls = before ++ a :: after ∧ calls' = before ++ b :: after := by
  obtain ⟨before, after⟩ := h
  exact ⟨before, after, rfl, rfl⟩

theorem Moves.sum {a b : α} {calls calls' : List α} (h : Moves a b calls calls') (f : α → Nat) :
    (calls'.map f).sum + f a = (calls.map f).sum + f b := by
  obtain ⟨before, after⟩ := h
  simp only [List.map_append, List.map_cons, List.sum_append, List.sum_cons]
  omega

theorem Moves.mem {a b x : α} {calls calls' : List α} (h : Moves a b calls calls')
    (hMem : x ∈ calls') : x = b ∨ x ∈ calls := by
  obtain ⟨before, after⟩ := h
  simp only [List.mem_append, List.mem_cons] at hMem ⊢
  tauto

theorem Moves.mem_old {a b : α} {calls calls' : List α} (h : Moves a b calls calls') :
    a ∈ calls := by
  obtain ⟨before, after⟩ := h
  simp

theorem Moves.mem_new {a b : α} {calls calls' : List α} (h : Moves a b calls calls') :
    b ∈ calls' := by
  obtain ⟨before, after⟩ := h
  simp

theorem Moves.mem_kept {a b x : α} {calls calls' : List α} (h : Moves a b calls calls')
    (hMem : x ∈ calls) (hNe : x ≠ a) : x ∈ calls' := by
  obtain ⟨before, after⟩ := h
  simp only [List.mem_append, List.mem_cons] at hMem ⊢
  tauto

/-- Every call but the one that moves is there before and after. -/
theorem Moves.exists_others {a b : α} {calls calls' : List α} (h : Moves a b calls calls') :
    ∃ others : List α, (∀ x, x ∈ calls ↔ x = a ∨ x ∈ others) ∧ (∀ x, x ∈ calls' ↔ x = b ∨ x ∈ others) ∧
      ∀ f : α → Nat, (calls.map f).sum = f a + (others.map f).sum := by
  obtain ⟨before, after⟩ := h
  refine ⟨before ++ after, ?_, ?_, ?_⟩
  · intro x
    simp only [List.mem_append, List.mem_cons]
    tauto
  · intro x
    simp only [List.mem_append, List.mem_cons]
    tauto
  · intro f
    simp only [List.map_append, List.map_cons, List.sum_append, List.sum_cons]
    omega

/-- The whole weight is at least that of each call. -/
theorem le_sum_of_mem {calls : List α} {a : α} (h : a ∈ calls) (f : α → Nat) :
    f a ≤ (calls.map f).sum := by
  induction calls with
  | nil => cases h
  | cons b rest ih =>
    rw [List.map_cons, List.sum_cons]
    obtain rfl | hRest := List.mem_cons.mp h
    · omega
    · have hLe := ih hRest
      omega

theorem exists_of_sum_pos {calls : List α} {f : α → Nat} (h : 0 < (calls.map f).sum) :
    ∃ a ∈ calls, 0 < f a := by
  induction calls with
  | nil => cases h
  | cons b rest ih =>
    rw [List.map_cons, List.sum_cons] at h
    rcases Nat.eq_zero_or_pos (f b) with hZero | hPos
    · obtain ⟨a, hMem, ha⟩ := ih (by omega)
      exact ⟨a, List.mem_cons_of_mem b hMem, ha⟩
    · exact ⟨b, List.mem_cons_self, hPos⟩

/-- What a step keeps holds after any number of steps. -/
theorem invariant {Step : σ → σ → Prop} {P : σ → Prop} {s t : σ} (hRun : ReflTransGen Step s t)
    (hStep : ∀ {s t}, P s → Step s t → P t) (hs : P s) : P t := by
  induction hRun with
  | refl => exact hs
  | tail _ hLast ih => exact hStep ih hLast

end AiGateway.Concurrent
