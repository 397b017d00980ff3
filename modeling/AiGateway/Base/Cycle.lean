import Mathlib.Data.Nat.Count

/-!
# Counting on a cycle

How often a clock that goes round stands in a part of its cycle.
-/

namespace AiGateway.Cycle

set_option autoImplicit false

/-- Whole cycles, and the part of one. -/
theorem count_mod (p : Nat → Prop) [DecidablePred p] {cycle : Nat} (h : 0 < cycle) (n : Nat) :
    Nat.count (fun x => p (x % cycle)) n =
      n / cycle * Nat.count p cycle + Nat.count p (n % cycle) := by
  have hCongr : ∀ {q r : Nat → Prop} [DecidablePred q] [DecidablePred r] (m : Nat),
      (∀ x < m, q x ↔ r x) → Nat.count q m = Nat.count r m := fun m hSame =>
    Nat.le_antisymm (Nat.count_mono_left fun x hx => (hSame x hx).mp)
      (Nat.count_mono_left fun x hx => (hSame x hx).mpr)
  have hFirst : ∀ m ≤ cycle, Nat.count (fun x => p (x % cycle)) m = Nat.count p m := by
    intro m hm
    apply hCongr
    intro x hx
    rw [Nat.mod_eq_of_lt (Nat.lt_of_lt_of_le hx hm)]
  induction n using Nat.strong_induction_on with
  | _ n ih =>
    rcases Nat.lt_or_ge n cycle with hShort | hLong
    · rw [hFirst n (Nat.le_of_lt hShort), Nat.div_eq_of_lt hShort, Nat.mod_eq_of_lt hShort,
        Nat.zero_mul, Nat.zero_add]
    · obtain ⟨rest, rfl⟩ := Nat.exists_eq_add_of_le hLong
      have hShift : Nat.count (fun x => p ((cycle + x) % cycle)) rest =
          Nat.count (fun x => p (x % cycle)) rest := by
        apply hCongr
        intro x _
        rw [Nat.add_mod_left]
      rw [Nat.count_add, hFirst cycle (Nat.le_refl cycle), hShift, ih rest (by omega),
        Nat.add_div_left rest h, Nat.add_mod_left, Nat.succ_mul]
      omega

theorem count_interval (first width n : Nat) :
    Nat.count (fun x => first ≤ x ∧ x < first + width) n = min (n - first) width := by
  induction n with
  | zero => simp
  | succ n ih =>
    rw [Nat.count_succ, ih]
    split <;> omega

end AiGateway.Cycle
