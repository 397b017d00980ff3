import Mathlib.Data.List.Basic
import Mathlib.Data.UInt

/-!
# Integers as text

Decimal digits after an optional sign.  Reading back what was written gives the
number again.
-/

namespace AiGateway.IntText

set_option autoImplicit false

def digitsOf (n : Nat) : List Char := Nat.toDigits 10 n

theorem isDigit_digitsOf {n : Nat} : ∀ c ∈ digitsOf n, c.isDigit = true := fun _ hc =>
  Nat.isDigit_of_mem_toDigits (by decide) (by decide) hc

def readDigits (cs : List Char) : Option Nat :=
  if cs.isEmpty || !cs.all Char.isDigit then none else some (Nat.ofDigitChars 10 cs 0)

theorem readDigits_digitsOf (n : Nat) : readDigits (digitsOf n) = some n := by
  have hAll : (digitsOf n).all Char.isDigit = true := List.all_eq_true.mpr isDigit_digitsOf
  have hSome : (digitsOf n).isEmpty = false := List.isEmpty_eq_false_iff.mpr Nat.toDigits_ne_nil
  rw [readDigits, if_neg (by simp [hAll, hSome]), digitsOf, Nat.ofDigitChars_ten_toDigits]

def writeInt (i : Int) : List Char :=
  if i < 0 then '-' :: digitsOf i.natAbs else digitsOf i.natAbs

theorem toList_toString (i : Int) : (toString i).toList = writeInt i := by
  rw [Int.toString_eq_repr, Int.repr_eq_if, writeInt]
  by_cases hNat : 0 ≤ i
  · have hAbs : i.toNat = i.natAbs := by omega
    rw [if_pos hNat, if_neg (Int.not_lt.mpr hNat), Nat.toList_repr, hAbs, digitsOf]
  · have hAbs : (-i).toNat = i.natAbs := by omega
    rw [if_neg hNat, if_pos (Int.not_le.mp hNat), String.toList_append, Nat.toList_repr, hAbs]
    rfl

def readInt : List Char → Option Int
  | '-' :: digits => (readDigits digits).map fun n => -Int.ofNat n
  | '+' :: digits => (readDigits digits).map Int.ofNat
  | digits => (readDigits digits).map Int.ofNat

theorem readInt_of_isDigit {first : Char} (rest : List Char) (h : first.isDigit = true) :
    readInt (first :: rest) = (readDigits (first :: rest)).map Int.ofNat := by
  rw [readInt]
  · rintro digits hMinus
    cases hMinus
    exact absurd h (by decide)
  · rintro digits hPlus
    cases hPlus
    exact absurd h (by decide)

theorem readInt_writeInt (i : Int) : readInt (writeInt i) = some i := by
  rw [writeInt]
  split
  · have hAbs : -Int.ofNat i.natAbs = i := by
      rw [Int.ofNat_eq_natCast]
      omega
    rw [readInt, readDigits_digitsOf, Option.map_some, hAbs]
  · have hAbs : Int.ofNat i.natAbs = i := by
      rw [Int.ofNat_eq_natCast]
      omega
    obtain ⟨first, rest, hDigits⟩ : ∃ first rest, digitsOf i.natAbs = first :: rest :=
      List.exists_cons_of_ne_nil Nat.toDigits_ne_nil
    have hFirst : first.isDigit = true := by
      apply isDigit_digitsOf (n := i.natAbs)
      rw [hDigits]
      exact List.mem_cons_self
    rw [hDigits, readInt_of_isDigit rest hFirst, ← hDigits, readDigits_digitsOf, Option.map_some,
      hAbs]

theorem toString_injective : Function.Injective (toString : Int → String) := by
  intro i j h
  have hText : writeInt i = writeInt j := by rw [← toList_toString, h, toList_toString]
  have hRead := congrArg readInt hText
  rw [readInt_writeInt, readInt_writeInt] at hRead
  exact Option.some.inj hRead

def parseI64 (text : List Char) : Option Int :=
  (readInt text).filter fun i => -2 ^ 63 ≤ i ∧ i < 2 ^ 63

theorem parseI64_writeInt {i : Int} (hLow : -2 ^ 63 ≤ i) (hHigh : i < 2 ^ 63) :
    parseI64 (writeInt i) = some i := by
  rw [parseI64, readInt_writeInt]
  exact Option.filter_some_pos (decide_eq_true ⟨hLow, hHigh⟩)

theorem not_mem_writeInt {c : Char} (hDigit : c.isDigit = false) (hSign : c ≠ '-') (i : Int) :
    c ∉ writeInt i := by
  intro hMem
  have hNone : c ∉ digitsOf i.natAbs := by
    intro hc
    rw [isDigit_digitsOf c hc] at hDigit
    cases hDigit
  rw [writeInt] at hMem
  split at hMem
  · obtain rfl | hc := List.mem_cons.mp hMem
    · exact hSign rfl
    · exact hNone hc
  · exact hNone hMem

end AiGateway.IntText
