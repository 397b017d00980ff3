import AiGateway.Base.Text

/-!
# Base64

Three octets are four digits of six bits; a last group of one or two octets is
two or three digits, whose bits beyond the octets are zero.
-/

namespace AiGateway.Base64

set_option autoImplicit false

open AiGateway.Text

structure Alphabet where
  symbols : List Char
  length : symbols.length = 64
  nodup : symbols.Nodup

namespace Alphabet

def symbol (alphabet : Alphabet) (digit : Nat) : Char := alphabet.symbols.getD digit 'A'

def digit (alphabet : Alphabet) (c : Char) : Option Nat :=
  if c ∈ alphabet.symbols then some (alphabet.symbols.idxOf c) else none

theorem symbol_eq (alphabet : Alphabet) {n : Nat} (h : n < alphabet.symbols.length) :
    alphabet.symbol n = alphabet.symbols[n] := by
  rw [symbol, List.getD_eq_getElem?_getD, List.getElem?_eq_getElem h, Option.getD_some]

theorem symbol_mem (alphabet : Alphabet) {n : Nat} (h : n < 64) :
    alphabet.symbol n ∈ alphabet.symbols := by
  have hLength : n < alphabet.symbols.length := alphabet.length.symm ▸ h
  rw [alphabet.symbol_eq hLength]
  exact List.getElem_mem hLength

theorem digit_symbol (alphabet : Alphabet) {n : Nat} (h : n < 64) :
    alphabet.digit (alphabet.symbol n) = some n := by
  have hLength : n < alphabet.symbols.length := alphabet.length.symm ▸ h
  rw [digit, if_pos (alphabet.symbol_mem h), alphabet.symbol_eq hLength,
    alphabet.nodup.idxOf_getElem]

end Alphabet

variable (alphabet : Alphabet)

/-- Without padding. -/
def encode : Bytes → List Char
  | a :: b :: c :: rest =>
    alphabet.symbol (a.toNat / 4) :: alphabet.symbol (a.toNat % 4 * 16 + b.toNat / 16) ::
      alphabet.symbol (b.toNat % 16 * 4 + c.toNat / 64) :: alphabet.symbol (c.toNat % 64) ::
      encode rest
  | [a, b] =>
    [alphabet.symbol (a.toNat / 4), alphabet.symbol (a.toNat % 4 * 16 + b.toNat / 16),
      alphabet.symbol (b.toNat % 16 * 4)]
  | [a] => [alphabet.symbol (a.toNat / 4), alphabet.symbol (a.toNat % 4 * 16)]
  | [] => []

def decode : List Char → Option Bytes
  | c₀ :: c₁ :: c₂ :: c₃ :: rest => do
    let d₀ ← alphabet.digit c₀
    let d₁ ← alphabet.digit c₁
    let d₂ ← alphabet.digit c₂
    let d₃ ← alphabet.digit c₃
    let bytes ← decode rest
    return UInt8.ofNat (d₀ * 4 + d₁ / 16) :: UInt8.ofNat (d₁ % 16 * 16 + d₂ / 4) ::
      UInt8.ofNat (d₂ % 4 * 64 + d₃) :: bytes
  | [c₀, c₁, c₂] => do
    let d₀ ← alphabet.digit c₀
    let d₁ ← alphabet.digit c₁
    let d₂ ← alphabet.digit c₂
    guard (d₂ % 4 = 0)
    return [UInt8.ofNat (d₀ * 4 + d₁ / 16), UInt8.ofNat (d₁ % 16 * 16 + d₂ / 4)]
  | [c₀, c₁] => do
    let d₀ ← alphabet.digit c₀
    let d₁ ← alphabet.digit c₁
    guard (d₁ % 16 = 0)
    return [UInt8.ofNat (d₀ * 4 + d₁ / 16)]
  | [_] => none
  | [] => some []

/-- With as much padding as makes the groups whole, and no more. -/
def decodePadded (text : List Char) : Option Bytes :=
  let body :=
    if ['=', '='].isSuffixOf text then text.dropLast.dropLast
    else if ['='].isSuffixOf text then text.dropLast
    else text
  if text.length % 4 = 0 then decode alphabet body else none

theorem ofNat_eq {b : UInt8} {n : Nat} (h : n = b.toNat) : UInt8.ofNat n = b := by
  rw [h, UInt8.ofNat_toNat]

theorem decode_encode (bytes : Bytes) : decode alphabet (encode alphabet bytes) = some bytes := by
  induction bytes using encode.induct with
  | case1 a b c rest ih =>
    have ha := a.toNat_lt
    have hb := b.toNat_lt
    have hc := c.toNat_lt
    have hFirst : a.toNat / 4 * 4 + (a.toNat % 4 * 16 + b.toNat / 16) / 16 = a.toNat := by omega
    have hSecond : (a.toNat % 4 * 16 + b.toNat / 16) % 16 * 16 +
        (b.toNat % 16 * 4 + c.toNat / 64) / 4 = b.toNat := by omega
    have hThird : (b.toNat % 16 * 4 + c.toNat / 64) % 4 * 64 + c.toNat % 64 = c.toNat := by omega
    rw [encode, decode, ih, alphabet.digit_symbol (by omega), alphabet.digit_symbol (by omega),
      alphabet.digit_symbol (by omega), alphabet.digit_symbol (by omega)]
    simp only [Option.bind_eq_bind, Option.bind_some, ofNat_eq hFirst, ofNat_eq hSecond,
      ofNat_eq hThird]
    rfl
  | case2 a b =>
    have ha := a.toNat_lt
    have hb := b.toNat_lt
    have hFirst : a.toNat / 4 * 4 + (a.toNat % 4 * 16 + b.toNat / 16) / 16 = a.toNat := by omega
    have hSecond : (a.toNat % 4 * 16 + b.toNat / 16) % 16 * 16 + b.toNat % 16 * 4 / 4 =
        b.toNat := by omega
    have hRest : b.toNat % 16 * 4 % 4 = 0 := by omega
    rw [encode, decode, alphabet.digit_symbol (by omega), alphabet.digit_symbol (by omega),
      alphabet.digit_symbol (by omega)]
    simp only [Option.bind_eq_bind, Option.bind_some, ofNat_eq hFirst, ofNat_eq hSecond, hRest]
    rfl
  | case3 a =>
    have ha := a.toNat_lt
    have hFirst : a.toNat / 4 * 4 + a.toNat % 4 * 16 / 16 = a.toNat := by omega
    have hRest : a.toNat % 4 * 16 % 16 = 0 := by omega
    rw [encode, decode, alphabet.digit_symbol (by omega), alphabet.digit_symbol (by omega)]
    simp only [Option.bind_eq_bind, Option.bind_some, ofNat_eq hFirst, hRest]
    rfl
  | case4 => rfl

theorem mem_symbols_of_mem_encode (bytes : Bytes) :
    ∀ c ∈ encode alphabet bytes, c ∈ alphabet.symbols := by
  induction bytes using encode.induct with
  | case1 a b c rest ih =>
    have ha := a.toNat_lt
    have hb := b.toNat_lt
    have hc := c.toNat_lt
    rw [encode]
    simp only [List.forall_mem_cons]
    exact ⟨alphabet.symbol_mem (by omega), alphabet.symbol_mem (by omega),
      alphabet.symbol_mem (by omega), alphabet.symbol_mem (by omega), ih⟩
  | case2 a b =>
    have ha := a.toNat_lt
    have hb := b.toNat_lt
    rw [encode]
    simp only [List.forall_mem_cons]
    exact ⟨alphabet.symbol_mem (by omega), alphabet.symbol_mem (by omega),
      alphabet.symbol_mem (by omega), nofun⟩
  | case3 a =>
    have ha := a.toNat_lt
    rw [encode]
    simp only [List.forall_mem_cons]
    exact ⟨alphabet.symbol_mem (by omega), alphabet.symbol_mem (by omega), nofun⟩
  | case4 => nofun

theorem length_le_length_encode (bytes : Bytes) :
    bytes.length ≤ (encode alphabet bytes).length := by
  induction bytes using encode.induct with
  | case1 a b c rest ih =>
    simp only [encode, List.length_cons]
    omega
  | case2 a b => simp [encode]
  | case3 a => simp [encode]
  | case4 => simp

theorem length_encode_le (bytes : Bytes) :
    3 * (encode alphabet bytes).length ≤ 4 * bytes.length + 2 := by
  induction bytes using encode.induct with
  | case1 a b c rest ih =>
    simp only [encode, List.length_cons]
    omega
  | case2 a b => simp [encode]
  | case3 a => simp [encode]
  | case4 => simp [encode]

end AiGateway.Base64
