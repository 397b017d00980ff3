import AiGateway.Base.Lossy

/-!
# The octets of a character

A character is one octet below `0x80`, or an octet from `0xC0` on and after it octets
that continue it.  A text can be cut before every octet that continues nothing.
-/

namespace AiGateway.Text

set_option autoImplicit false

/-- An octet inside a character. -/
def Continues (b : UInt8) : Prop := 0x80 ≤ b.toNat ∧ b.toNat < 0xC0

instance (b : UInt8) : Decidable (Continues b) :=
  inferInstanceAs (Decidable (0x80 ≤ b.toNat ∧ b.toNat < 0xC0))

def octets (cs : List Char) : Bytes := cs.flatMap String.utf8EncodeChar

@[simp] theorem octets_cons (c : Char) (cs : List Char) :
    octets (c :: cs) = String.utf8EncodeChar c ++ octets cs := rfl

theorem utf8_eq_octets (s : String) : utf8 s = octets s.toList := utf8_eq_flatMap s

theorem continues_ofNat (n : Nat) : Continues (UInt8.ofNat (n % 0x40 + 0x80)) := by
  have hOctet : (UInt8.ofNat (n % 0x40 + 0x80)).toNat = n % 0x40 + 0x80 := by
    rw [UInt8.toNat_ofNat']
    omega
  constructor
  · omega
  · omega

theorem utf8Size_eq_one_iff (c : Char) : c.utf8Size = 1 ↔ c.toNat < 0x80 := by
  rw [Char.utf8Size_eq_one_iff, UInt32.le_iff_toNat_le]
  exact Nat.lt_succ_iff.symm

theorem octets_of_one {c : Char} (h : c.utf8Size = 1) :
    ∃ a, String.utf8EncodeChar c = [a] ∧ a.toNat = c.toNat ∧ a.toNat < 0x80 := by
  have hAscii := (utf8Size_eq_one_iff c).mp h
  have hOctet : (UInt8.ofNat c.toNat).toNat = c.toNat := by
    rw [UInt8.toNat_ofNat']
    omega
  refine ⟨UInt8.ofNat c.toNat, ?_, hOctet, by omega⟩
  exact if_pos (Nat.le_of_lt_succ hAscii)

/-- The first octet of a longer character, and where its third octet stands. -/
theorem octets_of_more {c : Char} (h : 1 < c.utf8Size) :
    ∃ a b rest, String.utf8EncodeChar c = a :: b :: rest ∧ 0xC0 ≤ a.toNat ∧ Continues b ∧
      ∀ d ∈ rest.head?, Continues d := by
  have hAscii : ¬c.val.toNat ≤ 0x7F := by
    intro hLe
    have hOne := (utf8Size_eq_one_iff c).mpr (Nat.lt_succ_of_le hLe)
    omega
  have hScalar : c.val.toNat < 0x110000 := by
    rcases c.valid with hLow | hHigh
    · exact Nat.lt_trans hLow (by decide)
    · exact hHigh.2
  have hFirst : ∀ n low, n < 0x100 → low = n → 0xC0 ≤ n → 0xC0 ≤ (UInt8.ofNat low).toNat := by
    intro n low hByte hSame hLow
    rw [UInt8.toNat_ofNat', hSame]
    omega
  simp only [String.utf8EncodeChar, if_neg hAscii]
  split
  · exact ⟨_, _, _, rfl, hFirst _ _ (by omega) rfl (by omega), continues_ofNat _, nofun⟩
  · split
    · refine ⟨_, _, _, rfl, hFirst _ _ (by omega) rfl (by omega), continues_ofNat _, ?_⟩
      simpa using continues_ofNat _
    · refine ⟨_, _, _, rfl, hFirst _ _ (by omega) rfl (by omega), continues_ofNat _, ?_⟩
      simpa using continues_ofNat _

/-- No text begins inside a character. -/
theorem octets_head_not_continues (cs : List Char) : ∀ b ∈ (octets cs).head?, ¬Continues b := by
  intro b hHead hContinues
  obtain ⟨hLow, hHigh⟩ := hContinues
  cases cs with
  | nil => cases hHead
  | cons c cs =>
    have hPos := c.utf8Size_pos
    rcases Nat.lt_or_ge 1 c.utf8Size with hMore | hOne
    · obtain ⟨a, b', rest, hOctets, hFirst, -, -⟩ := octets_of_more hMore
      rw [octets_cons, hOctets] at hHead
      cases hHead
      omega
    · obtain ⟨a, hOctets, -, hAscii⟩ := octets_of_one (c := c) (by omega)
      rw [octets_cons, hOctets] at hHead
      cases hHead
      omega

/-! ## Reading a text back -/

theorem fromUtf8_eq_some_iff {bytes : Bytes} {s : String} :
    fromUtf8 bytes = some s ↔ bytes = utf8 s := by
  constructor
  · intro h
    simp only [fromUtf8, String.fromUTF8?] at h
    split at h
    · rw [← Option.some.inj h]
      rfl
    · cases h
  · rintro rfl
    exact fromUtf8_utf8 s

theorem startsWith_iff {s p : String} : startsWith s p = true ↔ ∃ rest, s = p ++ rest := by
  rw [startsWith, List.isPrefixOf_iff_prefix]
  constructor
  · rintro ⟨rest, hRest⟩
    refine ⟨String.ofList rest, ?_⟩
    apply String.toList_inj.mp
    rw [String.toList_append, String.toList_ofList, hRest]
  · rintro ⟨rest, rfl⟩
    exact ⟨rest.toList, String.toList_append.symm⟩

theorem stripPrefix_eq_some_iff {s p rest : String} :
    stripPrefix s p = some rest ↔ s = p ++ rest := by
  have hDrop : ∀ rest', String.ofList ((p ++ rest').toList.drop p.toList.length) = rest' := by
    intro rest'
    rw [String.toList_append, List.drop_left, String.ofList_toList]
  rw [stripPrefix]
  constructor
  · intro h
    split at h
    · next hStarts =>
      obtain ⟨rest', rfl⟩ := startsWith_iff.mp hStarts
      rw [hDrop] at h
      rw [Option.some.inj h]
    · cases h
  · rintro rfl
    rw [if_pos (startsWith_iff.mpr ⟨rest, rfl⟩), hDrop]

end AiGateway.Text
