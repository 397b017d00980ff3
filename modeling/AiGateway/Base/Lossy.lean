import AiGateway.Base.Text

/-!
# Lossy decoding

How many octets a decoded text has, and where a decoded text may be cut.
-/

namespace AiGateway.Text

set_option autoImplicit false

def octetCount (cs : List Char) : Nat := (cs.map Char.utf8Size).sum

theorem utf8_length_eq (s : String) : (utf8 s).length = octetCount s.toList := by
  rw [utf8_eq_flatMap, List.length_flatMap, octetCount]
  simp only [String.length_utf8EncodeChar]

theorem length_le_octetCount (cs : List Char) : cs.length ≤ octetCount cs := by
  induction cs with
  | nil => exact Nat.le_refl 0
  | cons c cs ih =>
    have hSize := c.utf8Size_pos
    simp only [octetCount, List.map_cons, List.sum_cons, List.length_cons] at ih ⊢
    omega

theorem octetCount_le_of_sublist {cs ds : List Char} (h : cs.Sublist ds) :
    octetCount cs ≤ octetCount ds := by
  induction h with
  | slnil => exact Nat.le_refl _
  | cons d _ ih => exact Nat.le_trans ih (Nat.le_add_left _ d.utf8Size)
  | cons_cons d _ ih => exact Nat.add_le_add_left ih d.utf8Size

theorem trimChars_sublist (cs : List Char) : (trimChars cs).Sublist cs := by
  have hStart : ∀ ds, (trimStartChars ds).Sublist ds := fun ds => List.dropWhile_sublist _
  rw [trimChars]
  exact (hStart _).reverse.trans (by simpa using hStart cs)

theorem utf8_trim_length_le (s : String) : (utf8 (trim s)).length ≤ (utf8 s).length := by
  rw [utf8_length_eq, utf8_length_eq, trim, String.toList_ofList]
  exact octetCount_le_of_sublist (trimChars_sublist s.toList)

theorem utf8_stripPrefix_length_le {s p value : String} (h : stripPrefix s p = some value) :
    (utf8 value).length ≤ (utf8 s).length := by
  rw [stripPrefix] at h
  split at h
  · rw [← Option.some.inj h, utf8_length_eq, utf8_length_eq, String.toList_ofList]
    exact octetCount_le_of_sublist (List.drop_sublist _ _)
  · cases h

theorem utf8Size_replacementCharacter : replacementCharacter.utf8Size = 3 := by decide

theorem ascii_utf8Size : ∀ b < 0x80, (Char.ofNat b).utf8Size = 1 := by decide

theorem firstOctet_size {b : Nat} {c : Char} (h : firstOctet b = .inl c) : c.utf8Size ≤ 3 := by
  unfold firstOctet at h
  split_ifs at h with hAscii
  · rw [← Sum.inl.inj h, ascii_utf8Size b hAscii]
    decide
  · rw [← Sum.inl.inj h]
    exact Nat.le_of_eq utf8Size_replacementCharacter

/-- What an unfinished sequence leaves behind where it breaks off. -/
def flush : Option Partial → List Char
  | none => []
  | some _ => [replacementCharacter]

/-- One octet: the characters it completes, and the sequence it leaves open. -/
def lossyStep (p : Option Partial) (b : UInt8) : List Char × Option Partial :=
  match p with
  | none =>
    match firstOctet b.toNat with
    | .inl c => ([c], none)
    | .inr q => ([], some q)
  | some p =>
    if p.low ≤ b.toNat ∧ b.toNat ≤ p.high then
      match p.next b.toNat with
      | .inl c => ([c], none)
      | .inr q => ([], some q)
    else
      match firstOctet b.toNat with
      | .inl c => ([replacementCharacter, c], none)
      | .inr q => ([replacementCharacter], some q)

theorem decodeLossyFrom_nil (p : Option Partial) : decodeLossyFrom p [] = flush p := by
  cases p <;> rfl

theorem decodeLossyFrom_cons (p : Option Partial) (b : UInt8) (bs : Bytes) :
    decodeLossyFrom p (b :: bs) =
      (lossyStep p b).1 ++ decodeLossyFrom (lossyStep p b).2 bs := by
  cases p with
  | none =>
    rw [decodeLossyFrom, lossyStep]
    cases firstOctet b.toNat <;> rfl
  | some p =>
    rw [decodeLossyFrom, lossyStep]
    by_cases hRange : p.low ≤ b.toNat ∧ b.toNat ≤ p.high
    · rw [if_pos hRange, if_pos hRange]
      cases p.next b.toNat <;> rfl
    · rw [if_neg hRange, if_neg hRange]
      cases firstOctet b.toNat <;> rfl

/-- An open sequence is worth a replacement character. -/
def debt (p : Option Partial) : Nat := if p.isSome then 3 else 0

theorem octetCount_cons (c : Char) (cs : List Char) :
    octetCount (c :: cs) = c.utf8Size + octetCount cs := rfl

theorem octetCount_append (cs ds : List Char) :
    octetCount (cs ++ ds) = octetCount cs + octetCount ds := by
  simp [octetCount]

theorem octetCount_lossyStep (p : Option Partial) (b : UInt8) :
    octetCount (lossyStep p b).1 + debt (lossyStep p b).2 ≤ 3 + debt p := by
  have hNil : octetCount [] = 0 := rfl
  have hReplace := utf8Size_replacementCharacter
  cases p with
  | none =>
    rw [lossyStep]
    split
    · next c hFirst =>
      have hSize := firstOctet_size hFirst
      simp only [octetCount_cons, hNil, debt, Option.isSome_none, Bool.false_eq_true, if_false]
      omega
    · exact Nat.le_refl 3
  | some p =>
    rw [lossyStep]
    split
    · split
      · next c hNext =>
        have hSize := c.utf8Size_le_four
        simp only [octetCount_cons, hNil, debt, Option.isSome_none, Option.isSome_some,
          Bool.false_eq_true, if_false, if_true]
        omega
      · exact Nat.le_add_left 3 3
    · split
      · next c hFirst =>
        have hSize := firstOctet_size hFirst
        simp only [octetCount_cons, hNil, debt, Option.isSome_none, Option.isSome_some,
          Bool.false_eq_true, if_false, if_true]
        omega
      · simp only [octetCount_cons, hNil, debt, Option.isSome_some, if_true, hReplace]
        omega

/-- A replacement character is the worst an octet can turn into. -/
theorem octetCount_decodeLossyFrom_le (p : Option Partial) (bytes : Bytes) :
    octetCount (decodeLossyFrom p bytes) ≤ 3 * bytes.length + debt p := by
  induction bytes generalizing p with
  | nil =>
    cases p with
    | none => exact Nat.le_refl 0
    | some p =>
      have hReplace := utf8Size_replacementCharacter
      rw [decodeLossyFrom_nil, flush, octetCount_cons, hReplace]
      exact Nat.le_refl 3
  | cons b bs ih =>
    have hStep := octetCount_lossyStep p b
    have hRest := ih (lossyStep p b).2
    rw [decodeLossyFrom_cons, octetCount_append, List.length_cons]
    omega

theorem utf8_fromUtf8Lossy_length_le (bytes : Bytes) :
    (utf8 (fromUtf8Lossy bytes)).length ≤ 3 * bytes.length := by
  rw [utf8_length_eq, fromUtf8Lossy, String.toList_ofList]
  exact octetCount_decodeLossyFrom_le none bytes

/-- An open sequence owes a character above ASCII. -/
def Partial.Wide (p : Partial) : Prop :=
  0x80 ≤ p.low ∧ if p.owed ≤ 1 then 2 ≤ p.bits else 2 ≤ p.bits * 64 + (p.low - 0x80)

theorem firstOctet_wide {b : Nat} {q : Partial} (h : firstOctet b = .inr q) : q.Wide := by
  unfold firstOctet at h
  split_ifs at h
  all_goals
    first
    | exact (Sum.inl_ne_inr h).elim
    | rw [← Sum.inr.inj h]
      simp [Partial.Wide]
      try omega

theorem Partial.Wide.next {p q : Partial} (h : p.Wide) {b : Nat} (hLow : p.low ≤ b)
    (hNext : p.next b = .inr q) : q.Wide := by
  obtain ⟨hAscii, hBits⟩ := h
  unfold Partial.next at hNext
  split_ifs at hNext with hOwed
  rw [← Sum.inr.inj hNext]
  rw [if_neg hOwed] at hBits
  simp only [Partial.Wide]
  refine ⟨Nat.le_refl _, ?_⟩
  split <;> omega

/-- A character outside ASCII; the null character stands for a code that is none. -/
def NotAscii (c : Char) : Prop := 0x80 ≤ c.toNat ∨ c.toNat = 0

theorem notAscii_ofNat {n : Nat} (h : 0x80 ≤ n) : NotAscii (Char.ofNat n) := by
  by_cases hValid : n.isValidChar
  · have hChar : Char.ofNat n = Char.ofNatAux n hValid := dif_pos hValid
    rw [hChar]
    exact .inl h
  · have hChar : Char.ofNat n = '\x00' := dif_neg hValid
    rw [hChar]
    exact .inr rfl

theorem notAscii_replacementCharacter : NotAscii replacementCharacter := notAscii_ofNat (by decide)

theorem Partial.Wide.notAscii {p : Partial} (h : p.Wide) {b : Nat} {c : Char}
    (hNext : p.next b = .inl c) : NotAscii c := by
  obtain ⟨hAscii, hBits⟩ := h
  unfold Partial.next at hNext
  split_ifs at hNext with hOwed
  rw [if_pos hOwed] at hBits
  rw [← Sum.inl.inj hNext]
  apply notAscii_ofNat
  omega

theorem firstOctet_notAscii {b : Nat} (hHigh : 0x80 ≤ b) {c : Char} (h : firstOctet b = .inl c) :
    NotAscii c := by
  unfold firstOctet at h
  split_ifs at h with hAscii
  · omega
  · rw [← Sum.inl.inj h]
    exact notAscii_replacementCharacter

theorem lossyStep_ascii {p : Option Partial} (hWide : ∀ q ∈ p, q.Wide) {b : UInt8}
    (h : b.toNat < 0x80) : lossyStep p b = (flush p ++ [Char.ofNat b.toNat], none) := by
  have hFirst : firstOctet b.toNat = .inl (Char.ofNat b.toNat) := if_pos h
  cases p with
  | none => simp only [lossyStep, hFirst, flush, List.nil_append]
  | some q =>
    have hBroken : ¬(q.low ≤ b.toNat ∧ b.toNat ≤ q.high) := by
      have hLow := (hWide q rfl).1
      omega
    simp only [lossyStep, hBroken, if_false, hFirst, flush, List.singleton_append]

theorem lossyStep_of_high {p : Option Partial} (hWide : ∀ q ∈ p, q.Wide) {b : UInt8}
    (h : 0x80 ≤ b.toNat) :
    (∀ c ∈ (lossyStep p b).1, NotAscii c) ∧ ∀ q ∈ (lossyStep p b).2, q.Wide := by
  have hReplace := notAscii_replacementCharacter
  cases p with
  | none =>
    rw [lossyStep]
    split
    · next c hFirst => simpa using firstOctet_notAscii h hFirst
    · next q hFirst => simpa using firstOctet_wide hFirst
  | some p =>
    have hp := hWide p rfl
    rw [lossyStep]
    split
    · next hRange =>
      split
      · next c hNext => simpa using hp.notAscii hNext
      · next q hNext => simpa using hp.next hRange.1 hNext
    · split
      · next c hFirst => simpa using ⟨hReplace, firstOctet_notAscii h hFirst⟩
      · next q hFirst => simpa using ⟨hReplace, firstOctet_wide hFirst⟩

/-- Decoding may be cut at an ASCII octet: no sequence reaches over it. -/
theorem decodeLossyFrom_append_ascii {p : Option Partial} (hWide : ∀ q ∈ p, q.Wide)
    (bytes : Bytes) {b : UInt8} (hAscii : b.toNat < 0x80) (rest : Bytes) :
    decodeLossyFrom p (bytes ++ b :: rest) =
      decodeLossyFrom p bytes ++ Char.ofNat b.toNat :: decodeLossyFrom none rest := by
  induction bytes generalizing p with
  | nil =>
    rw [List.nil_append, decodeLossyFrom_cons, lossyStep_ascii hWide hAscii, decodeLossyFrom_nil,
      List.append_assoc]
    rfl
  | cons c cs ih =>
    have hStep : ∀ q ∈ (lossyStep p c).2, q.Wide := by
      rcases Nat.lt_or_ge c.toNat 0x80 with hLow | hHigh
      · rw [lossyStep_ascii hWide hLow]
        simp
      · exact (lossyStep_of_high hWide hHigh).2
    rw [List.cons_append, decodeLossyFrom_cons, decodeLossyFrom_cons, ih hStep, List.append_assoc]

end AiGateway.Text
