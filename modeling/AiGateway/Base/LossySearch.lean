import AiGateway.Base.Lossy
import AiGateway.Base.Search

/-!
# Searching decoded text

A mark of visible ASCII characters stands in a decoded text where its octets stand
in the bytes, so that blocks may be cut before decoding or after.
-/

namespace AiGateway.Text

set_option autoImplicit false

open AiGateway.Search

def asciiOctets (cs : List Char) : Bytes := cs.map fun c => UInt8.ofNat c.toNat

abbrev decode (bytes : Bytes) : List Char := decodeLossyFrom none bytes

theorem none_wide : ∀ q ∈ (none : Option Partial), q.Wide := fun _ hq => nomatch hq

theorem decode_append_octet {c : Char} (hc : c.toNat < 0x7F) (bytes rest : Bytes) :
    decode (bytes ++ UInt8.ofNat c.toNat :: rest) = decode bytes ++ c :: decode rest := by
  have hOctet := octet_toNat hc
  rw [decode, decodeLossyFrom_append_ascii none_wide bytes (by omega), hOctet, Char.ofNat_toNat]

theorem decode_append_mark {mark : List Char} (hMark : PrintableChars mark) (hNonempty : mark ≠ [])
    (bytes rest : Bytes) :
    decode (bytes ++ asciiOctets mark ++ rest) = decode bytes ++ mark ++ decode rest := by
  cases mark with
  | nil => exact absurd rfl hNonempty
  | cons c cs =>
    have hTail : decode (asciiOctets cs ++ rest) = cs ++ decode rest :=
      decodeLossy_append (fun d hd => hMark d (List.mem_cons_of_mem c hd)) rest
    rw [List.append_assoc, asciiOctets, List.map_cons, List.cons_append,
      decode_append_octet (hMark c List.mem_cons_self).2, ← asciiOctets, hTail, List.append_assoc,
      List.cons_append]

theorem notAscii_ne {c d : Char} (hc : 0x20 ≤ c.toNat ∧ c.toNat < 0x7F) (hd : NotAscii d) :
    d ≠ c := by
  rintro rfl
  unfold NotAscii at hd
  omega

theorem append_eq_of_notMem {α : Type} {out rest before after : List α} {x : α} (hOut : x ∉ out)
    (h : out ++ rest = before ++ x :: after) :
    ∃ middle, before = out ++ middle ∧ rest = middle ++ x :: after := by
  rcases List.append_eq_append_iff.mp h with ⟨middle, hBefore, hRest⟩ | ⟨middle, hBefore, hRest⟩
  · exact ⟨middle, hBefore, hRest⟩
  · cases middle with
    | nil =>
      rw [List.append_nil] at hBefore
      exact ⟨[], by rw [hBefore, List.append_nil], hRest.symm⟩
    | cons y middle =>
      injection hRest with hHead _
      refine absurd ?_ hOut
      rw [hBefore, hHead]
      exact List.mem_append_right _ List.mem_cons_self

theorem notMem_flush {c : Char} (hc : 0x20 ≤ c.toNat ∧ c.toNat < 0x7F) (p : Option Partial) :
    c ∉ flush p := by
  cases p with
  | none => exact List.not_mem_nil
  | some p =>
    rw [flush, List.mem_singleton]
    exact (notAscii_ne hc notAscii_replacementCharacter).symm

theorem ascii_toNat : ∀ b < 0x80, (Char.ofNat b).toNat = b := by decide

/-- A visible ASCII character of a decoded text is an octet of the bytes. -/
theorem ascii_reflected {p : Option Partial} (hWide : ∀ q ∈ p, q.Wide) {bytes : Bytes}
    {before after : List Char} {c : Char} (hc : 0x20 ≤ c.toNat ∧ c.toNat < 0x7F)
    (h : decodeLossyFrom p bytes = before ++ c :: after) :
    ∃ first rest, bytes = first ++ UInt8.ofNat c.toNat :: rest ∧
      decodeLossyFrom p first = before ∧ decode rest = after := by
  induction bytes generalizing p before with
  | nil =>
    rw [decodeLossyFrom_nil] at h
    refine absurd ?_ (notMem_flush hc p)
    rw [h]
    exact List.mem_append_right before List.mem_cons_self
  | cons b bs ih =>
    rw [decodeLossyFrom_cons] at h
    rcases Nat.lt_or_ge b.toNat 0x80 with hLow | hHigh
    · rw [lossyStep_ascii hWide hLow, List.append_assoc] at h
      obtain ⟨middle, hBefore, hRest⟩ := append_eq_of_notMem (notMem_flush hc p) h
      cases middle with
      | nil =>
        injection hRest with hHead hTail
        refine ⟨[], bs, ?_, ?_, hTail⟩
        · rw [← hHead, ascii_toNat b.toNat hLow, UInt8.ofNat_toNat, List.nil_append]
        · rw [decodeLossyFrom_nil, hBefore, List.append_nil]
      | cons d middle =>
        injection hRest with hHead hTail
        obtain ⟨first, rest, hBytes, hFirst, hAfter⟩ := ih none_wide hTail
        refine ⟨b :: first, rest, by rw [hBytes, List.cons_append], ?_, hAfter⟩
        rw [decodeLossyFrom_cons, lossyStep_ascii hWide hLow, hFirst, hBefore, ← hHead,
          List.append_assoc]
        rfl
    · obtain ⟨hOut, hNext⟩ := lossyStep_of_high hWide hHigh
      have hAbsent : c ∉ (lossyStep p b).1 := fun hMem => notAscii_ne hc (hOut c hMem) rfl
      obtain ⟨middle, hBefore, hRest⟩ := append_eq_of_notMem hAbsent h
      obtain ⟨first, rest, hBytes, hFirst, hAfter⟩ := ih hNext hRest
      refine ⟨b :: first, rest, by rw [hBytes, List.cons_append], ?_, hAfter⟩
      rw [decodeLossyFrom_cons, hFirst, hBefore]

theorem lossyStep_progress {p : Option Partial} {b : UInt8} (h : (lossyStep p b).1 = []) :
    ∃ q, (lossyStep p b).2 = some q := by
  cases p with
  | none =>
    rw [lossyStep] at h ⊢
    split at h
    · cases h
    · next q _ => exact ⟨q, rfl⟩
  | some p =>
    rw [lossyStep] at h ⊢
    split_ifs at h ⊢
    · split at h
      · cases h
      · next q _ => exact ⟨q, rfl⟩
    · split at h
      · cases h
      · cases h

theorem decodeLossyFrom_eq_nil {p : Option Partial} {bytes : Bytes}
    (h : decodeLossyFrom p bytes = []) : bytes = [] := by
  induction bytes generalizing p with
  | nil => rfl
  | cons b bs ih =>
    rw [decodeLossyFrom_cons, List.append_eq_nil_iff] at h
    obtain ⟨hStep, hRest⟩ := h
    obtain ⟨q, hOpen⟩ := lossyStep_progress hStep
    rw [hOpen, ih hRest, decodeLossyFrom_nil] at hRest
    cases hRest

theorem prefix_reflected {mark : List Char} (hMark : PrintableChars mark) {bytes : Bytes}
    {after : List Char} (h : decode bytes = mark ++ after) :
    ∃ rest, bytes = asciiOctets mark ++ rest ∧ decode rest = after := by
  induction mark generalizing bytes with
  | nil => exact ⟨bytes, rfl, h⟩
  | cons c cs ih =>
    have hHead := hMark c List.mem_cons_self
    have hTail : PrintableChars cs := fun d hd => hMark d (List.mem_cons_of_mem c hd)
    have hText : decode bytes = [] ++ c :: (cs ++ after) := h
    obtain ⟨first, rest, hBytes, hFirst, hRest⟩ := ascii_reflected none_wide hHead hText
    obtain ⟨later, hLater, hAfter⟩ := ih hTail hRest
    refine ⟨later, ?_, hAfter⟩
    rw [hBytes, decodeLossyFrom_eq_nil hFirst, hLater]
    rfl

/-- A mark in a decoded text stands in the bytes too. -/
theorem mark_reflected {mark : List Char} (hMark : PrintableChars mark) (hNonempty : mark ≠ [])
    {bytes : Bytes} {before after : List Char} (h : decode bytes = before ++ mark ++ after) :
    ∃ first rest, bytes = first ++ asciiOctets mark ++ rest ∧
      decode first = before ∧ decode rest = after := by
  cases mark with
  | nil => exact absurd rfl hNonempty
  | cons c cs =>
    rw [List.append_assoc] at h
    have hTail : PrintableChars cs := fun d hd => hMark d (List.mem_cons_of_mem c hd)
    obtain ⟨first, rest, hBytes, hFirst, hRest⟩ :=
      ascii_reflected none_wide (hMark c List.mem_cons_self) h
    obtain ⟨later, hLater, hAfter⟩ := prefix_reflected hTail hRest
    refine ⟨first, later, ?_, hFirst, hAfter⟩
    rw [hBytes, hLater, List.append_assoc]
    rfl

theorem decode_length_le {mark : List Char} (hMark : PrintableChars mark) (hNonempty : mark ≠ [])
    {first rest other later : Bytes}
    (h : first ++ asciiOctets mark ++ rest = other ++ asciiOctets mark ++ later)
    (hLength : first.length ≤ other.length) : (decode first).length ≤ (decode other).length := by
  cases mark with
  | nil => exact absurd rfl hNonempty
  | cons c cs =>
    rw [List.append_assoc, List.append_assoc] at h
    have hPrefix : first <+: other := by
      have hFirst := List.prefix_append first (asciiOctets (c :: cs) ++ rest)
      rw [h] at hFirst
      exact List.prefix_of_prefix_length_le hFirst (List.prefix_append other _) hLength
    obtain ⟨between, hBetween⟩ := hPrefix
    cases between with
    | nil =>
      rw [List.append_nil] at hBetween
      rw [hBetween]
    | cons b between =>
      rw [← hBetween, List.append_assoc] at h
      injection List.append_cancel_left h with hHead _
      rw [← hBetween, ← hHead, decode_append_octet (hMark c List.mem_cons_self).2,
        List.length_append]
      exact Nat.le_add_right _ _

/-- Cutting at a mark before decoding or after. -/
theorem cutAt_decode {mark : List Char} (hMark : PrintableChars mark) (hNonempty : mark ≠ [])
    (bytes : Bytes) :
    cutAt mark (decode bytes) =
      (cutAt (asciiOctets mark) bytes).map fun cut => (decode cut.1, decode cut.2) := by
  cases hCut : cutAt (asciiOctets mark) bytes with
  | none =>
    rw [Option.map_none, cutAt_eq_none_iff]
    rintro ⟨before, after, hInfix⟩
    obtain ⟨first, rest, hBytes, -, -⟩ := mark_reflected hMark hNonempty hInfix.symm
    refine cutAt_eq_none_iff.mp hCut ⟨first, rest, hBytes.symm⟩
  | some cut =>
    obtain ⟨before, after⟩ := cut
    have hBytes := cutAt_eq_append hCut
    have hDecoded := decode_append_mark hMark hNonempty before after
    rw [Option.map_some, hBytes, hDecoded]
    apply cutAt_of_first
    intro other rest hOther
    rw [← hDecoded] at hOther
    obtain ⟨first, later, hFound, hFirst, -⟩ := mark_reflected hMark hNonempty hOther
    rw [← hFirst]
    exact decode_length_le hMark hNonempty hFound (cutAt_first hCut (hBytes.trans hFound))

theorem asciiOctets_ne_nil {mark : List Char} (h : mark ≠ []) : asciiOctets mark ≠ [] :=
  fun hNil => h (List.map_eq_nil_iff.mp hNil)

/-- The blocks of a decoded text are the decoded blocks of the bytes. -/
theorem scan_decode {opening closing : List Char} (hOpening : PrintableChars opening)
    (hClosing : PrintableChars closing) (hOpens : opening ≠ []) (hCloses : closing ≠ [])
    (bytes : Bytes) :
    scan opening closing (decode bytes) =
      ((scan (asciiOctets opening) (asciiOctets closing) bytes).1.map decode,
        (scan (asciiOctets opening) (asciiOctets closing) bytes).2.map decode) := by
  induction hSize : bytes.length using Nat.strong_induction_on generalizing bytes with
  | _ size ih =>
    rw [scan_eq hOpens, scan_eq (asciiOctets_ne_nil hOpens) bytes, cutAt_decode hOpening hOpens]
    cases hOpen : cutAt (asciiOctets opening) bytes with
    | none => rfl
    | some cut =>
      obtain ⟨before, rest⟩ := cut
      simp only [Option.map_some]
      rw [cutAt_decode hClosing hCloses]
      cases hClose : cutAt (asciiOctets closing) rest with
      | none => rfl
      | some cut =>
        obtain ⟨block, later⟩ := cut
        have hBytes := congrArg List.length (cutAt_eq_append hOpen)
        have hRest := congrArg List.length (cutAt_eq_append hClose)
        have hPositive := List.length_pos_iff.mpr (asciiOctets_ne_nil hOpens)
        simp only [List.length_append] at hBytes hRest
        simp only [Option.map_some]
        rw [ih later.length (by omega) later rfl]
        rfl

end AiGateway.Text
