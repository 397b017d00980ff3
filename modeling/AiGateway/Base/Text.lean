import Mathlib.Data.List.Basic
import Mathlib.Data.UInt

/-!
# Byte strings and text

Byte strings are lists of octets.  The functions are the parts of a string
library that byte-oriented code relies on: lossy UTF-8 decoding, Unicode
trimming, ASCII case folding and prefix tests.
-/

namespace AiGateway.Text

set_option autoImplicit false

abbrev Bytes := List UInt8

/-- The UTF-8 octets of a text. -/
def utf8 (s : String) : Bytes := s.toUTF8.data.toList

def lf : UInt8 := 0x0A
def cr : UInt8 := 0x0D
def space : UInt8 := 0x20
def colon : UInt8 := 0x3A

def replacementCharacter : Char := Char.ofNat 0xFFFD

/-- An unfinished UTF-8 sequence: the bits read so far, the continuation octets
still owed, and the range the next octet must lie in. -/
structure Partial where
  bits : Nat
  owed : Nat
  low : Nat
  high : Nat

/-- The first octet of a sequence: a character at once, or an unfinished
sequence, or an octet that starts nothing. -/
def firstOctet (b : Nat) : Char ⊕ Partial :=
  if b < 0x80 then .inl (Char.ofNat b)
  else if 0xC2 ≤ b ∧ b ≤ 0xDF then .inr ⟨b - 0xC0, 1, 0x80, 0xBF⟩
  else if b = 0xE0 then .inr ⟨0, 2, 0xA0, 0xBF⟩
  else if b = 0xED then .inr ⟨0xD, 2, 0x80, 0x9F⟩
  else if 0xE1 ≤ b ∧ b ≤ 0xEF then .inr ⟨b - 0xE0, 2, 0x80, 0xBF⟩
  else if b = 0xF0 then .inr ⟨0, 3, 0x90, 0xBF⟩
  else if 0xF1 ≤ b ∧ b ≤ 0xF3 then .inr ⟨b - 0xF0, 3, 0x80, 0xBF⟩
  else if b = 0xF4 then .inr ⟨4, 3, 0x80, 0x8F⟩
  else .inl replacementCharacter

def Partial.next (p : Partial) (b : Nat) : Char ⊕ Partial :=
  if p.owed ≤ 1 then .inl (Char.ofNat (p.bits * 64 + (b - 0x80)))
  else .inr ⟨p.bits * 64 + (b - 0x80), p.owed - 1, 0x80, 0xBF⟩

/-- Lossy decoding: every maximal ill-formed subpart becomes one replacement
character, and the octet that broke a sequence is read again as a first octet. -/
def decodeLossyFrom : Option Partial → Bytes → List Char
  | none, [] => []
  | some _, [] => [replacementCharacter]
  | none, b :: bs =>
    match firstOctet b.toNat with
    | .inl c => c :: decodeLossyFrom none bs
    | .inr p => decodeLossyFrom (some p) bs
  | some p, b :: bs =>
    if p.low ≤ b.toNat ∧ b.toNat ≤ p.high then
      match p.next b.toNat with
      | .inl c => c :: decodeLossyFrom none bs
      | .inr q => decodeLossyFrom (some q) bs
    else
      match firstOctet b.toNat with
      | .inl c => replacementCharacter :: c :: decodeLossyFrom none bs
      | .inr q => replacementCharacter :: decodeLossyFrom (some q) bs

def fromUtf8Lossy (bytes : Bytes) : String := String.ofList (decodeLossyFrom none bytes)

/-- The Unicode property `White_Space`. -/
def isWhitespace (c : Char) : Bool :=
  let n := c.toNat
  (0x9 ≤ n && n ≤ 0xD) || n == 0x20 || n == 0x85 || n == 0xA0 || n == 0x1680 ||
    (0x2000 ≤ n && n ≤ 0x200A) || n == 0x2028 || n == 0x2029 || n == 0x202F || n == 0x205F ||
    n == 0x3000

def isAsciiWhitespace (b : UInt8) : Bool :=
  b == 0x09 || b == 0x0A || b == 0x0C || b == 0x0D || b == 0x20

def trimStartChars (cs : List Char) : List Char := cs.dropWhile isWhitespace

def trimChars (cs : List Char) : List Char :=
  (trimStartChars (trimStartChars cs).reverse).reverse

def trimStart (s : String) : String := String.ofList (trimStartChars s.toList)

def trim (s : String) : String := String.ofList (trimChars s.toList)

def toAsciiLowercase (s : String) : String := String.ofList (s.toList.map Char.toLower)

def startsWith (s p : String) : Bool := p.toList.isPrefixOf s.toList

def stripPrefix (s p : String) : Option String :=
  if startsWith s p then some (String.ofList (s.toList.drop p.toList.length)) else none

/-- Pieces of a byte string, each ending with the separator except perhaps the
last; no piece is empty. -/
def splitInclusive (sep : UInt8) : Bytes → List Bytes
  | [] => []
  | b :: bs =>
    if b = sep then [b] :: splitInclusive sep bs
    else
      match splitInclusive sep bs with
      | [] => [[b]]
      | piece :: rest => (b :: piece) :: rest

/-- Lines of a text without their ends (`\n` or `\r\n`); a trailing line end
opens no further line. -/
def linesFrom : List Char → List Char → List (List Char)
  | [], [] => []
  | acc, [] => [acc.reverse]
  | acc, c :: cs =>
    if c = '\n' then
      (match acc with
        | '\r' :: rest => rest.reverse
        | _ => acc.reverse) :: linesFrom [] cs
    else linesFrom (c :: acc) cs

def lines (s : String) : List String := (linesFrom [] s.toList).map String.ofList

theorem utf8_append (s t : String) : utf8 (s ++ t) = utf8 s ++ utf8 t := by
  simp [utf8]

theorem utf8_eq_flatMap (s : String) : utf8 s = s.toList.flatMap String.utf8EncodeChar := by
  conv_lhs => rw [← String.ofList_toList (s := s)]
  simp [utf8, String.ofList, List.utf8Encode]

/-- Visible ASCII characters and the space. -/
def PrintableChars (cs : List Char) : Prop := ∀ c ∈ cs, 0x20 ≤ c.toNat ∧ c.toNat < 0x7F

def Printable (s : String) : Prop := PrintableChars s.toList

instance (cs : List Char) : Decidable (PrintableChars cs) :=
  List.decidableBAll _ cs

instance (s : String) : Decidable (Printable s) := inferInstanceAs (Decidable (PrintableChars _))

theorem Printable.append {s t : String} (hs : Printable s) (ht : Printable t) :
    Printable (s ++ t) := by
  intro c hc
  rw [String.toList_append, List.mem_append] at hc
  exact hc.elim (hs c) (ht c)

theorem utf8EncodeChar_of_lt {c : Char} (h : c.toNat < 0x7F) :
    String.utf8EncodeChar c = [UInt8.ofNat c.toNat] := by
  have hAscii : c.val.toNat ≤ 0x7F := Nat.le_of_lt h
  exact if_pos hAscii

theorem utf8_of_printable {s : String} (h : Printable s) :
    utf8 s = s.toList.map fun c => UInt8.ofNat c.toNat := by
  rw [utf8_eq_flatMap]
  unfold Printable at h
  generalize s.toList = cs at h ⊢
  induction cs with
  | nil => rfl
  | cons c cs ih =>
    rw [List.flatMap_cons, utf8EncodeChar_of_lt (h c List.mem_cons_self).2,
      ih fun d hd => h d (List.mem_cons_of_mem c hd)]
    rfl

theorem utf8_length {s : String} (h : Printable s) : (utf8 s).length = s.length := by
  rw [utf8_of_printable h, List.length_map, String.length_toList]

theorem octet_toNat {c : Char} (h : c.toNat < 0x7F) : (UInt8.ofNat c.toNat).toNat = c.toNat := by
  rw [UInt8.toNat_ofNat']
  omega

theorem utf8_ne_lineEnd {s : String} (h : Printable s) : ∀ b ∈ utf8 s, b ≠ lf ∧ b ≠ cr := by
  rw [utf8_of_printable h]
  intro b hb
  obtain ⟨c, hc, rfl⟩ := List.mem_map.mp hb
  obtain ⟨hLow, hHigh⟩ := h c hc
  have hOctet := octet_toNat hHigh
  constructor
  · intro hEq
    rw [hEq, lf] at hOctet
    have hLf : (0x0A : UInt8).toNat = 10 := rfl
    omega
  · intro hEq
    rw [hEq, cr] at hOctet
    have hCr : (0x0D : UInt8).toNat = 13 := rfl
    omega

theorem decodeLossy_append {cs : List Char} (h : PrintableChars cs) (rest : Bytes) :
    decodeLossyFrom none ((cs.map fun c => UInt8.ofNat c.toNat) ++ rest) =
      cs ++ decodeLossyFrom none rest := by
  induction cs with
  | nil => rfl
  | cons c cs ih =>
    have hHigh := (h c List.mem_cons_self).2
    have hFirst : firstOctet (UInt8.ofNat c.toNat).toNat = .inl c := by
      rw [octet_toNat hHigh, firstOctet, if_pos (by omega), Char.ofNat_toNat]
    rw [List.map_cons, List.cons_append, decodeLossyFrom, hFirst]
    simp only [ih fun d hd => h d (List.mem_cons_of_mem c hd), List.cons_append]

theorem fromUtf8Lossy_append {s : String} (h : Printable s) (rest : Bytes) :
    fromUtf8Lossy (utf8 s ++ rest) = s ++ fromUtf8Lossy rest := by
  rw [utf8_of_printable h, fromUtf8Lossy, decodeLossy_append h, String.ofList_append,
    String.ofList_toList]
  rfl

theorem fromUtf8Lossy_utf8 {s : String} (h : Printable s) : fromUtf8Lossy (utf8 s) = s := by
  have hNil := fromUtf8Lossy_append h []
  rw [List.append_nil] at hNil
  rw [hNil]
  exact String.append_empty

/-- A text whose first and last characters are visible is not trimmed. -/
theorem trimChars_of_ends {cs : List Char} {first last : Char} (hFirst : cs.head? = some first)
    (hLast : cs.getLast? = some last) (hVisible : isWhitespace first = false)
    (hVisible' : isWhitespace last = false) : trimChars cs = cs := by
  have hStart : trimStartChars cs = cs := by
    obtain ⟨rest, rfl⟩ := List.head?_eq_some_iff.mp hFirst
    simp [trimStartChars, hVisible]
  obtain ⟨rest, rfl⟩ := List.getLast?_eq_some_iff.mp hLast
  rw [trimChars, hStart]
  simp [trimStartChars, hVisible']

/-! ## Strict decoding -/

def fromUtf8 (bytes : Bytes) : Option String := String.fromUTF8? ⟨bytes.toArray⟩

theorem fromUtf8_utf8 (s : String) : fromUtf8 (utf8 s) = some s := by
  have hBytes : (⟨(utf8 s).toArray⟩ : ByteArray) = s.toByteArray := rfl
  rw [fromUtf8, hBytes, String.fromUTF8?, dif_pos s.isValidUTF8]
  rfl

theorem utf8_injective : Function.Injective utf8 := by
  intro s t hSame
  have hDecoded := congrArg fromUtf8 hSame
  rw [fromUtf8_utf8, fromUtf8_utf8] at hDecoded
  exact Option.some.inj hDecoded

end AiGateway.Text
