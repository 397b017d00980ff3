import AiGateway.Base.Octets
import AiGateway.Infra.Secrets

/-!
# Master keys

A master key is given in base64 or in hex under a prefix, or as any octets at all.  The
hex reader takes the text two octets at a time, and its steps need not be where the
characters are.
-/

namespace AiGateway.Secrets

set_option autoImplicit false

open AiGateway.Text

/-! ## Hex spellings -/

/-- A hex digit in either case. -/
def IsDigit (c : Char) (n : Nat) : Prop :=
  "0123456789abcdef".toList[n]? = some c ∨ "0123456789ABCDEF".toList[n]? = some c

/-- Two digits spell an octet. -/
inductive Spells : List Char → Bytes → Prop
  | nil : Spells [] []
  | cons {high low : Char} {h l : Nat} {digits : List Char} {bytes : Bytes} :
      IsDigit high h → IsDigit low l → Spells digits bytes →
      Spells (high :: low :: digits) (UInt8.ofNat (h * 16 + l) :: bytes)

/-- Two characters that the reader takes for a number of base 16. -/
def IsHexPair (a b : Char) : Prop := (a = '+' ∨ ∃ n, IsDigit a n) ∧ ∃ n, IsDigit b n

/-- A pair of octets that is reached begins or ends inside a character. -/
inductive CutsCharacter : List Char → Prop
  | long {c : Char} {rest : List Char} : 2 < c.utf8Size → CutsCharacter (c :: rest)
  | straddles {a c : Char} {rest : List Char} : a.utf8Size = 1 → 1 < c.utf8Size →
      CutsCharacter (a :: c :: rest)
  | later {a b : Char} {rest : List Char} : IsHexPair a b → CutsCharacter rest →
      CutsCharacter (a :: b :: rest)

/-- The text after the prefix has an even number of octets, and is cut inside a character. -/
def SplitsCharacter (value : Bytes) : Prop :=
  ∃ encoded : String, value = utf8 ("hex:" ++ encoded) ∧ octetCount encoded.toList % 2 = 0 ∧
    CutsCharacter encoded.toList

theorem hexValue_of_isDigit {c : Char} {n : Nat} (h : IsDigit c n) :
    hexValue (UInt8.ofNat c.toNat) = some n ∧ c.toNat < 0x80 := by
  have hLower : ∀ n < 16, ("0123456789abcdef".toList[n]?).all fun c =>
      hexValue (UInt8.ofNat c.toNat) = some n ∧ c.toNat < 0x80 := by decide
  have hUpper : ∀ n < 16, ("0123456789ABCDEF".toList[n]?).all fun c =>
      hexValue (UInt8.ofNat c.toNat) = some n ∧ c.toNat < 0x80 := by decide
  rcases h with hDigit | hDigit
  · have hValue := hLower n (List.getElem?_eq_some_iff.mp hDigit).1
    rw [hDigit] at hValue
    exact of_decide_eq_true hValue
  · have hValue := hUpper n (List.getElem?_eq_some_iff.mp hDigit).1
    rw [hDigit] at hValue
    exact of_decide_eq_true hValue

theorem isDigit_of_hexValue {c : Char} {n : Nat} (hAscii : c.toNat < 0x80)
    (h : hexValue (UInt8.ofNat c.toNat) = some n) : IsDigit c n := by
  have hAll : ∀ m < 0x80, ∀ n ∈ hexValue (UInt8.ofNat m),
      "0123456789abcdef".toList[n]? = some (Char.ofNat m) ∨
        "0123456789ABCDEF".toList[n]? = some (Char.ofNat m) := by decide
  have hDigit := hAll c.toNat hAscii n h
  rw [Char.ofNat_toNat] at hDigit
  exact hDigit

theorem hexValue_of_high {b : UInt8} (h : 0x80 ≤ b.toNat) : hexValue b = none := by
  have hAll : ∀ n < 0x80, hexValue (UInt8.ofNat (n + 0x80)) = none := by decide
  have hByte := b.toNat_lt
  have hNone := hAll (b.toNat - 0x80) (by omega)
  rwa [Nat.sub_add_cancel h, UInt8.ofNat_toNat] at hNone

/-! ## One step of the reader -/

theorem isContinuation_iff (b : UInt8) : hexPairs.isContinuation b = true ↔ Continues b := by
  rw [hexPairs.isContinuation, Bool.and_eq_true, decide_eq_true_iff, decide_eq_true_iff,
    UInt8.le_iff_toNat_le, UInt8.lt_iff_toNat_lt]
  exact Iff.rfl

theorem hexPairs_inside {a b : UInt8} {rest : Bytes} (h : ∃ c ∈ rest.head?, Continues c) :
    hexPairs (a :: b :: rest) = none := by
  obtain ⟨c, hHead, hContinues⟩ := h
  have hEnd : rest.head?.any hexPairs.isContinuation = true := by
    rw [hHead]
    exact (isContinuation_iff c).mpr hContinues
  rw [hexPairs, hEnd, Bool.or_true, if_pos rfl]

theorem starts_and_ends_whole {a : UInt8} {rest : Bytes} (hStart : ¬Continues a)
    (hEnd : ∀ c ∈ rest.head?, ¬Continues c) :
    (hexPairs.isContinuation a || rest.head?.any hexPairs.isContinuation) = false := by
  have hFirst : hexPairs.isContinuation a = false := by
    rw [← Bool.not_eq_true, isContinuation_iff]
    exact hStart
  rw [hFirst, Bool.false_or]
  cases hHead : rest.head? with
  | none => rfl
  | some c =>
    rw [Option.any_some, ← Bool.not_eq_true, isContinuation_iff]
    exact hEnd c hHead

theorem hexPairs_other {a b : UInt8} {rest : Bytes} (hStart : ¬Continues a)
    (hEnd : ∀ c ∈ rest.head?, ¬Continues c) (hOther : hexByte a b = none) :
    hexPairs (a :: b :: rest) = some none := by
  simp only [hexPairs, starts_and_ends_whole hStart hEnd, hOther, Bool.false_eq_true, if_false]

theorem hexPairs_number {a b byte : UInt8} {rest : Bytes} (hStart : ¬Continues a)
    (hEnd : ∀ c ∈ rest.head?, ¬Continues c) (hNumber : hexByte a b = some byte) :
    hexPairs (a :: b :: rest) = (hexPairs rest).map fun bytes => bytes.map (byte :: ·) := by
  simp only [hexPairs, starts_and_ends_whole hStart hEnd, hNumber, Bool.false_eq_true, if_false]

/-- The pair of two ASCII characters. -/
theorem hexByte_isSome_iff {a b : Char} (ha : a.toNat < 0x80) (hb : b.toNat < 0x80) :
    (hexByte (UInt8.ofNat a.toNat) (UInt8.ofNat b.toNat)).isSome ↔ IsHexPair a b := by
  have hPlus : UInt8.ofNat a.toNat = 0x2B ↔ a = '+' := by
    have hAll : ∀ m < 0x80, UInt8.ofNat m = 0x2B → m = 0x2B := by decide
    constructor
    · intro h
      rw [← Char.ofNat_toNat a, hAll a.toNat ha h]
    · rintro rfl
      rfl
  have hDigit : ∀ {c : Char}, c.toNat < 0x80 →
      ((hexValue (UInt8.ofNat c.toNat)).isSome ↔ ∃ n, IsDigit c n) := by
    intro c hc
    rw [Option.isSome_iff_exists]
    constructor
    · rintro ⟨n, hn⟩
      exact ⟨n, isDigit_of_hexValue hc hn⟩
    · rintro ⟨n, hn⟩
      exact ⟨n, (hexValue_of_isDigit hn).1⟩
  have hNoPlus : ¬∃ n, IsDigit '+' n := by
    rintro ⟨n, hn⟩
    cases (hexValue_of_isDigit hn).1
  rw [hexByte, IsHexPair, ← hDigit ha, ← hDigit hb]
  split
  · next h =>
    simp [hPlus.mp h]
  · next h =>
    have hOther : a ≠ '+' := fun hSame => h (hPlus.mpr hSame)
    cases hexValue (UInt8.ofNat a.toNat) <;> cases hexValue (UInt8.ofNat b.toNat) <;>
      simp [hOther]

/-- A character above ASCII is in no pair. -/
theorem not_isHexPair_of_more {a b : Char} (h : 1 < a.utf8Size ∨ 1 < b.utf8Size) :
    ¬IsHexPair a b := by
  have hDigit : ∀ {c : Char}, (∃ n, IsDigit c n) → c.utf8Size = 1 := by
    rintro c ⟨n, hn⟩
    exact (utf8Size_eq_one_iff c).mpr (hexValue_of_isDigit hn).2
  rintro ⟨hFirst, hSecond⟩
  have hb := hDigit hSecond
  have ha : a.utf8Size = 1 := by
    rcases hFirst with rfl | hFirst
    · rfl
    · exact hDigit hFirst
  omega

/-! ## The walk -/

/-- A character of two octets fills a pair, which is no number. -/
theorem walk_two {c : Char} (hc : c.utf8Size = 2) (cs : List Char) :
    hexPairs (octets (c :: cs)) = some none ∧ ¬CutsCharacter (c :: cs) := by
  obtain ⟨a, b, rest, hOctets, hFirst, -, -⟩ := octets_of_more (c := c) (by omega)
  have hNil : rest = [] := by
    have hLength := String.length_utf8EncodeChar c
    rw [hOctets, hc] at hLength
    exact List.eq_nil_of_length_eq_zero (by simpa using hLength)
  constructor
  · have hNumber : hexByte a b = none := by
      have hPlus : a ≠ 0x2B := by
        rintro rfl
        exact absurd hFirst (by decide)
      rw [hexByte, if_neg hPlus, hexValue_of_high (by omega)]
      rfl
    have hStart : ¬Continues a := fun hContinues => by
      have hHigh := hContinues.2
      omega
    rw [octets_cons, hOctets, hNil]
    simp only [List.cons_append, List.nil_append]
    exact hexPairs_other hStart (octets_head_not_continues cs) hNumber
  · intro hCut
    cases hCut with
    | long hLong => omega
    | straddles hOne _ => omega
    | later hPair _ => exact not_isHexPair_of_more (.inl (by omega)) hPair

theorem walk_long {c : Char} (hc : 2 < c.utf8Size) (cs : List Char) :
    hexPairs (octets (c :: cs)) = none ∧ CutsCharacter (c :: cs) := by
  obtain ⟨a, b, rest, hOctets, -, -, hThird⟩ := octets_of_more (c := c) (by omega)
  refine ⟨?_, .long hc⟩
  cases rest with
  | nil =>
    have hLength := String.length_utf8EncodeChar c
    rw [hOctets] at hLength
    simp only [List.length_cons, List.length_nil] at hLength
    omega
  | cons d rest =>
    rw [octets_cons, hOctets]
    exact hexPairs_inside ⟨d, rfl, hThird d rfl⟩

theorem walk_straddles {a c : Char} (ha : a.utf8Size = 1) (hc : 1 < c.utf8Size)
    (cs : List Char) :
    hexPairs (octets (a :: c :: cs)) = none ∧ CutsCharacter (a :: c :: cs) := by
  obtain ⟨x, hx, -, -⟩ := octets_of_one ha
  obtain ⟨y, z, rest, hOctets, -, hSecond, -⟩ := octets_of_more hc
  refine ⟨?_, .straddles ha hc⟩
  rw [octets_cons, octets_cons, hx, hOctets]
  exact hexPairs_inside ⟨z, rfl, hSecond⟩

/-- Two ASCII characters are a pair, and the walk goes on after a number. -/
theorem walk_ascii {a b : Char} (ha : a.utf8Size = 1) (hb : b.utf8Size = 1) (cs : List Char) :
    (hexPairs (octets (a :: b :: cs)) = none ↔
      IsHexPair a b ∧ hexPairs (octets cs) = none) ∧
    (CutsCharacter (a :: b :: cs) ↔ IsHexPair a b ∧ CutsCharacter cs) := by
  obtain ⟨x, hx, hxSame, hxAscii⟩ := octets_of_one ha
  obtain ⟨y, hy, hySame, hyAscii⟩ := octets_of_one hb
  have hStart : ¬Continues x := fun hContinues => by
    have hLow := hContinues.1
    omega
  have hPair : (hexByte x y).isSome ↔ IsHexPair a b := by
    rw [← hexByte_isSome_iff ((utf8Size_eq_one_iff a).mp ha) ((utf8Size_eq_one_iff b).mp hb),
      ← hxSame, ← hySame, UInt8.ofNat_toNat, UInt8.ofNat_toNat]
  constructor
  · rw [octets_cons, octets_cons, hx, hy]
    simp only [List.cons_append, List.nil_append]
    rw [← hPair]
    cases hNumber : hexByte x y with
    | none =>
      rw [hexPairs_other hStart (octets_head_not_continues cs) hNumber]
      simp
    | some byte =>
      rw [hexPairs_number hStart (octets_head_not_continues cs) hNumber]
      simp
  · constructor
    · intro hCut
      cases hCut with
      | long hLong => omega
      | straddles _ hMore => omega
      | later hNumber hRest => exact ⟨hNumber, hRest⟩
    · rintro ⟨hNumber, hRest⟩
      exact .later hNumber hRest

/-- The reader has no outcome on exactly the texts it cuts inside a character. -/
theorem hexPairs_eq_none_iff (cs : List Char) (hEven : octetCount cs % 2 = 0) :
    hexPairs (octets cs) = none ↔ CutsCharacter cs := by
  match cs with
  | [] =>
    constructor
    · nofun
    · nofun
  | [c] =>
    have hSize : c.utf8Size % 2 = 0 := hEven
    have hPos := c.utf8Size_pos
    rcases Nat.lt_or_ge 2 c.utf8Size with hLong | hTwo
    · obtain ⟨hNone, hCut⟩ := walk_long hLong []
      exact iff_of_true hNone hCut
    · obtain ⟨hSome, hWhole⟩ := walk_two (c := c) (by omega) []
      rw [hSome]
      exact iff_of_false nofun hWhole
  | a :: b :: rest =>
    rw [octetCount_cons, octetCount_cons] at hEven
    have hPos := a.utf8Size_pos
    have hPos' := b.utf8Size_pos
    rcases Nat.lt_trichotomy a.utf8Size 2 with hOne | hTwo | hLong
    · rcases Nat.lt_or_ge 1 b.utf8Size with hMore | hLast
      · obtain ⟨hNone, hCut⟩ := walk_straddles (a := a) (by omega) hMore rest
        exact iff_of_true hNone hCut
      · obtain ⟨hRead, hCut⟩ := walk_ascii (a := a) (b := b) (by omega) (by omega) rest
        rw [hRead, hCut, hexPairs_eq_none_iff rest (by omega)]
    · obtain ⟨hSome, hWhole⟩ := walk_two hTwo (b :: rest)
      rw [hSome]
      exact iff_of_false nofun hWhole
    · obtain ⟨hNone, hCut⟩ := walk_long hLong (b :: rest)
      exact iff_of_true hNone hCut

theorem octetCount_of_spells {digits : List Char} {bytes : Bytes} (h : Spells digits bytes) :
    octetCount digits = 2 * bytes.length := by
  induction h with
  | nil => rfl
  | @cons high low h l digits bytes hHigh hLow _ ih =>
    have hFirst := (utf8Size_eq_one_iff high).mpr (hexValue_of_isDigit hHigh).2
    have hSecond := (utf8Size_eq_one_iff low).mpr (hexValue_of_isDigit hLow).2
    rw [octetCount_cons, octetCount_cons, List.length_cons]
    omega

theorem hexPairs_of_spells {digits : List Char} {bytes : Bytes} (h : Spells digits bytes) :
    hexPairs (octets digits) = some (some bytes) := by
  induction h with
  | nil => rfl
  | @cons high low h l digits bytes hHigh hLow _ ih =>
    obtain ⟨hHighValue, hHighAscii⟩ := hexValue_of_isDigit hHigh
    obtain ⟨hLowValue, hLowAscii⟩ := hexValue_of_isDigit hLow
    obtain ⟨x, hx, hxSame, hxAscii⟩ := octets_of_one ((utf8Size_eq_one_iff high).mpr hHighAscii)
    obtain ⟨y, hy, hySame, hyAscii⟩ := octets_of_one ((utf8Size_eq_one_iff low).mpr hLowAscii)
    rw [← hxSame, UInt8.ofNat_toNat] at hHighValue
    rw [← hySame, UInt8.ofNat_toNat] at hLowValue
    have hStart : ¬Continues x := fun hContinues => by
      have hLowBound := hContinues.1
      omega
    have hPlus : x ≠ 0x2B := by
      rintro rfl
      cases hHighValue
    have hNumber : hexByte x y = some (UInt8.ofNat (h * 16 + l)) := by
      rw [hexByte, if_neg hPlus, hHighValue, hLowValue]
      rfl
    rw [octets_cons, octets_cons, hx, hy]
    simp only [List.cons_append, List.nil_append]
    rw [hexPairs_number hStart (octets_head_not_continues digits) hNumber, ih]
    rfl

/-! ## Keys -/

theorem stripPrefix_base64_hex (encoded : String) :
    stripPrefix ("hex:" ++ encoded) "base64:" = none := by
  cases h : stripPrefix ("hex:" ++ encoded) "base64:" with
  | none => rfl
  | some rest =>
    have hSame := congrArg String.toList (stripPrefix_eq_some_iff.mp h)
    rw [String.toList_append, String.toList_append] at hSame
    exact absurd (List.cons.inj hSame).1 (by decide)

theorem decodeKeyMaterial_hex (encoded : String) :
    decodeKeyMaterial (utf8 ("hex:" ++ encoded)) =
      if octetCount encoded.toList % 2 ≠ 0 then some none
      else hexPairs (octets encoded.toList) := by
  have hHex : stripPrefix ("hex:" ++ encoded) "hex:" = some encoded :=
    stripPrefix_eq_some_iff.mpr rfl
  simp only [decodeKeyMaterial, fromUtf8_utf8, stripPrefix_base64_hex, hHex, utf8_length_eq]
  rw [utf8_eq_octets]

theorem exists_hex_of_decodeKeyMaterial {value : Bytes} (h : decodeKeyMaterial value = none) :
    ∃ encoded : String, value = utf8 ("hex:" ++ encoded) := by
  rw [decodeKeyMaterial] at h
  split at h
  · cases h
  · next text hText =>
    split at h
    · cases h
    · split at h
      · next encoded hHex =>
        refine ⟨encoded, ?_⟩
        rw [fromUtf8_eq_some_iff.mp hText, stripPrefix_eq_some_iff.mp hHex]
      · cases h

theorem decodeKeyMaterial_eq_none_iff (value : Bytes) :
    decodeKeyMaterial value = none ↔ SplitsCharacter value := by
  constructor
  · intro h
    obtain ⟨encoded, rfl⟩ := exists_hex_of_decodeKeyMaterial h
    rw [decodeKeyMaterial_hex] at h
    split at h
    · cases h
    · next hEven =>
      have hEven := not_not.mp hEven
      exact ⟨encoded, rfl, hEven, (hexPairs_eq_none_iff _ hEven).mp h⟩
  · rintro ⟨encoded, rfl, hEven, hCut⟩
    rw [decodeKeyMaterial_hex, if_neg (not_not.mpr hEven)]
    exact (hexPairs_eq_none_iff _ hEven).mpr hCut

theorem deriveKey_eq_none_iff (lib : Library) (value : Bytes) :
    deriveKey lib value = none ↔ SplitsCharacter value := by
  rw [deriveKey, Option.map_eq_none_iff, decodeKeyMaterial_eq_none_iff]

theorem deriveKey_of_spells (lib : Library) {digits : List Char} {key : Key}
    (h : Spells digits key.val) :
    deriveKey lib (utf8 ("hex:" ++ String.ofList digits)) = some key := by
  have hRead := hexPairs_of_spells h
  have hCount := octetCount_of_spells h
  have hEven : octetCount digits % 2 = 0 := by omega
  rw [deriveKey, decodeKeyMaterial_hex, String.toList_ofList, if_neg (not_not.mpr hEven), hRead,
    Option.map_some, Option.getD_some, dif_pos key.property]

/-- A key comes of the octets, and of a spelling of a key that key. -/
structure DecodesTotally (lib : Library) (value : Bytes) : Prop where
  returns : ∃ key, deriveKey lib value = some key
  exact : ∀ (digits : List Char) (key : Key), Spells digits key.val →
    value = utf8 ("hex:" ++ String.ofList digits) → deriveKey lib value = some key

theorem decodes_totally_iff (lib : Library) (value : Bytes) :
    DecodesTotally lib value ↔ ¬SplitsCharacter value := by
  rw [← deriveKey_eq_none_iff lib]
  constructor
  · rintro ⟨⟨key, hKey⟩, -⟩ hNone
    rw [hKey] at hNone
    cases hNone
  · intro hSome
    refine ⟨Option.ne_none_iff_exists'.mp hSome, ?_⟩
    rintro digits key hSpells rfl
    exact deriveKey_of_spells lib hSpells

/-- Four octets, the second pair of which begins inside the accented letter. -/
theorem accented_hex_key_panics : ¬∃ lib : Library, DecodesTotally lib (utf8 "hex:aéb") := by
  rintro ⟨lib, ⟨key, hKey⟩, -⟩
  have hCut : CutsCharacter "aéb".toList := .straddles (by decide) (by decide)
  have hNone : deriveKey lib (utf8 "hex:aéb") = none :=
    (deriveKey_eq_none_iff lib _).mpr ⟨"aéb", rfl, by decide, hCut⟩
  rw [hKey] at hNone
  cases hNone

/-! ## Rings of keys -/

def Derivable (entry : String × Bytes) : Prop :=
  isKeyVersion entry.1 = true ∧ entry.2 ≠ [] ∧ ¬SplitsCharacter entry.2

/-- The entries are read up to the first that is refused. -/
inductive ReachesSplit : List (String × Bytes) → Prop
  | here {entry : String × Bytes} {rest : List (String × Bytes)} :
      isKeyVersion entry.1 = true → SplitsCharacter entry.2 → ReachesSplit (entry :: rest)
  | later {entry : String × Bytes} {rest : List (String × Bytes)} :
      Derivable entry → ReachesSplit rest → ReachesSplit (entry :: rest)

theorem not_splitsCharacter_nil : ¬SplitsCharacter [] := by
  rintro ⟨encoded, hValue, -⟩
  have hLength := congrArg List.length hValue
  rw [utf8_append, List.length_append] at hLength
  have hPrefix : (utf8 "hex:").length = 4 := by decide
  rw [hPrefix, List.length_nil] at hLength
  omega

theorem normalizeKeys_eq_none_iff (lib : Library) (values : List (String × Bytes))
    (keys : Table String Key) : normalizeKeys lib values keys = none ↔ ReachesSplit values := by
  induction values generalizing keys with
  | nil =>
    constructor
    · nofun
    · nofun
  | cons entry rest ih =>
    obtain ⟨version, value⟩ := entry
    rw [normalizeKeys]
    constructor
    · intro hNone
      split at hNone
      · cases hNone
      · next version' hVersion =>
        obtain ⟨-, hValid⟩ := isKeyVersion_of_validate hVersion
        split at hNone
        · cases hNone
        · next hFilled =>
          by_cases hSplit : SplitsCharacter value
          · exact .here hValid hSplit
          · obtain ⟨key, hKey⟩ := Option.ne_none_iff_exists'.mp
              (mt (deriveKey_eq_none_iff lib value).mp hSplit)
            rw [hKey, Option.bind_some] at hNone
            have hSome : value ≠ [] := fun hNil => hFilled (by rw [hNil]; rfl)
            exact .later ⟨hValid, hSome, hSplit⟩ ((ih _).mp hNone)
    · intro hReach
      cases hReach with
      | here hValid hSplit =>
        have hSome : value.isEmpty = false := by
          cases value with
          | nil => exact absurd hSplit not_splitsCharacter_nil
          | cons b bs => rfl
        rw [validateKeyVersion, if_pos hValid, (deriveKey_eq_none_iff lib value).mpr hSplit]
        simp [hSome]
      | later hDerivable hRest =>
        obtain ⟨hValid, hFilled, hWhole⟩ := hDerivable
        obtain ⟨key, hKey⟩ := Option.ne_none_iff_exists'.mp
          (mt (deriveKey_eq_none_iff lib value).mp hWhole)
        have hSome : value.isEmpty = false := by
          rw [← Bool.not_eq_true, List.isEmpty_iff]
          exact hFilled
        rw [validateKeyVersion, if_pos hValid, hKey]
        simp [hSome, ih, hRest]

/-- The gateway stops at its start when a key it reads splits a character. -/
theorem fromKeyring_eq_none_iff (lib : Library) (activeVersion : String)
    (values : List (String × Bytes)) :
    fromKeyring lib activeVersion values = none ↔
      isKeyVersion activeVersion = true ∧ ReachesSplit values := by
  rw [← normalizeKeys_eq_none_iff lib values .empty, fromKeyring]
  constructor
  · intro hNone
    split at hNone
    · cases hNone
    · next version hVersion =>
      refine ⟨(isKeyVersion_of_validate hVersion).2, ?_⟩
      split at hNone
      · next hKeys => exact hKeys
      · cases hNone
      · split at hNone
        · cases hNone
        · cases hNone
  · rintro ⟨hValid, hKeys⟩
    split
    · next error hError =>
      rw [validateKeyVersion, if_pos hValid] at hError
      cases hError
    · split
      · rfl
      · next error hError =>
        rw [hKeys] at hError
        cases hError
      · next keys' hOk =>
        rw [hKeys] at hOk
        cases hOk

end AiGateway.Secrets
