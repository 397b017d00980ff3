import AiGateway.Base.IntText
import AiGateway.Base.Json
import Mathlib.Algebra.Order.Field.Rat
import Mathlib.Data.List.TakeWhile

/-!
# What a JSON text says

A reader that keeps numbers as the decimals they are written as, and members in
the order and as often as they are written.  A text put out by the compact
writer reads back as the value it was written from.
-/

namespace AiGateway.JsonText

set_option autoImplicit false

open AiGateway.Json AiGateway.IntText AiGateway.Text

/-- A number as it is written: `± digits · 10 ^ exponent`.  A plain one has
neither a fraction nor an exponent. -/
structure Literal where
  negative : Bool
  digits : Nat
  exponent : Int
  plain : Bool
  whole : plain = true → exponent = 0
  deriving DecidableEq, Repr

def Literal.value (l : Literal) : ℚ := (if l.negative then -1 else 1) * l.digits * 10 ^ l.exponent

def Literal.ofInt (i : Int) : Literal := ⟨i < 0, i.natAbs, 0, true, fun _ => rfl⟩

inductive Doc where
  | null
  | bool (b : Bool)
  | number (l : Literal)
  | string (s : String)
  | array (items : List Doc)
  | object (members : List (String × Doc))

/-! ## The reader -/

def isSpace (c : Char) : Bool := c = ' ' || c = '\n' || c = '\t' || c = '\r'

def skipSpace (cs : List Char) : List Char := cs.dropWhile isSpace

def readSign : List Char → Bool × List Char
  | '-' :: rest => (true, rest)
  | cs => (false, cs)

/-- Digits, at least one. -/
def readSome (cs : List Char) : Option (List Char × List Char) :=
  if cs.takeWhile Char.isDigit = [] then none
  else some (cs.takeWhile Char.isDigit, cs.dropWhile Char.isDigit)

/-- The whole part: a zero opens no longer one. -/
def readWhole (cs : List Char) : Option (List Char × List Char) :=
  (readSome cs).filter fun read => read.1.head? ≠ some '0' || read.1.length = 1

def readFraction : List Char → Option (List Char × List Char)
  | '.' :: rest => readSome rest
  | cs => some ([], cs)

def readExponentSign : List Char → Bool × List Char
  | '+' :: rest => (false, rest)
  | cs => readSign cs

def readExponent : List Char → Option (Option Int × List Char)
  | [] => some (none, [])
  | c :: rest =>
    if c = 'e' || c = 'E' then
      (readSome (readExponentSign rest).2).map fun read =>
        let n : Int := Nat.ofDigitChars 10 read.1 0
        (some (if (readExponentSign rest).1 then -n else n), read.2)
    else some (none, c :: rest)

theorem exponent_eq_zero (fraction : List Char) (exponent : Option Int)
    (h : (fraction.isEmpty && exponent.isNone) = true) :
    exponent.getD 0 - fraction.length = 0 := by
  obtain ⟨hFraction, hExponent⟩ := Bool.and_eq_true_iff.mp h
  rw [List.isEmpty_iff.mp hFraction, Option.isNone_iff_eq_none.mp hExponent]
  rfl

def readNumber (cs : List Char) : Option (Literal × List Char) := do
  let (negative, cs) := readSign cs
  let (whole, cs) ← readWhole cs
  let (fraction, cs) ← readFraction cs
  let (exponent, cs) ← readExponent cs
  return ({ negative := negative
            digits := Nat.ofDigitChars 10 (whole ++ fraction) 0
            exponent := exponent.getD 0 - fraction.length
            plain := fraction.isEmpty && exponent.isNone
            whole := exponent_eq_zero fraction exponent }, cs)

def hexDigit (c : Char) : Option Nat :=
  if c.isDigit then some (c.toNat - '0'.toNat)
  else if 'a' ≤ c ∧ c ≤ 'f' then some (c.toNat - 'a'.toNat + 10)
  else if 'A' ≤ c ∧ c ≤ 'F' then some (c.toNat - 'A'.toNat + 10)
  else none

/-- Four hexadecimal digits. -/
def readUnit : List Char → Option (Nat × List Char)
  | a :: b :: c :: d :: rest => do
    let a ← hexDigit a
    let b ← hexDigit b
    let c ← hexDigit c
    let d ← hexDigit d
    return (((a * 16 + b) * 16 + c) * 16 + d, rest)
  | _ => none

/-- A code unit and, behind a leading surrogate, the trailing one it needs. -/
def readEscapedUnit (cs : List Char) : Option (Char × List Char) := do
  let (unit, cs) ← readUnit cs
  if 0xD800 ≤ unit ∧ unit < 0xDC00 then
    match cs with
    | '\\' :: 'u' :: cs =>
      let (low, cs) ← readUnit cs
      if 0xDC00 ≤ low ∧ low < 0xE000 then
        return (Char.ofNat (0x10000 + (unit - 0xD800) * 0x400 + (low - 0xDC00)), cs)
      else none
    | _ => none
  else if 0xDC00 ≤ unit ∧ unit < 0xE000 then none
  else return (Char.ofNat unit, cs)

def unescape (c : Char) : Option Char :=
  if c = '"' ∨ c = '\\' ∨ c = '/' then some c
  else if c = 'b' then some (Char.ofNat 0x08)
  else if c = 'f' then some (Char.ofNat 0x0C)
  else if c = 'n' then some '\n'
  else if c = 'r' then some '\r'
  else if c = 't' then some '\t'
  else none

/-- One character of a string, written out or escaped. -/
def readChar : List Char → Option (Char × List Char)
  | [] => none
  | '\\' :: 'u' :: rest => readEscapedUnit rest
  | '\\' :: c :: rest => (unescape c).map fun c => (c, rest)
  | c :: rest => if c = '\\' ∨ c.toNat < 0x20 then none else some (c, rest)

/-- A string after its opening quotation mark. -/
def readString : Nat → List Char → Option (List Char × List Char)
  | 0, _ => none
  | _ + 1, [] => none
  | fuel + 1, c :: rest =>
    if c = '"' then some ([], rest)
    else do
      let (d, rest) ← readChar (c :: rest)
      let (ds, rest) ← readString fuel rest
      return (d :: ds, rest)

def readWord : List Char → Option (Doc × List Char)
  | 'n' :: 'u' :: 'l' :: 'l' :: rest => some (.null, rest)
  | 't' :: 'r' :: 'u' :: 'e' :: rest => some (.bool true, rest)
  | 'f' :: 'a' :: 'l' :: 's' :: 'e' :: rest => some (.bool false, rest)
  | _ => none

mutual
def readValue : Nat → List Char → Option (Doc × List Char)
  | 0, _ => none
  | fuel + 1, cs =>
    match skipSpace cs with
    | [] => none
    | c :: rest =>
      if c = '"' then (readString fuel rest).map fun read => (.string (String.ofList read.1), read.2)
      else if c = '[' then
        match skipSpace rest with
        | ']' :: rest => some (.array [], rest)
        | _ => (readItems fuel rest).map fun read => (.array read.1, read.2)
      else if c = '\x7b' then
        match skipSpace rest with
        | '\x7d' :: rest => some (.object [], rest)
        | _ => (readMembers fuel rest).map fun read => (.object read.1, read.2)
      else if c = '-' ∨ c.isDigit then
        (readNumber (c :: rest)).map fun read => (.number read.1, read.2)
      else readWord (c :: rest)

/-- The items of an array and its closing bracket. -/
def readItems : Nat → List Char → Option (List Doc × List Char)
  | 0, _ => none
  | fuel + 1, cs => do
    let (item, cs) ← readValue fuel cs
    match skipSpace cs with
    | ',' :: cs =>
      let (items, cs) ← readItems fuel cs
      return (item :: items, cs)
    | ']' :: cs => return ([item], cs)
    | _ => none

/-- The members of an object and its closing brace. -/
def readMembers : Nat → List Char → Option (List (String × Doc) × List Char)
  | 0, _ => none
  | fuel + 1, cs => do
    match skipSpace cs with
    | '"' :: cs =>
      let (name, cs) ← readString fuel cs
      match skipSpace cs with
      | ':' :: cs =>
        let (value, cs) ← readValue fuel cs
        match skipSpace cs with
        | ',' :: cs =>
          let (members, cs) ← readMembers fuel cs
          return ((String.ofList name, value) :: members, cs)
        | '\x7d' :: cs => return ([(String.ofList name, value)], cs)
        | _ => none
      | _ => none
    | _ => none
end

/-- A whole text: one value, with nothing but space around it. -/
def read (cs : List Char) : Option Doc :=
  (readValue cs.length cs).bind fun read => if skipSpace read.2 = [] then some read.1 else none

def readBytes (bytes : Bytes) : Option Doc := (fromUtf8 bytes).bind fun s => read s.toList

/-! ## Numbers

What follows a number in a written text is a comma or a closing bracket, so that
a number reads the same whether the text ends there or goes on. -/

/-- The end of the text, or what separates or closes the values of a container. -/
def Ends (rest : List Char) : Prop := ∀ c ∈ rest.head?, c = ',' ∨ c = ']' ∨ c = '\x7d'

/-- What is read does not depend on what comes after the end of a value. -/
def Local {α : Type} (f : List Char → Option (α × List Char)) : Prop :=
  ∀ {cs : List Char} {a : α} {tail rest : List Char}, f cs = some (a, tail) → Ends rest →
    f (cs ++ rest) = some (a, tail ++ rest)

theorem Ends.head {rest : List Char} (h : Ends rest) {p : Char → Bool} (hComma : p ',' = false)
    (hBracket : p ']' = false) (hBrace : p '\x7d' = false) : ∀ c ∈ rest.head?, p c = false := by
  intro c hc
  obtain rfl | rfl | rfl := h c hc
  · exact hComma
  · exact hBracket
  · exact hBrace

theorem ends_nil : Ends [] := nofun

theorem ends_cons {c : Char} (h : c = ',' ∨ c = ']' ∨ c = '\x7d') (rest : List Char) :
    Ends (c :: rest) := by
  intro d hd
  cases hd
  exact h

theorem takeWhile_append {p : Char → Bool} {rest : List Char} (h : ∀ c ∈ rest.head?, p c = false)
    (cs : List Char) : (cs ++ rest).takeWhile p = cs.takeWhile p := by
  induction cs with
  | nil =>
    cases rest with
    | nil => rfl
    | cons c rest => rw [List.nil_append, List.takeWhile_cons, h c rfl, List.takeWhile_nil]; rfl
  | cons d cs ih => rw [List.cons_append, List.takeWhile_cons, List.takeWhile_cons, ih]

theorem dropWhile_append {p : Char → Bool} {rest : List Char} (h : ∀ c ∈ rest.head?, p c = false)
    (cs : List Char) : (cs ++ rest).dropWhile p = cs.dropWhile p ++ rest := by
  induction cs with
  | nil =>
    cases rest with
    | nil => rfl
    | cons c rest => rw [List.nil_append, List.dropWhile_cons, h c rfl]; rfl
  | cons d cs ih =>
    rw [List.cons_append, List.dropWhile_cons, List.dropWhile_cons, ih]
    split <;> rfl

theorem local_readSome : Local readSome := by
  intro cs a tail rest h hEnds
  have hHead := hEnds.head (p := Char.isDigit) (by decide) (by decide) (by decide)
  rw [readSome] at h ⊢
  rw [takeWhile_append hHead, dropWhile_append hHead]
  split at h
  · cases h
  · next hSome =>
    rw [if_neg hSome]
    cases h
    rfl

theorem local_readWhole : Local readWhole := by
  intro cs a tail rest h hEnds
  rw [readWhole, Option.filter_eq_some_iff] at h ⊢
  exact ⟨local_readSome h.1 hEnds, h.2⟩

theorem readSign_append {rest : List Char} (h : Ends rest) (cs : List Char) :
    readSign (cs ++ rest) = ((readSign cs).1, (readSign cs).2 ++ rest) := by
  cases cs with
  | nil =>
    cases rest with
    | nil => rfl
    | cons c rest =>
      obtain rfl | rfl | rfl := h c rfl
      all_goals rfl
  | cons c cs =>
    by_cases hMinus : c = '-'
    · rw [hMinus]
      rfl
    · rw [List.cons_append, readSign, readSign]
      · rfl
      · rintro _ h
        exact hMinus (List.cons.inj h).1
      · rintro _ h
        exact hMinus (List.cons.inj h).1

theorem readExponentSign_append {rest : List Char} (h : Ends rest) (cs : List Char) :
    readExponentSign (cs ++ rest) =
      ((readExponentSign cs).1, (readExponentSign cs).2 ++ rest) := by
  cases cs with
  | nil =>
    cases rest with
    | nil => rfl
    | cons c rest =>
      obtain rfl | rfl | rfl := h c rfl
      all_goals rfl
  | cons c cs =>
    by_cases hPlus : c = '+'
    · rw [hPlus]
      rfl
    · have hOther : ∀ tail, readExponentSign (c :: tail) = readSign (c :: tail) := by
        intro tail
        rw [readExponentSign]
        rintro _ h
        exact hPlus (List.cons.inj h).1
      rw [List.cons_append, hOther, hOther, ← List.cons_append, readSign_append h]

theorem local_readFraction : Local readFraction := by
  intro cs a tail rest h hEnds
  have hOther : ∀ ds : List Char, ds.head? ≠ some '.' → readFraction ds = some ([], ds) := by
    intro ds hHead
    rw [readFraction]
    rintro ds rfl
    exact hHead rfl
  by_cases hPoint : cs.head? = some '.'
  · obtain ⟨cs, rfl⟩ := List.head?_eq_some_iff.mp hPoint
    have hDigits : readSome cs = some (a, tail) := h
    exact local_readSome hDigits hEnds
  · rw [hOther cs hPoint] at h
    cases h
    apply hOther
    cases cs with
    | nil => exact fun hHead => by simpa using hEnds '.' hHead
    | cons c cs => exact hPoint

theorem local_readExponent : Local readExponent := by
  intro cs a tail rest h hEnds
  cases cs with
  | nil =>
    cases h
    cases rest with
    | nil => rfl
    | cons c rest =>
      obtain rfl | rfl | rfl := hEnds c rfl
      all_goals rfl
  | cons c cs =>
    rw [readExponent] at h
    rw [List.cons_append, readExponent]
    split at h
    · next hMark =>
      obtain ⟨⟨digits, after⟩, hDigits, hRead⟩ := Option.map_eq_some_iff.mp h
      cases hRead
      rw [if_pos hMark, readExponentSign_append hEnds, local_readSome hDigits hEnds]
      rfl
    · next hMark =>
      cases h
      rw [if_neg hMark]
      rfl

theorem local_readNumber : Local readNumber := by
  intro cs l tail rest h hEnds
  simp only [readNumber, bind, Option.bind_eq_some_iff, Prod.exists] at h
  obtain ⟨whole, afterWhole, hWhole, fraction, afterFraction, hFraction, exponent, afterExponent,
    hExponent, hRead⟩ := h
  cases hRead
  simp only [readNumber, bind, readSign_append hEnds, local_readWhole hWhole hEnds,
    local_readFraction hFraction hEnds, local_readExponent hExponent hEnds, Option.bind_some]
  rfl

/-! A written integer. -/

theorem readSome_digits {digits rest : List Char} (hSome : digits ≠ [])
    (hDigits : ∀ c ∈ digits, c.isDigit = true) (hEnds : Ends rest) :
    readSome (digits ++ rest) = some (digits, rest) := by
  have hTake : digits.takeWhile Char.isDigit = digits := List.takeWhile_eq_self_iff.mpr hDigits
  have hDrop : digits.dropWhile Char.isDigit = [] := List.dropWhile_eq_nil_iff.mpr hDigits
  have hAlone : readSome digits = some (digits, []) := by rw [readSome, hTake, hDrop, if_neg hSome]
  exact local_readSome hAlone hEnds

theorem head_digitsOf {n : Nat} (h : n ≠ 0) : (digitsOf n).head? ≠ some '0' := by
  induction n using Nat.strong_induction_on with
  | h n ih =>
    rw [digitsOf, Nat.toDigits_eq_if (by decide)]
    split
    · next hSmall =>
      have hDigits : ∀ d < 10, d ≠ 0 → d.digitChar ≠ '0' := by decide
      exact fun hHead => hDigits n hSmall h (Option.some.inj hHead)
    · next hLarge =>
      have hTens : n / 10 ≠ 0 := by omega
      rw [List.head?_append_of_ne_nil _ Nat.toDigits_ne_nil]
      exact ih (n / 10) (by omega) hTens

theorem readWhole_digitsOf (n : Nat) {rest : List Char} (h : Ends rest) :
    readWhole (digitsOf n ++ rest) = some (digitsOf n, rest) := by
  have hSome : readSome (digitsOf n ++ rest) = some (digitsOf n, rest) :=
    readSome_digits Nat.toDigits_ne_nil isDigit_digitsOf h
  rw [readWhole, hSome, Option.filter_some_pos]
  by_cases hZero : n = 0
  · rw [hZero]
    rfl
  · simp [head_digitsOf hZero]

theorem readFraction_ends {rest : List Char} (h : Ends rest) :
    readFraction rest = some ([], rest) := by
  have hNone : readFraction [] = some ([], []) := rfl
  exact local_readFraction hNone h

theorem readExponent_ends {rest : List Char} (h : Ends rest) :
    readExponent rest = some (none, rest) := by
  have hNone : readExponent [] = some (none, []) := rfl
  exact local_readExponent hNone h

theorem readSign_digitsOf (n : Nat) (rest : List Char) :
    readSign (digitsOf n ++ rest) = (false, digitsOf n ++ rest) := by
  obtain ⟨first, others, hDigits⟩ : ∃ first others, digitsOf n = first :: others :=
    List.exists_cons_of_ne_nil Nat.toDigits_ne_nil
  have hFirst : first.isDigit = true := by
    apply isDigit_digitsOf (n := n)
    rw [hDigits]
    exact List.mem_cons_self
  rw [hDigits, List.cons_append, readSign]
  rintro _ h
  rw [(List.cons.inj h).1] at hFirst
  exact absurd hFirst (by decide)

theorem readNumber_writeInt (i : Int) {rest : List Char} (h : Ends rest) :
    readNumber (writeInt i ++ rest) = some (.ofInt i, rest) := by
  have hSign : readSign (writeInt i ++ rest) = (decide (i < 0), digitsOf i.natAbs ++ rest) := by
    rw [writeInt]
    split
    · next hNegative =>
      rw [decide_eq_true hNegative]
      rfl
    · next hNat => rw [readSign_digitsOf, decide_eq_false hNat]
  simp only [readNumber, bind, hSign, readWhole_digitsOf i.natAbs h, readFraction_ends h,
    readExponent_ends h, Option.bind_some, List.append_nil]
  rw [digitsOf, Nat.ofDigitChars_ten_toDigits]
  rfl

/-! ## Strings -/

theorem hexDigit_digitChar : ∀ d < 16, hexDigit d.digitChar = some d := by decide

theorem eq_ofNat {c : Char} {n : Nat} (h : c.toNat = n) : c = Char.ofNat n := by
  rw [← h, Char.ofNat_toNat]

theorem readUnit_control {n : Nat} (h : n < 0x100) (rest : List Char) :
    readUnit ('0' :: '0' :: Nat.digitChar (n / 16) :: Nat.digitChar (n % 16) :: rest) =
      some (n, rest) := by
  have hHigh := hexDigit_digitChar (n / 16) (by omega)
  have hLow := hexDigit_digitChar (n % 16) (by omega)
  have hZero : hexDigit '0' = some 0 := by decide
  have hUnit : n / 16 * 16 + n % 16 = n := by omega
  simp [readUnit, hHigh, hLow, hZero, hUnit]

/-- Every escape of the writer is read as the character it stands for. -/
theorem readChar_escapeChar (c : Char) (rest : List Char) :
    readChar (escapeChar c ++ rest) = some (c, rest) := by
  rw [escapeChar]
  split
  · next hQuote =>
    rw [hQuote]
    rfl
  split
  · next hBackslash =>
    rw [hBackslash]
    rfl
  split
  · next h =>
    rw [eq_ofNat h]
    rfl
  split
  · next h =>
    rw [eq_ofNat h]
    rfl
  split
  · next h =>
    rw [eq_ofNat h]
    rfl
  split
  · next h =>
    rw [eq_ofNat h]
    rfl
  split
  · next h =>
    rw [eq_ofNat h]
    rfl
  split
  · next hControl =>
    have hUnit := readUnit_control (n := c.toNat) (by omega) rest
    have hPlain : ¬ (0xD800 ≤ c.toNat ∧ c.toNat < 0xDC00) := by omega
    have hPlain' : ¬ (0xDC00 ≤ c.toNat ∧ c.toNat < 0xE000) := by omega
    simp only [List.cons_append, List.nil_append, readChar, readEscapedUnit, bind, hUnit,
      Option.bind_some, if_neg hPlain, if_neg hPlain', Char.ofNat_toNat]
    rfl
  · next hQuote hBackslash _ _ _ _ _ hControl =>
    rw [List.singleton_append, readChar]
    · rw [if_neg (not_or.mpr ⟨hBackslash, hControl⟩)]
    · intro _ h
      exact absurd h hBackslash
    · intro _ _ h
      exact absurd h hBackslash

theorem escapeChar_head (c : Char) : ∃ d ds, escapeChar c = d :: ds ∧ d ≠ '"' := by
  rw [escapeChar]
  split
  · exact ⟨_, _, rfl, by decide⟩
  iterate 7
    split
    · exact ⟨_, _, rfl, by decide⟩
  · next hQuote _ _ _ _ _ _ _ => exact ⟨c, [], rfl, hQuote⟩

theorem readString_escaped {cs : List Char} {fuel : Nat} (h : cs.length < fuel) (rest : List Char) :
    readString fuel (cs.flatMap escapeChar ++ '"' :: rest) = some (cs, rest) := by
  induction cs generalizing fuel with
  | nil =>
    cases fuel with
    | zero => cases h
    | succ fuel => rfl
  | cons c cs ih =>
    cases fuel with
    | zero => cases h
    | succ fuel =>
      obtain ⟨d, ds, hHead, hOpen⟩ := escapeChar_head c
      have hChar := readChar_escapeChar c (cs.flatMap escapeChar ++ '"' :: rest)
      have hRest := ih (Nat.lt_of_succ_lt_succ h)
      rw [hHead, List.cons_append] at hChar
      rw [List.flatMap_cons, hHead, List.append_assoc, List.cons_append, readString, if_neg hOpen]
      simp only [bind, hChar, hRest, Option.bind_some]
      rfl

theorem length_le_escaped (cs : List Char) : cs.length ≤ (cs.flatMap escapeChar).length := by
  induction cs with
  | nil => exact Nat.le_refl 0
  | cons c cs ih =>
    obtain ⟨d, ds, hHead, -⟩ := escapeChar_head c
    rw [List.flatMap_cons, hHead, List.length_append, List.length_cons, List.length_cons]
    omega

theorem toList_renderString (s : String) :
    (renderString s).toList = '"' :: (s.toList.flatMap escapeChar ++ ['"']) := by
  simp [renderString]

/-! ## Values -/

def ofNumber : Number → Literal
  | .posInt n => .ofInt n.toNat
  | .negInt i => .ofInt i.toInt
  | .float text => ((readNumber text.toList).map Prod.fst).getD (.ofInt 0)

mutual
/-- What the text of a value says. -/
def ofValue : Value → Doc
  | .null => .null
  | .bool b => .bool b
  | .number n => .number (ofNumber n)
  | .string s => .string s
  | .array items => .array (ofItems items)
  | .object fields => .object (ofFields fields)

def ofItems : List Value → List Doc
  | [] => []
  | v :: rest => ofValue v :: ofItems rest

def ofFields : List (String × Value) → List (String × Doc)
  | [] => []
  | (key, v) :: rest => (key, ofValue v) :: ofFields rest
end

theorem ofItems_eq_map (items : List Value) : ofItems items = items.map ofValue := by
  induction items with
  | nil => rfl
  | cons v rest ih => rw [ofItems, ih, List.map_cons]

theorem ofFields_eq_map (fields : List (String × Value)) :
    ofFields fields = fields.map fun field => (field.1, ofValue field.2) := by
  induction fields with
  | nil => rfl
  | cons field rest ih => rw [ofFields, ih, List.map_cons]

/-- A number whose text is one. -/
def ReadableNumber : Number → Prop
  | .posInt _ => True
  | .negInt _ => True
  | .float text => ∃ l, readNumber text.toList = some (l, [])

mutual
def Readable : Value → Prop
  | .null => True
  | .bool _ => True
  | .number n => ReadableNumber n
  | .string _ => True
  | .array items => ReadableItems items
  | .object fields => ReadableFields fields

def ReadableItems : List Value → Prop
  | [] => True
  | v :: rest => Readable v ∧ ReadableItems rest

def ReadableFields : List (String × Value) → Prop
  | [] => True
  | (_, v) :: rest => Readable v ∧ ReadableFields rest
end

theorem readableItems_iff (items : List Value) : ReadableItems items ↔ ∀ v ∈ items, Readable v := by
  induction items with
  | nil => simp [ReadableItems]
  | cons v rest ih => rw [ReadableItems, ih, List.forall_mem_cons]

theorem readableFields_iff (fields : List (String × Value)) :
    ReadableFields fields ↔ ∀ field ∈ fields, Readable field.2 := by
  induction fields with
  | nil => simp [ReadableFields]
  | cons field rest ih => rw [ReadableFields, ih, List.forall_mem_cons]

theorem readNumber_render {n : Number} (h : ReadableNumber n) {rest : List Char}
    (hEnds : Ends rest) : readNumber (n.render.toList ++ rest) = some (ofNumber n, rest) := by
  cases n with
  | posInt n =>
    have hText : (Number.posInt n).render.toList = writeInt (n.toNat : Int) := by
      rw [← toList_toString]
      rfl
    rw [hText]
    exact readNumber_writeInt _ hEnds
  | negInt i =>
    rw [Number.render, toList_toString]
    exact readNumber_writeInt _ hEnds
  | float text =>
    obtain ⟨l, hRead⟩ := h
    rw [ofNumber, hRead]
    exact local_readNumber hRead hEnds

/-- Every number starts with a sign or a digit. -/
theorem exists_head_of_readNumber {cs tail : List Char} {l : Literal}
    (h : readNumber cs = some (l, tail)) : ∃ c ds, cs = c :: ds ∧ (c = '-' ∨ c.isDigit = true) := by
  cases cs with
  | nil => cases h
  | cons c ds =>
    refine ⟨c, ds, rfl, ?_⟩
    by_contra hHead
    obtain ⟨hMinus, hDigit⟩ := not_or.mp hHead
    have hSign : readSign (c :: ds) = (false, c :: ds) := by
      rw [readSign]
      rintro _ hSame
      exact hMinus (List.cons.inj hSame).1
    have hNone : readWhole (c :: ds) = none := by
      rw [readWhole, readSome, List.takeWhile_cons, if_neg hDigit]
      rfl
    simp only [readNumber, bind, hSign, hNone, Option.bind_none] at h
    cases h

theorem ne_of_numberHead {c d : Char} (h : c = '-' ∨ c.isDigit = true) (hMinus : d ≠ '-')
    (hDigit : d.isDigit = false) : c ≠ d := by
  rintro rfl
  obtain hSame | hSame := h
  · exact hMinus hSame
  · rw [hDigit] at hSame
    cases hSame

theorem isSpace_of_numberHead {c : Char} (h : c = '-' ∨ c.isDigit = true) : isSpace c = false := by
  have hBlank := ne_of_numberHead h (d := ' ') (by decide) (by decide)
  have hLine := ne_of_numberHead h (d := '\n') (by decide) (by decide)
  have hTab := ne_of_numberHead h (d := '\t') (by decide) (by decide)
  have hReturn := ne_of_numberHead h (d := '\r') (by decide) (by decide)
  simp [isSpace, hBlank, hLine, hTab, hReturn]

theorem skipSpace_cons {c : Char} (h : isSpace c = false) (cs : List Char) :
    skipSpace (c :: cs) = c :: cs := by
  rw [skipSpace, List.dropWhile_cons, if_neg (Bool.eq_false_iff.mp h)]

theorem readValue_number {c : Char} (h : c = '-' ∨ c.isDigit = true) (fuel : Nat)
    (cs : List Char) : readValue (fuel + 1) (c :: cs) =
      (readNumber (c :: cs)).map fun read => (.number read.1, read.2) := by
  have hQuote := ne_of_numberHead h (d := '"') (by decide) (by decide)
  have hBracket := ne_of_numberHead h (d := '[') (by decide) (by decide)
  have hBrace := ne_of_numberHead h (d := '\x7b') (by decide) (by decide)
  rw [readValue, skipSpace_cons (isSpace_of_numberHead h)]
  simp only [if_neg hQuote, if_neg hBracket, if_neg hBrace, if_pos h]

theorem readValue_string (fuel : Nat) (cs : List Char) : readValue (fuel + 1) ('"' :: cs) =
    (readString fuel cs).map fun read => (.string (String.ofList read.1), read.2) := rfl

theorem readValue_array {c : Char} {cs : List Char} (hSpace : isSpace c = false) (hOpen : c ≠ ']')
    (fuel : Nat) : readValue (fuel + 1) ('[' :: c :: cs) =
      (readItems fuel (c :: cs)).map fun read => (.array read.1, read.2) := by
  have hBracket : skipSpace ('[' :: c :: cs) = '[' :: c :: cs := rfl
  rw [readValue, hBracket]
  simp only [Char.reduceEq, if_false, if_true, skipSpace_cons hSpace]
  split
  · next h => exact absurd (List.cons.inj h).1 hOpen
  · rfl

theorem readValue_object {cs : List Char} (fuel : Nat) :
    readValue (fuel + 1) ('\x7b' :: '"' :: cs) =
      (readMembers fuel ('"' :: cs)).map fun read => (.object read.1, read.2) := rfl

/-- The first character of a written value. -/
theorem render_head (v : Value) (h : Readable v) :
    ∃ c cs, (render v).toList = c :: cs ∧ isSpace c = false ∧ c ≠ ']' := by
  cases v with
  | null => exact ⟨'n', _, rfl, by decide, by decide⟩
  | bool b =>
    cases b
    · exact ⟨'f', _, rfl, by decide, by decide⟩
    · exact ⟨'t', _, rfl, by decide, by decide⟩
  | number n =>
    have hRead := readNumber_render h ends_nil
    rw [List.append_nil] at hRead
    obtain ⟨c, ds, hText, hHead⟩ := exists_head_of_readNumber hRead
    refine ⟨c, ds, hText, ?_⟩
    exact ⟨isSpace_of_numberHead hHead, ne_of_numberHead hHead (by decide) (by decide)⟩
  | string s => exact ⟨'"', _, toList_renderString s, by decide, by decide⟩
  | array items => exact ⟨'[', _, by simp [render]; rfl, by decide, by decide⟩
  | object fields => exact ⟨'\x7b', _, by simp [render]; rfl, by decide, by decide⟩

theorem toList_renderItems (v w : Value) (items : List Value) :
    (renderItems (v :: w :: items)).toList =
      (render v).toList ++ ',' :: (renderItems (w :: items)).toList := by
  rw [renderItems]
  · simp
  · nofun

theorem toList_renderFields (key : String) (v : Value) (field : String × Value)
    (fields : List (String × Value)) : (renderFields ((key, v) :: field :: fields)).toList =
      (renderString key).toList ++ ':' :: ((render v).toList ++
        ',' :: (renderFields (field :: fields)).toList) := by
  rw [renderFields]
  · simp
  · nofun

theorem renderItems_head (v : Value) (items : List Value) (h : Readable v) :
    ∃ c cs, (renderItems (v :: items)).toList = c :: cs ∧ isSpace c = false ∧ c ≠ ']' := by
  obtain ⟨c, cs, hText, hHead⟩ := render_head v h
  cases items with
  | nil =>
    rw [renderItems]
    exact ⟨c, cs, hText, hHead⟩
  | cons w items =>
    rw [toList_renderItems, hText]
    exact ⟨c, _, rfl, hHead⟩

theorem renderFields_head (field : String × Value) (fields : List (String × Value)) :
    ∃ cs, (renderFields (field :: fields)).toList = '"' :: cs := by
  obtain ⟨key, v⟩ := field
  cases fields with
  | nil => exact ⟨_, by simp [renderFields, toList_renderString]; rfl⟩
  | cons field fields =>
    rw [toList_renderFields, toList_renderString]
    exact ⟨_, rfl⟩

section Members

variable {key : String} {fuel : Nat} {d : Doc} {cs ds rest : List Char}

/-- A member up to its value. -/
theorem readMembers_name (hFuel : (renderString key).toList.length ≤ fuel) (cs : List Char) :
    ∃ name, readString fuel name = some (key.toList, ':' :: cs) ∧
      (renderString key).toList ++ ':' :: cs = '"' :: name := by
  have hLength := length_le_escaped key.toList
  rw [toList_renderString, List.length_cons, List.length_append, List.length_singleton] at hFuel
  refine ⟨key.toList.flatMap escapeChar ++ '"' :: ':' :: cs, readString_escaped (by omega) _, ?_⟩
  rw [toList_renderString, List.cons_append, List.append_assoc, List.singleton_append]

theorem skipSpace_mark (cs : List Char) : skipSpace ('"' :: cs) = '"' :: cs ∧
    skipSpace (':' :: cs) = ':' :: cs ∧ skipSpace (',' :: cs) = ',' :: cs ∧
    skipSpace (']' :: cs) = ']' :: cs ∧ skipSpace ('\x7d' :: cs) = '\x7d' :: cs :=
  ⟨rfl, rfl, rfl, rfl, rfl⟩

theorem readMembers_last (hFuel : (renderString key).toList.length ≤ fuel)
    (hValue : readValue fuel cs = some (d, '\x7d' :: rest)) :
    readMembers (fuel + 1) ((renderString key).toList ++ ':' :: cs) = some ([(key, d)], rest) := by
  obtain ⟨name, hName, hText⟩ := readMembers_name hFuel cs
  rw [hText, readMembers]
  simp only [bind, skipSpace_mark, hName, hValue, Option.bind_some, String.ofList_toList]
  rfl

theorem readMembers_more (hFuel : (renderString key).toList.length ≤ fuel)
    (hValue : readValue fuel cs = some (d, ',' :: ds)) {members : List (String × Doc)}
    (hMore : readMembers fuel ds = some (members, rest)) :
    readMembers (fuel + 1) ((renderString key).toList ++ ':' :: cs) =
      some ((key, d) :: members, rest) := by
  obtain ⟨name, hName, hText⟩ := readMembers_name hFuel cs
  rw [hText, readMembers]
  simp only [bind, skipSpace_mark, hName, hValue, hMore, Option.bind_some, String.ofList_toList]
  rfl

theorem readItems_last (hValue : readValue fuel cs = some (d, ']' :: rest)) :
    readItems (fuel + 1) cs = some ([d], rest) := by
  rw [readItems]
  simp only [bind, hValue, skipSpace_mark, Option.bind_some]
  rfl

theorem readItems_more (hValue : readValue fuel cs = some (d, ',' :: ds)) {items : List Doc}
    (hMore : readItems fuel ds = some (items, rest)) :
    readItems (fuel + 1) cs = some (d :: items, rest) := by
  rw [readItems]
  simp only [bind, hValue, skipSpace_mark, hMore, Option.bind_some]
  rfl

end Members

/-- The text of the value reads back, whatever comes after it. -/
def ReadsBack (v : Value) : Prop :=
  ∀ {fuel : Nat} {rest : List Char}, (render v).toList.length ≤ fuel → Ends rest →
    readValue fuel ((render v).toList ++ rest) = some (ofValue v, rest)

theorem readItems_render {v : Value} {items : List Value} (h : ∀ w ∈ v :: items, ReadsBack w)
    {fuel : Nat} (hFuel : (renderItems (v :: items)).toList.length < fuel) (rest : List Char) :
    readItems fuel ((renderItems (v :: items)).toList ++ ']' :: rest) =
      some (ofItems (v :: items), rest) := by
  obtain ⟨hValue, hItems⟩ := List.forall_mem_cons.mp h
  induction items generalizing v fuel with
  | nil =>
    cases fuel with
    | zero => cases hFuel
    | succ fuel =>
      rw [renderItems] at hFuel ⊢
      exact readItems_last (hValue (by omega) (ends_cons (.inr (.inl rfl)) rest))
  | cons w items ih =>
    cases fuel with
    | zero => cases hFuel
    | succ fuel =>
      obtain ⟨hNext, hOthers⟩ := List.forall_mem_cons.mp hItems
      rw [toList_renderItems, List.length_append, List.length_cons] at hFuel
      rw [toList_renderItems, List.append_assoc, List.cons_append]
      exact readItems_more (hValue (by omega) (ends_cons (.inl rfl) _))
        (ih hItems (by omega) hNext hOthers)

theorem readMembers_render {field : String × Value} {fields : List (String × Value)}
    (h : ∀ entry ∈ field :: fields, ReadsBack entry.2) {fuel : Nat}
    (hFuel : (renderFields (field :: fields)).toList.length < fuel) (rest : List Char) :
    readMembers fuel ((renderFields (field :: fields)).toList ++ '\x7d' :: rest) =
      some (ofFields (field :: fields), rest) := by
  obtain ⟨hValue, hFields⟩ := List.forall_mem_cons.mp h
  induction fields generalizing field fuel with
  | nil =>
    obtain ⟨key, v⟩ := field
    have hValue : ReadsBack v := hValue
    have hText : (renderFields [(key, v)]).toList =
        (renderString key).toList ++ ':' :: (render v).toList := by simp [renderFields]
    cases fuel with
    | zero => cases hFuel
    | succ fuel =>
      rw [hText, List.length_append, List.length_cons] at hFuel
      rw [hText, List.append_assoc, List.cons_append]
      exact readMembers_last (by omega) (hValue (by omega) (ends_cons (.inr (.inr rfl)) rest))
  | cons next fields ih =>
    obtain ⟨key, v⟩ := field
    have hValue : ReadsBack v := hValue
    cases fuel with
    | zero => cases hFuel
    | succ fuel =>
      obtain ⟨hNext, hOthers⟩ := List.forall_mem_cons.mp hFields
      rw [toList_renderFields, List.length_append, List.length_cons, List.length_append,
        List.length_cons] at hFuel
      rw [toList_renderFields, List.append_assoc, List.cons_append, List.append_assoc,
        List.cons_append]
      exact readMembers_more (by omega) (hValue (by omega) (ends_cons (.inl rfl) _))
        (ih hFields (by omega) hNext hOthers)

theorem readsBack_number {n : Number} (h : ReadableNumber n) : ReadsBack (.number n) := by
  intro fuel rest hFuel hEnds
  have hNumber := readNumber_render h hEnds
  obtain ⟨c, cs, hText, hFirst⟩ := exists_head_of_readNumber hNumber
  cases fuel with
  | zero =>
    obtain ⟨d, ds, hHead, -⟩ := render_head (.number n) h
    rw [hHead] at hFuel
    cases hFuel
  | succ fuel =>
    rw [render, hText, readValue_number hFirst, ← hText, hNumber]
    rfl

theorem readsBack_string (s : String) : ReadsBack (.string s) := by
  intro fuel rest hFuel hEnds
  have hLength := length_le_escaped s.toList
  rw [render, toList_renderString, List.length_cons, List.length_append,
    List.length_singleton] at hFuel
  cases fuel with
  | zero => cases hFuel
  | succ fuel =>
    rw [render, toList_renderString, List.cons_append, List.append_assoc, readValue_string,
      List.singleton_append, readString_escaped (by omega)]
    simp [ofValue]

theorem readsBack_array {items : List Value} (hRead : ReadableItems items)
    (h : ∀ v ∈ items, ReadsBack v) : ReadsBack (.array items) := by
  intro fuel rest hFuel hEnds
  cases fuel with
  | zero => simp [render] at hFuel
  | succ fuel =>
    cases items with
    | nil => rfl
    | cons v items =>
      have hText : (render (.array (v :: items))).toList =
          '[' :: ((renderItems (v :: items)).toList ++ [']']) := by simp [render]
      obtain ⟨d, ds, hFirst, hBlank, hMore⟩ := renderItems_head v items hRead.1
      rw [hText, List.length_cons, List.length_append, List.length_singleton] at hFuel
      have hShort : (renderItems (v :: items)).toList.length < fuel := by omega
      have hItems := readItems_render h hShort rest
      rw [hText, List.cons_append, List.append_assoc, List.singleton_append]
      rw [hFirst, List.cons_append] at hItems ⊢
      rw [readValue_array hBlank hMore, hItems]
      rfl

theorem readsBack_object {fields : List (String × Value)}
    (h : ∀ field ∈ fields, ReadsBack field.2) : ReadsBack (.object fields) := by
  intro fuel rest hFuel hEnds
  cases fuel with
  | zero => simp [render] at hFuel
  | succ fuel =>
    cases fields with
    | nil => rfl
    | cons field fields =>
      have hText : (render (.object (field :: fields))).toList =
          '\x7b' :: ((renderFields (field :: fields)).toList ++ ['\x7d']) := by simp [render]
      obtain ⟨ds, hFirst⟩ := renderFields_head field fields
      rw [hText, List.length_cons, List.length_append, List.length_singleton] at hFuel
      have hShort : (renderFields (field :: fields)).toList.length < fuel := by omega
      have hMembers := readMembers_render h hShort rest
      rw [hText, List.cons_append, List.append_assoc, List.singleton_append]
      rw [hFirst, List.cons_append] at hMembers ⊢
      rw [readValue_object, hMembers]
      rfl

/-- Induction over a value with a hypothesis for every item and every member. -/
theorem value_induction {P : Value → Prop} (hNull : P .null) (hBool : ∀ b, P (.bool b))
    (hNumber : ∀ n, P (.number n)) (hString : ∀ s, P (.string s))
    (hArray : ∀ items : List Value, (∀ v ∈ items, P v) → P (.array items))
    (hObject : ∀ fields : List (String × Value), (∀ field ∈ fields, P field.2) → P (.object fields))
    (v : Value) : P v :=
  @Value.rec P (fun items => ∀ v ∈ items, P v) (fun fields => ∀ field ∈ fields, P field.2)
    (fun field => P field.2) hNull hBool hNumber hString hArray hObject nofun
    (fun _ _ hHead hRest => List.forall_mem_cons.mpr ⟨hHead, hRest⟩) nofun
    (fun _ _ hHead hRest => List.forall_mem_cons.mpr ⟨hHead, hRest⟩) (fun _ _ h => h) v

theorem readsBack_of_readable {v : Value} (h : Readable v) : ReadsBack v := by
  induction v using value_induction with
  | hNull =>
    intro fuel rest hFuel hEnds
    cases fuel with
    | zero => cases hFuel
    | succ fuel => rfl
  | hBool b =>
    intro fuel rest hFuel hEnds
    cases fuel with
    | zero => cases b <;> cases hFuel
    | succ fuel => cases b <;> rfl
  | hNumber n => exact readsBack_number h
  | hString s => exact readsBack_string s
  | hArray items ih =>
    exact readsBack_array h fun v hv => ih v hv ((readableItems_iff items).mp h v hv)
  | hObject fields ih =>
    exact readsBack_object fun field hField =>
      ih field hField ((readableFields_iff fields).mp h field hField)

/-- What the writer puts out reads back as what was written. -/
theorem read_render {v : Value} (h : Readable v) : read (render v).toList = some (ofValue v) := by
  have hValue := readsBack_of_readable h (Nat.le_refl _) ends_nil
  rw [List.append_nil] at hValue
  rw [read, hValue]
  rfl

theorem readBytes_render {v : Value} (h : Readable v) :
    readBytes (utf8 (render v)) = some (ofValue v) := by
  rw [readBytes, fromUtf8_utf8, Option.bind_some, read_render h]

end AiGateway.JsonText
