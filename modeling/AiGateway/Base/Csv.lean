import Mathlib.Data.List.Basic

/-!
# Comma-separated values

Records of fields, a line each.  A field with a separator, a quote or a line break in
it stands between quotes, with its own quotes doubled.
-/

namespace AiGateway.Csv

set_option autoImplicit false

abbrev Field := List Char

def isSpecial (c : Char) : Bool := c = ',' || c = '"' || c = '\n' || c = '\r'

def doubled (value : Field) : List Char :=
  value.flatMap fun c => if c = '"' then ['"', '"'] else [c]

def writeField (value : Field) : List Char :=
  if value.any isSpecial then '"' :: (doubled value ++ ['"']) else value

def writeRecord (fields : List Field) : List Char :=
  [','].intercalate (fields.map writeField) ++ ['\n']

def writeRecords (records : List (List Field)) : List Char := records.flatMap writeRecord

/-! ## Reading -/

/-- What stands between quotes, and what comes after. -/
def readQuoted : List Char → Option (Field × List Char)
  | [] => none
  | '"' :: '"' :: rest => (readQuoted rest).map fun found => ('"' :: found.1, found.2)
  | '"' :: rest => some ([], rest)
  | c :: rest => (readQuoted rest).map fun found => (c :: found.1, found.2)

def readField : List Char → Option (Field × List Char)
  | '"' :: rest => readQuoted rest
  | text => some (text.takeWhile fun c => !isSpecial c, text.dropWhile fun c => !isSpecial c)

def readRecord : Nat → List Char → Option (List Field × List Char)
  | 0, _ => none
  | fuel + 1, text => do
    let (field, rest) ← readField text
    match rest with
    | ',' :: rest => do
      let (more, rest) ← readRecord fuel rest
      some (field :: more, rest)
    | '\n' :: rest => some ([field], rest)
    | _ => none

def readRecords : Nat → List Char → Option (List (List Field))
  | _, [] => some []
  | 0, _ => none
  | fuel + 1, text => do
    let (record, rest) ← readRecord text.length text
    let more ← readRecords fuel rest
    some (record :: more)

def read (text : List Char) : Option (List (List Field)) := readRecords text.length text

/-! ## What is written is read back -/

theorem readQuoted_doubled (value : Field) {rest : List Char} (hRest : rest.head? ≠ some '"') :
    readQuoted (doubled value ++ '"' :: rest) = some (value, rest) := by
  induction value with
  | nil =>
    cases rest with
    | nil => rfl
    | cons c rest =>
      have hc : c ≠ '"' := fun hSame => hRest (congrArg some hSame)
      simp [doubled, readQuoted, hc]
  | cons c value ih =>
    rw [doubled] at ih
    by_cases hc : c = '"'
    · simp [doubled, readQuoted, hc, ih]
    · simp [doubled, readQuoted, hc, ih]

/-- A field ends with its separator or with its line. -/
theorem readField_writeField (value : Field) {c : Char} (hEnd : c = ',' ∨ c = '\n')
    (rest : List Char) : readField (writeField value ++ c :: rest) = some (value, c :: rest) := by
  have hSpecial : isSpecial c = true := by
    rcases hEnd with rfl | rfl <;> rfl
  have hQuote : c ≠ '"' := by
    rcases hEnd with rfl | rfl <;> decide
  rw [writeField]
  cases hAny : value.any isSpecial with
  | true =>
    have hRest : (c :: rest).head? ≠ some '"' := fun hSame => hQuote (Option.some.inj hSame)
    have hText : '"' :: (doubled value ++ ['"']) ++ c :: rest =
        '"' :: (doubled value ++ '"' :: c :: rest) := by
      simp only [List.cons_append, List.append_assoc, List.nil_append]
    rw [if_pos rfl, hText]
    exact readQuoted_doubled value hRest
  | false =>
    have hPlain : ∀ d ∈ value, (!isSpecial d) = true := by
      intro d hd
      rw [Bool.not_eq_true']
      exact Bool.eq_false_iff.mpr (List.any_eq_false.mp hAny d hd)
    have hFirst : ∀ text, value ++ c :: rest = '"' :: text → False := by
      intro text hText
      cases value with
      | nil => exact hQuote (List.cons.inj hText).1
      | cons d value =>
        have hd := hPlain d List.mem_cons_self
        rw [(List.cons.inj hText).1] at hd
        exact Bool.noConfusion hd
    have hTake : (value ++ c :: rest).takeWhile (fun d => !isSpecial d) = value := by
      rw [List.takeWhile_append_of_pos hPlain, List.takeWhile_cons, hSpecial]
      exact List.append_nil value
    have hDrop : (value ++ c :: rest).dropWhile (fun d => !isSpecial d) = c :: rest := by
      rw [List.dropWhile_append_of_pos hPlain, List.dropWhile_cons, hSpecial]
      rfl
    rw [if_neg (by decide), readField, hTake, hDrop]
    exact hFirst

theorem writeRecord_cons (value next : Field) (fields : List Field) (rest : List Char) :
    writeRecord (value :: next :: fields) ++ rest =
      writeField value ++ ',' :: (writeRecord (next :: fields) ++ rest) := by
  simp only [writeRecord, List.map_cons, List.intercalate_cons_cons, List.append_assoc,
    List.cons_append, List.nil_append]

theorem writeRecord_singleton (value : Field) (rest : List Char) :
    writeRecord [value] ++ rest = writeField value ++ '\n' :: rest := by
  rw [writeRecord, List.map_singleton, List.intercalate_singleton, List.append_assoc]
  rfl

theorem readRecord_writeRecord {fields : List Field} (hSome : fields ≠ []) {fuel : Nat}
    (hFuel : fields.length ≤ fuel) (rest : List Char) :
    readRecord fuel (writeRecord fields ++ rest) = some (fields, rest) := by
  induction fields generalizing fuel with
  | nil => exact absurd rfl hSome
  | cons value fields ih =>
    cases fuel with
    | zero => cases hFuel
    | succ fuel =>
      rw [List.length_cons, Nat.add_le_add_iff_right] at hFuel
      cases fields with
      | nil =>
        rw [writeRecord_singleton, readRecord, readField_writeField value (.inr rfl)]
        rfl
      | cons next fields =>
        have hMore := ih (List.cons_ne_nil next fields) hFuel
        rw [writeRecord_cons, readRecord, readField_writeField value (.inl rfl)]
        simp only [Option.bind_eq_bind, Option.bind_some, hMore]

theorem length_le_writeRecord (fields : List Field) :
    fields.length ≤ (writeRecord fields).length := by
  induction fields with
  | nil => exact Nat.zero_le _
  | cons value fields ih =>
    cases fields with
    | nil =>
      rw [writeRecord, List.length_append]
      exact Nat.le_add_left _ _
    | cons next fields =>
      have hCons := writeRecord_cons value next fields []
      rw [List.append_nil, List.append_nil] at hCons
      rw [hCons, List.length_append]
      simp only [List.length_cons] at ih ⊢
      omega

theorem readRecords_writeRecords {records : List (List Field)} (hSome : ∀ r ∈ records, r ≠ [])
    {fuel : Nat} (hFuel : records.length ≤ fuel) :
    readRecords fuel (writeRecords records) = some records := by
  induction records generalizing fuel with
  | nil => cases fuel <;> rfl
  | cons record records ih =>
    rw [List.forall_mem_cons] at hSome
    cases fuel with
    | zero => cases hFuel
    | succ fuel =>
      rw [List.length_cons, Nat.add_le_add_iff_right] at hFuel
      have hLength : record.length ≤ (writeRecord record ++ writeRecords records).length := by
        rw [List.length_append]
        exact Nat.le_trans (length_le_writeRecord record) (Nat.le_add_right _ _)
      have hRecord := readRecord_writeRecord hSome.1 hLength (writeRecords records)
      have hText : writeRecords (record :: records) =
          writeRecord record ++ writeRecords records := List.flatMap_cons
      have hNext : writeRecord record ++ writeRecords records ≠ [] := by
        rw [writeRecord, List.append_assoc]
        exact List.append_ne_nil_of_right_ne_nil _ (List.cons_ne_nil _ _)
      rw [hText, readRecords]
      · simp only [Option.bind_eq_bind, hRecord, Option.bind_some, ih hSome.2 hFuel]
      · exact hNext

theorem read_writeRecords {records : List (List Field)} (hSome : ∀ r ∈ records, r ≠ []) :
    read (writeRecords records) = some records := by
  refine readRecords_writeRecords hSome ?_
  induction records with
  | nil => exact Nat.zero_le _
  | cons record records ih =>
    rw [List.forall_mem_cons] at hSome
    have hMore := ih hSome.2
    have hText : writeRecords (record :: records) =
        writeRecord record ++ writeRecords records := List.flatMap_cons
    have hOne := Nat.lt_of_lt_of_le (List.length_pos_iff.mpr hSome.1) (length_le_writeRecord record)
    rw [hText, List.length_append, List.length_cons]
    omega

end AiGateway.Csv
