import AiGateway.Base.IntText
import Mathlib.Data.List.Sort

/-!
# Statements with numbered parameters

The part of a query after its table: conditions joined by `AND`, an order and a
limit.  Values stand apart from the text and are named in it by their number.  The
text is read into a statement, and the statement is run on rows.
-/

namespace AiGateway.Where

set_option autoImplicit false

open AiGateway.IntText

/-! ## Tokens -/

inductive Token where
  | word (text : List Char)
  | mark (c : Char)
  deriving DecidableEq

def isWordChar (c : Char) : Bool := c.isAlphanum || c = '_' || c = '$'

/-- The tokens of a text of which the first word and what follows it are known. -/
def flush (s : List Char × List Token) : List Token :=
  if s.1.isEmpty then s.2 else .word s.1 :: s.2

def lexStep (c : Char) (s : List Char × List Token) : List Char × List Token :=
  if isWordChar c then (c :: s.1, s.2)
  else ([], if c = ' ' then flush s else .mark c :: flush s)

def lexed (text : List Char) : List Char × List Token := text.foldr lexStep ([], [])

def lex (text : List Char) : List Token := flush (lexed text)

/-- No word of the text before goes on in this one. -/
def Apart (text : List Char) : Prop := (lexed text).1 = []

theorem lexed_word {word : List Char} (hWord : word.all isWordChar = true)
    (rest : List Char) : lexed (word ++ rest) = (word ++ (lexed rest).1, (lexed rest).2) := by
  induction word with
  | nil => rfl
  | cons c word ih =>
    rw [List.all_cons, Bool.and_eq_true] at hWord
    have hRest := ih hWord.2
    rw [lexed] at hRest
    rw [List.cons_append, lexed, List.foldr_cons, hRest, lexStep, if_pos hWord.1]
    rfl

theorem lexed_cons {c : Char} (h : isWordChar c = false) (rest : List Char) :
    lexed (c :: rest) = ([], if c = ' ' then lex rest else .mark c :: lex rest) := by
  rw [lexed, List.foldr_cons, lexStep, h, if_neg (by decide), lex, lexed]

theorem apart_nil : Apart [] := rfl

theorem apart_cons {c : Char} (h : isWordChar c = false) (rest : List Char) :
    Apart (c :: rest) := by
  rw [Apart, lexed_cons h]

theorem lex_word {word : List Char} (hWord : word.all isWordChar = true) (hSome : word ≠ [])
    {rest : List Char} (hRest : Apart rest) : lex (word ++ rest) = .word word :: lex rest := by
  have hNone : word.isEmpty = false := List.isEmpty_eq_false_iff.mpr hSome
  rw [lex, lexed_word hWord, hRest, List.append_nil, flush, hNone, if_neg (by decide), lex, flush,
    hRest]
  rfl

theorem lex_space (rest : List Char) : lex (' ' :: rest) = lex rest := by
  rw [lex, lexed_cons (by decide), if_pos rfl]
  rfl

theorem lex_mark {c : Char} (hWord : isWordChar c = false) (hSpace : c ≠ ' ') (rest : List Char) :
    lex (c :: rest) = .mark c :: lex rest := by
  rw [lex, lexed_cons hWord, if_neg hSpace]
  rfl

/-! ## Statements -/

inductive Comparison where
  | eq
  | lt
  | ge
  deriving DecidableEq

inductive Condition where
  | compare (column : List Char) (by_ : Comparison) (parameter : Nat)
  /-- A row of columns before a row of parameters. -/
  | before (columns : List (List Char)) (parameters : List Nat)
  deriving DecidableEq

structure Statement where
  conditions : List Condition
  /-- The columns it is ordered by, each descending. -/
  order : List (List Char)
  limit : Nat
  deriving DecidableEq

def Condition.parameters : Condition → List Nat
  | .compare _ _ parameter => [parameter]
  | .before _ parameters => parameters

def Statement.parameters (s : Statement) : List Nat :=
  s.conditions.flatMap Condition.parameters ++ [s.limit]

/-! ## Reading -/

abbrev Reader (α : Type) := List Token → Option (α × List Token)

def expect (token : Token) : Reader Unit
  | [] => none
  | first :: rest => if first = token then some ((), rest) else none

def readColumn : Reader (List Char)
  | .word text :: rest => some (text, rest)
  | _ => none

def readParameter : Reader Nat
  | .word ('$' :: digits) :: rest => (readDigits digits).map fun n => (n, rest)
  | _ => none

def readComparison : Reader Comparison
  | .mark '=' :: rest => some (.eq, rest)
  | .mark '<' :: rest => some (.lt, rest)
  | .mark '>' :: .mark '=' :: rest => some (.ge, rest)
  | _ => none

section Separated

variable {α : Type}

/-- One item or more. -/
def sepBy (sep : Token) (item : Reader α) : Nat → Reader (List α)
  | 0, _ => none
  | fuel + 1, tokens => do
    let (a, rest) ← item tokens
    match expect sep rest with
    | none => some ([a], rest)
    | some (_, rest) => do
      let (more, rest) ← sepBy sep item fuel rest
      some (a :: more, rest)

/-- What `sepBy` reads. -/
def separated (sep : Token) (write : α → List Token) (items : List α) : List Token :=
  [sep].intercalate (items.map write)

theorem sepBy_separated {sep : Token} {item : Reader α} {write : α → List Token} {items : List α}
    (hItem : ∀ a ∈ items, ∀ rest, item (write a ++ rest) = some (a, rest)) (hSome : items ≠ [])
    {fuel : Nat} (hFuel : items.length ≤ fuel) {rest : List Token}
    (hRest : expect sep rest = none) :
    sepBy sep item fuel (separated sep write items ++ rest) = some (items, rest) := by
  induction items generalizing fuel with
  | nil => exact absurd rfl hSome
  | cons a more ih =>
    rw [List.forall_mem_cons] at hItem
    obtain ⟨hFirst, hMore⟩ := hItem
    cases fuel with
    | zero => cases hFuel
    | succ fuel =>
      rw [List.length_cons, Nat.add_le_add_iff_right] at hFuel
      cases more with
      | nil =>
        have hOne : separated sep write [a] = write a := List.intercalate_singleton
        rw [hOne, sepBy, hFirst]
        simp only [Option.bind_eq_bind, Option.bind_some, hRest]
      | cons b more =>
        have hTwo : separated sep write (a :: b :: more) ++ rest =
            write a ++ (sep :: (separated sep write (b :: more) ++ rest)) := by
          simp only [separated, List.map_cons, List.intercalate_cons_cons, List.append_assoc,
            List.cons_append, List.nil_append]
        have hRead := ih hMore (List.cons_ne_nil b more) hFuel
        rw [hTwo, sepBy, hFirst]
        simp only [Option.bind_eq_bind, Option.bind_some, expect, if_true, hRead]

theorem length_le_separated {sep : Token} {write : α → List Token} {items : List α}
    (hWrite : ∀ a ∈ items, write a ≠ []) :
    items.length ≤ (separated sep write items).length := by
  induction items with
  | nil => exact Nat.zero_le _
  | cons a more ih =>
    rw [List.forall_mem_cons] at hWrite
    have hFirst := List.length_pos_iff.mpr hWrite.1
    have hMore := ih hWrite.2
    cases more with
    | nil =>
      rw [separated, List.map_cons, List.map_nil, List.intercalate_singleton]
      exact hFirst
    | cons b more =>
      rw [separated, List.map_cons] at hMore
      rw [separated, List.map_cons, List.map_cons, List.intercalate_cons_cons, List.length_append,
        List.length_append]
      simp only [List.length_cons, List.length_nil] at hMore ⊢
      omega

/-- The fuel is the length of what is read. -/
def readList (sep : Token) (item : Reader α) : Reader (List α) := fun tokens =>
  sepBy sep item tokens.length tokens

theorem readList_separated {sep : Token} {item : Reader α} {write : α → List Token}
    {items : List α} (hItem : ∀ a ∈ items, ∀ rest, item (write a ++ rest) = some (a, rest))
    (hWrite : ∀ a ∈ items, write a ≠ []) (hSome : items ≠ []) {rest : List Token}
    (hRest : expect sep rest = none) :
    readList sep item (separated sep write items ++ rest) = some (items, rest) := by
  refine sepBy_separated hItem hSome ?_ hRest
  rw [List.length_append]
  exact (length_le_separated hWrite).trans (Nat.le_add_right _ _)

end Separated

def wordToken (text : String) : Token := .word text.toList

def readBefore (tokens : List Token) : Option (Condition × List Token) := do
  let (columns, tokens) ← readList (.mark ',') readColumn tokens
  let (_, tokens) ← expect (.mark ')') tokens
  let (_, tokens) ← expect (.mark '<') tokens
  let (_, tokens) ← expect (.mark '(') tokens
  let (parameters, tokens) ← readList (.mark ',') readParameter tokens
  let (_, tokens) ← expect (.mark ')') tokens
  some (.before columns parameters, tokens)

def readCompare (tokens : List Token) : Option (Condition × List Token) := do
  let (column, tokens) ← readColumn tokens
  let (comparison, tokens) ← readComparison tokens
  let (parameter, tokens) ← readParameter tokens
  some (.compare column comparison parameter, tokens)

def readCondition : Reader Condition := fun tokens =>
  match expect (.mark '(') tokens with
  | some (_, tokens) => readBefore tokens
  | none => readCompare tokens

def readWhere : Reader (List Condition) := fun tokens =>
  match expect (wordToken "WHERE") tokens with
  | some (_, tokens) => readList (wordToken "AND") readCondition tokens
  | none => some ([], tokens)

def readDescending : Reader (List Char) := fun tokens => do
  let (column, tokens) ← readColumn tokens
  let (_, tokens) ← expect (wordToken "DESC") tokens
  some (column, tokens)

def readStatement (tokens : List Token) : Option Statement := do
  let (conditions, tokens) ← readWhere tokens
  let (_, tokens) ← expect (wordToken "ORDER") tokens
  let (_, tokens) ← expect (wordToken "BY") tokens
  let (order, tokens) ← readList (.mark ',') readDescending tokens
  let (_, tokens) ← expect (wordToken "LIMIT") tokens
  let (limit, tokens) ← readParameter tokens
  if tokens.isEmpty then some { conditions, order, limit } else none

/-! ## Writing -/

def Comparison.tokens : Comparison → List Token
  | .eq => [.mark '=']
  | .lt => [.mark '<']
  | .ge => [.mark '>', .mark '=']

def parameterToken (parameter : Nat) : Token := .word ('$' :: digitsOf parameter)

def Condition.tokens : Condition → List Token
  | .compare column comparison parameter =>
    .word column :: (comparison.tokens ++ [parameterToken parameter])
  | .before columns parameters =>
    .mark '(' :: (separated (.mark ',') (fun column => [.word column]) columns ++
      .mark ')' :: .mark '<' :: .mark '(' ::
        (separated (.mark ',') (fun parameter => [parameterToken parameter]) parameters ++
          [.mark ')']))

def whereTokens (conditions : List Condition) : List Token :=
  if conditions.isEmpty then []
  else wordToken "WHERE" :: separated (wordToken "AND") Condition.tokens conditions

def Statement.tokens (s : Statement) : List Token :=
  whereTokens s.conditions ++ wordToken "ORDER" :: wordToken "BY" ::
    (separated (.mark ',') (fun column => [.word column, wordToken "DESC"]) s.order ++
      [wordToken "LIMIT", parameterToken s.limit])

/-- A list in the text has something in it. -/
def Condition.Written : Condition → Prop
  | .compare _ _ _ => True
  | .before columns parameters => columns ≠ [] ∧ parameters ≠ []

theorem expect_cons (token : Token) (rest : List Token) :
    expect token (token :: rest) = some ((), rest) := if_pos rfl

theorem expect_cons_of_ne {token first : Token} (h : first ≠ token) (rest : List Token) :
    expect token (first :: rest) = none := if_neg h

theorem readParameter_token (parameter : Nat) (rest : List Token) :
    readParameter (parameterToken parameter :: rest) = some (parameter, rest) := by
  rw [parameterToken, readParameter, readDigits_digitsOf, Option.map_some]

theorem readComparison_tokens (comparison : Comparison) (rest : List Token) :
    readComparison (comparison.tokens ++ rest) = some (comparison, rest) := by
  cases comparison <;> rfl

theorem readCondition_tokens {condition : Condition} (h : condition.Written) (rest : List Token) :
    readCondition (condition.tokens ++ rest) = some (condition, rest) := by
  cases condition with
  | compare column comparison parameter =>
    have hNone : expect (.mark '(') (Condition.tokens (.compare column comparison parameter) ++
        rest) = none := expect_cons_of_ne (by intro h; cases h) _
    have hColumn : readColumn (Condition.tokens (.compare column comparison parameter) ++ rest) =
        some (column, comparison.tokens ++ parameterToken parameter :: rest) := by
      rw [Condition.tokens, List.cons_append, List.append_assoc]
      rfl
    simp only [readCondition, hNone, readCompare, hColumn, Option.bind_eq_bind, Option.bind_some,
      readComparison_tokens, readParameter_token]
  | before columns parameters =>
    have hText : Condition.tokens (.before columns parameters) ++ rest =
        .mark '(' :: (separated (.mark ',') (fun column => [.word column]) columns ++
          .mark ')' :: .mark '<' :: .mark '(' ::
            (separated (.mark ',') (fun parameter => [parameterToken parameter]) parameters ++
              .mark ')' :: rest)) := by
      simp only [Condition.tokens, List.cons_append, List.append_assoc, List.nil_append]
    have hColumns : ∀ rest, readList (.mark ',') readColumn
        (separated (.mark ',') (fun column => [.word column]) columns ++ .mark ')' :: rest) =
          some (columns, .mark ')' :: rest) := fun rest =>
      readList_separated (fun _ _ _ => rfl) (fun _ _ => List.cons_ne_nil _ _) h.1
        (expect_cons_of_ne (by decide) _)
    have hParameters : ∀ rest, readList (.mark ',') readParameter
        (separated (.mark ',') (fun parameter => [parameterToken parameter]) parameters ++
          .mark ')' :: rest) = some (parameters, .mark ')' :: rest) := fun rest =>
      readList_separated (fun _ _ _ => readParameter_token _ _) (fun _ _ => List.cons_ne_nil _ _)
        h.2 (expect_cons_of_ne (by decide) _)
    simp only [readCondition, hText, expect_cons, readBefore, hColumns, hParameters,
      Option.bind_eq_bind, Option.bind_some]

theorem Condition.tokens_ne_nil (condition : Condition) : condition.tokens ≠ [] := by
  cases condition <;> exact List.cons_ne_nil _ _

theorem readWhere_tokens {conditions : List Condition}
    (h : ∀ condition ∈ conditions, condition.Written) {rest : List Token}
    (hWhere : expect (wordToken "WHERE") rest = none)
    (hAnd : expect (wordToken "AND") rest = none) :
    readWhere (whereTokens conditions ++ rest) = some (conditions, rest) := by
  cases hEmpty : conditions.isEmpty with
  | true =>
    obtain rfl := List.isEmpty_iff.mp hEmpty
    have hNone : whereTokens [] ++ rest = rest := rfl
    simp only [readWhere, hNone, hWhere]
  | false =>
    have hSome : conditions ≠ [] := List.isEmpty_eq_false_iff.mp hEmpty
    have hRead := readList_separated (fun condition hMem => readCondition_tokens (h condition hMem))
      (fun condition _ => condition.tokens_ne_nil) hSome hAnd
    rw [whereTokens, hEmpty, if_neg (by decide), List.cons_append]
    simp only [readWhere, expect_cons, hRead]

/-- What is written is read back. -/
theorem readStatement_tokens {s : Statement} (hConditions : ∀ c ∈ s.conditions, c.Written)
    (hOrder : s.order ≠ []) : readStatement s.tokens = some s := by
  have hWhere : ∀ rest, readWhere (whereTokens s.conditions ++ wordToken "ORDER" :: rest) =
      some (s.conditions, wordToken "ORDER" :: rest) := fun rest =>
    readWhere_tokens hConditions (expect_cons_of_ne (by decide) _)
      (expect_cons_of_ne (by decide) _)
  have hKey : ∀ column ∈ s.order, ∀ rest,
      readDescending ([.word column, wordToken "DESC"] ++ rest) = some (column, rest) := by
    intro column hColumn rest
    rfl
  have hRest : ∀ rest, expect (.mark ',') (wordToken "LIMIT" :: rest) = none := fun rest =>
    expect_cons_of_ne (by intro h; cases h) rest
  have hKeys : ∀ rest, readList (.mark ',') readDescending
      (separated (.mark ',') (fun column => [.word column, wordToken "DESC"]) s.order ++
        wordToken "LIMIT" :: rest) = some (s.order, wordToken "LIMIT" :: rest) := fun rest =>
    readList_separated hKey (fun _ _ => List.cons_ne_nil _ _) hOrder (hRest rest)
  simp only [readStatement, Statement.tokens, hWhere, Option.bind_eq_bind, Option.bind_some,
    expect_cons, hKeys, readParameter_token, List.isEmpty_nil, if_true]

/-! ## Text -/

def commaText : List Char := ", ".toList

def Comparison.text : Comparison → List Char
  | .eq => "=".toList
  | .lt => "<".toList
  | .ge => ">=".toList

def parameterText (parameter : Nat) : List Char := '$' :: digitsOf parameter

def Condition.text : Condition → List Char
  | .compare column comparison parameter =>
    column ++ " ".toList ++ comparison.text ++ " ".toList ++ parameterText parameter
  | .before columns parameters =>
    "(".toList ++ commaText.intercalate columns ++ ") < (".toList ++
      commaText.intercalate (parameters.map parameterText) ++ ")".toList

def whereText (conditions : List Condition) : List Char :=
  if conditions.isEmpty then []
  else "WHERE ".toList ++ " AND ".toList.intercalate (conditions.map Condition.text)

def Statement.text (s : Statement) : List Char :=
  " ".toList ++ whereText s.conditions ++ " ORDER BY ".toList ++
    commaText.intercalate (s.order.map fun column => column ++ " DESC".toList) ++
      " LIMIT ".toList ++ parameterText s.limit

theorem intercalate_concat {α : Type} {sep l : List α} {ls : List (List α)} (h : ls ≠ []) :
    sep.intercalate (ls ++ [l]) = sep.intercalate ls ++ sep ++ l := by
  induction ls with
  | nil => exact absurd rfl h
  | cons first rest ih =>
    cases rest with
    | nil => simp only [List.cons_append, List.nil_append, List.intercalate_cons_cons,
        List.intercalate_singleton]
    | cons second rest =>
      have hRest := ih (List.cons_ne_nil _ _)
      rw [List.cons_append] at hRest
      simp only [List.cons_append, List.intercalate_cons_cons, hRest, List.append_assoc]

theorem whereText_singleton (condition : Condition) :
    whereText [condition] = "WHERE ".toList ++ condition.text := by
  rw [whereText, List.isEmpty_cons, if_neg (by decide), List.map_singleton,
    List.intercalate_singleton]

theorem whereText_concat {conditions : List Condition} (h : conditions ≠ [])
    (condition : Condition) : whereText (conditions ++ [condition]) =
      whereText conditions ++ " AND ".toList ++ condition.text := by
  have hSome : conditions.isEmpty = false := List.isEmpty_eq_false_iff.mpr h
  have hMore : (conditions ++ [condition]).isEmpty = false :=
    List.isEmpty_eq_false_iff.mpr (List.append_ne_nil_of_left_ne_nil h _)
  have hTexts : conditions.map Condition.text ≠ [] := mt List.map_eq_nil_iff.mp h
  rw [whereText, whereText, hSome, hMore, if_neg (by decide), if_neg (by decide), List.map_append,
    List.map_singleton, intercalate_concat hTexts]
  simp only [List.append_assoc]

/-- A name of a column. -/
def Named (column : List Char) : Prop := column ≠ [] ∧ column.all isWordChar = true

def Condition.Named : Condition → Prop
  | .compare column _ _ => Where.Named column
  | .before columns _ => ∀ column ∈ columns, Where.Named column

/-- A text that stands for tokens wherever a word ends after it. -/
def Stands (text : List Char) (tokens : List Token) : Prop :=
  ∀ rest, Apart rest → lex (text ++ rest) = tokens ++ lex rest

theorem stands_word {word : List Char} (h : Named word) : Stands word [.word word] :=
  fun _ hRest => lex_word h.2 h.1 hRest

theorem stands_parameter (parameter : Nat) :
    Stands (parameterText parameter) [parameterToken parameter] := by
  refine stands_word ⟨List.cons_ne_nil _ _, List.all_eq_true.mpr ?_⟩
  refine List.forall_mem_cons.mpr ⟨by decide, ?_⟩
  intro c hc
  have hDigit := isDigit_digitsOf c hc
  rw [isWordChar, Char.isAlphanum, hDigit, Bool.or_true]
  rfl

theorem lex_comparison (comparison : Comparison) (rest : List Char) :
    lex (" ".toList ++ comparison.text ++ " ".toList ++ rest) = comparison.tokens ++ lex rest := by
  cases comparison with
  | eq =>
    change lex (' ' :: '=' :: ' ' :: rest) = _
    rw [lex_space, lex_mark (by decide) (by decide), lex_space]
    rfl
  | lt =>
    change lex (' ' :: '<' :: ' ' :: rest) = _
    rw [lex_space, lex_mark (by decide) (by decide), lex_space]
    rfl
  | ge =>
    change lex (' ' :: '>' :: '=' :: ' ' :: rest) = _
    rw [lex_space, lex_mark (by decide) (by decide), lex_mark (by decide) (by decide), lex_space]
    rfl

theorem stands_separated {α : Type} {sepText : List Char} {sep : Token}
    {write : α → List Char} {tokens : α → List Token} {items : List α}
    (hItem : ∀ a ∈ items, Stands (write a) (tokens a))
    (hApart : ∀ rest, Apart (sepText ++ rest))
    (hSep : ∀ rest, lex (sepText ++ rest) = sep :: lex rest) :
    Stands (sepText.intercalate (items.map write)) (separated sep tokens items) := by
  induction items with
  | nil =>
    intro rest hRest
    rfl
  | cons a more ih =>
    rw [List.forall_mem_cons] at hItem
    intro rest hRest
    cases more with
    | nil =>
      rw [separated, List.map_cons, List.map_nil, List.map_cons, List.map_nil,
        List.intercalate_singleton, List.intercalate_singleton]
      exact hItem.1 rest hRest
    | cons b more =>
      have hMore := ih hItem.2 rest hRest
      rw [separated] at hMore ⊢
      simp only [List.map_cons, List.intercalate_cons_cons, List.append_assoc, List.cons_append,
        List.nil_append] at hMore ⊢
      rw [hItem.1 _ (hApart _), hSep, hMore]

theorem lex_comma (rest : List Char) : lex (commaText ++ rest) = .mark ',' :: lex rest := by
  change lex (',' :: ' ' :: rest) = _
  rw [lex_mark (by decide) (by decide), lex_space]

theorem apart_comma (rest : List Char) : Apart (commaText ++ rest) := apart_cons (by decide) _

theorem stands_condition {condition : Condition} (h : condition.Named) :
    Stands condition.text condition.tokens := by
  intro rest hRest
  cases condition with
  | compare column comparison parameter =>
    have hText : Condition.text (.compare column comparison parameter) ++ rest =
        column ++ (" ".toList ++ comparison.text ++ " ".toList ++
          (parameterText parameter ++ rest)) := by
      simp only [Condition.text, List.append_assoc]
    have hApart : Apart (" ".toList ++ comparison.text ++ " ".toList ++
        (parameterText parameter ++ rest)) := apart_cons (by decide) _
    rw [hText, stands_word h _ hApart, lex_comparison, stands_parameter parameter rest hRest,
      Condition.tokens]
    simp only [List.cons_append, List.nil_append, List.append_assoc]
  | before columns parameters =>
    have hColumns : Stands (commaText.intercalate columns)
        (separated (.mark ',') (fun column => [.word column]) columns) := by
      have hEach := stands_separated (fun column hMem => stands_word (h column hMem)) apart_comma
        lex_comma
      rwa [List.map_id'] at hEach
    have hParameters : Stands (commaText.intercalate (parameters.map parameterText))
        (separated (.mark ',') (fun parameter => [parameterToken parameter]) parameters) :=
      stands_separated (fun parameter _ => stands_parameter parameter) apart_comma lex_comma
    have hText : Condition.text (.before columns parameters) ++ rest =
        '(' :: (commaText.intercalate columns ++ ')' :: ' ' :: '<' :: ' ' :: '(' ::
          (commaText.intercalate (parameters.map parameterText) ++ ')' :: rest)) := by
      rw [Condition.text, List.append_assoc, List.append_assoc, List.append_assoc,
        List.append_assoc]
      rfl
    rw [hText, lex_mark (by decide) (by decide), hColumns _ (apart_cons (by decide) _),
      lex_mark (by decide) (by decide), lex_space, lex_mark (by decide) (by decide), lex_space,
      lex_mark (by decide) (by decide), hParameters _ (apart_cons (by decide) _),
      lex_mark (by decide) (by decide), Condition.tokens]
    simp only [List.cons_append, List.nil_append, List.append_assoc]

/-- A keyword between spaces. -/
theorem lex_keyword {word : List Char} (h : Named word) (rest : List Char) :
    lex (' ' :: (word ++ ' ' :: rest)) = .word word :: lex rest := by
  rw [lex_space, lex_word h.2 h.1 (apart_cons (by decide) _), lex_space]

theorem lex_where {conditions : List Condition} (h : ∀ c ∈ conditions, c.Named)
    {rest : List Char} (hRest : Apart rest) :
    lex (whereText conditions ++ rest) = whereTokens conditions ++ lex rest := by
  have hAndWord : Named "AND".toList := ⟨by decide, by decide⟩
  have hWhereWord : Named "WHERE".toList := ⟨by decide, by decide⟩
  have hAnd : ∀ rest, lex (" AND ".toList ++ rest) = wordToken "AND" :: lex rest :=
    lex_keyword hAndWord
  have hEach := stands_separated (fun c hMem => stands_condition (h c hMem))
    (fun rest => apart_cons (c := ' ') (by decide) _) hAnd
  rw [whereText, whereTokens]
  split
  · rfl
  · have hWhere : ∀ rest, lex ("WHERE ".toList ++ rest) = wordToken "WHERE" :: lex rest := by
      intro rest
      have hWord := lex_keyword hWhereWord rest
      rw [lex_space] at hWord
      exact hWord
    rw [List.append_assoc, hWhere, hEach rest hRest, List.cons_append]

theorem lex_statement {s : Statement} (hConditions : ∀ c ∈ s.conditions, c.Named)
    (hOrder : ∀ column ∈ s.order, Named column) : lex s.text = s.tokens := by
  have hKey : ∀ column ∈ s.order,
      Stands (column ++ " DESC".toList) [.word column, wordToken "DESC"] := by
    intro column hColumn rest hRest
    have hDesc : lex ("DESC".toList ++ rest) = wordToken "DESC" :: lex rest :=
      lex_word (by decide) (by decide) hRest
    have hApart : Apart (" DESC".toList ++ rest) := apart_cons (c := ' ') (by decide) _
    have hSpace : lex (" DESC".toList ++ rest) = lex ("DESC".toList ++ rest) := lex_space _
    rw [List.append_assoc, stands_word (hOrder column hColumn) _ hApart, hSpace, hDesc]
    rfl
  have hKeys := stands_separated hKey apart_comma lex_comma
  have hText : s.text = ' ' :: (whereText s.conditions ++ ' ' :: ("ORDER".toList ++ ' ' ::
      ("BY".toList ++ ' ' ::
        (commaText.intercalate (s.order.map fun column => column ++ " DESC".toList) ++
          ' ' :: ("LIMIT".toList ++ ' ' :: (parameterText s.limit ++ [])))))) := by
    rw [Statement.text, List.append_nil]
    simp only [List.append_assoc]
    rfl
  have hBy : ∀ rest, lex ("BY".toList ++ ' ' :: rest) = wordToken "BY" :: lex rest := by
    intro rest
    rw [lex_word (by decide) (by decide) (apart_cons (by decide) _), lex_space]
    rfl
  rw [hText, lex_space, lex_where hConditions (apart_cons (by decide) _),
    lex_keyword ⟨by decide, by decide⟩, hBy, hKeys _ (apart_cons (by decide) _),
    lex_keyword ⟨by decide, by decide⟩, stands_parameter s.limit [] apart_nil, Statement.tokens]
  rfl

/-- The text of a statement is read as the statement. -/
theorem readStatement_text {s : Statement} (hNamed : ∀ c ∈ s.conditions, c.Named)
    (hWritten : ∀ c ∈ s.conditions, c.Written) (hColumns : ∀ column ∈ s.order, Named column)
    (hOrder : s.order ≠ []) : readStatement (lex s.text) = some s := by
  rw [lex_statement hNamed hColumns, readStatement_tokens hWritten hOrder]

/-! ## Running -/

section Run

-- `compare` has no answer for values of two types, and `column` none for a null.
variable {V α : Type} (compare : V → V → Option Ordering) (column : List Char → α → Option V)

/-- Parameters are counted from one. -/
def bound (binds : List V) : Nat → Option V
  | 0 => none
  | n + 1 => binds[n]?

def Comparison.holds : Comparison → Ordering → Bool
  | .eq, order => order = .eq
  | .lt, order => order = .lt
  | .ge, order => order ≠ .lt

/-- Whether a comparison is known to hold. -/
def compares (by_ : Comparison) (a b : Option V) : Bool :=
  match a, b with
  | some a, some b => (compare a b).any by_.holds
  | _, _ => false

/-- Rows of values compare by the first two that differ. -/
def lexBefore : List (Option V) → List (Option V) → Bool
  | some a :: as, some b :: bs =>
    match compare a b with
    | some .lt => true
    | some .eq => lexBefore as bs
    | _ => false
  | _, _ => false

def Condition.test (binds : List V) (row : α) : Condition → Bool
  | .compare name by_ parameter => compares compare by_ (column name row) (bound binds parameter)
  | .before names parameters =>
    lexBefore compare (names.map fun name => column name row) (parameters.map (bound binds))

/-- A row is selected when all conditions are known to hold of it. -/
def selects (conditions : List Condition) (binds : List V) (row : α) : Bool :=
  conditions.all (Condition.test compare column binds row)

def sort (order : List (List Char)) (rows : List α) : List α :=
  rows.insertionSort fun a b =>
    !lexBefore compare (order.map fun name => column name a) (order.map fun name => column name b)

/-- The limit is a count. -/
def Statement.run (count : V → Option Nat) (s : Statement) (binds : List V) (rows : List α) :
    Option (List α) :=
  ((bound binds s.limit).bind count).map fun limit =>
    (sort compare column s.order (rows.filter (selects compare column s.conditions binds))).take
      limit

end Run

/-! ## Building -/

/-- Conditions and the values they name, each value named once and in order. -/
structure Numbered (V : Type) where
  conditions : List Condition
  binds : List V
  numbered : conditions.flatMap Condition.parameters = List.range' 1 binds.length

namespace Numbered

variable {V α : Type}

def empty : Numbered V := ⟨[], [], rfl⟩

theorem numbered_append {conditions : List Condition} {n : Nat}
    (h : conditions.flatMap Condition.parameters = List.range' 1 n) {condition : Condition} {k : Nat}
    (hNew : condition.parameters = List.range' (n + 1) k) :
    (conditions ++ [condition]).flatMap Condition.parameters = List.range' 1 (n + k) := by
  rw [List.flatMap_append, h, List.flatMap_cons, List.flatMap_nil, List.append_nil, hNew,
    ← List.range'_append_1, Nat.add_comm n 1]

def add (b : Numbered V) (column : List Char) (by_ : Comparison) (value : V) : Numbered V where
  conditions := b.conditions ++ [.compare column by_ (b.binds.length + 1)]
  binds := b.binds ++ [value]
  numbered := by
    rw [List.length_append]
    exact numbered_append b.numbered rfl

/-- A parameter that is not given adds nothing. -/
def add? (b : Numbered V) (column : List Char) (by_ : Comparison) (value : Option V) :
    Numbered V :=
  value.elim b (b.add column by_)

def addBefore (b : Numbered V) (columns : List (List Char)) (values : List V) : Numbered V where
  conditions :=
    b.conditions ++ [.before columns (List.range' (b.binds.length + 1) values.length)]
  binds := b.binds ++ values
  numbered := by
    rw [List.length_append]
    exact numbered_append b.numbered rfl

section Kept

variable {P : Condition → Prop}

theorem forall_add? {b : Numbered V} (h : ∀ c ∈ b.conditions, P c) {column : List Char}
    {by_ : Comparison} (hNew : ∀ parameter, P (.compare column by_ parameter))
    (value : Option V) : ∀ c ∈ (b.add? column by_ value).conditions, P c := by
  cases value with
  | none => exact h
  | some value => exact List.forall_mem_append.mpr ⟨h, List.forall_mem_singleton.mpr (hNew _)⟩

end Kept

section Selected

variable {compare : V → V → Option Ordering} {column : List Char → α → Option V}

theorem bound_append {binds more : List V} {parameter : Nat} (h : parameter ≤ binds.length) :
    bound (binds ++ more) parameter = bound binds parameter := by
  cases parameter with
  | zero => rfl
  | succ n => exact List.getElem?_append_left h

theorem test_congr {condition : Condition} {binds binds' : List V}
    (h : ∀ parameter ∈ condition.parameters, bound binds' parameter = bound binds parameter)
    (row : α) : condition.test compare column binds' row = condition.test compare column binds row := by
  cases condition with
  | compare name by_ parameter =>
    rw [Condition.test, h parameter (List.mem_singleton_self _), Condition.test]
  | before names parameters =>
    have hBounds : parameters.map (bound binds') = parameters.map (bound binds) :=
      List.map_congr_left h
    rw [Condition.test, hBounds, Condition.test]

/-- Values that come later mean nothing to the conditions before them. -/
theorem selects_append (b : Numbered V) (more : List V) (row : α) :
    selects compare column b.conditions (b.binds ++ more) row =
      selects compare column b.conditions b.binds row := by
  rw [selects, selects, Bool.eq_iff_iff, List.all_eq_true, List.all_eq_true]
  refine forall₂_congr fun condition hCondition => ?_
  rw [test_congr fun parameter hParameter => ?_]
  have hMem : parameter ∈ b.conditions.flatMap Condition.parameters :=
    List.mem_flatMap.mpr ⟨condition, hCondition, hParameter⟩
  rw [b.numbered, List.mem_range'_1] at hMem
  exact bound_append (by omega)

theorem selects_add (b : Numbered V) (name : List Char) (by_ : Comparison) (value : V) (row : α) :
    selects compare column (b.add name by_ value).conditions (b.add name by_ value).binds row =
      (selects compare column b.conditions b.binds row &&
        compares compare by_ (column name row) (some value)) := by
  have hValue : bound (b.binds ++ [value]) (b.binds.length + 1) = some value := by
    rw [bound, List.getElem?_append_right le_rfl, Nat.sub_self]
    rfl
  rw [add, ← selects_append b [value], selects, List.all_append, List.all_cons, List.all_nil,
    Bool.and_true, Condition.test, hValue, selects]

theorem selects_add? (b : Numbered V) (name : List Char) (by_ : Comparison) (value : Option V)
    (row : α) :
    selects compare column (b.add? name by_ value).conditions (b.add? name by_ value).binds row =
      (selects compare column b.conditions b.binds row &&
        value.all fun value => compares compare by_ (column name row) (some value)) := by
  cases value with
  | none => exact (Bool.and_true _).symm
  | some value => exact selects_add b name by_ value row

theorem map_bound_range' (binds values : List V) :
    (List.range' (binds.length + 1) values.length).map (bound (binds ++ values)) =
      values.map some := by
  apply List.ext_getElem
  · rw [List.length_map, List.length_range', List.length_map]
  · intro n hLeft hRight
    rw [List.length_map] at hRight
    have hBound : bound (binds ++ values) (binds.length + 1 + n) = some values[n] := by
      have hIndex : binds.length + 1 + n = (binds.length + n) + 1 := by omega
      rw [hIndex, bound, List.getElem?_append_right (Nat.le_add_right _ _),
        Nat.add_sub_cancel_left, List.getElem?_eq_getElem hRight]
    rw [List.getElem_map, List.getElem_range', Nat.one_mul, hBound, List.getElem_map]

theorem selects_addBefore (b : Numbered V) (names : List (List Char)) (values : List V) (row : α) :
    selects compare column (b.addBefore names values).conditions (b.addBefore names values).binds
        row =
      (selects compare column b.conditions b.binds row &&
        lexBefore compare (names.map fun name => column name row) (values.map some)) := by
  rw [addBefore, ← selects_append b values, selects, List.all_append, List.all_cons, List.all_nil,
    Bool.and_true, Condition.test, map_bound_range', selects]

end Selected

/-! The statement that limits the rows by one more value. -/

def limited (b : Numbered V) (order : List (List Char)) : Statement where
  conditions := b.conditions
  order := order
  limit := b.binds.length + 1

/-- Every parameter of the text has its value, and every value its parameter. -/
theorem limited_parameters (b : Numbered V) (order : List (List Char)) (value : V) :
    (b.limited order).parameters = List.range' 1 (b.binds ++ [value]).length := by
  rw [Statement.parameters, limited, b.numbered, List.length_append, ← List.range'_append_1,
    Nat.add_comm _ 1]
  rfl

theorem limited_run {compare : V → V → Option Ordering} {column : List Char → α → Option V}
    {count : V → Option Nat} (b : Numbered V) (order : List (List Char)) {value : V} {n : Nat}
    (hCount : count value = some n) (rows : List α) :
    (b.limited order).run compare column count (b.binds ++ [value]) rows =
      some ((sort compare column order
        (rows.filter (selects compare column b.conditions b.binds))).take n) := by
  have hValue : bound (b.binds ++ [value]) (b.binds.length + 1) = some value := by
    rw [bound, List.getElem?_append_right le_rfl, Nat.sub_self]
    rfl
  have hSelects : selects compare column b.conditions (b.binds ++ [value]) =
      selects compare column b.conditions b.binds := funext (selects_append b [value])
  rw [Statement.run, limited, hValue, Option.bind_some, hCount, Option.map_some, hSelects]

end Numbered

end AiGateway.Where
