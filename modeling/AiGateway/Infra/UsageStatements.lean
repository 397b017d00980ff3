import AiGateway.Base.Where
import AiGateway.Infra.UsagePages

/-!
# The statements of the usage listing

A filter becomes the text of a `WHERE` clause and the values for it.  Read as a
statement and run with the values, the text selects what the filter selects.
-/

namespace AiGateway.Listing

set_option autoImplicit false

open AiGateway.Health AiGateway.IntText AiGateway.Keyset AiGateway.Migrations AiGateway.Where

inductive FilterBind where
  | time (value : DateTime)
  | text (value : String)
  | i64 (value : Int)
  | i32 (value : Int)
  | bool (value : Bool)
  deriving DecidableEq

/-! ## The texts -/

/-- A clause on the next number, with its value. -/
def clause (column comparison : String) (bind : Option FilterBind)
    (s : List String × List FilterBind) : List String × List FilterBind :=
  match bind with
  | none => s
  | some value =>
    (s.1 ++ [column ++ " " ++ comparison ++ " $" ++ toString (s.2.length + 1)], s.2 ++ [value])

def textColumns (filter : UsageFilter) : List (String × Option String) :=
  [("logical_model", filter.logicalModel), ("upstream_model_id", filter.upstreamModelId),
    ("provider_id", filter.providerId), ("source_id", filter.sourceId),
    ("client_source", filter.clientSource), ("account_id", filter.accountId),
    ("protocol_in", filter.protocolIn), ("protocol_upstream", filter.protocolUpstream),
    ("usage_source", filter.usageSource)]

def filterClauses (filter : UsageFilter) : List String × List FilterBind :=
  let s := clause "created_at" ">=" (filter.from?.map .time) ([], [])
  let s := clause "created_at" "<" (filter.to?.map .time) s
  let s := (textColumns filter).foldl
    (fun s column => clause column.1 "=" (column.2.map .text) s) s
  let s := clause "virtual_key_id" "=" (filter.virtualKeyId.map .i64) s
  let s := clause "success" "=" (filter.success.map .bool) s
  clause "status_code" "=" (filter.statusCode.map .i32) s

def filterSql (filter : UsageFilter) : String × List FilterBind :=
  let s := filterClauses filter
  (if s.1.isEmpty then "" else "WHERE " ++ " AND ".intercalate s.1, s.2)

def cursorSql (whereSql : String) (count : Nat) : String :=
  whereSql ++ (" " ++ (if whereSql.isEmpty then "WHERE" else "AND") ++
    " (created_at, request_id) < ($" ++ toString (count + 1) ++ ", $" ++ toString (count + 2) ++
    ")")

/-- What stands after the table in the statement of a page, and its values. -/
def pageSql (filter : UsageFilter) (limit : Nat) (cursor : Option UsageCursor) :
    String × List FilterBind :=
  let found := filterSql filter
  let whereSql := if cursor.isSome then cursorSql found.1 found.2.length else found.1
  (" " ++ whereSql ++ " ORDER BY created_at DESC, request_id DESC LIMIT $" ++
      toString (found.2.length + if cursor.isSome then 3 else 1),
    found.2 ++ cursor.elim [] (fun cursor => [.time cursor.createdAt, .text cursor.requestId]) ++
      [.i64 (limit + 1)])

/-! ## Their meaning -/

def columnOf (name : List Char) (row : UsageEventRow) : Option FilterBind :=
  match String.ofList name with
  | "created_at" => some (.time row.createdAt)
  | "request_id" => some (.text row.event.requestId)
  | "logical_model" => some (.text row.event.logicalModel)
  | "upstream_model_id" => row.event.upstreamModelId.map .text
  | "provider_id" => some (.text row.providerId)
  | "source_id" => row.sourceId.map .text
  | "client_source" => some (.text row.event.clientSource)
  | "account_id" => some (.text row.event.accountId)
  | "protocol_in" => some (.text row.event.protocolIn)
  | "protocol_upstream" => some (.text row.event.protocolUpstream)
  | "usage_source" => some (.text row.event.usageSource)
  | "virtual_key_id" => row.event.virtualKeyId.map .i64
  | "success" => some (.bool row.event.success)
  | "status_code" => some (.i32 row.event.statusCode)
  | _ => none

/-- Values of one type compare, texts in the order of the database. -/
def compareBinds (postgres : Postgres) : FilterBind → FilterBind → Option Ordering
  | .time a, .time b => some (compare a b)
  | .text a, .text b =>
    some (if a = b then .eq else if postgres.less a b then .lt else .gt)
  | .i64 a, .i64 b => some (compare a b)
  | .i32 a, .i32 b => some (compare a b)
  | .bool a, .bool b => some (compare a b)
  | _, _ => none

def countBind : FilterBind → Option Nat
  | .i64 n => some n.toNat
  | _ => none

/-! ## The filter as numbered conditions -/

def numberedColumns (filter : UsageFilter) (b : Numbered FilterBind) : Numbered FilterBind :=
  (textColumns filter).foldl
    (fun b column => b.add? column.1.toList .eq (column.2.map .text)) b

def numbered (filter : UsageFilter) : Numbered FilterBind :=
  let b := Numbered.empty.add? "created_at".toList .ge (filter.from?.map .time)
  let b := b.add? "created_at".toList .lt (filter.to?.map .time)
  let b := numberedColumns filter b
  let b := b.add? "virtual_key_id".toList .eq (filter.virtualKeyId.map .i64)
  let b := b.add? "success".toList .eq (filter.success.map .bool)
  b.add? "status_code".toList .eq (filter.statusCode.map .i32)

def numberedPage (filter : UsageFilter) (cursor : Option UsageCursor) : Numbered FilterBind :=
  cursor.elim (numbered filter) fun cursor =>
    (numbered filter).addBefore ["created_at".toList, "request_id".toList]
      [.time cursor.createdAt, .text cursor.requestId]

/-- The clauses are the texts of the conditions. -/
def Writes (s : List String × List FilterBind) (b : Numbered FilterBind) : Prop :=
  s.1.map String.toList = b.conditions.map Condition.text ∧ s.2 = b.binds

theorem toList_toString_nat (n : Nat) : (toString n).toList = digitsOf n := by
  rw [Nat.toString_eq_repr, Nat.toList_repr, digitsOf]

theorem Writes.clause {s : List String × List FilterBind} {b : Numbered FilterBind}
    (h : Writes s b) (column : String) {comparison : String} {by_ : Comparison}
    (hComparison : comparison.toList = by_.text) (bind : Option FilterBind) :
    Writes (clause column comparison bind s) (b.add? column.toList by_ bind) := by
  cases bind with
  | none => exact h
  | some value =>
    obtain ⟨hClauses, hBinds⟩ := h
    refine ⟨?_, ?_⟩
    · have hText : (column ++ " " ++ comparison ++ " $" ++ toString (s.2.length + 1)).toList =
          Condition.text (.compare column.toList by_ (b.binds.length + 1)) := by
        simp only [String.toList_append, toList_toString_nat, hComparison, hBinds, Condition.text,
          parameterText, List.append_assoc]
        rfl
      have hNew : (b.add? column.toList by_ (some value)).conditions =
          b.conditions ++ [.compare column.toList by_ (b.binds.length + 1)] := rfl
      rw [Listing.clause, List.map_append, hClauses, List.map_singleton, hText, hNew,
        List.map_append, List.map_singleton]
    · rw [Listing.clause, hBinds]
      rfl

theorem filterClauses_writes (filter : UsageFilter) :
    Writes (filterClauses filter) (numbered filter) := by
  have hColumns : ∀ (columns : List (String × Option String)) s b, Writes s b →
      Writes (columns.foldl (fun s column => clause column.1 "=" (column.2.map .text) s) s)
        (columns.foldl (fun b column => b.add? column.1.toList .eq (column.2.map .text)) b) := by
    intro columns
    induction columns with
    | nil => exact fun s b h => h
    | cons column rest ih => exact fun s b h => ih _ _ (h.clause column.1 rfl _)
  have hStart : Writes ([], []) Numbered.empty := ⟨rfl, rfl⟩
  have hGe : ">=".toList = Comparison.ge.text := rfl
  have hLt : "<".toList = Comparison.lt.text := rfl
  have hRange := (hStart.clause "created_at" hGe (filter.from?.map .time)).clause "created_at" hLt
    (filter.to?.map .time)
  have hTexts := hColumns (textColumns filter) _ _ hRange
  exact ((hTexts.clause "virtual_key_id" rfl _).clause "success" rfl _).clause "status_code" rfl _

section Meaning

variable (postgres : Postgres)

theorem all_map_eq {α : Type} (p : Option α) (bind : α → FilterBind) (test : FilterBind → Bool)
    (condition : α → Bool) (h : ∀ a, test (bind a) = condition a) :
    (p.map bind).all test = given p condition := by
  cases p with
  | none => rfl
  | some a => exact h a

theorem compares_text (value bound : String) :
    compares (compareBinds postgres) .eq (some (.text value)) (some (.text bound)) =
      decide (value = bound) := by
  rw [compares, compareBinds, Option.any_some]
  by_cases hSame : value = bound
  · rw [if_pos hSame, decide_eq_true hSame]
    rfl
  · rw [if_neg hSame, decide_eq_false hSame]
    split <;> rfl

theorem compares_nullable (value : Option String) (bound : String) :
    compares (compareBinds postgres) .eq (value.map .text) (some (.text bound)) =
      decide (value = some bound) := by
  cases value with
  | none => rfl
  | some value =>
    rw [Option.map_some, compares_text]
    exact decide_eq_decide.mpr (Option.some.injEq value bound).symm.to_iff

theorem eq_holds_compare {α : Type} [LinearOrder α] (a b : α) :
    Comparison.holds .eq (compare a b) = decide (a = b) := by
  rw [Comparison.holds]
  exact decide_eq_decide.mpr compare_eq_iff_eq

theorem lt_holds_compare {α : Type} [LinearOrder α] (a b : α) :
    Comparison.holds .lt (compare a b) = decide (a < b) := by
  rw [Comparison.holds]
  exact decide_eq_decide.mpr compare_lt_iff_lt

theorem ge_holds_compare {α : Type} [LinearOrder α] (a b : α) :
    Comparison.holds .ge (compare a b) = decide (b ≤ a) := by
  rw [Comparison.holds]
  exact decide_eq_decide.mpr (compare_lt_iff_lt.not.trans not_lt)

/-- The clauses together say what the filter does. -/
theorem numbered_selects (filter : UsageFilter) (row : UsageEventRow) :
    selects (compareBinds postgres) columnOf (numbered filter).conditions (numbered filter).binds
      row = filter.selects row := by
  have hText : ∀ (p : Option String) (value : String),
      ((p.map FilterBind.text).all fun bound =>
        compares (compareBinds postgres) .eq (some (.text value)) (some bound)) =
          given p (value = ·) := fun p value =>
    all_map_eq p .text _ _ (compares_text postgres value)
  have hNullable : ∀ (p value : Option String),
      ((p.map FilterBind.text).all fun bound =>
        compares (compareBinds postgres) .eq (value.map .text) (some bound)) =
          given p (value = some ·) := fun p value =>
    all_map_eq p .text _ _ (compares_nullable postgres value)
  have hFrom : ((filter.from?.map FilterBind.time).all fun bound =>
      compares (compareBinds postgres) .ge (some (.time row.createdAt)) (some bound)) =
        given filter.from? (· ≤ row.createdAt) :=
    all_map_eq _ .time _ _ fun bound => ge_holds_compare row.createdAt bound
  have hTo : ((filter.to?.map FilterBind.time).all fun bound =>
      compares (compareBinds postgres) .lt (some (.time row.createdAt)) (some bound)) =
        given filter.to? (row.createdAt < ·) :=
    all_map_eq _ .time _ _ fun bound => lt_holds_compare row.createdAt bound
  have hKey : ((filter.virtualKeyId.map FilterBind.i64).all fun bound =>
      compares (compareBinds postgres) .eq (row.event.virtualKeyId.map .i64) (some bound)) =
        given filter.virtualKeyId (row.event.virtualKeyId = some ·) := by
    refine all_map_eq _ .i64 _ _ fun bound => ?_
    cases row.event.virtualKeyId with
    | none => rfl
    | some id =>
      exact (eq_holds_compare id bound).trans
        (decide_eq_decide.mpr (Option.some.injEq id bound).symm.to_iff)
  have hSuccess : ((filter.success.map FilterBind.bool).all fun bound =>
      compares (compareBinds postgres) .eq (some (.bool row.event.success)) (some bound)) =
        given filter.success (row.event.success = ·) :=
    all_map_eq _ .bool _ _ fun bound => eq_holds_compare row.event.success bound
  have hStatus : ((filter.statusCode.map FilterBind.i32).all fun bound =>
      compares (compareBinds postgres) .eq (some (.i32 row.event.statusCode)) (some bound)) =
        given filter.statusCode (row.event.statusCode = ·) :=
    all_map_eq _ .i32 _ _ fun bound => eq_holds_compare (row.event.statusCode : Int) bound
  rw [numbered, numberedColumns, textColumns]
  simp only [List.foldl_cons, List.foldl_nil, Numbered.selects_add?]
  simp only [columnOf, String.ofList_toList, hText, hNullable, hFrom, hTo, hKey, hSuccess, hStatus]
  rfl

end Meaning

/-! ## Their texts -/

def Wellformed (c : Condition) : Prop := c.Named ∧ c.Written

theorem numbered_wellformed (filter : UsageFilter) :
    ∀ c ∈ (numbered filter).conditions, Wellformed c := by
  have hColumns : ∀ (columns : List (String × Option String)) (b : Numbered FilterBind),
      (∀ column ∈ columns, Named column.1.toList) → (∀ c ∈ b.conditions, Wellformed c) →
        ∀ c ∈ (columns.foldl (fun b column => b.add? column.1.toList .eq (column.2.map .text))
          b).conditions, Wellformed c := by
    intro columns
    induction columns with
    | nil => exact fun b _ h => h
    | cons column rest ih =>
      intro b hNamed h
      rw [List.forall_mem_cons] at hNamed
      exact ih _ hNamed.2 (Numbered.forall_add? h (fun _ => ⟨hNamed.1, trivial⟩) _)
  have hStart : ∀ c ∈ (Numbered.empty : Numbered FilterBind).conditions, Wellformed c := by
    intro c hc
    cases hc
  have hNames : ∀ column ∈ textColumns filter, Named column.1.toList := by
    intro column hColumn
    have hName : column.1 ∈ (textColumns filter).map Prod.fst := List.mem_map_of_mem hColumn
    have hAll : ∀ name ∈ (textColumns filter).map Prod.fst, Named name.toList := by
      simp only [textColumns, List.map_cons, List.map_nil, Named]
      decide
    exact hAll column.1 hName
  have hCreated : ∀ by_ parameter, Wellformed (.compare "created_at".toList by_ parameter) :=
    fun _ _ => ⟨⟨by decide, by decide⟩, trivial⟩
  have hRange := Numbered.forall_add? (Numbered.forall_add? hStart (hCreated .ge)
    (filter.from?.map .time)) (hCreated .lt) (filter.to?.map .time)
  have hTexts := hColumns (textColumns filter) _ hNames hRange
  have hKey := Numbered.forall_add? hTexts
    (fun parameter => show Wellformed (.compare "virtual_key_id".toList .eq parameter) from
      ⟨⟨by decide, by decide⟩, trivial⟩) (filter.virtualKeyId.map .i64)
  have hSuccess := Numbered.forall_add? hKey
    (fun parameter => show Wellformed (.compare "success".toList .eq parameter) from
      ⟨⟨by decide, by decide⟩, trivial⟩) (filter.success.map .bool)
  exact Numbered.forall_add? hSuccess
    (fun parameter => show Wellformed (.compare "status_code".toList .eq parameter) from
      ⟨⟨by decide, by decide⟩, trivial⟩) (filter.statusCode.map .i32)

/-- The condition of a page that starts after a row. -/
def afterCursor (filter : UsageFilter) : Condition :=
  .before ["created_at".toList, "request_id".toList]
    [(numbered filter).binds.length + 1, (numbered filter).binds.length + 2]

theorem numberedPage_some (filter : UsageFilter) (cursor : UsageCursor) :
    (numberedPage filter (some cursor)).conditions =
      (numbered filter).conditions ++ [afterCursor filter] := rfl

theorem numberedPage_wellformed (filter : UsageFilter) (cursor : Option UsageCursor) :
    ∀ c ∈ (numberedPage filter cursor).conditions, Wellformed c := by
  cases cursor with
  | none => exact numbered_wellformed filter
  | some cursor =>
    have hAfter : Wellformed (afterCursor filter) := by
      refine ⟨?_, List.cons_ne_nil _ _, List.cons_ne_nil _ _⟩
      change ∀ column ∈ ["created_at".toList, "request_id".toList], Named column
      simp only [Named]
      decide
    rw [numberedPage_some]
    exact List.forall_mem_append.mpr
      ⟨numbered_wellformed filter, List.forall_mem_singleton.mpr hAfter⟩

theorem filterSql_eq (filter : UsageFilter) :
    (filterSql filter).1.toList = whereText (numbered filter).conditions ∧
      (filterSql filter).2 = (numbered filter).binds := by
  obtain ⟨hClauses, hBinds⟩ := filterClauses_writes filter
  refine ⟨?_, hBinds⟩
  have hEmpty : (filterClauses filter).1.isEmpty = (numbered filter).conditions.isEmpty := by
    rw [← List.isEmpty_map (f := String.toList), hClauses, List.isEmpty_map]
  rw [filterSql, whereText, ← hEmpty]
  split
  · rfl
  · rw [String.toList_append, String.toList_intercalate, hClauses]

/-- The order and the limit after the conditions. -/
def tailText (parameter : Nat) : List Char :=
  " ORDER BY created_at DESC, request_id DESC LIMIT $".toList ++ digitsOf parameter

def pageOrder : List (List Char) := ["created_at".toList, "request_id".toList]

def pageStatement (filter : UsageFilter) (cursor : Option UsageCursor) : Statement :=
  (numberedPage filter cursor).limited pageOrder

theorem tailText_eq (parameter : Nat) : tailText parameter =
    " ORDER BY created_at DESC, request_id DESC LIMIT $".toList ++ digitsOf parameter := rfl

theorem tailText_parts (parameter : Nat) : tailText parameter =
    " ORDER BY ".toList ++ (commaText.intercalate
      (pageOrder.map fun column => column ++ " DESC".toList) ++
        (" LIMIT ".toList ++ parameterText parameter)) := by
  have hKeyword : " ORDER BY created_at DESC, request_id DESC LIMIT $".toList =
      " ORDER BY ".toList ++ (commaText.intercalate
        (pageOrder.map fun column => column ++ " DESC".toList) ++ (" LIMIT ".toList ++ ['$'])) := by
    decide
  rw [tailText_eq, hKeyword, parameterText]
  simp only [List.append_assoc, List.cons_append, List.nil_append]

theorem limited_text (b : Numbered FilterBind) :
    (b.limited pageOrder).text =
      ' ' :: (whereText b.conditions ++ tailText (b.binds.length + 1)) := by
  have hSpace : " ".toList = [' '] := by decide
  rw [tailText_parts, Statement.text, Numbered.limited, hSpace]
  simp only [List.append_assoc, List.cons_append, List.nil_append]

/-- Where no condition stands before the one of the cursor, a second space does. -/
theorem lex_cursorSql (filter : UsageFilter) (rest : List Char) :
    lex (' ' :: ((cursorSql (filterSql filter).1 (filterSql filter).2.length).toList ++ rest)) =
      lex (' ' :: (whereText ((numbered filter).conditions ++ [afterCursor filter]) ++ rest)) := by
  obtain ⟨hText, hBinds⟩ := filterSql_eq filter
  have hAfter : (" (created_at, request_id) < ($".toList ++
      (digitsOf ((numbered filter).binds.length + 1) ++ (", $".toList ++
        (digitsOf ((numbered filter).binds.length + 2) ++ ")".toList)))) =
          ' ' :: (afterCursor filter).text := by
    have hOpen : " (created_at, request_id) < ($".toList = ' ' :: ("(".toList ++
        (commaText.intercalate ["created_at".toList, "request_id".toList] ++
          (") < (".toList ++ ['$']))) := by decide
    have hComma : ", $".toList = commaText ++ ['$'] := by decide
    rw [hOpen, hComma, afterCursor, Condition.text]
    simp only [List.map_cons, List.map_nil, List.intercalate_cons_cons,
      List.intercalate_singleton, List.append_assoc, parameterText, List.cons_append,
      List.nil_append]
  have hSpace : " ".toList = [' '] := by decide
  rw [cursorSql, hBinds]
  simp only [String.toList_append, toList_toString_nat, hText, List.append_assoc, hAfter]
  have hSql : ((filterSql filter).1.isEmpty = true) ↔ (numbered filter).conditions = [] := by
    rw [String.isEmpty_iff, ← String.toList_eq_nil_iff, hText, whereText]
    split
    · next hEmpty => exact iff_of_true rfl (List.isEmpty_iff.mp hEmpty)
    · next hSome =>
      refine iff_of_false ?_ (mt List.isEmpty_iff.mpr hSome)
      exact List.append_ne_nil_of_left_ne_nil (by decide) _
  by_cases hNone : (numbered filter).conditions = []
  · have hWhere : "WHERE ".toList = "WHERE".toList ++ [' '] := by decide
    have hNothing : whereText [] = [] := rfl
    rw [if_pos (hSql.mpr hNone), hNone, List.nil_append, whereText_singleton, hNothing, hWhere,
      hSpace]
    simp only [List.append_assoc, List.cons_append, List.nil_append]
    rw [lex_space]
  · have hAnd : " AND ".toList = ' ' :: ("AND".toList ++ [' ']) := by decide
    rw [if_neg (mt hSql.mp hNone), whereText_concat hNone, hAnd, hSpace]
    simp only [List.append_assoc, List.cons_append, List.nil_append]

theorem lex_pageSql (filter : UsageFilter) (limit : Nat) (cursor : Option UsageCursor) :
    lex (pageSql filter limit cursor).1.toList = lex (pageStatement filter cursor).text := by
  obtain ⟨hText, hBinds⟩ := filterSql_eq filter
  have hSpace : " ".toList = [' '] := by decide
  rw [pageStatement, limited_text, pageSql, tailText_eq]
  cases cursor with
  | none =>
    have hSame : numberedPage filter none = numbered filter := rfl
    rw [Option.isSome_none, if_neg (by decide), if_neg (by decide), hBinds, hSame]
    simp only [String.toList_append, toList_toString_nat, hText, hSpace, List.append_assoc,
      List.cons_append, List.nil_append]
  | some cursor =>
    have hLength : (numberedPage filter (some cursor)).binds.length + 1 =
        (filterSql filter).2.length + 3 := by
      rw [hBinds]
      exact congrArg (· + 1) List.length_append
    rw [Option.isSome_some, if_pos rfl, if_pos rfl, numberedPage_some, hLength]
    simp only [String.toList_append, toList_toString_nat, hSpace, List.append_assoc,
      List.cons_append, List.nil_append]
    exact lex_cursorSql filter _

/-! ## The listing from its statement -/

/-- The page of the records a statement found. -/
def usagePageOf (limit : Nat) (found : List UsageEventRecord) : UsageEventPage :=
  let page := cut (fun last => last.cursor.encode) limit found
  { data := page.data, nextCursor := page.next, hasMore := limit < found.length }

section Listing

variable (postgres : Postgres) (tables : EventTables) (filter : UsageFilter)

theorem lexBefore_eq (time time' : DateTime) (id id' : String) :
    lexBefore (compareBinds postgres) [some (.time time), some (.text id)]
        [some (.time time'), some (.text id')] =
      newer postgres.less (time', id') (time, id) := by
  rw [lexBefore, compareBinds, newer]
  rcases lt_trichotomy time time' with hLess | rfl | hMore
  · rw [compare_lt_iff_lt.mpr hLess, decide_eq_true hLess]
    rfl
  · rw [compare_eq_iff_eq.mpr rfl, decide_eq_false (lt_irrefl time), decide_eq_true rfl]
    simp only [lexBefore, compareBinds, Bool.false_or, Bool.true_and]
    by_cases hSame : id = id'
    · subst hSame
      rw [if_pos rfl, postgres.less_strict.irrefl]
    · rw [if_neg hSame]
      cases postgres.less id id' <;> rfl
  · have hOther : ¬time = time' := fun hSame => lt_irrefl time (hSame ▸ hMore)
    rw [compare_gt_iff_gt.mpr hMore, decide_eq_false (lt_asymm hMore), decide_eq_false hOther]
    rfl

theorem columns_of_order (row : UsageEventRow) :
    (pageOrder.map fun name => columnOf name row) =
      [some (.time row.createdAt), some (.text row.event.requestId)] := by
  simp only [pageOrder, List.map_cons, List.map_nil, columnOf, String.ofList_toList]

theorem sort_eq (rows : List UsageEventRow) :
    sort (compareBinds postgres) columnOf pageOrder rows =
      orderBy usageCursor (usageOrder postgres) rows := by
  rw [sort, orderBy]
  congr 1
  funext a b
  rw [columns_of_order, columns_of_order, lexBefore_eq]
  rfl

theorem numberedPage_selects (cursor : Option UsageCursor) (row : UsageEventRow) :
    selects (compareBinds postgres) columnOf (numberedPage filter cursor).conditions
        (numberedPage filter cursor).binds row =
      (filter.selects row && given cursor (usageOrder postgres · (usageCursor row))) := by
  cases cursor with
  | none =>
    rw [numberedPage, Option.elim_none, numbered_selects, given, Option.all_none, Bool.and_true]
  | some cursor =>
    have hColumns := columns_of_order row
    rw [pageOrder] at hColumns
    rw [numberedPage, Option.elim_some, Numbered.selects_addBefore, numbered_selects, hColumns,
      List.map_cons, List.map_singleton, lexBefore_eq]
    rfl

/-- The text of a page's statement is read as a statement that uses each value once and in
order, and the page is what it finds. -/
theorem usage_page_statement (limit : Int) (cursor : Option UsageCursor) :
    ∃ s rows,
      readStatement (lex (pageSql filter (clampLimit limit) cursor).1.toList) = some s ∧
        s.parameters = List.range' 1 (pageSql filter (clampLimit limit) cursor).2.length ∧
        s.run (compareBinds postgres) columnOf countBind
          (pageSql filter (clampLimit limit) cursor).2 tables.usageEvents = some rows ∧
        listUsageEventsPage postgres tables filter limit cursor =
          usagePageOf (clampLimit limit) (rows.map usageEventSelect) := by
  have hBinds : (pageSql filter (clampLimit limit) cursor).2 =
      (numberedPage filter cursor).binds ++ [.i64 (clampLimit limit + 1)] := by
    rw [pageSql, (filterSql_eq filter).2]
    cases cursor with
    | none => exact congrArg (· ++ _) (List.append_nil _)
    | some cursor => rfl
  have hWellformed := numberedPage_wellformed filter cursor
  have hColumns : ∀ column ∈ pageOrder, Named column := by
    simp only [Named]
    decide
  have hCount : countBind (.i64 (clampLimit limit + 1)) = some (clampLimit limit + 1) := rfl
  have hSelects : selects (compareBinds postgres) columnOf
      (numberedPage filter cursor).conditions (numberedPage filter cursor).binds =
        fun row => filter.selects row && given cursor (usageOrder postgres · (usageCursor row)) :=
    funext (numberedPage_selects postgres filter cursor)
  have hRun : (pageStatement filter cursor).run (compareBinds postgres) columnOf countBind
      (pageSql filter (clampLimit limit) cursor).2 tables.usageEvents =
        some ((orderBy usageCursor (usageOrder postgres) (tables.usageEvents.filter fun row =>
          filter.selects row && given cursor (usageOrder postgres · (usageCursor row)))).take
            (clampLimit limit + 1)) := by
    rw [hBinds, pageStatement, Numbered.limited_run _ _ hCount, sort_eq, hSelects]
  refine ⟨pageStatement filter cursor, _, ?_, ?_, hRun, ?_⟩
  · rw [lex_pageSql]
    exact readStatement_text (fun c hc => (hWellformed c hc).1) (fun c hc => (hWellformed c hc).2)
      hColumns (List.cons_ne_nil _ _)
  · rw [hBinds]
    exact Numbered.limited_parameters _ _ _
  · rw [listUsageEventsPage, usagePageOf]

end Listing

end AiGateway.Listing
