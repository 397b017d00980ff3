import AiGateway.Infra.UsageReports
import Mathlib.Logic.Function.Basic

/-!
# Usage requests

The parameters of a usage request, and a row of a breakdown asked for again by the
parameter of its dimension.
-/

namespace AiGateway.Reports

set_option autoImplicit false

open AiGateway.Checked AiGateway.Health AiGateway.IntText AiGateway.Keyset AiGateway.Listing
  AiGateway.Migrations

/-- The parameters of a request, each name once. -/
abbrev Params := String → Option String

structure UsageQuery where
  filter : UsageFilter
  granularity : String
  breakdown : String
  limit : Int
  cursor : Option UsageCursor
  format : String

def readParam {α : Type} (query : Params) (name : String) (read : String → Option α)
    (message : String) : Except String (Option α) :=
  match query name with
  | none => .ok none
  | some value => (require (read value) message).map some

def parseI32 (text : List Char) : Option Int :=
  (readInt text).filter fun i => -2 ^ 31 ≤ i ∧ i < 2 ^ 31

def readStatus (value : String) : Option Bool :=
  match value with
  | "success" => some true
  | "failure" => some false
  | _ => none

def usageSources : List String := ["upstream", "parsed", "estimated", "missing"]

def dimensions : List String :=
  ["logical_model", "upstream_model", "provider", "source_id", "client_source", "account",
    "protocol_in", "protocol_upstream", "virtual_key", "status", "usage_source"]

section Parse

-- `parseTime` is the date library's reader of RFC 3339 times.
variable (parseTime : String → Option DateTime) (calendar : Calendar)

def parseUsageQuery (query : Params) : Except String UsageQuery := do
  ensure (query "source" = none) "source is no longer supported; use source_id or client_source"
  let start ← readParam query "from" parseTime "from must be an RFC3339 timestamp"
  let stop ← readParam query "to" parseTime "to must be an RFC3339 timestamp"
  ensure (∀ a ∈ start, ∀ b ∈ stop, a < b) "from must be earlier than to"
  let virtualKeyId ← readParam query "virtual_key"
    (fun value => (parseI64 value.toList).filter (0 < ·)) "virtual_key must be a positive integer"
  let statusCode ← readParam query "status_code"
    (fun value => (parseI32 value.toList).filter fun code => 100 ≤ code ∧ code ≤ 599)
    "status_code must be between 100 and 599"
  let success ← readParam query "status" readStatus "status must be success or failure"
  ensure (∀ value ∈ query "usage_source", value ∈ usageSources)
    "usage_source must be upstream, parsed, estimated, or missing"
  let granularity := (query "granularity").getD "hour"
  ensure (granularity = "hour" ∨ granularity = "day") "granularity must be hour or day"
  let breakdown := (query "breakdown").getD "logical_model"
  ensure (breakdown ∈ dimensions) "unsupported breakdown dimension"
  let limit ← readParam query "limit"
    (fun value => (parseI64 value.toList).filter fun limit => 1 ≤ limit ∧ limit ≤ 500)
    "limit must be between 1 and 500"
  let cursor ← readParam query "cursor" (UsageCursor.decode calendar) "cursor is invalid"
  let format := (query "format").getD "json"
  ensure (format = "json" ∨ format = "csv") "format must be json or csv"
  return {
    filter := {
      from? := start
      to? := stop
      logicalModel := query "logical_model"
      upstreamModelId := query "upstream_model"
      providerId := query "provider"
      sourceId := query "source_id"
      clientSource := query "client_source"
      accountId := query "account"
      protocolIn := query "protocol_in"
      protocolUpstream := query "protocol_upstream"
      virtualKeyId := virtualKeyId
      success := success
      statusCode := statusCode
      usageSource := query "usage_source" }
    granularity := granularity
    breakdown := breakdown
    limit := limit.getD 100
    cursor := cursor
    format := format }

/-- What an accepted request asks for. -/
structure Parsed (query : Params) (q : UsageQuery) : Prop where
  source : query "source" = none
  start : readParam query "from" parseTime "from must be an RFC3339 timestamp" =
    .ok q.filter.from?
  stop : readParam query "to" parseTime "to must be an RFC3339 timestamp" = .ok q.filter.to?
  range : ∀ a ∈ q.filter.from?, ∀ b ∈ q.filter.to?, a < b
  virtualKeyId : readParam query "virtual_key"
    (fun value => (parseI64 value.toList).filter (0 < ·))
    "virtual_key must be a positive integer" = .ok q.filter.virtualKeyId
  statusCode : readParam query "status_code"
    (fun value => (parseI32 value.toList).filter fun code => 100 ≤ code ∧ code ≤ 599)
    "status_code must be between 100 and 599" = .ok q.filter.statusCode
  success : readParam query "status" readStatus "status must be success or failure" =
    .ok q.filter.success
  sources : ∀ value ∈ query "usage_source", value ∈ usageSources
  granularity : q.granularity = (query "granularity").getD "hour" ∧
    (q.granularity = "hour" ∨ q.granularity = "day")
  breakdown : q.breakdown = (query "breakdown").getD "logical_model" ∧ q.breakdown ∈ dimensions
  limit : ∃ limit, readParam query "limit"
    (fun value => (parseI64 value.toList).filter fun limit => 1 ≤ limit ∧ limit ≤ 500)
    "limit must be between 1 and 500" = .ok limit ∧ q.limit = limit.getD 100
  cursor : readParam query "cursor" (UsageCursor.decode calendar) "cursor is invalid" =
    .ok q.cursor
  format : q.format = (query "format").getD "json" ∧ (q.format = "json" ∨ q.format = "csv")
  logicalModel : q.filter.logicalModel = query "logical_model"
  upstreamModelId : q.filter.upstreamModelId = query "upstream_model"
  providerId : q.filter.providerId = query "provider"
  sourceId : q.filter.sourceId = query "source_id"
  clientSource : q.filter.clientSource = query "client_source"
  accountId : q.filter.accountId = query "account"
  protocolIn : q.filter.protocolIn = query "protocol_in"
  protocolUpstream : q.filter.protocolUpstream = query "protocol_upstream"
  usageSource : q.filter.usageSource = query "usage_source"

variable {parseTime calendar} {query : Params} {q : UsageQuery}

theorem parsed_of_parseUsageQuery (h : parseUsageQuery parseTime calendar query = .ok q) :
    Parsed parseTime calendar query q := by
  rw [parseUsageQuery] at h
  simp only [bind_eq_ok, ensure_eq_ok, pure_eq_ok] at h
  obtain ⟨-, hSource, start, hStart, stop, hStop, -, hRange, id, hId, code, hCode, success,
    hSuccess, -, hSources, -, hGranularity, -, hBreakdown, limit, hLimit, cursor, hCursor, -,
    hFormat, rfl⟩ := h
  exact ⟨hSource, hStart, hStop, hRange, hId, hCode, hSuccess, hSources, ⟨rfl, hGranularity⟩,
    ⟨rfl, hBreakdown⟩, ⟨limit, hLimit, rfl⟩, hCursor, ⟨rfl, hFormat⟩, rfl, rfl, rfl, rfl, rfl,
    rfl, rfl, rfl, rfl⟩

theorem parseUsageQuery_of_parsed (h : Parsed parseTime calendar query q) :
    parseUsageQuery parseTime calendar query = .ok q := by
  obtain ⟨limit, hLimit, hLimit'⟩ := h.limit
  rw [parseUsageQuery]
  simp only [bind_eq_ok, ensure_eq_ok, pure_eq_ok]
  refine ⟨(), h.source, _, h.start, _, h.stop, (), h.range, _, h.virtualKeyId, _, h.statusCode, _,
    h.success, (), h.sources, (), ?_, (), ?_, limit, hLimit, _, h.cursor, (), ?_, ?_⟩
  · exact h.granularity.1 ▸ h.granularity.2
  · exact h.breakdown.1 ▸ h.breakdown.2
  · exact h.format.1 ▸ h.format.2
  · rw [← h.granularity.1, ← h.breakdown.1, ← h.format.1, ← hLimit', ← h.logicalModel,
      ← h.upstreamModelId, ← h.providerId, ← h.sourceId, ← h.clientSource, ← h.accountId,
      ← h.protocolIn, ← h.protocolUpstream, ← h.usageSource]

end Parse

/-! ## A row asked for by its key -/

/-- The filter with the parameter of a dimension set. -/
def narrow (dimension key : String) (filter : UsageFilter) : UsageFilter :=
  match dimension with
  | "logical_model" => { filter with logicalModel := some key }
  | "upstream_model" => { filter with upstreamModelId := some key }
  | "provider" => { filter with providerId := some key }
  | "source_id" => { filter with sourceId := some key }
  | "client_source" => { filter with clientSource := some key }
  | "account" => { filter with accountId := some key }
  | "protocol_in" => { filter with protocolIn := some key }
  | "protocol_upstream" => { filter with protocolUpstream := some key }
  | "virtual_key" => { filter with virtualKeyId := parseI64 key.toList }
  | "status" => { filter with success := readStatus key }
  | "usage_source" => { filter with usageSource := some key }
  | _ => filter

/-- The value of a parameter is one the request may have. -/
structure Accepted (dimension key : String) : Prop where
  virtualKey : dimension = "virtual_key" → ∃ id, parseI64 key.toList = some id ∧ 0 < id
  status : dimension = "status" → ∃ success, readStatus key = some success
  usageSource : dimension = "usage_source" → key ∈ usageSources

section Narrowed

variable {α : Type} {parseTime : String → Option DateTime} {calendar : Calendar} {query : Params}
  {q : UsageQuery} {dimension key name : String}

theorem readParam_update_of_ne {read : String → Option α} {message : String}
    (h : name ≠ dimension) :
    readParam (Function.update query dimension (some key)) name read message =
      readParam query name read message := by
  rw [readParam, Function.update_of_ne h, readParam]

theorem readParam_update_self {read : String → Option α} {message : String} :
    readParam (Function.update query name (some key)) name read message =
      (require (read key) message).map some := by
  rw [readParam, Function.update_self]

theorem Parsed.narrow (h : Parsed parseTime calendar query q) (hDimension : dimension ∈ dimensions)
    (hKey : Accepted dimension key) :
    Parsed parseTime calendar (Function.update query dimension (some key))
      { q with filter := Reports.narrow dimension key q.filter } := by
  obtain ⟨hVirtualKey, hStatus, hSource⟩ := hKey
  obtain ⟨h1, h2, h3, h4, h5, h6, h7, h8, h9, h10, h11, h12, h13, h14, h15, h16, h17, h18, h19,
    h20, h21, h22⟩ := h
  rw [dimensions] at hDimension
  simp only [List.mem_cons, List.not_mem_nil, or_false] at hDimension
  rcases hDimension with rfl | rfl | rfl | rfl | rfl | rfl | rfl | rfl | rfl | rfl | rfl
  case inr.inr.inr.inr.inr.inr.inr.inr.inl =>
    obtain ⟨id, hId, hPos⟩ := hVirtualKey rfl
    have hRead : (some id).filter (0 < ·) = some id :=
      Option.filter_some_pos (decide_eq_true hPos)
    constructor <;>
      simp (disch := decide) only [readParam_update_of_ne, Function.update_of_ne,
        readParam_update_self, hId, hRead, require, Except.map, Reports.narrow] <;>
      assumption
  case inr.inr.inr.inr.inr.inr.inr.inr.inr.inl =>
    obtain ⟨success, hRead⟩ := hStatus rfl
    constructor <;>
      simp (disch := decide) only [readParam_update_of_ne, Function.update_of_ne,
        readParam_update_self, require, Except.map, Reports.narrow, hRead] <;>
      assumption
  case inr.inr.inr.inr.inr.inr.inr.inr.inr.inr =>
    have hAllowed : ∀ value ∈ some key, value ∈ usageSources := by
      intro value hValue
      rw [← Option.mem_some_iff.mp hValue]
      exact hSource rfl
    constructor <;>
      simp (disch := decide) only [readParam_update_of_ne, Function.update_of_ne,
        Function.update_self, Reports.narrow] <;>
      assumption
  -- The other parameters are taken as they are.
  all_goals
    constructor <;>
      simp (disch := decide) only [readParam_update_of_ne, Function.update_of_ne,
        Function.update_self, Reports.narrow] <;>
      assumption

theorem given_some {p : Option α} {a : α} (test : α → Bool) (h : p = none ∨ p = some a) :
    given (some a) test = (given p test && test a) := by
  obtain rfl | rfl := h
  · rfl
  · exact (Bool.and_self _).symm

/-- A parameter that selects a row is missing or has the row's value. -/
theorem given_cases {p : Option α} {a : α} {test : α → Bool} (h : given p test = true)
    (hTest : ∀ b, test b = true → b = a) : p = none ∨ p = some a := by
  cases p with
  | none => exact .inl rfl
  | some b => exact .inr (congrArg some (hTest b h))

theorem plain_cases {p : Option String} {value : String} (hKey : some value = some key)
    (h : given p (value = ·) = true) : p = none ∨ p = some key :=
  given_cases h fun _ hb => (of_decide_eq_true hb).symm.trans (Option.some.inj hKey)

theorem nullable_cases {p : Option String} {value : Option String} (hKey : value = some key)
    (h : given p (value = some ·) = true) : p = none ∨ p = some key :=
  given_cases h fun _ hb => Option.some.inj ((of_decide_eq_true hb).symm.trans hKey)

theorem parseI64_toString {id : Int} (hPos : 0 < id) (hHigh : id < 2 ^ 63) :
    parseI64 (toString id).toList = some id := by
  rw [toList_toString, parseI64_writeInt (by omega) hHigh]

end Narrowed

/-- What the gateway writes: ids of the sequence of the table of keys, and the names of
the usage readings. -/
structure Recorded (row : UsageEventRow) : Prop where
  virtualKeyId : ∀ id ∈ row.event.virtualKeyId, 0 < id ∧ id < 2 ^ 63
  usageSource : row.event.usageSource ∈ usageSources

section Rows

variable {dimension key : String} {filter : UsageFilter} {event row : UsageEventRow}

theorem accepted_of_recorded (hRecorded : Recorded event)
    (hKey : dimensionKey dimension event = some key) : Accepted dimension key := by
  refine ⟨?_, ?_, ?_⟩
  · rintro rfl
    obtain ⟨id, hId, rfl⟩ := Option.map_eq_some_iff.mp hKey
    obtain ⟨hPos, hHigh⟩ := hRecorded.virtualKeyId id hId
    exact ⟨id, parseI64_toString hPos hHigh, hPos⟩
  · rintro rfl
    obtain rfl := Option.some.inj hKey
    cases event.event.success with
    | true => exact ⟨true, rfl⟩
    | false => exact ⟨false, rfl⟩
  · rintro rfl
    obtain rfl := Option.some.inj hKey
    exact hRecorded.usageSource

theorem narrow_selects (hDimension : dimension ∈ dimensions) (hRecorded : Recorded event)
    (hEvent : filter.selects event = true) (hKey : dimensionKey dimension event = some key) :
    (narrow dimension key filter).selects row =
      (filter.selects row && decide (dimensionKey dimension row = some key)) := by
  rw [UsageFilter.selects] at hEvent
  simp only [Bool.and_eq_true] at hEvent
  obtain ⟨⟨⟨⟨⟨⟨⟨⟨⟨⟨⟨⟨⟨-, -⟩, h1⟩, h2⟩, h3⟩, h4⟩, h5⟩, h6⟩, h7⟩, h8⟩, h9⟩, h10⟩, h11⟩, -⟩ := hEvent
  rw [dimensions] at hDimension
  simp only [List.mem_cons, List.not_mem_nil, or_false] at hDimension
  rw [UsageFilter.selects, UsageFilter.selects]
  rcases hDimension with rfl | rfl | rfl | rfl | rfl | rfl | rfl | rfl | rfl | rfl | rfl
  · simp only [narrow, dimensionKey, given_some _ (plain_cases hKey h1), Option.some.injEq]
    ac_rfl
  · simp only [narrow, dimensionKey, given_some _ (nullable_cases hKey h2)]
    ac_rfl
  · simp only [narrow, dimensionKey, given_some _ (plain_cases hKey h3), Option.some.injEq]
    ac_rfl
  · simp only [narrow, dimensionKey, given_some _ (nullable_cases hKey h4)]
    ac_rfl
  · simp only [narrow, dimensionKey, given_some _ (plain_cases hKey h5), Option.some.injEq]
    ac_rfl
  · simp only [narrow, dimensionKey, given_some _ (plain_cases hKey h6), Option.some.injEq]
    ac_rfl
  · simp only [narrow, dimensionKey, given_some _ (plain_cases hKey h7), Option.some.injEq]
    ac_rfl
  · simp only [narrow, dimensionKey, given_some _ (plain_cases hKey h8), Option.some.injEq]
    ac_rfl
  · obtain ⟨id, hId, rfl⟩ := Option.map_eq_some_iff.mp hKey
    obtain ⟨hPos, hHigh⟩ := hRecorded.virtualKeyId id hId
    have hText : ∀ value : Option Int,
        value.map toString = some (toString id) ↔ value = some id := by
      intro value
      rw [← Option.map_some, (Option.map_injective toString_injective).eq_iff]
    have hOld := given_cases h10 fun b hb => Option.some.inj ((of_decide_eq_true hb).symm.trans hId)
    simp only [narrow, dimensionKey, parseI64_toString hPos hHigh, given_some _ hOld, hText]
    ac_rfl
  · obtain rfl := Option.some.inj hKey
    have hOld := given_cases h11 fun b hb => (of_decide_eq_true hb).symm
    have hRead : readStatus (if event.event.success then "success" else "failure") =
        some event.event.success := by
      cases event.event.success <;> rfl
    have hText : ∀ success : Bool, ((if success then "success" else "failure") =
        if event.event.success then "success" else "failure") ↔ success = event.event.success := by
      intro success
      cases success <;> cases event.event.success <;> decide
    simp only [narrow, dimensionKey, hRead, given_some _ hOld, Option.some.injEq, hText]
    ac_rfl
  · simp only [narrow, dimensionKey, given_some _ (plain_cases hKey h9), Option.some.injEq]
    ac_rfl

end Rows

/-- A group that has a key is a request of its own: with the key as the parameter of the
dimension, the request is accepted and its summary is the row of the group. -/
theorem usage_group_is_summary {postgres : Postgres} {d : Database}
    {parseTime : String → Option DateTime} {calendar : Calendar} {query : Params} {q : UsageQuery}
    {rows : List (Option String × UsageTotals)}
    (hRecorded : ∀ row ∈ d.usageEvents, Recorded row)
    (hQuery : parseUsageQuery parseTime calendar query = .ok q)
    (hRows : usageBreakdown postgres d q.filter q.breakdown = some rows) :
    ∀ row ∈ rows, ∀ key ∈ row.1, ∃ narrowed,
      parseUsageQuery parseTime calendar (Function.update query q.breakdown (some key)) =
        .ok narrowed ∧ usageAggregate d narrowed.filter = some row.2 := by
  obtain ⟨rfl, hFits⟩ := castAll_eq_some hRows
  intro row hRow key hKey
  have hReport := (orderBy_perm _).mem_iff.mp hRow
  obtain ⟨event, hEvent, hEventKey⟩ := exists_of_report hReport
  obtain ⟨hStored, hSelected⟩ := List.mem_filter.mp hEvent
  have hParsed := parsed_of_parseUsageQuery hQuery
  have hDimension := hParsed.breakdown.2
  rw [Option.mem_def.mp hKey] at hEventKey
  have hAccepted := accepted_of_recorded (hRecorded event hStored) hEventKey
  refine ⟨_, parseUsageQuery_of_parsed (hParsed.narrow hDimension hAccepted), ?_⟩
  refine usageAggregate_of_report hReport (hFits row hRow) ?_
  intro other hOther
  rw [Option.mem_def.mp hKey]
  exact narrow_selects hDimension (hRecorded event hStored) hSelected hEventKey

/-- The failed one of the two requests, from the groups by status. -/
theorem usage_group_is_summary_failed : ∃ narrowed,
    parseUsageQuery (fun _ => none) Tied.calendar
      (Function.update (Function.update (fun _ => none) "breakdown" (some "status")) "status"
        (some "failure")) = .ok narrowed ∧
      usageAggregate Summed.database narrowed.filter = some Summed.second := by
  have hRecorded : ∀ row ∈ Summed.database.usageEvents, Recorded row := by
    intro row hRow
    have hBoth : row.event.virtualKeyId = none ∧ row.event.usageSource = "missing" := by
      revert row
      decide
    refine ⟨?_, ?_⟩
    · rw [hBoth.1]
      intro id hId
      cases hId
    · rw [hBoth.2]
      decide
  have hQuery : parseUsageQuery (fun _ => none) Tied.calendar
      (Function.update (fun _ => none) "breakdown" (some "status")) = .ok
        { filter := {}, granularity := "hour", breakdown := "status", limit := 100,
          cursor := none, format := "json" } := rfl
  have hRows : usageBreakdown Tied.postgres Summed.database {} "status" =
      some [(some "failure", Summed.second), (some "success", Summed.first)] := by decide
  exact usage_group_is_summary hRecorded hQuery hRows (some "failure", Summed.second)
    List.mem_cons_self "failure" rfl

end AiGateway.Reports
