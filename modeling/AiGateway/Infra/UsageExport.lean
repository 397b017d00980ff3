import AiGateway.Base.Csv
import AiGateway.Infra.UsagePages

/-!
# The export of usage events

All events of a filter as comma-separated values, or none of them when there are too
many.  What is exported can be read back.
-/

namespace AiGateway.Listing

set_option autoImplicit false

open AiGateway.Csv AiGateway.Health AiGateway.IntText AiGateway.Keyset AiGateway.Migrations

/-! ## Writing -/

def csvColumns : List String :=
  ["request_id", "created_at", "virtual_key_id", "logical_model", "upstream_model_id",
    "provider_id", "source_id", "client_source", "account_id", "protocol_in", "protocol_upstream",
    "mode", "status_code", "success", "retry_count", "latency_ms", "ttft_ms", "input_tokens",
    "output_tokens", "reasoning_tokens", "cached_tokens", "cache_read_tokens",
    "cache_creation_tokens", "total_tokens", "usage_source", "degraded", "route_id", "streamed",
    "error_summary", "fallback_reason", "response_model", "requested_reasoning_effort",
    "response_reasoning_effort"]

/-- The first line names the columns. -/
def csvHeader : String := ",".intercalate csvColumns ++ "\n"

def csvField (value : String) : String := String.ofList (writeField value.toList)

section Write

-- `rfc3339` is the date library's text of a time.
variable (rfc3339 : DateTime → String)

def csvValues (event : UsageEventRecord) : List String :=
  [event.requestId, rfc3339 event.createdAt, (event.virtualKeyId.map toString).getD "",
    event.logicalModel, event.upstreamModelId.getD "", event.providerId, event.sourceId.getD "",
    event.clientSource, event.accountId, event.protocolIn, event.protocolUpstream, event.mode,
    toString event.statusCode, toString event.success, toString event.retryCount,
    toString event.latencyMs, (event.ttftMs.map toString).getD "", toString event.inputTokens,
    toString event.outputTokens, toString event.reasoningTokens, toString event.cachedTokens,
    toString event.cacheReadTokens, toString event.cacheCreationTokens, toString event.totalTokens,
    event.usageSource, toString event.degraded, event.routeId.getD "", toString event.streamed,
    event.errorSummary.getD "", event.fallbackReason.getD "", event.responseModel.getD "",
    event.requestedReasoningEffort.getD "", event.responseReasoningEffort.getD ""]

def csvLine (event : UsageEventRecord) : String :=
  ",".intercalate ((csvValues rfc3339 event).map csvField) ++ "\n"

def usageEventsCsv (events : List UsageEventRecord) : String :=
  events.foldl (fun output event => output ++ csvLine rfc3339 event) csvHeader

end Write

def exportUsageEvents (postgres : Postgres) (tables : EventTables) (filter : UsageFilter)
    (limit : Nat) : List UsageEventRecord :=
  ((orderBy usageCursor (usageOrder postgres) (tables.usageEvents.filter filter.selects)).take
    limit).map usageEventSelect

def exportLimit : Nat := 10000

inductive Export where
  | csv (text : String)
  | json (filter : UsageFilter) (data : List UsageEventRecord)

def usageExport (postgres : Postgres) (rfc3339 : DateTime → String) (tables : EventTables)
    (filter : UsageFilter) (format : String) : Except String Export :=
  let events := exportUsageEvents postgres tables filter (exportLimit + 1)
  if exportLimit < events.length then
    .error ("export exceeds " ++ toString exportLimit ++
      " rows; narrow the time range or add filters")
  else if format = "csv" then .ok (.csv (usageEventsCsv rfc3339 events))
  else .ok (.json filter events)

/-! ## Reading -/

def optionalText (value : String) : Option String := if value = "" then none else some value

def readNumber (value : String) : Option Nat := readDigits value.toList

def readInteger (value : String) : Option Int := readInt value.toList

def readBool (value : String) : Option Bool :=
  if value = "true" then some true else if value = "false" then some false else none

/-- A column that may be empty. -/
def readOptional {α : Type} (readValue : String → Option α) (value : String) : Option (Option α) :=
  if value = "" then some none else (readValue value).map some

section Read

variable (parseTime : String → Option DateTime)

def readEvent : List String → Option UsageEventRecord
  | requestId :: createdAt :: virtualKeyId :: logicalModel :: upstreamModelId :: providerId ::
      sourceId :: clientSource :: accountId :: protocolIn :: protocolUpstream :: mode ::
      statusCode :: success :: retryCount :: latencyMs :: ttftMs :: inputTokens ::
      outputTokens :: reasoningTokens :: cachedTokens :: cacheReadTokens ::
      cacheCreationTokens :: totalTokens :: usageSource :: degraded :: routeId :: streamed ::
      errorSummary :: fallbackReason :: responseModel :: requestedReasoningEffort ::
      responseReasoningEffort :: [] => do
    let createdAt ← parseTime createdAt
    let virtualKeyId ← readOptional readInteger virtualKeyId
    let statusCode ← readNumber statusCode
    let success ← readBool success
    let retryCount ← readNumber retryCount
    let latencyMs ← readNumber latencyMs
    let ttftMs ← readOptional readNumber ttftMs
    let inputTokens ← readInteger inputTokens
    let outputTokens ← readInteger outputTokens
    let reasoningTokens ← readInteger reasoningTokens
    let cachedTokens ← readInteger cachedTokens
    let cacheReadTokens ← readInteger cacheReadTokens
    let cacheCreationTokens ← readInteger cacheCreationTokens
    let totalTokens ← readInteger totalTokens
    let degraded ← readBool degraded
    let streamed ← readBool streamed
    some
      { requestId, virtualKeyId, providerId, accountId, logicalModel,
        upstreamModelId := optionalText upstreamModelId, sourceId := optionalText sourceId,
        clientSource, protocolIn, protocolUpstream, mode, statusCode, success, retryCount,
        latencyMs, ttftMs, inputTokens, outputTokens, reasoningTokens, cachedTokens,
        cacheReadTokens, cacheCreationTokens, totalTokens, usageSource, degraded,
        routeId := optionalText routeId, streamed, errorSummary := optionalText errorSummary,
        fallbackReason := optionalText fallbackReason,
        responseModel := optionalText responseModel,
        requestedReasoningEffort := optionalText requestedReasoningEffort,
        responseReasoningEffort := optionalText responseReasoningEffort, createdAt }
  | _ => none

/-- The events of an export. -/
def readExport (text : String) : Option (List UsageEventRecord) :=
  match Csv.read text.toList with
  | some (header :: records) =>
    if header.map String.ofList = csvColumns then
      records.mapM fun fields => readEvent parseTime (fields.map String.ofList)
    else none
  | _ => none

end Read

/-- An empty text in a column that may be null looks like a null. -/
def plain (event : UsageEventRecord) : UsageEventRecord :=
  { event with
    upstreamModelId := optionalText (event.upstreamModelId.getD "")
    sourceId := optionalText (event.sourceId.getD "")
    routeId := optionalText (event.routeId.getD "")
    errorSummary := optionalText (event.errorSummary.getD "")
    fallbackReason := optionalText (event.fallbackReason.getD "")
    responseModel := optionalText (event.responseModel.getD "")
    requestedReasoningEffort := optionalText (event.requestedReasoningEffort.getD "")
    responseReasoningEffort := optionalText (event.responseReasoningEffort.getD "") }

/-! ## What is exported is read back -/

section RoundTrip

variable {rfc3339 : DateTime → String} {parseTime : String → Option DateTime}

theorem readNumber_toString (n : Nat) : readNumber (toString n) = some n := by
  rw [readNumber, Nat.toString_eq_repr, Nat.toList_repr]
  exact readDigits_digitsOf n

theorem readInteger_toString (i : Int) : readInteger (toString i) = some i := by
  rw [readInteger, toList_toString, readInt_writeInt]

theorem readBool_toString (b : Bool) : readBool (toString b) = some b := by
  cases b <;> decide

theorem readOptional_getD {α : Type} {readValue : String → Option α} {write : α → String}
    (hRead : ∀ a, readValue (write a) = some a) (hSome : readValue "" = none) (value : Option α) :
    readOptional readValue ((value.map write).getD "") = some value := by
  cases value with
  | none => rfl
  | some a =>
    have hText : write a ≠ "" := by
      intro hEmpty
      have hNone := hRead a
      rw [hEmpty, hSome] at hNone
      cases hNone
    rw [Option.map_some, Option.getD_some, readOptional, if_neg hText, hRead, Option.map_some]

theorem readEvent_csvValues {event : UsageEventRecord}
    (hTime : parseTime (rfc3339 event.createdAt) = some event.createdAt) :
    readEvent parseTime (csvValues rfc3339 event) = some (plain event) := by
  simp only [readEvent, csvValues, hTime, readOptional_getD readInteger_toString rfl,
    readOptional_getD readNumber_toString rfl, readNumber_toString, readInteger_toString,
    readBool_toString, Option.bind_eq_bind, Option.bind_some, plain]

def fieldsOf (values : List String) : List Field := values.map String.toList

theorem ofList_fieldsOf (values : List String) : (fieldsOf values).map String.ofList = values := by
  rw [fieldsOf, List.map_map]
  exact (List.map_congr_left fun value _ => String.ofList_toList).trans (List.map_id values)

/-- No name of a column needs quotes. -/
theorem writeField_column : ∀ column ∈ csvColumns, writeField column.toList = column.toList := by
  decide

theorem csvHeader_toList : csvHeader.toList = writeRecord (fieldsOf csvColumns) := by
  have hFields : (fieldsOf csvColumns).map writeField = csvColumns.map String.toList := by
    rw [fieldsOf, List.map_map]
    exact List.map_congr_left writeField_column
  rw [csvHeader, String.toList_append, String.toList_intercalate, writeRecord, hFields]
  rfl

theorem csvLine_toList (event : UsageEventRecord) :
    (csvLine rfc3339 event).toList = writeRecord (fieldsOf (csvValues rfc3339 event)) := by
  have hFields : ((csvValues rfc3339 event).map csvField).map String.toList =
      (fieldsOf (csvValues rfc3339 event)).map writeField := by
    rw [fieldsOf, List.map_map, List.map_map]
    exact List.map_congr_left fun value _ => String.toList_ofList
  rw [csvLine, String.toList_append, String.toList_intercalate, hFields, writeRecord]
  rfl

theorem usageEventsCsv_toList (events : List UsageEventRecord) :
    (usageEventsCsv rfc3339 events).toList = writeRecords
      (fieldsOf csvColumns :: events.map fun event => fieldsOf (csvValues rfc3339 event)) := by
  have hLines : ∀ output : String,
      (events.foldl (fun output event => output ++ csvLine rfc3339 event) output).toList =
        output.toList ++
          writeRecords (events.map fun event => fieldsOf (csvValues rfc3339 event)) := by
    induction events with
    | nil => exact fun output => (List.append_nil _).symm
    | cons event rest ih =>
      intro output
      rw [List.foldl_cons, ih, String.toList_append, csvLine_toList, List.append_assoc,
        List.map_cons, writeRecords, writeRecords, List.flatMap_cons]
  rw [usageEventsCsv, hLines, csvHeader_toList, writeRecords, writeRecords, List.flatMap_cons]

theorem readExport_usageEventsCsv {events : List UsageEventRecord}
    (hTime : ∀ event ∈ events, parseTime (rfc3339 event.createdAt) = some event.createdAt) :
    readExport parseTime (usageEventsCsv rfc3339 events) = some (events.map plain) := by
  have hFields : ∀ record ∈ fieldsOf csvColumns ::
      events.map (fun event => fieldsOf (csvValues rfc3339 event)), record ≠ [] := by
    intro record hRecord
    rcases List.mem_cons.mp hRecord with rfl | hRecord
    · exact List.cons_ne_nil _ _
    · obtain ⟨event, -, rfl⟩ := List.mem_map.mp hRecord
      exact List.cons_ne_nil _ _
  rw [readExport, usageEventsCsv_toList, read_writeRecords hFields]
  simp only [ofList_fieldsOf, if_true]
  clear hFields
  induction events with
  | nil => rfl
  | cons event rest ih =>
    rw [List.forall_mem_cons] at hTime
    have hRest := ih hTime.2
    rw [List.map_cons, List.mapM_cons, ofList_fieldsOf, readEvent_csvValues hTime.1]
    simp only [Option.bind_eq_bind, Option.bind_some, hRest]
    rfl

end RoundTrip

/-- An export has all events of the filter, the latest first, and is refused when they are
more than it may have.  Reading it gives the events back. -/
theorem usage_export_complete {postgres : Postgres} {rfc3339 : DateTime → String}
    {parseTime : String → Option DateTime} {tables : EventTables} {filter : UsageFilter}
    (hTime : ∀ row ∈ tables.usageEvents, parseTime (rfc3339 row.createdAt) = some row.createdAt) :
    (10000 < (matchingUsage tables filter).length → ∀ format,
      usageExport postgres rfc3339 tables filter format =
        .error "export exceeds 10000 rows; narrow the time range or add filters") ∧
    ((matchingUsage tables filter).length ≤ 10000 → ∃ text,
      usageExport postgres rfc3339 tables filter "csv" = .ok (.csv text) ∧
        readExport parseTime text =
          some ((orderBy usageCursor (usageOrder postgres) (matchingUsage tables filter)).map
            fun row => plain (usageEventSelect row))) := by
  generalize hListed : orderBy usageCursor (usageOrder postgres) (matchingUsage tables filter) =
    listed
  have hPerm : listed.Perm (matchingUsage tables filter) := hListed ▸ orderBy_perm _
  have hEvents : exportUsageEvents postgres tables filter (exportLimit + 1) =
      (listed.take (exportLimit + 1)).map usageEventSelect := by
    rw [exportUsageEvents, ← hListed, matchingUsage]
  have hCount : (exportUsageEvents postgres tables filter (exportLimit + 1)).length =
      min (exportLimit + 1) (matchingUsage tables filter).length := by
    rw [hEvents, List.length_map, List.length_take, hPerm.length_eq]
  have hLimit : exportLimit = 10000 := rfl
  constructor
  · intro hMany format
    have hRefused : exportLimit <
        (exportUsageEvents postgres tables filter (exportLimit + 1)).length := by omega
    rw [usageExport, if_pos hRefused]
    rfl
  · intro hFew
    have hKept : ¬exportLimit <
        (exportUsageEvents postgres tables filter (exportLimit + 1)).length := by omega
    have hAll : listed.take (exportLimit + 1) = listed :=
      List.take_of_length_le (by rw [hPerm.length_eq]; omega)
    refine ⟨_, by rw [usageExport, if_neg hKept, if_pos rfl], ?_⟩
    rw [hEvents, hAll, readExport_usageEventsCsv, List.map_map]
    · rfl
    · intro event hEvent
      obtain ⟨row, hRow, rfl⟩ := List.mem_map.mp hEvent
      have hMatching : row ∈ tables.usageEvents.filter filter.selects := hPerm.mem_iff.mp hRow
      exact hTime row (List.mem_filter.mp hMatching).1

/-- Two requests of one moment, exported and read. -/
theorem usage_export_complete_tied : ∃ text,
    usageExport Tied.postgres (fun _ => "2023-11-14T22:13:20+00:00") Tied.tables {} "csv" =
      .ok (.csv text) ∧
    readExport (fun value =>
        if value = "2023-11-14T22:13:20+00:00" then some Tied.time else none) text =
      some ((orderBy usageCursor (usageOrder Tied.postgres) (matchingUsage Tied.tables {})).map
        fun row => plain (usageEventSelect row)) := by
  have hTime : ∀ row ∈ Tied.tables.usageEvents, (fun value =>
      if value = "2023-11-14T22:13:20+00:00" then some Tied.time else none)
        ((fun _ : DateTime => "2023-11-14T22:13:20+00:00") row.createdAt) =
          some row.createdAt := by decide
  exact (usage_export_complete hTime).2 (by decide)

end AiGateway.Listing
