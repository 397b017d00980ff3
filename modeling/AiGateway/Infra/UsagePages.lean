import AiGateway.Infra.EventPages
import Mathlib.Data.String.Basic

/-!
# Pages of usage events

The listing of recorded requests, cut into pages like the event feed.
-/

namespace AiGateway.Listing

set_option autoImplicit false

open AiGateway.Health AiGateway.Keyset AiGateway.Migrations AiGateway.Ops

structure UsageFilter where
  from? : Option DateTime := none
  to? : Option DateTime := none
  logicalModel : Option String := none
  upstreamModelId : Option String := none
  providerId : Option String := none
  sourceId : Option String := none
  clientSource : Option String := none
  accountId : Option String := none
  protocolIn : Option String := none
  protocolUpstream : Option String := none
  virtualKeyId : Option Int := none
  success : Option Bool := none
  statusCode : Option Int := none
  usageSource : Option String := none

/-- The clauses of the statement, one for each parameter that is given. -/
def UsageFilter.selects (filter : UsageFilter) (row : UsageEventRow) : Bool :=
  given filter.from? (· ≤ row.createdAt) && given filter.to? (row.createdAt < ·) &&
    given filter.logicalModel (row.event.logicalModel = ·) &&
    given filter.upstreamModelId (row.event.upstreamModelId = some ·) &&
    given filter.providerId (row.providerId = ·) &&
    given filter.sourceId (row.sourceId = some ·) &&
    given filter.clientSource (row.event.clientSource = ·) &&
    given filter.accountId (row.event.accountId = ·) &&
    given filter.protocolIn (row.event.protocolIn = ·) &&
    given filter.protocolUpstream (row.event.protocolUpstream = ·) &&
    given filter.usageSource (row.event.usageSource = ·) &&
    given filter.virtualKeyId (row.event.virtualKeyId = some ·) &&
    given filter.success (row.event.success = ·) &&
    given filter.statusCode (row.event.statusCode = ·)

structure UsageEventRecord where
  requestId : String
  virtualKeyId : Option Int
  providerId : String
  accountId : String
  logicalModel : String
  upstreamModelId : Option String
  sourceId : Option String
  clientSource : String
  protocolIn : String
  protocolUpstream : String
  mode : String
  statusCode : Nat
  success : Bool
  retryCount : Nat
  latencyMs : Nat
  ttftMs : Option Nat
  inputTokens : Int
  outputTokens : Int
  reasoningTokens : Int
  cachedTokens : Int
  cacheReadTokens : Int
  cacheCreationTokens : Int
  totalTokens : Int
  usageSource : String
  degraded : Bool
  routeId : Option String
  streamed : Bool
  errorSummary : Option String
  fallbackReason : Option String
  responseModel : Option String
  requestedReasoningEffort : Option String
  responseReasoningEffort : Option String
  createdAt : DateTime

/-- The columns the statement returns. -/
def usageEventSelect (row : UsageEventRow) : UsageEventRecord where
  requestId := row.event.requestId
  virtualKeyId := row.event.virtualKeyId
  providerId := row.providerId
  accountId := row.event.accountId
  logicalModel := row.event.logicalModel
  upstreamModelId := row.event.upstreamModelId
  sourceId := row.sourceId
  clientSource := row.event.clientSource
  protocolIn := row.event.protocolIn
  protocolUpstream := row.event.protocolUpstream
  mode := row.event.mode
  statusCode := row.event.statusCode
  success := row.event.success
  retryCount := row.event.retryCount
  latencyMs := row.event.latencyMs
  ttftMs := row.event.ttftMs
  inputTokens := row.event.inputTokens
  outputTokens := row.event.outputTokens
  reasoningTokens := row.event.reasoningTokens
  cachedTokens := row.event.cachedTokens
  cacheReadTokens := row.event.cacheReadTokens
  cacheCreationTokens := row.event.cacheCreationTokens
  totalTokens := row.event.totalTokens
  usageSource := row.event.usageSource
  degraded := row.event.degraded
  routeId := row.event.routeId
  streamed := row.event.streamed
  errorSummary := row.event.errorSummary
  fallbackReason := row.event.fallbackReason
  responseModel := row.event.responseModel
  requestedReasoningEffort := row.event.requestedReasoningEffort
  responseReasoningEffort := row.event.responseReasoningEffort
  createdAt := row.createdAt

structure UsageEventPage where
  data : List UsageEventRecord
  nextCursor : Option String
  hasMore : Bool

def UsageEventRecord.cursor (record : UsageEventRecord) : UsageCursor :=
  { createdAt := record.createdAt, requestId := record.requestId }

def usageCursor (row : UsageEventRow) : UsageCursor :=
  { createdAt := row.createdAt, requestId := row.event.requestId }

/-- Latest first. -/
def usageOrder (postgres : Postgres) (a b : UsageCursor) : Bool := newer postgres.less a.key b.key

def listUsageEventsPage (postgres : Postgres) (tables : EventTables) (filter : UsageFilter)
    (limit : Int) (cursor : Option UsageCursor) : UsageEventPage :=
  let limit := clampLimit limit
  let rows := tables.usageEvents.filter fun row =>
    filter.selects row && given cursor (usageOrder postgres · (usageCursor row))
  let found :=
    ((orderBy usageCursor (usageOrder postgres) rows).take (limit + 1)).map usageEventSelect
  let page := cut (fun last => last.cursor.encode) limit found
  { data := page.data, nextCursor := page.next, hasMore := limit < found.length }

theorem usageOrder_strict (postgres : Postgres) : Strict (usageOrder postgres) :=
  (newer_strict postgres.less_strict).comap UsageCursor.key_injective

section Listed

variable (postgres : Postgres) (tables : EventTables) (filter : UsageFilter)

def matchingUsage : List UsageEventRow := tables.usageEvents.filter filter.selects

def ofUsagePage (page : Page UsageEventRow String) : UsageEventPage where
  data := page.data.map usageEventSelect
  nextCursor := page.next
  hasMore := page.next.isSome

theorem listUsageEventsPage_eq (limit : Int) (cursor : Option UsageCursor) :
    listUsageEventsPage postgres tables filter limit cursor =
      ofUsagePage (page usageCursor (usageOrder postgres) UsageCursor.encode
        (clampLimit limit) (matchingUsage tables filter) cursor) := by
  have hRows : (tables.usageEvents.filter fun row =>
      filter.selects row && given cursor (usageOrder postgres · (usageCursor row))) =
        after usageCursor (usageOrder postgres) cursor (matchingUsage tables filter) := by
    rw [after, matchingUsage, List.filter_filter]
    exact List.filter_congr fun row _ => Bool.and_comm _ _
  have hMore := isSome_next_cut (clampLimit_pos limit)
    (fun row : UsageEventRow => (usageCursor row).encode)
    ((orderBy usageCursor (usageOrder postgres)
      (after usageCursor (usageOrder postgres) cursor
        (matchingUsage tables filter))).take (clampLimit limit + 1))
  simp only [listUsageEventsPage, ofUsagePage, page, hRows, hMore, cut_map, List.length_map]
  rfl

/-- The recorded requests are read page by page. -/
theorem usage_visits {calendar : Calendar}
    (hRows : ∀ row ∈ tables.usageEvents,
      calendar.Holds row.createdAt ∧ row.event.requestId ≠ "") (limit : Int) :
    Visits usageCursor (usageOrder postgres) UsageCursor.encode (UsageCursor.decode calendar)
      UsageEventPage.nextCursor UsageEventPage.data usageEventSelect
      (listUsageEventsPage postgres tables filter limit) (matchingUsage tables filter)
      (orderBy usageCursor (usageOrder postgres) (matchingUsage tables filter)) := by
  have hKeys : ((matchingUsage tables filter).map usageCursor).Nodup := by
    apply List.Nodup.of_map UsageCursor.requestId
    rw [List.map_map]
    exact tables.usageEvents_nodup.sublist (List.filter_sublist.map _)
  rw [funext (listUsageEventsPage_eq postgres tables filter limit)]
  apply visits_of_page ofUsagePage (fun _ => rfl) (fun _ => rfl) (usageOrder_strict postgres)
    (clampLimit_pos limit) hKeys
  intro row hRow
  obtain ⟨hTime, hId⟩ := hRows row (List.mem_of_mem_filter hRow)
  exact UsageCursor.decode_encode hTime hId

end Listed

/-! ## Both listings -/

/-- What the gateway writes into the tables: times the date library has, requests
with ids, and ids whose digests differ. -/
structure EventTables.Readable (tables : EventTables) (postgres : Postgres)
    (calendar : Calendar) : Prop where
  noCollision : tables.NoCollision postgres
  dated : ∀ event ∈ unifiedEvents postgres tables, calendar.Holds event.occurredAt
  requests : ∀ row ∈ tables.usageEvents, calendar.Holds row.createdAt ∧ row.event.requestId ≠ ""

/-- Following the cursors of either listing, from the first page until a page
names none, shows every row that matches the filter once and in order. -/
theorem pages_visit_once (postgres : Postgres) (calendar : Calendar) (urls : Urls)
    (tables : EventTables) (hTables : tables.Readable postgres calendar)
    (eventFilter : EventFilter) (usageFilter : UsageFilter) (limit : Int) :
    (∃ listing, Visits UnifiedEvent.cursor (eventOrder postgres) EventCursor.encode
      (EventCursor.decode calendar) EventPage.nextCursor EventPage.data
      (fun event => cleaned urls (selected event))
      (eventsPage postgres urls tables eventFilter limit)
      ((unifiedEvents postgres tables).filter eventFilter.selects) listing) ∧
    ∃ listing, Visits usageCursor (usageOrder postgres) UsageCursor.encode
      (UsageCursor.decode calendar) UsageEventPage.nextCursor UsageEventPage.data usageEventSelect
      (listUsageEventsPage postgres tables usageFilter limit)
      (tables.usageEvents.filter usageFilter.selects) listing :=
  ⟨⟨_, events_visits postgres urls tables eventFilter hTables.noCollision hTables.dated limit⟩,
    ⟨_, usage_visits postgres tables usageFilter hTables.requests limit⟩⟩

/-! ## A feed with a tie -/

namespace Tied

def failed : Proxy.UsageEvent where
  requestId := "5f0c6a52-9d0e-4a55-9a63-0a3a5b6c7d11"
  virtualKeyId := none
  providerId := "custom"
  accountId := "a"
  model := "m"
  logicalModel := "m"
  upstreamModelId := some "m"
  sourceId := "s"
  clientSource := "unknown"
  protocolIn := "openai_chat_completions"
  protocolUpstream := "openai_chat_completions"
  mode := "native"
  statusCode := 500
  success := false
  retryCount := 0
  latencyMs := 12
  ttftMs := none
  inputTokens := 0
  outputTokens := 0
  reasoningTokens := 0
  cachedTokens := 0
  cacheReadTokens := 0
  cacheCreationTokens := 0
  totalTokens := 0
  usageSource := "missing"
  degraded := false
  routeId := none
  streamed := false
  errorSummary := some "upstream error"
  fallbackReason := none
  responseModel := none
  requestedReasoningEffort := none
  responseReasoningEffort := none

def served : Proxy.UsageEvent :=
  { failed with
    requestId := "c2d1f0aa-7b7e-4c8f-8f0e-2b1d9e4a6f22", statusCode := 200, success := true,
    errorSummary := none }

def time : DateTime := 1700000000000000

def tables : EventTables where
  systemEvents := [⟨1, time, "configuration", "configuration.published", "info", "runtime", none,
    some "op-1", "Configuration published", .object []⟩]
  accountHealthEvents := [⟨1, "a", "unhealthy", "passive", time, none, 3, none, none, none⟩]
  usageEvents := [⟨"custom", some "s", failed, time⟩, ⟨"custom", some "s", served, time⟩]
  systemEvents_nodup := by decide
  auditLogs_nodup := by decide
  accountHealthEvents_nodup := by decide
  sourceDiscoveryRuns_nodup := by decide
  usageEvents_nodup := by decide

/-- The digests of the two ids, and texts in the order of their code points. -/
def postgres : Postgres where
  md5 text :=
    if text = failed.requestId then "2b6357b6cad35a53d2c1f6075a8e7eb0"
    else "cda96246e4330ddf52f270c81eff9661"
  timestampText time := toString time
  less a b := decide (a < b)
  less_strict :=
    { irrefl := fun a => decide_eq_false (lt_irrefl a)
      trans := fun _ _ _ hab hbc => by
        rw [decide_eq_true_iff] at hab hbc ⊢
        exact hab.trans hbc
      total := fun _ _ hOther => by
        rw [decide_eq_true_iff, decide_eq_true_iff]
        exact lt_or_gt_of_ne hOther }

def calendar : Calendar where
  earliest := -8334601228800000000
  latest := 8210266876799999999
  earliest_ge := by decide
  latest_lt := by decide

def urls : Urls where
  parse _ := none
  cleaned value _ := value

theorem readable : tables.Readable postgres calendar where
  noCollision := by
    rintro row hRow row' hRow' hSame
    obtain rfl | ⟨rfl⟩ := List.mem_pair.mp hRow <;> obtain rfl | ⟨rfl⟩ := List.mem_pair.mp hRow'
    · rfl
    · exact absurd hSame (by decide)
    · exact absurd hSame (by decide)
    · rfl
  dated := by
    rintro event hEvent
    have hTimes : (unifiedEvents postgres tables).map UnifiedEvent.occurredAt =
        [time, time, time] := rfl
    have hTime : event.occurredAt ∈ [time, time, time] := hTimes ▸ List.mem_map_of_mem hEvent
    rw [show event.occurredAt = time by simpa using hTime]
    decide
  requests := by
    rintro row hRow
    obtain rfl | ⟨rfl⟩ := List.mem_pair.mp hRow
    · decide
    · decide

end Tied

theorem pages_visit_once_tied :
    (∃ listing, Visits UnifiedEvent.cursor (eventOrder Tied.postgres) EventCursor.encode
      (EventCursor.decode Tied.calendar) EventPage.nextCursor EventPage.data
      (fun event => cleaned Tied.urls (selected event))
      (eventsPage Tied.postgres Tied.urls Tied.tables {} 1)
      ((unifiedEvents Tied.postgres Tied.tables).filter (EventFilter.selects {})) listing) ∧
    ∃ listing, Visits usageCursor (usageOrder Tied.postgres) UsageCursor.encode
      (UsageCursor.decode Tied.calendar) UsageEventPage.nextCursor UsageEventPage.data
      usageEventSelect (listUsageEventsPage Tied.postgres Tied.tables {} 1)
      (Tied.tables.usageEvents.filter (UsageFilter.selects {})) listing :=
  pages_visit_once Tied.postgres Tied.calendar Tied.urls Tied.tables Tied.readable {} {} 1

end AiGateway.Listing
