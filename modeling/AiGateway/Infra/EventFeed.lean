import AiGateway.Infra.Cursors
import AiGateway.Infra.Migrations

/-!
# The event feed

The rows of five tables are read as events of one kind.  A page of them is cut
from the database, latest first, and its texts are cleaned before they are shown.
-/

namespace AiGateway.Listing

set_option autoImplicit false

open AiGateway.Health AiGateway.Json AiGateway.Keyset AiGateway.Migrations AiGateway.Ops
  AiGateway.Text

/-! ## Rows -/

structure SystemEventRow where
  id : Int
  occurredAt : DateTime
  category : String
  eventType : String
  level : String
  subjectType : String
  subjectId : Option String
  correlationId : Option String
  message : String
  details : Value

/-- An entry of the audit log.  Its actor is never null and never shown. -/
structure AuditLogRow where
  id : Int
  operationId : String
  action : String
  status : String
  details : Value
  errorCode : Option String
  createdAt : DateTime
  completedAt : Option DateTime
  requestId : Option String
  resourceType : Option String
  resourceId : Option String
  resource : Option String
  result : String

structure HealthEventRow where
  id : Int
  accountId : String
  status : String
  source : String
  observedAt : DateTime
  cooldownUntil : Option DateTime
  consecutiveFailures : Int
  errorCode : Option String
  connectionTestId : Option Int
  latencyMs : Option Int

/-- A run of the discovery.  Who asked for it is never null and never shown. -/
structure DiscoveryRunRow where
  id : Int
  sourceId : String
  accountId : Option String
  providerPresetId : String
  providerPresetVersion : Int
  status : String
  discoveredModelCount : Int
  httpStatus : Option Int
  latencyMs : Int
  errorCode : Option String
  completedAt : DateTime

/-- The tables of the feed, with their keys. -/
structure EventTables where
  systemEvents : List SystemEventRow := []
  auditLogs : List AuditLogRow := []
  accountHealthEvents : List HealthEventRow := []
  sourceDiscoveryRuns : List DiscoveryRunRow := []
  usageEvents : List UsageEventRow := []
  systemEvents_nodup : (systemEvents.map SystemEventRow.id).Nodup
  auditLogs_nodup : (auditLogs.map AuditLogRow.id).Nodup
  accountHealthEvents_nodup : (accountHealthEvents.map HealthEventRow.id).Nodup
  sourceDiscoveryRuns_nodup : (sourceDiscoveryRuns.map DiscoveryRunRow.id).Nodup
  usageEvents_nodup : (usageEvents.map fun row => row.event.requestId).Nodup

/-- What the statements leave to the database: a digest, the text of a time in a
document and the order of texts. -/
structure Postgres where
  md5 : String → String
  timestampText : DateTime → String
  less : String → String → Bool
  less_strict : Strict less

/-! ## The unified view -/

structure UnifiedEvent where
  eventId : String
  occurredAt : DateTime
  category : String
  eventType : String
  level : String
  subjectType : String
  subjectId : Option String
  correlationId : Option String
  message : String
  details : Value
  source : String
  redactSubjectId : Bool
  redactCorrelationId : Bool

def text? : Option String → Value
  | none => .null
  | some text => .string text

def int? : Option Int → Value
  | none => .null
  | some i => .ofInt i

mutual
/-- Members that are null are left out, at every depth. -/
def jsonbStripNulls : Value → Value
  | .object fields => .object (stripFields fields)
  | .array items => .array (stripItems items)
  | .null => .null
  | .bool b => .bool b
  | .number n => .number n
  | .string s => .string s

def stripItems : List Value → List Value
  | [] => []
  | value :: rest => jsonbStripNulls value :: stripItems rest

def stripFields : List (String × Value) → List (String × Value)
  | [] => []
  | (_, .null) :: rest => stripFields rest
  | (key, value) :: rest => (key, jsonbStripNulls value) :: stripFields rest
end

def details (entries : List (String × Value)) : Value := jsonbStripNulls (.ofFields entries)

def nullIfEmpty (text : Option String) : Option String := text.filter (· ≠ "")

def ofSystemEvent (row : SystemEventRow) : UnifiedEvent where
  eventId := "system:" ++ toString row.id
  occurredAt := row.occurredAt
  category := row.category
  eventType := row.eventType
  level := row.level
  subjectType := row.subjectType
  subjectId := row.subjectId
  correlationId := row.correlationId
  message := row.message
  details := row.details
  source := "system_events"
  redactSubjectId := false
  redactCorrelationId := row.category = "configuration" && row.correlationId.isSome

section View

variable (postgres : Postgres)

def timestamp? (time : Option DateTime) : Value := text? (time.map postgres.timestampText)

def ofAuditLog (row : AuditLogRow) : UnifiedEvent where
  eventId := "audit:" ++ toString row.id
  occurredAt := row.createdAt
  category :=
    if startsWith row.action "retention." || startsWith row.action "backup." then "operation"
    else "admin"
  eventType := row.action
  level :=
    if row.status = "cancel_requested" || row.status = "cancelled" then "warning"
    else if ["failure", "conflict", "rollback"].contains row.result || row.status = "failed" then
      "error"
    else "info"
  subjectType := row.resourceType.getD "operation"
  subjectId := some (row.resourceId.getD row.operationId)
  correlationId := some ((nullIfEmpty row.requestId).getD row.operationId)
  message := row.action
  details := details [("status", .string row.status), ("result", .string row.result),
    ("actor", .string redacted), ("resource", text? row.resource),
    ("error_code", text? row.errorCode), ("completed_at", timestamp? postgres row.completedAt),
    ("metadata", row.details)]
  source := "audit_logs"
  redactSubjectId := (nullIfEmpty row.requestId).isSome && row.resourceId.isNone
  redactCorrelationId := (nullIfEmpty row.requestId).isSome

def ofHealthEvent (row : HealthEventRow) : UnifiedEvent where
  eventId := "health:" ++ toString row.id
  occurredAt := row.observedAt
  category := "health"
  eventType := "account.health." ++ row.status
  level :=
    if ["cooling_down", "unhealthy", "stale"].contains row.status then "warning" else "info"
  subjectType := "account"
  subjectId := some row.accountId
  correlationId := row.connectionTestId.map fun id => "connection-test:" ++ toString id
  message := "Account health changed to " ++ row.status
  details := details [("status", .string row.status), ("health_source", .string row.source),
    ("cooldown_until", timestamp? postgres row.cooldownUntil),
    ("consecutive_failures", .ofInt row.consecutiveFailures),
    ("error_code", text? row.errorCode), ("connection_test_id", int? row.connectionTestId),
    ("latency_ms", int? row.latencyMs)]
  source := "account_health_events"
  redactSubjectId := false
  redactCorrelationId := false

def ofDiscoveryRun (row : DiscoveryRunRow) : UnifiedEvent where
  eventId := "discovery:" ++ toString row.id
  occurredAt := row.completedAt
  category := "discovery"
  eventType := "source.discovery." ++ row.status
  level := if row.status = "succeeded" then "info" else "error"
  subjectType := "source"
  subjectId := some row.sourceId
  correlationId := some ("discovery:" ++ toString row.id)
  message := "Model discovery " ++ row.status
  details := details [("account_id", text? row.accountId),
    ("provider_preset_id", .string row.providerPresetId),
    ("provider_preset_version", .ofInt row.providerPresetVersion),
    ("discovered_model_count", .ofInt row.discoveredModelCount),
    ("http_status", int? row.httpStatus), ("latency_ms", .ofInt row.latencyMs),
    ("error_code", text? row.errorCode), ("requested_by", .string redacted)]
  source := "source_discovery_runs"
  redactSubjectId := false
  redactCorrelationId := false

/-- Only requests that failed, fell back or were degraded are events. -/
def isNotable (row : UsageEventRow) : Bool :=
  !row.event.success || row.event.fallbackReason.isSome || row.event.degraded

def ofUsageEvent (row : UsageEventRow) : UnifiedEvent where
  eventId := "request:" ++ postgres.md5 row.event.requestId
  occurredAt := row.createdAt
  category := "request"
  eventType :=
    if !row.event.success then "request.failed"
    else if row.event.fallbackReason.isSome then "request.fallback"
    else "request.degraded"
  level := if !row.event.success then "error" else "warning"
  subjectType := "request"
  subjectId := some row.event.requestId
  correlationId := some row.event.requestId
  message :=
    if !row.event.success then "Gateway request failed"
    else if row.event.fallbackReason.isSome then "Gateway request used fallback"
    else "Gateway request used degraded routing"
  details := details [("logical_model", .string row.event.logicalModel),
    ("upstream_model_id", text? row.event.upstreamModelId),
    ("provider_id", .string row.providerId), ("source_id", text? row.sourceId),
    ("account_id", .string row.event.accountId), ("protocol_in", .string row.event.protocolIn),
    ("protocol_upstream", .string row.event.protocolUpstream),
    ("status_code", .ofInt row.event.statusCode), ("retry_count", .ofInt row.event.retryCount),
    ("route_id", text? row.event.routeId), ("streamed", .bool row.event.streamed),
    ("fallback_reason", text? row.event.fallbackReason),
    ("error_summary", text? row.event.errorSummary)]
  source := "usage_events"
  redactSubjectId := false
  redactCorrelationId := false

def unifiedEvents (tables : EventTables) : List UnifiedEvent :=
  tables.systemEvents.map ofSystemEvent ++ tables.auditLogs.map (ofAuditLog postgres) ++
    tables.accountHealthEvents.map (ofHealthEvent postgres) ++
    tables.sourceDiscoveryRuns.map ofDiscoveryRun ++
    (tables.usageEvents.filter isNotable).map (ofUsageEvent postgres)

end View

/-! ## Ids of events -/

/-- Texts of different kinds begin with different characters. -/
def Headed (first : Char) (ids : List String) : Prop :=
  ∀ id ∈ ids, id.toList.head? = some first

theorem nodup_of_headed : ∀ {kinds : List (Char × List String)}, (kinds.map Prod.fst).Nodup →
    (∀ kind ∈ kinds, Headed kind.1 kind.2 ∧ kind.2.Nodup) → (kinds.flatMap Prod.snd).Nodup := by
  intro kinds
  induction kinds with
  | nil =>
    intro _ _
    exact List.nodup_nil
  | cons kind kinds ih =>
    intro hFirsts hKinds
    obtain ⟨hOther, hFirsts⟩ := List.nodup_cons.mp hFirsts
    obtain ⟨⟨hHeaded, hKind⟩, hKinds⟩ := List.forall_mem_cons.mp hKinds
    rw [List.flatMap_cons]
    apply List.nodup_append.mpr
    refine ⟨hKind, ih hFirsts hKinds, ?_⟩
    rintro id hId id' hId' rfl
    obtain ⟨kind', hMem, hId'⟩ := List.mem_flatMap.mp hId'
    have hSame : kind.1 = kind'.1 :=
      Option.some.inj ((hHeaded id hId).symm.trans ((hKinds kind' hMem).1 id hId'))
    exact hOther (hSame ▸ List.mem_map_of_mem hMem)

section Prefixed

variable {α : Type} {first : Char} {tag : String}

theorem headed_map (hTag : tag.toList.head? = some first) (name : α → String) (rows : List α) :
    Headed first (rows.map fun row => tag ++ name row) := by
  intro id hId
  obtain ⟨row, -, rfl⟩ := List.mem_map.mp hId
  rw [String.toList_append, List.head?_append, hTag]
  rfl

theorem nodup_map_append (tag : String) {name : α → String} {rows : List α}
    (h : (rows.map name).Nodup) : (rows.map fun row => tag ++ name row).Nodup := by
  have hMap : (rows.map fun row => tag ++ name row) = (rows.map name).map (tag ++ ·) := by
    rw [List.map_map]
    rfl
  rw [hMap]
  exact h.map fun _ _ hSame => (String.append_right_inj tag).mp hSame

end Prefixed

/-- The numbered rows of a table have ids of their own. -/
theorem nodup_numbered {α : Type} (tag : String) {id : α → Int} {rows : List α}
    (h : (rows.map id).Nodup) : (rows.map fun row => tag ++ toString (id row)).Nodup := by
  apply nodup_map_append
  have hMap : (rows.map fun row => toString (id row)) = (rows.map id).map toString := by
    rw [List.map_map]
    rfl
  rw [hMap]
  exact h.map IntText.toString_injective

namespace EventTables

variable {postgres : Postgres} {tables : EventTables}

/-- No two requests of the table have one digest. -/
def NoCollision (postgres : Postgres) (tables : EventTables) : Prop :=
  ∀ row ∈ tables.usageEvents, ∀ row' ∈ tables.usageEvents,
    postgres.md5 row.event.requestId = postgres.md5 row'.event.requestId →
      row.event.requestId = row'.event.requestId

def kinds (postgres : Postgres) (tables : EventTables) : List (Char × List String) :=
  [('s', tables.systemEvents.map fun row => "system:" ++ toString row.id),
    ('a', tables.auditLogs.map fun row => "audit:" ++ toString row.id),
    ('h', tables.accountHealthEvents.map fun row => "health:" ++ toString row.id),
    ('d', tables.sourceDiscoveryRuns.map fun row => "discovery:" ++ toString row.id),
    ('r', (tables.usageEvents.filter isNotable).map fun row =>
      "request:" ++ postgres.md5 row.event.requestId)]

theorem eventIds_eq_kinds (postgres : Postgres) (tables : EventTables) :
    (unifiedEvents postgres tables).map UnifiedEvent.eventId =
      (tables.kinds postgres).flatMap Prod.snd := by
  simp only [unifiedEvents, List.map_append, List.map_map, kinds, List.flatMap_cons,
    List.flatMap_nil, List.append_nil, List.append_assoc]
  rfl

theorem headed_kinds {kind : Char × List String} (h : kind ∈ tables.kinds postgres) :
    Headed kind.1 kind.2 := by
  rw [kinds] at h
  simp only [List.mem_cons, List.not_mem_nil, or_false] at h
  rcases h with rfl | rfl | rfl | rfl | rfl
  · exact headed_map rfl _ _
  · exact headed_map rfl _ _
  · exact headed_map rfl _ _
  · exact headed_map rfl _ _
  · exact headed_map rfl _ _

theorem requests_nodup (h : tables.NoCollision postgres) :
    (tables.usageEvents.map fun row => postgres.md5 row.event.requestId).Nodup := by
  have hIds := List.pairwise_map.mp tables.usageEvents_nodup
  refine List.pairwise_map.mpr (hIds.imp_of_mem ?_)
  rintro row row' hRow hRow' hOther hSame
  exact hOther (h row hRow row' hRow' hSame)

theorem eventId_ne_empty {event : UnifiedEvent} (h : event ∈ unifiedEvents postgres tables) :
    event.eventId ≠ "" := by
  intro hEmpty
  have hId : event.eventId ∈ (tables.kinds postgres).flatMap Prod.snd := by
    rw [← eventIds_eq_kinds]
    exact List.mem_map_of_mem h
  obtain ⟨kind, hKind, hMem⟩ := List.mem_flatMap.mp hId
  have hHead := headed_kinds hKind _ hMem
  rw [hEmpty] at hHead
  cases hHead

theorem eventIds_nodup (h : tables.NoCollision postgres) :
    ((unifiedEvents postgres tables).map UnifiedEvent.eventId).Nodup := by
  rw [eventIds_eq_kinds]
  refine nodup_of_headed (by simp [kinds]) fun kind hKind => ⟨headed_kinds hKind, ?_⟩
  rw [kinds] at hKind
  simp only [List.mem_cons, List.not_mem_nil, or_false] at hKind
  rcases hKind with rfl | rfl | rfl | rfl | rfl
  · exact nodup_numbered _ tables.systemEvents_nodup
  · exact nodup_numbered _ tables.auditLogs_nodup
  · exact nodup_numbered _ tables.accountHealthEvents_nodup
  · exact nodup_numbered _ tables.sourceDiscoveryRuns_nodup
  · apply nodup_map_append
    exact (requests_nodup h).sublist (List.filter_sublist.map _)

end EventTables

end AiGateway.Listing
