import AiGateway.Infra.EventFeed

/-!
# Pages of events

What a request for a page selects, how the page and its cursor are cut, and how
the texts of the events on it are cleaned.
-/

namespace AiGateway.Listing

set_option autoImplicit false

open AiGateway.Health AiGateway.Json AiGateway.Keyset AiGateway.Ops AiGateway.Text

/-! ## Cleaning -/

def maxDetailsDepth : Nat := 6
def maxDetailsFields : Nat := 64
def maxDetailsString : Nat := 512

def isControl (c : Char) : Bool := c.toNat < 0x20 || (0x7F ≤ c.toNat && c.toNat ≤ 0x9F)

def looksLikeSecretText (value : String) : Bool :=
  let value := trim value
  let lower := toAsciiLowercase value
  ["sk-", "sk_", "ghp_", "github_pat_", "gw_", "gwenc:", "bearer "].any
      (fun marker => contains lower marker && 16 ≤ value.utf8ByteSize) ||
    ["authorization:", "api_key=", "api-key=", "password=", "credential="].any (contains lower)

def safeText (value : String) (limit : Nat) (fallback : String) : String :=
  let value := String.ofList ((value.toList.filter fun c => !isControl c).take limit)
  if trim value = "" then fallback
  else if looksLikeSecretText value then redacted
  else value

def isSensitiveDetail (key : String) : Bool :=
  let key := toAsciiLowercase key
  ["authorization", "api_key", "api-key", "apikey", "credential", "ciphertext", "secret",
      "password", "token", "key_hash", "prompt", "response", "body", "thinking",
      "signature"].any (contains key) ||
    endsWith key "_key"

def isSensitiveDetailQuery (query : String) : Bool :=
  ["api_key", "api-key", "apikey", "token", "secret", "password"].any
    (contains (toAsciiLowercase query))

section Sanitize

variable (urls : Urls)

def sanitizeDetailString (value : String) : String :=
  let value := safeText value maxDetailsString "[EMPTY]"
  match urls.parse value with
  | none => value
  | some url =>
    let sensitive := url.query.any isSensitiveDetailQuery
    if url.username ≠ "" ∨ url.password.isSome ∨ sensitive ∨ url.fragment.isSome
    then urls.cleaned value sensitive else value

mutual
def sanitizeDetails (depth : Nat) : Value → Value
  | .object fields =>
    if maxDetailsDepth ≤ depth then .string "[TRUNCATED]"
    else .ofFields (sanitizeEntries depth maxDetailsFields fields)
  | .array items =>
    if maxDetailsDepth ≤ depth then .string "[TRUNCATED]"
    else .array (sanitizeValues depth maxDetailsFields items)
  | .string value =>
    if maxDetailsDepth ≤ depth then .string "[TRUNCATED]"
    else .string (sanitizeDetailString urls value)
  | .null => if maxDetailsDepth ≤ depth then .string "[TRUNCATED]" else .null
  | .bool b => if maxDetailsDepth ≤ depth then .string "[TRUNCATED]" else .bool b
  | .number n => if maxDetailsDepth ≤ depth then .string "[TRUNCATED]" else .number n

/-- The first members only, their names cleaned like any text. -/
def sanitizeEntries (depth : Nat) : Nat → List (String × Value) → List (String × Value)
  | 0, _ => []
  | _, [] => []
  | n + 1, (key, value) :: rest =>
    (sanitizeDetailString urls key,
      if isSensitiveDetail key then .string redacted else sanitizeDetails (depth + 1) value) ::
      sanitizeEntries depth n rest

def sanitizeValues (depth : Nat) : Nat → List Value → List Value
  | 0, _ => []
  | _, [] => []
  | n + 1, value :: rest => sanitizeDetails (depth + 1) value :: sanitizeValues depth n rest
end

end Sanitize

/-! ## The page -/

structure EventFilter where
  from? : Option DateTime := none
  since : Option DateTime := none
  to? : Option DateTime := none
  category : Option String := none
  level : Option String := none
  eventType : Option String := none
  subjectType : Option String := none
  subjectId : Option String := none
  correlationId : Option String := none
  source : Option String := none

/-- A condition of a statement whose parameter may be absent. -/
def given {α : Type} (parameter : Option α) (condition : α → Bool) : Bool :=
  parameter.all condition

/-- The conditions look at the columns of the view, not at what is shown of them. -/
def EventFilter.selects (filter : EventFilter) (event : UnifiedEvent) : Bool :=
  given filter.from? (· ≤ event.occurredAt) && given filter.since (· < event.occurredAt) &&
    given filter.to? (event.occurredAt < ·) && given filter.category (event.category = ·) &&
    given filter.level (event.level = ·) && given filter.eventType (event.eventType = ·) &&
    given filter.subjectType (event.subjectType = ·) &&
    given filter.subjectId (event.subjectId = some ·) &&
    given filter.correlationId (event.correlationId = some ·) &&
    given filter.source (event.source = ·)

structure EventRecord where
  eventId : String
  occurredAt : DateTime
  category : String
  eventType : String
  level : String
  subjectType : String
  subjectId : Option String
  correlationId : Option String
  message : String
  details : Value
  source : String

structure EventPage where
  data : List EventRecord
  nextCursor : Option String
  hasMore : Bool

def UnifiedEvent.cursor (event : UnifiedEvent) : EventCursor :=
  { occurredAt := event.occurredAt, eventId := event.eventId }

/-- The columns the statement returns. -/
def selected (event : UnifiedEvent) : EventRecord where
  eventId := event.eventId
  occurredAt := event.occurredAt
  category := event.category
  eventType := event.eventType
  level := event.level
  subjectType := event.subjectType
  subjectId :=
    if event.redactSubjectId || (event.redactCorrelationId && event.subjectId.isSome &&
        event.subjectId = event.correlationId) then some redacted
    else event.subjectId
  correlationId := if event.redactCorrelationId then some redacted else event.correlationId
  message := event.message
  details := event.details
  source := event.source

def EventRecord.cursor (record : EventRecord) : EventCursor :=
  { occurredAt := record.occurredAt, eventId := record.eventId }

def cleaned (urls : Urls) (record : EventRecord) : EventRecord :=
  { record with
    message := sanitizeDetailString urls record.message
    eventType := safeText record.eventType 128 "event"
    subjectType := safeText record.subjectType 64 "subject"
    subjectId := record.subjectId.map (sanitizeDetailString urls)
    correlationId := record.correlationId.map (sanitizeDetailString urls)
    details := sanitizeDetails urls 0 record.details }

/-- Latest first. -/
def eventOrder (postgres : Postgres) (a b : EventCursor) : Bool :=
  newer postgres.less a.key b.key

def clampLimit (limit : Int) : Nat := (max 1 (min limit 500)).toNat

def eventsPage (postgres : Postgres) (urls : Urls) (tables : EventTables) (filter : EventFilter)
    (limit : Int) (cursor : Option EventCursor) : EventPage :=
  let limit := clampLimit limit
  let rows := (unifiedEvents postgres tables).filter fun event =>
    filter.selects event && given cursor (eventOrder postgres · event.cursor)
  let found :=
    ((orderBy UnifiedEvent.cursor (eventOrder postgres) rows).take (limit + 1)).map selected
  let page := cut (fun last => last.cursor.encode) limit found
  { data := page.data.map (cleaned urls)
    nextCursor := page.next
    hasMore := limit < found.length }

theorem eventOrder_strict (postgres : Postgres) : Strict (eventOrder postgres) :=
  (newer_strict postgres.less_strict).comap EventCursor.key_injective

theorem clampLimit_pos (limit : Int) : 0 < clampLimit limit := by
  rw [clampLimit]
  omega

section Listed

variable (postgres : Postgres) (urls : Urls) (tables : EventTables) (filter : EventFilter)

/-- The events a filter asks for. -/
def matchingEvents : List UnifiedEvent := (unifiedEvents postgres tables).filter filter.selects

/-- The page of the feed made of a page of the view. -/
def ofPage (page : Page UnifiedEvent String) : EventPage where
  data := page.data.map fun event => cleaned urls (selected event)
  nextCursor := page.next
  hasMore := page.next.isSome

theorem eventsPage_eq (limit : Int) (cursor : Option EventCursor) :
    eventsPage postgres urls tables filter limit cursor =
      ofPage urls (page UnifiedEvent.cursor (eventOrder postgres) EventCursor.encode
        (clampLimit limit) (matchingEvents postgres tables filter) cursor) := by
  have hRows : ((unifiedEvents postgres tables).filter fun event =>
      filter.selects event && given cursor (eventOrder postgres · event.cursor)) =
        after UnifiedEvent.cursor (eventOrder postgres) cursor
          (matchingEvents postgres tables filter) := by
    rw [after, matchingEvents, List.filter_filter]
    exact List.filter_congr fun event _ => Bool.and_comm _ _
  have hMore := isSome_next_cut (clampLimit_pos limit)
    (fun event : UnifiedEvent => event.cursor.encode)
    ((orderBy UnifiedEvent.cursor (eventOrder postgres)
      (after UnifiedEvent.cursor (eventOrder postgres) cursor
        (matchingEvents postgres tables filter))).take (clampLimit limit + 1))
  simp only [eventsPage, ofPage, page, hRows, hMore, cut_map, List.map_map, List.length_map]
  rfl

/-- The feed is read page by page. -/
theorem events_visits {calendar : Calendar} (hIds : tables.NoCollision postgres)
    (hDates : ∀ event ∈ unifiedEvents postgres tables, calendar.Holds event.occurredAt)
    (limit : Int) :
    Visits UnifiedEvent.cursor (eventOrder postgres) EventCursor.encode
      (EventCursor.decode calendar) EventPage.nextCursor EventPage.data
      (fun event => cleaned urls (selected event))
      (eventsPage postgres urls tables filter limit) (matchingEvents postgres tables filter)
      (orderBy UnifiedEvent.cursor (eventOrder postgres)
        (matchingEvents postgres tables filter)) := by
  have hKeys : ((matchingEvents postgres tables filter).map UnifiedEvent.cursor).Nodup := by
    apply List.Nodup.of_map EventCursor.eventId
    rw [List.map_map]
    exact (EventTables.eventIds_nodup hIds).sublist (List.filter_sublist.map _)
  rw [funext (eventsPage_eq postgres urls tables filter limit)]
  apply visits_of_page (ofPage urls) (fun _ => rfl) (fun _ => rfl) (eventOrder_strict postgres)
    (clampLimit_pos limit) hKeys
  intro event hEvent
  have hView := List.mem_of_mem_filter hEvent
  exact EventCursor.decode_encode (hDates event hView) (EventTables.eventId_ne_empty hView)

end Listed

end AiGateway.Listing
