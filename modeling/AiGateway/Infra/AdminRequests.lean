import AiGateway.Base.Lossy
import AiGateway.Infra.AuditLog

/-!
# What the admin log holds

However many requests come and whatever is in them, the middleware leaves one entry for every
write that the key lets in, of texts that are short and printable.  Handlers write to the same
log, but none of their rows could be taken for one of these, and only the deletion of old rows
removes any.  The entries are the same for payloads of the same shape, whatever else these hold.
-/

namespace AiGateway.Audit

set_option autoImplicit false

open AiGateway.Auth AiGateway.Health AiGateway.Json AiGateway.Proxy AiGateway.Text

/-! ## Printable texts -/

structure Printed (limit : Nat) (s : String) : Prop where
  short : s.toList.length ≤ limit
  printable : ∀ c ∈ s.toList, Listing.isControl c = false

/-- A printable text that says something. -/
structure Named (limit : Nat) (s : String) : Prop extends Printed limit s where
  nonempty : s ≠ ""

theorem trim_empty : trim "" = "" := rfl

theorem Printed.named {limit : Nat} {s : String} (h : Printed limit s) (hText : trim s ≠ "") :
    Named limit s := by
  refine ⟨h, ?_⟩
  rintro rfl
  exact hText trim_empty

theorem Uuid.named (fresh : Uuid) : Named maxRequestIdLen fresh.text := by
  refine ⟨⟨?_, ?_⟩, ?_⟩
  · rw [fresh.length, maxRequestIdLen]
    omega
  · have hDigits : "0123456789abcdef-".toList.all (fun c => !Listing.isControl c) = true := by
      decide
    intro c hc
    have hMem := of_decide_eq_true (List.all_eq_true.mp fresh.spelling c hc)
    simpa using List.all_eq_true.mp hDigits c hMem
  · intro hEmpty
    have hLength := fresh.length
    rw [hEmpty] at hLength
    cases hLength

structure AuditContext.Clean (context : AuditContext) : Prop where
  requestId : Named maxRequestIdLen context.requestId
  actor : Named maxActorLen context.actor
  action : Named maxResourceIdLen context.action
  resourceType : Named maxResourceIdLen context.resourceType
  resourceId : ∀ id ∈ context.resourceId, Printed maxResourceIdLen id
  resource : context.resource = match context.resourceId with
    | some id => context.resourceType ++ "/" ++ id
    | none => context.resourceType
  diff : context.diff.kind = .object

/-- An entry that the table takes, and that anybody may read. -/
structure AuditLog.Clean (row : AuditLog) : Prop where
  checks : row.meetsChecks = true
  outcome : row.status = "succeeded" ↔ row.result = "success"
  requestId : row.requestId = some row.operationId
  operationId : Named maxRequestIdLen row.operationId
  actor : Named maxActorLen row.actor
  action : Named maxResourceIdLen row.action
  resourceId : ∀ id ∈ row.resourceId, Printed maxResourceIdLen id
  resource : ∃ resourceType, row.resourceType = some resourceType ∧
    Named maxResourceIdLen resourceType ∧
    row.resource = some (match row.resourceId with
      | some id => resourceType ++ "/" ++ id
      | none => resourceType)
  errorCode : row.errorCode = none
  errorMessage : row.errorMessage = none

/-- An entry of the middleware, by the request id that no other row has. -/
def AuditLog.ofRequest (row : AuditLog) : Bool := row.requestId.isSome

theorem AuditLog.Clean.ofRequest {row : AuditLog} (h : row.Clean) : row.ofRequest = true := by
  rw [AuditLog.ofRequest, h.requestId]
  rfl

/-- A row that no deletion among the writes is about. -/
def AuditLog.outlives (row : AuditLog) (writes : List LogWrite) : Bool :=
  writes.all fun
    | .appendAudit .. => true
    | .deleteAuditLogs cutoff _ => cutoff ≤ row.createdAt

/-- A request, the identifier for it if it brings none, the time of its entry, and whether
that can be stored. -/
structure Arrival where
  fresh : Uuid
  now : DateTime
  stored : Bool
  request : Request

/-- The request as its handler gets it. -/
def Request.served (request : Request) : Request :=
  if shouldAuditAdminRequest request.method request.path then
    { request with body := auditedBody request }
  else request

/-- What becomes of many requests. -/
structure Run (σ : Type) where
  admin : Admin σ
  statuses : List Nat
  written : List LogWrite
  own : List AuditLog

section Serving

variable {σ τ : Type} (sha256 : Bytes → Bytes) (auth : AdminAuth) (parse : Bytes → Option Value)
  (urls : Ops.Urls)

/-- The requests one after the other. -/
def serveAll (handler : Handler σ) : List Arrival → Admin σ → Run σ
  | [], admin => ⟨admin, [], [], []⟩
  | arrival :: rest, admin =>
    let served := requireAdminAuth sha256 auth parse urls handler arrival.fresh arrival.now
      arrival.stored admin arrival.request
    let final := serveAll handler rest served.admin
    ⟨final.admin, served.status :: final.statuses, served.written ++ final.written,
      served.own ++ final.own⟩

/-- Whether a request leaves an entry. -/
def Arrival.leaves (arrival : Arrival) : Bool :=
  auth.authorized sha256 arrival.request.headers &&
    shouldAuditAdminRequest arrival.request.method arrival.request.path && arrival.stored

/-- The entries of a request that was answered with this status. -/
def Arrival.entries (arrival : Arrival) (status : Nat) : List AuditLog :=
  if arrival.leaves sha256 auth then
    [entryOf parse arrival.fresh arrival.now arrival.request status]
  else []

/-- The handler of the request does its work, and the entry of the request follows. -/
def Arrival.handled (handler : Handler σ) (admin : Admin σ) (arrival : Arrival) : Admin σ :=
  let (state, writes, status) := handler admin arrival.request.served
  ⟨state, runWrites urls writes admin.log ++ arrival.entries sha256 auth parse status⟩

variable {sha256 auth parse urls}
variable {handler : Handler σ} {handler' : Handler τ}

theorem requireAdminAuth_own (arrival : Arrival) (admin : Admin σ) :
    let served := requireAdminAuth sha256 auth parse urls handler arrival.fresh arrival.now
      arrival.stored admin arrival.request
    served.own = arrival.entries sha256 auth parse served.status := by
  by_cases hKey : auth.authorized sha256 arrival.request.headers = true
  · by_cases hAudit : shouldAuditAdminRequest arrival.request.method arrival.request.path = true
    · simp [requireAdminAuth, auditMiddleware, Arrival.entries, Arrival.leaves, hKey, hAudit]
    · simp [requireAdminAuth, auditMiddleware, Handler.serve, Arrival.entries, Arrival.leaves,
        hKey, hAudit]
  · simp [requireAdminAuth, Arrival.entries, Arrival.leaves, hKey]

/-- The entries of requests with these statuses. -/
def entriesOf (sha256 : Bytes → Bytes) (auth : AdminAuth) (parse : Bytes → Option Value) :
    List Arrival → List Nat → List AuditLog
  | arrival :: rest, status :: statuses =>
    arrival.entries sha256 auth parse status ++ entriesOf sha256 auth parse rest statuses
  | _, _ => []

theorem serveAll_own (arrivals : List Arrival) (admin : Admin σ) :
    (serveAll sha256 auth parse urls handler arrivals admin).own =
      entriesOf sha256 auth parse arrivals
        (serveAll sha256 auth parse urls handler arrivals admin).statuses := by
  induction arrivals generalizing admin with
  | nil => rfl
  | cons arrival rest ih =>
    have hStep := @requireAdminAuth_own _ sha256 auth parse urls handler arrival admin
    rw [serveAll, entriesOf, ← hStep, ← ih]

/-- How the log and the state stand after requests.  The entries of the middleware are the only
rows with a request id that are added, and only the deletion of old rows removes a row. -/
structure Audited (sha256 : Bytes → Bytes) (auth : AdminAuth) (parse : Bytes → Option Value)
    (urls : Ops.Urls) (handler : Handler σ) (arrivals : List Arrival) (admin : Admin σ)
    (run : Run σ) : Prop where
  keyed : run.admin =
    (arrivals.filter fun arrival => auth.authorized sha256 arrival.request.headers).foldl
      (Arrival.handled sha256 auth parse urls handler) admin
  entries : run.own.length = (arrivals.filter (Arrival.leaves sha256 auth)).length
  clean : ∀ row ∈ run.own, row.Clean
  added : (run.admin.log.filter AuditLog.ofRequest).Sublist
    (admin.log.filter AuditLog.ofRequest ++ run.own)
  kept : ((admin.log ++ run.own).filter fun row => row.outlives run.written).Sublist run.admin.log

end Serving

/-! ## What the log cannot tell apart -/

/-- The members of a payload whose text an entry may hold. -/
def namingKeys : List String :=
  ["requested_by", "actor", "request_id", "operation_id", "upstream_model_id", "id"]

structure SameAudited (payload payload' : Value) : Prop where
  shape : SameShape isSensitiveKey payload payload'
  names : ∀ key ∈ namingKeys, textOf (some payload) key = textOf (some payload') key
  enabled : payload.get "enabled" = payload'.get "enabled"

inductive SamePayload : Option Value → Option Value → Prop
  | unread : SamePayload none none
  | read {payload payload' : Value} (h : SameAudited payload payload') :
    SamePayload (some payload) (some payload')

section Alike

variable {parse : Bytes → Option Value} {payload payload' : Option Value}

theorem textOf_congr (h : SamePayload payload payload') {key : String} (hKey : key ∈ namingKeys) :
    textOf payload key = textOf payload' key := by
  cases h with
  | unread => rfl
  | read h => exact h.names key hKey

theorem enabledAction_congr (h : SamePayload payload payload') (resource : String) :
    enabledAction resource payload = enabledAction resource payload' := by
  cases h with
  | unread => rfl
  | read h => simp only [enabledAction, Option.bind_some, h.enabled]

theorem summary_congr (h : SamePayload payload payload') :
    payload.map summarizeDiff = payload'.map summarizeDiff := by
  cases h with
  | unread => rfl
  | read h => rw [Option.map_some, Option.map_some, summarizeDiff_of_sameShape h.shape]

theorem classifyPath_congr (h : SamePayload payload payload') (method : Method) (path : String) :
    classifyPath method path payload = classifyPath method path payload' := by
  rw [classifyPath, classifyPath]
  simp only [actionOf, enabledAction_congr h]

theorem resourceIdFromPayload_congr (h : SamePayload payload payload') (resourceType : String) :
    resourceIdFromPayload resourceType payload = resourceIdFromPayload resourceType payload' := by
  rw [resourceIdFromPayload, resourceIdFromPayload]
  split
  · exact textOf_congr h (by decide)
  · exact textOf_congr h (by decide)

theorem contextFromRequest_congr (h : SamePayload payload payload') (fresh : Uuid)
    (method : Method) (path : String) (headers : List (String × Bytes)) :
    contextFromRequest fresh method path headers payload =
      contextFromRequest fresh method path headers payload' := by
  have hRequestedBy : textOf payload "requested_by" = textOf payload' "requested_by" :=
    textOf_congr h (by decide)
  have hActor : textOf payload "actor" = textOf payload' "actor" :=
    textOf_congr h (by decide)
  have hRequestId : textOf payload "request_id" = textOf payload' "request_id" :=
    textOf_congr h (by decide)
  have hOperationId : textOf payload "operation_id" = textOf payload' "operation_id" :=
    textOf_congr h (by decide)
  simp only [contextFromRequest, classifyPath_congr h, summary_congr h,
    resourceIdFromPayload_congr h, hRequestedBy, hActor, hRequestId, hOperationId]

/-- Two requests that differ in nothing that an entry tells of. -/
structure SameArrival (parse : Bytes → Option Value) (arrival arrival' : Arrival) : Prop where
  fresh : arrival.fresh = arrival'.fresh
  now : arrival.now = arrival'.now
  stored : arrival.stored = arrival'.stored
  method : arrival.request.method = arrival'.request.method
  path : arrival.request.path = arrival'.request.path
  headers : arrival.request.headers = arrival'.request.headers
  payload : SamePayload (parse (auditedBody arrival.request))
    (parse (auditedBody arrival'.request))

theorem entries_congr {sha256 : Bytes → Bytes} {auth : AdminAuth} {arrival arrival' : Arrival}
    (h : SameArrival parse arrival arrival') (status : Nat) :
    arrival.entries sha256 auth parse status = arrival'.entries sha256 auth parse status := by
  have hEntry : entryOf parse arrival.fresh arrival.now arrival.request status =
      entryOf parse arrival'.fresh arrival'.now arrival'.request status := by
    rw [entryOf, entryOf, h.fresh, h.now, h.method, h.path, h.headers,
      contextFromRequest_congr h.payload]
  rw [Arrival.entries, Arrival.entries, Arrival.leaves, Arrival.leaves, hEntry, h.headers, h.method,
    h.path, h.stored]

theorem entriesOf_congr {sha256 : Bytes → Bytes} {auth : AdminAuth}
    {arrivals arrivals' : List Arrival} (h : List.Forall₂ (SameArrival parse) arrivals arrivals')
    (statuses : List Nat) :
    entriesOf sha256 auth parse arrivals statuses =
      entriesOf sha256 auth parse arrivals' statuses := by
  induction h generalizing statuses with
  | nil => rfl
  | cons hFirst _ ih =>
    cases statuses with
    | nil => rfl
    | cons status statuses => rw [entriesOf, entriesOf, entries_congr hFirst, ih]

end Alike

/-- For payloads of one shape, with the same few members that name things, the middleware
inserts the same entries when they are answered alike: these tell nothing of what else the
payloads hold. -/
theorem entries_hide_payloads {σ τ : Type} (sha256 : Bytes → Bytes) (auth : AdminAuth)
    (parse : Bytes → Option Value) (urls : Ops.Urls) (handler : Handler σ) (handler' : Handler τ)
    (arrivals arrivals' : List Arrival) (admin : Admin σ) (admin' : Admin τ)
    (hArrivals : List.Forall₂ (SameArrival parse) arrivals arrivals')
    (hStatuses : (serveAll sha256 auth parse urls handler arrivals admin).statuses =
      (serveAll sha256 auth parse urls handler' arrivals' admin').statuses) :
    (serveAll sha256 auth parse urls handler arrivals admin).own =
      (serveAll sha256 auth parse urls handler' arrivals' admin').own := by
  rw [serveAll_own, serveAll_own, hStatuses, entriesOf_congr hArrivals]

namespace Retained

/-- The digest of the key `k`. -/
def digest : Bytes :=
  [0x82, 0x54, 0xC3, 0x29, 0xA9, 0x28, 0x50, 0xF6, 0xD5, 0x39, 0xDD, 0x37, 0x6F, 0x48, 0x16, 0xEE,
    0x27, 0x64, 0x51, 0x7D, 0xA5, 0xE0, 0x23, 0x55, 0x14, 0xAF, 0x43, 0x31, 0x64, 0x48, 0x0D, 0x7A]

def body (days : String) : Bytes :=
  utf8 ("\x7b\"audit\":\x7b\"retention_days\":" ++ days ++ "\x7d\x7d")

def payload (days : UInt64) : Value :=
  .object [("audit", .object [("retention_days", .number (.posInt days))])]

def parse (bytes : Bytes) : Option Value :=
  if bytes = body "30" then some (payload 30)
  else if bytes = body "60" then some (payload 60)
  else none

/-- The update of a policy, which keeps the number of days in a row of its own. -/
def handler : Handler Unit := fun _ request =>
  let days := ((parse request.body).bind fun value =>
    (value.get "audit").bind fun policy => policy.get "retention_days").getD .null
  let details := Value.object
    [("enabled", .bool true), ("policy_key", .string "audit"), ("retention_days", days)]
  ((), [.appendAudit 0 "retention-policy:audit" "retention.policy.updated" "succeeded" "admin_api"
    details none none], 200)

def arrival (days : String) : Arrival where
  fresh := ⟨"6e2b0f3c-6a3e-4c53-9d0e-0c8a7b1d2f45", by decide, by decide⟩
  now := 0
  stored := true
  request := ⟨.put, "/admin/retention/policies", [("x-api-key", [0x6B])], body days⟩

def run (days : String) : Run Unit :=
  serveAll (fun _ => digest) ⟨some digest⟩ parse noUrls handler [arrival days] ⟨(), []⟩

end Retained

/-- The entries do not tell the days, which the rows of the handler do. -/
theorem days_are_hidden : (Retained.run "30").own = (Retained.run "60").own ∧
    (Retained.run "30").own.length = 1 ∧
    (Retained.run "30").admin.log.map AuditLog.details ≠
      (Retained.run "60").admin.log.map AuditLog.details := by
  have hShape : SameShape isSensitiveKey (Retained.payload 30) (Retained.payload 60) :=
    .object (.shown (.object (.shown (.leaf (by decide) rfl) .nil)) .nil)
  have hAudited : SameAudited (Retained.payload 30) (Retained.payload 60) :=
    ⟨hShape, by decide, rfl⟩
  have hArrival : SameArrival Retained.parse (Retained.arrival "30") (Retained.arrival "60") :=
    ⟨rfl, rfl, rfl, rfl, rfl, rfl, .read hAudited⟩
  refine ⟨?_, by decide, by decide⟩
  exact entries_hide_payloads _ _ _ _ _ _ _ _ _ _ (.cons hArrival .nil) (by decide)

end AiGateway.Audit
