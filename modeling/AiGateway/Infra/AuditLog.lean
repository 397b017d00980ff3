import AiGateway.Infra.Auth
import AiGateway.Infra.Noninterference

/-!
# The audit log of the admin interface

A write, or the reading of a virtual key, is served inside a context that is taken from its
request, and leaves an entry with what the context says and how the response turned out.
A request without the admin key gets no further than the check of it.  The log is a table of
the database like any other: handlers of retention and backup add rows of their own, and a
cleanup deletes old ones.
-/

namespace AiGateway.Audit

set_option autoImplicit false

open AiGateway.Auth AiGateway.Health AiGateway.Json AiGateway.Proxy AiGateway.Text

inductive Method where
  | get
  | head
  | options
  | post
  | put
  | patch
  | delete
  | other
  deriving DecidableEq, Repr

/-- A random identifier in its usual spelling. -/
structure Uuid where
  text : String
  length : text.toList.length = 36
  spelling : text.toList.all (· ∈ "0123456789abcdef-".toList) = true

/-! ## Texts of a context -/

def maxActorLen : Nat := 128
def maxRequestIdLen : Nat := 128
def maxResourceIdLen : Nat := 256

/-- The first characters that are no control characters. -/
def cleaned (limit : Nat) (value : String) : String :=
  String.ofList ((value.toList.filter fun c => !Listing.isControl c).take limit)

def sanitizeActor (value : String) : String :=
  let value := trim value
  if value = "" then "admin_api"
  else
    let sanitized := trim (cleaned maxActorLen value)
    if sanitized = "" then "admin_api" else sanitized

def sanitizeRequestId (fresh : Uuid) (value : String) : String :=
  let value := trim value
  if value = "" then fresh.text
  else
    let sanitized := cleaned maxRequestIdLen value
    if trim sanitized = "" then fresh.text else sanitized

def sanitizeResourceId (value : String) : String := cleaned maxResourceIdLen value

def sanitizeLabel (value fallback : String) : String :=
  let value := cleaned maxResourceIdLen value
  if trim value = "" then fallback else value

mutual
def sanitizeValue : Value → Value
  | .object fields => .object (sanitizeMembers fields)
  | .array items => .array (sanitizeItems items)
  | .string s =>
    if 1024 < s.utf8ByteSize then .string (String.ofList (s.toList.take 1024)) else .string s
  | value => value

def sanitizeItems : List Value → List Value
  | [] => []
  | value :: rest => sanitizeValue value :: sanitizeItems rest

def sanitizeMembers : List (String × Value) → List (String × Value)
  | [] => []
  | (key, value) :: rest =>
    (key, if isSensitiveKey key then .string "[REDACTED]" else sanitizeValue value) ::
      sanitizeMembers rest
end

def sanitizeDiff (value : Value) : Value := sanitizeValue value

structure AuditContext where
  requestId : String
  actor : String
  action : String
  resourceType : String
  resourceId : Option String
  resource : String
  diff : Value

/-- `fresh` is the identifier for a request that brings none. -/
def AuditContext.new (fresh : Uuid) (requestId actor action resourceType : String)
    (resourceId : Option String) (diff : Value) : AuditContext :=
  let resourceType := sanitizeLabel resourceType "admin"
  let resourceId := resourceId.map sanitizeResourceId
  { requestId := sanitizeRequestId fresh requestId
    actor := sanitizeActor actor
    action := sanitizeLabel action "admin.write"
    resourceType
    resourceId
    resource := match resourceId with
      | some id => resourceType ++ "/" ++ id
      | none => resourceType
    diff := sanitizeDiff diff }

/-! ## What a request is about -/

def trimSlashes (path : List Char) : List Char :=
  ((path.dropWhile (· = '/')).reverse.dropWhile (· = '/')).reverse

def pathSegments (path : String) : List String :=
  ((trimSlashes path.toList).splitOn '/').map String.ofList

def shouldAuditAdminRequest (method : Method) (path : String) : Bool :=
  match method with
  | .head | .options => false
  | .get =>
    match pathSegments path with
    | [first, second, _, fourth] => first = "admin" && second = "keys" && fourth = "value"
    | _ => false
  | _ => true

def enabledAction (resource : String) (payload : Option Value) : String :=
  let enabled := (payload.bind fun value =>
    (value.get "enabled").bind fun
      | .bool b => some b
      | _ => none).getD true
  resource ++ "." ++ if enabled then "enable" else "disable"

/-- The type, the identifier and the suffix of what a path names. -/
def classifyResource (parts : List String) : String × Option String × Option String :=
  let nested (resource : String) := (resource, parts[1]?, parts[2]?)
  let first := parts.head?.getD "admin"
  if first = "sources" then nested "source"
  else if first = "accounts" then nested "account"
  else if first = "logical-models" then nested "logical_model"
  else if first = "model-routings" then nested "logical_model"
  else if first = "model-bindings" then nested "model_binding"
  else if first = "routes" then nested "route"
  else if first = "keys" then nested "virtual_key"
  else if first = "control-plane" then ("control_plane", parts[1]?, parts[1]?)
  else if first = "backup" then ("backup", parts[1]?, parts[1]?)
  else if first = "retention" then ("retention", parts[2]?, parts[1]?)
  else if first = "config" then ("config", none, parts[1]?)
  else nested first

def actionOf (method : Method) (payload : Option Value) (resource : String)
    (suffix : Option String) : String :=
  if suffix = some "enabled" ∧
      resource ∈ ["source", "account", "logical_model", "model_binding", "route"] then
    enabledAction resource payload
  else if resource = "virtual_key" ∧ suffix = some "revoke" then "virtual_key.revoke"
  else if resource = "virtual_key" ∧ suffix = some "rotate" then "virtual_key.rotate"
  else if resource = "virtual_key" ∧ suffix = some "value" ∧ method = .get then
    "virtual_key.reveal"
  else if resource = "source" ∧ suffix = some "discoveries" then "source.discovery"
  else if resource = "source" ∧ suffix = some "connection-tests" then "source.connection_test"
  else if resource = "source" ∧ suffix = some "models" ∧ method = .patch then
    "source_model.update"
  else if resource = "source" ∧ suffix = some "confirm" then "source_model.confirm"
  else if resource ∈ ["account", "health"] ∧ suffix = some "probe" then "account.probe"
  else if resource ∈ ["control_plane", "backup"] ∧ suffix = some "import" then
    "control_plane.import"
  else if resource = "config" ∧ suffix = some "reload" then "config.reload"
  else if resource = "retention" ∧ suffix = some "policies" ∧ method = .put then
    "retention.policy.update"
  else if resource = "retention" ∧ (suffix = some "cleanup" ∨ suffix = some "runs") ∧
      method = .post then "retention.cleanup"
  else
    match method with
    | .post => resource ++ ".create"
    | .put | .patch => resource ++ ".update"
    | .delete => resource ++ ".delete"
    | _ => resource ++ ".write"

/-- The segments behind the one that names the interface. -/
def adminParts (path : String) : List String :=
  let segments := (pathSegments path).filter (· ≠ "")
  match segments.dropWhile (· ≠ "admin") with
  | [] => segments
  | _ :: parts => parts

def classifyPath (method : Method) (path : String) (payload : Option Value) :
    String × String × Option String :=
  let (resource, id, suffix) := classifyResource (adminParts path)
  (actionOf method payload resource suffix, resource, id)

def textOf (payload : Option Value) (key : String) : Option String :=
  payload.bind fun value => (value.get key).bind Value.asStr

def resourceIdFromPayload (resourceType : String) (payload : Option Value) : Option String :=
  textOf payload (if resourceType = "source_model" then "upstream_model_id" else "id")

def contextFromRequest (fresh : Uuid) (method : Method) (path : String)
    (headers : List (String × Bytes)) (payload : Option Value) : AuditContext :=
  let (action, resourceType, pathResourceId) := classifyPath method path payload
  let actor := ((((textOf payload "requested_by").or (textOf payload "actor")).or
    (headerText headers "x-admin-actor")).or (headerText headers "x-actor")).or
    (headerText headers "x-requested-by")
  let requestId := ((headerText headers "x-request-id").or (textOf payload "request_id")).or
    (textOf payload "operation_id")
  .new fresh (requestId.getD "") (actor.getD "admin_api") action resourceType
    (pathResourceId.or (resourceIdFromPayload resourceType payload))
    ((payload.map summarizeDiff).getD (.object []))

/-! ## Entries -/

/-- A row of the log, which is kept in the order of its ids.  The time of its completion is
left out. -/
structure AuditLog where
  operationId : String
  action : String
  status : String
  actor : String
  details : Value
  errorCode : Option String
  errorMessage : Option String
  createdAt : DateTime
  requestId : Option String
  resourceType : Option String
  resourceId : Option String
  resource : Option String
  result : String
  diff : Value

/-- The checks of the table. -/
def AuditLog.meetsChecks (row : AuditLog) : Bool :=
  decide (row.status ∈ ["started", "progress", "succeeded", "failed", "cancel_requested",
      "cancelled"]) &&
    decide (row.result ∈ ["success", "failure", "conflict", "rollback"]) &&
    decide (row.details.kind = .object) && decide (row.diff.kind = .object)

def normalizeResult (value : String) : String × String :=
  if value = "success" ∨ value = "succeeded" then ("succeeded", "success")
  else if value = "conflict" then ("failed", "conflict")
  else if value = "rollback" ∨ value = "rolled_back" then ("failed", "rollback")
  else ("failed", "failure")

def resultForStatus (status : String) : String :=
  if status = "409" ∨ status = "conflict" then "conflict"
  else if status = "422" ∨ status = "rollback" then "rollback"
  else "failure"

def detailsFor (context : AuditContext) (result : String) : Value :=
  .ofFields [("resource", .string context.resource), ("result", .string result),
    ("diff", context.diff)]

def sanitizeErrorCode (value : Option String) : Option String :=
  value.map fun value =>
    let value := trim value
    if value = "" ∨ 64 < value.utf8ByteSize ∨
        value.toList.all (fun c => c.isAlphanum || c = '_' || c = '-') = false then
      "admin_operation_failed"
    else value

def sanitizeErrorMessage (value : Option String) : Option String :=
  value.map fun _ => "admin operation failed"

/-- The row that a statement of the middleware inserts. -/
def appendPool (now : DateTime) (context : AuditContext) (result : String)
    (errorCode errorMessage : Option String) : AuditLog where
  operationId := context.requestId
  action := context.action
  status := (normalizeResult result).1
  actor := context.actor
  details := detailsFor context (normalizeResult result).2
  errorCode := sanitizeErrorCode errorCode
  errorMessage := sanitizeErrorMessage errorMessage
  createdAt := now
  requestId := some context.requestId
  resourceType := some context.resourceType
  resourceId := context.resourceId
  resource := some context.resource
  result := (normalizeResult result).2
  diff := context.diff

end AiGateway.Audit

namespace AiGateway.Ops

set_option autoImplicit false

open AiGateway.Audit AiGateway.Health AiGateway.Json AiGateway.Text

def redactText (value : String) : String :=
  if ["authorization", "bearer ", "api_key", "apikey", "secret", "password"].any
      (contains (toAsciiLowercase value)) then
    "redacted"
  else String.ofList (value.toList.take 512)

def sanitizeActor (value : String) : String :=
  let trimmed := trim value
  if trimmed = "" then "system"
  else
    String.ofList (((redactText trimmed).toList.filter fun c => !Listing.isControl c).take 128)

/-- The row that a handler of retention or backup inserts.  The columns it does not name have
their defaults. -/
def appendAudit (urls : Urls) (now : DateTime) (operationId action status actor : String)
    (details : Value) (errorCode errorMessage : Option String) : AuditLog where
  operationId := operationId
  action := action
  status := status
  actor := sanitizeActor actor
  details := sanitizeJson urls details
  errorCode := errorCode
  errorMessage := errorMessage.map redactText
  createdAt := now
  requestId := none
  resourceType := none
  resourceId := none
  resource := none
  result := "success"
  diff := .object []

/-- The first rows that are older than the cutoff go. -/
def deleteAuditLogs (cutoff : DateTime) : Nat → List AuditLog → List AuditLog
  | _, [] => []
  | 0, rows => rows
  | batchSize + 1, row :: rest =>
    if row.createdAt < cutoff then deleteAuditLogs cutoff batchSize rest
    else row :: deleteAuditLogs cutoff (batchSize + 1) rest

end AiGateway.Ops

namespace AiGateway.Audit

set_option autoImplicit false

open AiGateway.Auth AiGateway.Health AiGateway.Json AiGateway.Proxy AiGateway.Text

/-! ## Requests -/

structure Request where
  method : Method
  path : String
  headers : List (String × Bytes)
  body : Bytes

def maxAuditedBody : Nat := 4 * 1024 * 1024

/-- A body that is too long to be read is read as empty. -/
def auditedBody (request : Request) : Bytes :=
  if request.body.length ≤ maxAuditedBody then request.body else []

/-- The entry of a request that was answered with the status. -/
def entryOf (parse : Bytes → Option Value) (fresh : Uuid) (now : DateTime) (request : Request)
    (status : Nat) : AuditLog :=
  let context := contextFromRequest fresh request.method request.path request.headers
    (parse (auditedBody request))
  if 200 ≤ status ∧ status < 300 then appendPool now context "success" none none
  else appendPool now context (resultForStatus (toString status)) none none

/-- The statements by which handlers change the log. -/
inductive LogWrite where
  | appendAudit (now : DateTime) (operationId action status actor : String) (details : Value)
      (errorCode errorMessage : Option String)
  | deleteAuditLogs (cutoff : DateTime) (batchSize : Nat)

/-- A row that fails a check of the table is not inserted. -/
def LogWrite.run (urls : Ops.Urls) : LogWrite → List AuditLog → List AuditLog
  | .appendAudit now operationId action status actor details errorCode errorMessage, log =>
    let row := Ops.appendAudit urls now operationId action status actor details errorCode
      errorMessage
    if row.meetsChecks then log ++ [row] else log
  | .deleteAuditLogs cutoff batchSize, log => Ops.deleteAuditLogs cutoff batchSize log

def runWrites (urls : Ops.Urls) (writes : List LogWrite) (log : List AuditLog) : List AuditLog :=
  writes.foldl (fun log write => write.run urls log) log

/-- The tables behind the interface, and the log among them. -/
structure Admin (σ : Type) where
  state : σ
  log : List AuditLog

/-- A handler sees all the tables.  It gives the state it leaves, what it writes to the log,
and the status of its answer. -/
abbrev Handler (σ : Type) := Admin σ → Request → σ × List LogWrite × Nat

/-- What becomes of a request: the tables, the status, what its handler wrote to the log, and
the entries that the middleware inserted. -/
structure Served (σ : Type) where
  admin : Admin σ
  status : Nat
  written : List LogWrite
  own : List AuditLog

section Serving

variable {σ : Type} (sha256 : Bytes → Bytes) (auth : AdminAuth) (parse : Bytes → Option Value)
  (urls : Ops.Urls) (handler : Handler σ)

def Handler.serve (admin : Admin σ) (request : Request) : Served σ :=
  let (state, writes, status) := handler admin request
  ⟨⟨state, runWrites urls writes admin.log⟩, status, writes, []⟩

/-- `stored` tells whether there is a database and it takes the entry.  No handler marks the
entry of its own request as written. -/
def auditMiddleware (fresh : Uuid) (now : DateTime) (stored : Bool) (admin : Admin σ)
    (request : Request) : Served σ :=
  if shouldAuditAdminRequest request.method request.path then
    let served := Handler.serve urls handler admin { request with body := auditedBody request }
    let own := if stored then [entryOf parse fresh now request served.status] else []
    { served with admin := ⟨served.admin.state, served.admin.log ++ own⟩, own := own }
  else Handler.serve urls handler admin request

def requireAdminAuth (fresh : Uuid) (now : DateTime) (stored : Bool) (admin : Admin σ)
    (request : Request) : Served σ :=
  if auth.authorized sha256 request.headers then
    auditMiddleware parse urls handler fresh now stored admin request
  else ⟨admin, 401, [], []⟩

end Serving

end AiGateway.Audit
