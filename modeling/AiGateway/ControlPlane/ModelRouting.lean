import AiGateway.ControlPlane.Service

/-!
# Model routing

A complete routing intent for one logical model, written in one transaction: its
bindings and routes are replaced by one binding per line and protocol and by one
route that tries the lines in order.
-/

namespace AiGateway.ControlPlane

set_option autoImplicit false

open AiGateway.Catalog AiGateway.Checked AiGateway.Health AiGateway.Json AiGateway.Text

def routingLineErrors (lines : List ModelRoutingLineWrite) (position : Nat)
    (line : ModelRoutingLineWrite) : List String :=
  let label := "lines[" ++ toString position ++ "]"
  (if trim line.sourceId = "" ∨ trim line.accountId = "" ∨ trim line.upstreamModelId = "" then
    [label ++ " source, account and upstream model are required"] else []) ++
  if line ∈ lines.take position then [label ++ " duplicates an upstream line"] else []

def validateModelRouting (id : String) (input : ModelRoutingWrite) :
    Except ControlPlaneError Unit := do
  validateLogicalModelInput
    { id := id
      publicName := input.publicName
      displayName := input.displayName
      status := .confirmed
      metadata := .object []
      fieldSources := .object []
      enabled := input.enabled }
  collected
    ((if input.enabled ∧ input.lines = [] then
      ["an enabled logical model requires at least one upstream line"] else []) ++
    (if input.requestTimeoutMs.any (· ≤ 0) then
      ["request_timeout_ms must be a positive integer or null"] else []) ++
    (if input.maxRetries.any (· < 0) then
      ["max_retries must be a nonnegative integer or null"] else []) ++
    (input.lines.mapIdx (routingLineErrors input.lines)).flatten) .validation

/-- The protocols a line can serve, in the order of the protocol type. -/
def lineProtocols (t : Tables) (line : ModelRoutingLineWrite) : List Protocol :=
  if t.isUsable line.sourceId line.upstreamModelId &&
      ((t.source? line.sourceId).any fun source => source.enabled) &&
      ((t.account? line.accountId).any fun account =>
        account.sourceId = line.sourceId && account.enabled)
  then Protocol.all.filter fun protocol =>
    (t.capability? line.sourceId line.upstreamModelId protocol).any fun capability =>
      capability.status = .confirmed && capability.mode.isRoutable
  else []

section Write

variable (service : Service) (now : DateTime)

def lineBinding (id : String) (position : Nat) (line : ModelRoutingLineWrite)
    (protocol : Protocol) : ModelBindingWrite where
  logicalModelId := id
  sourceId := line.sourceId
  accountId := line.accountId
  upstreamModelId := line.upstreamModelId
  protocol := protocol
  status := .confirmed
  enabled := true
  priority := -(position : Int)

def insertLineBinding (id : String) (position : Nat) (line : ModelRoutingLineWrite) (db : Db)
    (protocol : Protocol) : Except ControlPlaneError Db := do
  validateBindingReference service db.toTables (lineBinding id position line protocol)
  statement (db.insertBinding (newBinding now (lineBinding id position line protocol)))

/-- One line: its bindings, and the protocols seen so far. -/
def insertLine (id : String) (state : Db × List Protocol)
    (entry : ModelRoutingLineWrite × Nat) : Except ControlPlaneError (Db × List Protocol) := do
  let (db, seen) := state
  let (line, position) := entry
  let protocols := lineProtocols db.toTables line
  ensure (protocols ≠ [])
    (.validation ["lines[" ++ toString position ++ "] requires an enabled source/account and a " ++
      "confirmed available source model with a confirmed routable protocol"])
  let db ← protocols.foldlM (insertLineBinding service now id position line) db
  return (db, seen ++ protocols.filter fun protocol => protocol ∉ seen)

/-- Saving lines reconfirms an unavailable model through the pending status. -/
def routingStatus (current : Option CatalogStatus) (input : ModelRoutingWrite) :
    Except ControlPlaneError CatalogStatus := do
  let next := if input.lines = [] then current.getD .confirmed else .confirmed
  match current with
  | none => return next
  | some .unavailable =>
    if next = .confirmed then do
      validateStatusTransition .unavailable .pending "logical model"
      validateStatusTransition .pending next "logical model"
      return next
    else do
      validateStatusTransition .unavailable next "logical model"
      return next
  | some status => do
    validateStatusTransition status next "logical model"
    return next

/-- The model is enabled while its lines are written. -/
def writeRoutingModel (id : String) (input : ModelRoutingWrite) (create : Bool)
    (status : CatalogStatus) (db : Db) : Except DbError Db :=
  if create then
    db.insertLogicalModel
      { id := id
        publicName := input.publicName
        displayName := input.displayName
        status := status
        metadata := .object []
        fieldSources := .object []
        enabled := true
        requestTimeoutMs := input.requestTimeoutMs
        maxRetries := input.maxRetries
        confirmedAt := stampIf now (status = .confirmed)
        unavailableAt := stampIf now (status = .unavailable)
        createdAt := now
        updatedAt := now }
  else
    db.updateLogicalModel id fun row =>
      { row with
        publicName := input.publicName
        displayName := input.displayName
        status := status
        enabled := true
        confirmedAt := confirmedStamp now status row.confirmedAt
        unavailableAt := if status = .unavailable then row.unavailableAt else none
        requestTimeoutMs := input.requestTimeoutMs
        maxRetries := input.maxRetries
        updatedAt := now }

/-- The route keeps the id of the model's first route. -/
def routingRouteId (t : Tables) (id uuid : String) : String :=
  let ids := (t.routes.filter fun row => row.logicalModelId = some id).map RouteRow.id
  ((ids.insertionSort fun a b => service.collation a b).head?).getD ("model-routing-" ++ uuid)

def routingRoute (routeId id : String) (protocols : List Protocol) : RouteWrite where
  id := routeId
  logicalModelId := id
  protocols := protocols.insertionSort fun a b => a.toText ≤ b.toText
  strategy := "ordered_fallback"
  allowLossyConversion := false
  enabled := true

def insertRoutingRoute (id routeId publicName : String) (protocols : List Protocol) (db : Db) :
    Except ControlPlaneError Db :=
  if protocols = [] then .ok db
  else do
    validateRouteReference service db.toTables (routingRoute routeId id protocols)
    statement (db.insertRoute (newRoute now (routingRoute routeId id protocols) publicName))

def writeModelRouting (id : String) (input : ModelRoutingWrite) (create : Bool) (uuid : String)
    (db : Db) : Except ControlPlaneError Committed := do
  validateModelRouting id input
  let current := (db.logicalModel? id).map LogicalModelRow.status
  ensure (create = true ∨ current ≠ none) (logicalModelNotFound id)
  let status ← routingStatus current input
  let routeId := routingRouteId service db.toTables id uuid
  let db ← statement (writeRoutingModel now id input create status db)
  let db ← statement (db.deleteRoutes fun row => row.logicalModelId = some id)
  let db ← statement (db.deleteBindings fun row => row.logicalModelId = id)
  let (db, protocols) ← input.lines.zipIdx.foldlM (insertLine service now id) (db, [])
  let db ← insertRoutingRoute service now id routeId input.publicName protocols db
  let db ← statement (db.updateLogicalModel id fun row => { row with enabled := input.enabled })
  finishWrite service now db

def createModelRouting (input : ModelRoutingWrite) (modelUuid routeUuid : String) (db : Db) :
    Except ControlPlaneError Committed :=
  writeModelRouting service now ("model-" ++ modelUuid) input true routeUuid db

def putModelRouting (id : String) (input : ModelRoutingWrite) (routeUuid : String) (db : Db) :
    Except ControlPlaneError Committed :=
  writeModelRouting service now id input false routeUuid db

end Write

end AiGateway.ControlPlane
