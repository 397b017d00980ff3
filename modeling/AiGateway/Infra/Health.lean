import AiGateway.Base.Table
import AiGateway.Base.Text

/-!
# Account health

The circuit breaker of an account, kept in memory or in its database row.
Instants and durations are whole microseconds, the precision the database
stores; an instant is an integer and may lie before the epoch.
-/

namespace AiGateway.Health

set_option autoImplicit false

open AiGateway.Text

abbrev DateTime := Int
abbrev Duration := Nat

def fromMillis (ms : Nat) : Duration := ms * 1000
def asMillis (d : Duration) : Nat := d / 1000

def maxU32 : Nat := 2 ^ 32 - 1
def maxU64 : Nat := 2 ^ 64 - 1
def maxI32 : Int := 2 ^ 31 - 1

/-- The longest duration a signed calendar duration can hold. -/
def maxTimeDelta : Duration := fromMillis (2 ^ 63 - 1)

/-- Conversion to a signed calendar duration. -/
def fromStd (d : Duration) : Option Int := if d ≤ maxTimeDelta then some d else none

/-- Conversion back, which fails on a negative duration. -/
def toStd (d : Int) : Option Duration := if 0 ≤ d then some d.toNat else none

structure HealthConfig where
  cooldown : Duration := fromMillis 30000
  maxCooldown : Duration := fromMillis 1800000
  staleAfter : Duration := fromMillis 600000
  failureThreshold : UInt32 := 3
  failureWindow : Duration := fromMillis 60000
  deriving DecidableEq, Repr

def HealthConfig.normalized (config : HealthConfig) : HealthConfig :=
  let cooldown := max config.cooldown (fromMillis 1)
  { cooldown := cooldown
    maxCooldown := max config.maxCooldown cooldown
    staleAfter := max config.staleAfter (fromMillis 1)
    failureThreshold := max config.failureThreshold 1
    failureWindow := max config.failureWindow (fromMillis 1) }

structure AccountHealth where
  available : Bool
  sourceEnabled : Bool
  consecutiveFailures : Nat
  cooldownRemainingMs : Nat
  status : String
  source : String
  stale : Bool
  updatedAt : Option DateTime
  cooldownUntil : Option DateTime
  lastError : Option String
  lastSuccessAt : Option DateTime
  lastProbeAt : Option DateTime
  lastProbeStatus : Option String
  lastProbeError : Option String
  deriving DecidableEq, Repr

structure MemoryAccountState where
  status : String := "unknown"
  source : String := "unknown"
  cooldownUntil : Option DateTime := none
  consecutiveFailures : Nat := 0
  failureWindowStartedAt : Option DateTime := none
  updatedAt : Option DateTime := none
  lastError : Option String := none
  lastSuccessAt : Option DateTime := none
  lastProbeAt : Option DateTime := none
  lastProbeStatus : Option String := none
  lastProbeError : Option String := none
  enabled : Bool := true
  deriving DecidableEq, Repr

/-- The health columns of an account joined with its source. -/
structure AccountHealthRow where
  accountId : String
  enabled : Bool
  sourceEnabled : Bool
  healthStatus : String
  healthSource : String
  cooldownUntil : Option DateTime
  consecutiveFailures : Int
  failureWindowStartedAt : Option DateTime
  lastError : Option String
  lastSuccessAt : Option DateTime
  healthUpdatedAt : Option DateTime
  lastProbeAt : Option DateTime
  lastProbeStatus : Option String
  lastProbeError : Option String
  accountUpdatedAt : DateTime
  deriving DecidableEq, Repr

def normalizeSource (source : String) : String :=
  if source ∈ ["passive", "probe", "manual", "startup"] then source else "unknown"

def safeErrors : List String :=
  ["upstream request failed", "retryable upstream response", "upstream stream failed",
    "upstream connection failed", "upstream request timed out", "account credential unavailable"]

def sanitizeError (value : Option String) : Option String :=
  value.map fun text => if trim text ∈ safeErrors then trim text else "upstream request failed"

def exponentialBackoff (base maximum : Duration) (failures : Nat) : Duration :=
  if failures = 0 then 0
  else
    let baseMs := asMillis base
    let maxMs := max (asMillis maximum) baseMs
    let delayMs := min (baseMs * 2 ^ min (failures - 1) 63) maxMs
    fromMillis (min delayMs maxU64)

def isActive (until_ : Option DateTime) (now : DateTime) : Bool :=
  until_.any fun instant => now < instant

/-- A window that never started, or started in the future, counts as expired. -/
def windowExpired (startedAt : Option DateTime) (now : DateTime) (window : Duration) : Bool :=
  startedAt.all fun instant =>
    match toStd (now - instant) with
    | some elapsed => window < elapsed
    | none => true

def stale (now : DateTime) (updatedAt : Option DateTime) (staleAfter : Duration) : Bool :=
  match updatedAt, fromStd staleAfter with
  | some instant, some limit => limit ≤ now - instant
  | _, _ => true

def cooldownRemaining (now : DateTime) (until_ : Option DateTime) : Nat :=
  ((until_.bind fun instant => toStd (instant - now)).map fun d => min (asMillis d) maxU64).getD 0

/-- The end of the cooldown that the given number of failures over the
threshold earns. -/
def cooldownEnd (config : HealthConfig) (now : DateTime) (failures : Nat) : DateTime :=
  now + (fromStd (exponentialBackoff config.cooldown config.maxCooldown
    (failures - config.failureThreshold.toNat + 1))).getD 0

section Memory

variable (config : HealthConfig) (now : DateTime)

/-- Counter, window and cooldown after a failure outside any cooldown. -/
def countFailure (entry : MemoryAccountState) : MemoryAccountState :=
  let entry :=
    if windowExpired entry.failureWindowStartedAt now config.failureWindow then
      { entry with consecutiveFailures := 1, failureWindowStartedAt := some now }
    else { entry with consecutiveFailures := min (entry.consecutiveFailures + 1) maxU32 }
  if config.failureThreshold.toNat ≤ entry.consecutiveFailures then
    { entry with cooldownUntil := some (cooldownEnd config now entry.consecutiveFailures) }
  else { entry with cooldownUntil := none }

/-- A failure report.  The flag says that it started a cooldown. -/
def markMemoryFailure (source : String) (errorMessage : Option String)
    (entry : MemoryAccountState) : MemoryAccountState × Bool :=
  let activeCooldown := isActive entry.cooldownUntil now
  let counted := if activeCooldown then entry else countFailure config now entry
  let cooldownStarted :=
    !activeCooldown && decide (config.failureThreshold.toNat ≤ counted.consecutiveFailures)
  let status :=
    if counted.enabled && isActive counted.cooldownUntil now then "cooling_down"
    else if counted.enabled then "unhealthy"
    else "disabled"
  let entry :=
    { counted with
      status := status
      source := normalizeSource source
      updatedAt := some now
      lastError := sanitizeError errorMessage
      lastSuccessAt := none }
  let entry :=
    if source = "probe" then
      { entry with
        lastProbeAt := some now
        lastProbeStatus := some "failed"
        lastProbeError := sanitizeError errorMessage }
    else entry
  (entry, cooldownStarted)

def markMemorySuccess (source : String) (entry : MemoryAccountState) : MemoryAccountState :=
  let entry :=
    { entry with
      status := if entry.enabled then "healthy" else "disabled"
      source := normalizeSource source
      cooldownUntil := none
      consecutiveFailures := 0
      failureWindowStartedAt := none
      updatedAt := some now
      lastError := none
      lastSuccessAt := some now }
  if source = "probe" then
    { entry with
      lastProbeAt := some now, lastProbeStatus := some "succeeded", lastProbeError := none }
  else entry

def memoryHealth (state : MemoryAccountState) : AccountHealth :=
  let isStale := stale now state.updatedAt config.staleAfter
  let cooldownActive := isActive state.cooldownUntil now
  let status :=
    if !state.enabled then "disabled"
    else if isStale then "stale"
    else if cooldownActive then "cooling_down"
    else if state.status = "healthy" then "healthy"
    else if state.status = "unhealthy" ∨ state.status = "cooling_down" then "unhealthy"
    else if 0 < state.consecutiveFailures then "unhealthy"
    else "unknown"
  { available := state.enabled && (!cooldownActive || isStale) && status != "disabled"
    sourceEnabled := true
    consecutiveFailures := state.consecutiveFailures
    cooldownRemainingMs := cooldownRemaining now state.cooldownUntil
    status := status
    source := normalizeSource state.source
    stale := isStale
    updatedAt := state.updatedAt
    cooldownUntil := state.cooldownUntil
    lastError := state.lastError
    lastSuccessAt := state.lastSuccessAt
    lastProbeAt := state.lastProbeAt
    lastProbeStatus := state.lastProbeStatus
    lastProbeError := state.lastProbeError }

def unknownHealth (available : Bool) (source : String) : AccountHealth :=
  { available := available
    sourceEnabled := true
    consecutiveFailures := 0
    cooldownRemainingMs := 0
    status := "unknown"
    source := source
    stale := true
    updatedAt := none
    cooldownUntil := none
    lastError := none
    lastSuccessAt := none
    lastProbeAt := none
    lastProbeStatus := none
    lastProbeError := none }

end Memory

section Persisted

variable (config : HealthConfig) (observedAt : DateTime)

/-- Failures, window start, cooldown end and status after a failure. -/
def countedRow (current : AccountHealthRow) :
    Nat × Option DateTime × Option DateTime × String :=
  if isActive current.cooldownUntil observedAt then
    (current.consecutiveFailures.toNat, current.failureWindowStartedAt, current.cooldownUntil,
      "cooling_down")
  else
    let expired := windowExpired current.failureWindowStartedAt observedAt config.failureWindow
    let failures := if expired then 1 else current.consecutiveFailures.toNat + 1
    let startedAt := if expired then some observedAt else current.failureWindowStartedAt
    if config.failureThreshold.toNat ≤ failures then
      (failures, startedAt, some (cooldownEnd config observedAt failures), "cooling_down")
    else (failures, startedAt, none, "unhealthy")

/-- What a failure report writes into an account's row.  A disabled account or
source keeps its row. -/
def recordAccountHealthFailure (source : String) (errorMessage : Option String)
    (current : AccountHealthRow) : AccountHealthRow × Bool :=
  let source := normalizeSource source
  if !current.enabled || !current.sourceEnabled then (current, false)
  else
    let activeCooldown := isActive current.cooldownUntil observedAt
    let counted := countedRow config observedAt current
    let row :=
      { current with
        healthStatus := counted.2.2.2
        cooldownUntil := counted.2.2.1
        lastError := sanitizeError errorMessage
        lastSuccessAt := none
        healthSource := source
        healthUpdatedAt := some observedAt
        consecutiveFailures := min counted.1 maxI32
        failureWindowStartedAt := counted.2.1 }
    let row :=
      if source = "probe" then
        { row with
          lastProbeAt := some observedAt
          lastProbeStatus := some "failed"
          lastProbeError := sanitizeError errorMessage }
      else row
    (row, !activeCooldown && counted.2.2.1.isSome)

def recordAccountHealthSuccess (source : String) (current : AccountHealthRow) :
    AccountHealthRow :=
  let source := normalizeSource source
  if !current.enabled || !current.sourceEnabled then current
  else
    let row :=
      { current with
        healthStatus := "healthy"
        cooldownUntil := none
        lastError := none
        lastSuccessAt := some observedAt
        healthSource := source
        healthUpdatedAt := some observedAt
        consecutiveFailures := 0
        failureWindowStartedAt := none }
    if source = "probe" then
      { row with
        lastProbeAt := some observedAt
        lastProbeStatus := some "succeeded"
        lastProbeError := none }
    else row

/-- A stale row is advisory: it cannot keep an account out of routing. -/
def healthFromRow (row : AccountHealthRow) : AccountHealth :=
  let updatedAt := row.healthUpdatedAt.orElse fun _ => some row.accountUpdatedAt
  let isStale := stale observedAt updatedAt config.staleAfter
  let cooldownActive := isActive row.cooldownUntil observedAt
  let status :=
    if !row.enabled || !row.sourceEnabled then "disabled"
    else if isStale then "stale"
    else if cooldownActive then "cooling_down"
    else if row.healthStatus = "healthy" then "healthy"
    else if row.healthStatus = "unhealthy" ∨ row.healthStatus = "cooling_down" then "unhealthy"
    else if 0 < row.consecutiveFailures then "unhealthy"
    else "unknown"
  { available :=
      row.enabled && row.sourceEnabled && (!cooldownActive || isStale) && status != "disabled"
    sourceEnabled := row.sourceEnabled
    consecutiveFailures := row.consecutiveFailures.toNat
    cooldownRemainingMs := cooldownRemaining observedAt row.cooldownUntil
    status := status
    source := normalizeSource row.healthSource
    stale := isStale
    updatedAt := updatedAt
    cooldownUntil := row.cooldownUntil
    lastError := sanitizeError row.lastError
    lastSuccessAt := row.lastSuccessAt
    lastProbeAt := row.lastProbeAt
    lastProbeStatus := row.lastProbeStatus
    lastProbeError := sanitizeError row.lastProbeError }

end Persisted

/-- With a database every report goes to the account's row; without one to a
table in memory. -/
inductive Store where
  | memory (state : Table String MemoryAccountState)
  | database (rows : Table String AccountHealthRow)

structure HealthRegistry where
  config : HealthConfig
  store : Store
  normalized : config.normalized = config

namespace HealthRegistry

/-- Reports on an unknown account create an entry in memory and do nothing to
a database without its row. -/
def markFailureWithDetails (registry : HealthRegistry) (now : DateTime) (accountId source : String)
    (errorMessage : Option String) : HealthRegistry × Bool :=
  match registry.store with
  | .memory state =>
    let marked := markMemoryFailure registry.config now source errorMessage
      ((state.get accountId).getD {})
    ({ registry with store := .memory (state.insert accountId marked.1) }, marked.2)
  | .database rows =>
    match rows.get accountId with
    | none => (registry, false)
    | some row =>
      let marked := recordAccountHealthFailure registry.config now source errorMessage row
      ({ registry with store := .database (rows.insert accountId marked.1) }, marked.2)

def markSuccessWithSource (registry : HealthRegistry) (now : DateTime)
    (accountId source : String) : HealthRegistry :=
  match registry.store with
  | .memory state =>
    { registry with
      store := .memory
        (state.insert accountId (markMemorySuccess now source ((state.get accountId).getD {}))) }
  | .database rows =>
    match rows.get accountId with
    | none => registry
    | some row =>
      { registry with
        store := .database (rows.insert accountId (recordAccountHealthSuccess now source row)) }

def markSuccess (registry : HealthRegistry) (now : DateTime) (accountId : String) :
    HealthRegistry :=
  registry.markSuccessWithSource now accountId "passive"

def getHealth (registry : HealthRegistry) (now : DateTime) (accountId : String) : AccountHealth :=
  match registry.store with
  | .memory state =>
    ((state.get accountId).map (memoryHealth registry.config now)).getD
      (unknownHealth true "unknown")
  | .database rows =>
    ((rows.get accountId).map (healthFromRow registry.config now)).getD
      (unknownHealth false "unknown")

def isAvailable (registry : HealthRegistry) (now : DateTime) (accountId : String) : Bool :=
  (registry.getHealth now accountId).available

end HealthRegistry

end AiGateway.Health
