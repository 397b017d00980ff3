import AiGateway.Infra.Health
import AiGateway.Proxy.Native

/-!
# Retry policy and health reports of an attempt
-/

namespace AiGateway.Proxy

set_option autoImplicit false

open AiGateway.Text AiGateway.Stream AiGateway.Usage AiGateway.Health

abbrev StatusCode := Nat

def isSuccess (status : Nat) : Bool := 200 ≤ status && status < 300

def isServerError (status : Nat) : Bool := 500 ≤ status && status < 600

inductive TransportError where
  | missingEndpoint
  | sourceUrlBlocked
  | request
  | timeout (termination : StreamTermination)
  deriving DecidableEq, Repr

namespace TransportError

def message : TransportError → String
  | .missingEndpoint => "provider endpoint is not configured"
  | .sourceUrlBlocked => "upstream source URL is blocked by server policy"
  | .request => "upstream request failed"
  | .timeout termination => termination.message

def statusCode : TransportError → Nat
  | .timeout termination => termination.statusCode
  | .missingEndpoint | .sourceUrlBlocked | .request => 599

def isTimeout : TransportError → Bool
  | .timeout _ => true
  | _ => false

end TransportError

/-- The response an upstream gave to an attempt: its status line and headers,
with what the transport observed of a complete body.  Header names are lower
case. -/
structure UpstreamResponse where
  status : StatusCode
  headers : List (String × Bytes) := []
  usage : Option UsageReport := none
  identity : ResponseIdentity := {}

/-- The text of a header made of visible ASCII, spaces and tabs. -/
def headerText (headers : List (String × Bytes)) (name : String) : Option String :=
  (headers.lookup name).bind fun value =>
    if value.all fun b => b = 9 || (32 ≤ b && b < 127) then
      some (String.ofList (value.map fun b => Char.ofNat b.toNat))
    else none

def isRetryable (status : Nat) : Bool :=
  status = 408 || status = 429 || isServerError status

/-- A decimal number, with an optional plus sign, that fits in 64 bits. -/
def parseU64 (text : String) : Option Nat :=
  let digits :=
    match text.toList with
    | '+' :: rest => rest
    | chars => chars
  if digits.isEmpty || !digits.all Char.isDigit then none
  else
    let value := digits.foldl (fun acc c => acc * 10 + (c.toNat - '0'.toNat)) 0
    if value < 2 ^ 64 then some value else none

def maxSameAccountRetryAfter : Health.Duration := fromMillis 2000

/-- The delay asked for by a `Retry-After` header, in seconds or as a date read
by `parseDate`, unless it is too long to wait for. -/
def retryAfterDelay (parseDate : String → Option DateTime) (now : DateTime)
    (headers : List (String × Bytes)) : Option Health.Duration :=
  (headerText headers "retry-after").bind fun text =>
    let value := trim text
    let delay :=
      match parseU64 value with
      | some seconds => some (fromMillis (seconds * 1000))
      | none => (parseDate value).bind fun retryAt => toStd (retryAt - now)
    delay.filter fun d => d ≤ maxSameAccountRetryAfter

def primaryUnavailableReason (health : AccountHealth) : String :=
  if health.status = "disabled" then "account_disabled"
  else if health.status = "cooling_down" then "account_cooling_down"
  else if health.status = "unhealthy" then "account_unhealthy"
  else "account_unavailable"

def transportErrorStatus (error : TransportError) : StatusCode :=
  if error.isTimeout then 504 else 502

/-- A retryable answer counts as a failure, a success resets the account's
breaker as soon as its headers are seen, any other answer is no report. -/
def recordResponseHealth (registry : HealthRegistry) (now : DateTime) (accountId : String)
    (status : StatusCode) : HealthRegistry :=
  if isRetryable status then
    (registry.markFailureWithDetails now accountId "passive"
      (some "retryable upstream response")).1
  else if isSuccess status then registry.markSuccess now accountId
  else registry

end AiGateway.Proxy
