import AiGateway.Base.Json

/-!
# Token usage carried by upstream payloads

The counters of one response are merged event by event and turned into a report
at the end.  Sums are taken in 64-bit arithmetic.
-/

namespace AiGateway.Usage

set_option autoImplicit false

open AiGateway.Json AiGateway.Text

/-- Addition of `i64` values as the release profile computes it. -/
def addI64 (a b : Int) : Int := (a + b).bmod (2 ^ 64)

def saturatingSuccU64 (n : Nat) : Nat := if n < 2 ^ 64 - 1 then n + 1 else n

structure UsageReport where
  inputTokens : Int := 0
  outputTokens : Int := 0
  reasoningTokens : Int := 0
  cachedTokens : Int := 0
  cacheReadTokens : Int := 0
  cacheCreationTokens : Int := 0
  totalTokens : Int := 0
  source : String := ""
  deriving DecidableEq, Repr

def UsageReport.missing : UsageReport := { source := "missing" }

def UsageReport.isPresent (r : UsageReport) : Bool :=
  r.inputTokens > 0 || r.outputTokens > 0 || r.reasoningTokens > 0 || r.cachedTokens > 0 ||
    r.cacheReadTokens > 0 || r.cacheCreationTokens > 0 || r.totalTokens > 0

def i64At (value : Value) (key : String) : Int := ((value.get key).bind Value.asI64).getD 0

def usageValue (value : Value) : Option Value :=
  (value.get "usage").orElse fun _ =>
    ((value.get "response").bind (Value.get · "usage")).orElse fun _ =>
      ((value.get "message").bind (Value.get · "usage")).orElse fun _ =>
        (value.get "delta").bind (Value.get · "usage")

def reportFromUsage (usage : Value) : UsageReport :=
  let input :=
    if (usage.get "input_tokens").isSome then i64At usage "input_tokens"
    else i64At usage "prompt_tokens"
  let output :=
    if (usage.get "output_tokens").isSome then i64At usage "output_tokens"
    else i64At usage "completion_tokens"
  let reasoning :=
    (((usage.get "output_tokens_details").map (i64At · "reasoning_tokens")).orElse fun _ =>
      (usage.get "completion_tokens_details").map (i64At · "reasoning_tokens")).getD
        (i64At usage "reasoning_tokens")
  let cache : Int × Int :=
    match (usage.get "input_tokens_details").orElse fun _ => usage.get "prompt_tokens_details" with
    | some details => (i64At details "cached_tokens", 0)
    | none =>
      (addI64 (i64At usage "cache_read_input_tokens") (i64At usage "cached_tokens"),
        i64At usage "cache_creation_input_tokens")
  { inputTokens := input
    outputTokens := output
    reasoningTokens := reasoning
    cachedTokens := addI64 cache.1 cache.2
    cacheReadTokens := cache.1
    cacheCreationTokens := cache.2
    totalTokens := ((usage.get "total_tokens").bind Value.asI64).getD (addI64 input output)
    source := "upstream" }

/-- Usage of a complete JSON response. -/
def extractJson (value : Value) : Option UsageReport :=
  (usageValue value).bind fun usage =>
    let report := reportFromUsage usage
    if report.isPresent then some report else none

def countedKeys : List String :=
  ["input_tokens", "prompt_tokens", "output_tokens", "completion_tokens", "total_tokens",
    "reasoning_tokens", "cached_tokens", "cache_read_input_tokens", "cache_creation_input_tokens"]

def detailKeys : List (String × String) :=
  [("input_tokens_details", "cached_tokens"), ("prompt_tokens_details", "cached_tokens"),
    ("output_tokens_details", "reasoning_tokens"),
    ("completion_tokens_details", "reasoning_tokens")]

def hasI64 (usage : Value) (key : String) : Bool := ((usage.get key).bind Value.asI64).isSome

def mergeCounter (usage : Value) (current : Fields) (key : String) : Fields :=
  match (usage.get key).bind Value.asI64 with
  | some value => Fields.insert current key (Value.ofInt value)
  | none => current

def mergeDetail (usage : Value) (current : Fields) (entry : String × String) : Fields :=
  match ((usage.get entry.1).bind (Value.get · entry.2)).bind Value.asI64 with
  | some value => Fields.insert current entry.1 (.object [(entry.2, Value.ofInt value)])
  | none => current

/-- Explicitly reported counters replace earlier ones; a stale total is dropped
when an input or output counter arrives without one. -/
def mergeSseUsage (current : Fields) (usage : Value) : Fields :=
  let current :=
    if !hasI64 usage "total_tokens" &&
        ["input_tokens", "prompt_tokens", "output_tokens", "completion_tokens"].any (hasI64 usage)
    then Fields.remove current "total_tokens" else current
  detailKeys.foldl (mergeDetail usage) (countedKeys.foldl (mergeCounter usage) current)

structure SseUsageAccumulator where
  counters : Fields := []
  dataEventCount : Nat := 0
  jsonParseFailures : Nat := 0
  jsonWithoutUsage : Nat := 0

namespace SseUsageAccumulator

def observe (acc : SseUsageAccumulator) (data : String) (parsed : Option Value) :
    SseUsageAccumulator :=
  if data = "" ∨ data = "[DONE]" then acc
  else
    let acc := { acc with dataEventCount := saturatingSuccU64 acc.dataEventCount }
    match parsed with
    | none => { acc with jsonParseFailures := saturatingSuccU64 acc.jsonParseFailures }
    | some value =>
      match usageValue value with
      | some usage => { acc with counters := mergeSseUsage acc.counters usage }
      | none => { acc with jsonWithoutUsage := saturatingSuccU64 acc.jsonWithoutUsage }

def report (acc : SseUsageAccumulator) : Option UsageReport :=
  if acc.counters.isEmpty then none
  else some { reportFromUsage (.object acc.counters) with source := "parsed" }

end SseUsageAccumulator

def nonEmptyString (value : Option Value) : Option String :=
  ((value.bind Value.asStr).map trim).filter (!·.isEmpty)

structure ResponseIdentity where
  model : Option String := none
  reasoningEffort : Option String := none
  deriving DecidableEq, Repr

def responseIdentityFromJson (value : Value) : ResponseIdentity where
  model :=
    (nonEmptyString (value.get "model")).orElse fun _ =>
      (nonEmptyString ((value.get "response").bind (Value.get · "model"))).orElse fun _ =>
        nonEmptyString ((value.get "message").bind (Value.get · "model"))
  reasoningEffort :=
    (nonEmptyString (value.get "reasoning_effort")).orElse fun _ =>
      (nonEmptyString ((value.get "reasoning").bind (Value.get · "effort"))).orElse fun _ =>
        nonEmptyString (((value.get "response").bind (Value.get · "reasoning")).bind
          (Value.get · "effort"))

/-- The first reported value of each field wins. -/
def ResponseIdentity.observe (id : ResponseIdentity) (value : Value) : ResponseIdentity where
  model := id.model.orElse fun _ => (responseIdentityFromJson value).model
  reasoningEffort :=
    id.reasoningEffort.orElse fun _ => (responseIdentityFromJson value).reasoningEffort

end AiGateway.Usage
