import AiGateway.Proxy.Usage

/-!
# What a usage payload says

`Readings` are the integers a report is made of, before any sum is taken.  A
complete response is read spelling by spelling; a stream leaves behind the last
integer it reported under each key.
-/

namespace AiGateway.Usage

set_option autoImplicit false

open AiGateway.Json

structure Readings where
  input : Int
  output : Int
  reasoning : Int
  details : Option Int
  cacheRead : Int
  cached : Int
  creation : Int
  total : Option Int
  deriving DecidableEq, Repr

namespace Readings

def readTokens (r : Readings) : Int := r.details.getD (addI64 r.cacheRead r.cached)

def creationTokens (r : Readings) : Int := if r.details.isSome then 0 else r.creation

def report (r : Readings) (source : String) : UsageReport where
  inputTokens := r.input
  outputTokens := r.output
  reasoningTokens := r.reasoning
  cachedTokens := addI64 r.readTokens r.creationTokens
  cacheReadTokens := r.readTokens
  cacheCreationTokens := r.creationTokens
  totalTokens := r.total.getD (addI64 r.input r.output)
  source := source

end Readings

/-- A counter: absent, present without an integer, or an integer. -/
def entry (usage : Value) (key : String) : Option (Option Int) := (usage.get key).map Value.asI64

/-- A counter of a details object; it is present when the object is. -/
def detailEntry (usage : Value) (details key : String) : Option (Option Int) :=
  (usage.get details).map fun object => (object.get key).bind Value.asI64

def reported (usage : Value) (key : String) : Option Int := (entry usage key).join

def reportedDetail (usage : Value) (details key : String) : Option Int :=
  (detailEntry usage details key).join

/-- The first spelling present decides, as zero when it carries no integer. -/
def firstPresent : List (Option (Option Int)) → Option Int
  | [] => none
  | none :: rest => firstPresent rest
  | some value :: _ => some (value.getD 0)

/-- The first spelling with an integer decides. -/
def firstInteger : List (Option (Option Int)) → Option Int
  | [] => none
  | some (some n) :: _ => some n
  | none :: rest | some none :: rest => firstInteger rest

def inputEntries (usage : Value) : List (Option (Option Int)) :=
  [entry usage "input_tokens", entry usage "prompt_tokens"]

def outputEntries (usage : Value) : List (Option (Option Int)) :=
  [entry usage "output_tokens", entry usage "completion_tokens"]

def reasoningEntries (usage : Value) : List (Option (Option Int)) :=
  [detailEntry usage "output_tokens_details" "reasoning_tokens",
    detailEntry usage "completion_tokens_details" "reasoning_tokens",
    entry usage "reasoning_tokens"]

def cachedEntries (usage : Value) : List (Option (Option Int)) :=
  [detailEntry usage "input_tokens_details" "cached_tokens",
    detailEntry usage "prompt_tokens_details" "cached_tokens"]

/-- The readings under a rule that picks one of several spellings. -/
def readingsBy (pick : List (Option (Option Int)) → Option Int) (usage : Value) : Readings where
  input := (pick (inputEntries usage)).getD 0
  output := (pick (outputEntries usage)).getD 0
  reasoning := (pick (reasoningEntries usage)).getD 0
  details := pick (cachedEntries usage)
  cacheRead := (reported usage "cache_read_input_tokens").getD 0
  cached := (reported usage "cached_tokens").getD 0
  creation := (reported usage "cache_creation_input_tokens").getD 0
  total := reported usage "total_tokens"

theorem i64At_eq (usage : Value) (key : String) : i64At usage key = (reported usage key).getD 0 := by
  unfold i64At reported entry
  cases usage.get key <;> rfl

theorem reported_eq (usage : Value) (key : String) :
    (usage.get key).bind Value.asI64 = reported usage key := by
  unfold reported entry
  cases usage.get key <;> rfl

theorem reportedDetail_eq (usage : Value) (details key : String) :
    ((usage.get details).bind (Value.get · key)).bind Value.asI64 =
      reportedDetail usage details key := by
  unfold reportedDetail detailEntry
  cases usage.get details <;> rfl

theorem pair_reading (usage : Value) (first second : String) :
    (if (usage.get first).isSome then i64At usage first else i64At usage second) =
      (firstPresent [entry usage first, entry usage second]).getD 0 := by
  simp only [i64At_eq, reported, entry]
  cases usage.get first with
  | none => cases usage.get second <;> rfl
  | some value => rfl

theorem reasoning_reading (usage : Value) :
    (((usage.get "output_tokens_details").map (i64At · "reasoning_tokens")).orElse fun _ =>
      (usage.get "completion_tokens_details").map (i64At · "reasoning_tokens")).getD
        (i64At usage "reasoning_tokens") = (firstPresent (reasoningEntries usage)).getD 0 := by
  unfold reasoningEntries detailEntry
  cases usage.get "output_tokens_details" with
  | some details => rfl
  | none =>
    cases usage.get "completion_tokens_details" with
    | some details => rfl
    | none =>
      rw [i64At_eq, reported]
      unfold entry
      cases usage.get "reasoning_tokens" <;> rfl

theorem details_reading (usage : Value) :
    ((usage.get "input_tokens_details").orElse fun _ => usage.get "prompt_tokens_details").map
      (i64At · "cached_tokens") = firstPresent (cachedEntries usage) := by
  unfold cachedEntries detailEntry
  cases usage.get "input_tokens_details" with
  | some details => rfl
  | none => cases usage.get "prompt_tokens_details" <;> rfl

/-- A complete response is read by the first spelling present. -/
theorem reportFromUsage_eq (usage : Value) :
    reportFromUsage usage = (readingsBy firstPresent usage).report "upstream" := by
  have hDetails := details_reading usage
  unfold reportFromUsage
  simp only [pair_reading, reasoning_reading, reported_eq]
  split
  · next details hSome =>
    rw [hSome, Option.map_some] at hDetails
    simp [readingsBy, Readings.report, Readings.readTokens, Readings.creationTokens, ← hDetails,
      inputEntries, outputEntries]
  · next hNone =>
    rw [hNone, Option.map_none] at hDetails
    simp [readingsBy, Readings.report, Readings.readTokens, Readings.creationTokens, ← hDetails,
      inputEntries, outputEntries, i64At_eq]

theorem reported_range {usage : Value} {key : String} {n : Int} (h : reported usage key = some n) :
    -2 ^ 63 ≤ n ∧ n < 2 ^ 63 := by
  unfold reported entry at h
  cases hGet : usage.get key with
  | none => simp [hGet] at h
  | some value =>
    rw [hGet, Option.map_some] at h
    exact Value.asI64_range h

theorem reportedDetail_range {usage : Value} {details key : String} {n : Int}
    (h : reportedDetail usage details key = some n) : -2 ^ 63 ≤ n ∧ n < 2 ^ 63 := by
  unfold reportedDetail detailEntry at h
  cases hGet : usage.get details with
  | none => simp [hGet] at h
  | some object =>
    rw [hGet] at h
    change (object.get key).bind Value.asI64 = some n at h
    obtain ⟨value, -, hValue⟩ := Option.bind_eq_some_iff.mp h
    exact Value.asI64_range hValue

end AiGateway.Usage
