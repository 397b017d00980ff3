import AiGateway.Proxy.Observe
import AiGateway.Proxy.UsageAgreement

/-!
# Sums and signs of recorded usage

`reportFromUsageChecked` takes the sums of a report as a build with overflow
checks does: it gives nothing where one of them leaves the 64-bit integers.
-/

namespace AiGateway.Usage

set_option autoImplicit false

open AiGateway.Json AiGateway.Text AiGateway.Stream

instance (n : Int) : Decidable (InI64 n) := inferInstanceAs (Decidable (_ ∧ _))

def checkedAddI64 (a b : Int) : Option Int := if InI64 (a + b) then some (a + b) else none

/-- Cache reads and cache creation. -/
def checkedCache (usage : Value) : Option (Int × Int) :=
  match (usage.get "input_tokens_details").orElse fun _ => usage.get "prompt_tokens_details" with
  | some details => some (i64At details "cached_tokens", 0)
  | none =>
    (checkedAddI64 (i64At usage "cache_read_input_tokens") (i64At usage "cached_tokens")).map
      fun read => (read, i64At usage "cache_creation_input_tokens")

/-- The sums are taken whether or not the report needs them. -/
def reportFromUsageChecked (usage : Value) : Option UsageReport := do
  let input :=
    if (usage.get "input_tokens").isSome then i64At usage "input_tokens"
    else i64At usage "prompt_tokens"
  let output :=
    if (usage.get "output_tokens").isSome then i64At usage "output_tokens"
    else i64At usage "completion_tokens"
  let reasoning :=
    (((usage.get "output_tokens_details").map (i64At · "reasoning_tokens")).orElse fun _ =>
      (usage.get "completion_tokens_details").map (i64At · "reasoning_tokens")).getD
        (i64At usage "reasoning_tokens")
  let cache ← checkedCache usage
  let cached ← checkedAddI64 cache.1 cache.2
  let derived ← checkedAddI64 input output
  some
    { inputTokens := input
      outputTokens := output
      reasoningTokens := reasoning
      cachedTokens := cached
      cacheReadTokens := cache.1
      cacheCreationTokens := cache.2
      totalTokens := ((usage.get "total_tokens").bind Value.asI64).getD derived
      source := "upstream" }

namespace Readings

/-- The cache reads before they are cut to 64 bits. -/
def exactRead (r : Readings) : Int := r.details.getD (r.cacheRead + r.cached)

/-- No sum of the report leaves the 64-bit integers. -/
structure Fits (r : Readings) : Prop where
  read : r.details = none → InI64 (r.cacheRead + r.cached)
  cached : InI64 (r.exactRead + r.creationTokens)
  derived : InI64 (r.input + r.output)

/-- No counter of the report is below zero. -/
structure NonNegative (r : Readings) : Prop where
  input : 0 ≤ r.input
  output : 0 ≤ r.output
  reasoning : 0 ≤ r.reasoning
  read : 0 ≤ r.exactRead
  creation : 0 ≤ r.creationTokens
  total : 0 ≤ r.total.getD (r.input + r.output)

theorem Fits.readTokens_eq {r : Readings} (h : r.Fits) : r.readTokens = r.exactRead := by
  unfold readTokens exactRead
  cases hDetails : r.details with
  | some n => rfl
  | none => exact (addI64_eq_iff _ _).mpr (h.read hDetails)

theorem Fits.sums {r : Readings} (h : r.Fits) :
    addI64 r.readTokens r.creationTokens = r.exactRead + r.creationTokens ∧
      addI64 r.input r.output = r.input + r.output := by
  rw [h.readTokens_eq]
  exact ⟨(addI64_eq_iff _ _).mpr h.cached, (addI64_eq_iff _ _).mpr h.derived⟩

end Readings

theorem bind_isSome_iff {α β : Type} (x : Option α) (f : α → Option β) :
    (x >>= f).isSome ↔ ∃ a, x = some a ∧ (f a).isSome := by
  cases x <;> simp

theorem checkedAddI64_eq_some {a b n : Int} :
    checkedAddI64 a b = some n ↔ InI64 (a + b) ∧ n = a + b := by
  unfold checkedAddI64
  split <;> simp [*, eq_comm]

theorem checkedCache_eq_some (usage : Value) (cache : Int × Int) :
    checkedCache usage = some cache ↔
      ((readingsBy firstPresent usage).details = none →
        InI64 ((readingsBy firstPresent usage).cacheRead +
          (readingsBy firstPresent usage).cached)) ∧
      cache = ((readingsBy firstPresent usage).exactRead,
        (readingsBy firstPresent usage).creationTokens) := by
  have hDetails := details_reading usage
  unfold checkedCache
  split
  · next details hSome =>
    rw [hSome, Option.map_some] at hDetails
    have hRead : (readingsBy firstPresent usage).details =
        some (i64At details "cached_tokens") := hDetails.symm
    rw [Readings.exactRead, Readings.creationTokens, hRead]
    simp [eq_comm]
  · next hNone =>
    rw [hNone, Option.map_none] at hDetails
    have hRead : (readingsBy firstPresent usage).details = none := hDetails.symm
    rw [Readings.exactRead, Readings.creationTokens, hRead, i64At_eq, i64At_eq, i64At_eq,
      Option.map_eq_some_iff]
    simp only [checkedAddI64_eq_some]
    constructor
    · rintro ⟨n, ⟨hFits, rfl⟩, rfl⟩
      exact ⟨fun _ => hFits, rfl⟩
    · rintro ⟨hFits, rfl⟩
      exact ⟨_, ⟨hFits trivial, rfl⟩, rfl⟩

theorem reportFromUsageChecked_isSome (usage : Value) :
    (reportFromUsageChecked usage).isSome ↔ (readingsBy firstPresent usage).Fits := by
  have hInput : (readingsBy firstPresent usage).input =
      (firstPresent [entry usage "input_tokens", entry usage "prompt_tokens"]).getD 0 := rfl
  have hOutput : (readingsBy firstPresent usage).output =
      (firstPresent [entry usage "output_tokens", entry usage "completion_tokens"]).getD 0 := rfl
  unfold reportFromUsageChecked
  simp only [pair_reading, bind_isSome_iff, checkedAddI64_eq_some, checkedCache_eq_some]
  rw [← hInput, ← hOutput]
  constructor
  · rintro ⟨cache, ⟨hRead, rfl⟩, cached, ⟨hCached, -⟩, derived, ⟨hDerived, -⟩, -⟩
    exact ⟨hRead, hCached, hDerived⟩
  · rintro ⟨hRead, hCached, hDerived⟩
    exact ⟨_, ⟨hRead, rfl⟩, _, ⟨hCached, rfl⟩, _, ⟨hDerived, rfl⟩, rfl⟩

/-- No counter is below zero. -/
structure NonNegative (report : UsageReport) : Prop where
  input : 0 ≤ report.inputTokens
  output : 0 ≤ report.outputTokens
  reasoning : 0 ≤ report.reasoningTokens
  cached : 0 ≤ report.cachedTokens
  cacheRead : 0 ≤ report.cacheReadTokens
  cacheCreation : 0 ≤ report.cacheCreationTokens
  total : 0 ≤ report.totalTokens

theorem nonNegative_report_iff {r : Readings} (h : r.Fits) (source : String) :
    NonNegative (r.report source) ↔ r.NonNegative := by
  obtain ⟨hCached, hDerived⟩ := h.sums
  have hRead := h.readTokens_eq
  constructor
  · intro hReport
    have hReadTokens := hReport.cacheRead
    have hTotal := hReport.total
    simp only [Readings.report, hRead, hDerived] at hReadTokens hTotal
    exact ⟨hReport.input, hReport.output, hReport.reasoning, hReadTokens, hReport.cacheCreation,
      hTotal⟩
  · intro hReadings
    refine ⟨hReadings.input, hReadings.output, hReadings.reasoning, ?_, ?_, hReadings.creation, ?_⟩
    · simp only [Readings.report, hCached]
      exact Int.add_nonneg hReadings.read hReadings.creation
    · simp only [Readings.report, hRead]
      exact hReadings.read
    · simp only [Readings.report, hDerived]
      exact hReadings.total

theorem nonNegative_missing : NonNegative UsageReport.missing := by
  constructor <;> decide

section

variable (countTokens : String → Nat)

/-- Counts of the tokenizer in place of usage the upstream leaves out. -/
def estimate (input output : Bytes) : UsageReport where
  inputTokens := countTokens (fromUtf8Lossy input)
  outputTokens := countTokens (fromUtf8Lossy output)
  totalTokens := addI64 (countTokens (fromUtf8Lossy input)) (countTokens (fromUtf8Lossy output))
  source := "estimated"

/-- The usage recorded for a complete response, `parsed` when it is JSON. -/
def observeJsonResponse (success : Bool) (request response : Bytes) (parsed : Option Value) :
    UsageReport × ResponseIdentity :=
  let report :=
    (parsed.bind extractJson).getD
      (if success then estimate countTokens request response else UsageReport.missing)
  (report, (parsed.map responseIdentityFromJson).getD {})

/-- The usage recorded for a stream. -/
def usageForStreamObservation (success : Bool) (request : Bytes) (o : StreamObservation) :
    UsageReport :=
  let report :=
    o.parsedUsage.getD
      (if success && !o.captureTruncated then estimate countTokens request o.captured
        else UsageReport.missing)
  if report.reasoningTokens = 0 ∧ report.source ≠ "missing" then
    { report with reasoningTokens := o.estimatedReasoningTokens.getD 0 }
  else report

theorem nonNegative_estimate (hTokens : ∀ text, countTokens text < 2 ^ 62) (input output : Bytes) :
    NonNegative (estimate countTokens input output) := by
  have hInput := hTokens (fromUtf8Lossy input)
  have hOutput := hTokens (fromUtf8Lossy output)
  have hSum : InI64 ((countTokens (fromUtf8Lossy input) : Int) +
      countTokens (fromUtf8Lossy output)) := by
    constructor <;> omega
  have hTotal := (addI64_eq_iff _ _).mpr hSum
  refine ⟨Int.natCast_nonneg _, Int.natCast_nonneg _, Int.le_refl 0, Int.le_refl 0, Int.le_refl 0,
    Int.le_refl 0, ?_⟩
  simp only [estimate, hTotal]
  omega

theorem feedByte_tokens_nonneg {e : ThinkingEstimate} (h : 0 ≤ e.tokens) (b : UInt8) :
    0 ≤ (e.feedByte countTokens b).tokens := by
  have hAdd : ∀ n : Nat, 0 ≤ saturatingAddI64 e.tokens n := by
    intro n
    unfold saturatingAddI64
    omega
  unfold ThinkingEstimate.feedByte
  dsimp only
  split_ifs
  all_goals
    first
    | exact h
    | exact hAdd _

theorem feed_tokens_nonneg {e : ThinkingEstimate} (h : 0 ≤ e.tokens) (bytes : Bytes) :
    0 ≤ (e.feed countTokens bytes).tokens := by
  induction bytes generalizing e with
  | nil => exact h
  | cons b bs ih => exact ih (feedByte_tokens_nonneg countTokens h b)

theorem estimated_nonneg (bytes : Bytes) :
    0 ≤ (ThinkingEstimate.feed countTokens {} bytes).result.getD 0 := by
  unfold ThinkingEstimate.result
  split
  · exact feed_tokens_nonneg countTokens (Int.le_refl 0) bytes
  · exact Int.le_refl 0

theorem nonNegative_withEstimate {report : UsageReport} {n : Int} (h : 0 ≤ n) :
    NonNegative (if report.reasoningTokens = 0 ∧ report.source ≠ "missing" then
      { report with reasoningTokens := n } else report) ↔ NonNegative report := by
  split
  · next hZero =>
    constructor
    · intro hReport
      exact ⟨hReport.input, hReport.output, Int.le_of_eq hZero.1.symm, hReport.cached,
        hReport.cacheRead, hReport.cacheCreation, hReport.total⟩
    · intro hReport
      exact ⟨hReport.input, hReport.output, h, hReport.cached, hReport.cacheRead,
        hReport.cacheCreation, hReport.total⟩
  · exact Iff.rfl

/-- What an upstream sends: one JSON body, or the events of a stream. -/
inductive Payload where
  | json (body : Value)
  | stream (events : List (String × Option Value))

namespace Payload

/-- No sum overflows while the usage report is computed. -/
def checked : Payload → Bool
  | .json body => (usageValue body).all fun usage => (reportFromUsageChecked usage).isSome
  | .stream events =>
    (observeAll events).counters.isEmpty ||
      (reportFromUsageChecked (.object (observeAll events).counters)).isSome

/-- The usage recorded for a payload.  `thinking` are the bytes the reasoning estimate
was fed, `o` holds the rest of what was observed of a stream. -/
def recorded (success : Bool) (request response thinking : Bytes) (o : StreamObservation) :
    Payload → UsageReport
  | .json body => (observeJsonResponse countTokens success request response (some body)).1
  | .stream events =>
    usageForStreamObservation countTokens success request
      { o with
        parsedUsage := (observeAll events).report
        estimatedReasoningTokens := (ThinkingEstimate.feed countTokens {} thinking).result }

/-- The integers the report of a payload is made of, if it carries any. -/
def readings : Payload → Option Readings
  | .json body => (usageValue body).map (readingsBy firstPresent)
  | .stream events =>
    if (events.filterMap observedUsage).any reports then
      some (streamReadings (events.filterMap observedUsage))
    else none

/-- A complete response without a counter above zero is estimated instead. -/
def kept (r : Readings) : Payload → Bool
  | .json _ => r.positive
  | .stream _ => true

end Payload

theorem checked_iff (payload : Payload) :
    payload.checked = true ↔ ∀ r, payload.readings = some r → r.Fits := by
  cases payload with
  | json body =>
    rw [Payload.checked, Payload.readings]
    cases usageValue body with
    | none =>
      refine ⟨fun _ r hr => ?_, fun _ => rfl⟩
      cases hr
    | some usage =>
      rw [Option.all_some, reportFromUsageChecked_isSome, Option.map_some]
      exact ⟨fun hFits r hr => Option.some.inj hr ▸ hFits, fun h => h _ rfl⟩
  | stream events =>
    have hMerged := merged_mergeAll (events.filterMap observedUsage)
    rw [Payload.checked, Payload.readings, observeAll_counters, Bool.or_eq_true,
      reportFromUsageChecked_isSome, readings_merged hMerged, List.isEmpty_iff, hMerged.empty]
    split
    · next hAny =>
      rw [hAny]
      exact ⟨fun h r hr => Option.some.inj hr ▸ h.resolve_left (fun hTrue => Bool.noConfusion hTrue),
        fun h => .inr (h _ rfl)⟩
    · next hAny =>
      rw [Bool.not_eq_true] at hAny
      exact ⟨fun _ r hr => (Option.some_ne_none r hr.symm).elim, fun _ => .inl hAny⟩

/-- Computing the usage of a payload overflows nowhere and records no counter below
zero exactly when the sums of what it reports fit and, where the report is kept,
none of them and none of its counters is below zero. -/
theorem usage_arithmetic_safe_iff (hTokens : ∀ text, countTokens text < 2 ^ 62) (success : Bool)
    (request response thinking : Bytes) (o : StreamObservation) (payload : Payload) :
    (payload.checked = true ∧
        NonNegative (payload.recorded countTokens success request response thinking o)) ↔
      ∀ r, payload.readings = some r → r.Fits ∧ (payload.kept r = true → r.NonNegative) := by
  have hFallback : ∀ (estimated : Bool) (output : Bytes), NonNegative
      (if estimated then estimate countTokens request output else UsageReport.missing) := by
    intro estimated output
    split
    · exact nonNegative_estimate countTokens hTokens request output
    · exact nonNegative_missing
  have hSigns : payload.checked = true →
      (NonNegative (payload.recorded countTokens success request response thinking o) ↔
        ∀ r, payload.readings = some r → payload.kept r = true → r.NonNegative) := by
    intro hChecked
    rw [checked_iff] at hChecked
    cases payload with
    | json body =>
      rw [Payload.recorded, observeJsonResponse, Option.bind_some]
      cases hUsage : usageValue body with
      | none =>
        have hNone : (Payload.json body).readings = none := by rw [Payload.readings, hUsage]; rfl
        rw [hNone, show extractJson body = none by rw [extractJson, hUsage]; rfl]
        exact ⟨fun _ r hr => (Option.some_ne_none r hr.symm).elim, fun _ => hFallback success response⟩
      | some usage =>
        have hSome : (Payload.json body).readings = some (readingsBy firstPresent usage) := by
          rw [Payload.readings, hUsage]
          rfl
        have hFits := hChecked _ hSome
        rw [extractJson_of_usage hUsage, hSome]
        split
        · next hPositive =>
          rw [Option.getD_some, nonNegative_report_iff hFits]
          exact ⟨fun h r hr _ => Option.some.inj hr ▸ h, fun h => h _ rfl hPositive⟩
        · next hPositive =>
          refine ⟨fun _ r hr hKept => ?_, fun _ => hFallback success response⟩
          rw [← Option.some.inj hr] at hKept
          exact absurd hKept hPositive
    | stream events =>
      rw [Payload.recorded, usageForStreamObservation,
        nonNegative_withEstimate (estimated_nonneg countTokens thinking)]
      rw [report_observeAll]
      cases hAny : (events.filterMap observedUsage).any reports with
      | false =>
        have hNone : (Payload.stream events).readings = none := by
          rw [Payload.readings, hAny]
          rfl
        rw [hNone]
        exact ⟨fun _ r hr => (Option.some_ne_none r hr.symm).elim, fun _ => hFallback _ o.captured⟩
      | true =>
        have hSome : (Payload.stream events).readings =
            some (streamReadings (events.filterMap observedUsage)) := by
          rw [Payload.readings, hAny]
          rfl
        rw [hSome, if_pos rfl, Option.getD_some, nonNegative_report_iff (hChecked _ hSome)]
        exact ⟨fun h r hr _ => Option.some.inj hr ▸ h, fun h => h _ rfl rfl⟩
  constructor
  · rintro ⟨hChecked, hRecorded⟩ r hr
    exact ⟨(checked_iff payload).mp hChecked r hr, (hSigns hChecked).mp hRecorded r hr⟩
  · intro h
    have hChecked := (checked_iff payload).mpr fun r hr => (h r hr).1
    exact ⟨hChecked, (hSigns hChecked).mpr fun r hr => (h r hr).2⟩

end

def nothingObserved : StreamObservation where
  captured := []
  captureTruncated := false
  parsedUsage := none
  estimatedReasoningTokens := none
  responseModel := none
  responseReasoningEffort := none
  ttftMs := none
  failed := false
  termination := .completed

/-- An ordinary completion, where nothing is counted by the tokenizer. -/
theorem usage_arithmetic_safe_chat :
    ((Payload.json (.object [("usage", chatUsage)])).checked = true ∧
        NonNegative ((Payload.json (.object [("usage", chatUsage)])).recorded (fun _ => 0) true
          [] [] [] nothingObserved)) ↔
      ∀ r, (Payload.json (.object [("usage", chatUsage)])).readings = some r →
        r.Fits ∧ ((Payload.json (.object [("usage", chatUsage)])).kept r = true →
          r.NonNegative) :=
  usage_arithmetic_safe_iff (fun _ => 0) (fun _ => by decide) true [] [] [] nothingObserved
    (.json (.object [("usage", chatUsage)]))

def negativeUsage : Value := .object [("input_tokens", .ofInt (-5)), ("output_tokens", .ofInt 7)]

/-- A sum of two reported counters overflows, and a negative counter is recorded. -/
theorem usage_overflows_and_goes_negative :
    (Payload.json (.object [("usage", overflowingUsage)])).checked = false ∧
      ((Payload.json (.object [("usage", negativeUsage)])).recorded (fun _ => 0) true [] [] []
        nothingObserved).inputTokens = -5 := by
  decide

end AiGateway.Usage
