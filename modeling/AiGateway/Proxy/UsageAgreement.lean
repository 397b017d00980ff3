import AiGateway.Proxy.StreamUsage

/-!
# One usage object, read whole and read as an event

A complete response is read by the first spelling present, an event by the first
spelling with an integer.  The two part where a spelling is present without an
integer, and where no counter is positive.
-/

namespace AiGateway.Usage

set_option autoImplicit false

open AiGateway.Json

def startsBlank : List (Option (Option Int)) → Bool
  | [] => false
  | none :: rest => startsBlank rest
  | some value :: _ => value.isNone

theorem firstPresent_of_startsBlank {entries : List (Option (Option Int))}
    (h : startsBlank entries = true) : firstPresent entries = some 0 := by
  induction entries with
  | nil => cases h
  | cons head rest ih =>
    cases head with
    | none => exact ih h
    | some value =>
      cases value with
      | none => rfl
      | some n => cases h

theorem firstPresent_of_not_startsBlank {entries : List (Option (Option Int))}
    (h : startsBlank entries = false) : firstPresent entries = firstInteger entries := by
  induction entries with
  | nil => rfl
  | cons head rest ih =>
    cases head with
    | none => exact ih h
    | some value =>
      cases value with
      | none => cases h
      | some n => rfl

theorem getD_firstPresent_iff (entries : List (Option (Option Int))) :
    (firstPresent entries).getD 0 = (firstInteger entries).getD 0 ↔
      (startsBlank entries = true → (firstInteger entries).getD 0 = 0) := by
  cases hBlank : startsBlank entries with
  | true =>
    rw [firstPresent_of_startsBlank hBlank]
    exact ⟨fun hEq _ => hEq.symm, fun hZero => (hZero rfl).symm⟩
  | false =>
    rw [firstPresent_of_not_startsBlank hBlank]
    exact ⟨fun _ hTrue => Bool.noConfusion hTrue, fun _ => rfl⟩

namespace Readings

def positive (r : Readings) : Bool :=
  r.input > 0 || r.output > 0 || r.reasoning > 0 || addI64 r.readTokens r.creationTokens > 0 ||
    r.readTokens > 0 || r.creationTokens > 0 || r.total.getD (addI64 r.input r.output) > 0

def counters (r : Readings) : Int × Int × Int × Int × Int × Option Int :=
  (r.input, r.output, r.reasoning, r.readTokens, r.creationTokens, r.total)

end Readings

/-- A report without the name of the path that made it. -/
def withoutSource (report : UsageReport) : UsageReport := { report with source := "" }

theorem withoutSource_report {r : Readings} (source : String) :
    withoutSource (r.report source) = r.report "" := rfl

theorem report_eq_of_counters {r s : Readings} (h : r.counters = s.counters) (source : String) :
    r.report source = s.report source := by
  simp only [Readings.counters, Prod.mk.injEq] at h
  obtain ⟨hInput, hOutput, hReasoning, hRead, hCreation, hTotal⟩ := h
  rw [Readings.report, Readings.report, hInput, hOutput, hReasoning, hRead, hCreation, hTotal]

theorem counters_eq_of_report {r s : Readings} (hTotal : r.total = s.total) {source : String}
    (h : r.report source = s.report source) : r.counters = s.counters := by
  simp only [Readings.report, UsageReport.mk.injEq] at h
  obtain ⟨hInput, hOutput, hReasoning, -, hRead, hCreation, -, -⟩ := h
  rw [Readings.counters, Readings.counters, hInput, hOutput, hReasoning, hRead, hCreation, hTotal]

/-- Where the first spelling present is blank, the integers behind it say zero. -/
structure BlankSaysZero (usage : Value) : Prop where
  input : startsBlank (inputEntries usage) = true → (readingsBy firstInteger usage).input = 0
  output : startsBlank (outputEntries usage) = true → (readingsBy firstInteger usage).output = 0
  reasoning : startsBlank (reasoningEntries usage) = true →
    (readingsBy firstInteger usage).reasoning = 0
  cache : startsBlank (cachedEntries usage) = true →
    (readingsBy firstInteger usage).readTokens = 0 ∧
      (readingsBy firstInteger usage).creationTokens = 0

theorem cache_counters_iff (usage : Value) :
    ((readingsBy firstPresent usage).readTokens = (readingsBy firstInteger usage).readTokens ∧
      (readingsBy firstPresent usage).creationTokens =
        (readingsBy firstInteger usage).creationTokens) ↔
    (startsBlank (cachedEntries usage) = true →
      (readingsBy firstInteger usage).readTokens = 0 ∧
        (readingsBy firstInteger usage).creationTokens = 0) := by
  cases hBlank : startsBlank (cachedEntries usage) with
  | true =>
    have hDetails : (readingsBy firstPresent usage).details = some 0 :=
      firstPresent_of_startsBlank hBlank
    have hRead : (readingsBy firstPresent usage).readTokens = 0 := by
      rw [Readings.readTokens, hDetails]
      rfl
    have hCreation : (readingsBy firstPresent usage).creationTokens = 0 := by
      rw [Readings.creationTokens, hDetails]
      rfl
    rw [hRead, hCreation]
    exact ⟨fun hEq _ => ⟨hEq.1.symm, hEq.2.symm⟩,
      fun hZero => ⟨(hZero rfl).1.symm, (hZero rfl).2.symm⟩⟩
  | false =>
    have hDetails : (readingsBy firstPresent usage).details =
        (readingsBy firstInteger usage).details := firstPresent_of_not_startsBlank hBlank
    have hRead : (readingsBy firstPresent usage).readTokens =
        (readingsBy firstInteger usage).readTokens := by
      rw [Readings.readTokens, Readings.readTokens, hDetails]
      rfl
    have hCreation : (readingsBy firstPresent usage).creationTokens =
        (readingsBy firstInteger usage).creationTokens := by
      rw [Readings.creationTokens, Readings.creationTokens, hDetails]
      rfl
    exact ⟨fun _ hTrue => Bool.noConfusion hTrue, fun _ => ⟨hRead, hCreation⟩⟩

theorem counters_eq_iff (usage : Value) :
    (readingsBy firstPresent usage).counters = (readingsBy firstInteger usage).counters ↔
      BlankSaysZero usage := by
  have hCache := cache_counters_iff usage
  simp only [Readings.counters, Prod.mk.injEq]
  constructor
  · rintro ⟨hInput, hOutput, hReasoning, hRead, hCreation, -⟩
    exact ⟨(getD_firstPresent_iff _).mp hInput, (getD_firstPresent_iff _).mp hOutput,
      (getD_firstPresent_iff _).mp hReasoning, hCache.mp ⟨hRead, hCreation⟩⟩
  · intro h
    obtain ⟨hRead, hCreation⟩ := hCache.mpr h.cache
    exact ⟨(getD_firstPresent_iff _).mpr h.input, (getD_firstPresent_iff _).mpr h.output,
      (getD_firstPresent_iff _).mpr h.reasoning, hRead, hCreation, rfl⟩

theorem positive_of_counters {r s : Readings} (h : r.counters = s.counters) :
    r.positive = s.positive := by
  simp only [Readings.counters, Prod.mk.injEq] at h
  obtain ⟨hInput, hOutput, hReasoning, hRead, hCreation, hTotal⟩ := h
  rw [Readings.positive, Readings.positive, hInput, hOutput, hReasoning, hRead, hCreation, hTotal]

theorem firstInteger_pair (x y : Option (Option Int)) :
    firstInteger [x, y] = x.join.or y.join := by
  rcases x with _ | _ | x <;> rcases y with _ | _ | y <;> rfl

theorem firstInteger_triple (x y z : Option (Option Int)) :
    firstInteger [x, y, z] = x.join.or (y.join.or z.join) := by
  rcases x with _ | _ | x
  · exact firstInteger_pair y z
  · exact firstInteger_pair y z
  · rfl

theorem last_singleton (read : Value → Option Int) (usage : Value) :
    last read [usage] = read usage := by
  rw [← List.nil_append [usage], last_concat]
  cases read usage <;> rfl

/-- A stream of one event is read by the first spelling with an integer. -/
theorem streamReadings_singleton (usage : Value) :
    streamReadings [usage] = readingsBy firstInteger usage := by
  have hTotal : lastTotal [usage] = reported usage "total_tokens" := by
    rw [← List.nil_append [usage], lastTotal_concat]
    cases reported usage "total_tokens" with
    | some n => rfl
    | none => cases updates usage <;> rfl
  simp only [streamReadings, readingsBy, lastReported, lastDetail, last_singleton, hTotal,
    inputEntries, outputEntries, reasoningEntries, cachedEntries, firstInteger_pair,
    firstInteger_triple, reported, reportedDetail]

theorem report_of_event {data : String} (hData : data ≠ "") (hDone : data ≠ "[DONE]")
    {event usage : Value} (hEvent : usageValue event = some usage) :
    (({} : SseUsageAccumulator).observe data (some event)).report =
      if reports usage then some ((readingsBy firstInteger usage).report "parsed") else none := by
  have hUsage : [(data, some event)].filterMap observedUsage = [usage] := by
    simp [observedUsage, hData, hDone, hEvent]
  have hReport := report_observeAll [(data, some event)]
  rw [hUsage, streamReadings_singleton, List.any_cons, List.any_nil, Bool.or_false] at hReport
  exact hReport

theorem extractJson_of_usage {body usage : Value} (hBody : usageValue body = some usage) :
    extractJson body =
      if (readingsBy firstPresent usage).positive then
        some ((readingsBy firstPresent usage).report "upstream")
      else none := by
  rw [extractJson, hBody, Option.bind_some, reportFromUsage_eq]
  rfl

theorem positive_of_not_reports {usage : Value} (h : reports usage = false) :
    (readingsBy firstPresent usage).positive = false := by
  have hNone : [usage].any reports = false := by
    rw [List.any_cons, h]
    rfl
  have hSilent := streamReadings_of_silent hNone
  rw [streamReadings_singleton] at hSilent
  have hZero : BlankSaysZero usage := by
    constructor <;> intro _ <;> rw [hSilent]
    exact ⟨by decide, rfl⟩
  rw [positive_of_counters ((counters_eq_iff usage).mpr hZero), hSilent]
  decide

/-- A response body and an event that carry the same usage are reported alike,
both or neither, exactly when no blank spelling stands before another integer and
some counter is above zero; a usage without an integer is reported by neither. -/
theorem json_and_stream_usage_agree_iff (usage body event : Value) (data : String)
    (hBody : usageValue body = some usage) (hEvent : usageValue event = some usage)
    (hData : data ≠ "") (hDone : data ≠ "[DONE]") :
    (extractJson body).map withoutSource =
        (({} : SseUsageAccumulator).observe data (some event)).report.map withoutSource ↔
      (reports usage = true →
        BlankSaysZero usage ∧ (readingsBy firstInteger usage).positive = true) := by
  rw [extractJson_of_usage hBody, report_of_event hData hDone hEvent]
  cases hReports : reports usage with
  | false =>
    rw [positive_of_not_reports hReports]
    exact ⟨fun _ hTrue => Bool.noConfusion hTrue, fun _ => rfl⟩
  | true =>
    cases hPositive : (readingsBy firstPresent usage).positive with
    | false =>
      constructor
      · intro hSame
        cases hSame
      · intro h
        obtain ⟨hZero, hStream⟩ := h rfl
        rw [← positive_of_counters ((counters_eq_iff usage).mpr hZero), hPositive] at hStream
        cases hStream
    | true =>
      constructor
      · intro hSame
        have hReport := Option.some.inj hSame
        rw [withoutSource_report, withoutSource_report] at hReport
        have hCounters : (readingsBy firstPresent usage).counters =
            (readingsBy firstInteger usage).counters := counters_eq_of_report rfl hReport
        exact fun _ => ⟨(counters_eq_iff usage).mp hCounters,
          (positive_of_counters hCounters).symm.trans hPositive⟩
      · intro h
        have hCounters := (counters_eq_iff usage).mpr (h rfl).1
        exact congrArg some (report_eq_of_counters hCounters "")

/-- A null `input_tokens` hides the `prompt_tokens` of a whole response only. -/
def nullInputUsage : Value :=
  .object [("input_tokens", .null), ("output_tokens", .ofInt 3), ("prompt_tokens", .ofInt 5)]

theorem null_spelling_is_counted_by_the_stream_only :
    (extractJson (.object [("usage", nullInputUsage)])).map withoutSource ≠
      (({} : SseUsageAccumulator).observe "usage"
        (some (.object [("usage", nullInputUsage)]))).report.map withoutSource := by
  decide

def chatUsage : Value :=
  .object [("completion_tokens", .ofInt 8), ("prompt_tokens", .ofInt 12),
    ("total_tokens", .ofInt 20)]

theorem chat_usage_agrees :
    (extractJson (.object [("usage", chatUsage)])).map withoutSource =
        (({} : SseUsageAccumulator).observe "usage"
          (some (.object [("usage", chatUsage)]))).report.map withoutSource ↔
      (reports chatUsage = true →
        BlankSaysZero chatUsage ∧ (readingsBy firstInteger chatUsage).positive = true) :=
  json_and_stream_usage_agree_iff chatUsage (.object [("usage", chatUsage)])
    (.object [("usage", chatUsage)]) "usage" rfl rfl (by decide) (by decide)

end AiGateway.Usage
