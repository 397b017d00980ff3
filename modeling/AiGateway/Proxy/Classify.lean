import AiGateway.Proxy.Chunking

/-!
# What a frame means for the stream

`classifyFrame` reads the event name and, failing that, the JSON payload.  The
lemmas say which part of a frame decides its class; the results say what a null
`error` field does to a stream, and for which names the `event:` line and the
payload's `type` mean the same.
-/

namespace AiGateway.Stream

set_option autoImplicit false

open AiGateway.Json AiGateway.Text

/-- What the JSON reader answers on the texts of an event that are no JSON. -/
structure JsonReader (parse : String → Option Value) : Prop where
  empty : parse "" = none
  done : ∀ data, trim data = "[DONE]" → parse data = none

/-- The parts of an event that its class is read off. -/
structure Frame where
  eventName : String
  dataLines : List String
  deriving DecidableEq, Repr

def Frame.data (f : Frame) : String := "\n".intercalate f.dataLines

def nameOf (eventName : String) : String := toAsciiLowercase (trim eventName)

def typeOf (value : Value) : String :=
  toAsciiLowercase (((value.get "type").bind Value.asStr).getD "")

def completionNames : List String :=
  ["message_stop", "response.completed", "response.incomplete", "response.done"]

def completionTypes : List String := ["response.completed", "response.incomplete", "response.done"]

def failureTypes : List String := ["error", "response.failed"]

/-- An event name that means nothing to the classifier. -/
def OrdinaryName (name : String) : Prop :=
  name ≠ "gateway.error" ∧ name ∉ completionNames ∧ name ≠ "error"

/-- A payload type that means nothing to the classifier. -/
def OrdinaryType (typ : String) : Prop :=
  (typ ≠ "gateway.error" ∧ startsWith typ "gateway_" = false) ∧ typ ∉ completionTypes ∧
    typ ∉ failureTypes

instance (name : String) : Decidable (OrdinaryName name) := inferInstanceAs (Decidable (_ ∧ _))

instance (typ : String) : Decidable (OrdinaryType typ) := inferInstanceAs (Decidable (_ ∧ _))

section

variable {parse : String → Option Value} {name data : String} {value : Value}

theorem classifyFrame_of_completionName (h : nameOf name ∈ completionNames) :
    classifyFrame parse name data = ⟨some .completed, false, none⟩ := by
  have hGateway : nameOf name ≠ "gateway.error" := by
    intro hEq
    rw [hEq] at h
    revert h
    decide
  simp only [completionNames, List.mem_cons, List.not_mem_nil, or_false] at h
  unfold classifyFrame
  simp only [← nameOf.eq_1, hGateway, if_false, h, if_true]
  split
  · rfl
  · rfl

/-- Past the event names, the payload decides. -/
theorem classifyFrame_of_payload (hReader : JsonReader parse)
    (hGateway : nameOf name ≠ "gateway.error") (hName : nameOf name ∉ completionNames)
    (hParse : parse data = some value) (hCode : gatewayCode value = none)
    (hType : typeOf value ≠ "gateway.error" ∧ startsWith (typeOf value) "gateway_" = false) :
    classifyFrame parse name data =
      if typeOf value ∈ completionTypes then ⟨some .completed, false, none⟩
      else ⟨none, decide (nameOf name = "error" ∨ typeOf value ∈ failureTypes) ||
        (value.get "error").isSome, none⟩ := by
  have hDone : trim data ≠ "[DONE]" := by
    intro hEq
    rw [hReader.done data hEq] at hParse
    cases hParse
  have hGatewayType : ¬(typeOf value = "gateway.error" ∨
      startsWith (typeOf value) "gateway_" = true) := by
    rw [not_or, Bool.not_eq_true]
    exact hType
  have hCompletion : (typeOf value = "response.completed" ∨ typeOf value = "response.incomplete" ∨
      typeOf value = "response.done") ↔ typeOf value ∈ completionTypes := by
    simp [completionTypes]
  have hFailure : (nameOf name = "error" ∨ typeOf value = "error" ∨
      typeOf value = "response.failed" ∨ (value.get "error").isSome = true) ↔
      ((nameOf name = "error" ∨ typeOf value ∈ failureTypes) ∨
        (value.get "error").isSome = true) := by
    simp [failureTypes, or_assoc]
  simp only [completionNames, List.mem_cons, List.not_mem_nil, or_false] at hName
  unfold classifyFrame
  simp only [← nameOf.eq_1, hGateway, hDone, hName, if_false, hParse, Option.bind_some, hCode,
    ← typeOf.eq_1, hGatewayType, hCompletion, hFailure]
  split
  · rfl
  · by_cases hError : (nameOf name = "error" ∨ typeOf value ∈ failureTypes) ∨
        (value.get "error").isSome = true
    · rw [if_pos hError]
      simpa using hError
    · rw [if_neg hError]
      simpa using hError

theorem classifyFrame_of_ordinary (hReader : JsonReader parse) (hName : OrdinaryName (nameOf name))
    (hParse : parse data = some value) (hCode : gatewayCode value = none)
    (hType : OrdinaryType (typeOf value)) :
    classifyFrame parse name data = ⟨none, (value.get "error").isSome, none⟩ := by
  rw [classifyFrame_of_payload hReader hName.1 hName.2.1 hParse hCode hType.1,
    if_neg hType.2.1]
  simp [hName.2.2, hType.2.2]

end

namespace SseEventTracker

/-- The event a tracker has open. -/
def frame (t : SseEventTracker) : Frame := ⟨t.eventName, t.dataLines⟩

/-- The tracker with an event of its own choice open. -/
def holding (t : SseEventTracker) (f : Frame) : SseEventTracker :=
  { t with eventName := f.eventName, dataLines := f.dataLines }

section

variable (parse : String → Option Value)

/-- The choices of the open event stay within the limit. -/
def WithinChoices (t : SseEventTracker) : Prop :=
  ((t.takeFrame t.frame.data (parse t.frame.data)).observeChoices
    (choicesOf (parse t.frame.data))).2 = false

instance (t : SseEventTracker) : Decidable (t.WithinChoices parse) :=
  inferInstanceAs (Decidable (_ = false))

/-- The tracker after the payload of the open event was counted. -/
def counted (t : SseEventTracker) : SseEventTracker :=
  ((t.takeFrame t.frame.data (parse t.frame.data)).observeChoices
    (choicesOf (parse t.frame.data))).1

theorem counted_terminal (t : SseEventTracker) : (t.counted parse).terminal = t.terminal := by
  unfold counted
  rw [observeChoices_eq]
  rfl

variable {parse}

/-- An event with a payload is classified and applied. -/
theorem dispatch_of_payload {t : SseEventTracker} (hReader : JsonReader parse) {value : Value}
    (hParse : parse t.frame.data = some value) (hChoices : t.WithinChoices parse)
    (a : SseActivity) :
    t.dispatch parse a =
      (t.counted parse).applyClass a (classifyFrame parse t.eventName t.frame.data) true := by
  have hData : t.frame.data ≠ "" := by
    intro hEq
    rw [hEq, hReader.empty] at hParse
    cases hParse
  have hLines : t.dataLines.isEmpty = false := by
    cases hEmpty : t.dataLines with
    | nil => exact absurd (by simp [Frame.data, frame, hEmpty]) hData
    | cons line lines => rfl
  have hContent : (t.frameNonComment || !t.frame.data.isEmpty || !t.eventName.isEmpty) = true := by
    simp [hData]
  have hJoin : "\n".intercalate t.dataLines = t.frame.data := rfl
  unfold WithinChoices at hChoices
  unfold dispatch
  simp only [hLines, Bool.and_false, Bool.false_and, Bool.false_eq_true, if_false, hJoin, hContent,
    hChoices, counted]

end

/-- The tracker and the activity that the loop over a chunk's bytes starts with. -/
def startChunk (t : SseEventTracker) (bytes : Bytes) : SseEventTracker × SseActivity :=
  if t.rawEvent bytes then ({ t with sawProviderEvent := true }, { providerEvent := true })
  else (t, {})

section

variable (parse : String → Option Value)

theorem feed_eq_feedBytes {t : SseEventTracker} (h : t.terminal ≠ some .bufferLimitExceeded)
    (bytes : Bytes) :
    t.feed parse bytes =
      (t.startChunk bytes).1.feedBytes parse (t.startChunk bytes).2 bytes := by
  unfold feed startChunk
  rw [if_neg h]
  split
  · rfl
  · rfl

theorem startChunk_terminal (t : SseEventTracker) (bytes : Bytes) :
    (t.startChunk bytes).1.terminal = t.terminal := by
  unfold startChunk
  split
  · rfl
  · rfl

/-- An event whose name, type and payload mean nothing to the classifier. -/
structure Ordinary (t : SseEventTracker) (value : Value) : Prop where
  payload : parse t.frame.data = some value
  name : OrdinaryName (nameOf t.eventName)
  typ : OrdinaryType (typeOf value)
  code : gatewayCode value = none

/-- The event a tracker has open reports nothing, and the wrapper reads on when a
blank line ends it. -/
structure Unnoticed (t : SseEventTracker) (a : SseActivity) : Prop where
  error : (t.dispatch parse a).2.error = a.error
  reported : (t.dispatch parse a).2.terminal = a.terminal
  terminal : (t.dispatch parse a).1.terminal = t.terminal
  native : ∀ (st : NativeState) (before : Bytes) (woken : Instant),
    st.tracker.terminal = none → st.finishAfterPending = false →
    (st.tracker.startChunk (before ++ [lf])).1.feedBytes parse
      (st.tracker.startChunk (before ++ [lf])).2 before = (t, a) →
    t.line = [] → t.frameBytes < maxSseFrameBytes → ¬a.reports →
    (st.onChunk parse (before ++ [lf]) woken).finishAfterPending = false

/-- The stream has failed, and the chunk at hand has said so. -/
structure AlreadyFailed (t : SseEventTracker) (a : SseActivity) : Prop where
  error : a.error = true
  reported : failing a.terminal = true
  terminal : failing t.terminal = true

variable {parse}

theorem mergeTerminal_upstreamError (c : Option StreamTermination) :
    mergeTerminal c (some .upstreamError) = c ↔ failing c = true := by
  cases c with
  | none => simp [mergeTerminal, failing]
  | some c => cases c <;> simp [mergeTerminal, failing, StreamTermination.isFailure]

theorem dispatch_of_ordinary {t : SseEventTracker} (hReader : JsonReader parse) {value : Value}
    (h : t.Ordinary parse value) (hChoices : t.WithinChoices parse) (a : SseActivity) :
    t.dispatch parse a =
      (t.counted parse).applyClass a ⟨none, (value.get "error").isSome, none⟩ true := by
  rw [dispatch_of_payload hReader h.payload hChoices,
    classifyFrame_of_ordinary hReader h.name h.payload h.code h.typ]

/-- A chunk whose last octet closes the open event ends the stream only through it. -/
theorem onChunk_of_dispatch {st : NativeState} {t : SseEventTracker} {a : SseActivity}
    {before : Bytes} (hOpen : st.tracker.terminal = none) (hRunning : st.finishAfterPending = false)
    (hReads : (st.tracker.startChunk (before ++ [lf])).1.feedBytes parse
      (st.tracker.startChunk (before ++ [lf])).2 before = (t, a))
    (hLine : t.line = []) (hFits : t.frameBytes < maxSseFrameBytes)
    (hError : (t.dispatch parse a).2.error = a.error)
    (hReported : (t.dispatch parse a).2.terminal = a.terminal) (hQuiet : ¬a.reports)
    (woken : Instant) : (st.onChunk parse (before ++ [lf]) woken).finishAfterPending = false := by
  have hStart : (st.tracker.startChunk (before ++ [lf])).1.terminal ≠ some .bufferLimitExceeded := by
    rw [startChunk_terminal, hOpen]
    simp
  have hAgrees : Agrees t a := by
    have hBegin : Agrees (st.tracker.startChunk (before ++ [lf])).1
        (st.tracker.startChunk (before ++ [lf])).2 := by
      refine ⟨?_, ?_⟩
      · rw [startChunk_terminal, hOpen]
        unfold startChunk
        split
        · rfl
        · rfl
      · unfold startChunk
        split
        · rfl
        · rfl
    have hBefore := hBegin.feedBytes parse before
    rw [hReads] at hBefore
    exact hBefore
  have hUnlimited : t.terminal ≠ some .bufferLimitExceeded := by
    rw [Agrees.not_reports hAgrees hQuiet]
    simp
  have hFeed : (st.tracker.feed parse (before ++ [lf])).2 = (t.dispatch parse a).2 := by
    rw [feed_eq_feedBytes parse (by simp [hOpen]), feedBytes_append parse hStart, hReads,
      if_neg hUnlimited, feedBytes_blank parse hLine a hFits, dispatch_withCount]
    split
    · rfl
    · rfl
  have hStill : ¬(st.tracker.feed parse (before ++ [lf])).2.reports := by
    rw [hFeed]
    unfold SseActivity.reports
    rw [hError, hReported]
    exact hQuiet
  have hLimit : (st.tracker.feed parse (before ++ [lf])).2.terminal ≠
      some .bufferLimitExceeded := by
    intro hEq
    exact hStill (.inr (by rw [hEq]; rfl))
  obtain ⟨beat, event, hNote⟩ := NativeState.noteActivity_eq
    { st with tracker := (st.tracker.feed parse (before ++ [lf])).1 }
    (st.tracker.feed parse (before ++ [lf])).2 woken
  have hSilent : ¬((st.tracker.feed parse (before ++ [lf])).2.error = true ∨
      (st.tracker.feed parse (before ++ [lf])).2.terminal.isSome = true) := hStill
  unfold NativeState.onChunk
  simp only [hNote, NativeState.push, if_neg hLimit, if_neg hSilent]
  exact hRunning

/-- An event that means nothing by its name, its type and its codes goes unnoticed
exactly when it has no `error` field, not even a null one; past a failure it adds
nothing either way. -/
theorem unnoticed_iff {t : SseEventTracker} {value : Value} (hReader : JsonReader parse)
    (h : t.Ordinary parse value) (hChoices : t.WithinChoices parse) (a : SseActivity) :
    t.Unnoticed parse a ↔ value.get "error" = none ∨ AlreadyFailed t a := by
  have hDispatch := dispatch_of_ordinary hReader h hChoices a
  constructor
  · intro hUnnoticed
    cases hField : value.get "error" with
    | none => exact .inl rfl
    | some e =>
      refine .inr ⟨?_, ?_, ?_⟩
      · have hError := hUnnoticed.error
        rw [hDispatch, hField] at hError
        exact hError.symm
      · have hReported := hUnnoticed.reported
        rw [hDispatch, hField] at hReported
        exact (mergeTerminal_upstreamError _).mp hReported
      · have hTerminal := hUnnoticed.terminal
        rw [hDispatch, hField] at hTerminal
        rw [← counted_terminal parse t] at hTerminal ⊢
        exact (mergeTerminal_upstreamError _).mp hTerminal
  · intro hCond
    have hKept : (t.dispatch parse a).2.error = a.error ∧
        (t.dispatch parse a).2.terminal = a.terminal ∧
        (t.dispatch parse a).1.terminal = t.terminal := by
      rw [hDispatch, ← counted_terminal parse t]
      rcases hCond with hField | hFailed
      · rw [hField]
        exact ⟨rfl, rfl, rfl⟩
      · cases hField : value.get "error" with
        | none => exact ⟨rfl, rfl, rfl⟩
        | some e =>
          refine ⟨hFailed.error.symm, (mergeTerminal_upstreamError _).mpr hFailed.reported, ?_⟩
          apply (mergeTerminal_upstreamError _).mpr
          rw [counted_terminal]
          exact hFailed.terminal
    refine ⟨hKept.1, hKept.2.1, hKept.2.2, ?_⟩
    intro st before woken hOpen hRunning hReads hLine hFits hQuiet
    exact onChunk_of_dispatch hOpen hRunning hReads hLine hFits hKept.1 hKept.2.1 hQuiet woken

/-- A chunk of a healthy answer, as providers that write unset fields send it. -/
def healthyText : String := "\x7b\"choices\":[],\"error\":null\x7d"

def healthyValue : Value := .object [("choices", .array []), ("error", .null)]

def readHealthy (data : String) : Option Value :=
  if data = healthyText then some healthyValue else none

theorem readHealthy_reader : JsonReader readHealthy := by
  refine ⟨by decide, ?_⟩
  intro data hDone
  refine if_neg ?_
  intro hEq
  rw [hEq] at hDone
  revert hDone
  decide

theorem unnoticed_iff_healthy :
    Unnoticed readHealthy { dataLines := [healthyText] } {} ↔
      healthyValue.get "error" = none ∨ AlreadyFailed { dataLines := [healthyText] } {} :=
  unnoticed_iff readHealthy_reader
    ⟨if_pos (by decide), by decide, by decide, by decide⟩
    (by decide) {}

/-- A null `error` field ends the stream: the chunk reports an error, and the next
one never reaches the client. -/
theorem null_error_ends_stream :
    let chunk := utf8 ("data: " ++ healthyText ++ "\n\n")
    let s := (Session.wrapNativeBody [.chunk chunk, .chunk chatDoneFrame] .openAiChatCompletions {} 0 0
      (2 ^ 64) (List.replicate 9 ⟨0, .upstream, 0⟩)).run readHealthy 9
    healthyValue.get "error" = some .null ∧
      (({} : SseEventTracker).feed readHealthy chunk).2 =
        { providerEvent := true, error := true, terminal := some .upstreamError } ∧
      s.ended = true ∧ s.sent = [⟨.provider, chunk⟩] := by
  refine ⟨rfl, by decide, by decide, by decide⟩

end

end SseEventTracker

/-- The names by which a provider ends a stream or reports its failure. -/
def classifierNames : List String := completionNames ++ failureTypes

section

variable (parse : String → Option Value)

/-- A frame that gives a name in its `event:` line only. -/
structure NamedByEvent (f : Frame) (name : String) (value : Value) : Prop where
  payload : parse f.data = some value
  event : nameOf f.eventName = name
  typ : OrdinaryType (typeOf value)
  code : gatewayCode value = none
  error : value.get "error" = none

/-- A frame that gives a name as its payload's type only. -/
structure NamedByType (f : Frame) (name : String) (value : Value) : Prop where
  payload : parse f.data = some value
  event : OrdinaryName (nameOf f.eventName)
  typ : typeOf value = name
  code : gatewayCode value = none
  error : value.get "error" = none

/-- Both frames complete a stream, or both are an upstream error, wherever in a
stream they come. -/
structure SameMeaning (f g : Frame) : Prop where
  classified : ∃ c : FrameClass,
    (c = ⟨some .completed, false, none⟩ ∨ c = ⟨none, true, none⟩) ∧
      classifyFrame parse f.eventName f.data = c ∧ classifyFrame parse g.eventName g.data = c
  applied : ∀ (t : SseEventTracker) (a : SseActivity),
    (t.holding f).WithinChoices parse → (t.holding g).WithinChoices parse →
    ((t.holding f).dispatch parse a).1.terminal = ((t.holding g).dispatch parse a).1.terminal ∧
      ((t.holding f).dispatch parse a).2 = ((t.holding g).dispatch parse a).2

variable {parse} {f g : Frame} {name : String} {v w : Value}

theorem NamedByEvent.classified (hReader : JsonReader parse) (hName : name ∈ classifierNames)
    (h : NamedByEvent parse f name v) :
    classifyFrame parse f.eventName f.data =
      if name ∈ completionNames then ⟨some .completed, false, none⟩
      else ⟨none, decide (name = "error"), none⟩ := by
  split
  · rename_i hCompletion
    apply classifyFrame_of_completionName
    rw [h.event]
    exact hCompletion
  · rename_i hOther
    have hGateway : name ≠ "gateway.error" := by
      intro hEq
      rw [hEq] at hName
      revert hName
      decide
    rw [classifyFrame_of_payload hReader (h.event.symm ▸ hGateway) (h.event.symm ▸ hOther) h.payload
      h.code h.typ.1, if_neg h.typ.2.1, h.event, h.error]
    simp [h.typ.2.2]

theorem NamedByType.classified (hReader : JsonReader parse) (hName : name ∈ classifierNames)
    (h : NamedByType parse g name w) :
    classifyFrame parse g.eventName g.data =
      if name ∈ completionTypes then ⟨some .completed, false, none⟩
      else ⟨none, decide (name ∈ failureTypes), none⟩ := by
  have hGateway : ∀ typ ∈ classifierNames,
      typ ≠ "gateway.error" ∧ startsWith typ "gateway_" = false := by decide
  rw [classifyFrame_of_payload hReader h.event.1 h.event.2.1 h.payload h.code
    (h.typ.symm ▸ hGateway name hName), h.typ, h.error]
  simp [h.event.2.2]

/-- Frames of one class have one effect. -/
theorem applied_of_classified (hReader : JsonReader parse) (hf : parse f.data = some v)
    (hg : parse g.data = some w)
    (hClass : classifyFrame parse f.eventName f.data = classifyFrame parse g.eventName g.data)
    (t : SseEventTracker) (a : SseActivity) (hFits : (t.holding f).WithinChoices parse)
    (hFits' : (t.holding g).WithinChoices parse) :
    ((t.holding f).dispatch parse a).1.terminal = ((t.holding g).dispatch parse a).1.terminal ∧
      ((t.holding f).dispatch parse a).2 = ((t.holding g).dispatch parse a).2 := by
  have hEffect : ∀ (u u' : SseEventTracker) (c : FrameClass), u.terminal = u'.terminal →
      (u.applyClass a c true).1.terminal = (u'.applyClass a c true).1.terminal ∧
        (u.applyClass a c true).2 = (u'.applyClass a c true).2 := by
    intro u u' c hTerminal
    unfold SseEventTracker.applyClass
    split
    · exact ⟨by simp only [hTerminal], rfl⟩
    · simp only [if_true]
      split
      · exact ⟨by simp only [hTerminal], rfl⟩
      · exact ⟨by simp only [hTerminal], rfl⟩
  rw [SseEventTracker.dispatch_of_payload (t := t.holding f) hReader hf hFits a,
    SseEventTracker.dispatch_of_payload (t := t.holding g) hReader hg hFits' a]
  have hClass' : classifyFrame parse (t.holding f).eventName (t.holding f).frame.data =
      classifyFrame parse (t.holding g).eventName (t.holding g).frame.data := hClass
  rw [hClass']
  apply hEffect
  rw [SseEventTracker.counted_terminal, SseEventTracker.counted_terminal]
  rfl

/-- A name means the same in the `event:` line and as the payload's type, except
for `message_stop`, which is no type to the classifier, and `response.failed`,
which is no event name to it. -/
theorem sameMeaning_iff (hReader : JsonReader parse) (hName : name ∈ classifierNames)
    (hf : NamedByEvent parse f name v) (hg : NamedByType parse g name w) :
    SameMeaning parse f g ↔ name ≠ "message_stop" ∧ name ≠ "response.failed" := by
  have hEvent := hf.classified hReader hName
  have hType := hg.classified hReader hName
  constructor
  · intro hSame
    obtain ⟨c, hMeaning, hc, hc'⟩ := hSame.classified
    rw [hEvent] at hc
    rw [hType] at hc'
    constructor
    · intro hEq
      rw [hEq, if_neg (by decide)] at hc'
      rw [← hc'] at hMeaning
      revert hMeaning
      decide
    · intro hEq
      rw [hEq, if_neg (by decide)] at hc
      rw [← hc] at hMeaning
      revert hMeaning
      decide
  · intro hNames
    have hMeaning : classifyFrame parse f.eventName f.data =
          classifyFrame parse g.eventName g.data ∧
        (classifyFrame parse f.eventName f.data = ⟨some .completed, false, none⟩ ∨
          classifyFrame parse f.eventName f.data = ⟨none, true, none⟩) := by
      rw [hEvent, hType]
      have hAll : ∀ n ∈ classifierNames, n ≠ "message_stop" ∧ n ≠ "response.failed" →
          (if n ∈ completionNames then (⟨some .completed, false, none⟩ : FrameClass)
            else ⟨none, decide (n = "error"), none⟩) =
            (if n ∈ completionTypes then ⟨some .completed, false, none⟩
              else ⟨none, decide (n ∈ failureTypes), none⟩) ∧
          ((if n ∈ completionNames then (⟨some .completed, false, none⟩ : FrameClass)
            else ⟨none, decide (n = "error"), none⟩) = ⟨some .completed, false, none⟩ ∨
          (if n ∈ completionNames then (⟨some .completed, false, none⟩ : FrameClass)
            else ⟨none, decide (n = "error"), none⟩) = ⟨none, true, none⟩) := by
        decide
      exact hAll name hName hNames
    refine ⟨⟨_, hMeaning.2, rfl, hMeaning.1.symm⟩, ?_⟩
    exact applied_of_classified hReader hf.payload hg.payload hMeaning.1

end

/-- A payload with the type `message_stop` alone. -/
def stopText : String := "\x7b\"type\":\"message_stop\"\x7d"

/-- A payload with the type `Response.Done` alone. -/
def doneText : String := "\x7b\"type\":\"Response.Done\"\x7d"

/-- The reader on three payloads. -/
def readTyped (data : String) : Option Value :=
  if data = stopText then some (.object [("type", .string "message_stop")])
  else if data = doneText then some (.object [("type", .string "Response.Done")])
  else if data = "\x7b\x7d" then some (.object [])
  else none

theorem readTyped_reader : JsonReader readTyped := by
  refine ⟨by decide, ?_⟩
  intro data hDone
  have hTexts : trim stopText ≠ "[DONE]" ∧ trim doneText ≠ "[DONE]" ∧
      trim "\x7b\x7d" ≠ "[DONE]" := by decide
  unfold readTyped
  rw [if_neg, if_neg, if_neg]
  · rintro rfl
    exact hTexts.2.2 hDone
  · rintro rfl
    exact hTexts.2.1 hDone
  · rintro rfl
    exact hTexts.1 hDone

theorem sameMeaning_iff_done :
    SameMeaning readTyped ⟨"RESPONSE.done", ["\x7b\x7d"]⟩ ⟨"", [doneText]⟩ ↔
      "response.done" ≠ "message_stop" ∧ "response.done" ≠ "response.failed" :=
  sameMeaning_iff readTyped_reader (by decide)
    ⟨rfl, by decide, by decide, by decide, by decide⟩
    ⟨rfl, by decide, by decide, by decide, by decide⟩

/-- `message_stop` as an event name completes a stream; as a type it does not, and
the stream ends as incomplete. -/
theorem message_stop_type_ignored :
    let byEvent := (({} : SseEventTracker).feed readTyped
      (utf8 "event: message_stop\ndata: \x7b\x7d\n\n")).1
    let byType := (({} : SseEventTracker).feed readTyped
      (utf8 ("data: " ++ stopText ++ "\n\n"))).1
    byEvent.terminal = some .completed ∧ byType.terminal = none ∧
      eofFailure .anthropicMessages (byType.finishEof readTyped).1 = some .incompleteStream ∧
      classifyFrame readTyped "message_stop" "\x7b\x7d" ≠ classifyFrame readTyped "" stopText := by
  decide

end AiGateway.Stream
