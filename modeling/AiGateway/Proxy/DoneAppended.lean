import AiGateway.Proxy.ChatDone

/-!
# The added `[DONE]` and the whole stream

Over every body and every schedule in which no timer fires, the client is sent
the gateway's `[DONE]` exactly when the protocol is that of chat completions and
the body is a complete chat completion.
-/

namespace AiGateway.Stream

set_option autoImplicit false

open AiGateway.Json AiGateway.Text SseEventTracker

/-- A finish reason is seen in an event of a frame. -/
structure FinishSeen (t : SseEventTracker) : Prop where
  field : t.dataLines ≠ [] → t.sawSseFrame = true
  seen : t.sawChatFinish = true →
    t.terminal.isSome = true ∨ t.sawProviderEvent = true ∧ t.sawSseFrame = true

section

variable {parse : String → Option Value}

theorem applyClass_seen (t : SseEventTracker) (a : SseActivity) (c : FrameClass) :
    (t.applyClass a c true).1.terminal.isSome = true ∨
      (t.applyClass a c true).1.sawProviderEvent = true := by
  unfold SseEventTracker.applyClass
  split
  · rename_i hGateway
    obtain ⟨g, hg⟩ := Option.isSome_iff_exists.mp hGateway
    left
    cases hTerminal : t.terminal with
    | none => simp [hg, mergeTerminal]
    | some terminal => exact mergeTerminal_isSome rfl c.gateway
  · simp only [if_true]
    split
    · exact .inr rfl
    · exact .inr rfl

theorem applyClass_keepsSeen {t : SseEventTracker} (h : t.sawProviderEvent = true)
    (a : SseActivity) (c : FrameClass) (content : Bool) :
    (t.applyClass a c content).1.sawProviderEvent = true := by
  unfold SseEventTracker.applyClass
  split
  · exact h
  · split
    · split
      · rfl
      · rfl
    · exact h

theorem applyClass_sawSseFrame (t : SseEventTracker) (a : SseActivity) (c : FrameClass)
    (content : Bool) :
    (t.applyClass a c content).1.sawSseFrame = t.sawSseFrame ∧
      (t.applyClass a c content).1.dataLines = t.dataLines := by
  rw [applyClass_eq]
  exact ⟨rfl, rfl⟩

theorem dispatch_finishSeen (hReader : JsonReader parse) {t : SseEventTracker} (h : FinishSeen t)
    (a : SseActivity) : FinishSeen (t.dispatch parse a).1 := by
  unfold SseEventTracker.dispatch
  split
  · exact h
  · simp only
    generalize hData : "\n".intercalate t.dataLines = data
    generalize hTaken : t.takeFrame data (parse data) = u
    have hLines : u.dataLines = [] := by rw [← hTaken]; rfl
    have hKept : u.sawSseFrame = t.sawSseFrame ∧ u.sawProviderEvent = t.sawProviderEvent ∧
        u.terminal = t.terminal ∧ u.sawChatFinish = t.sawChatFinish := by
      rw [← hTaken]
      exact ⟨rfl, rfl, rfl, rfl⟩
    split
    · exact ⟨fun hNonempty => absurd rfl hNonempty, fun _ => .inl rfl⟩
    · generalize hObserved : u.observeChoices (choicesOf (parse data)) = o
      have hNoted := observeChoices_eq u (choicesOf (parse data))
      rw [hObserved] at hNoted
      refine ⟨?_, ?_⟩
      · rw [(applyClass_sawSseFrame _ _ _ _).2, hNoted]
        intro hNonempty
        exact absurd hLines hNonempty
      · rw [(applyClass_choices _ _ _ _).2, (applyClass_sawSseFrame _ _ _ _).1]
        intro hFinish
        by_cases hBefore : t.sawChatFinish = true
        · rcases h.seen hBefore with hTerminal | ⟨hEvent, hFrame⟩
          · left
            apply applyClass_isSome
            rw [hNoted]
            simpa [hKept.2.2.1] using hTerminal
          · right
            refine ⟨applyClass_keepsSeen ?_ _ _ _, ?_⟩
            · rw [hNoted]
              simpa [hKept.2.1] using hEvent
            · rw [hNoted]
              simpa [hKept.1] using hFrame
        · -- the finish reason is in this very event, which therefore has data
          have hPayload : data ≠ "" := by
            intro hEmpty
            rw [hEmpty, hReader.empty] at hObserved
            have hSame : o.1 = u := by rw [← hObserved]; rfl
            rw [hSame, hKept.2.2.2] at hFinish
            exact hBefore hFinish
          have hNonempty : t.dataLines ≠ [] := by
            intro hEmpty
            rw [hEmpty] at hData
            exact hPayload (by rw [← hData]; rfl)
          have hContent : (t.frameNonComment || !data.isEmpty || !t.eventName.isEmpty) = true := by
            simp [hPayload]
          rw [hContent]
          refine (applyClass_seen _ _ _).imp_right fun hEvent => ⟨hEvent, ?_⟩
          rw [hNoted]
          simpa [hKept.1] using h.field hNonempty

theorem readLine_finishSeen {t : SseEventTracker} (h : FinishSeen t) (line : Bytes) :
    FinishSeen (t.readLine line) := by
  have hMore : FinishSeen { t with sawSseFrame := true } :=
    ⟨fun _ => rfl, fun hFinish => (h.seen hFinish).imp_right fun hBoth => ⟨hBoth.1, rfl⟩⟩
  unfold SseEventTracker.readLine
  split
  · exact h
  · simp only
    split
    · exact ⟨fun _ => rfl, hMore.seen⟩
    · split
      · exact ⟨fun _ => rfl, hMore.seen⟩
      · split
        · exact hMore
        · exact ⟨h.field, h.seen⟩

theorem processLine_finishSeen (hReader : JsonReader parse) {t : SseEventTracker}
    (h : FinishSeen t) (a : SseActivity) : FinishSeen (t.processLine parse a).1 := by
  by_cases hLine : t.line = []
  · rw [processLine_blank parse hLine]
    exact dispatch_finishSeen hReader (t := { t with frameBytes := 0 }) ⟨h.field, h.seen⟩ a
  · rw [processLine_of_ne parse hLine]
    exact readLine_finishSeen (t := { t with line := [] }) ⟨h.field, h.seen⟩ t.line

theorem feedBytes_finishSeen (hReader : JsonReader parse) {t : SseEventTracker}
    (h : FinishSeen t) (a : SseActivity) (bytes : Bytes) :
    FinishSeen (t.feedBytes parse a bytes).1 := by
  induction bytes generalizing t a with
  | nil => exact h
  | cons b bs ih =>
    unfold SseEventTracker.feedBytes
    split
    · exact ⟨fun hNonempty => absurd rfl hNonempty, fun _ => .inl rfl⟩
    · simp only
      have hCount : FinishSeen { t with frameBytes := t.frameBytes + 1 } := ⟨h.field, h.seen⟩
      split
      · have hLine := processLine_finishSeen hReader hCount a
        split
        · exact hLine
        · exact ih hLine _
      · split
        · exact ih hCount a
        · have hPush : FinishSeen ({ t with frameBytes := t.frameBytes + 1 }.pushByte b) :=
            ⟨hCount.field, hCount.seen⟩
          exact ih hPush a

theorem feed_finishSeen (hReader : JsonReader parse) {t : SseEventTracker} (h : FinishSeen t)
    (bytes : Bytes) : FinishSeen (t.feed parse bytes).1 := by
  unfold SseEventTracker.feed
  split
  · exact h
  · split
    · have hRaw : FinishSeen { t with sawProviderEvent := true } :=
        ⟨h.field, fun hFinish => (h.seen hFinish).imp_right fun hBoth => ⟨rfl, hBoth.2⟩⟩
      exact feedBytes_finishSeen hReader hRaw _ bytes
    · exact feedBytes_finishSeen hReader h _ bytes

theorem feedAll_finishSeen (hReader : JsonReader parse) {t : SseEventTracker} (h : FinishSeen t)
    (chunks : List Bytes) : FinishSeen (feedAll parse t chunks) := by
  induction chunks generalizing t with
  | nil => exact h
  | cons c cs ih => exact ih (feed_finishSeen hReader h c)

theorem finishEof_finishSeen (hReader : JsonReader parse) {t : SseEventTracker}
    (h : FinishSeen t) : FinishSeen (t.finishEof parse).1 := by
  unfold SseEventTracker.finishEof
  apply dispatch_finishSeen hReader
  split
  · exact h
  · exact processLine_finishSeen hReader h {}

variable (parse) in
/-- The tracker at the end of a body, as the wrapper has it. -/
def endOf (chunks : List Bytes) : SseEventTracker :=
  ((feedAll parse {} chunks).finishEof parse).1

/-- The wrapper's test at the end of a body, read off the body. -/
theorem eofDone_iff (hReader : JsonReader parse) (protocol : Protocol) (chunks : List Bytes) :
    eofDone protocol (endOf parse chunks) = true ↔
      protocol = .openAiChatCompletions ∧ ChatComplete parse chunks.flatten := by
  have hSeen : FinishSeen (endOf parse chunks) :=
    finishEof_finishSeen hReader (feedAll_finishSeen hReader ⟨by simp, by simp⟩ chunks)
  have hSame := finishEof_of_chunks parse {} chunks
  rw [← chatComplete_iff hReader]
  unfold endOf at hSeen ⊢
  generalize ((feedAll parse {} chunks).finishEof parse).1 = final at hSeen hSame ⊢
  generalize ((({} : SseEventTracker).feed parse chunks.flatten).1.finishEof parse).1 = whole
    at hSame ⊢
  have hTerminal := terminal_of_observed hSame
  have hSaw : final.sawChatFinish = whole.sawChatFinish := by
    have hObserved : final.observed.sawChatFinish = whole.observed.sawChatFinish := by rw [hSame]
    exact hObserved
  have hSet : final.unfinishedChatChoices = whole.unfinishedChatChoices := by
    have hObserved : final.observed.unfinishedChatChoices =
        whole.observed.unfinishedChatChoices := by rw [hSame]
    exact hObserved
  rw [← hTerminal, ← hSaw, ← hSet]
  simp only [eofDone, Bool.and_eq_true, decide_eq_true_eq, Option.isNone_iff_eq_none]
  constructor
  · rintro ⟨⟨⟨hOpen, -⟩, -⟩, hProtocol, hFinish, hClosed⟩
    exact ⟨hProtocol, hOpen, hFinish, hClosed⟩
  · rintro ⟨hProtocol, hOpen, hFinish, hClosed⟩
    rcases hSeen.seen hFinish with hSome | ⟨hEvent, hFrame⟩
    · rw [hOpen] at hSome
      cases hSome
    · exact ⟨⟨⟨hOpen, hEvent⟩, hFrame⟩, hProtocol, hFinish, hClosed⟩

/-- A body that reported an error or a terminal on the way still holds one at its
end. -/
theorem feedAll_of_reportsWithin {t : SseEventTracker} (hOpen : t.terminal = none)
    {chunks : List Bytes} (h : reportsWithin parse t chunks) :
    (feedAll parse t chunks).terminal.isSome = true := by
  induction chunks generalizing t with
  | nil => cases h
  | cons c cs ih =>
    have hAgrees := Agrees.feed parse hOpen c
    have hCons : feedAll parse t (c :: cs) = feedAll parse (t.feed parse c).1 cs := rfl
    rw [hCons]
    by_cases hReports : (t.feed parse c).2.reports
    · apply feedAll_isSome
      rw [← hAgrees.terminal]
      rcases hReports with hError | hTerminal
      · rw [hAgrees.error] at hError
        exact Option.isSome_of_any hError
      · exact hTerminal
    · exact ih (Agrees.not_reports hAgrees hReports) (h.resolve_left hReports)

theorem eofDone_of_reportsWithin (protocol : Protocol) {chunks : List Bytes} (rest : List Bytes)
    (h : reportsWithin parse {} chunks) : eofDone protocol (endOf parse (chunks ++ rest)) = false := by
  have hSome : (endOf parse (chunks ++ rest)).terminal.isSome = true := by
    apply finishEof_isSome
    have hChunks := feedAll_of_reportsWithin (t := {}) rfl h
    have hSplit : feedAll parse {} (chunks ++ rest) =
        feedAll parse (feedAll parse {} chunks) rest := by
      rw [feedAll, List.foldl_append]
      rfl
    rw [hSplit]
    exact feedAll_isSome hChunks rest
  unfold eofDone
  rw [Option.isNone_eq_false_iff.mpr hSome]
  rfl

end

/-- The error frame of a timer. -/
def Origin.timedOut : Origin → Bool
  | .errorFrame e => e.isTimeout
  | _ => false

/-- Where the added `[DONE]` stands in a session over the body `upstream`. -/
structure DoneSettled (parse : String → Option Value) (protocol : Protocol)
    (upstream : List UpstreamItem) (v : View) : Prop where
  running : v.finished = false → Chunk.done ∉ v.emitted
  added : Chunk.done ∈ v.emitted →
    eofDone protocol (endOf parse (nonEmptyChunks upstream)) = true
  withheld : v.finished = true → Chunk.done ∈ v.emitted ∨
    (∃ c ∈ v.emitted, c.origin.timedOut = true) ∨
    UpstreamItem.error ∈ upstream ∨
    eofDone protocol (endOf parse (nonEmptyChunks upstream)) = false

section

variable (parse : String → Option Value)

theorem done_notMem_failureChunks (protocol : Protocol) (t : SseEventTracker)
    (e : StreamTermination) : Chunk.done ∉ failureChunks protocol t e := by
  unfold failureChunks
  split
  · simp [Chunk.done, Chunk.separator, Chunk.errorFrame]
  · simp [Chunk.done, Chunk.errorFrame]

/-- A pass that writes no `[DONE]`. -/
theorem DoneSettled.without {protocol : Protocol} {upstream : List UpstreamItem} {v v' : View}
    (h : DoneSettled parse protocol upstream v) (hRunning : v.finished = false)
    {chunks : List Chunk} (hEmitted : v'.emitted = v.emitted ++ chunks)
    (hChunks : Chunk.done ∉ chunks)
    (hReason : v'.finished = true →
      (∃ c ∈ chunks, c.origin.timedOut = true) ∨
      UpstreamItem.error ∈ upstream ∨
      eofDone protocol (endOf parse (nonEmptyChunks upstream)) = false) :
    DoneSettled parse protocol upstream v' := by
  have hNone : Chunk.done ∉ v'.emitted := by
    rw [hEmitted, List.mem_append]
    exact fun hDone => hDone.elim (h.running hRunning) hChunks
  refine ⟨fun _ => hNone, fun hDone => absurd hDone hNone, fun hFinished => .inr ?_⟩
  rcases hReason hFinished with ⟨c, hc, hTimeout⟩ | hOther
  · refine .inl ⟨c, ?_, hTimeout⟩
    rw [hEmitted]
    exact List.mem_append_right _ hc
  · exact .inr hOther

theorem pass_doneSettled {s : Session} {upstream : List UpstreamItem}
    (hPassed : ∃ taken, PassedThrough parse upstream taken s.view)
    (h : DoneSettled parse s.state.protocol upstream s.view) :
    DoneSettled parse s.state.protocol upstream (s.pass parse).view := by
  obtain ⟨taken, hPassed⟩ := hPassed
  cases Session.pass_view parse s with
  | still _ hView => exact hView ▸ h
  | effect cause _ chunks hRunning hEmitted hEffect =>
    have hSplit := hPassed.split
    have hTracker := hPassed.tracker hRunning
    have hProvider : ∀ bytes, Chunk.done ∉ [(⟨.provider, bytes⟩ : Chunk)] := by
      simp [Chunk.done]
    -- a chunk that reports is part of the body, so the body's end holds a terminal
    have hReported : ∀ bytes rest, s.view.upstream = .chunk bytes :: rest → bytes ≠ [] →
        (s.view.tracker.feed parse bytes).2.reports →
        eofDone s.state.protocol (endOf parse (nonEmptyChunks upstream)) = false := by
      intro bytes rest hUpstream hBytes hReports
      have hBody : nonEmptyChunks upstream =
          nonEmptyChunks taken ++ [bytes] ++ nonEmptyChunks rest := by
        have hHead : nonEmptyChunks (.chunk bytes :: rest) = [bytes] ++ nonEmptyChunks rest := by
          rw [← nonEmptyChunks_chunk hBytes, ← nonEmptyChunks_append]
          rfl
        rw [hSplit, hUpstream, nonEmptyChunks_append, hHead, List.append_assoc]
      rw [hBody]
      apply eofDone_of_reportsWithin
      rw [reportsWithin_snoc, ← hTracker]
      exact .inr hReports
    have hEnd : s.view.upstream = [] →
        (s.view.tracker.finishEof parse).1 = endOf parse (nonEmptyChunks upstream) := by
      intro hUpstream
      rw [hSplit, hUpstream, List.append_nil, hTracker]
      rfl
    generalize (s.pass parse).view = v' at hEmitted hEffect ⊢
    obtain ⟨emitted', t', u', finished'⟩ := v'
    simp only at hEmitted hEffect
    cases hEffect with
    | wait => exact h.without parse hRunning hEmitted (by simp) (by simp)
    | withheld => exact h.without parse hRunning hEmitted (by simp) (by simp)
    | skip => exact h.without parse hRunning hEmitted (by simp) (by simp)
    | heartbeat =>
      exact h.without parse hRunning hEmitted (by simp [Chunk.done, Chunk.heartbeat]) (by simp)
    | quiet bytes => exact h.without parse hRunning hEmitted (hProvider bytes) (by simp)
    | reported bytes rest hUpstream hBytes hReports =>
      exact h.without parse hRunning hEmitted (hProvider bytes) fun _ =>
        .inr (.inr (hReported bytes _ hUpstream hBytes hReports))
    | limit bytes rest hUpstream hBytes hTerminal =>
      refine h.without parse hRunning hEmitted ?_ fun _ =>
        .inr (.inr (hReported bytes _ hUpstream hBytes (.inr (by rw [hTerminal]; rfl))))
      simp [Chunk.done, Chunk.separator, Chunk.errorFrame]
    | transport rest hUpstream =>
      refine h.without parse hRunning hEmitted (done_notMem_failureChunks _ _ _) fun _ =>
        .inr (.inl ?_)
      rw [hSplit, hUpstream]
      simp
    | timeout e hTimeout =>
      exact h.without parse hRunning hEmitted (done_notMem_failureChunks _ _ _) fun _ =>
        .inl ⟨_, errorFrame_mem_failureChunks _ _, hTimeout⟩
    | eofClosed hUpstream _ hDone =>
      rw [hEnd hUpstream] at hDone
      exact h.without parse hRunning hEmitted (by simp) fun _ => .inr (.inr hDone)
    | eofFailed e hUpstream hFailure =>
      refine h.without parse hRunning hEmitted (done_notMem_failureChunks _ _ _) fun _ =>
        .inr (.inr ?_)
      rw [← hEnd hUpstream]
      unfold eofFailure at hFailure
      unfold eofDone
      split_ifs at hFailure with hTerminal hEvent hFrame hChat
      · simp_all
      · simp_all
    | eofDone hUpstream hDone =>
      rw [hEnd hUpstream] at hDone
      refine ⟨by simp, fun _ => hDone, fun _ => .inl ?_⟩
      rw [hEmitted]
      simp

variable (protocol : Protocol) (config : StreamConfig)
  (requestStarted connectedAt instantMax : Instant) (ticks : List Tick) (n : Nat)

theorem run_doneSettled (upstream : List UpstreamItem) :
    DoneSettled parse protocol upstream
      ((Session.wrapNativeBody upstream protocol config requestStarted connectedAt instantMax
        ticks).run parse n).view := by
  have hRun := Session.run_induction parse (C := fun _ => True)
    (P := fun s => s.state.protocol = protocol ∧
      (∃ taken, PassedThrough parse upstream taken s.view) ∧
      DoneSettled parse protocol upstream s.view)
    (s := Session.wrapNativeBody upstream protocol config requestStarted connectedAt instantMax
      ticks) ?_ ?_ n fun _ _ => trivial
  · exact hRun.2.2
  · refine ⟨rfl, ⟨[], .start parse rfl rfl rfl rfl⟩, ?_⟩
    refine ⟨fun _ => ?_, fun hDone => ?_, fun h => by cases h⟩
    · simp [Session.wrapNativeBody, Session.view, Session.emitted, NativeState.new]
    · simp [Session.wrapNativeBody, Session.view, Session.emitted, NativeState.new] at hDone
  · rintro s ⟨hProtocol, hPassed, hSettled⟩ -
    refine ⟨(Session.pass_protocol parse s).trans hProtocol,
      pass_passedThrough parse hPassed, ?_⟩
    rw [← hProtocol] at hSettled ⊢
    exact pass_doneSettled parse hPassed hSettled

theorem nonEmptyChunks_flatten (chunks : List Bytes) :
    (nonEmptyChunks (chunks.map .chunk)).flatten = chunks.flatten := by
  induction chunks with
  | nil => rfl
  | cons c cs ih =>
    rw [List.flatten_cons, ← ih]
    cases c with
    | nil => rfl
    | cons b bs => rfl

/-- The added `[DONE]` of a session that has ended and met no timer. -/
theorem ended_done_iff (chunks : List Bytes) :
    let s := (Session.wrapNativeBody (chunks.map .chunk) protocol config requestStarted
      connectedAt instantMax ticks).run parse n
    s.ended = true →
    (∀ c ∈ s.sent, c.origin.timedOut = false) →
    (Chunk.done ∈ s.sent ↔
      eofDone protocol (endOf parse (nonEmptyChunks (chunks.map .chunk))) = true) := by
  intro s hEnded hTimers
  obtain ⟨hPending, hFinished⟩ := Session.run_closed parse (chunks.map .chunk) protocol config
    requestStarted connectedAt instantMax ticks n hEnded
  have hSettled := run_doneSettled parse protocol config requestStarted connectedAt instantMax
    ticks n (chunks.map .chunk)
  have hEmitted : s.view.emitted = s.sent := by
    have hNothing : s.state.pending = [] := hPending
    simp [Session.view, Session.emitted, hNothing]
  change DoneSettled parse protocol (chunks.map .chunk) s.view at hSettled
  rw [← hEmitted] at hTimers ⊢
  constructor
  · exact hSettled.added
  · intro hDone
    rcases hSettled.withheld hFinished with hMem | ⟨c, hc, hTimeout⟩ | hError | hOther
    · exact hMem
    · rw [hTimers c hc] at hTimeout
      cases hTimeout
    · simp at hError
    · rw [hOther] at hDone
      cases hDone

theorem not_unclassified_of_done {e : SseEvent} (h : trim e.frame.data = "[DONE]") :
    ¬Unclassified parse e := by
  unfold Unclassified classifyFrame
  simp only [h, if_true]
  split
  · simp
  · simp

/-- In a session over whole chunks that ended before any timer fired, the gateway
added its `[DONE]` exactly to a complete chat completion; never after the
provider's own. -/
theorem done_appended_iff (hReader : JsonReader parse) (chunks : List Bytes) :
    let s := (Session.wrapNativeBody (chunks.map .chunk) protocol config requestStarted
      connectedAt instantMax ticks).run parse n
    s.ended = true →
    (∀ c ∈ s.sent, c.origin.timedOut = false) →
    (Chunk.done ∈ s.sent ↔
      protocol = .openAiChatCompletions ∧ ChatComplete parse chunks.flatten) ∧
    ((∃ e ∈ streamEvents chunks.flatten, trim e.frame.data = "[DONE]") → Chunk.done ∉ s.sent) := by
  intro s hEnded hTimers
  have hIff : Chunk.done ∈ s.sent ↔
      protocol = .openAiChatCompletions ∧ ChatComplete parse chunks.flatten := by
    rw [← nonEmptyChunks_flatten chunks, ← eofDone_iff hReader]
    exact ended_done_iff parse protocol config requestStarted connectedAt instantMax ticks n chunks
      hEnded hTimers
  refine ⟨hIff, ?_⟩
  rintro ⟨e, he, hOwn⟩ hDone
  exact not_unclassified_of_done parse hOwn ((hIff.mp hDone).2.unclassified e he)

end

/-- The last frame of a chat completion. -/
def finishText : String := "\x7b\"choices\":[\x7b\"finish_reason\":\"stop\"\x7d]\x7d"

/-- A frame that takes its finish reason back. -/
def reopenText : String := "\x7b\"choices\":[\x7b\"finish_reason\":\"stop\"\x7d,\x7b\x7d]\x7d"

def finishedChoice : Value := .object [("finish_reason", .string "stop")]

/-- The reader on these two payloads. -/
def readFinish (data : String) : Option Value :=
  if data = finishText then some (.object [("choices", .array [finishedChoice])])
  else if data = reopenText then
    some (.object [("choices", .array [finishedChoice, .object []])])
  else none

theorem readFinish_reader : JsonReader readFinish := by
  refine ⟨by decide, ?_⟩
  intro data hDone
  have hTexts : trim finishText ≠ "[DONE]" ∧ trim reopenText ≠ "[DONE]" := by decide
  unfold readFinish
  rw [if_neg, if_neg]
  · rintro rfl
    exact hTexts.2 hDone
  · rintro rfl
    exact hTexts.1 hDone

/-- A configuration without timers or heartbeats. -/
def untimed : StreamConfig := ⟨0, 0, 0, 0, 0⟩

def untimedTicks : List Tick := List.replicate 3 ⟨0, .upstream, 0⟩

theorem done_appended_iff_finished :
    let s := (Session.wrapNativeBody ([utf8 ("data: " ++ finishText ++ "\n\n")].map .chunk)
      .openAiChatCompletions untimed 0 0 0 untimedTicks).run readFinish 5
    (Chunk.done ∈ s.sent ↔ Protocol.openAiChatCompletions = .openAiChatCompletions ∧
      ChatComplete readFinish [utf8 ("data: " ++ finishText ++ "\n\n")].flatten) ∧
    ((∃ e ∈ streamEvents [utf8 ("data: " ++ finishText ++ "\n\n")].flatten,
      trim e.frame.data = "[DONE]") → Chunk.done ∉ s.sent) := by
  apply done_appended_iff readFinish .openAiChatCompletions untimed 0 0 0 untimedTicks 5
    readFinish_reader [utf8 ("data: " ++ finishText ++ "\n\n")]
  · decide +kernel
  · decide +kernel

/-- A weaker reading of completeness: the latest event that mentions a choice
carries a finish reason for it, at any size and in any order within the event. -/
structure LatestFinished (parse : String → Option Value) (bytes : Bytes) : Prop where
  unclassified : ∀ e ∈ streamEvents bytes, Unclassified parse e
  finish : ∃ m ∈ history parse (streamEvents bytes), m.2 = true
  latest : ∀ m ∈ history parse (streamEvents bytes), ∃ before e after,
    streamEvents bytes = before ++ e :: after ∧ (m.1, true) ∈ mentions parse e ∧
      ∀ later ∈ after, ∀ m' ∈ mentions parse later, m'.1 ≠ m.1

theorem latestFinished_of_first {parse : String → Option Value} {bytes : Bytes} {e : SseEvent}
    {after : List SseEvent} (hEvents : streamEvents bytes = e :: after)
    (hClass : ∀ e' ∈ e :: after, Unclassified parse e')
    (hAfter : ∀ later ∈ after, mentions parse later = [])
    (hFinish : (0, true) ∈ mentions parse e) (hOnly : ∀ m ∈ mentions parse e, m.1 = 0) :
    LatestFinished parse bytes := by
  have hHistory : history parse (streamEvents bytes) = mentions parse e := by
    have hNone : after.flatMap (mentions parse) = [] := List.flatMap_eq_nil_iff.mpr hAfter
    rw [hEvents, history, List.flatMap_cons, hNone, List.append_nil]
  refine ⟨hEvents ▸ hClass, ?_, ?_⟩
  · rw [hHistory]
    exact ⟨_, hFinish, rfl⟩
  · rw [hHistory]
    intro m hm
    refine ⟨[], e, after, hEvents, ?_, ?_⟩
    · rw [hOnly m hm]
      exact hFinish
    · intro later hLater m' hm'
      rw [hAfter later hLater] at hm'
      cases hm'

theorem splitLines_append (line xs ys : Bytes) :
    splitLines line (xs ++ ys) =
      ((splitLines line xs).1 ++ (splitLines (splitLines line xs).2 ys).1,
        (splitLines (splitLines line xs).2 ys).2) := by
  induction xs generalizing line with
  | nil => rfl
  | cons x xs ih =>
    rw [List.cons_append, splitLines, splitLines]
    split
    · rw [ih]
      rfl
    · split
      · exact ih line
      · exact ih (line ++ [x])

theorem splitLines_replicate (line : Bytes) (n : Nat) :
    splitLines line (List.replicate n 0x61) = ([], line ++ List.replicate n 0x61) := by
  induction n generalizing line with
  | zero => simp [splitLines]
  | succ n ih =>
    rw [List.replicate_succ, splitLines, if_neg (by decide), if_neg (by decide), ih,
      List.append_assoc]
    rfl

theorem fitsSize_replicate {k n : Nat} (hn : 0 < n)
    (h : FitsSize (false, k) (List.replicate n 0x61)) : k + n ≤ maxSseFrameBytes := by
  induction n generalizing k with
  | zero => cases hn
  | succ n ih =>
    rw [List.replicate_succ] at h
    obtain ⟨hFirst, hRest⟩ := h
    have hStep : openStep (false, k) 0x61 = (false, k + 1) := rfl
    rw [hStep] at hRest
    cases n with
    | zero =>
      have hLt : k < maxSseFrameBytes := hFirst
      omega
    | succ m =>
      have hMore := ih (Nat.succ_pos m) hRest
      omega

/-- A finished completion whose provider goes on with one comment of `n` octets. -/
def withComment (n : Nat) : Bytes :=
  utf8 ("data: " ++ finishText ++ "\n\n") ++ colon :: List.replicate n 0x61

theorem streamEvents_withComment (n : Nat) :
    streamEvents (withComment n) = [⟨⟨"", [finishText]⟩, true, true⟩, {}] := by
  have hFirst : splitLines [] (utf8 ("data: " ++ finishText ++ "\n\n")) =
      ([utf8 ("data: " ++ finishText), []], []) := by decide
  have hEvent : ({} : SseEvent).readLine (utf8 ("data: " ++ finishText)) =
      ⟨⟨"", [finishText]⟩, true, true⟩ := by decide
  have hLine : utf8 ("data: " ++ finishText) ≠ [] := by decide
  have hComment : ({} : SseEvent).readLine (colon :: List.replicate n 0x61) = {} := rfl
  have hTail : splitLines [] (colon :: List.replicate n 0x61) =
      ([], colon :: List.replicate n 0x61) := by
    rw [splitLines, if_neg (by decide), if_neg (by decide), splitLines_replicate]
    rfl
  unfold streamEvents withComment
  rw [splitLines_append, hFirst, hTail]
  simp only [List.append_nil, List.cons_append, List.nil_append, eventsOf, hLine, hEvent, if_false,
    if_true, reduceCtorEq, hComment]

theorem not_fitsSize_withComment {n : Nat} (hn : maxSseFrameBytes ≤ n) :
    ¬FitsSize (true, 0) (withComment n) := by
  have hFirst : (utf8 ("data: " ++ finishText ++ "\n\n")).foldl openStep (true, 0) = (true, 0) := by
    decide
  have hPositive : 0 < maxSseFrameBytes := by simp [maxSseFrameBytes]
  unfold withComment
  rw [fitsSize_append, hFirst, FitsSize]
  rintro ⟨-, -, hComment⟩
  have hLe := fitsSize_replicate (Nat.lt_of_lt_of_le hPositive hn) hComment
  omega

theorem feed_withComment (parse : String → Option Value) {n : Nat} (hn : maxSseFrameBytes ≤ n) :
    (({} : SseEventTracker).feed parse (withComment n)).2.terminal = some .bufferLimitExceeded := by
  have hAgrees := Agrees.feed parse (t := {}) rfl (withComment n)
  rw [hAgrees.terminal, terminal_of_observed (feed_observed parse (by simp) (withComment n))]
  by_contra hOpen
  exact not_fitsSize_withComment hn (feedBytes_fitsSize parse (t := {}) {} (withComment n) hOpen)

/-- A body of one chunk that goes over a limit. -/
theorem run_limited {parse : String → Option Value} {c : Bytes} (hc : c ≠ [])
    (hLimit : (({} : SseEventTracker).feed parse c).2.terminal = some .bufferLimitExceeded) :
    let s := (Session.wrapNativeBody ([c].map .chunk) .openAiChatCompletions untimed 0 0 0
      untimedTicks).run parse 5
    s.ended = true ∧ s.sent = [⟨.provider, c⟩, .separator,
      .errorFrame .openAiChatCompletions .bufferLimitExceeded] := by
  have hFresh : ∀ st, st = NativeState.new [.chunk c] .openAiChatCompletions untimed 0 0 0 →
      (st.poll parse ⟨0, .upstream, 0⟩).pending = [⟨.provider, c⟩, .separator,
          .errorFrame .openAiChatCompletions .bufferLimitExceeded] ∧
        (st.poll parse ⟨0, .upstream, 0⟩).finishAfterPending = true ∧
        (st.poll parse ⟨0, .upstream, 0⟩).done = false := by
    intro st hSt
    have hEmpty : st.pending = [] := by rw [hSt]; rfl
    have hOpen : st.finishAfterPending = false := by rw [hSt]; rfl
    have hAfter := NativeState.after_poll parse hEmpty hOpen ⟨0, .upstream, 0⟩
    have hCause : st.cause ⟨0, .upstream, 0⟩ = .read (some (.chunk c)) := by
      rw [hSt]
      rfl
    have hDone := hAfter.done
    have hEffect := hAfter.effect
    rw [hCause] at hEffect
    have hTracker : st.tracker = {} := by rw [hSt]; rfl
    have hProtocol : st.protocol = .openAiChatCompletions := by rw [hSt]; rfl
    have hUpstream : st.upstream = [.chunk c] := by rw [hSt]; rfl
    have hRunning : st.done = false := by rw [hSt]; rfl
    rw [hTracker, hProtocol, hUpstream] at hEffect
    rw [hRunning] at hDone
    generalize st.poll parse ⟨0, .upstream, 0⟩ = st' at hEffect hDone ⊢
    obtain ⟨upstream', protocol', config', requested', connected', max', tracker', pending',
      finished', done', beat', event'⟩ := st'
    simp only at hEffect hDone ⊢
    cases hEffect with
    | skip => exact absurd rfl hc
    | quiet _ _ _ _ hQuiet => exact absurd (.inr (by rw [hLimit]; rfl)) hQuiet
    | reported _ _ _ _ _ hOther => exact absurd hLimit hOther
    | limit => exact ⟨rfl, rfl, hDone⟩
  obtain ⟨hPending, hFinish, hDone⟩ := hFresh _ rfl
  have hNew : (NativeState.new [.chunk c] .openAiChatCompletions untimed 0 0 0).pending = [] ∧
      (NativeState.new [.chunk c] .openAiChatCompletions untimed 0 0 0).done = false ∧
      (NativeState.new [.chunk c] .openAiChatCompletions untimed 0 0 0).finishAfterPending = false :=
    ⟨rfl, rfl, rfl⟩
  simp [Session.run, Session.pass, Session.wrapNativeBody, untimedTicks, List.replicate, hNew,
    hPending, hFinish, hDone]

theorem withComment_ne (n : Nat) : withComment n ≠ [] := by
  simp [withComment]

/-- The latest event of every choice is not enough: the same event may take its
finish reason back, and a body may go over a limit after its last event. -/
theorem latest_finished_not_enough :
    (let bytes := utf8 ("data: " ++ reopenText ++ "\n\n")
      let s := (Session.wrapNativeBody ([bytes].map .chunk) .openAiChatCompletions untimed 0 0 0
        untimedTicks).run readFinish 5
      LatestFinished readFinish bytes ∧ s.ended = true ∧
        (∀ c ∈ s.sent, c.origin.timedOut = false) ∧ Chunk.done ∉ s.sent) ∧
    (let bytes := withComment maxSseFrameBytes
      let s := (Session.wrapNativeBody ([bytes].map .chunk) .openAiChatCompletions untimed 0 0 0
        untimedTicks).run readFinish 5
      LatestFinished readFinish bytes ∧ s.ended = true ∧
        (∀ c ∈ s.sent, c.origin.timedOut = false) ∧ Chunk.done ∉ s.sent) := by
  constructor
  · have hEvents : streamEvents (utf8 ("data: " ++ reopenText ++ "\n\n")) =
        [⟨⟨"", [reopenText]⟩, true, true⟩, {}, {}] := by decide
    refine ⟨latestFinished_of_first hEvents ?_ ?_ ?_ ?_, ?_, ?_, ?_⟩
    · decide
    · decide
    · decide
    · decide
    · decide +kernel
    · decide +kernel
    · decide +kernel
  · obtain ⟨hEnded, hSent⟩ := run_limited (withComment_ne maxSseFrameBytes)
      (feed_withComment readFinish (Nat.le_refl maxSseFrameBytes))
    refine ⟨latestFinished_of_first (streamEvents_withComment maxSseFrameBytes) ?_ ?_ ?_ ?_, hEnded,
      ?_, ?_⟩
    · decide
    · decide
    · decide
    · decide
    · rw [hSent]
      simp [Origin.timedOut, Chunk.separator, Chunk.errorFrame, StreamTermination.isTimeout]
    · rw [hSent]
      simp [Chunk.done, Chunk.separator, Chunk.errorFrame]

end AiGateway.Stream
