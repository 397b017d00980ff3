import AiGateway.Proxy.Passthrough
import AiGateway.Proxy.FeedFrame
import AiGateway.Proxy.Observe

/-!
# The observer agrees with the wrapper

The wrapper's tracker reads the provider's bytes, the observer's tracker the
whole output.  As long as the wrapper runs they differ in their byte counts
only; from that the observer's verdict is followed through every way the wrapper
can finish.
-/

namespace AiGateway.Stream

set_option autoImplicit false

open AiGateway.Json AiGateway.Text SseEventTracker

/-- The failure named by an error frame of the output. -/
def Chunk.failure (c : Chunk) : Option StreamTermination :=
  match c.origin with
  | .errorFrame e => some e
  | _ => none

/-- The wrapper's own outcome: the failure it queued, or else what its tracker
found, or else completion. -/
def View.outcome (v : View) : StreamTermination :=
  (v.emitted.findSome? Chunk.failure).getD (v.tracker.terminal.getD .completed)

def Session.outcome (s : Session) : StreamTermination := s.view.outcome

/-- The bytes of the frame that is open after some output, as the tracker counts
them. -/
def openBytes (bytes : Bytes) : Nat := (bytes.foldl openStep (true, 0)).2

section

variable (parse : String → Option Value)

/-- What the observer's verdict depends on. -/
structure Verdict where
  tracker : SseEventTracker
  termination : Option StreamTermination

namespace Verdict

def feed (v : Verdict) (bytes : Bytes) : Verdict where
  tracker := (v.tracker.feed parse bytes).1
  termination := ObservationGuard.noteTermination v.termination (v.tracker.feed parse bytes).2

def ofChunks (chunks : List Chunk) : Verdict :=
  (chunks.map Chunk.bytes).foldl (feed parse) ⟨{}, none⟩

def settled (v : Verdict) : StreamTermination :=
  v.termination.getD
    (ObservationGuard.eofTermination (v.tracker.finishEof parse).1 (v.tracker.finishEof parse).2)

theorem ofChunks_append (xs ys : List Chunk) :
    ofChunks parse (xs ++ ys) = (ys.map Chunk.bytes).foldl (feed parse) (ofChunks parse xs) := by
  simp [ofChunks]

theorem settled_of_some {v : Verdict} {e : StreamTermination} (h : v.termination = some e) :
    v.settled parse = e := by
  rw [settled, h]
  rfl

/-- A chunk whose feed reports a failure. -/
theorem feed_failure {v : Verdict} {bytes : Bytes} {e : StreamTermination} (he : e ≠ .completed)
    (hError : (v.tracker.feed parse bytes).2.error = true)
    (hTerminal : (v.tracker.feed parse bytes).2.terminal = some e) :
    (v.feed parse bytes).termination = some e := by
  have hFailure : e.isFailure = true := by simpa [StreamTermination.isFailure] using he
  simp [feed, ObservationGuard.noteTermination, hError, hTerminal, Option.filter, hFailure]

end Verdict

namespace ObservationGuard

variable (countTokens : String → Nat)

def verdict (g : ObservationGuard) : Verdict := ⟨g.tracker, g.termination⟩

theorem observe_verdict (g : ObservationGuard) (bytes : Bytes) (elapsedMs : Int) :
    (g.observe parse countTokens bytes elapsedMs).verdict = g.verdict.feed parse bytes ∧
      (g.observe parse countTokens bytes elapsedMs).reported = g.reported := by
  refine ⟨?_, observe_reported parse countTokens g bytes elapsedMs⟩
  rw [verdict, observe_tracker]
  rfl

theorem run_chunks (g : ObservationGuard) (polls : List (Bytes × Int)) :
    (g.run parse countTokens (polls.map fun p => .chunk p.1 p.2)).verdict =
        (polls.map Prod.fst).foldl (Verdict.feed parse) g.verdict ∧
      (g.run parse countTokens (polls.map fun p => .chunk p.1 p.2)).reported = g.reported := by
  induction polls generalizing g with
  | nil => exact ⟨rfl, rfl⟩
  | cons p polls ih =>
    obtain ⟨hVerdict, hReported⟩ := observe_verdict parse countTokens g p.1 p.2
    obtain ⟨hRun, hRun'⟩ := ih (g.observe parse countTokens p.1 p.2)
    constructor
    · refine hRun.trans ?_
      rw [hVerdict]
      rfl
    · exact hRun'.trans hReported

/-- What `observe_stream_body` reports for a body read to its end. -/
theorem run_eof (polls : List (Bytes × Int)) :
    ((({} : ObservationGuard).run parse countTokens
        ((polls.map fun p => .chunk p.1 p.2) ++ [.eof])).reported.map
          StreamObservation.termination) =
      some (((polls.map Prod.fst).foldl (Verdict.feed parse) ⟨{}, none⟩).settled parse) := by
  obtain ⟨hVerdict, hReported⟩ := run_chunks parse countTokens {} polls
  rw [run, List.foldl_append]
  simp only [List.foldl_cons, List.foldl_nil]
  change ((step parse countTokens (run parse countTokens {} (polls.map fun p => .chunk p.1 p.2))
    .eof).reported.map _) = _
  generalize run parse countTokens {} (polls.map fun p => .chunk p.1 p.2) = g at hVerdict hReported ⊢
  have hNone : g.reported.isSome = false := by rw [hReported]; rfl
  have hStart : verdict {} = ⟨{}, none⟩ := rfl
  rw [hStart] at hVerdict
  rw [← hVerdict]
  simp only [step, complete, hNone, Bool.false_eq_true, if_false, Option.map_some]
  rfl

end ObservationGuard

/-- A failure frame that interrupts the stream leaves the observer within its
limits: written at once it fits the count of the output's open frame, and the
separator closes that frame without hitting a limit. -/
def KeepsWithin (s : Session) (e : StreamTermination) : Prop :=
  (s.state.tracker.safeForHeartbeat = true →
    openBytes (bytesOf s.emitted) + (gatewayErrorEvent s.state.protocol e).length ≤
      maxSseFrameBytes) ∧
  (s.state.tracker.safeForHeartbeat = false →
    ((s.state.tracker.withCount (openBytes (bytesOf s.emitted))).feed parse [lf, lf]).1.terminal ≠
      some .bufferLimitExceeded)

/-- What the next pass writes, the observer reads as the wrapper means it. -/
structure KeepsUp (s : Session) : Prop where
  heartbeat : s.cause = some .heartbeat → s.state.tracker.safeForHeartbeat = true →
    openBytes (bytesOf s.emitted) + heartbeatFrame.length ≤ maxSseFrameBytes
  transport : s.cause = some (.read (some .error)) → KeepsWithin parse s .transportError
  timer : ∀ e, s.cause = some (.timer e) → KeepsWithin parse s e
  failed : s.cause = some (.read none) → ∀ e,
    eofFailure s.state.protocol (s.state.tracker.finishEof parse).1 = some e →
      s.state.tracker.safeForHeartbeat = true ∧
        openBytes (bytesOf s.emitted) + (gatewayErrorEvent s.state.protocol e).length ≤
          maxSseFrameBytes
  done : s.cause = some (.read none) →
    eofDone s.state.protocol (s.state.tracker.finishEof parse).1 = true →
      s.state.tracker.safeForHeartbeat = true ∧
        openBytes (bytesOf s.emitted) + chatDoneFrame.length ≤ maxSseFrameBytes

/-- The JSON reader gives back the gateway's own payloads and rejects `[DONE]`. -/
structure ReadsBack (protocol : Protocol) : Prop where
  payload : ∀ e, parse (gatewayErrorBody protocol e) = some (gatewayErrorPayload protocol e)
  done : parse "[DONE]" = none

/-- While the wrapper runs the observer's tracker is its own but for the count. -/
structure InStep (v : View) : Prop where
  openStream : v.tracker.terminal = none
  verdict : Verdict.ofChunks parse v.emitted =
    ⟨v.tracker.withCount (openBytes (bytesOf v.emitted)), none⟩
  line : ((bytesOf v.emitted).foldl openStep (true, 0)).1 = v.tracker.line.isEmpty
  count : openBytes (bytesOf v.emitted) ≤ v.tracker.frameBytes

structure Synced (v : View) : Prop where
  eventsLast : EventsLast v
  running : v.finished = false → InStep parse v
  finished : v.finished = true → (Verdict.ofChunks parse v.emitted).settled parse = v.outcome

/-- A body that ends without a terminal, and for whose end the wrapper writes
nothing, was no event stream. -/
theorem raw_of_closed {protocol : Protocol} {t : SseEventTracker} (hTerminal : t.terminal = none)
    (hFailure : eofFailure protocol t = none) (hDone : eofDone protocol t = false) :
    t.sawProviderEvent = true ∧ t.sawSseFrame = false := by
  cases hEvent : t.sawProviderEvent with
  | false => simp [eofFailure, hTerminal, hEvent] at hFailure
  | true =>
    cases hFrame : t.sawSseFrame with
    | false => exact ⟨rfl, rfl⟩
    | true =>
      simp only [eofFailure, hTerminal, hEvent, hFrame, Option.isSome_none, Bool.false_eq_true,
        if_false, Bool.not_true, ite_eq_left_iff, reduceCtorEq, imp_false, not_not] at hFailure
      simp [eofDone, hTerminal, hEvent, hFrame] at hDone
      exact absurd hFailure.2.2 (hDone hFailure.1 hFailure.2.1)

theorem bytesOf_snoc (chunks : List Chunk) (c : Chunk) :
    bytesOf (chunks ++ [c]) = bytesOf chunks ++ c.bytes := by
  simp [bytesOf]

theorem ofChunks_snoc (chunks : List Chunk) (c : Chunk) :
    Verdict.ofChunks parse (chunks ++ [c]) = (Verdict.ofChunks parse chunks).feed parse c.bytes := by
  simp [Verdict.ofChunks]

theorem noFailure_of_running {v : View} (h : EventsLast v) (hRunning : v.finished = false) :
    v.emitted.findSome? Chunk.failure = none := by
  rw [List.findSome?_eq_none_iff]
  intro c hc
  have hEvent := h.running hRunning c hc
  unfold Chunk.failure
  split
  · rename_i hOrigin
    rw [hOrigin] at hEvent
    cases hEvent
  · rfl

variable {protocol : Protocol}

/-- The verdict after a failure frame that the observer reads on its own. -/
theorem settled_errorFrame (hReads : ReadsBack parse protocol) {w : Verdict}
    {e : StreamTermination} (he : e ≠ .completed) (hClean : w.tracker.Clean)
    (hOpen : w.tracker.terminal ≠ some .bufferLimitExceeded)
    (hFits : w.tracker.frameBytes + (gatewayErrorEvent protocol e).length ≤ maxSseFrameBytes) :
    (w.feed parse (gatewayErrorFrame protocol e)).settled parse = e := by
  obtain ⟨hError, hTerminal⟩ :=
    feed_errorFrame parse hClean hOpen he hFits (hReads.payload e) hReads.done
  exact Verdict.settled_of_some parse (Verdict.feed_failure parse he hError hTerminal)

/-- The verdict after a failure frame and the separator before it, whatever frame
was open. -/
theorem settled_separated (hReads : ReadsBack parse protocol) (w : Verdict)
    {e : StreamTermination} (he : e ≠ .completed)
    (hLimit : e ≠ .bufferLimitExceeded →
      (w.tracker.feed parse [lf, lf]).1.terminal ≠ some .bufferLimitExceeded) :
    ((w.feed parse [lf, lf]).feed parse (gatewayErrorFrame protocol e)).settled parse = e := by
  by_cases hStop : (w.tracker.feed parse [lf, lf]).1.terminal = some .bufferLimitExceeded
  · -- a limit hit by the observer is what the frame reports
    have hSame : e = .bufferLimitExceeded := by
      by_contra hOther
      exact hLimit hOther hStop
    have hFeed := feed_of_limit parse (t := (w.feed parse [lf, lf]).tracker) hStop
      (gatewayErrorFrame protocol e)
    refine Verdict.settled_of_some parse (Verdict.feed_failure parse he ?_ ?_)
    · rw [hFeed]
    · rw [hFeed, hSame]
  · obtain hBad | ⟨hClean, hCount⟩ := feed_separator parse w.tracker
    · exact absurd hBad hStop
    · refine settled_errorFrame parse hReads he hClean hStop ?_
      have hZero : (w.feed parse [lf, lf]).tracker.frameBytes = 0 := hCount
      rw [hZero, Nat.zero_add]
      exact gatewayErrorEvent_length_le protocol e

namespace InStep

variable {v : View}

/-- A provider chunk that keeps within the limits, fed to both trackers. -/
theorem feed (h : InStep parse v) (bytes : Bytes)
    (hLimit : (v.tracker.feed parse bytes).1.terminal ≠ some .bufferLimitExceeded) :
    Verdict.ofChunks parse (v.emitted ++ [⟨.provider, bytes⟩]) =
        ⟨(v.tracker.feed parse bytes).1.withCount
          (openBytes (bytesOf (v.emitted ++ [⟨.provider, bytes⟩]))),
          ObservationGuard.noteTermination none (v.tracker.feed parse bytes).2⟩ ∧
      ((bytesOf (v.emitted ++ [⟨.provider, bytes⟩])).foldl openStep (true, 0)).1 =
        (v.tracker.feed parse bytes).1.line.isEmpty ∧
      openBytes (bytesOf (v.emitted ++ [⟨.provider, bytes⟩])) ≤
        (v.tracker.feed parse bytes).1.frameBytes := by
  obtain ⟨hFeed, hLine, hCount⟩ := feed_withCount parse h.count bytes hLimit
  have hFold : (bytesOf (v.emitted ++ [⟨.provider, bytes⟩])).foldl openStep (true, 0) =
      bytes.foldl openStep (v.tracker.line.isEmpty, openBytes (bytesOf v.emitted)) := by
    rw [bytesOf_snoc, List.foldl_append, ← h.line]
    rfl
  have hOpen : openBytes (bytesOf (v.emitted ++ [⟨.provider, bytes⟩])) =
      (bytes.foldl openStep (v.tracker.line.isEmpty, openBytes (bytesOf v.emitted))).2 := by
    rw [openBytes, hFold]
  rw [ofChunks_snoc, h.verdict, hOpen, hFold]
  refine ⟨?_, hLine, hCount⟩
  simp only [Verdict.feed, hFeed]

theorem heartbeat (h : InStep parse v) (hSafe : v.tracker.safeForHeartbeat = true)
    (hFits : openBytes (bytesOf v.emitted) + heartbeatFrame.length ≤ maxSseFrameBytes)
    (u : List UpstreamItem) (finished : Bool) :
    InStep parse ⟨v.emitted ++ [.heartbeat], v.tracker, u, finished⟩ := by
  have hClean := (safeForHeartbeat_iff v.tracker).mp hSafe
  have hClean' : (v.tracker.withCount (openBytes (bytesOf v.emitted))).Clean :=
    ⟨hClean.line, hClean.dataLines, hClean.eventName, hClean.comment⟩
  have hFold : (bytesOf (v.emitted ++ [.heartbeat])).foldl openStep (true, 0) = (true, 0) := by
    have hFrame : heartbeatFrame.foldl openStep
        (v.tracker.line.isEmpty, openBytes (bytesOf v.emitted)) = (true, 0) := by
      have hBytes : heartbeatFrame = utf8 ": gateway-heartbeat" ++ [lf] ++ [lf] := by decide
      rw [hBytes, List.foldl_append, List.foldl_append]
      simp [openStep]
    rw [bytesOf_snoc, List.foldl_append, ← hFrame, ← h.line]
    rfl
  have hZero : openBytes (bytesOf (v.emitted ++ [.heartbeat])) = 0 := by rw [openBytes, hFold]
  refine ⟨h.openStream, ?_, ?_, ?_⟩
  · rw [ofChunks_snoc, h.verdict, hZero]
    have hFeed := feed_heartbeat parse hClean' (by simp [h.openStream]) hFits
    simp only [Verdict.feed, Chunk.heartbeat, hFeed]
    rfl
  · simp only [hFold, hClean.line]
    rfl
  · simp only [hZero]
    exact Nat.zero_le _

/-- The two trackers end alike on a body whose end makes the wrapper write
nothing. -/
theorem settled_closed (h : InStep parse v)
    (hFailure : eofFailure protocol (v.tracker.finishEof parse).1 = none)
    (hDone : eofDone protocol (v.tracker.finishEof parse).1 = false) :
    (Verdict.ofChunks parse v.emitted).settled parse =
      (v.tracker.finishEof parse).1.terminal.getD .completed := by
  obtain ⟨m, hFinish⟩ :=
    finishEof_withCount parse v.tracker (openBytes (bytesOf v.emitted))
  have hAgrees := Agrees.finishEof parse h.openStream
  have hSeen := finishEof_completedSeen parse (t := v.tracker) fun hCompleted => by
    rw [h.openStream] at hCompleted
    cases hCompleted
  rw [h.verdict, Verdict.settled]
  simp only [hFinish, Option.getD_none, ObservationGuard.eofTermination, withCount_terminal]
  generalize (v.tracker.finishEof parse).1 = t at hFailure hDone hAgrees hSeen ⊢
  generalize (v.tracker.finishEof parse).2 = a at hAgrees ⊢
  have hFields : (t.withCount m).sawProviderEvent = t.sawProviderEvent ∧
      (t.withCount m).sawSseFrame = t.sawSseFrame := ⟨rfl, rfl⟩
  rw [hFields.1, hFields.2, hAgrees.error, hAgrees.terminal]
  cases hTerminal : t.terminal with
  | some e =>
    by_cases he : e = .completed
    · have hEvent := hSeen (by rw [hTerminal, he])
      simp [failing, StreamTermination.isFailure, he, hEvent]
    · simp [failing, StreamTermination.isFailure, he]
  | none =>
    obtain ⟨hEvent, hRaw⟩ := raw_of_closed hTerminal hFailure hDone
    simp [failing, hEvent, hRaw]

/-- A failure that interrupts the wrapper reaches the observer. -/
theorem settled_failure (h : InStep parse v) (hReads : ReadsBack parse protocol)
    {e : StreamTermination} (he : e ≠ .completed) (hLimit : e ≠ .bufferLimitExceeded)
    (hSafe : v.tracker.safeForHeartbeat = true →
      openBytes (bytesOf v.emitted) + (gatewayErrorEvent protocol e).length ≤ maxSseFrameBytes)
    (hUnsafe : v.tracker.safeForHeartbeat = false →
      ((v.tracker.withCount (openBytes (bytesOf v.emitted))).feed parse [lf, lf]).1.terminal ≠
        some .bufferLimitExceeded) :
    (Verdict.ofChunks parse (v.emitted ++ failureChunks protocol v.tracker e)).settled parse = e := by
  unfold failureChunks
  cases hCase : v.tracker.safeForHeartbeat with
  | true =>
    have hClean := (safeForHeartbeat_iff v.tracker).mp hCase
    simp only [Bool.not_true, Bool.false_or, hLimit, decide_false, Bool.false_eq_true, if_false]
    rw [ofChunks_snoc, h.verdict]
    refine settled_errorFrame parse hReads he
      ⟨hClean.line, hClean.dataLines, hClean.eventName, hClean.comment⟩ ?_ (hSafe hCase)
    simp [h.openStream]
  | false =>
    simp only [Bool.not_false, Bool.true_or, if_true]
    have hSeparator : Chunk.separator.bytes = [lf, lf] := by decide
    rw [Verdict.ofChunks_append, h.verdict]
    simp only [List.map_cons, List.map_nil, List.foldl_cons, List.foldl_nil, hSeparator]
    exact settled_separated parse hReads _ he fun _ => hUnsafe hCase

end InStep

theorem outcome_failureChunks {chunks : List Chunk} (hBefore : chunks.findSome? Chunk.failure = none)
    (t t' : SseEventTracker) (e : StreamTermination) (u : List UpstreamItem) (finished : Bool) :
    View.outcome ⟨chunks ++ failureChunks protocol t e, t', u, finished⟩ = e := by
  unfold failureChunks
  split
  · simp [View.outcome, List.findSome?_append, List.findSome?_cons, hBefore, Chunk.failure,
      Chunk.errorFrame, Chunk.separator]
  · simp [View.outcome, List.findSome?_append, hBefore, Chunk.failure, Chunk.errorFrame]

theorem isTimeout_ne {e : StreamTermination} (h : e.isTimeout = true) :
    e ≠ .completed ∧ e ≠ .bufferLimitExceeded := by
  constructor <;> rintro rfl <;> cases h

theorem noteTermination_eq {t : SseEventTracker} {a : SseActivity} (h : Agrees t a) :
    ObservationGuard.noteTermination none a = t.terminal := by
  unfold ObservationGuard.noteTermination
  rw [h.error, h.terminal]
  cases hTerminal : t.terminal with
  | none => rfl
  | some e =>
    by_cases he : e = .completed <;>
      simp [failing, StreamTermination.isFailure, he, Option.filter]

/-! ### The effects of a pass -/

namespace InStep

variable {v : View}

/-- A chunk that settles nothing. -/
theorem quiet (h : InStep parse v) (bytes : Bytes)
    (hQuiet : ¬(v.tracker.feed parse bytes).2.reports) (u : List UpstreamItem) (finished : Bool) :
    InStep parse
      ⟨v.emitted ++ [⟨.provider, bytes⟩], (v.tracker.feed parse bytes).1, u, finished⟩ := by
  have hAgrees := Agrees.feed parse h.openStream bytes
  have hOpen := hAgrees.not_reports hQuiet
  obtain ⟨hVerdict, hLine, hCount⟩ := h.feed parse bytes (by rw [hOpen]; simp)
  refine ⟨hOpen, ?_, hLine, hCount⟩
  rw [hVerdict, noteTermination_eq hAgrees, hOpen]

/-- A chunk that reports an error or a terminal. -/
theorem settled_reported (h : InStep parse v)
    (hBefore : v.emitted.findSome? Chunk.failure = none) (bytes : Bytes)
    (hReports : (v.tracker.feed parse bytes).2.reports)
    (hTerminal : (v.tracker.feed parse bytes).2.terminal ≠ some .bufferLimitExceeded)
    (u : List UpstreamItem) :
    (Verdict.ofChunks parse (v.emitted ++ [⟨.provider, bytes⟩])).settled parse =
      View.outcome
        ⟨v.emitted ++ [⟨.provider, bytes⟩], (v.tracker.feed parse bytes).1, u, true⟩ := by
  have hAgrees := Agrees.feed parse h.openStream bytes
  rw [hAgrees.terminal] at hTerminal
  obtain ⟨hVerdict, -, -⟩ := h.feed parse bytes hTerminal
  have hSome : (v.tracker.feed parse bytes).1.terminal.isSome = true := by
    rw [← hAgrees.terminal]
    rcases hReports with hError | hSome
    · rw [hAgrees.error] at hError
      exact Option.isSome_of_any hError
    · exact hSome
  obtain ⟨e, he⟩ := Option.isSome_iff_exists.mp hSome
  rw [hVerdict, noteTermination_eq hAgrees, he]
  simp [Verdict.settled, View.outcome, List.findSome?_append, hBefore, Chunk.failure, he]

/-- A chunk at which the wrapper's tracker gives up. -/
theorem settled_limit (hReads : ReadsBack parse protocol)
    (hBefore : v.emitted.findSome? Chunk.failure = none) (bytes : Bytes) (t : SseEventTracker)
    (u : List UpstreamItem) :
    (Verdict.ofChunks parse (v.emitted ++ [⟨.provider, bytes⟩, .separator,
        .errorFrame protocol .bufferLimitExceeded])).settled parse =
      View.outcome ⟨v.emitted ++ [⟨.provider, bytes⟩, .separator,
        .errorFrame protocol .bufferLimitExceeded], t, u, true⟩ := by
  have hSeparator : Chunk.separator.bytes = [lf, lf] := by decide
  have hOutcome : View.outcome ⟨v.emitted ++ [⟨.provider, bytes⟩, .separator,
      .errorFrame protocol .bufferLimitExceeded], t, u, true⟩ = .bufferLimitExceeded := by
    simp [View.outcome, List.findSome?_append, List.findSome?_cons, hBefore, Chunk.failure,
      Chunk.errorFrame, Chunk.separator]
  rw [hOutcome, Verdict.ofChunks_append]
  simp only [List.map_cons, List.map_nil, List.foldl_cons, List.foldl_nil, hSeparator]
  exact settled_separated parse hReads _ (by simp) fun hNe => absurd rfl hNe

/-- The end of a chat body to which the wrapper adds `[DONE]`. -/
theorem settled_done (h : InStep parse v) (hReads : ReadsBack parse protocol)
    (hBefore : v.emitted.findSome? Chunk.failure = none)
    (hDone : eofDone protocol (v.tracker.finishEof parse).1 = true)
    (hSafe : v.tracker.safeForHeartbeat = true)
    (hFits : openBytes (bytesOf v.emitted) + chatDoneFrame.length ≤ maxSseFrameBytes) :
    (Verdict.ofChunks parse (v.emitted ++ [.done])).settled parse =
      View.outcome ⟨v.emitted ++ [.done],
        (v.tracker.finishEof parse).1.markCompletedAfterEof, [], true⟩ := by
  have hClean := (safeForHeartbeat_iff v.tracker).mp hSafe
  have hTerminal : (v.tracker.finishEof parse).1.terminal = none := by
    simp only [Stream.eofDone, Bool.and_eq_true, Option.isNone_iff_eq_none] at hDone
    exact hDone.1.1.1
  have hFeed := feed_done parse (t := v.tracker.withCount (openBytes (bytesOf v.emitted)))
    ⟨hClean.line, hClean.dataLines, hClean.eventName, hClean.comment⟩
    (by simp [h.openStream]) hFits hReads.done
  have hOutcome : View.outcome ⟨v.emitted ++ [.done],
      (v.tracker.finishEof parse).1.markCompletedAfterEof, [], true⟩ = .completed := by
    simp [View.outcome, List.findSome?_append, hBefore, Chunk.failure, Chunk.done,
      markCompletedAfterEof, hTerminal, mergeTerminal]
  rw [hOutcome, ofChunks_snoc, h.verdict]
  refine Verdict.settled_of_some parse ?_
  simp only [Verdict.feed, Chunk.done, hFeed]
  rfl

/-- The end of a body that the wrapper calls failed. -/
theorem settled_unfinished (h : InStep parse v) (hReads : ReadsBack parse protocol)
    {e : StreamTermination} (hFailure : eofFailure protocol (v.tracker.finishEof parse).1 = some e)
    (hSafe : v.tracker.safeForHeartbeat = true)
    (hFits : openBytes (bytesOf v.emitted) + (gatewayErrorEvent protocol e).length ≤
      maxSseFrameBytes) :
    (Verdict.ofChunks parse
      (v.emitted ++ failureChunks protocol (v.tracker.finishEof parse).1 e)).settled parse = e := by
  have hClean := (safeForHeartbeat_iff v.tracker).mp hSafe
  have hSafe' := (safeForHeartbeat_iff _).mpr (finishEof_clean parse v.tracker)
  have he : e ≠ .completed ∧ e ≠ .bufferLimitExceeded := by
    rcases eofFailure_failure hFailure with rfl | rfl <;> simp
  have hChunks : failureChunks protocol (v.tracker.finishEof parse).1 e =
      [.errorFrame protocol e] := by
    simp [failureChunks, hSafe', he.2]
  rw [hChunks, ofChunks_snoc, h.verdict]
  refine settled_errorFrame parse hReads he.1
    ⟨hClean.line, hClean.dataLines, hClean.eventName, hClean.comment⟩ ?_ hFits
  simp [h.openStream]

end InStep

theorem pass_synced {s : Session} (hReads : ReadsBack parse s.state.protocol)
    (h : Synced parse s.view) (hKeeps : KeepsUp parse s) : Synced parse (s.pass parse).view := by
  have hLast := pass_eventsLast parse h.eventsLast
  cases Session.pass_view parse s with
  | still _ hView => exact hView ▸ h
  | effect cause hCause chunks hRunning hEmitted hEffect =>
    have hStep := h.running hRunning
    have hBefore := noFailure_of_running h.eventsLast hRunning
    generalize (s.pass parse).view = v' at hEmitted hEffect hLast ⊢
    obtain ⟨emitted', t', u', finished'⟩ := v'
    simp only at hEmitted hEffect
    subst hEmitted
    cases hEffect with
    | wait | withheld | skip =>
      simp only [List.append_nil] at hLast ⊢
      exact ⟨hLast, fun _ => ⟨hStep.openStream, hStep.verdict, hStep.line, hStep.count⟩, by simp⟩
    | quiet bytes rest hUpstream hBytes hQuiet =>
      exact ⟨hLast, fun _ => hStep.quiet parse bytes hQuiet _ _, by simp⟩
    | heartbeat hSafe =>
      exact ⟨hLast, fun _ => hStep.heartbeat parse hSafe (hKeeps.heartbeat hCause hSafe) _ _, by simp⟩
    | reported bytes rest hUpstream hBytes hReports hTerminal =>
      refine ⟨hLast, by simp, fun _ => ?_⟩
      exact hStep.settled_reported parse hBefore bytes hReports hTerminal u'
    | limit bytes rest hUpstream hBytes hTerminal =>
      refine ⟨hLast, by simp, fun _ => ?_⟩
      exact InStep.settled_limit parse hReads hBefore bytes _ u'
    | transport =>
      refine ⟨hLast, by simp, fun _ => ?_⟩
      rw [outcome_failureChunks hBefore]
      obtain ⟨hSafe, hUnsafe⟩ := hKeeps.transport hCause
      exact hStep.settled_failure parse hReads (by simp) (by simp) hSafe hUnsafe
    | timeout e hTimeout =>
      refine ⟨hLast, by simp, fun _ => ?_⟩
      rw [outcome_failureChunks hBefore]
      obtain ⟨hSafe, hUnsafe⟩ := hKeeps.timer e hCause
      obtain ⟨he, hLimit⟩ := isTimeout_ne hTimeout
      exact hStep.settled_failure parse hReads he hLimit hSafe hUnsafe
    | eofClosed hUpstream hFailure hDone =>
      refine ⟨hLast, by simp, fun _ => ?_⟩
      simp only [List.append_nil, View.outcome, hBefore, Option.getD_none]
      exact hStep.settled_closed parse hFailure hDone
    | eofDone hUpstream hDone =>
      obtain ⟨hSafe, hFits⟩ := hKeeps.done hCause hDone
      refine ⟨hLast, by simp, fun _ => ?_⟩
      exact hStep.settled_done parse hReads hBefore hDone hSafe hFits
    | eofFailed e hUpstream hFailure =>
      obtain ⟨hSafe, hFits⟩ := hKeeps.failed hCause e hFailure
      refine ⟨hLast, by simp, fun _ => ?_⟩
      rw [outcome_failureChunks hBefore]
      exact hStep.settled_unfinished parse hReads hFailure hSafe hFits

end

namespace Session

variable (parse : String → Option Value) (countTokens : String → Nat)
  (upstream : List UpstreamItem) (protocol : Protocol) (config : StreamConfig)
  (requestStarted connectedAt instantMax : Instant) (ticks : List Tick) (n : Nat)

theorem run_synced (hReads : ReadsBack parse protocol)
    (hKeeps : ∀ k < n, KeepsUp parse
      ((wrapNativeBody upstream protocol config requestStarted connectedAt instantMax
        ticks).run parse k)) :
    Synced parse ((wrapNativeBody upstream protocol config requestStarted connectedAt instantMax
      ticks).run parse n).view := by
  have hRun := run_induction parse
    (P := fun s => s.state.protocol = protocol ∧ Synced parse s.view)
    (s := wrapNativeBody upstream protocol config requestStarted connectedAt instantMax ticks)
    ⟨rfl, ⟨?_, ?_⟩, fun _ => ⟨rfl, rfl, rfl, Nat.le_refl 0⟩, ?_⟩
    (fun s h hC => ⟨(pass_protocol parse s).trans h.1, pass_synced parse (h.1 ▸ hReads) h.2 hC⟩)
    n hKeeps
  · exact hRun.2
  · simp [wrapNativeBody, view, emitted, NativeState.new]
  · intro pre c post hSplit
    simp [wrapNativeBody, view, emitted, NativeState.new] at hSplit
  · simp [wrapNativeBody, view, NativeState.new]

/-- In a run whose passes all meet `KeepsUp`, once the client has read the body to
its end the observer reports the wrapper's own outcome. -/
theorem observer_reports_outcome (hReads : ReadsBack parse protocol)
    (hKeeps : ∀ k < n, KeepsUp parse
      ((wrapNativeBody upstream protocol config requestStarted connectedAt instantMax
        ticks).run parse k))
    (hEnded : ((wrapNativeBody upstream protocol config requestStarted connectedAt instantMax
      ticks).run parse n).ended = true)
    (polls : List (Bytes × Int))
    (hPolls : polls.map Prod.fst =
      ((wrapNativeBody upstream protocol config requestStarted connectedAt instantMax
        ticks).run parse n).sent.map Chunk.bytes) :
    ((({} : ObservationGuard).run parse countTokens
        ((polls.map fun p => .chunk p.1 p.2) ++ [.eof])).reported.map
          StreamObservation.termination) =
      some ((wrapNativeBody upstream protocol config requestStarted connectedAt instantMax
        ticks).run parse n).outcome := by
  obtain ⟨hPending, hFinished⟩ :=
    run_closed parse upstream protocol config requestStarted connectedAt instantMax ticks n hEnded
  have hSynced := run_synced parse upstream protocol config requestStarted connectedAt instantMax
    ticks n hReads hKeeps
  have hSettled := hSynced.finished hFinished
  rw [ObservationGuard.run_eof, hPolls]
  have hEmitted : ((wrapNativeBody upstream protocol config requestStarted connectedAt instantMax
      ticks).run parse n).view.emitted = ((wrapNativeBody upstream protocol config requestStarted
        connectedAt instantMax ticks).run parse n).sent := by
    simp [view, emitted, hPending]
  rw [hEmitted] at hSettled
  exact congrArg some hSettled

/-- A reader of the gateway's own chat payloads, by the code they carry. -/
def readOwnPayload (text : String) : Option Value :=
  let code := String.ofList ((text.toList.drop 18).takeWhile (· != '"'))
  ([.completed, .emptyStream, .upstreamError, .transportError, .incompleteStream,
    .bufferLimitExceeded, .clientCancelled, .connectionTimeout, .firstEventTimeout, .idleTimeout,
    .totalTimeout].find? fun e => StreamTermination.code e == code).map
      (gatewayErrorPayload .openAiChatCompletions)

theorem gatewayErrorBody_code (e : StreamTermination) :
    ((gatewayErrorBody .openAiChatCompletions e).toList.drop 18).takeWhile (· != '"') =
      e.code.toList := by
  have hPlain : e.code.toList.all (· != '"') = true := by cases e <;> decide
  have hOpen : "\x7b".toList = ['\x7b'] := by decide
  have hColon : ":".toList = [':'] := by decide
  have hQuote : "\"".toList = ['"'] := by decide
  have hError : (renderString "error").toList = ['"', 'e', 'r', 'r', 'o', 'r', '"'] := by
    decide
  have hCode : (renderString "code").toList = ['"', 'c', 'o', 'd', 'e', '"'] := by decide
  rw [gatewayErrorBody, gatewayErrorPayload_eq]
  simp only [render, renderFields, errorObject, renderString_of_escape (escape_code e),
    String.toList_append, hOpen, hColon, hQuote, hError, hCode, List.cons_append, List.nil_append,
    List.append_assoc, List.drop_succ_cons, List.drop_zero]
  rw [List.takeWhile_append_of_pos (by simpa using hPlain)]
  simp

theorem readsBack_readOwnPayload : ReadsBack readOwnPayload .openAiChatCompletions := by
  refine ⟨fun e => ?_, by decide⟩
  rw [readOwnPayload, gatewayErrorBody_code, String.ofList_toList]
  cases e <;> rfl

/-- A provider frame that ended, then the end of the body: both report the stream
as incomplete. -/
theorem observer_reports_incomplete_stream :
    ((({} : ObservationGuard).run readOwnPayload (fun _ => 0)
        (([(utf8 "data: x\n\n", 1),
          (gatewayErrorFrame .openAiChatCompletions .incompleteStream, 2)].map
            fun p => .chunk p.1 p.2) ++ [.eof])).reported.map StreamObservation.termination) =
      some .incompleteStream := by
  have hOutcome : ((wrapNativeBody [.chunk (utf8 "data: x\n\n")] .openAiChatCompletions {} 0 0
      1000000 [⟨0, .upstream, 0⟩, ⟨0, .upstream, 0⟩]).run readOwnPayload 5).outcome =
        .incompleteStream := by decide
  have hRun := observer_reports_outcome readOwnPayload (fun _ => 0) [.chunk (utf8 "data: x\n\n")]
    .openAiChatCompletions {} 0 0 1000000 [⟨0, .upstream, 0⟩, ⟨0, .upstream, 0⟩] 5
    readsBack_readOwnPayload ?_ (by decide)
    [(utf8 "data: x\n\n", 1), (gatewayErrorFrame .openAiChatCompletions .incompleteStream, 2)]
    (by decide +kernel)
  · rw [hRun, hOutcome]
  · intro k hk
    have hCauses : ∀ k < 5, ((wrapNativeBody [.chunk (utf8 "data: x\n\n")] .openAiChatCompletions {} 0
        0 1000000 [⟨0, .upstream, 0⟩, ⟨0, .upstream, 0⟩]).run readOwnPayload k).cause =
          if k = 0 then some (.read (some (.chunk (utf8 "data: x\n\n"))))
          else if k = 2 then some (.read none) else none := by decide
    have hCause := hCauses k hk
    refine ⟨fun h => ?_, fun h => ?_, fun e h => ?_, fun h e he => ?_, fun h hd => ?_⟩
    all_goals
      rw [hCause] at h
      split_ifs at h with hFirst hSecond <;> cases h
    all_goals subst hSecond
    · have hFailure : eofFailure .openAiChatCompletions
          ((((wrapNativeBody [.chunk (utf8 "data: x\n\n")] .openAiChatCompletions {} 0 0 1000000
            [⟨0, .upstream, 0⟩, ⟨0, .upstream, 0⟩]).run readOwnPayload 2).state.tracker.finishEof
              readOwnPayload).1) = some .incompleteStream := by decide
      cases he.symm.trans hFailure
      decide +kernel
    · exact absurd hd (by decide)

/-- A comment cut off by the end of the body swallows the error event: the wrapper
reports an empty stream, the observer a completed one. -/
theorem observer_misses_swallowed_failure :
    ((wrapNativeBody [.chunk (utf8 ":x")] .openAiChatCompletions {} 0 0 1000000
        [⟨0, .upstream, 0⟩, ⟨0, .upstream, 0⟩]).run (fun _ => none) 5).ended = true ∧
      ((wrapNativeBody [.chunk (utf8 ":x")] .openAiChatCompletions {} 0 0 1000000
        [⟨0, .upstream, 0⟩, ⟨0, .upstream, 0⟩]).run (fun _ => none) 5).sent.map Chunk.bytes =
          [utf8 ":x", gatewayErrorFrame .openAiChatCompletions .emptyStream] ∧
      ((wrapNativeBody [.chunk (utf8 ":x")] .openAiChatCompletions {} 0 0 1000000
        [⟨0, .upstream, 0⟩, ⟨0, .upstream, 0⟩]).run (fun _ => none) 5).outcome = .emptyStream ∧
      ((({} : ObservationGuard).run (fun _ => none) (fun _ => 0)
        (([(utf8 ":x", 1), (gatewayErrorFrame .openAiChatCompletions .emptyStream, 2)].map
          fun p => .chunk p.1 p.2) ++ [.eof])).reported.map StreamObservation.termination) =
        some .completed := by
  rw [ObservationGuard.run_eof]
  refine ⟨by decide, by decide, by decide, congrArg some ?_⟩
  decide +kernel

end Session

end AiGateway.Stream
