import AiGateway.Proxy.Native

/-!
# What a pass of the wrapper's loop can do

`Effect` lists the effects of one pass on the chunks written, the tracker and
the unread body.  `View` keeps these parts of a session only; a session's runs
are runs of its view, so that a property of whole runs is checked against the
cases of `Effect`.
-/

namespace AiGateway.Stream

set_option autoImplicit false

open AiGateway.Json AiGateway.Text

/-- The terminations a timer of the wrapper reports. -/
def StreamTermination.isTimeout (t : StreamTermination) : Bool :=
  t == .totalTimeout || t == .firstEventTimeout || t == .idleTimeout

/-- Whether a feed makes the wrapper stop. -/
def SseActivity.reports (a : SseActivity) : Prop := a.error = true ∨ a.terminal.isSome = true

instance (a : SseActivity) : Decidable a.reports := inferInstanceAs (Decidable (_ ∨ _))

/-- The chunks `queueFailure` appends. -/
def failureChunks (protocol : Protocol) (t : SseEventTracker) (termination : StreamTermination) :
    List Chunk :=
  if !t.safeForHeartbeat || termination = .bufferLimitExceeded then
    [.separator, .errorFrame protocol termination]
  else [.errorFrame protocol termination]

/-- How the wrapper closes a body that ended: the failure it reports, if any. -/
def eofFailure (protocol : Protocol) (t : SseEventTracker) : Option StreamTermination :=
  if t.terminal.isSome then none
  else if !t.sawProviderEvent then some .emptyStream
  else if !t.sawSseFrame then none
  else if protocol = .openAiChatCompletions ∧ t.sawChatFinish ∧ t.unfinishedChatChoices = ∅ then
    none
  else some .incompleteStream

/-- Whether the wrapper adds the `[DONE]` frame to a body that ended. -/
def eofDone (protocol : Protocol) (t : SseEventTracker) : Bool :=
  t.terminal.isNone && t.sawProviderEvent && t.sawSseFrame &&
    (protocol = .openAiChatCompletions ∧ t.sawChatFinish ∧ t.unfinishedChatChoices = ∅ : Bool)

theorem eofFailure_failure {protocol : Protocol} {t : SseEventTracker} {e : StreamTermination}
    (h : eofFailure protocol t = some e) : e = .emptyStream ∨ e = .incompleteStream := by
  unfold eofFailure at h
  split_ifs at h
  · exact .inl (Option.some.inj h).symm
  · exact .inr (Option.some.inj h).symm

/-- What a pass of the loop reacts to. -/
inductive Cause where
  | nothing
  | read (item : Option UpstreamItem)
  | timer (termination : StreamTermination)
  | heartbeat
  deriving DecidableEq, Repr

def NativeState.cause (st : NativeState) (tick : Tick) : Cause :=
  if reached st.totalDeadline tick.now then .timer .totalTimeout
  else if reached st.firstDeadline tick.now then .timer .firstEventTimeout
  else if reached st.idleDeadline tick.now then .timer .idleTimeout
  else
    match tick.branch with
    | .upstream => .read st.upstream.head?
    | .totalSleep =>
      if reached st.totalDeadline tick.woken then .timer .totalTimeout else .nothing
    | .firstSleep =>
      if reached st.firstDeadline tick.woken then .timer .firstEventTimeout else .nothing
    | .idleSleep => if reached st.idleDeadline tick.woken then .timer .idleTimeout else .nothing
    | .heartbeatSleep => if reached st.nextHeartbeat tick.woken then .heartbeat else .nothing

section

variable (parse : String → Option Value) (protocol : Protocol)

/-- One pass that reads the clock, by what it reacts to: the chunks written, the
tracker and the unread body after it, and whether the wrapper finishes. -/
inductive Effect (t : SseEventTracker) (u : List UpstreamItem) :
    Cause → List Chunk → SseEventTracker → List UpstreamItem → Bool → Prop
  | wait : Effect t u .nothing [] t u false
  | skip (rest : List UpstreamItem) (hUpstream : u = .chunk [] :: rest) :
      Effect t u (.read (some (.chunk []))) [] t rest false
  | quiet (bytes : Bytes) (rest : List UpstreamItem) (hUpstream : u = .chunk bytes :: rest)
      (hBytes : bytes ≠ []) (hQuiet : ¬(t.feed parse bytes).2.reports) :
      Effect t u (.read (some (.chunk bytes))) [⟨.provider, bytes⟩] (t.feed parse bytes).1 rest false
  | reported (bytes : Bytes) (rest : List UpstreamItem) (hUpstream : u = .chunk bytes :: rest)
      (hBytes : bytes ≠ []) (hReports : (t.feed parse bytes).2.reports)
      (hTerminal : (t.feed parse bytes).2.terminal ≠ some .bufferLimitExceeded) :
      Effect t u (.read (some (.chunk bytes))) [⟨.provider, bytes⟩] (t.feed parse bytes).1 rest true
  | limit (bytes : Bytes) (rest : List UpstreamItem) (hUpstream : u = .chunk bytes :: rest)
      (hBytes : bytes ≠ [])
      (hTerminal : (t.feed parse bytes).2.terminal = some .bufferLimitExceeded) :
      Effect t u (.read (some (.chunk bytes)))
        [⟨.provider, bytes⟩, .separator, .errorFrame protocol .bufferLimitExceeded]
        (t.feed parse bytes).1 rest true
  | transport (rest : List UpstreamItem) (hUpstream : u = .error :: rest) :
      Effect t u (.read (some .error)) (failureChunks protocol t .transportError) t rest true
  | timeout (termination : StreamTermination) (hTimeout : termination.isTimeout = true) :
      Effect t u (.timer termination) (failureChunks protocol t termination) t u true
  | eofClosed (hUpstream : u = [])
      (hFailure : eofFailure protocol (t.finishEof parse).1 = none)
      (hDone : eofDone protocol (t.finishEof parse).1 = false) :
      Effect t u (.read none) [] (t.finishEof parse).1 [] true
  | eofDone (hUpstream : u = []) (hDone : eofDone protocol (t.finishEof parse).1 = true) :
      Effect t u (.read none) [.done] (t.finishEof parse).1.markCompletedAfterEof [] true
  | eofFailed (termination : StreamTermination) (hUpstream : u = [])
      (hFailure : eofFailure protocol (t.finishEof parse).1 = some termination) :
      Effect t u (.read none) (failureChunks protocol (t.finishEof parse).1 termination)
        (t.finishEof parse).1 [] true
  | heartbeat (hSafe : t.safeForHeartbeat = true) :
      Effect t u .heartbeat [.heartbeat] t u false
  | withheld (hUnsafe : t.safeForHeartbeat = false) : Effect t u .heartbeat [] t u false

end

namespace NativeState

theorem queueFailure_eq (st : NativeState) (t : StreamTermination) :
    st.queueFailure t =
      { st with
        pending := st.pending ++ failureChunks st.protocol st.tracker t
        finishAfterPending := true } := by
  unfold queueFailure failureChunks
  cases h : (!st.tracker.safeForHeartbeat || decide (t = .bufferLimitExceeded)) <;>
    simp [push, finish]

variable (parse : String → Option Value)

/-- The parts of the state that `Effect` speaks about after a pass. -/
structure After (st : NativeState) (cause : Cause) (st' : NativeState) : Prop where
  effect : Effect parse st.protocol st.tracker st.upstream cause st'.pending st'.tracker
    st'.upstream st'.finishAfterPending
  protocol : st'.protocol = st.protocol
  done : st'.done = st.done

theorem after_queueFailure {st : NativeState} (hPending : st.pending = [])
    (cause : Cause) (rest : List UpstreamItem) (t : StreamTermination)
    (hEffect : Effect parse st.protocol st.tracker st.upstream cause
      (failureChunks st.protocol st.tracker t) st.tracker rest true) :
    After parse st cause ({ st with upstream := rest }.queueFailure t) := by
  rw [queueFailure_eq]
  refine ⟨?_, rfl, rfl⟩
  simpa only [hPending, List.nil_append] using hEffect

theorem noteActivity_eq (st : NativeState) (a : SseActivity) (woken : Instant) :
    ∃ beat event, st.noteActivity a woken =
      { st with nextHeartbeat := beat, lastEvent := event } := by
  unfold noteActivity
  split
  · exact ⟨_, _, rfl⟩
  · exact ⟨st.nextHeartbeat, st.lastEvent, rfl⟩

theorem after_onChunk {st : NativeState} (hPending : st.pending = [])
    (hRunning : st.finishAfterPending = false) (bytes : Bytes) (rest : List UpstreamItem)
    (woken : Instant) (hUpstream : st.upstream = .chunk bytes :: rest) (hBytes : bytes ≠ []) :
    After parse st (.read (some (.chunk bytes)))
      ({ st with upstream := rest }.onChunk parse bytes woken) := by
  unfold onChunk
  obtain ⟨beat, event, hNote⟩ := noteActivity_eq
    { st with upstream := rest, tracker := (st.tracker.feed parse bytes).1 }
    (st.tracker.feed parse bytes).2 woken
  simp only [hNote, push]
  split
  · rename_i hTerminal
    rw [queueFailure_eq]
    refine ⟨?_, rfl, rfl⟩
    simp only [hPending, failureChunks, decide_true, Bool.or_true, if_true]
    exact .limit bytes rest hUpstream hBytes hTerminal
  · rename_i hTerminal
    split
    · rename_i hReports
      refine ⟨?_, rfl, rfl⟩
      simp only [finish, hPending]
      exact .reported bytes rest hUpstream hBytes hReports hTerminal
    · rename_i hQuiet
      refine ⟨?_, rfl, rfl⟩
      simp only [hPending, hRunning]
      exact .quiet bytes rest hUpstream hBytes hQuiet

theorem after_onEof {st : NativeState} (hPending : st.pending = []) (hUpstream : st.upstream = []) :
    After parse st (.read none) (st.onEof parse) := by
  unfold onEof
  simp only
  split
  · rename_i termination hTerminal
    refine ⟨?_, rfl, rfl⟩
    simp only [finish, hPending]
    rw [hUpstream]
    exact .eofClosed rfl (by simp [eofFailure, hTerminal]) (by simp [Stream.eofDone, hTerminal])
  · rename_i hTerminal
    split
    · rename_i hProvider
      rw [queueFailure_eq]
      refine ⟨?_, rfl, rfl⟩
      simp only [hPending, List.nil_append]
      rw [hUpstream]
      exact .eofFailed _ rfl (by simp_all [eofFailure])
    · rename_i hProvider
      split
      · rename_i hFrame
        split
        · rename_i hChat
          refine ⟨?_, rfl, rfl⟩
          simp only [finish, push, hPending]
          rw [hUpstream]
          exact .eofDone rfl (by simp_all [Stream.eofDone])
        · rename_i hChat
          rw [queueFailure_eq]
          refine ⟨?_, rfl, rfl⟩
          simp only [hPending, List.nil_append]
          rw [hUpstream]
          exact .eofFailed _ rfl (by simp_all [eofFailure])
      · rename_i hFrame
        refine ⟨?_, rfl, rfl⟩
        simp only [finish, hPending]
        rw [hUpstream]
        exact .eofClosed rfl (by simp_all [eofFailure]) (by simp_all [Stream.eofDone])

theorem after_timer {st : NativeState} (hPending : st.pending = []) (t : StreamTermination)
    (hTimeout : t.isTimeout = true) : After parse st (.timer t) (st.queueFailure t) :=
  after_queueFailure parse hPending _ st.upstream t (.timeout t hTimeout)

theorem after_onUpstream {st : NativeState} (hPending : st.pending = [])
    (hRunning : st.finishAfterPending = false) (woken : Instant) :
    After parse st (.read st.upstream.head?) (st.onUpstream parse woken) := by
  unfold onUpstream
  split
  · rename_i hUpstream
    rw [hUpstream]
    exact after_onEof parse hPending hUpstream
  · rename_i rest hUpstream
    rw [hUpstream]
    exact after_queueFailure parse hPending _ rest _ (.transport rest hUpstream)
  · rename_i bytes rest hUpstream
    rw [hUpstream]
    split
    · have hEmpty : bytes = [] := by simpa using ‹bytes.isEmpty = true›
      refine ⟨?_, rfl, rfl⟩
      simp only [hPending, hRunning, List.head?_cons, hEmpty]
      exact .skip rest (hEmpty ▸ hUpstream)
    · exact after_onChunk parse hPending hRunning bytes rest woken hUpstream
        (by simpa using ‹¬bytes.isEmpty = true›)

theorem after_onHeartbeat {st : NativeState} (hPending : st.pending = [])
    (hRunning : st.finishAfterPending = false) (woken : Instant) :
    After parse st .heartbeat (st.onHeartbeat woken) := by
  unfold onHeartbeat
  cases hSafe : st.tracker.safeForHeartbeat with
  | true =>
    refine ⟨?_, rfl, rfl⟩
    simp only [if_true, push, hPending, hRunning]
    exact .heartbeat hSafe
  | false =>
    refine ⟨?_, rfl, rfl⟩
    simp only [Bool.false_eq_true, if_false, hPending, hRunning]
    exact .withheld hSafe

theorem after_wait {st : NativeState} (hPending : st.pending = [])
    (hRunning : st.finishAfterPending = false) : After parse st .nothing st := by
  refine ⟨?_, rfl, rfl⟩
  rw [hPending, hRunning]
  exact .wait

theorem after_poll {st : NativeState} (hPending : st.pending = [])
    (hRunning : st.finishAfterPending = false) (tick : Tick) :
    After parse st (st.cause tick) (st.poll parse tick) := by
  unfold cause poll
  split
  · exact after_timer parse hPending _ rfl
  · split
    · exact after_timer parse hPending _ rfl
    · split
      · exact after_timer parse hPending _ rfl
      · unfold select
        cases tick.branch with
        | upstream => exact after_onUpstream parse hPending hRunning tick.woken
        | totalSleep =>
          simp only
          split
          · exact after_timer parse hPending _ rfl
          · exact after_wait parse hPending hRunning
        | firstSleep =>
          simp only
          split
          · exact after_timer parse hPending _ rfl
          · exact after_wait parse hPending hRunning
        | idleSleep =>
          simp only
          split
          · exact after_timer parse hPending _ rfl
          · exact after_wait parse hPending hRunning
        | heartbeatSleep =>
          simp only
          split
          · exact after_onHeartbeat parse hPending hRunning _
          · exact after_wait parse hPending hRunning

end NativeState

/-- What a session's properties over whole runs depend on: everything written
for the client, read by it or not, and the tracker and the body behind it. -/
structure View where
  emitted : List Chunk
  tracker : SseEventTracker
  upstream : List UpstreamItem
  finished : Bool

namespace Session

variable (parse : String → Option Value)

def emitted (s : Session) : List Chunk := s.sent ++ s.state.pending

def view (s : Session) : View where
  emitted := s.emitted
  tracker := s.state.tracker
  upstream := s.state.upstream
  finished := s.state.finishAfterPending

/-- What the next pass reacts to, when it gets as far as reading the clock. -/
def cause (s : Session) : Option Cause :=
  if s.ended || !s.state.pending.isEmpty || s.state.done || s.state.finishAfterPending then none
  else s.ticks.head?.map s.state.cause

/-- A pass either leaves the view alone or has one of the listed effects on it. -/
inductive PassView (s s' : Session) : Prop
  | still (hCause : s.cause = none) (hView : s'.view = s.view)
  | effect (cause : Cause) (hCause : s.cause = some cause) (chunks : List Chunk)
      (hRunning : s.view.finished = false) (hEmitted : s'.view.emitted = s.view.emitted ++ chunks)
      (hEffect : Effect parse s.state.protocol s.view.tracker s.view.upstream cause chunks
        s'.view.tracker s'.view.upstream s'.view.finished)

theorem pass_view (s : Session) : PassView parse s (s.pass parse) := by
  unfold pass
  split
  · rename_i hEnded
    exact .still (by simp [cause, hEnded]) rfl
  · rename_i hEnded
    split
    · rename_i chunk later hPending
      exact .still (by simp [cause, hPending]) (by simp [view, emitted, hPending])
    · rename_i hPending
      split
      · rename_i hFinished
        refine .still ?_ rfl
        simp only [cause, Bool.or_assoc, hFinished, Bool.or_true, if_true]
      · rename_i hFinished
        simp only [Bool.or_eq_true, not_or, Bool.not_eq_true] at hFinished hEnded
        split
        · rename_i hTicks
          exact .still (by simp [cause, hTicks]) rfl
        · rename_i tick ticks hTicks
          have hAfter := NativeState.after_poll parse hPending hFinished.2 tick
          refine .effect (s.state.cause tick) ?_ _ hFinished.2 ?_ hAfter.effect
          · simp [cause, hEnded, hPending, hFinished.1, hFinished.2, hTicks]
          · simp [view, emitted, hPending]

theorem pass_protocol (s : Session) : (s.pass parse).state.protocol = s.state.protocol := by
  unfold pass
  split
  · rfl
  · split
    · rfl
    · rename_i hPending
      split
      · rfl
      · rename_i hFinished
        simp only [Bool.or_eq_true, not_or, Bool.not_eq_true] at hFinished
        split
        · rfl
        · exact (NativeState.after_poll parse hPending hFinished.2 _).protocol

/-- A property that every pass keeps, wherever the session meets `C`, holds along
every run whose passes all meet `C`. -/
theorem run_induction {P C : Session → Prop} {s : Session} (hStart : P s)
    (hPass : ∀ s', P s' → C s' → P (s'.pass parse)) (n : Nat)
    (hC : ∀ k < n, C (s.run parse k)) : P (s.run parse n) := by
  induction n with
  | zero => exact hStart
  | succ n ih =>
    have hRun := ih fun k hk => hC k (Nat.lt_succ_of_lt hk)
    exact hPass _ hRun (hC n (Nat.lt_succ_self n))

theorem run_protocol (s : Session) (n : Nat) : (s.run parse n).state.protocol = s.state.protocol := by
  induction n with
  | zero => rfl
  | succ n ih => exact (pass_protocol parse _).trans ih

theorem run_add (s : Session) (m n : Nat) : s.run parse (m + n) = (s.run parse m).run parse n := by
  induction n with
  | zero => rfl
  | succ n ih => rw [Nat.add_succ, run, ih, run]

/-- A call of `nextNative` is a run of passes. -/
theorem nextNative_run (s : Session) (hEnded : s.ended = false) :
    ∃ n, s.run parse n = s.afterCall (nextNative parse s.state s.ticks) := by
  obtain ⟨st, ticks, sent, ended⟩ := s
  cases hEnded
  induction ticks generalizing st with
  | nil =>
    cases hPending : st.pending with
    | cons chunk rest => exact ⟨1, by simp [run, pass, nextNative, afterCall, hPending]⟩
    | nil =>
      cases hFinished : st.done || st.finishAfterPending with
      | true => exact ⟨1, by simp [run, pass, nextNative, afterCall, hPending, hFinished]⟩
      | false => exact ⟨0, by simp [run, nextNative, afterCall, hPending, hFinished]⟩
  | cons tick ticks ih =>
    cases hPending : st.pending with
    | cons chunk rest => exact ⟨1, by simp [run, pass, nextNative, afterCall, hPending]⟩
    | nil =>
      cases hFinished : st.done || st.finishAfterPending with
      | true => exact ⟨1, by simp [run, pass, nextNative, afterCall, hPending, hFinished]⟩
      | false =>
        obtain ⟨n, hn⟩ := ih (st.poll parse tick)
        refine ⟨1 + n, ?_⟩
        rw [run_add]
        have hPass : run parse ⟨st, tick :: ticks, sent, false⟩ 1 =
            ⟨st.poll parse tick, ticks, sent, false⟩ := by
          simp [run, pass, hPending, hFinished]
        rw [hPass, hn]
        simp only [nextNative, hPending, hFinished]
        cases nextNative parse (st.poll parse tick) ticks <;> rfl

end Session

end AiGateway.Stream
