import AiGateway.Proxy.Stream

/-!
# The native stream wrapper

`nextNative` is the loop behind the body the client reads.  Time and the
readiness of the awaited sources come from a schedule of ticks, one for each
pass of the loop that gets as far as reading the clock.  A pending chunk carries
its origin, which the bytes alone do not show.
-/

namespace AiGateway.Stream

set_option autoImplicit false

open AiGateway.Json AiGateway.Text

abbrev Instant := Nat
abbrev Duration := Nat

/-- A zero duration disables that limit. -/
structure StreamConfig where
  heartbeatInterval : Duration := 15000
  connectionTimeout : Duration := 120000
  firstEventTimeout : Duration := 30000
  idleTimeout : Duration := 60000
  totalTimeout : Duration := 300000
  deriving DecidableEq, Repr

/-- Who put a chunk into the client stream. -/
inductive Origin where
  | provider
  | heartbeat
  | separator
  | errorFrame (termination : StreamTermination)
  | doneFrame
  deriving DecidableEq, Repr

namespace Origin

def isProvider : Origin → Bool
  | .provider => true
  | _ => false

def isErrorFrame : Origin → Bool
  | .errorFrame _ => true
  | _ => false

/-- A gateway chunk that carries an event. -/
def carriesEvent : Origin → Bool
  | .errorFrame _ | .doneFrame => true
  | _ => false

end Origin

structure Chunk where
  origin : Origin
  bytes : Bytes
  deriving DecidableEq, Repr

def Chunk.heartbeat : Chunk := ⟨.heartbeat, heartbeatFrame⟩
def Chunk.separator : Chunk := ⟨.separator, utf8 "\n\n"⟩
def Chunk.done : Chunk := ⟨.doneFrame, chatDoneFrame⟩
def Chunk.errorFrame (protocol : Protocol) (termination : StreamTermination) : Chunk :=
  ⟨.errorFrame termination, gatewayErrorFrame protocol termination⟩

def bytesOf (chunks : List Chunk) : Bytes := chunks.flatMap Chunk.bytes

inductive UpstreamItem where
  | chunk (bytes : Bytes)
  | error
  deriving DecidableEq, Repr

/-- The wrapper's state.  `upstream` holds the items not yet read, and its end is
the end of the body; `instantMax` is the last instant the clock represents. -/
structure NativeState where
  upstream : List UpstreamItem
  protocol : Protocol
  config : StreamConfig
  requestStarted : Instant
  connectedAt : Instant
  instantMax : Instant
  tracker : SseEventTracker
  pending : List Chunk
  finishAfterPending : Bool
  done : Bool
  nextHeartbeat : Option Instant
  lastEvent : Option Instant

/-- The source a pass of the loop finds ready. -/
inductive Branch where
  | upstream
  | totalSleep
  | firstSleep
  | idleSleep
  | heartbeatSleep
  deriving DecidableEq, Repr

/-- One pass of the loop: the clock at its start, the source that became ready,
and the clock when it did. -/
structure Tick where
  now : Instant
  branch : Branch
  woken : Instant
  deriving DecidableEq, Repr

/-- Whether a deadline is set and has passed. -/
def reached (deadline : Option Instant) (at_ : Instant) : Bool := deadline.any (· ≤ at_)

namespace NativeState

def checkedAdd (st : NativeState) (at_ : Instant) (d : Duration) : Option Instant :=
  if at_ + d ≤ st.instantMax then some (at_ + d) else none

def heartbeatAfter (st : NativeState) (at_ : Instant) : Option Instant :=
  if st.config.heartbeatInterval = 0 then none
  else st.checkedAdd at_ st.config.heartbeatInterval

def new (upstream : List UpstreamItem) (protocol : Protocol) (config : StreamConfig)
    (requestStarted connectedAt instantMax : Instant) : NativeState :=
  let st : NativeState :=
    { upstream, protocol, config, requestStarted, connectedAt, instantMax
      tracker := {}
      pending := []
      finishAfterPending := false
      done := false
      nextHeartbeat := none
      lastEvent := none }
  { st with nextHeartbeat := st.heartbeatAfter connectedAt }

def push (st : NativeState) (c : Chunk) : NativeState := { st with pending := st.pending ++ [c] }

def finish (st : NativeState) : NativeState := { st with finishAfterPending := true }

def queueFailure (st : NativeState) (termination : StreamTermination) : NativeState :=
  let st :=
    if !st.tracker.safeForHeartbeat || termination = .bufferLimitExceeded then
      st.push .separator
    else st
  (st.push (.errorFrame st.protocol termination)).finish

def totalDeadline (st : NativeState) : Option Instant :=
  if st.config.totalTimeout = 0 then none
  else st.checkedAdd st.requestStarted st.config.totalTimeout

def firstDeadline (st : NativeState) : Option Instant :=
  if st.config.firstEventTimeout = 0 ∨ st.tracker.sawProviderEvent then none
  else st.checkedAdd st.connectedAt st.config.firstEventTimeout

def idleDeadline (st : NativeState) : Option Instant :=
  st.lastEvent.bind fun at_ =>
    if st.config.idleTimeout = 0 then none else st.checkedAdd at_ st.config.idleTimeout

/-- A provider event restarts the idle and heartbeat timers. -/
def noteActivity (st : NativeState) (a : SseActivity) (woken : Instant) : NativeState :=
  if a.providerEvent then
    { st with lastEvent := some woken, nextHeartbeat := st.heartbeatAfter woken }
  else st

section

variable (parse : String → Option Value)

/-- A non-empty provider chunk. -/
def onChunk (st : NativeState) (bytes : Bytes) (woken : Instant) : NativeState :=
  let r := st.tracker.feed parse bytes
  let st := ({ st with tracker := r.1 }.noteActivity r.2 woken).push ⟨.provider, bytes⟩
  if r.2.terminal = some .bufferLimitExceeded then st.queueFailure .bufferLimitExceeded
  else if r.2.error ∨ r.2.terminal.isSome then st.finish
  else st

/-- The end of the provider body. -/
def onEof (st : NativeState) : NativeState :=
  let st := { st with tracker := (st.tracker.finishEof parse).1 }
  match st.tracker.terminal with
  | some _ => st.finish
  | none =>
    if !st.tracker.sawProviderEvent then st.queueFailure .emptyStream
    else if st.tracker.sawSseFrame then
      if st.protocol = .openAiChatCompletions ∧ st.tracker.sawChatFinish ∧
          st.tracker.unfinishedChatChoices = ∅ then
        ({ st with tracker := st.tracker.markCompletedAfterEof }.push .done).finish
      else st.queueFailure .incompleteStream
    else st.finish

def onUpstream (st : NativeState) (woken : Instant) : NativeState :=
  match st.upstream with
  | [] => st.onEof parse
  | .error :: rest => { st with upstream := rest }.queueFailure .transportError
  | .chunk bytes :: rest =>
    if bytes.isEmpty then { st with upstream := rest }
    else { st with upstream := rest }.onChunk parse bytes woken

def onHeartbeat (st : NativeState) (woken : Instant) : NativeState :=
  let st := if st.tracker.safeForHeartbeat then st.push .heartbeat else st
  { st with nextHeartbeat := st.heartbeatAfter woken }

/-- The awaited sources.  A sleep that is disabled or not yet due leaves the wait
as it is. -/
def select (st : NativeState) (tick : Tick) : NativeState :=
  match tick.branch with
  | .upstream => st.onUpstream parse tick.woken
  | .totalSleep =>
    if reached st.totalDeadline tick.woken then st.queueFailure .totalTimeout else st
  | .firstSleep =>
    if reached st.firstDeadline tick.woken then st.queueFailure .firstEventTimeout else st
  | .idleSleep =>
    if reached st.idleDeadline tick.woken then st.queueFailure .idleTimeout else st
  | .heartbeatSleep =>
    if reached st.nextHeartbeat tick.woken then st.onHeartbeat tick.woken else st

/-- A pass of the loop with nothing pending and the stream not finished. -/
def poll (st : NativeState) (tick : Tick) : NativeState :=
  if reached st.totalDeadline tick.now then st.queueFailure .totalTimeout
  else if reached st.firstDeadline tick.now then st.queueFailure .firstEventTimeout
  else if reached st.idleDeadline tick.now then st.queueFailure .idleTimeout
  else st.select parse tick

end

end NativeState

/-- What one call gives: a chunk, the end of the body, or a wait that outlasts
the schedule. -/
inductive Next where
  | item (chunk : Chunk) (state : NativeState) (ticks : List Tick)
  | finished (state : NativeState) (ticks : List Tick)
  | waiting (state : NativeState)

section

variable (parse : String → Option Value)

def nextNative (st : NativeState) : List Tick → Next
  | [] =>
    match st.pending with
    | chunk :: rest => .item chunk { st with pending := rest } []
    | [] => if st.done || st.finishAfterPending then .finished { st with done := true } []
      else .waiting st
  | tick :: ticks =>
    match st.pending with
    | chunk :: rest => .item chunk { st with pending := rest } (tick :: ticks)
    | [] => if st.done || st.finishAfterPending then .finished { st with done := true } (tick :: ticks)
      else nextNative (st.poll parse tick) ticks

/-- The wrapper together with the client that reads it. -/
structure Session where
  state : NativeState
  ticks : List Tick
  sent : List Chunk
  ended : Bool

namespace Session

/-- `wrap_native_body`: nothing sent yet. -/
def wrapNativeBody (upstream : List UpstreamItem) (protocol : Protocol) (config : StreamConfig)
    (requestStarted connectedAt instantMax : Instant) (ticks : List Tick) : Session :=
  { state := .new upstream protocol config requestStarted connectedAt instantMax
    ticks
    sent := []
    ended := false }

/-- One pass of the loop of `nextNative`.  A returned chunk goes to the client,
which calls again. -/
def pass (s : Session) : Session :=
  if s.ended then s
  else
    match s.state.pending with
    | chunk :: rest =>
      { s with state := { s.state with pending := rest }, sent := s.sent ++ [chunk] }
    | [] =>
      if s.state.done || s.state.finishAfterPending then
        { s with state := { s.state with done := true }, ended := true }
      else
        match s.ticks with
        | [] => s
        | tick :: ticks => { s with state := s.state.poll parse tick, ticks }

def run (s : Session) : Nat → Session
  | 0 => s
  | n + 1 => pass parse (run s n)

/-- The session after a whole call of `nextNative`. -/
def afterCall (s : Session) : Next → Session
  | .item chunk state ticks => { s with state, ticks, sent := s.sent ++ [chunk] }
  | .finished state ticks => { s with state, ticks, ended := true }
  | .waiting state => { s with state, ticks := [] }

end Session

end

end AiGateway.Stream
