import AiGateway.Proxy.Transport
import AiGateway.Proxy.WholeBody

/-!
# Answers as the client gets them

Whether a forwarded answer is the upstream's own: its status, its headers but for those
of the connection, and its body.
-/

namespace AiGateway.Proxy

set_option autoImplicit false

open AiGateway.Json AiGateway.Text AiGateway.Usage AiGateway.Config AiGateway.Stream
open AiGateway.Stream (Instant Duration)

section Received

variable (parse : String → Option Value)

/-- What the client has of a body after so many passes of its loop. -/
def ForwardedBody.received : ForwardedBody → Nat → List Chunk
  | .buffered bytes, _ => [⟨.provider, bytes⟩]
  | .live session, n => (session.run parse n).sent

/-- Whether that is all of it. -/
def ForwardedBody.ended : ForwardedBody → Nat → Bool
  | .buffered _, _ => true
  | .live session, n => (session.run parse n).ended

end Received

def keptHeaders (upstream : HttpResponse) : HeaderMap :=
  upstream.headers.filter (!isConnectionHeader ·.1)

structure Faithful (upstream : HttpResponse) (response : ForwardedResponse)
    (received : List Chunk) : Prop where
  status : response.status = upstream.status
  headers : response.headers.Perm (keptHeaders upstream)
  nothingAdded : ∀ c ∈ received, c.origin = .provider
  bytes : bytesOf received = bodyBytes upstream.body

theorem collectBytes_of_noError {items : List UpstreamItem} (h : .error ∉ items) :
    collectBytes items = .ok (bodyBytes items) := by
  induction items with
  | nil => rfl
  | cons item rest ih =>
    have hRest := ih fun hMem => h (List.mem_cons_of_mem item hMem)
    match item with
    | .error => exact absurd List.mem_cons_self h
    | .chunk [] =>
      rw [collectBytes, hRest]
      rfl
    | .chunk (b :: bs) =>
      rw [collectBytes, hRest]
      rfl

theorem statusFromU16_valid (upstream : HttpResponse) :
    (statusFromU16 upstream.status).getD 502 = upstream.status := by
  rw [statusFromU16, if_pos upstream.validStatus, Option.getD_some]

section Forward

variable (parse : String → Option Value) (fromSlice : Bytes → Option Value)
  (countTokens : String → Nat) (client : SourceHttpClient) (moments : Moments) (ticks : List Tick)
  (url : String) (account : AccountConfig) (credential : Option String) (protocol : Protocol)
  (requestHeaders : HeaderMap) (body : Bytes) (config : StreamConfig) (requestStarted : Instant)

def liveSession (upstream : HttpResponse) : Session :=
  Session.wrapNativeBody upstream.body protocol config requestStarted moments.connected
    moments.instantMax ticks

/-- The upstream's body comes to its end, and within every limit. -/
structure EndsNormally (upstream : HttpResponse) : Prop where
  noError : .error ∉ upstream.body
  buffered : isStreaming (fromSlice body) = false → ∀ deadline,
    totalDeadline moments requestStarted config = some deadline → moments.buffered ≤ deadline
  inTime : isStreaming (fromSlice body) = true →
    (liveSession moments ticks protocol config requestStarted upstream).InTime parse
  readOn : isStreaming (fromSlice body) = true → upstream.body.length < Session.reads ticks

/-- No kept header has two values, and for a streaming request no heartbeat falls due
between two frames and the body passes whole. -/
structure Carried (upstream : HttpResponse) : Prop where
  names : ((keptHeaders upstream).map Prod.fst).Nodup
  noHeartbeat : isStreaming (fromSlice body) = true → ∀ k,
    ((liveSession moments ticks protocol config requestStarted upstream).run parse k).cause =
        some .heartbeat →
      ((liveSession moments ticks protocol config requestStarted upstream).run parse
        k).state.tracker.safeForHeartbeat = false
  whole : isStreaming (fromSlice body) = true →
    PassesWhole parse protocol {} (nonEmptyChunks upstream.body)

variable {parse fromSlice client moments url account credential protocol requestHeaders body
  config requestStarted}

theorem bufferBody_eq {upstream : HttpResponse}
    (h : EndsNormally parse fromSlice moments ticks protocol body config requestStarted upstream)
    (hStreaming : isStreaming (fromSlice body) = false) :
    bufferBody moments upstream.body config requestStarted = .ok (bodyBytes upstream.body) := by
  have hCollected := collectBytes_of_noError h.noError
  unfold bufferBody
  split
  · rw [hCollected]
    rfl
  · next deadline hDeadline =>
    rw [if_pos (h.buffered hStreaming deadline hDeadline), hCollected]
    rfl

/-- A body that came whole is handed on whole, under the headers as they were inserted. -/
theorem forward_buffered {upstream : HttpResponse} (hPost : client.post url = .ok ())
    (hSent : sendRequest client moments
      (outgoingRequest url account credential protocol requestHeaders body) config requestStarted =
        .ok upstream)
    (h : EndsNormally parse fromSlice moments ticks protocol body config requestStarted upstream)
    (hStreaming : isStreaming (fromSlice body) = false) :
    ∃ usage identity, forwardUrlWithConfig fromSlice countTokens client moments ticks url account
      credential protocol requestHeaders body config requestStarted =
        .ok ⟨upstream.status, responseHeaders upstream.headers,
          .buffered (bodyBytes upstream.body), usage, identity⟩ := by
  let observed := observeJsonResponse countTokens (isSuccess upstream.status) body
    (bodyBytes upstream.body) (fromSlice (bodyBytes upstream.body))
  refine ⟨some observed.1, some observed.2, ?_⟩
  simp only [forwardUrlWithConfig, hPost, hSent, Except.mapError, bind, Except.bind, hStreaming,
    bufferBody_eq ticks h hStreaming, statusFromU16_valid]
  rfl

theorem forward_live {upstream : HttpResponse} (hPost : client.post url = .ok ())
    (hSent : sendRequest client moments
      (outgoingRequest url account credential protocol requestHeaders body) config requestStarted =
        .ok upstream)
    (hStreaming : isStreaming (fromSlice body) = true) :
    forwardUrlWithConfig fromSlice countTokens client moments ticks url account credential protocol
      requestHeaders body config requestStarted =
        .ok ⟨upstream.status, responseHeaders upstream.headers,
          .live (liveSession moments ticks protocol config requestStarted upstream), none,
          none⟩ := by
  simp only [forwardUrlWithConfig, hPost, hSent, Except.mapError, bind, Except.bind, hStreaming,
    statusFromU16_valid]
  rfl

theorem responseHeaders_perm_iff (upstream : HttpResponse) :
    (responseHeaders upstream.headers).Perm (keptHeaders upstream) ↔
      ((keptHeaders upstream).map Prod.fst).Nodup :=
  Http.insertAll_perm_iff (keptHeaders upstream)

end Forward

section Claim

variable (parse : String → Option Value) (fromSlice : Bytes → Option Value)
  (countTokens : String → Nat) (client : SourceHttpClient) (moments : Moments) (ticks : List Tick)
  (url : String) (account : AccountConfig) (credential : Option String) (protocol : Protocol)
  (requestHeaders : HeaderMap) (body : Bytes) (config : StreamConfig) (requestStarted : Instant)

/-- An answer that ends normally reaches the client, and it is the upstream's own exactly
when it is carried. -/
theorem forwarded_faithfully_iff (upstream : HttpResponse) (hPost : client.post url = .ok ())
    (hSent : sendRequest client moments
      (outgoingRequest url account credential protocol requestHeaders body) config requestStarted =
        .ok upstream)
    (hNormal : EndsNormally parse fromSlice moments ticks protocol body config requestStarted
      upstream) :
    ∃ response, forwardUrlWithConfig fromSlice countTokens client moments ticks url account
        credential protocol requestHeaders body config requestStarted = .ok response ∧
      (∃ n, response.body.ended parse n = true) ∧
      ∀ n, response.body.ended parse n = true →
        (Faithful upstream response (response.body.received parse n) ↔
          Carried parse fromSlice moments ticks protocol body config requestStarted upstream) := by
  cases hStreaming : isStreaming (fromSlice body) with
  | false =>
    obtain ⟨usage, identity, hForward⟩ :=
      forward_buffered countTokens ticks hPost hSent hNormal hStreaming
    refine ⟨_, hForward, ⟨0, rfl⟩, fun n _ => ?_⟩
    constructor
    · intro h
      refine ⟨(responseHeaders_perm_iff upstream).mp h.headers, ?_, ?_⟩
      all_goals
        rw [hStreaming]
        intro hNever
        cases hNever
    · intro h
      refine ⟨rfl, (responseHeaders_perm_iff upstream).mpr h.names, ?_, ?_⟩
      · intro c hc
        rw [List.mem_singleton.mp hc]
      · exact List.append_nil _
  | true =>
    have hForward := forward_live countTokens ticks hPost hSent hStreaming
    refine ⟨_, hForward, ?_, fun n hEnded => ?_⟩
    · exact Session.ends (hNormal.inTime hStreaming) (.inr (hNormal.readOn hStreaming))
    · have hWhole := Session.whole_iff parse protocol upstream.body config requestStarted
        moments.connected moments.instantMax ticks hNormal.noError (hNormal.inTime hStreaming) n
        hEnded
      constructor
      · intro h
        obtain ⟨hBeats, hPasses⟩ := hWhole.mp ⟨h.nothingAdded, h.bytes⟩
        exact ⟨(responseHeaders_perm_iff upstream).mp h.headers, fun _ => hBeats, fun _ => hPasses⟩
      · intro h
        obtain ⟨hAll, hBytes⟩ := hWhole.mpr ⟨h.noHeartbeat hStreaming, h.whole hStreaming⟩
        exact ⟨rfl, (responseHeaders_perm_iff upstream).mpr h.names, hAll, hBytes⟩

end Claim

/-! ## Three answers that are no event streams -/

def jsonReply (status : StatusCode) (headers : HeaderMap) (h : 100 ≤ status ∧ status < 1000) :
    HttpResponse :=
  ⟨status, ("content-type", utf8 "application/json") :: headers, [.chunk (utf8 "\x7b\x7d")], h⟩

def isTimer : Option Cause → Bool
  | some (.timer _) => true
  | _ => false

theorem inTime_of_ended {parse : String → Option Value} {session : Session} {n : Nat}
    (hEnded : (session.run parse n).ended = true)
    (h : (List.range n).all (fun k => !isTimer (session.run parse k).cause) = true) :
    session.InTime parse := by
  intro k e hCause
  rcases Nat.lt_or_ge k n with hk | hk
  · have hQuiet := List.all_eq_true.mp h k (List.mem_range.mpr hk)
    rw [hCause] at hQuiet
    cases hQuiet
  · obtain ⟨d, rfl⟩ := Nat.exists_eq_add_of_le hk
    rw [Session.run_of_ended hEnded, Session.cause_of_ended hEnded] at hCause
    cases hCause

/-- The reader of the two request bodies below. -/
def readRequest (bytes : Bytes) : Option Value :=
  if bytes = utf8 "\x7b\"stream\":true\x7d" then some (.ofFields [("stream", .bool true)])
  else if bytes = utf8 "\x7b\x7d" then some (.object [])
  else none

def answering (upstream : HttpResponse) : SourceHttpClient where
  post := fun _ => .ok ()
  send := fun _ => .ok upstream

def someAccount : AccountConfig := { id := "a", providerId := "p", displayName := "A" }

def atOnce : Moments := ⟨0, 100, 100, 100, 1000000000⟩

theorem sendRequest_atOnce (upstream : HttpResponse) (request : OutgoingRequest) :
    sendRequest (answering upstream) atOnce request {} 0 = .ok upstream := by
  have hLimit : earliestSendTimeout atOnce 0 {} = some (120000, .connectionTimeout) := by
    decide
  rw [sendRequest, hLimit]
  simp [atOnce, answering, Except.mapError]

/-- An error that answers a streaming request. -/
theorem refusal_forwarded_faithfully :
    ∃ response, forwardUrlWithConfig readRequest (fun _ => 0)
        (answering (jsonReply 401 [] (by decide))) atOnce
        [⟨200, .upstream, 300⟩, ⟨300, .upstream, 400⟩] "http://upstream/" someAccount none
        .openAiChatCompletions [] (utf8 "\x7b\"stream\":true\x7d") {} 0 = .ok response ∧
      (∃ n, response.body.ended (fun _ => none) n = true) ∧
      ∀ n, response.body.ended (fun _ => none) n = true →
        (Faithful (jsonReply 401 [] (by decide)) response
            (response.body.received (fun _ => none) n) ↔
          Carried (fun _ => none) readRequest atOnce [⟨200, .upstream, 300⟩, ⟨300, .upstream, 400⟩]
            .openAiChatCompletions (utf8 "\x7b\"stream\":true\x7d") {} 0
            (jsonReply 401 [] (by decide))) := by
  refine forwarded_faithfully_iff (fun _ => none) readRequest (fun _ => 0) _ atOnce _
    "http://upstream/" someAccount none .openAiChatCompletions [] _ {} 0 _ rfl
    (sendRequest_atOnce _ _) ⟨?_, ?_, ?_, ?_⟩
  · decide
  · intro hStreaming
    exact absurd hStreaming (by decide)
  · intro _
    apply inTime_of_ended (n := 4)
    · decide
    · decide
  · intro _
    decide

/-- Of two cookies the client gets one. -/
theorem first_cookie_is_lost :
    ¬∀ (parse : String → Option Value) (fromSlice : Bytes → Option Value)
      (countTokens : String → Nat) (client : SourceHttpClient) (moments : Moments)
      (ticks : List Tick) (url : String) (account : AccountConfig) (credential : Option String)
      (protocol : Protocol) (requestHeaders : HeaderMap) (body : Bytes) (config : StreamConfig)
      (requestStarted : Instant) (upstream : HttpResponse) (response : ForwardedResponse) (n : Nat),
      client.post url = .ok () →
      sendRequest client moments
        (outgoingRequest url account credential protocol requestHeaders body) config
          requestStarted = .ok upstream →
      isEventStream upstream.headers = false →
      EndsNormally parse fromSlice moments ticks protocol body config requestStarted upstream →
      forwardUrlWithConfig fromSlice countTokens client moments ticks url account credential
        protocol requestHeaders body config requestStarted = .ok response →
      response.body.ended parse n = true →
      Faithful upstream response (response.body.received parse n) := by
  let cookies : HttpResponse :=
    jsonReply 200 [("set-cookie", utf8 "a=1"), ("set-cookie", utf8 "b=2")] (by decide)
  intro hAlways
  have hNormal : EndsNormally (fun _ => none) readRequest atOnce [] .openAiChatCompletions
      (utf8 "\x7b\x7d") {} 0 cookies := by
    refine ⟨by decide, ?_, ?_, ?_⟩
    · intro _ deadline hDeadline
      have hTotal : totalDeadline atOnce 0 {} = some 300000 := by decide
      rw [hTotal] at hDeadline
      cases hDeadline
      decide
    · intro hStreaming
      exact absurd hStreaming (by decide)
    · intro hStreaming
      exact absurd hStreaming (by decide)
  have hSent := sendRequest_atOnce cookies (outgoingRequest "http://upstream/" someAccount none
    .openAiChatCompletions [] (utf8 "\x7b\x7d"))
  obtain ⟨usage, identity, hForward⟩ := forward_buffered (fun _ => 0) [] rfl hSent hNormal
    (by decide)
  have hFaithful := hAlways _ _ _ _ _ [] _ _ _ _ _ _ _ _ cookies _ 0 rfl hSent (by decide)
    hNormal hForward rfl
  have hLost : (responseHeaders cookies.headers).length ≠ (keptHeaders cookies).length := by
    decide
  exact hLost hFaithful.headers.length_eq

/-- A body that is slow to come after a streaming request has a heartbeat in front. -/
example :
    ((liveSession atOnce [⟨200, .heartbeatSleep, 15100⟩, ⟨15100, .upstream, 16000⟩,
      ⟨16000, .upstream, 16100⟩] .openAiChatCompletions {} 0 (jsonReply 200 [] (by decide))).run
        (fun _ => none) 6).sent.map Chunk.origin = [.heartbeat, .provider] := by
  decide

end AiGateway.Proxy
