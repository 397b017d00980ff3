import AiGateway.Proxy.Passthrough
import AiGateway.Proxy.Tracker
import AiGateway.Proxy.ErrorFrame
import AiGateway.Sse.Reader

/-!
# Gateway frames stand alone

A client reads the whole output as one event stream.  The tracker's view of the
provider's open frame is related to that client's, which says when a gateway
frame written after provider bytes is read as a frame of its own.
-/

namespace AiGateway.Stream

set_option autoImplicit false

open AiGateway.Json AiGateway.Text AiGateway.Sse

/-- The client's reader after a list of chunks. -/
def readChunks (chunks : List Chunk) : Reader := ({} : Reader).read (bytesOf chunks)

def itemBytes : UpstreamItem → Bytes
  | .chunk bytes => bytes
  | .error => []

def upstreamBytes (items : List UpstreamItem) : Bytes := items.flatMap itemBytes

/-- Every carriage return is followed by a line feed, unless the bytes stop
there.  The flag says that a carriage return came just before. -/
def crlfOnly : Bool → Bytes → Prop
  | _, [] => True
  | afterCr, b :: bs => (afterCr = true → b = lf) ∧ crlfOnly (b == cr) bs

instance crlfOnlyDecidable : ∀ afterCr bytes, Decidable (crlfOnly afterCr bytes)
  | _, [] => inferInstanceAs (Decidable True)
  | afterCr, b :: bs =>
    have := crlfOnlyDecidable (b == cr) bs
    inferInstanceAs (Decidable ((afterCr = true → b = lf) ∧ crlfOnly (b == cr) bs))

/-- A line the tracker does not take for content by its first octet. -/
def Led (line : Bytes) : Prop := line.head? = some colon ∨ line.head? = some space

/-- The tracker and the client's reader stand at the same place of the
provider's open frame. -/
structure Follows (t : SseEventTracker) (r : Reader) : Prop where
  sound : r.Sound
  line : r.afterCr = false → r.line = t.line
  blank : r.afterCr = true → t.line = [] → r.openLines = []
  openLed : t.frameNonComment = false → ∀ l ∈ r.openLines, Led l
  lineLed : t.frameNonComment = false → t.line ≠ [] → Led t.line

theorem bytesOf_append (xs ys : List Chunk) : bytesOf (xs ++ ys) = bytesOf xs ++ bytesOf ys := by
  simp [bytesOf]

theorem readChunks_append (xs ys : List Chunk) :
    readChunks (xs ++ ys) = (readChunks xs).read (bytesOf ys) := by
  rw [readChunks, bytesOf_append, Reader.read_append]
  rfl

theorem readChunks_sound (chunks : List Chunk) : (readChunks chunks).Sound :=
  Reader.sound_empty.read _

namespace Follows

variable (parse : String → Option Value) {t : SseEventTracker} {r : Reader}

theorem congr {t' : SseEventTracker} (h : Follows t r) (hLine : t'.line = t.line)
    (hComment : t'.frameNonComment = t.frameNonComment) : Follows t' r where
  sound := h.sound
  line := by rw [hLine]; exact h.line
  blank := by rw [hLine]; exact h.blank
  openLed := by rw [hComment]; exact h.openLed
  lineLed := by rw [hLine, hComment]; exact h.lineLed

/-- A finished line leaves the tracker with no partial line. -/
theorem ofLineEnd {t' : SseEventTracker} {r' : Reader} (hSound : r'.Sound) (hCr : r'.afterCr = false)
    (hLine : r'.line = []) (hLine' : t'.line = [])
    (hOpen : t'.frameNonComment = false → ∀ l ∈ r'.openLines, Led l) : Follows t' r' where
  sound := hSound
  line := fun _ => by rw [hLine, hLine']
  blank := fun h => by rw [hCr] at h; cases h
  openLed := hOpen
  lineLed := fun _ h => absurd hLine' h

theorem processLine (h : Follows t r) (a : SseActivity) :
    Follows (t.processLine parse a).1 (r.step lf) := by
  have hLine' := SseEventTracker.processLine_line parse t a
  cases hCr : r.afterCr with
  | true =>
    -- the reader ended this line at its carriage return
    have hStep : r.step lf = { r with afterCr := false } := by simp [Reader.step, hCr]
    refine ofLineEnd (h.sound.step lf) (by rw [hStep]) (by rw [hStep]; exact h.sound.lineEnded hCr)
      hLine' ?_
    rw [hStep]
    by_cases hLine : t.line = []
    · simp [h.blank hCr hLine]
    · exact fun hComment => h.openLed (SseEventTracker.processLine_comment parse hLine a hComment)
  | false =>
    have hStep : r.step lf = r.endLine := by simp [Reader.step, hCr]
    refine ofLineEnd (h.sound.step lf) (by rw [hStep]; simp) (by rw [hStep]; simp) hLine' ?_
    rw [hStep]
    by_cases hLine : t.line = []
    · have hBlank : r.line = [] := (h.line hCr).trans hLine
      simp [Reader.endLine_openLines_blank hBlank]
    · have hOpen : r.line ≠ [] := by rw [h.line hCr]; exact hLine
      rw [Reader.endLine_openLines hOpen, h.line hCr]
      intro hComment l hl
      have hBefore := SseEventTracker.processLine_comment parse hLine a hComment
      rcases List.mem_append.mp hl with hl | hl
      · exact h.openLed hBefore l hl
      · rw [List.mem_singleton.mp hl]
        exact h.lineLed hBefore hLine

theorem carriageReturn (h : Follows t r) (hCr : r.afterCr = false) : Follows t (r.step cr) := by
  have hStep : r.step cr = { r.endLine with afterCr := true } := by simp [Reader.step, cr, lf]
  refine ⟨h.sound.step cr, ?_, ?_, ?_, h.lineLed⟩
  · rw [hStep]
    simp
  · intro _ hLine
    rw [hStep]
    exact Reader.endLine_openLines_blank ((h.line hCr).trans hLine)
  · rw [hStep]
    intro hComment l hl
    by_cases hLine : r.line = []
    · simp [Reader.endLine_openLines_blank hLine] at hl
    · simp only [Reader.endLine_openLines hLine, List.mem_append, List.mem_singleton] at hl
      rcases hl with hl | hl
      · exact h.openLed hComment l hl
      · rw [hl, h.line hCr]
        exact h.lineLed hComment (h.line hCr ▸ hLine)

theorem pushByte (h : Follows t r) (hCr : r.afterCr = false) {b : UInt8} (hLf : b ≠ lf)
    (hNotCr : b ≠ cr) : Follows (t.pushByte b) (r.step b) := by
  have hStep : r.step b = { r with line := r.line ++ [b], afterCr := false } := by
    simp [Reader.step, hLf, hNotCr]
  refine ⟨h.sound.step b, ?_, ?_, ?_, ?_⟩
  · rw [hStep]
    simp [SseEventTracker.pushByte, h.line hCr]
  · rw [hStep]
    simp
  · rw [hStep]
    intro hComment
    simp only [SseEventTracker.pushByte, Bool.or_eq_false_iff] at hComment
    exact h.openLed hComment.1
  · intro hComment _
    simp only [SseEventTracker.pushByte, Bool.or_eq_false_iff] at hComment
    by_cases hLine : t.line = []
    · have hLead : b = colon ∨ b = space := by simpa [hLine, or_iff_not_imp_left] using hComment.2
      simpa [Led, SseEventTracker.pushByte, hLine] using hLead
    · obtain ⟨c, cs, hCons⟩ := List.exists_cons_of_ne_nil hLine
      have hLead := h.lineLed hComment.1 hLine
      simpa [Led, SseEventTracker.pushByte, hCons] using hLead

/-- The bytes of a chunk, fed and read, as long as no limit is hit. -/
theorem feedBytes {afterCr : Bool} {later : Bytes} (bytes : Bytes) (h : Follows t r)
    (hAfter : r.afterCr = true → afterCr = true) (hEnds : crlfOnly afterCr (bytes ++ later))
    (a : SseActivity)
    (hLimit : (t.feedBytes parse a bytes).1.terminal ≠ some .bufferLimitExceeded) :
    Follows (t.feedBytes parse a bytes).1 (r.read bytes) ∧
      ∃ afterCr, ((r.read bytes).afterCr = true → afterCr = true) ∧ crlfOnly afterCr later := by
  induction bytes generalizing t r a afterCr with
  | nil => exact ⟨h, afterCr, hAfter, hEnds⟩
  | cons b bs ih =>
    rw [List.cons_append, crlfOnly] at hEnds
    obtain ⟨hNext, hEnds⟩ := hEnds
    rw [SseEventTracker.feedBytes] at hLimit ⊢
    by_cases hFull : maxSseFrameBytes ≤ t.frameBytes
    · rw [if_pos hFull] at hLimit
      exact absurd rfl hLimit
    · rw [if_neg hFull] at hLimit ⊢
      simp only at hLimit ⊢
      have hCount : Follows { t with frameBytes := t.frameBytes + 1 } r := h.congr rfl rfl
      by_cases hLf : b = lf
      · subst hLf
        rw [if_pos rfl] at hLimit ⊢
        by_cases hStop : (SseEventTracker.processLine parse
            { t with frameBytes := t.frameBytes + 1 } a).1.terminal = some .bufferLimitExceeded
        · rw [if_pos hStop] at hLimit
          exact absurd hStop hLimit
        · rw [if_neg hStop] at hLimit ⊢
          refine ih (hCount.processLine parse a) ?_ hEnds _ hLimit
          intro hCr
          unfold Reader.step at hCr
          simp only [if_true] at hCr
          split at hCr
          · cases hCr
          · simp at hCr
      · rw [if_neg hLf] at hLimit ⊢
        have hNoCr : r.afterCr = false := by
          cases hCr : r.afterCr with
          | false => rfl
          | true => exact absurd (hNext (hAfter hCr)) hLf
        by_cases hCr : b = cr
        · subst hCr
          rw [if_pos rfl] at hLimit ⊢
          exact ih (hCount.carriageReturn hNoCr) (fun _ => rfl) hEnds _ hLimit
        · rw [if_neg hCr] at hLimit ⊢
          refine ih (hCount.pushByte hNoCr hLf hCr) ?_ hEnds _ hLimit
          intro hCr'
          simp [Reader.step, hLf, hCr] at hCr'

theorem feed {afterCr : Bool} {later : Bytes} (bytes : Bytes) (h : Follows t r)
    (hAfter : r.afterCr = true → afterCr = true) (hEnds : crlfOnly afterCr (bytes ++ later))
    (hLimit : (t.feed parse bytes).1.terminal ≠ some .bufferLimitExceeded) :
    Follows (t.feed parse bytes).1 (r.read bytes) ∧
      ∃ afterCr, ((r.read bytes).afterCr = true → afterCr = true) ∧ crlfOnly afterCr later := by
  unfold SseEventTracker.feed at hLimit ⊢
  by_cases hStart : t.terminal = some .bufferLimitExceeded
  · rw [if_pos hStart] at hLimit
    exact absurd hStart hLimit
  · rw [if_neg hStart] at hLimit ⊢
    split at hLimit
    · rw [if_pos ‹_›]
      have hSeen : Follows { t with sawProviderEvent := true } r := h.congr rfl rfl
      exact feedBytes parse bytes hSeen hAfter hEnds _ hLimit
    · rw [if_neg ‹_›]
      exact feedBytes parse bytes h hAfter hEnds _ hLimit

end Follows

/-- The events a client dispatches for a gateway frame read on its own. -/
def gatewayEvents (protocol : Protocol) : Origin → List Event
  | .errorFrame termination =>
    match protocol with
    | .openAiChatCompletions =>
      [⟨[], utf8 (gatewayErrorBody protocol termination)⟩, ⟨[], utf8 "[DONE]"⟩]
    | .openAiResponses | .anthropicMessages =>
      [⟨utf8 "error", utf8 (gatewayErrorBody protocol termination)⟩]
  | .doneFrame => [⟨[], utf8 "[DONE]"⟩]
  | _ => []

theorem chatDoneFrame_eq : chatDoneFrame = utf8 "data: " ++ utf8 "[DONE]" ++ [lf, lf] := by
  decide

theorem chatDoneFrame_read {r : Reader} (hCr : r.afterCr = false) (hLine : r.line = [])
    (hData : r.dataLines = []) :
    (r.read chatDoneFrame).events = r.events ++ [⟨r.eventType, utf8 "[DONE]"⟩] := by
  rw [chatDoneFrame_eq, Reader.read_dataFrame hCr hLine hData (utf8_ne_lineEnd (by decide))]

theorem gatewayErrorFrame_events (protocol : Protocol) (e : StreamTermination) :
    (({} : Reader).read (gatewayErrorFrame protocol e)).events =
      gatewayEvents protocol (.errorFrame e) := by
  have hBody := utf8_ne_lineEnd (printable_gatewayErrorBody protocol e)
  rw [gatewayErrorFrame_eq]
  cases protocol with
  | openAiChatCompletions =>
    simp only
    rw [Reader.read_append, Reader.read_dataFrame rfl rfl rfl hBody, chatDoneFrame_read rfl rfl rfl]
    rfl
  | openAiResponses | anthropicMessages =>
    have hEvent : utf8 "event: error" = utf8 "event: " ++ utf8 "error" := by decide
    simp only
    rw [Reader.read_append, Reader.read_fieldLine rfl rfl (by decide)
      (utf8_ne_lineEnd (by decide)), hEvent, Reader.field_event]
    rw [Reader.read_dataFrame rfl rfl rfl hBody]
    rfl

theorem gatewayErrorFrame_head (protocol : Protocol) (e : StreamTermination) :
    ∃ b bs, gatewayErrorFrame protocol e = b :: bs ∧ b ≠ lf := by
  have hData : utf8 "data: " = 0x64 :: utf8 "ata: " := by decide
  have hEvent : utf8 "event: error" = 0x65 :: utf8 "vent: error" := by decide
  rw [gatewayErrorFrame_eq]
  cases protocol with
  | openAiChatCompletions =>
    simp only [hData, List.cons_append]
    exact ⟨_, _, rfl, by decide⟩
  | openAiResponses | anthropicMessages =>
    simp only [hEvent, List.cons_append]
    exact ⟨_, _, rfl, by decide⟩

theorem separator_bytes : bytesOf [Chunk.separator] = [lf, lf] := by decide

theorem heartbeat_bytes :
    bytesOf [Chunk.heartbeat] = utf8 ": gateway-heartbeat" ++ [lf, lf] := by decide

/-- No line of the client's open frame is led by a space.  The tracker takes such
a line for metadata where a client sees an unknown field. -/
def NoSpaceLed (chunks : List Chunk) : Prop :=
  ∀ l ∈ (readChunks chunks).openLines, l.head? ≠ some space

instance (chunks : List Chunk) : Decidable (NoSpaceLed chunks) :=
  inferInstanceAs (Decidable (∀ l ∈ (readChunks chunks).openLines, _))

theorem endsFrame_of_separator (chunks : List Chunk) :
    (readChunks (chunks ++ [.separator])).EndsFrame := by
  rw [readChunks_append, separator_bytes]
  exact Reader.endsFrame_of_blankLine (readChunks_sound chunks) []

/-- A tracker that holds no part of a frame stands at the end of the client's. -/
theorem Follows.endsFrame {t : SseEventTracker} {chunks : List Chunk}
    (h : Follows t (readChunks chunks)) (hClean : t.Clean) (hSpace : NoSpaceLed chunks) :
    (readChunks chunks).EndsFrame := by
  constructor
  · cases hCr : (readChunks chunks).afterCr with
    | true => exact h.sound.lineEnded hCr
    | false => rw [h.line hCr, hClean.line]
  · intro l hl
    rcases h.openLed hClean.comment l hl with hColon | hSpaceLed
    · simp [isComment, hColon]
    · exact absurd hSpaceLed (hSpace l hl)

theorem Follows.heartbeat {t : SseEventTracker} (chunks : List Chunk) (hClean : t.Clean) :
    Follows t (readChunks (chunks ++ [.heartbeat])) ∧
      (readChunks (chunks ++ [.heartbeat])).afterCr = false := by
  have hRead : readChunks (chunks ++ [.heartbeat]) =
      ((readChunks chunks).read (utf8 ": gateway-heartbeat")).read [lf, lf] := by
    rw [readChunks_append, heartbeat_bytes, Reader.read_append]
  obtain ⟨hLine, hOpen, hCr⟩ :=
    Reader.read_blankLine ((readChunks_sound chunks).read (utf8 ": gateway-heartbeat"))
  rw [← hRead] at hLine hOpen hCr
  refine ⟨.ofLineEnd (readChunks_sound _) hCr hLine hClean.line ?_, hCr⟩
  rw [hOpen]
  simp

section

variable (parse : String → Option Value)

/-- Whether the end of the body makes the wrapper write a frame of its own. -/
def writesAtEof (protocol : Protocol) (t : SseEventTracker) : Bool :=
  (eofFailure protocol (t.finishEof parse).1).isSome || eofDone protocol (t.finishEof parse).1

/-- A transport error or a timer interrupts the provider's stream. -/
def interrupts : Option Cause → Bool
  | some (.read (some .error)) | some (.timer _) => true
  | _ => false

/-- Where the next pass writes a gateway frame without a separator, the provider's
frame has ended and holds no line led by a space. -/
structure StandsAlone (s : Session) : Prop where
  eof : s.cause = some (.read none) →
    writesAtEof parse s.state.protocol s.state.tracker = true →
      s.state.tracker.safeForHeartbeat = true ∧ NoSpaceLed s.emitted
  interrupted : interrupts s.cause = true →
    s.state.tracker.safeForHeartbeat = true → NoSpaceLed s.emitted

instance (s : Session) : Decidable (StandsAlone parse s) :=
  decidable_of_iff
    ((s.cause = some (.read none) →
      writesAtEof parse s.state.protocol s.state.tracker = true →
        s.state.tracker.safeForHeartbeat = true ∧ NoSpaceLed s.emitted) ∧
      (interrupts s.cause = true →
        s.state.tracker.safeForHeartbeat = true → NoSpaceLed s.emitted))
    ⟨fun h => ⟨h.1, h.2⟩, fun h => ⟨h.eof, h.interrupted⟩⟩

/-- What a run keeps: the tracker follows the client's reader, and each gateway
frame so far came after a complete one. -/
structure Alone (v : View) : Prop where
  eventsLast : EventsLast v
  openStream : v.finished = false → v.tracker.terminal = none
  follows : v.finished = false → Follows v.tracker (readChunks v.emitted)
  lineEnds : v.finished = false → ∃ afterCr,
    ((readChunks v.emitted).afterCr = true → afterCr = true) ∧
      crlfOnly afterCr (upstreamBytes v.upstream)
  frames : ∀ pre c post, v.emitted = pre ++ c :: post → c.origin.carriesEvent = true →
    (readChunks pre).EndsFrame

theorem failureChunks_frames {protocol : Protocol} {t : SseEventTracker} {e : StreamTermination}
    {before : List Chunk} (hAlone : t.safeForHeartbeat = true → (readChunks before).EndsFrame)
    {mid post : List Chunk} {c : Chunk}
    (hSplit : failureChunks protocol t e = mid ++ c :: post) (hEvent : c.origin.carriesEvent = true) :
    (readChunks (before ++ mid)).EndsFrame := by
  unfold failureChunks at hSplit
  split at hSplit
  · rcases mid with _ | ⟨a, _ | ⟨b, mid⟩⟩
    · simp only [List.nil_append, List.cons.injEq] at hSplit
      rw [← hSplit.1] at hEvent
      cases hEvent
    · simp only [List.cons_append, List.nil_append, List.cons.injEq] at hSplit
      rw [← hSplit.1]
      exact endsFrame_of_separator before
    · simp at hSplit
  · rename_i hSafe
    simp only [Bool.or_eq_true, not_or, Bool.not_eq_true, Bool.not_eq_false'] at hSafe
    rcases mid with _ | ⟨a, mid⟩
    · rw [List.append_nil]
      exact hAlone hSafe.1
    · simp at hSplit

/-- The frames one effect writes come after a complete frame, where the pass
meets `StandsAlone`. -/
theorem effect_frames {s : Session} (h : Alone s.view) (hRunning : s.view.finished = false)
    {cause : Cause} (hCause : s.cause = some cause) (hStands : StandsAlone parse s)
    {chunks : List Chunk} {t' : SseEventTracker} {u' : List UpstreamItem} {finished : Bool}
    (hEffect : Effect parse s.state.protocol s.view.tracker s.view.upstream cause chunks t' u'
      finished)
    {mid post : List Chunk} {c : Chunk} (hSplit : chunks = mid ++ c :: post)
    (hEvent : c.origin.carriesEvent = true) :
    (readChunks (s.view.emitted ++ mid)).EndsFrame := by
  have hSafe : s.state.tracker.safeForHeartbeat = true → NoSpaceLed s.emitted →
      (readChunks s.view.emitted).EndsFrame := fun hSafe hSpace =>
    (h.follows hRunning).endsFrame ((SseEventTracker.safeForHeartbeat_iff _).mp hSafe) hSpace
  cases hEffect with
  | wait | skip | eofClosed | withheld => simp at hSplit
  | quiet | reported | heartbeat =>
    rcases mid with _ | ⟨a, mid⟩
    · simp only [List.nil_append, List.cons.injEq] at hSplit
      rw [← hSplit.1] at hEvent
      cases hEvent
    · simp at hSplit
  | limit bytes rest =>
    rcases mid with _ | ⟨a, _ | ⟨b, _ | ⟨d, mid⟩⟩⟩
    · simp only [List.nil_append, List.cons.injEq] at hSplit
      rw [← hSplit.1] at hEvent
      cases hEvent
    · simp only [List.cons_append, List.nil_append, List.cons.injEq] at hSplit
      rw [← hSplit.2.1] at hEvent
      cases hEvent
    · simp only [List.cons_append, List.nil_append, List.cons.injEq] at hSplit
      rw [← hSplit.1, ← hSplit.2.1, ← List.singleton_append, ← List.append_assoc]
      exact endsFrame_of_separator _
    · simp at hSplit
  | transport | timeout =>
    have hAlone := hStands.interrupted (by rw [hCause]; rfl)
    exact failureChunks_frames (fun hs => hSafe hs (hAlone hs)) hSplit hEvent
  | eofDone _ hDone =>
    obtain ⟨hs, hSpace⟩ := hStands.eof hCause (by
      simp only [writesAtEof, Bool.or_eq_true]
      exact .inr hDone)
    rcases mid with _ | ⟨a, mid⟩
    · rw [List.append_nil]
      exact hSafe hs hSpace
    · simp at hSplit
  | eofFailed e _ hFailure =>
    obtain ⟨hs, hSpace⟩ := hStands.eof hCause (by
      simp only [writesAtEof, Bool.or_eq_true]
      exact .inl (Option.isSome_iff_exists.mpr ⟨e, hFailure⟩))
    exact failureChunks_frames (fun _ => hSafe hs hSpace) hSplit hEvent

/-- A gateway chunk has the bytes its origin says. -/
def Genuine (protocol : Protocol) (c : Chunk) : Prop :=
  match c.origin with
  | .provider => True
  | .heartbeat => c = .heartbeat
  | .separator => c = .separator
  | .errorFrame e => c = .errorFrame protocol e
  | .doneFrame => c = .done

theorem failureChunks_genuine (protocol : Protocol) (t : SseEventTracker) (e : StreamTermination) :
    ∀ c ∈ failureChunks protocol t e, Genuine protocol c := by
  unfold failureChunks
  split <;> simp [Genuine, Chunk.separator, Chunk.errorFrame]

theorem effect_genuine {protocol : Protocol} {t t' : SseEventTracker} {u u' : List UpstreamItem}
    {cause : Cause} {chunks : List Chunk} {finished : Bool}
    (h : Effect parse protocol t u cause chunks t' u' finished) :
    ∀ c ∈ chunks, Genuine protocol c := by
  cases h with
  | wait | skip | eofClosed | withheld => simp
  | quiet | reported | heartbeat | eofDone => simp [Genuine, Chunk.heartbeat, Chunk.done]
  | limit => simp [Genuine, Chunk.separator, Chunk.errorFrame]
  | transport | timeout | eofFailed => exact failureChunks_genuine _ _ _

theorem pass_genuine {s : Session} (h : ∀ c ∈ s.emitted, Genuine s.state.protocol c) :
    ∀ c ∈ (s.pass parse).emitted, Genuine (s.pass parse).state.protocol c := by
  rw [Session.pass_protocol]
  cases Session.pass_view parse s with
  | still _ hView =>
    have hEmitted : (s.pass parse).emitted = s.emitted := congrArg View.emitted hView
    rw [hEmitted]
    exact h
  | effect _ _ chunks _ hEmitted hEffect =>
    intro c hc
    have hSplit : (s.pass parse).emitted = s.emitted ++ chunks := hEmitted
    rw [hSplit, List.mem_append] at hc
    exact hc.elim (h c) (effect_genuine parse hEffect c)

/-- One more provider chunk, fed without a report and read by the client. -/
theorem Alone.quiet {v : View} (h : Alone v) (hRunning : v.finished = false) {bytes : Bytes}
    {rest : List UpstreamItem} (hUpstream : v.upstream = .chunk bytes :: rest)
    (hQuiet : ¬(v.tracker.feed parse bytes).2.reports) :
    (v.tracker.feed parse bytes).1.terminal = none ∧
      Follows (v.tracker.feed parse bytes).1 (readChunks (v.emitted ++ [⟨.provider, bytes⟩])) ∧
      ∃ afterCr, ((readChunks (v.emitted ++ [⟨.provider, bytes⟩])).afterCr = true →
        afterCr = true) ∧ crlfOnly afterCr (upstreamBytes rest) := by
  have hTerminal := (SseEventTracker.Agrees.feed parse (h.openStream hRunning) bytes).not_reports
    hQuiet
  obtain ⟨afterCr, hAfter, hEnds⟩ := h.lineEnds hRunning
  have hBytes : upstreamBytes v.upstream = bytes ++ upstreamBytes rest := by
    rw [hUpstream]
    rfl
  rw [hBytes] at hEnds
  have hRead : readChunks (v.emitted ++ [⟨.provider, bytes⟩]) =
      (readChunks v.emitted).read bytes := by
    rw [readChunks_append]
    simp [bytesOf]
  rw [hRead]
  exact ⟨hTerminal, (h.follows hRunning).feed parse bytes hAfter hEnds (by rw [hTerminal]; simp)⟩

theorem pass_alone {s : Session} (h : Alone s.view) (hStands : StandsAlone parse s) :
    Alone (s.pass parse).view := by
  have hLast := pass_eventsLast parse h.eventsLast
  cases Session.pass_view parse s with
  | still _ hView => exact hView ▸ h
  | effect cause hCause chunks hRunning hEmitted hEffect =>
    have hFrames : ∀ pre c post, (s.pass parse).view.emitted = pre ++ c :: post →
        c.origin.carriesEvent = true → (readChunks pre).EndsFrame := by
      intro pre c post hSplit hEvent
      rw [hEmitted] at hSplit
      rcases List.append_eq_append_iff.mp hSplit with ⟨mid, hPre, hChunks⟩ | ⟨mid, hOld, hNew⟩
      · rw [hPre]
        exact effect_frames parse h hRunning hCause hStands hEffect hChunks hEvent
      · cases mid with
        | nil =>
          have hSame : pre = s.view.emitted ++ [] := by simp [hOld]
          rw [hSame]
          exact effect_frames parse h hRunning hCause hStands hEffect
            (by simpa using hNew.symm) hEvent
        | cons d mid =>
          rw [List.cons_append, List.cons.injEq] at hNew
          exact h.frames pre c mid (by rw [hOld, hNew.1]) hEvent
    generalize (s.pass parse).view = v' at hEmitted hEffect hLast hFrames ⊢
    obtain ⟨emitted', t', u', finished'⟩ := v'
    simp only at hEmitted hEffect
    subst hEmitted
    cases hEffect with
    | wait | withheld =>
      simp only [List.append_nil] at hLast hFrames ⊢
      exact ⟨hLast, fun _ => h.openStream hRunning, fun _ => h.follows hRunning,
        fun _ => h.lineEnds hRunning, hFrames⟩
    | skip _ hUpstream =>
      simp only [List.append_nil] at hLast hFrames ⊢
      have hBytes : upstreamBytes s.view.upstream = upstreamBytes u' := by
        rw [hUpstream]
        rfl
      exact ⟨hLast, fun _ => h.openStream hRunning, fun _ => h.follows hRunning,
        fun _ => hBytes ▸ h.lineEnds hRunning, hFrames⟩
    | quiet bytes rest hUpstream hBytes hQuiet =>
      obtain ⟨hTerminal, hFollows, hEnds⟩ := h.quiet parse hRunning hUpstream hQuiet
      exact ⟨hLast, fun _ => hTerminal, fun _ => hFollows, fun _ => hEnds, hFrames⟩
    | heartbeat hSafe =>
      obtain ⟨hFollows, hCr⟩ := Follows.heartbeat s.view.emitted
        ((SseEventTracker.safeForHeartbeat_iff _).mp hSafe)
      obtain ⟨afterCr, -, hEnds⟩ := h.lineEnds hRunning
      refine ⟨hLast, fun _ => h.openStream hRunning, fun _ => hFollows, fun _ => ?_, hFrames⟩
      exact ⟨afterCr, fun hAfter => absurd (hCr.symm.trans hAfter) Bool.false_ne_true, hEnds⟩
    | reported | limit | transport | timeout | eofClosed | eofDone | eofFailed =>
      exact ⟨hLast, by simp, by simp, by simp, hFrames⟩

end

namespace Session

variable (parse : String → Option Value) (upstream : List UpstreamItem) (protocol : Protocol)
  (config : StreamConfig) (requestStarted connectedAt instantMax : Instant) (ticks : List Tick)
  (n : Nat)

theorem run_genuine :
    let s := (wrapNativeBody upstream protocol config requestStarted connectedAt instantMax
      ticks).run parse n
    ∀ c ∈ s.emitted, Genuine s.state.protocol c :=
  run_induction parse (C := fun _ => True)
    (P := fun s => ∀ c ∈ s.emitted, Genuine s.state.protocol c)
    (by simp [wrapNativeBody, emitted, NativeState.new])
    (fun _ h _ => pass_genuine parse h) n fun _ _ => trivial

/-- In a run whose passes all meet `StandsAlone`, every gateway frame that carries
an event follows a complete frame, and the client dispatches for it its own
events and no others. -/
theorem gateway_frames_stand_alone (hLines : crlfOnly false (upstreamBytes upstream))
    (hStands : ∀ k < n, StandsAlone parse
      ((wrapNativeBody upstream protocol config requestStarted connectedAt instantMax
        ticks).run parse k)) :
    let s := (wrapNativeBody upstream protocol config requestStarted connectedAt instantMax
      ticks).run parse n
    ∀ pre c post, s.emitted = pre ++ c :: post → c.origin.carriesEvent = true →
      (readChunks pre).EndsFrame ∧
        (readChunks s.emitted).events =
          (readChunks pre).events ++ gatewayEvents protocol c.origin := by
  intro s pre c post hSplit hEvent
  have hAlone : Alone s.view := by
    refine run_induction parse (P := fun s => Alone s.view) ?_
      (fun _ h hC => pass_alone parse h hC) n hStands
    refine ⟨⟨?_, ?_⟩, fun _ => rfl, fun _ => ?_, fun _ => ⟨false, fun h => h, hLines⟩, ?_⟩
    · simp [wrapNativeBody, view, emitted, NativeState.new]
    · intro pre c post hSplit
      simp [wrapNativeBody, view, emitted, NativeState.new] at hSplit
    · exact .ofLineEnd Reader.sound_empty rfl rfl rfl (by simp [wrapNativeBody, view, emitted,
        NativeState.new, readChunks, bytesOf])
    · intro pre c post hSplit
      simp [wrapNativeBody, view, emitted, NativeState.new] at hSplit
  have hEnds := hAlone.frames pre c post hSplit hEvent
  have hPost := hAlone.eventsLast.last pre c post hSplit hEvent
  have hProtocol : s.state.protocol = protocol := run_protocol parse _ n
  have hGenuine : Genuine protocol c := hProtocol ▸
    run_genuine parse upstream protocol config requestStarted connectedAt instantMax ticks n c
      (by rw [hSplit]; simp)
  refine ⟨hEnds, ?_⟩
  rw [hSplit, hPost, readChunks_append]
  have hSingle : bytesOf [c] = c.bytes := by simp [bytesOf]
  rw [hSingle]
  obtain ⟨origin, bytes⟩ := c
  cases origin with
  | provider | heartbeat | separator => cases hEvent
  | errorFrame e =>
    have hBytes : bytes = gatewayErrorFrame protocol e := congrArg Chunk.bytes hGenuine
    obtain ⟨b, bs, hFrame, hHead⟩ := gatewayErrorFrame_head protocol e
    simp only [hBytes]
    rw [hFrame, hEnds.read_events (readChunks_sound pre) hHead, ← hFrame,
      gatewayErrorFrame_events]
  | doneFrame =>
    have hBytes : bytes = chatDoneFrame := congrArg Chunk.bytes hGenuine
    have hHead : chatDoneFrame = 0x64 :: utf8 "ata: [DONE]\n\n" := by decide
    simp only [hBytes]
    rw [hHead, hEnds.read_events (readChunks_sound pre) (by decide), ← hHead,
      chatDoneFrame_read rfl rfl rfl]
    rfl

/-- A provider frame that ended, then the end of the body: the error frame stands
alone. -/
theorem gateway_frames_stand_alone_after_frame :
    let s := (wrapNativeBody [.chunk (utf8 "data: x\n\n")] .openAiChatCompletions {} 0 0 1000000
      [⟨0, .upstream, 0⟩, ⟨0, .upstream, 0⟩]).run (fun _ => none) 4
    (readChunks s.emitted).events =
      (readChunks [⟨.provider, utf8 "data: x\n\n"⟩]).events ++
        gatewayEvents .openAiChatCompletions (.errorFrame .incompleteStream) := by
  have hRun := gateway_frames_stand_alone (fun _ => none) [.chunk (utf8 "data: x\n\n")]
    .openAiChatCompletions {} 0 0 1000000 [⟨0, .upstream, 0⟩, ⟨0, .upstream, 0⟩] 4
    (by decide) (by decide)
  exact (hRun [⟨.provider, utf8 "data: x\n\n"⟩]
    (.errorFrame .openAiChatCompletions .incompleteStream) [] (by decide +kernel) rfl).2

/-- A provider line without its frame's end, then the end of the body: the error
frame's first line joins the provider's frame. -/
theorem gateway_frame_joins_open_frame :
    let s := (wrapNativeBody [.chunk (utf8 "data: x\n")] .openAiChatCompletions {} 0 0 1000000
      [⟨0, .upstream, 0⟩, ⟨0, .upstream, 0⟩]).run (fun _ => none) 4
    crlfOnly false (upstreamBytes [.chunk (utf8 "data: x\n")]) ∧
      s.sent = [⟨.provider, utf8 "data: x\n"⟩] ++
        Chunk.errorFrame .openAiChatCompletions .incompleteStream :: [] ∧
      ¬(readChunks [⟨.provider, utf8 "data: x\n"⟩]).EndsFrame ∧
      (readChunks s.sent).events ≠
        (readChunks [⟨.provider, utf8 "data: x\n"⟩]).events ++
          gatewayEvents .openAiChatCompletions (.errorFrame .incompleteStream) := by
  decide +kernel

end Session

end AiGateway.Stream
