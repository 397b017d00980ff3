import AiGateway.Proxy.NativeStep

/-!
# Provider bytes pass through untouched

Over every body and every schedule the provider's chunks reach the client
unchanged and in order, and a gateway frame that carries an event is the last
chunk of the stream.
-/

namespace AiGateway.Stream

set_option autoImplicit false

open AiGateway.Json AiGateway.Text

/-- What remains of an output when the gateway's own chunks are deleted. -/
def providerChunks (chunks : List Chunk) : List Bytes :=
  (chunks.filter fun c => c.origin.isProvider).map Chunk.bytes

def nonEmptyChunk : UpstreamItem → Option Bytes
  | .chunk [] => none
  | .chunk bytes => some bytes
  | .error => none

def nonEmptyChunks (items : List UpstreamItem) : List Bytes := items.filterMap nonEmptyChunk

section

variable (parse : String → Option Value)

/-- Whether some chunk's feed reports an error or a terminal. -/
def reportsWithin (t : SseEventTracker) : List Bytes → Prop
  | [] => False
  | c :: cs => (t.feed parse c).2.reports ∨ reportsWithin (t.feed parse c).1 cs

/-- The chunks up to and including the first whose feed reports an error or a
terminal. -/
def admitted (t : SseEventTracker) : List Bytes → List Bytes
  | [] => []
  | c :: cs => if (t.feed parse c).2.reports then [c] else c :: admitted (t.feed parse c).1 cs

def feedAll (t : SseEventTracker) (chunks : List Bytes) : SseEventTracker :=
  chunks.foldl (fun t c => (t.feed parse c).1) t

theorem admitted_snoc {t : SseEventTracker} {cs : List Bytes} (h : ¬reportsWithin parse t cs)
    (c : Bytes) : admitted parse t (cs ++ [c]) = cs ++ [c] := by
  induction cs generalizing t with
  | nil =>
    rw [List.nil_append, admitted]
    split <;> rfl
  | cons d cs ih =>
    simp only [reportsWithin, not_or] at h
    rw [List.cons_append, admitted, if_neg h.1, ih h.2]

theorem reportsWithin_snoc {t : SseEventTracker} {cs : List Bytes} (c : Bytes) :
    reportsWithin parse t (cs ++ [c]) ↔
      reportsWithin parse t cs ∨ ((feedAll parse t cs).feed parse c).2.reports := by
  induction cs generalizing t with
  | nil => simp [reportsWithin, feedAll]
  | cons d cs ih =>
    rw [List.cons_append, reportsWithin, reportsWithin, ih, or_assoc]
    rfl

theorem feedAll_snoc (t : SseEventTracker) (cs : List Bytes) (c : Bytes) :
    feedAll parse t (cs ++ [c]) = ((feedAll parse t cs).feed parse c).1 := by
  simp [feedAll]

end

/-- The only chunk that may carry a gateway event is the last one written, and
then the wrapper has finished. -/
structure EventsLast (v : View) : Prop where
  running : v.finished = false → ∀ c ∈ v.emitted, c.origin.carriesEvent = false
  last : ∀ pre c post, v.emitted = pre ++ c :: post → c.origin.carriesEvent = true → post = []

/-- Why a finished wrapper stopped reading the body. -/
def Stopped (parse : String → Option Value) (taken : List UpstreamItem) (v : View) : Prop :=
  reportsWithin parse {} (nonEmptyChunks taken) ∨ (∃ before, taken = before ++ [.error]) ∨
    v.upstream = [] ∨
    ∃ c ∈ v.emitted, ∃ e : StreamTermination, c.origin = .errorFrame e ∧ e.isTimeout = true

/-- The part of the body taken so far, and what the view owes it.  The reading goes on past
no transport error. -/
structure PassedThrough (parse : String → Option Value) (upstream taken : List UpstreamItem)
    (v : View) : Prop where
  split : upstream = taken ++ v.upstream
  provider : providerChunks v.emitted = nonEmptyChunks taken
  admitted : admitted parse {} (nonEmptyChunks taken) = nonEmptyChunks taken
  tracker : v.finished = false → v.tracker = feedAll parse {} (nonEmptyChunks taken)
  quiet : v.finished = false → ¬reportsWithin parse {} (nonEmptyChunks taken)
  unbroken : v.finished = false → UpstreamItem.error ∉ taken
  errorLast : UpstreamItem.error ∉ taken.dropLast
  stopped : v.finished = true → Stopped parse taken v

section

variable (parse : String → Option Value) {protocol : Protocol}

theorem providerChunks_append (xs ys : List Chunk) :
    providerChunks (xs ++ ys) = providerChunks xs ++ providerChunks ys := by
  simp [providerChunks]

theorem providerChunks_failureChunks (t : SseEventTracker) (e : StreamTermination) :
    providerChunks (failureChunks protocol t e) = [] := by
  unfold failureChunks
  split <;> rfl

theorem errorFrame_mem_failureChunks (t : SseEventTracker) (e : StreamTermination) :
    Chunk.errorFrame protocol e ∈ failureChunks protocol t e := by
  unfold failureChunks
  split <;> simp

theorem nonEmptyChunks_append (xs ys : List UpstreamItem) :
    nonEmptyChunks (xs ++ ys) = nonEmptyChunks xs ++ nonEmptyChunks ys := by
  simp [nonEmptyChunks]

theorem nonEmptyChunks_chunk {bytes : Bytes} (h : bytes ≠ []) :
    nonEmptyChunks [.chunk bytes] = [bytes] := by
  cases bytes with
  | nil => exact absurd rfl h
  | cons b bs => rfl

/-- What one effect appends: chunks whose events, if any, end the stream. -/
theorem effect_events {t t' : SseEventTracker} {u u' : List UpstreamItem} {cause : Cause}
    {chunks : List Chunk} {finished : Bool}
    (h : Effect parse protocol t u cause chunks t' u' finished) :
    (finished = false → ∀ c ∈ chunks, c.origin.carriesEvent = false) ∧
      ∀ pre c post, chunks = pre ++ c :: post → c.origin.carriesEvent = true → post = [] := by
  have hFailure : ∀ (t : SseEventTracker) (e : StreamTermination) (pre : List Chunk) (c : Chunk)
      (post : List Chunk), failureChunks protocol t e = pre ++ c :: post →
        c.origin.carriesEvent = true → post = [] := by
    intro t e pre c post hSplit hEvent
    unfold failureChunks at hSplit
    split at hSplit
    · rcases pre with _ | ⟨a, _ | ⟨b, pre⟩⟩
      · simp only [List.nil_append, List.cons.injEq] at hSplit
        rw [← hSplit.1] at hEvent
        cases hEvent
      · simp_all
      · simp at hSplit
    · rcases pre with _ | ⟨a, pre⟩
      · simp_all
      · simp at hSplit
  cases h with
  | wait | skip | eofClosed | withheld =>
    refine ⟨by simp, ?_⟩
    intro pre c post hSplit
    simp at hSplit
  | quiet | reported | heartbeat =>
    refine ⟨by simp [Origin.carriesEvent, Chunk.heartbeat], ?_⟩
    intro pre c post hSplit hEvent
    rcases pre with _ | ⟨a, pre⟩
    · simp_all
    · simp at hSplit
  | eofDone =>
    refine ⟨by simp, ?_⟩
    intro pre c post hSplit hEvent
    rcases pre with _ | ⟨a, pre⟩
    · simp_all
    · simp at hSplit
  | limit bytes rest =>
    refine ⟨by simp, ?_⟩
    intro pre c post hSplit hEvent
    rcases pre with _ | ⟨a, _ | ⟨b, _ | ⟨d, pre⟩⟩⟩
    · simp only [List.nil_append, List.cons.injEq] at hSplit
      rw [← hSplit.1] at hEvent
      cases hEvent
    · simp only [List.cons_append, List.nil_append, List.cons.injEq] at hSplit
      rw [← hSplit.2.1] at hEvent
      cases hEvent
    · simp_all
    · simp at hSplit
  | transport | timeout | eofFailed => exact ⟨by simp, hFailure _ _⟩

theorem pass_eventsLast {s : Session} (h : EventsLast s.view) :
    EventsLast (s.pass parse).view := by
  cases Session.pass_view parse s with
  | still _ hView => exact hView ▸ h
  | effect cause _ chunks hRunning hEmitted hEffect =>
    obtain ⟨hQuiet, hLast⟩ := effect_events parse hEffect
    have hBefore := h.running hRunning
    constructor
    · intro hFinished c hc
      rw [hEmitted, List.mem_append] at hc
      exact hc.elim (hBefore c) (hQuiet hFinished c)
    · intro pre c post hSplit hEvent
      rw [hEmitted] at hSplit
      rcases List.append_eq_append_iff.mp hSplit with ⟨mid, hPre, hChunks⟩ | ⟨mid, hOld, hNew⟩
      · exact hLast mid c post hChunks hEvent
      · cases mid with
        | nil => exact hLast [] c post (by simpa using hNew.symm) hEvent
        | cons d mid =>
          rw [List.cons_append, List.cons.injEq] at hNew
          have hMem : c ∈ s.view.emitted := by simp [hOld, hNew.1]
          rw [hBefore c hMem] at hEvent
          cases hEvent

/-- Nothing was taken from the body yet. -/
theorem PassedThrough.start {upstream : List UpstreamItem} {v : View}
    (hUpstream : v.upstream = upstream) (hEmitted : v.emitted = []) (hTracker : v.tracker = {})
    (hRunning : v.finished = false) : PassedThrough parse upstream [] v where
  split := by rw [hUpstream, List.nil_append]
  provider := by rw [hEmitted]; rfl
  admitted := rfl
  tracker := fun _ => hTracker
  quiet := fun _ h => h
  unbroken := fun _ => List.not_mem_nil
  errorLast := List.not_mem_nil
  stopped := fun hf => by rw [hRunning] at hf; cases hf

/-- Nothing was taken from the body, and no provider chunk was written. -/
theorem PassedThrough.keep {upstream taken : List UpstreamItem} {v v' : View}
    (h : PassedThrough parse upstream taken v) (hRunning : v.finished = false)
    (chunks : List Chunk) (hEmitted : v'.emitted = v.emitted ++ chunks)
    (hProvider : providerChunks chunks = []) (hUpstream : v'.upstream = v.upstream)
    (hTracker : v'.finished = false → v'.tracker = v.tracker)
    (hStopped : v'.finished = true → Stopped parse taken v') :
    PassedThrough parse upstream taken v' where
  split := by rw [hUpstream]; exact h.split
  provider := by rw [hEmitted, providerChunks_append, hProvider, List.append_nil, h.provider]
  admitted := h.admitted
  tracker := fun hf => by rw [hTracker hf, h.tracker hRunning]
  quiet := fun _ => h.quiet hRunning
  unbroken := fun _ => h.unbroken hRunning
  errorLast := h.errorLast
  stopped := hStopped

/-- An item taken by a wrapper that was still running follows no transport error. -/
theorem PassedThrough.snoc_unbroken {upstream taken : List UpstreamItem} {v v' : View}
    (h : PassedThrough parse upstream taken v) (hRunning : v.finished = false)
    (item : UpstreamItem) (hOn : v'.finished = false → item ≠ .error) :
    (v'.finished = false → UpstreamItem.error ∉ taken ++ [item]) ∧
      UpstreamItem.error ∉ (taken ++ [item]).dropLast := by
  have hBefore := h.unbroken hRunning
  constructor
  · intro hf
    rw [List.mem_append, List.mem_singleton]
    exact fun hMem => hMem.elim hBefore fun hItem => hOn hf hItem.symm
  · rw [List.dropLast_concat]
    exact hBefore

/-- An item that holds no provider bytes was taken from the body. -/
theorem PassedThrough.drop {upstream taken : List UpstreamItem} {v v' : View}
    (h : PassedThrough parse upstream taken v) (hRunning : v.finished = false)
    (item : UpstreamItem) (hItem : nonEmptyChunks [item] = []) (chunks : List Chunk)
    (hEmitted : v'.emitted = v.emitted ++ chunks) (hProvider : providerChunks chunks = [])
    (hUpstream : v.upstream = item :: v'.upstream) (hTracker : v'.tracker = v.tracker)
    (hOn : v'.finished = false → item ≠ .error)
    (hStopped : v'.finished = true → Stopped parse (taken ++ [item]) v') :
    PassedThrough parse upstream (taken ++ [item]) v' := by
  obtain ⟨hUnbroken, hLast⟩ := h.snoc_unbroken parse hRunning item hOn
  have hTaken : nonEmptyChunks (taken ++ [item]) = nonEmptyChunks taken := by
    rw [nonEmptyChunks_append, hItem, List.append_nil]
  constructor
  · rw [h.split, hUpstream, List.append_assoc, List.singleton_append]
  · rw [hEmitted, providerChunks_append, hProvider, List.append_nil, h.provider, hTaken]
  · rw [hTaken]
    exact h.admitted
  · intro _
    rw [hTracker, hTaken]
    exact h.tracker hRunning
  · intro _
    rw [hTaken]
    exact h.quiet hRunning
  · exact hUnbroken
  · exact hLast
  · exact hStopped

/-- A provider chunk was taken from the body and written. -/
theorem PassedThrough.forward {upstream taken : List UpstreamItem} {v v' : View}
    (h : PassedThrough parse upstream taken v) (hRunning : v.finished = false)
    (bytes : Bytes) (hBytes : bytes ≠ []) (chunks : List Chunk)
    (hEmitted : v'.emitted = v.emitted ++ chunks) (hProvider : providerChunks chunks = [bytes])
    (hUpstream : v.upstream = .chunk bytes :: v'.upstream)
    (hTracker : v'.tracker = (v.tracker.feed parse bytes).1)
    (hFinished : v'.finished = true ↔ (v.tracker.feed parse bytes).2.reports) :
    PassedThrough parse upstream (taken ++ [.chunk bytes]) v' := by
  obtain ⟨hUnbroken, hLast⟩ :=
    @snoc_unbroken parse _ _ _ v' h hRunning (.chunk bytes) fun _ => nofun
  have hTaken : nonEmptyChunks (taken ++ [.chunk bytes]) = nonEmptyChunks taken ++ [bytes] := by
    rw [nonEmptyChunks_append, nonEmptyChunks_chunk hBytes]
  have hReports : reportsWithin parse {} (nonEmptyChunks (taken ++ [.chunk bytes])) ↔
      v'.finished = true := by
    rw [hTaken, reportsWithin_snoc, ← h.tracker hRunning, hFinished]
    exact or_iff_right (h.quiet hRunning)
  constructor
  · rw [h.split, hUpstream, List.append_assoc, List.singleton_append]
  · rw [hEmitted, providerChunks_append, hProvider, h.provider, hTaken]
  · rw [hTaken]
    exact admitted_snoc parse (h.quiet hRunning) bytes
  · intro _
    rw [hTracker, hTaken, feedAll_snoc, ← h.tracker hRunning]
  · intro hFinished'
    rw [hReports, hFinished']
    exact Bool.false_ne_true
  · exact hUnbroken
  · exact hLast
  · exact fun hFinished' => .inl (hReports.mpr hFinished')

theorem pass_passedThrough {s : Session} {upstream : List UpstreamItem}
    (h : ∃ taken, PassedThrough parse upstream taken s.view) :
    ∃ taken, PassedThrough parse upstream taken (s.pass parse).view := by
  obtain ⟨taken, h⟩ := h
  cases Session.pass_view parse s with
  | still _ hView => exact ⟨taken, hView ▸ h⟩
  | effect cause _ chunks hRunning hEmitted hEffect =>
    generalize (s.pass parse).view = v' at hEmitted hEffect ⊢
    obtain ⟨emitted', t', u', finished'⟩ := v'
    simp only at hEmitted hEffect
    cases hEffect with
    | wait => exact ⟨taken, h.keep parse hRunning _ hEmitted rfl rfl (fun _ => rfl) (by simp)⟩
    | withheld => exact ⟨taken, h.keep parse hRunning _ hEmitted rfl rfl (fun _ => rfl) (by simp)⟩
    | heartbeat => exact ⟨taken, h.keep parse hRunning _ hEmitted rfl rfl (fun _ => rfl) (by simp)⟩
    | skip rest hUpstream =>
      exact ⟨_, h.drop parse hRunning _ rfl _ hEmitted rfl hUpstream rfl (fun _ => nofun) (by simp)⟩
    | quiet bytes rest hUpstream hBytes hQuiet =>
      exact ⟨_, h.forward parse hRunning bytes hBytes _ hEmitted rfl hUpstream rfl (by simp [hQuiet])⟩
    | reported bytes rest hUpstream hBytes hReports =>
      exact ⟨_, h.forward parse hRunning bytes hBytes _ hEmitted rfl hUpstream rfl
        (by simp [hReports])⟩
    | limit bytes rest hUpstream hBytes hTerminal =>
      have hReports : (s.view.tracker.feed parse bytes).2.reports := .inr (by rw [hTerminal]; rfl)
      exact ⟨_, h.forward parse hRunning bytes hBytes _ hEmitted rfl hUpstream rfl
        (by simp [hReports])⟩
    | transport rest hUpstream =>
      exact ⟨_, h.drop parse hRunning _ rfl _ hEmitted (providerChunks_failureChunks _ _) hUpstream
        rfl nofun fun _ => .inr (.inl ⟨taken, rfl⟩)⟩
    | timeout e hTimeout =>
      refine ⟨taken, h.keep parse hRunning _ hEmitted (providerChunks_failureChunks _ _) rfl
        (by simp) fun _ => ?_⟩
      have hMem : Chunk.errorFrame s.state.protocol e ∈ emitted' := by
        rw [hEmitted]
        exact List.mem_append_right _ (errorFrame_mem_failureChunks _ _)
      exact .inr (.inr (.inr ⟨_, hMem, e, rfl, hTimeout⟩))
    | eofClosed hUpstream =>
      exact ⟨taken, h.keep parse hRunning _ hEmitted rfl hUpstream.symm (by simp)
        fun _ => .inr (.inr (.inl rfl))⟩
    | eofDone hUpstream =>
      exact ⟨taken, h.keep parse hRunning _ hEmitted rfl hUpstream.symm (by simp)
        fun _ => .inr (.inr (.inl rfl))⟩
    | eofFailed e hUpstream =>
      exact ⟨taken, h.keep parse hRunning _ hEmitted (providerChunks_failureChunks _ _)
        hUpstream.symm (by simp) fun _ => .inr (.inr (.inl rfl))⟩

end

/-- At most one gateway error frame, never together with the added `[DONE]`, and
nothing after either. -/
structure GatewayFramesEnd (chunks : List Chunk) : Prop where
  oneErrorFrame : (chunks.filter fun c => c.origin.isErrorFrame).length ≤ 1
  exclusive : ¬((∃ c ∈ chunks, c.origin.isErrorFrame = true) ∧ ∃ c ∈ chunks, c.origin = .doneFrame)
  nothingAfter : ∀ pre c post, chunks = pre ++ c :: post → c.origin.carriesEvent = true → post = []

/-- The client's side of a session: the gateway's frames close the stream, and
everything else is the part of the body `taken` so far, in which nothing follows a
transport error. -/
structure PassesThrough (parse : String → Option Value) (upstream : List UpstreamItem)
    (s : Session) : Prop where
  gatewayFrames : GatewayFramesEnd s.emitted
  provider : ∃ taken, upstream = taken ++ s.state.upstream ∧
    providerChunks s.sent ++ providerChunks s.state.pending = nonEmptyChunks taken ∧
    admitted parse {} (nonEmptyChunks taken) = nonEmptyChunks taken ∧
    UpstreamItem.error ∉ taken.dropLast ∧
    (s.ended = true → s.state.pending = [] ∧ Stopped parse taken s.view)

theorem carriesEvent_of_isErrorFrame {o : Origin} (h : o.isErrorFrame = true) :
    o.carriesEvent = true := by
  cases o <;> first | rfl | cases h

theorem gatewayFramesEnd_of_last {chunks : List Chunk}
    (h : ∀ pre c post, chunks = pre ++ c :: post → c.origin.carriesEvent = true → post = []) :
    GatewayFramesEnd chunks := by
  -- every chunk that carries an event is the last one
  have hLast : ∀ c ∈ chunks, c.origin.carriesEvent = true → ∃ pre, chunks = pre ++ [c] := by
    intro c hc hEvent
    obtain ⟨pre, post, hSplit⟩ := List.append_of_mem hc
    exact ⟨pre, by rw [hSplit, h pre c post hSplit hEvent]⟩
  have hUnique : ∀ c ∈ chunks, ∀ d ∈ chunks, c.origin.carriesEvent = true →
      d.origin.carriesEvent = true → c = d := by
    intro c hc d hd hC hD
    obtain ⟨pre, hPre⟩ := hLast c hc hC
    obtain ⟨pre', hPre'⟩ := hLast d hd hD
    have hSame : pre ++ [c] = pre' ++ [d] := hPre.symm.trans hPre'
    simpa using (List.append_inj' hSame rfl).2
  refine ⟨?_, ?_, h⟩
  · by_contra hMany
    obtain ⟨pre, hPre⟩ : ∃ pre c, chunks = pre ++ [c] := by
      obtain ⟨c, hc⟩ := List.exists_mem_of_length_pos
        (Nat.lt_trans Nat.zero_lt_one (Nat.lt_of_not_le hMany))
      rw [List.mem_filter] at hc
      obtain ⟨pre, hPre⟩ := hLast c hc.1 (carriesEvent_of_isErrorFrame hc.2)
      exact ⟨pre, c, hPre⟩
    obtain ⟨c, hc⟩ := hPre
    have hNone : pre.filter (fun c => c.origin.isErrorFrame) = [] := by
      rw [List.filter_eq_nil_iff]
      intro d hd hError
      obtain ⟨left, right, hSplit⟩ := List.append_of_mem hd
      have hAfter := h left d (right ++ [c]) (by rw [hc, hSplit]; simp)
        (carriesEvent_of_isErrorFrame hError)
      simp at hAfter
    rw [hc, List.filter_append, hNone, List.nil_append] at hMany
    exact hMany (List.length_filter_le _ _)
  · rintro ⟨⟨c, hc, hError⟩, d, hd, hDone⟩
    have hSame := hUnique c hc d hd (carriesEvent_of_isErrorFrame hError) (by rw [hDone]; rfl)
    rw [hSame, hDone] at hError
    cases hError

namespace Session

variable (parse : String → Option Value)

/-- The body ends only once everything written was read. -/
theorem pass_closed {s : Session}
    (h : (s.state.done = true → s.ended = true) ∧
      (s.ended = true → s.state.pending = [] ∧ s.state.finishAfterPending = true)) :
    ((s.pass parse).state.done = true → (s.pass parse).ended = true) ∧
      ((s.pass parse).ended = true →
        (s.pass parse).state.pending = [] ∧ (s.pass parse).state.finishAfterPending = true) := by
  unfold pass
  split
  · exact h
  · rename_i hEnded
    have hDone : s.state.done = false := by
      cases hd : s.state.done with
      | false => rfl
      | true => exact absurd (h.1 hd) hEnded
    split
    · exact ⟨fun hd => by simp [hDone] at hd, fun he => absurd he hEnded⟩
    · rename_i hPending
      split
      · rename_i hFinished
        exact ⟨fun _ => rfl, fun _ => ⟨hPending, by simpa [hDone] using hFinished⟩⟩
      · rename_i hFinished
        simp only [Bool.or_eq_true, not_or, Bool.not_eq_true] at hFinished
        split
        · exact h
        · refine ⟨fun hd => ?_, fun he => absurd he hEnded⟩
          rw [(NativeState.after_poll parse hPending hFinished.2 _).done, hDone] at hd
          cases hd

variable (upstream : List UpstreamItem) (protocol : Protocol) (config : StreamConfig)
  (requestStarted connectedAt instantMax : Instant) (ticks : List Tick) (n : Nat)

theorem run_closed :
    let s := (wrapNativeBody upstream protocol config requestStarted connectedAt instantMax
      ticks).run parse n
    s.ended = true → s.state.pending = [] ∧ s.state.finishAfterPending = true :=
  (run_induction parse (C := fun _ => True)
    (P := fun s => (s.state.done = true → s.ended = true) ∧
      (s.ended = true → s.state.pending = [] ∧ s.state.finishAfterPending = true))
    ⟨by simp [wrapNativeBody, NativeState.new], by simp [wrapNativeBody]⟩
    (fun _ h _ => pass_closed parse h) n fun _ _ => trivial).2

theorem run_passedThrough :
    ∃ taken, PassedThrough parse upstream taken
      ((wrapNativeBody upstream protocol config requestStarted connectedAt instantMax
        ticks).run parse n).view := by
  refine run_induction parse (C := fun _ => True)
    (P := fun s => ∃ taken, PassedThrough parse upstream taken s.view) ?_
    (fun _ h _ => pass_passedThrough parse h) n fun _ _ => trivial
  exact ⟨[], .start parse rfl rfl rfl rfl⟩

theorem run_eventsLast :
    EventsLast ((wrapNativeBody upstream protocol config requestStarted connectedAt instantMax
      ticks).run parse n).view := by
  refine run_induction parse (C := fun _ => True) (P := fun s => EventsLast s.view) ?_
    (fun _ h _ => pass_eventsLast parse h) n fun _ _ => trivial
  refine ⟨by simp [wrapNativeBody, view, emitted, NativeState.new], ?_⟩
  intro pre c post hSplit
  simp [wrapNativeBody, view, emitted, NativeState.new] at hSplit

/-- Deleting the gateway's chunks from what the client was sent, or still has
pending, leaves the non-empty provider chunks taken from the body, none of which
but the last reported an error or a terminal, and none of which comes after a
transport error.  When the body ends nothing is pending, and either such a chunk, a
transport error, the end of the provider's body or a timer stopped the reading. -/
theorem provider_bytes_pass_through :
    PassesThrough parse upstream
      ((wrapNativeBody upstream protocol config requestStarted connectedAt instantMax
        ticks).run parse n) := by
  refine ⟨gatewayFramesEnd_of_last
    (run_eventsLast parse upstream protocol config requestStarted connectedAt instantMax ticks
      n).last, ?_⟩
  obtain ⟨taken, h⟩ :=
    run_passedThrough parse upstream protocol config requestStarted connectedAt instantMax ticks n
  refine ⟨taken, h.split, ?_, h.admitted, h.errorLast, fun hEnded => ?_⟩
  · rw [← providerChunks_append]
    exact h.provider
  · obtain ⟨hPending, hFinished⟩ := run_closed parse upstream protocol config requestStarted
      connectedAt instantMax ticks n hEnded
    exact ⟨hPending, h.stopped hFinished⟩

end Session

end AiGateway.Stream
