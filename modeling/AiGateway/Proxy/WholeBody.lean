import AiGateway.Proxy.Passthrough

/-!
# Bodies that pass whole

What a session writes for a body that ends without an error and in time: the chunks up to
the first that makes the wrapper stop, the heartbeats that fall due, and the frames that
the gateway closes the body with.
-/

namespace AiGateway.Stream

set_option autoImplicit false

open AiGateway.Json AiGateway.Text

/-- A frame that the gateway closes a body with. -/
def Origin.closes : Origin → Bool
  | .separator | .errorFrame _ | .doneFrame => true
  | .provider | .heartbeat => false

def closingChunks (chunks : List Chunk) : List Chunk := chunks.filter fun c => c.origin.closes

def bodyBytes (items : List UpstreamItem) : Bytes := (nonEmptyChunks items).flatten

section

variable (parse : String → Option Value) (protocol : Protocol)

def eofChunks (t : SseEventTracker) : List Chunk :=
  if eofDone protocol t then [.done]
  else
    match eofFailure protocol t with
    | some termination => failureChunks protocol t termination
    | none => []

/-- The frames the gateway closes a body with. -/
def closing (t : SseEventTracker) : List Bytes → List Chunk
  | [] => eofChunks protocol (t.finishEof parse).1
  | c :: cs =>
    let r := t.feed parse c
    if r.2.reports then
      if r.2.terminal = some .bufferLimitExceeded then
        [.separator, .errorFrame protocol .bufferLimitExceeded]
      else []
    else closing r.1 cs

/-- No chunk but the last makes the wrapper stop, the last does not exceed its limits, and
the end of the body asks for no frame. -/
def PassesWhole (t : SseEventTracker) : List Bytes → Prop
  | [] =>
    let t' := (t.finishEof parse).1
    eofFailure protocol t' = none ∧ eofDone protocol t' = false
  | c :: cs =>
    let r := t.feed parse c
    if r.2.reports then cs = [] ∧ r.2.terminal ≠ some .bufferLimitExceeded
    else PassesWhole r.1 cs

theorem failureChunks_ne_nil (t : SseEventTracker) (e : StreamTermination) :
    failureChunks protocol t e ≠ [] := by
  intro h
  have hMem : Chunk.errorFrame protocol e ∈ failureChunks protocol t e :=
    errorFrame_mem_failureChunks t e
  rw [h] at hMem
  cases hMem

theorem eofChunks_eq_nil_iff (t : SseEventTracker) :
    eofChunks protocol t = [] ↔ eofFailure protocol t = none ∧ eofDone protocol t = false := by
  unfold eofChunks
  cases hDone : eofDone protocol t with
  | true => simp
  | false =>
    cases hFailure : eofFailure protocol t with
    | none => simp
    | some e => simpa using failureChunks_ne_nil protocol t e

theorem admitted_sublist (t : SseEventTracker) (cs : List Bytes) :
    ∃ rest, cs = admitted parse t cs ++ rest := by
  induction cs generalizing t with
  | nil => exact ⟨[], rfl⟩
  | cons c cs ih =>
    rw [admitted]
    split
    · exact ⟨cs, rfl⟩
    · obtain ⟨rest, hRest⟩ := ih (t.feed parse c).1
      exact ⟨rest, by rw [List.cons_append, ← hRest]⟩

theorem passesWhole_iff (t : SseEventTracker) (cs : List Bytes) :
    PassesWhole parse protocol t cs ↔
      closing parse protocol t cs = [] ∧ admitted parse t cs = cs := by
  induction cs generalizing t with
  | nil => simp only [PassesWhole, closing, admitted, eofChunks_eq_nil_iff, and_true]
  | cons c cs ih =>
    simp only [PassesWhole, closing, admitted]
    split
    · next hReports =>
      constructor
      · rintro ⟨rfl, hTerminal⟩
        exact ⟨if_neg hTerminal, rfl⟩
      · rintro ⟨hClosing, hAll⟩
        refine ⟨(List.cons.inj hAll).2.symm, ?_⟩
        intro hTerminal
        rw [if_pos hTerminal] at hClosing
        cases hClosing
    · rw [ih, List.cons.injEq, eq_self_iff_true, true_and]

/-! ## What a view still owes -/

def owed (v : View) : List Bytes :=
  if v.finished then [] else admitted parse v.tracker (nonEmptyChunks v.upstream)

def owedClosing (v : View) : List Chunk :=
  if v.finished then [] else closing parse protocol v.tracker (nonEmptyChunks v.upstream)

/-- What was written together with what is owed is settled by the body. -/
structure Relays (chunks : List Bytes) (v : View) : Prop where
  provider : providerChunks v.emitted ++ owed parse v = admitted parse {} chunks
  closes : closingChunks v.emitted ++ owedClosing parse protocol v =
    closing parse protocol {} chunks
  noError : .error ∉ v.upstream

theorem closingChunks_failureChunks (t : SseEventTracker) (e : StreamTermination) :
    closingChunks (failureChunks protocol t e) = failureChunks protocol t e := by
  unfold failureChunks
  split <;> rfl

theorem nonEmptyChunks_cons {bytes : Bytes} (h : bytes ≠ []) (rest : List UpstreamItem) :
    nonEmptyChunks (.chunk bytes :: rest) = bytes :: nonEmptyChunks rest := by
  cases bytes with
  | nil => exact absurd rfl h
  | cons b bs => rfl

variable {parse protocol}

theorem effect_owed {t t' : SseEventTracker} {u u' : List UpstreamItem} {cause : Cause}
    {chunks : List Chunk} {finished : Bool}
    (h : Effect parse protocol t u cause chunks t' u' finished)
    (hTimer : ∀ e, cause ≠ .timer e) (hError : .error ∉ u) (emitted emitted' : List Chunk) :
    providerChunks chunks ++ owed parse ⟨emitted', t', u', finished⟩ =
        owed parse ⟨emitted, t, u, false⟩ ∧
      closingChunks chunks ++ owedClosing parse protocol ⟨emitted', t', u', finished⟩ =
        owedClosing parse protocol ⟨emitted, t, u, false⟩ ∧
      .error ∉ u' := by
  cases h with
  | wait => exact ⟨rfl, rfl, hError⟩
  | withheld => exact ⟨rfl, rfl, hError⟩
  | heartbeat => exact ⟨rfl, rfl, hError⟩
  | skip rest hUpstream =>
    subst hUpstream
    exact ⟨rfl, rfl, fun hMem => hError (List.mem_cons_of_mem _ hMem)⟩
  | quiet bytes rest hUpstream hBytes hQuiet =>
    subst hUpstream
    refine ⟨?_, ?_, fun hMem => hError (List.mem_cons_of_mem _ hMem)⟩
    · simp only [owed, nonEmptyChunks_cons hBytes, admitted, if_neg hQuiet]
      rfl
    · simp only [owedClosing, nonEmptyChunks_cons hBytes, closing, if_neg hQuiet]
      rfl
  | reported bytes rest hUpstream hBytes hReports hTerminal =>
    subst hUpstream
    refine ⟨?_, ?_, fun hMem => hError (List.mem_cons_of_mem _ hMem)⟩
    · simp only [owed, nonEmptyChunks_cons hBytes, admitted, if_pos hReports]
      rfl
    · simp only [owedClosing, nonEmptyChunks_cons hBytes, closing, if_pos hReports,
        if_neg hTerminal]
      rfl
  | limit bytes rest hUpstream hBytes hTerminal =>
    subst hUpstream
    have hReports : (t.feed parse bytes).2.reports := .inr (by rw [hTerminal]; rfl)
    refine ⟨?_, ?_, fun hMem => hError (List.mem_cons_of_mem _ hMem)⟩
    · simp only [owed, nonEmptyChunks_cons hBytes, admitted, if_pos hReports]
      rfl
    · simp only [owedClosing, nonEmptyChunks_cons hBytes, closing, if_pos hReports,
        if_pos hTerminal]
      rfl
  | transport rest hUpstream => exact absurd (hUpstream ▸ List.mem_cons_self) hError
  | timeout e => exact absurd rfl (hTimer e)
  | eofClosed hUpstream hFailure hDone =>
    subst hUpstream
    have hNone := (eofChunks_eq_nil_iff protocol (t.finishEof parse).1).mpr ⟨hFailure, hDone⟩
    exact ⟨rfl, hNone.symm, hError⟩
  | eofDone hUpstream hDone =>
    subst hUpstream
    have hChunks : eofChunks protocol (t.finishEof parse).1 = [.done] := if_pos hDone
    exact ⟨rfl, hChunks.symm, hError⟩
  | eofFailed e hUpstream hFailure =>
    subst hUpstream
    have hDone : eofDone protocol (t.finishEof parse).1 = false := by
      cases hDone : eofDone protocol (t.finishEof parse).1 with
      | false => rfl
      | true =>
        unfold eofFailure at hFailure
        unfold eofDone at hDone
        simp_all
    have hChunks : eofChunks protocol (t.finishEof parse).1 =
        failureChunks protocol (t.finishEof parse).1 e := by
      rw [eofChunks, if_neg (by simp [hDone]), hFailure]
    refine ⟨?_, ?_, hError⟩
    · rw [providerChunks_failureChunks]
      rfl
    · rw [closingChunks_failureChunks, ← hChunks]
      exact List.append_nil _

/-- An effect beats only when a heartbeat falls due between two frames. -/
theorem effect_heartbeat {t t' : SseEventTracker} {u u' : List UpstreamItem} {cause : Cause}
    {chunks : List Chunk} {finished : Bool}
    (h : Effect parse protocol t u cause chunks t' u' finished) :
    (∃ c ∈ chunks, c.origin = .heartbeat) ↔ cause = .heartbeat ∧ t.safeForHeartbeat = true := by
  have hFailure : ∀ (t : SseEventTracker) (e : StreamTermination),
      ¬∃ c ∈ failureChunks protocol t e, c.origin = .heartbeat := by
    rintro t e ⟨c, hc, hOrigin⟩
    unfold failureChunks at hc
    split at hc
    · rcases List.mem_cons.mp hc with rfl | hc
      · cases hOrigin
      · rw [List.mem_singleton.mp hc] at hOrigin
        cases hOrigin
    · rw [List.mem_singleton.mp hc] at hOrigin
      cases hOrigin
  cases h with
  | wait | skip | eofClosed => simp
  | withheld hUnsafe => simp [hUnsafe]
  | heartbeat hSafe => simp [hSafe, Chunk.heartbeat]
  | quiet | reported => simp
  | limit => simp [Chunk.separator, Chunk.errorFrame]
  | eofDone => simp [Chunk.done]
  | transport | timeout | eofFailed => simp [hFailure]

theorem effect_upstream {t t' : SseEventTracker} {u u' : List UpstreamItem} {cause : Cause}
    {chunks : List Chunk} {finished : Bool}
    (h : Effect parse protocol t u cause chunks t' u' finished) :
    chunks.length ≤ 3 ∧
      (finished = true ∨ (u' = u ∧ ∀ item, cause ≠ .read item) ∨ u.length = u'.length + 1) := by
  have hFailure : ∀ (t : SseEventTracker) (e : StreamTermination),
      (failureChunks protocol t e).length ≤ 3 := by
    intro t e
    unfold failureChunks
    split
    · exact Nat.le_succ 2
    · exact Nat.le_of_ble_eq_true rfl
  cases h with
  | wait | withheld | heartbeat => exact ⟨by simp, .inr (.inl ⟨rfl, by simp⟩)⟩
  | skip rest hUpstream => exact ⟨by simp, .inr (.inr (by rw [hUpstream]; rfl))⟩
  | quiet bytes rest hUpstream => exact ⟨by simp, .inr (.inr (by rw [hUpstream]; rfl))⟩
  | reported | limit | eofClosed | eofDone => exact ⟨by simp, .inl rfl⟩
  | transport | timeout | eofFailed => exact ⟨hFailure _ _, .inl rfl⟩

theorem nil_not_mem_nonEmptyChunks (items : List UpstreamItem) : [] ∉ nonEmptyChunks items := by
  intro hMem
  obtain ⟨item, _, hItem⟩ := List.mem_filterMap.mp hMem
  match item with
  | .chunk [] => cases hItem
  | .chunk (b :: bs) => cases hItem
  | .error => cases hItem

theorem flatten_admitted_iff {cs : List Bytes} (h : [] ∉ cs) (t : SseEventTracker) :
    (admitted parse t cs).flatten = cs.flatten ↔ admitted parse t cs = cs := by
  obtain ⟨rest, hRest⟩ := admitted_sublist parse t cs
  constructor
  · intro hBytes
    cases rest with
    | nil => rw [List.append_nil] at hRest; exact hRest.symm
    | cons c rest =>
      have hSplit := congrArg List.flatten hRest
      rw [← hBytes, List.flatten_append] at hSplit
      have hRestEmpty : (c :: rest).flatten = [] := List.self_eq_append_right.mp hSplit
      rw [List.flatten_cons, List.append_eq_nil_iff] at hRestEmpty
      have hMem : c ∈ cs := hRest ▸ List.mem_append_right _ List.mem_cons_self
      exact absurd (hRestEmpty.1 ▸ hMem) h
  · intro hSame
    rw [hSame]

theorem all_provider_iff (chunks : List Chunk) :
    (∀ c ∈ chunks, c.origin = .provider) ↔
      (¬∃ c ∈ chunks, c.origin = .heartbeat) ∧ closingChunks chunks = [] := by
  rw [closingChunks, List.filter_eq_nil_iff]
  constructor
  · intro h
    refine ⟨?_, ?_⟩
    · rintro ⟨c, hc, hBeat⟩
      rw [h c hc] at hBeat
      cases hBeat
    · intro c hc
      rw [h c hc]
      exact Bool.false_ne_true
  · rintro ⟨hBeat, hCloses⟩ c hc
    cases hOrigin : c.origin with
    | provider => rfl
    | heartbeat => exact absurd ⟨c, hc, hOrigin⟩ hBeat
    | separator => exact absurd (by rw [hOrigin]; rfl) (hCloses c hc)
    | errorFrame e => exact absurd (by rw [hOrigin]; rfl) (hCloses c hc)
    | doneFrame => exact absurd (by rw [hOrigin]; rfl) (hCloses c hc)

theorem bytesOf_of_provider {chunks : List Chunk} (h : ∀ c ∈ chunks, c.origin = .provider) :
    bytesOf chunks = (providerChunks chunks).flatten := by
  have hAll : chunks.filter (fun c => c.origin.isProvider) = chunks := by
    apply List.filter_eq_self.mpr
    intro c hc
    rw [h c hc]
    rfl
  rw [providerChunks, hAll, bytesOf, List.flatMap_def]

end

theorem NativeState.cause_of_upstream (st : NativeState) {tick : Tick}
    (h : tick.branch = .upstream) :
    (∃ e, st.cause tick = .timer e) ∨ st.cause tick = .read st.upstream.head? := by
  unfold cause
  split
  · exact .inl ⟨_, rfl⟩
  · split
    · exact .inl ⟨_, rfl⟩
    · split
      · exact .inl ⟨_, rfl⟩
      · rw [h]
        exact .inr rfl

namespace Session

variable {parse : String → Option Value} {protocol : Protocol}

/-- No timer of the wrapper goes off. -/
def InTime (parse : String → Option Value) (s : Session) : Prop :=
  ∀ k e, (s.run parse k).cause ≠ some (.timer e)

theorem pass_relays {s : Session} {chunks : List Bytes} (hProtocol : s.state.protocol = protocol)
    (hTimer : ∀ e, s.cause ≠ some (.timer e)) (h : Relays parse protocol chunks s.view) :
    Relays parse protocol chunks (s.pass parse).view := by
  cases pass_view parse s with
  | still _ hView => exact hView ▸ h
  | effect cause hCause written hRunning hEmitted hEffect =>
    subst hProtocol
    have hNoTimer : ∀ e, cause ≠ .timer e := fun e hSame => hTimer e (hSame ▸ hCause)
    obtain ⟨hProvider, hCloses, hError⟩ := effect_owed hEffect hNoTimer h.noError s.view.emitted
      (s.pass parse).view.emitted
    have hView : (⟨s.view.emitted, s.view.tracker, s.view.upstream, false⟩ : View) = s.view := by
      rw [← hRunning]
    rw [hView] at hProvider hCloses
    constructor
    · rw [hEmitted, providerChunks_append, List.append_assoc, hProvider]
      exact h.provider
    · rw [hEmitted, closingChunks, List.filter_append, List.append_assoc]
      exact (congrArg _ hCloses).trans h.closes
    · exact hError

theorem run_relays {s : Session} {chunks : List Bytes} (hProtocol : s.state.protocol = protocol)
    (hTime : s.InTime parse) (h : Relays parse protocol chunks s.view) (n : Nat) :
    Relays parse protocol chunks (s.run parse n).view := by
  induction n with
  | zero => exact h
  | succ n ih => exact pass_relays ((run_protocol parse s n).trans hProtocol) (hTime n) ih

/-- A heartbeat was written just when one fell due between two frames. -/
theorem run_heartbeat {s : Session} (hStart : s.emitted = []) (n : Nat) :
    (∃ c ∈ (s.run parse n).emitted, c.origin = .heartbeat) ↔
      ∃ k < n, (s.run parse k).cause = some .heartbeat ∧
        (s.run parse k).state.tracker.safeForHeartbeat = true := by
  induction n with
  | zero =>
    rw [run, hStart]
    simp
  | succ n ih =>
    have hSplit : (∃ k < n + 1, (s.run parse k).cause = some .heartbeat ∧
        (s.run parse k).state.tracker.safeForHeartbeat = true) ↔
        (∃ k < n, (s.run parse k).cause = some .heartbeat ∧
          (s.run parse k).state.tracker.safeForHeartbeat = true) ∨
        ((s.run parse n).cause = some .heartbeat ∧
          (s.run parse n).state.tracker.safeForHeartbeat = true) := by
      simp only [Nat.lt_succ_iff_lt_or_eq, or_and_right, exists_or, exists_eq_left]
    rw [hSplit, ← ih, run]
    cases pass_view parse (s.run parse n) with
    | still hCause hView =>
      have hSame : ((s.run parse n).pass parse).emitted = (s.run parse n).emitted :=
        congrArg View.emitted hView
      simp [hSame, hCause]
    | effect cause hCause written _ hEmitted hEffect =>
      have hNew : ((s.run parse n).pass parse).emitted = (s.run parse n).emitted ++ written :=
        hEmitted
      have hBeat := effect_heartbeat hEffect
      simp only [hNew, List.mem_append, or_and_right, exists_or, hBeat, hCause,
        Option.some.injEq]
      rfl

theorem run_of_ended {s : Session} {n : Nat} (h : (s.run parse n).ended = true) (k : Nat) :
    s.run parse (n + k) = s.run parse n := by
  induction k with
  | zero => rfl
  | succ k ih =>
    rw [Nat.add_succ, run, ih]
    unfold pass
    rw [if_pos h]

theorem cause_of_ended {s : Session} (h : s.ended = true) : s.cause = none := by
  unfold cause
  rw [if_pos (by simp [h])]

/-! ## The body ends -/

def reads (ticks : List Tick) : Nat := ticks.countP fun tick => tick.branch = .upstream

/-- The schedule finds the upstream ready often enough to read what is left of it. -/
def ReadsOn (s : Session) : Prop :=
  s.state.finishAfterPending = true ∨ s.state.upstream.length < reads s.ticks

theorem pass_of_running {s : Session} {tick : Tick} {ticks : List Tick} (hEnded : s.ended = false)
    (hPending : s.state.pending = [])
    (hFinished : (s.state.done || s.state.finishAfterPending) = false)
    (hTicks : s.ticks = tick :: ticks) :
    s.pass parse = { s with state := s.state.poll parse tick, ticks } := by
  simp [pass, hEnded, hPending, hFinished, hTicks]

/-- A session that is in time and reads on comes to its end. -/
theorem ends {s : Session} (hTime : s.InTime parse) (hReads : s.ReadsOn) :
    ∃ n, (s.run parse n).ended = true := by
  -- each pass takes a tick, which gives three chunks at most, or a chunk
  suffices h : ∀ m (s : Session), 4 * s.ticks.length + s.state.pending.length = m →
      s.InTime parse → s.ReadsOn → ∃ n, (s.run parse n).ended = true from h _ s rfl hTime hReads
  intro m
  induction m using Nat.strong_induction_on with
  | h m ih =>
    intro s hMeasure hTime hReads
    cases hEnded : s.ended with
    | true => exact ⟨0, hEnded⟩
    | false =>
      have hNext (hSmaller : 4 * (s.pass parse).ticks.length +
          (s.pass parse).state.pending.length < m) (hReads' : (s.pass parse).ReadsOn) :
          ∃ n, (s.run parse n).ended = true := by
        have hShift (k : Nat) : (s.pass parse).run parse k = s.run parse (1 + k) :=
          (run_add parse s 1 k).symm
        have hTime' : (s.pass parse).InTime parse := fun k => hShift k ▸ hTime (1 + k)
        obtain ⟨n, hn⟩ := ih _ hSmaller (s.pass parse) rfl hTime' hReads'
        exact ⟨1 + n, hShift n ▸ hn⟩
      cases hPending : s.state.pending with
      | cons chunk rest =>
        have hPass : s.pass parse =
            { s with state := { s.state with pending := rest }, sent := s.sent ++ [chunk] } := by
          simp [pass, hEnded, hPending]
        apply hNext
        · rw [hPass, ← hMeasure, hPending, List.length_cons]
          exact Nat.lt_succ_self _
        · rw [hPass]
          exact hReads
      | nil =>
        cases hFinished : s.state.done || s.state.finishAfterPending with
        | true => exact ⟨1, by simp [run, pass, hEnded, hPending, hFinished]⟩
        | false =>
          have hRunning := (Bool.or_eq_false_iff.mp hFinished).2
          have hLeft : s.state.upstream.length < reads s.ticks := by
            rcases hReads with hStop | hLeft
            · rw [hRunning] at hStop
              cases hStop
            · exact hLeft
          cases hTicks : s.ticks with
          | nil =>
            rw [hTicks] at hLeft
            exact absurd hLeft (Nat.not_lt_zero _)
          | cons tick ticks =>
            have hPass : s.pass parse = { s with state := s.state.poll parse tick, ticks } :=
              pass_of_running hEnded hPending hFinished hTicks
            have hAfter := NativeState.after_poll parse hPending hRunning tick
            obtain ⟨hWritten, hUpstream⟩ := effect_upstream hAfter.effect
            apply hNext
            · rw [hPass, ← hMeasure, hTicks, List.length_cons]
              change 4 * ticks.length + (s.state.poll parse tick).pending.length < _
              omega
            · rw [hPass]
              rw [hTicks, reads, List.countP_cons] at hLeft
              rcases hUpstream with hStop | ⟨hSame, hNoRead⟩ | hTaken
              · exact .inl hStop
              · right
                have hCause : s.cause = some (s.state.cause tick) := by
                  simp [cause, hEnded, hPending, Bool.or_eq_false_iff.mp hFinished, hTicks]
                have hBranch : tick.branch ≠ .upstream := by
                  intro hBranch
                  rcases NativeState.cause_of_upstream s.state hBranch with ⟨e, hTimer⟩ | hRead
                  · exact hTime 0 e (hCause.trans (congrArg some hTimer))
                  · exact hNoRead _ hRead
                rw [if_neg (by simpa using hBranch)] at hLeft
                change (s.state.poll parse tick).upstream.length < reads ticks
                rw [hSame]
                exact hLeft
              · right
                change (s.state.poll parse tick).upstream.length < reads ticks
                rw [reads]
                split at hLeft
                · omega
                · omega

section Whole

variable (parse) (upstream : List UpstreamItem) (protocol) (config : StreamConfig)
  (requestStarted connectedAt instantMax : Instant) (ticks : List Tick)

/-- The client has the body, and nothing else, just when no heartbeat falls due between two
frames and the body passes whole. -/
theorem whole_iff (hNoError : .error ∉ upstream)
    (hTime : (wrapNativeBody upstream protocol config requestStarted connectedAt instantMax
      ticks).InTime parse) (n : Nat)
    (hEnded : ((wrapNativeBody upstream protocol config requestStarted connectedAt instantMax
      ticks).run parse n).ended = true) :
    let s := wrapNativeBody upstream protocol config requestStarted connectedAt instantMax ticks
    ((∀ c ∈ (s.run parse n).sent, c.origin = .provider) ∧
        bytesOf (s.run parse n).sent = bodyBytes upstream) ↔
      (∀ k, (s.run parse k).cause = some .heartbeat →
        (s.run parse k).state.tracker.safeForHeartbeat = false) ∧
      PassesWhole parse protocol {} (nonEmptyChunks upstream) := by
  intro s
  obtain ⟨hPending, hFinished⟩ := run_closed parse upstream protocol config requestStarted
    connectedAt instantMax ticks n hEnded
  have hStart : Relays parse protocol (nonEmptyChunks upstream) s.view := ⟨rfl, rfl, hNoError⟩
  have hRun : Relays parse protocol (nonEmptyChunks upstream) (s.run parse n).view :=
    run_relays rfl hTime hStart n
  have hSent : (s.run parse n).sent = (s.run parse n).view.emitted := by
    change _ = (s.run parse n).sent ++ (s.run parse n).state.pending
    rw [hPending, List.append_nil]
  have hView : (s.run parse n).view.finished = true := hFinished
  have hProvider : providerChunks (s.run parse n).sent =
      admitted parse {} (nonEmptyChunks upstream) := by
    rw [hSent, ← hRun.provider, owed, hView, if_pos rfl, List.append_nil]
  have hCloses : closingChunks (s.run parse n).sent =
      closing parse protocol {} (nonEmptyChunks upstream) := by
    rw [hSent, ← hRun.closes, owedClosing, hView, if_pos rfl, List.append_nil]
  have hBeats : (∃ c ∈ (s.run parse n).sent, c.origin = .heartbeat) ↔
      ∃ k < n, (s.run parse k).cause = some .heartbeat ∧
        (s.run parse k).state.tracker.safeForHeartbeat = true := by
    rw [hSent]
    exact run_heartbeat rfl n
  rw [passesWhole_iff, ← hCloses]
  constructor
  · rintro ⟨hAll, hBytes⟩
    obtain ⟨hNoBeat, hNoFrame⟩ := (all_provider_iff _).mp hAll
    refine ⟨?_, hNoFrame, ?_⟩
    · intro k hCause
      rcases Nat.lt_or_ge k n with hk | hk
      · by_contra hSafe
        exact hNoBeat (hBeats.mpr ⟨k, hk, hCause, by simpa using hSafe⟩)
      · obtain ⟨d, rfl⟩ := Nat.exists_eq_add_of_le hk
        rw [run_of_ended hEnded, cause_of_ended hEnded] at hCause
        cases hCause
    · rw [bytesOf_of_provider hAll, hProvider] at hBytes
      exact (flatten_admitted_iff (nil_not_mem_nonEmptyChunks upstream) {}).mp hBytes
  · rintro ⟨hQuiet, hNoFrame, hWhole⟩
    have hNoBeat : ¬∃ c ∈ (s.run parse n).sent, c.origin = .heartbeat := by
      intro hBeat
      obtain ⟨k, _, hCause, hSafe⟩ := hBeats.mp hBeat
      rw [hQuiet k hCause] at hSafe
      cases hSafe
    have hAll := (all_provider_iff _).mpr ⟨hNoBeat, hNoFrame⟩
    refine ⟨hAll, ?_⟩
    rw [bytesOf_of_provider hAll, hProvider, hWhole, bodyBytes]

end Whole

end Session

end AiGateway.Stream
