import AiGateway.Infra.Breaker
import AiGateway.Proxy.Policy

/-!
# Health reports of streaming attempts

A streaming attempt reports twice: when its headers arrive and when its stream
has ended.  The reports of all requests reach the registry in any order.
-/

namespace AiGateway.Proxy

set_option autoImplicit false

open AiGateway.Stream AiGateway.Health

/-- Stream ends that are held against the account. -/
def isUpstreamFailure (failed : Bool) (termination : StreamTermination) : Bool :=
  (failed && !termination.isFailure) ||
    termination ∈ [.upstreamError, .transportError, .incompleteStream, .bufferLimitExceeded]

/-- The health report that settles a stream. -/
def settleStream (registry : HealthRegistry) (now : DateTime) (accountId : String) (failed : Bool)
    (termination : StreamTermination) : HealthRegistry :=
  if isUpstreamFailure failed termination then
    (registry.markFailureWithDetails now accountId "passive" (some "upstream stream failed")).1
  else registry

inductive StreamReport where
  | headers (status : StatusCode)
  | ended (failed : Bool) (termination : StreamTermination)
  deriving DecidableEq

structure StreamEvent where
  instant : DateTime
  accountId : String
  report : StreamReport
  deriving DecidableEq

namespace StreamEvent

def isEnd (event : StreamEvent) : Bool :=
  match event.report with
  | .ended _ _ => true
  | .headers _ => false

/-- Success headers, or an end that counts as an upstream failure. -/
def failsAfterHeaders (event : StreamEvent) : Bool :=
  match event.report with
  | .headers status => isSuccess status
  | .ended failed termination => isUpstreamFailure failed termination

end StreamEvent

def streamStep (registry : HealthRegistry) (event : StreamEvent) : HealthRegistry :=
  match event.report with
  | .headers status => recordResponseHealth registry event.instant event.accountId status
  | .ended failed termination =>
    settleStream registry event.instant event.accountId failed termination

def streamRun (registry : HealthRegistry) (events : List StreamEvent) : HealthRegistry :=
  events.foldl streamStep registry

def endsOf (accountId : String) (events : List StreamEvent) : Nat :=
  events.countP fun event => event.accountId = accountId && event.isEnd

section Frame

variable {registry : HealthRegistry} {event : StreamEvent}

/-- A report is a failure mark, a success mark or nothing. -/
theorem streamStep_cases (registry : HealthRegistry) (event : StreamEvent) :
    streamStep registry event = registry ∨
      (∃ message, streamStep registry event = (registry.markFailureWithDetails event.instant
        event.accountId "passive" message).1) ∨
      streamStep registry event = registry.markSuccess event.instant event.accountId := by
  rw [streamStep]
  split
  · rw [recordResponseHealth]
    split
    · exact .inr (.inl ⟨_, rfl⟩)
    · split
      · exact .inr (.inr rfl)
      · exact .inl rfl
  · rw [settleStream]
    split
    · exact .inr (.inl ⟨_, rfl⟩)
    · exact .inl rfl

theorem streamStep_sameKind (registry : HealthRegistry) (event : StreamEvent) :
    registry.SameKind (streamStep registry event) := by
  obtain hNone | ⟨message, hFailure⟩ | hSuccess := streamStep_cases registry event
  · rw [hNone]
    exact .refl registry
  · rw [hFailure]
    exact HealthRegistry.markFailure_sameKind
  · rw [hSuccess]
    exact HealthRegistry.markSuccess_sameKind

theorem streamStep_headers (hEnd : event.isEnd = false) (h : event.failsAfterHeaders = true) :
    streamStep registry event = registry.markSuccess event.instant event.accountId := by
  obtain ⟨instant, accountId, report⟩ := event
  cases report with
  | headers status =>
    have hStatus : isSuccess status = true := h
    have hRetry : isRetryable status = false := by
      simp only [isSuccess, Bool.and_eq_true, decide_eq_true_eq] at hStatus
      simp only [isRetryable, isServerError, Bool.or_eq_false_iff, Bool.and_eq_false_iff,
        decide_eq_false_iff_not]
      omega
    simp [streamStep, recordResponseHealth, hRetry, hStatus]
  | ended failed termination => cases hEnd

theorem streamStep_end (hEnd : event.isEnd = true) (h : event.failsAfterHeaders = true) :
    streamStep registry event = (registry.markFailureWithDetails event.instant event.accountId
      "passive" (some "upstream stream failed")).1 := by
  obtain ⟨instant, accountId, report⟩ := event
  cases report with
  | headers status => cases hEnd
  | ended failed termination =>
    have hFailure : isUpstreamFailure failed termination = true := h
    simp [streamStep, settleStream, hFailure]

theorem streamStep_of_ne (registry : HealthRegistry) {accountId : String}
    (h : event.accountId ≠ accountId) :
    (streamStep registry event).breaker accountId = registry.breaker accountId ∧
      (streamStep registry event).recorded accountId = registry.recorded accountId := by
  obtain hNone | ⟨message, hFailure⟩ | hSuccess := streamStep_cases registry event
  · rw [hNone]
    exact ⟨rfl, rfl⟩
  · rw [hFailure]
    exact HealthRegistry.markFailure_of_ne h.symm
  · rw [hSuccess]
    exact HealthRegistry.markSuccess_of_ne h.symm

theorem streamStep_recorded (accountId : String) :
    (streamStep registry event).recorded accountId = registry.recorded accountId := by
  by_cases hAccount : event.accountId = accountId
  · subst hAccount
    obtain hNone | ⟨message, hFailure⟩ | hSuccess := streamStep_cases registry event
    · rw [hNone]
    · rw [hFailure]
      exact HealthRegistry.markFailure_recorded
    · rw [hSuccess]
      exact HealthRegistry.markSuccess_recorded
  · exact (streamStep_of_ne registry hAccount).2

theorem streamStep_unrecorded {accountId : String} (h : registry.recorded accountId = false) :
    (streamStep registry event).breaker accountId = registry.breaker accountId := by
  by_cases hAccount : event.accountId = accountId
  · subst hAccount
    obtain hNone | ⟨message, hFailure⟩ | hSuccess := streamStep_cases registry event
    · rw [hNone]
    · rw [hFailure]
      exact HealthRegistry.markFailure_unrecorded h
    · rw [hSuccess]
      exact HealthRegistry.markSuccess_unrecorded h
  · exact (streamStep_of_ne registry hAccount).1

end Frame

section Window

variable {registry : HealthRegistry} {accountId : String}

/-- The account is out of cooldown with at most the given number of failures. -/
structure Quiet (registry : HealthRegistry) (accountId : String) (n : Nat) : Prop where
  recorded : registry.recorded accountId = true
  idle : (registry.breaker accountId).cooldownUntil = none
  few : (registry.breaker accountId).failures ≤ n
  kept : (registry.breaker accountId).failures ≤ registry.counterCap

theorem fail_below (now : DateTime) {config : HealthConfig} {b : Breaker}
    (hUntil : b.cooldownUntil = none) (h : b.failures + 1 < config.failureThreshold.toNat) :
    (b.fail config now).cooldownUntil = none ∧ (b.fail config now).failures ≤ b.failures + 1 := by
  have hIdle : isActive b.cooldownUntil now = false := by
    rw [hUntil]
    rfl
  by_cases hExpired : windowExpired b.windowStart now config.failureWindow = true
  · have hFew : ¬ config.failureThreshold.toNat ≤ 1 := by omega
    simp [Breaker.fail, hIdle, hExpired, hFew]
  · have hFew : ¬ config.failureThreshold.toNat ≤ b.failures + 1 := by omega
    simp [Breaker.fail, hIdle, hExpired, hFew]

theorem quiet_after_headers {event : StreamEvent} {n : Nat} (hQuiet : Quiet registry accountId n)
    (hAccount : event.accountId = accountId) (hEnd : event.isEnd = false)
    (hFails : event.failsAfterHeaders = true) : Quiet (streamStep registry event) accountId 0 := by
  subst hAccount
  have hClosed : (streamStep registry event).breaker event.accountId = .closed := by
    rw [streamStep_headers hEnd hFails]
    exact HealthRegistry.markSuccess_breaker _ hQuiet.recorded
  constructor
  · exact (streamStep_recorded _).trans hQuiet.recorded
  all_goals simp [hClosed, Breaker.closed]

/-- Too few failures so far, or a threshold no counter can reach. -/
theorem quiet_after_end {event : StreamEvent} {n : Nat} (hQuiet : Quiet registry accountId n)
    (hAccount : event.accountId = accountId) (hEnd : event.isEnd = true)
    (hFails : event.failsAfterHeaders = true)
    (hRoom : n + 1 < registry.config.failureThreshold.toNat ∨
      registry.counterLimit < registry.config.failureThreshold.toNat) :
    Quiet (streamStep registry event) accountId (n + 1) := by
  subst hAccount
  obtain ⟨hRecorded, hIdle, hFew, hKept⟩ := hQuiet
  have hThreshold : registry.config.failureThreshold.toNat ≤ maxU32 := by
    have := registry.config.failureThreshold.toNat_lt
    rw [maxU32]
    omega
  have hLimit : (registry.breaker event.accountId).failures < registry.counterLimit ∧
      (registry.breaker event.accountId).failures + 1 <
        registry.config.failureThreshold.toNat := by
    simp only [HealthRegistry.counterCap, HealthRegistry.counterLimit] at hKept hRoom ⊢
    split at hKept <;> simp_all <;> omega
  have hFail := fail_below event.instant hIdle hLimit.2
  have hMarked := HealthRegistry.markFailure_breaker event.instant "passive"
    (some "upstream stream failed") hRecorded (.inr hLimit.1)
  rw [← streamStep_end hEnd hFails] at hMarked
  constructor
  · exact (streamStep_recorded _).trans hRecorded
  · rw [hMarked]
    exact hFail.1
  · rw [hMarked]
    exact Nat.le_trans (Nat.min_le_left _ _) (by omega)
  · rw [hMarked, (streamStep_sameKind registry event).cap]
    exact Nat.min_le_right _ _

theorem quiet_run {events : List StreamEvent} {n : Nat} (hQuiet : Quiet registry accountId n)
    (hFails : ∀ event ∈ events, event.accountId = accountId → event.failsAfterHeaders = true)
    (hRoom : n + endsOf accountId events < registry.config.failureThreshold.toNat ∨
      registry.counterLimit < registry.config.failureThreshold.toNat) :
    Quiet (streamRun registry events) accountId (n + endsOf accountId events) := by
  induction events generalizing registry n with
  | nil => exact hQuiet
  | cons event rest ih =>
    have hRest : ∀ event ∈ rest, event.accountId = accountId → event.failsAfterHeaders = true :=
      fun other hOther => hFails other (List.mem_cons_of_mem _ hOther)
    have hKind := streamStep_sameKind registry event
    rw [streamRun, List.foldl_cons, ← streamRun]
    rw [endsOf, List.countP_cons, ← endsOf] at hRoom ⊢
    rw [← hKind.limit, ← hKind.config] at hRoom
    by_cases hAccount : event.accountId = accountId
    · have hFail := hFails event (List.mem_cons_self ..) hAccount
      cases hEnd : event.isEnd with
      | true =>
        simp only [hAccount, hEnd, decide_true, Bool.and_self, if_true] at hRoom ⊢
        rw [hKind.limit, hKind.config] at hRoom
        have hStep := quiet_after_end hQuiet hAccount hEnd hFail (hRoom.imp_left (by omega))
        rw [← hKind.limit, ← hKind.config] at hRoom
        have hDone := ih hStep hRest (hRoom.imp_left (by omega))
        rwa [show n + (endsOf accountId rest + 1) = n + 1 + endsOf accountId rest by omega]
      | false =>
        simp only [hEnd, Bool.and_false, Bool.false_eq_true, if_false, Nat.add_zero] at hRoom ⊢
        have hStep := quiet_after_headers hQuiet hAccount hEnd hFail
        have hDone := ih hStep hRest (hRoom.imp_left (by omega))
        exact ⟨hDone.recorded, hDone.idle, Nat.le_trans hDone.few (by omega), hDone.kept⟩
    · simp only [hAccount, decide_false, Bool.false_and, Bool.false_eq_true, if_false,
        Nat.add_zero] at hRoom ⊢
      obtain ⟨hBreaker, hRecorded⟩ := streamStep_of_ne registry hAccount
      refine ih ⟨hRecorded.trans hQuiet.recorded, ?_, ?_, ?_⟩ hRest hRoom
      · rw [hBreaker]
        exact hQuiet.idle
      · rw [hBreaker]
        exact hQuiet.few
      · rw [hBreaker, hKind.cap]
        exact hQuiet.kept

/-- The account has counted so many failures in the window that opened then. -/
structure Counted (registry : HealthRegistry) (accountId : String) (opening : DateTime)
    (n : Nat) : Prop where
  recorded : registry.recorded accountId = true
  breaker : registry.breaker accountId = ⟨n, some opening, none⟩

theorem windowExpired_within {opening now : Int} {window : Nat} (hAfter : opening ≤ now)
    (hWithin : now ≤ opening + window) : windowExpired (some opening) now window = false := by
  have hElapsed : toStd (now - opening) = some (now - opening).toNat := by
    rw [toStd, if_pos (by omega)]
  simp only [windowExpired, Option.all_some]
  rw [hElapsed]
  simp only [decide_eq_false_iff_not, Nat.not_lt]
  omega

/-- A further failure inside the window. -/
theorem counted_fail {opening : DateTime} {n : Nat} {event : StreamEvent}
    (hCounted : Counted registry accountId opening n) (hAccount : event.accountId = accountId)
    (hEnd : event.isEnd = true) (hFails : event.failsAfterHeaders = true)
    (hAfter : opening ≤ event.instant)
    (hWithin : event.instant ≤ opening + registry.config.failureWindow)
    (hRoom : n < registry.counterLimit) :
    (streamStep registry event).breaker accountId =
      { failures := min (n + 1) registry.counterCap
        windowStart := some opening
        cooldownUntil :=
          if registry.config.failureThreshold.toNat ≤ n + 1 then
            some (cooldownEnd registry.config event.instant (n + 1))
          else none } := by
  subst hAccount
  have hBreaker := hCounted.breaker
  have hMarked := HealthRegistry.markFailure_breaker event.instant "passive"
    (some "upstream stream failed") hCounted.recorded (.inr (by rw [hBreaker]; exact hRoom))
  rw [← streamStep_end hEnd hFails, hBreaker] at hMarked
  rw [hMarked]
  simp [Breaker.fail, isActive, windowExpired_within hAfter hWithin]

theorem counted_run {opening : DateTime} {events : List StreamEvent} {n : Nat}
    (hCounted : Counted registry accountId opening n)
    (hEnds : ∀ event ∈ events, event.accountId = accountId → event.isEnd = true)
    (hFails : ∀ event ∈ events, event.accountId = accountId → event.failsAfterHeaders = true)
    (hWithin : ∀ event ∈ events, event.accountId = accountId →
      opening ≤ event.instant ∧ event.instant ≤ opening + registry.config.failureWindow)
    (hRoom : n + endsOf accountId events < registry.config.failureThreshold.toNat)
    (hLimit : registry.config.failureThreshold.toNat ≤ registry.counterLimit) :
    Counted (streamRun registry events) accountId opening (n + endsOf accountId events) := by
  induction events generalizing registry n with
  | nil => exact hCounted
  | cons event rest ih =>
    have hKind := streamStep_sameKind registry event
    have hRest : ∀ {P : StreamEvent → Prop}, (∀ e ∈ event :: rest, P e) → ∀ e ∈ rest, P e :=
      fun h other hOther => h other (List.mem_cons_of_mem _ hOther)
    rw [streamRun, List.foldl_cons, ← streamRun]
    rw [endsOf, List.countP_cons, ← endsOf] at hRoom ⊢
    by_cases hAccount : event.accountId = accountId
    · have hEnd := hEnds event (List.mem_cons_self ..) hAccount
      have hFail := hFails event (List.mem_cons_self ..) hAccount
      obtain ⟨hAfter, hBefore⟩ := hWithin event (List.mem_cons_self ..) hAccount
      simp only [hAccount, hEnd, decide_true, Bool.and_self, if_true] at hRoom ⊢
      have hStep := counted_fail hCounted hAccount hEnd hFail hAfter hBefore (by omega)
      rw [if_neg (by omega), Nat.min_eq_left (HealthRegistry.lt_counterLimit (by omega))] at hStep
      have hNext : Counted (streamStep registry event) accountId opening (n + 1) :=
        ⟨(streamStep_recorded _).trans hCounted.recorded, hStep⟩
      have hDone := ih hNext (hRest hEnds) (hRest hFails)
        (by rw [hKind.config]; exact hRest hWithin) (by rw [hKind.config]; omega)
        (by rw [hKind.config, hKind.limit]; exact hLimit)
      rwa [show n + (endsOf accountId rest + 1) = n + 1 + endsOf accountId rest by omega]
    · simp only [hAccount, decide_false, Bool.false_and, Bool.false_eq_true, if_false,
        Nat.add_zero] at hRoom ⊢
      obtain ⟨hBreaker, hRecorded⟩ := streamStep_of_ne registry hAccount
      have hNext : Counted (streamStep registry event) accountId opening n :=
        ⟨hRecorded.trans hCounted.recorded, hBreaker.trans hCounted.breaker⟩
      exact ih hNext (hRest hEnds) (hRest hFails) (by rw [hKind.config]; exact hRest hWithin)
        (by rw [hKind.config]; omega) (by rw [hKind.config, hKind.limit]; exact hLimit)

/-- The end of a cooldown earned by reaching the threshold lies in the future
unless the configured cooldown exceeds the calendar's range. -/
theorem isActive_cooldownEnd (registry : HealthRegistry) (now : DateTime) :
    isActive (some (cooldownEnd registry.config now registry.config.failureThreshold.toNat)) now =
      true ↔ asMillis registry.config.cooldown < 2 ^ 63 := by
  have hPositive : 1 ≤ asMillis registry.config.cooldown := by
    have hCooldown : registry.config.cooldown = max registry.config.cooldown (fromMillis 1) :=
      congrArg HealthConfig.cooldown registry.normalized.symm
    rw [asMillis, hCooldown, fromMillis]
    omega
  have hDelay : exponentialBackoff registry.config.cooldown registry.config.maxCooldown
      (registry.config.failureThreshold.toNat - registry.config.failureThreshold.toNat + 1) =
        fromMillis (min (asMillis registry.config.cooldown) maxU64) := by
    simp [exponentialBackoff]
  rw [isActive, Option.any_some, cooldownEnd, hDelay, fromStd, decide_eq_true_eq]
  generalize asMillis registry.config.cooldown = ms at hPositive ⊢
  by_cases hFits : fromMillis (min ms maxU64) ≤ maxTimeDelta
  · rw [if_pos hFits, Option.getD_some]
    replace hFits : min ms (2 ^ 64 - 1) * 1000 ≤ (2 ^ 63 - 1) * 1000 := hFits
    simp only [fromMillis, maxU64]
    refine iff_of_true (Int.lt_add_of_pos_right _ (by omega)) (by omega)
  · rw [if_neg hFits, Option.getD_none]
    replace hFits : ¬ min ms (2 ^ 64 - 1) * 1000 ≤ (2 ^ 63 - 1) * 1000 := hFits
    refine iff_of_false (by simp) (by omega)

/-- The terminations of an account fill one failure window: the first of them
opens the window, all of them lie inside it, and the last reaches the
threshold.  Reports of other accounts may come in between. -/
structure FillsWindow (registry : HealthRegistry) (opening : StreamEvent)
    (later : List StreamEvent) : Prop where
  opens : opening.isEnd = true
  idle : registry.inCooldown opening.instant opening.accountId = false
  fresh : windowExpired (registry.breaker opening.accountId).windowStart opening.instant
    registry.config.failureWindow = true
  failing : ∀ event ∈ opening :: later, event.accountId = opening.accountId →
    event.failsAfterHeaders = true
  within : ∀ event ∈ later, event.accountId = opening.accountId →
    opening.instant ≤ event.instant ∧
      event.instant ≤ opening.instant + registry.config.failureWindow
  closes : ∀ event, later.getLast? = some event →
    event.accountId = opening.accountId ∧ event.isEnd = true
  reaches : endsOf opening.accountId (opening :: later) =
    registry.config.failureThreshold.toNat

/-- The instant of the last report. -/
def lastInstant (opening : StreamEvent) (later : List StreamEvent) : DateTime :=
  ((later.getLast?).getD opening).instant

theorem lastInstant_concat (opening : StreamEvent) (later : List StreamEvent)
    (closing : StreamEvent) : lastInstant opening (later ++ [closing]) = closing.instant := by
  simp [lastInstant]

/-- What the opening termination leaves of a recorded account. -/
theorem opening_breaker {opening : StreamEvent} {later : List StreamEvent}
    (h : FillsWindow registry opening later)
    (hRecorded : registry.recorded opening.accountId = true) :
    (streamStep registry opening).breaker opening.accountId =
      { failures := 1
        windowStart := some opening.instant
        cooldownUntil :=
          if registry.config.failureThreshold.toNat ≤ 1 then
            some (cooldownEnd registry.config opening.instant 1)
          else none } := by
  have hIdle := h.idle
  rw [HealthRegistry.inCooldown_eq] at hIdle
  have hMarked := HealthRegistry.markFailure_breaker opening.instant "passive"
    (some "upstream stream failed") hRecorded (.inl ⟨hIdle, h.fresh⟩)
  have hCap : 1 ≤ registry.counterCap := by
    rw [HealthRegistry.counterCap]
    split <;> decide
  rw [← streamStep_end h.opens (h.failing opening (List.mem_cons_self ..) rfl)] at hMarked
  rw [hMarked]
  simp [Breaker.fail, hIdle, h.fresh, Nat.min_eq_left hCap]

theorem run_unrecorded {events : List StreamEvent} (h : registry.recorded accountId = false) :
    (streamRun registry events).breaker accountId = registry.breaker accountId := by
  induction events generalizing registry with
  | nil => rfl
  | cons event rest ih =>
    rw [streamRun, List.foldl_cons, ← streamRun, ih ((streamStep_recorded _).trans h)]
    exact streamStep_unrecorded h

theorem run_sameKind (registry : HealthRegistry) (events : List StreamEvent) :
    registry.SameKind (streamRun registry events) := by
  induction events generalizing registry with
  | nil => exact .refl registry
  | cons event rest ih => exact (streamStep_sameKind registry event).trans (ih _)

theorem streamRun_append (registry : HealthRegistry) (first second : List StreamEvent) :
    streamRun registry (first ++ second) = streamRun (streamRun registry first) second :=
  List.foldl_append ..

theorem endsOf_append (accountId : String) (first second : List StreamEvent) :
    endsOf accountId (first ++ second) = endsOf accountId first + endsOf accountId second :=
  List.countP_append ..

/-- Headers between the terminations reset the counter, and what follows them
stays below the threshold. -/
theorem quiet_of_headers {before after : List StreamEvent} {event : StreamEvent}
    (hQuiet : Quiet registry accountId 1) (hAccount : event.accountId = accountId)
    (hEnd : event.isEnd = false)
    (hFails : ∀ e ∈ before ++ event :: after, e.accountId = accountId → e.failsAfterHeaders = true)
    (hReaches : 1 + endsOf accountId (before ++ event :: after) =
      registry.config.failureThreshold.toNat)
    (hAfter : 0 < endsOf accountId after) :
    ((streamRun registry (before ++ event :: after)).breaker accountId).cooldownUntil = none := by
  have hEvent : endsOf accountId (event :: after) = endsOf accountId after := by
    simp [endsOf, hEnd]
  rw [endsOf_append, hEvent] at hReaches
  have hBefore := quiet_run hQuiet (fun e he => hFails e (List.mem_append_left _ he))
    (.inl (by omega))
  have hReset := quiet_after_headers hBefore hAccount hEnd
    (hFails event (by simp) hAccount)
  have hKind := (run_sameKind registry before).trans
    (streamStep_sameKind (streamRun registry before) event)
  have hRest := quiet_run hReset
    (fun e he => hFails e (List.mem_append_right _ (List.mem_cons_of_mem _ he)))
    (.inl (by rw [hKind.config]; omega))
  rw [streamRun_append]
  exact hRest.idle

theorem opening_counted {opening : StreamEvent} {later : List StreamEvent}
    (h : FillsWindow registry opening later)
    (hRecorded : registry.recorded opening.accountId = true)
    (hMore : 1 < registry.config.failureThreshold.toNat) :
    Counted (streamStep registry opening) opening.accountId opening.instant 1 := by
  have hBreaker := opening_breaker h hRecorded
  rw [if_neg (by omega)] at hBreaker
  exact ⟨(streamStep_recorded _).trans hRecorded, hBreaker⟩

theorem Counted.quiet {opening : DateTime} {n : Nat} (h : Counted registry accountId opening n)
    (hCap : n ≤ registry.counterCap) : Quiet registry accountId n := by
  constructor
  · exact h.recorded
  all_goals simp [h.breaker, hCap]

/-- Without records the breaker stays where it was, out of cooldown. -/
theorem window_unrecorded {opening : StreamEvent} {later : List StreamEvent}
    (h : FillsWindow registry opening later)
    (hRecorded : registry.recorded opening.accountId = false) :
    isActive ((streamRun registry (opening :: later)).breaker opening.accountId).cooldownUntil
      (lastInstant opening later) ≠ true := by
  have hIdle := h.idle
  rw [HealthRegistry.inCooldown_eq] at hIdle
  have hLast : opening.instant ≤ lastInstant opening later := by
    cases hClosing : later.getLast? with
    | none => simp [lastInstant, hClosing]
    | some closing =>
      rw [lastInstant, hClosing]
      exact (h.within closing (List.mem_of_getLast? hClosing) (h.closes closing hClosing).1).1
  rw [run_unrecorded hRecorded]
  cases hUntil : (registry.breaker opening.accountId).cooldownUntil with
  | none => simp [isActive]
  | some instant =>
    rw [hUntil, isActive, Option.any_some, decide_eq_false_iff_not] at hIdle
    rw [isActive, Option.any_some, ne_eq, decide_eq_true_eq]
    exact fun hActive => hIdle (Int.lt_of_le_of_lt hLast hActive)

/-- The last of several terminations decides. -/
theorem window_closing {opening closing : StreamEvent} {mid : List StreamEvent}
    (h : FillsWindow registry opening (mid ++ [closing]))
    (hRecorded : registry.recorded opening.accountId = true)
    (hLimit : registry.config.failureThreshold.toNat ≤ registry.counterLimit)
    (hEnds : endsOf opening.accountId mid + 2 = registry.config.failureThreshold.toNat) :
    isActive ((streamRun registry (opening :: (mid ++ [closing]))).breaker
        opening.accountId).cooldownUntil closing.instant = true ↔
      (∀ event ∈ mid, event.accountId = opening.accountId → event.isEnd = true) ∧
        asMillis registry.config.cooldown < 2 ^ 63 := by
  obtain ⟨hAccount, hEnd⟩ := h.closes closing (by simp)
  obtain ⟨hAfter, hBefore⟩ := h.within closing (by simp) hAccount
  have hKind := streamStep_sameKind registry opening
  have hCounted := opening_counted h hRecorded (by omega)
  have hFails : ∀ e ∈ mid ++ [closing], e.accountId = opening.accountId →
      e.failsAfterHeaders = true := fun e he => h.failing e (List.mem_cons_of_mem _ he)
  rw [streamRun, List.foldl_cons, ← streamRun]
  by_cases hNone : ∀ e ∈ mid, e.accountId = opening.accountId → e.isEnd = true
  · -- every report counts, and the last one reaches the threshold
    have hRun := counted_run hCounted hNone (fun e he => hFails e (List.mem_append_left _ he))
      (by rw [hKind.config]; exact fun e he => h.within e (List.mem_append_left _ he))
      (by rw [hKind.config]; omega) (by rw [hKind.config, hKind.limit]; exact hLimit)
    have hAll := hKind.trans (run_sameKind (streamStep registry opening) mid)
    have hLast := counted_fail hRun hAccount hEnd (hFails closing (by simp) hAccount) hAfter
      (by rw [hAll.config]; exact hBefore) (by rw [hAll.limit]; omega)
    rw [hAll.config, if_pos (by omega)] at hLast
    rw [streamRun_append, streamRun, List.foldl_cons, List.foldl_nil, hLast,
      show 1 + endsOf opening.accountId mid + 1 = registry.config.failureThreshold.toNat by omega]
    exact (isActive_cooldownEnd registry closing.instant).trans (and_iff_right hNone).symm
  · -- some report in between were headers
    refine iff_of_false ?_ (fun hBoth => hNone hBoth.1)
    push Not at hNone
    obtain ⟨event, hMem, hSame, hHeaders⟩ := hNone
    obtain ⟨before, after, rfl⟩ := List.append_of_mem hMem
    have hCap : 1 ≤ (streamStep registry opening).counterCap := by
      rw [HealthRegistry.counterCap]
      split <;> decide
    have hOne : endsOf opening.accountId [closing] = 1 := by simp [endsOf, hAccount, hEnd]
    have hShape : before ++ event :: after ++ [closing] = before ++ event :: (after ++ [closing]) :=
      by simp
    rw [hShape] at hFails ⊢
    rw [quiet_of_headers (hCounted.quiet hCap) hSame (by simpa using hHeaders) hFails]
    · simp [isActive]
    · rw [hKind.config, ← hShape, endsOf_append, hOne]
      omega
    · rw [endsOf_append, hOne]
      omega

end Window

/-- After threshold many failing terminations inside one failure window the
account is in cooldown exactly when no success headers of the account arrived
among them, its reports are recorded, the threshold is within the counter and
the cooldown within the calendar. -/
theorem inCooldown_iff_no_headers {registry : HealthRegistry} {opening : StreamEvent}
    {later : List StreamEvent} (h : FillsWindow registry opening later) :
    (streamRun registry (opening :: later)).inCooldown (lastInstant opening later)
        opening.accountId = true ↔
      (∀ event ∈ later, event.accountId = opening.accountId → event.isEnd = true) ∧
      registry.recorded opening.accountId = true ∧
      registry.config.failureThreshold.toNat ≤ registry.counterLimit ∧
      asMillis registry.config.cooldown < 2 ^ 63 := by
  rw [HealthRegistry.inCooldown_eq]
  cases hRecorded : registry.recorded opening.accountId with
  | false => exact iff_of_false (window_unrecorded h hRecorded) (by simp)
  | true =>
    have hEnds := h.reaches
    rw [endsOf, List.countP_cons, ← endsOf] at hEnds
    simp only [h.opens, decide_true, Bool.and_self, if_true] at hEnds
    obtain rfl | ⟨mid, closing, rfl⟩ := List.eq_nil_or_concat' later
    · -- a single termination reaches the threshold
      have hOne : registry.config.failureThreshold.toNat = 1 := hEnds.symm
      have hLimit : 1 ≤ registry.counterLimit := by
        rw [HealthRegistry.counterLimit]
        split <;> decide
      have hBreaker := opening_breaker h hRecorded
      rw [if_pos (Nat.le_of_eq hOne)] at hBreaker
      have hActive := isActive_cooldownEnd registry opening.instant
      rw [hOne] at hActive
      rw [streamRun, List.foldl_cons, List.foldl_nil, hBreaker]
      refine hActive.trans ?_
      simp [hOne, hLimit]
    · obtain ⟨hAccount, hEnd⟩ := h.closes closing (by simp)
      have hLast : endsOf opening.accountId [closing] = 1 := by simp [endsOf, hAccount, hEnd]
      rw [endsOf_append, hLast] at hEnds
      rw [lastInstant_concat]
      by_cases hLimit : registry.config.failureThreshold.toNat ≤ registry.counterLimit
      · refine (window_closing h hRecorded hLimit hEnds).trans ?_
        simp only [List.mem_append, List.mem_singleton, or_imp, forall_and, forall_eq, hEnd,
          implies_true, and_true, true_and, hLimit]
      · -- the counter cannot reach the threshold
        have hKind := streamStep_sameKind registry opening
        have hCap : 1 ≤ (streamStep registry opening).counterCap := by
          rw [HealthRegistry.counterCap]
          split <;> decide
        have hQuiet := quiet_run ((opening_counted h hRecorded (by omega)).quiet hCap)
          (fun e he => h.failing e (List.mem_cons_of_mem _ he))
          (.inr (by rw [hKind.config, hKind.limit]; omega))
        refine iff_of_false ?_ (by simp [hLimit])
        rw [streamRun, List.foldl_cons, ← streamRun, hQuiet.idle]
        simp [isActive]

/-- Streams that all get their headers before the first of them fails. -/
theorem inCooldown_iff_no_headers_overlapping :
    ((streamRun ⟨{}, .memory .empty, rfl⟩
      [⟨3, "a", .ended false .transportError⟩, ⟨4, "a", .ended false .upstreamError⟩,
        ⟨5, "a", .ended false .incompleteStream⟩]).inCooldown 5 "a" = true) ∧
    FillsWindow ⟨{}, .memory .empty, rfl⟩ ⟨3, "a", .ended false .transportError⟩
      [⟨4, "a", .ended false .upstreamError⟩, ⟨5, "a", .ended false .incompleteStream⟩] := by
  have hFills : FillsWindow ⟨{}, .memory .empty, rfl⟩ ⟨3, "a", .ended false .transportError⟩
      [⟨4, "a", .ended false .upstreamError⟩, ⟨5, "a", .ended false .incompleteStream⟩] :=
    ⟨rfl, by decide, by decide, by decide, by decide,
      by decide, by decide⟩
  exact ⟨(inCooldown_iff_no_headers hFills).mpr
    ⟨by decide, rfl, by decide, by decide⟩, hFills⟩

/-- An enabled account of an enabled source, with the default settings. -/
def persistedRegistry : HealthRegistry where
  config := {}
  store := .database ⟨[("a",
    { accountId := "a"
      enabled := true
      sourceEnabled := true
      healthStatus := "unknown"
      healthSource := "unknown"
      cooldownUntil := none
      consecutiveFailures := 0
      failureWindowStartedAt := none
      lastError := none
      lastSuccessAt := none
      healthUpdatedAt := none
      lastProbeAt := none
      lastProbeStatus := none
      lastProbeError := none
      accountUpdatedAt := 0 })], by decide⟩
  normalized := rfl

/-- Three requests one after the other: each gets its headers, then its stream
breaks.  The three terminations fill a window, yet the account is not in
cooldown. -/
theorem sequential_failures_not_in_cooldown :
    FillsWindow (streamRun persistedRegistry [⟨0, "a", .headers 200⟩])
      ⟨1, "a", .ended false .transportError⟩
      [⟨2, "a", .headers 200⟩, ⟨3, "a", .ended false .upstreamError⟩,
        ⟨4, "a", .headers 200⟩, ⟨5, "a", .ended false .incompleteStream⟩] ∧
    (streamRun persistedRegistry
      [⟨0, "a", .headers 200⟩, ⟨1, "a", .ended false .transportError⟩,
        ⟨2, "a", .headers 200⟩, ⟨3, "a", .ended false .upstreamError⟩,
        ⟨4, "a", .headers 200⟩, ⟨5, "a", .ended false .incompleteStream⟩]).inCooldown 5 "a" =
      false :=
  ⟨⟨rfl, by decide, by decide, by decide, by decide,
    by decide, by decide⟩, by decide⟩

end AiGateway.Proxy
