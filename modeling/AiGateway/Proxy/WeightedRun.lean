import AiGateway.Proxy.OrderedRun

/-!
# The weighted policy and the deadline

A request makes at most two attempts here, each on an account that was open when
it was chosen.  The policy never looks at the clock, so whether the attempts
start in time is decided by what the clock shows when it turns to them.
-/

namespace AiGateway.Proxy

set_option autoImplicit false

open AiGateway.Config AiGateway.Routing AiGateway.Health

/-! ## Chosen candidates -/

section Open

variable {env : Env} {config : GatewayConfig} {route : ResolvedRoute}

/-- The account is enabled and was available at one of these readings. -/
structure OpenBetween (env : Env) (first last : Nat) (candidate : FallbackCandidate) : Prop where
  enabled : candidate.account.enabled = true
  available : ∃ n, first ≤ n ∧ n < last ∧ (env.health n candidate.account.id).available = true

/-- A walk over the health of some accounts, from a moment on, and the candidates it found. -/
structure Surveyed (env : Env) (first : Nat) (found : List FallbackCandidate × Nat) : Prop where
  later : first ≤ found.2
  opened : ∀ candidate ∈ found.1, OpenBetween env first found.2 candidate

namespace Surveyed

variable {n : Nat} {found : List FallbackCandidate × Nat}

theorem nil (n : Nat) : Surveyed env n ([], n) := by
  refine ⟨Nat.le_refl n, ?_⟩
  intro candidate hIn
  cases hIn

/-- A reading that found nothing. -/
theorem pass (h : Surveyed env (n + 1) found) : Surveyed env n found := by
  refine ⟨Nat.le_of_succ_le h.later, ?_⟩
  intro candidate hIn
  obtain ⟨hEnabled, m, hAfter, hBefore, hUp⟩ := h.opened candidate hIn
  exact ⟨hEnabled, m, Nat.le_of_succ_le hAfter, hBefore, hUp⟩

theorem cons {candidate : FallbackCandidate} (hEnabled : candidate.account.enabled = true)
    (hUp : (env.health n candidate.account.id).available = true)
    (h : Surveyed env (n + 1) found) : Surveyed env n (candidate :: found.1, found.2) := by
  refine ⟨Nat.le_of_succ_le h.later, ?_⟩
  rintro c (_ | ⟨_, hIn⟩)
  · exact ⟨hEnabled, n, Nat.le_refl n, h.later, hUp⟩
  · exact h.pass.opened c hIn

theorem filter (keep : FallbackCandidate → Bool) (h : Surveyed env n found) :
    Surveyed env n (found.1.filter keep, found.2) := by
  refine ⟨h.later, ?_⟩
  intro candidate hIn
  exact h.opened candidate (List.mem_filter.mp hIn).1

end Surveyed

theorem bindingCandidates_surveyed (bindings : List ResolvedBinding) (n : Nat) :
    Surveyed env n (bindingCandidates env config route bindings n) := by
  induction bindings generalizing n with
  | nil => exact .nil n
  | cons binding rest ih =>
    rw [bindingCandidates]
    split
    · exact ih n
    · split
      · exact ih n
      · split
        · exact ih n
        · next hEnabled =>
          split
          · exact (ih (n + 1)).pass
          · next hUp =>
            split
            · exact (ih (n + 1)).pass
            · exact (ih (n + 1)).cons (by simpa using hEnabled) (by simpa using hUp)

theorem accountCandidates_surveyed (model : String) (protocol : Protocol) (ids : List String)
    (n : Nat) : Surveyed env n (accountCandidates env config route model protocol ids n) := by
  induction ids generalizing n with
  | nil => exact .nil n
  | cons id rest ih =>
    rw [accountCandidates]
    split
    · exact ih n
    · split
      · exact ih n
      · split
        · exact ih n
        · next hEnabled =>
          split
          · exact (ih (n + 1)).pass
          · next hUp =>
            split
            · exact (ih (n + 1)).pass
            · dsimp only
              split
              · exact (ih (n + 1)).pass
              · exact (ih (n + 1)).cons (by simpa using hEnabled) (by simpa using hUp)

theorem availableFallbackCandidates_surveyed (model : String) (protocol : Protocol) (n : Nat) :
    Surveyed env n (availableFallbackCandidates env config route model protocol n) := by
  rw [availableFallbackCandidates]
  split
  · exact accountCandidates_surveyed model protocol route.fallbackAccounts n
  · dsimp only
    split
    · exact (bindingCandidates_surveyed route.fallbackBindings n).filter _
    · exact bindingCandidates_surveyed route.fallbackBindings n

theorem selectFallbackCandidate_open {model : String} {protocol : Protocol} {n : Nat}
    {candidate : FallbackCandidate}
    (h : (selectFallbackCandidate env config route model protocol n).1 = some candidate) :
    OpenBetween env n (selectFallbackCandidate env config route model protocol n).2 candidate := by
  have hFound : Surveyed env n (availableFallbackCandidates env config route model protocol n) :=
    availableFallbackCandidates_surveyed model protocol n
  rw [selectFallbackCandidate] at h ⊢
  dsimp only at h ⊢
  split at h
  · cases h
  · next hSome =>
    obtain ⟨hEnabled, m, hAfter, hBefore, hUp⟩ := hFound.opened _ (List.mem_of_getElem? h)
    rw [if_neg hSome]
    exact ⟨hEnabled, m, hAfter, Nat.lt_succ_of_lt hBefore, hUp⟩

theorem selectFallbackCandidate_later (model : String) (protocol : Protocol) (n : Nat) :
    n ≤ (selectFallbackCandidate env config route model protocol n).2 := by
  have hFound : Surveyed env n (availableFallbackCandidates env config route model protocol n) :=
    availableFallbackCandidates_surveyed model protocol n
  have hLater := hFound.later
  rw [selectFallbackCandidate]
  dsimp only
  split
  · exact hLater
  · exact Nat.le_succ_of_le hLater

end Open

/-! ## Attempts of a request -/

/-- The account was open at a reading taken after the attempts made before. -/
structure Chosen (env : Env) (context : AttemptContext) (before : List Attempted) (made : Attempted)
    (n : Nat) : Prop where
  enabled : made.candidate.account.enabled = true
  available : (env.health n made.candidate.account.id).available = true
  made : ∃ m, n < m ∧ MadeAt env context made.usage.attemptNo m made
  after : ∀ earlier ∈ before, ∃ m, m < n ∧ MadeAt env context earlier.usage.attemptNo m earlier

/-- The primary, asked again after the wait it demanded. -/
structure AskedAgain (env : Env) (context : AttemptContext) (first made : Attempted) : Prop where
  same : made.candidate = first.candidate
  waited : ∃ answer n, first.result = .ok answer ∧
    (sameAccountRetry env context answer n).isSome = true

/-- Attempts on chosen accounts, save that the first account may be asked again. -/
inductive Picked (env : Env) (context : AttemptContext) : List Attempted → Prop where
  | nil : Picked env context []
  | chosen {before : List Attempted} {made : Attempted} {n : Nat}
      (hBefore : Picked env context before) (hChosen : Chosen env context before made n) :
      Picked env context (before ++ [made])
  | again {first made : Attempted} (hFirst : Picked env context [first])
      (hAgain : AskedAgain env context first made) : Picked env context [first, made]

def Overdue (context : AttemptContext) (made : Attempted) : Prop :=
  context.totalTimeout ≠ 0 ∧ context.totalTimeout ≤ made.startedAt

instance (context : AttemptContext) (made : Attempted) : Decidable (Overdue context made) :=
  inferInstanceAs (Decidable (_ ∧ _))

/-- The accounts marked as failing by attempts that the deadline kept from being sent. -/
def unsentMarks (context : AttemptContext) (log : List Attempted) : List String :=
  log.filterMap fun made =>
    match made.result with
    | .ok _ => none
    | .error _ => if Overdue context made then some made.candidate.account.id else none

structure WeightedRun (env : Env) (context : AttemptContext) (done : Completion) : Prop where
  atMostTwo : done.world.log.length ≤ 2
  picked : Picked env context done.world.log
  onTime : ∀ made ∈ done.world.log, ¬Overdue context made
  spared : unsentMarks context done.world.log = []

/-! ## What the clock decides -/

section Clock

variable (env : Env) (config : GatewayConfig) (context : AttemptContext) (route : ResolvedRoute)

/-- A fallback is chosen from a moment on, and the total timeout has passed when it is its turn. -/
def LateFallback (n : Nat) : Prop :=
  (selectFallbackCandidate env config route context.model context.protocol n).1.isSome = true ∧
    Late env context
      (selectFallbackCandidate env config route context.model context.protocol n).2

/-- The same after a retryable answer of the primary, which is asked again if it demanded a short
wait and nothing else is open. -/
def LateAfterAnswer (answer : UpstreamResponse) (n : Nat) : Prop :=
  let available := selectFallbackCandidate env config route context.model context.protocol n
  if (sameAccountRetry env context answer n).isSome ∧ available.1.isNone then
    Late env context available.2
  else LateFallback env config context route available.2

/-- After the attempt on the primary. -/
def LateSecond (answer : Except TransportError UpstreamResponse) (n : Nat) : Prop :=
  match answer with
  | .ok response =>
    isRetryable response.status = true ∧ LateAfterAnswer env config context route response n
  | .error _ => LateFallback env config context route n

/-- The policy turns to an attempt when the total timeout has passed. -/
def StartsLate : Prop :=
  ∃ provider account, config.provider route.sourceId = some provider ∧
    config.account route.primaryAccountId = some account ∧
    if account.enabled && (env.health 0 account.id).available then
      Late env context 1 ∨ LateSecond env config context route
        (answerTo env context (.primary route account provider context.model) 1) 2
    else LateFallback env config context route 1

end Clock

section Runs

variable {env : Env} {config : GatewayConfig} {context : AttemptContext} {route : ResolvedRoute}

/-- A log of picked attempts, all on time unless the condition holds. -/
structure RunsUnless (env : Env) (context : AttemptContext) (log : List Attempted) (late : Prop) :
    Prop where
  atMostTwo : log.length ≤ 2
  picked : Picked env context log
  onTime : (∀ made ∈ log, ¬Overdue context made) ↔ ¬late

theorem overdue_iff {number n : Nat} {made : Attempted} (h : MadeAt env context number n made) :
    Overdue context made ↔ Late env context n := by
  rw [Overdue, h.startedAt, Late]

theorem RunsUnless.nil : RunsUnless env context [] False :=
  ⟨Nat.zero_le 2, .nil, by simp⟩

theorem RunsUnless.snoc {before : List Attempted} {made : Attempted} {number n : Nat} {late : Prop}
    (h : RunsUnless env context before late) (hRoom : before.length ≤ 1)
    (hPicked : Picked env context (before ++ [made])) (hMade : MadeAt env context number n made) :
    RunsUnless env context (before ++ [made]) (late ∨ Late env context n) := by
  refine ⟨?_, hPicked, ?_⟩
  · rw [List.length_append, List.length_singleton]
    omega
  · rw [not_or, ← h.onTime, ← overdue_iff hMade]
    simp only [List.forall_mem_append, List.forall_mem_singleton]

theorem RunsUnless.weightedRun_iff {done : Completion} {late : Prop}
    (h : RunsUnless env context done.world.log late) : WeightedRun env context done ↔ ¬late := by
  constructor
  · intro hRun
    exact h.onTime.mp hRun.onTime
  · intro hEarly
    have hOnTime := h.onTime.mpr hEarly
    refine ⟨h.atMostTwo, h.picked, hOnTime, ?_⟩
    rw [unsentMarks, List.filterMap_eq_nil_iff]
    intro made hMade
    split
    · rfl
    · rw [if_neg (hOnTime made hMade)]

/-- The attempt on the fallback chosen from a moment on. -/
theorem RunsUnless.fallback {before : List Attempted} {late : Prop} {w : World} {n : Nat}
    {fallback : FallbackCandidate} (number : Nat)
    (h : RunsUnless env context before late) (hRoom : before.length ≤ 1) (hLog : w.log = before)
    (hEarlier : ∀ earlier ∈ before, ∃ m, m < n ∧
      MadeAt env context earlier.usage.attemptNo m earlier)
    (hChosen : (selectFallbackCandidate env config route context.model context.protocol n).1 =
      some fallback) :
    RunsUnless env context (execute env context fallback number true (w.at
        (selectFallbackCandidate env config route context.model context.protocol n).2)).2.log
      (late ∨ LateFallback env config context route n) := by
  obtain ⟨hEnabled, m, hAfter, hBefore, hUp⟩ := selectFallbackCandidate_open hChosen
  obtain ⟨made, hMadeLog, -, rfl, hMade⟩ := execute_made env context fallback number true (w.at
    (selectFallbackCandidate env config route context.model context.protocol n).2)
  have hPicked : Picked env context (before ++ [made]) := by
    refine .chosen h.picked (n := m) ⟨hEnabled, hUp, ⟨_, hBefore, rfl, hMade.2, hMade.3⟩, ?_⟩
    intro earlier hIn
    obtain ⟨k, hk, hMadeAt⟩ := hEarlier earlier hIn
    exact ⟨k, by omega, hMadeAt⟩
  have hSome : LateFallback env config context route n ↔ Late env context
      (selectFallbackCandidate env config route context.model context.protocol n).2 := by
    rw [LateFallback, hChosen]
    exact and_iff_right rfl
  rw [hMadeLog, hSome]
  subst hLog
  exact h.snoc hRoom hPicked hMade

/-- Nothing is open. -/
theorem RunsUnless.noFallback {before : List Attempted} {late : Prop} {n : Nat}
    (h : RunsUnless env context before late)
    (hNone : (selectFallbackCandidate env config route context.model context.protocol n).1 = none) :
    RunsUnless env context before (late ∨ LateFallback env config context route n) := by
  refine ⟨h.atMostTwo, h.picked, h.onTime.trans (not_congr ?_)⟩
  rw [LateFallback, hNone]
  simp

theorem weightedWithoutPrimary_runs (account : AccountConfig) (reason : String) {w : World}
    (hLog : w.log = []) :
    RunsUnless env context
      (weightedWithoutPrimary env config context route account reason w).world.log
      (LateFallback env config context route w.moment) := by
  rw [← false_or (LateFallback env config context route w.moment), weightedWithoutPrimary]
  dsimp only
  split
  · next hNone =>
    have hWorld := RunsUnless.nil.noFallback hNone
    rw [← hLog] at hWorld
    exact hWorld
  · next fallback hChosen =>
    exact RunsUnless.nil.fallback 0 (Nat.zero_le 1) hLog (by simp) hChosen

/-- The primary was tried, as the first attempt of the request. -/
structure PrimaryTried (env : Env) (context : AttemptContext) (primary : FallbackCandidate)
    (w : World) (first : Attempted) (late : Prop) : Prop where
  log : w.log = [first]
  candidate : first.candidate = primary
  made : ∃ n, n < w.moment ∧ MadeAt env context first.usage.attemptNo n first
  runs : RunsUnless env context [first] late

theorem PrimaryTried.earlier {primary : FallbackCandidate} {w : World} {first : Attempted}
    {late : Prop} {n : Nat} (h : PrimaryTried env context primary w first late)
    (hLater : w.moment ≤ n) : ∀ earlier ∈ [first], ∃ m, m < n ∧
      MadeAt env context earlier.usage.attemptNo m earlier := by
  intro earlier hIn
  obtain rfl := List.mem_singleton.mp hIn
  obtain ⟨m, hBefore, hMade⟩ := h.made
  exact ⟨m, Nat.lt_of_lt_of_le hBefore hLater, hMade⟩

theorem weightedAfterError_runs {primary : FallbackCandidate} {w : World} {first : Attempted}
    {late : Prop} (error : TransportError) (usage : UsageAttempt)
    (h : PrimaryTried env context primary w first late) :
    RunsUnless env context
      (weightedAfterError env config context route primary error usage w).world.log
      (late ∨ LateFallback env config context route w.moment) := by
  rw [weightedAfterError]
  dsimp only
  split
  · next fallback hChosen =>
    exact h.runs.fallback 1 (Nat.le_refl 1) h.log (h.earlier (Nat.le_refl _)) hChosen
  · next hNone =>
    have hWorld := h.runs.noFallback hNone
    rw [← h.log] at hWorld
    exact hWorld

theorem weightedAfterAnswer_runs {primary : FallbackCandidate} {w : World} {first : Attempted}
    {late : Prop} {answer : UpstreamResponse} (attempt : Nat) (usage : UsageAttempt)
    (h : PrimaryTried env context primary w first late) (hAnswer : first.result = .ok answer) :
    RunsUnless env context
      (weightedAfterAnswer env config context route primary attempt answer usage w).world.log
      (late ∨ LateAfterAnswer env config context route answer w.moment) := by
  have hLater : w.moment ≤
      (selectFallbackCandidate env config route context.model context.protocol w.moment).2 :=
    selectFallbackCandidate_later context.model context.protocol w.moment
  rw [weightedAfterAnswer, LateAfterAnswer]
  dsimp only
  split
  · next hRetry =>
    obtain ⟨made, hMadeLog, -, hSame, hMade⟩ := execute_made env context primary 1 false (w.at
      (selectFallbackCandidate env config route context.model context.protocol w.moment).2)
    rw [hMadeLog]
    change RunsUnless env context (w.log ++ [made]) _
    rw [h.log]
    refine h.runs.snoc (Nat.le_refl 1) ?_ hMade
    exact .again h.runs.picked ⟨hSame.trans h.candidate.symm, answer, _, hAnswer, hRetry.1⟩
  · split
    · next fallback hChosen =>
      exact h.runs.fallback 1 (Nat.le_refl 1) h.log (h.earlier hLater) hChosen
    · next hNone =>
      have hWorld := h.runs.noFallback hNone
      rw [← h.log] at hWorld
      exact hWorld

theorem weightedWithPrimary_runs {primary : FallbackCandidate} {w : World} {n : Nat}
    (hLog : w.log = []) (hOpen : OpenBetween env n w.moment primary) :
    RunsUnless env context (weightedWithPrimary env config context route primary w).world.log
      (Late env context w.moment ∨ LateSecond env config context route
        (answerTo env context primary w.moment) (w.moment + 1)) := by
  obtain ⟨first, hFirstLog, -, hPrimary, hFirst⟩ := execute_made env context primary 0 false w
  obtain ⟨hEnabled, m, hAfter, hBefore, hUp⟩ := hOpen
  have hResult := hFirst.result
  rw [hPrimary] at hResult
  have hPicked : Picked env context ([] ++ [first]) := by
    refine .chosen .nil (n := m) ⟨?_, ?_, ⟨_, hBefore, rfl, hFirst.2, hFirst.3⟩, by simp⟩
    · rw [hPrimary]
      exact hEnabled
    · rw [hPrimary]
      exact hUp
  have hRuns := RunsUnless.nil.snoc (Nat.zero_le 1) hPicked hFirst
  rw [false_or] at hRuns
  have hTried : PrimaryTried env context primary (execute env context primary 0 false w).2 first
      (Late env context w.moment) := by
    refine ⟨?_, hPrimary, ⟨w.moment, Nat.lt_succ_self _, rfl, hFirst.2, hFirst.3⟩, hRuns⟩
    rw [hFirstLog, hLog]
    rfl
  have hOnly : ∀ {late : Prop}, ¬late →
      RunsUnless env context (execute env context primary 0 false w).2.log
        (Late env context w.moment ∨ late) := by
    intro late hNot
    rw [hTried.log, or_iff_left hNot]
    exact hRuns
  rw [weightedWithPrimary, execute_result]
  cases hAnswer : answerTo env context primary w.moment with
  | ok answer =>
    simp only [Except.map, LateSecond]
    split
    · next hRetryable =>
      rw [and_iff_right hRetryable]
      exact weightedAfterAnswer_runs _ _ hTried (hResult.trans hAnswer)
    · next hFinal => exact hOnly fun hLate => hFinal hLate.1
  | error error => exact weightedAfterError_runs error _ hTried

end Runs

/-- The weighted policy keeps to the deadline except when it turns to an attempt with the total
timeout already over. -/
theorem proxyWeighted_run_iff (env : Env) (config : GatewayConfig) (context : AttemptContext)
    (route : ResolvedRoute) :
    WeightedRun env context (proxyWeighted env config context route {}) ↔
      ¬StartsLate env config context route := by
  apply RunsUnless.weightedRun_iff
  rw [proxyWeighted, StartsLate]
  cases hProvider : config.provider route.sourceId with
  | none => simpa using RunsUnless.nil
  | some provider =>
    cases hAccount : config.account route.primaryAccountId with
    | none => simpa using RunsUnless.nil
    | some account =>
      simp only [Option.some.injEq, exists_eq_left', exists_and_left]
      cases hEnabled : account.enabled with
      | false => exact weightedWithoutPrimary_runs account "account_disabled" rfl
      | true =>
        cases hUp : (env.health 0 account.id).available with
        | false =>
          simp only [Bool.not_true, Bool.not_false, Bool.and_false, Bool.false_eq_true,
            if_false, if_true]
          exact weightedWithoutPrimary_runs account _ rfl
        | true =>
          simp only [Bool.not_true, Bool.and_true, Bool.false_eq_true, if_false, if_true]
          exact weightedWithPrimary_runs rfl ⟨hEnabled, 0, Nat.le_refl 0, Nat.one_pos, hUp⟩

/-- A primary that used up the whole time of the request is followed by any fallback that is
open. -/
theorem startsLate_of_spent {env : Env} {config : GatewayConfig} {context : AttemptContext}
    {route : ResolvedRoute} {provider : ProviderConfig} {account : AccountConfig}
    {error : TransportError} (hClock : ∀ n, env.elapsed n ≤ env.elapsed (n + 1))
    (hProvider : config.provider route.sourceId = some provider)
    (hAccount : config.account route.primaryAccountId = some account)
    (hOpen : account.enabled && (env.health 0 account.id).available)
    (hSpent : answerTo env context (.primary route account provider context.model) 1 = .error error)
    (hLate : Late env context 2)
    (hFallback : (selectFallbackCandidate env config route context.model context.protocol
      2).1.isSome = true) : StartsLate env config context route := by
  refine ⟨provider, account, hProvider, hAccount, ?_⟩
  rw [if_pos hOpen, hSpent]
  have hLater : 2 ≤
      (selectFallbackCandidate env config route context.model context.protocol 2).2 :=
    selectFallbackCandidate_later context.model context.protocol 2
  exact .inr ⟨hFallback, hLate.1, hLate.2.trans (monotone_nat_of_le_succ hClock hLater)⟩

/-- The primary answers nothing until the request's ten seconds are over. -/
def spentEnv : Env :=
  { LostFallback.env with
    elapsed := fun n => if n ≤ 1 then 0 else 10000
    forward := fun _ _ _ => .error (.timeout .totalTimeout) }

def tenSeconds : AttemptContext := { LostFallback.context with totalTimeout := 10000 }

/-- The fallback is tried, and marked as failing, after the deadline. -/
theorem proxyWeighted_overdue :
    unsentMarks tenSeconds (proxyWeighted spentEnv LostFallback.config tenSeconds
        LostFallback.route {}).world.log = ["b"] ∧
      ¬WeightedRun spentEnv tenSeconds
        (proxyWeighted spentEnv LostFallback.config tenSeconds LostFallback.route {}) := by
  have hMarks : unsentMarks tenSeconds (proxyWeighted spentEnv LostFallback.config tenSeconds
      LostFallback.route {}).world.log = ["b"] := by
    decide
  refine ⟨hMarks, ?_⟩
  intro hRun
  cases hMarks.symm.trans hRun.spared

end AiGateway.Proxy
