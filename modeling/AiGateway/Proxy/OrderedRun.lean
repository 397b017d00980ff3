import AiGateway.Proxy.Attribution

/-!
# The ordered fallback loop

The loop gives each line its turn: a line that is unavailable then is skipped,
the deadline stops the loop, and an attempt either ends it or hands over to the
next line.  What a request shows of its attempts is read off these turns.
-/

namespace AiGateway.Proxy

set_option autoImplicit false

open AiGateway.Config AiGateway.Routing AiGateway.Health

/-! ## Lines of a route -/

section Lines

variable (config : GatewayConfig) (context : AttemptContext) (route : ResolvedRoute)

def primaryLine : Option FallbackCandidate :=
  match config.account route.primaryAccountId, config.provider route.sourceId with
  | some account, some provider => some (.primary route account provider context.model)
  | _, _ => none

def bindingLine (binding : ResolvedBinding) : Option FallbackCandidate :=
  match config.account binding.accountId, config.provider binding.sourceId with
  | some account, some provider =>
    some
      { account := account
        provider := provider
        providerId := binding.providerId
        sourceId := binding.sourceId
        upstreamModel := binding.upstreamModelId
        protocolUpstream := binding.protocolUpstream
        mode := binding.mode
        upstreamEndpoint := some binding.upstreamEndpoint
        degradedFeatures := binding.degradedFeatures }
  | _, _ => none

/-- The line of a fallback account, for a route resolved without bindings. -/
def accountLine (id : String) : Option FallbackCandidate :=
  match config.account id with
  | none => none
  | some account =>
    match config.provider account.providerId with
    | none => none
    | some provider =>
      if account.providerId ≠ route.sourceId ∧
          (config.protocolCapability provider.id (some account.id) context.model
            context.protocol).mode ≠ .native then none
      else
        some
          { account := account
            provider := provider
            providerId := provider.id
            sourceId := provider.id
            upstreamModel := (account.modelMap.get context.model).getD context.model
            protocolUpstream := route.protocolUpstream
            mode := route.mode
            upstreamEndpoint := none
            degradedFeatures := route.degradedFeatures }

/-- The fallback bindings in order, without those that repeat the primary account and model. -/
def fallbackLines : List FallbackCandidate :=
  if route.fallbackBindings.isEmpty then
    (route.fallbackAccounts.filter (· ≠ route.primaryAccountId)).filterMap
      (accountLine config context route)
  else
    (route.fallbackBindings.filter fun binding =>
      !(binding.accountId = route.primaryAccountId &&
        binding.upstreamModelId = route.upstreamModelId)).filterMap (bindingLine config)

def orderedLines : List FallbackCandidate :=
  (primaryLine config context route).toList ++ fallbackLines config context route

end Lines

/-- Lines that a request found open: those it kept are enabled, and a line it left out was disabled
or unavailable at one of its readings. -/
structure Kept (env : Env) (lines kept : List FallbackCandidate) (first last : Nat) : Prop where
  inOrder : kept.Sublist lines
  enabled : ∀ line ∈ kept, line.account.enabled = true
  leftOut : ∀ line ∈ lines, line ∈ kept ∨ line.account.enabled = false ∨
    ∃ n, first ≤ n ∧ n < last ∧ (env.health n line.account.id).available = false
  later : first ≤ last

namespace Kept

variable {env : Env} {lines kept : List FallbackCandidate} {first last : Nat}
  {line : FallbackCandidate}

theorem nil (n : Nat) : Kept env [] [] n n := by
  refine ⟨.slnil, ?_, ?_, Nat.le_refl n⟩
  · intro line hLine
    cases hLine
  · intro line hLine
    cases hLine

theorem cons (hEnabled : line.account.enabled = true) (h : Kept env lines kept (first + 1) last) :
    Kept env (line :: lines) (line :: kept) first last := by
  refine ⟨h.inOrder.cons_cons line, ?_, ?_, by have := h.later; omega⟩
  · rintro l (_ | ⟨_, hl⟩)
    · exact hEnabled
    · exact h.enabled l hl
  · rintro l (_ | ⟨_, hl⟩)
    · exact .inl List.mem_cons_self
    · rcases h.leftOut l hl with hKept | hOff | ⟨n, hFirst, hLast, hDown⟩
      · exact .inl (List.mem_cons_of_mem line hKept)
      · exact .inr (.inl hOff)
      · exact .inr (.inr ⟨n, by omega, hLast, hDown⟩)

/-- A line that is left out, perhaps after a reading of its health. -/
theorem skip {next : Nat} (hNext : first ≤ next)
    (hOut : line.account.enabled = false ∨ next = first + 1 ∧
      (env.health first line.account.id).available = false)
    (h : Kept env lines kept next last) : Kept env (line :: lines) kept first last := by
  have hLater := h.later
  refine ⟨h.inOrder.cons line, h.enabled, ?_, by omega⟩
  rintro l (_ | ⟨_, hl⟩)
  · rcases hOut with hOff | ⟨rfl, hDown⟩
    · exact .inr (.inl hOff)
    · exact .inr (.inr ⟨first, Nat.le_refl first, by omega, hDown⟩)
  · rcases h.leftOut l hl with hKept | hOff | ⟨n, hFirst, hLast, hDown⟩
    · exact .inl hKept
    · exact .inr (.inl hOff)
    · exact .inr (.inr ⟨n, by omega, hLast, hDown⟩)

theorem widen {first' : Nat} (hFirst : first' ≤ first) (h : Kept env lines kept first last) :
    Kept env lines kept first' last := by
  refine ⟨h.inOrder, h.enabled, ?_, by have := h.later; omega⟩
  intro l hl
  rcases h.leftOut l hl with hKept | hOff | ⟨n, hAfter, hLast, hDown⟩
  · exact .inl hKept
  · exact .inr (.inl hOff)
  · exact .inr (.inr ⟨n, by omega, hLast, hDown⟩)

theorem append {lines' kept' : List FallbackCandidate} {mid : Nat}
    (h : Kept env lines kept first mid) (h' : Kept env lines' kept' mid last) :
    Kept env (lines ++ lines') (kept ++ kept') first last := by
  have hMid := h.later
  have hLast := h'.later
  refine ⟨h.inOrder.append h'.inOrder, ?_, ?_, by omega⟩
  · intro l hl
    rcases List.mem_append.mp hl with hl | hl
    · exact h.enabled l hl
    · exact h'.enabled l hl
  · intro l hl
    rcases List.mem_append.mp hl with hl | hl
    · rcases h.leftOut l hl with hKept | hOff | ⟨n, hAfter, hBefore, hDown⟩
      · exact .inl (List.mem_append_left _ hKept)
      · exact .inr (.inl hOff)
      · exact .inr (.inr ⟨n, hAfter, by omega, hDown⟩)
    · rcases h'.leftOut l hl with hKept | hOff | ⟨n, hAfter, hBefore, hDown⟩
      · exact .inl (List.mem_append_right _ hKept)
      · exact .inr (.inl hOff)
      · exact .inr (.inr ⟨n, by omega, hBefore, hDown⟩)

end Kept

section Candidates

variable {env : Env} {config : GatewayConfig} {context : AttemptContext} {route : ResolvedRoute}

theorem repeatsPrimary_ordered (hStrategy : route.strategy = "ordered_fallback")
    (binding : ResolvedBinding) :
    repeatsPrimary route binding = (binding.accountId = route.primaryAccountId &&
      binding.upstreamModelId = route.upstreamModelId : Bool) := by
  simp [repeatsPrimary, hStrategy]

theorem bindingCandidates_kept (hStrategy : route.strategy = "ordered_fallback")
    (bindings : List ResolvedBinding) (n : Nat) :
    Kept env ((bindings.filter fun binding =>
        !(binding.accountId = route.primaryAccountId &&
          binding.upstreamModelId = route.upstreamModelId)).filterMap (bindingLine config))
      (bindingCandidates env config route bindings n).1 n
      (bindingCandidates env config route bindings n).2 := by
  induction bindings generalizing n with
  | nil => exact .nil n
  | cons binding rest ih =>
    rw [bindingCandidates, repeatsPrimary_ordered hStrategy, List.filter_cons]
    cases hRepeats : (binding.accountId = route.primaryAccountId &&
        binding.upstreamModelId = route.upstreamModelId : Bool) with
    | true => simpa using ih n
    | false =>
      simp only [Bool.not_false, if_true, Bool.false_eq_true, if_false, List.filterMap_cons,
        bindingLine]
      cases hAccount : config.account binding.accountId with
      | none => simpa using ih n
      | some account =>
        cases hProvider : config.provider binding.sourceId with
        | none =>
          simp only []
          split
          · exact ih n
          · split
            · exact (ih (n + 1)).widen (Nat.le_succ n)
            · exact (ih (n + 1)).widen (Nat.le_succ n)
        | some provider =>
          simp only []
          split
          · next hOff => exact (ih n).skip (Nat.le_refl n) (.inl (by simpa using hOff))
          · next hOn =>
            split
            · next hDown =>
              exact (ih (n + 1)).skip (Nat.le_succ n) (.inr ⟨rfl, by simpa using hDown⟩)
            · exact (ih (n + 1)).cons (by simpa using hOn)

theorem accountCandidates_kept (ids : List String) (n : Nat) :
    Kept env ((ids.filter (· ≠ route.primaryAccountId)).filterMap (accountLine config context route))
      (accountCandidates env config route context.model context.protocol ids n).1 n
      (accountCandidates env config route context.model context.protocol ids n).2 := by
  induction ids generalizing n with
  | nil => exact .nil n
  | cons id rest ih =>
    rw [accountCandidates, List.filter_cons]
    rcases eq_or_ne id route.primaryAccountId with hPrimary | hOther
    · simpa [hPrimary] using ih n
    · simp only [ne_eq, hOther, not_false_eq_true, decide_true, if_true, if_false,
        List.filterMap_cons, accountLine]
      cases hAccount : config.account id with
      | none => exact ih n
      | some account =>
        have hWide := (ih (n + 1)).widen (Nat.le_succ n)
        dsimp only
        cases hProvider : config.provider account.providerId with
        | none =>
          cases hEnabled : account.enabled with
          | false => exact ih n
          | true =>
            cases hUp : (env.health n account.id).available with
            | false => exact hWide
            | true => exact hWide
        | some provider =>
          dsimp only
          rcases Decidable.em (¬account.providerId = route.sourceId ∧
            ¬(config.protocolCapability provider.id (some account.id) context.model
              context.protocol).mode = .native) with hForeign | hOwn
          · simp only [if_pos hForeign]
            cases hEnabled : account.enabled with
            | false => exact ih n
            | true =>
              cases hUp : (env.health n account.id).available with
              | false => exact hWide
              | true => exact hWide
          · simp only [if_neg hOwn]
            cases hEnabled : account.enabled with
            | false => exact (ih n).skip (Nat.le_refl n) (.inl hEnabled)
            | true =>
              cases hUp : (env.health n account.id).available with
              | false => exact (ih (n + 1)).skip (Nat.le_succ n) (.inr ⟨rfl, hUp⟩)
              | true => exact (ih (n + 1)).cons hEnabled

theorem availableFallbackCandidates_kept (hStrategy : route.strategy = "ordered_fallback")
    (n : Nat) :
    Kept env (fallbackLines config context route)
      (availableFallbackCandidates env config route context.model context.protocol n).1 n
      (availableFallbackCandidates env config route context.model context.protocol n).2 := by
  unfold fallbackLines availableFallbackCandidates
  split
  · exact accountCandidates_kept route.fallbackAccounts n
  · simp only [hStrategy, ne_eq, not_true_eq_false, decide_false, Bool.false_and,
      Bool.false_eq_true, if_false]
    exact bindingCandidates_kept hStrategy route.fallbackBindings n

theorem orderedPrimary_kept (n : Nat) :
    Kept env (primaryLine config context route).toList
      (orderedPrimary env config context route n).1 n
      (orderedPrimary env config context route n).2.2 := by
  unfold primaryLine orderedPrimary
  cases config.account route.primaryAccountId with
  | none => exact .nil n
  | some account =>
    cases config.provider route.sourceId with
    | none => exact .nil n
    | some provider =>
      simp only []
      split
      · next hOpen =>
        exact (Kept.nil (n + 1)).cons (Bool.and_eq_true_iff.mp hOpen).1
      · next hClosed =>
        refine (Kept.nil (n + 1)).skip (Nat.le_succ n) ?_
        cases hEnabled : account.enabled with
        | false => exact .inl hEnabled
        | true =>
          right
          simp only [hEnabled, Bool.true_and, Bool.not_eq_true] at hClosed
          exact ⟨rfl, hClosed⟩

end Candidates

/-! ## Turns of the loop -/

/-- An attempt whose end lets the next line have its turn. -/
def Attempted.goesOn (made : Attempted) : Bool :=
  match made.result with
  | .ok response => isRetryable response.status
  | .error error => error ≠ .timeout .totalTimeout

/-- What the client receives when an attempt is the last one. -/
def attemptResponse (position : Nat) (made : Attempted) : ClientResponse :=
  match made.result with
  | .ok response => .upstream position response
  | .error error =>
    transportResponse
      (if error = .timeout .totalTimeout then "gateway_total_timeout" else "upstream_request_failed")
      error

/-- The attempt with this number was made at this moment. -/
structure MadeAt (env : Env) (context : AttemptContext) (number n : Nat) (made : Attempted) :
    Prop where
  number : made.usage.attemptNo = number
  result : made.result = answerTo env context made.candidate n
  startedAt : made.startedAt = env.elapsed n

/-- The total timeout has passed by the clock as read at a moment. -/
def Late (env : Env) (context : AttemptContext) (n : Nat) : Prop :=
  context.totalTimeout ≠ 0 ∧ context.totalTimeout ≤ env.elapsed n

inductive Stop where
  | exhausted
  | allowance
  | deadline
  | final
deriving DecidableEq

/-- The turns of some lines from a moment on, with the attempts made before, those made now, and
the reason and the moment of the end. -/
inductive Turns (env : Env) (context : AttemptContext) (limit : Nat) :
    List FallbackCandidate → Nat → Nat → List Attempted → Stop → Nat → Prop where
  | exhausted (n count : Nat) : Turns env context limit [] n count [] .exhausted n
  | allowance {lines : List FallbackCandidate} (n : Nat) {count : Nat} (hSpent : limit ≤ count) :
      Turns env context limit lines n count [] .allowance n
  | skip {line : FallbackCandidate} {rest : List FallbackCandidate} {n count last : Nat}
      {log : List Attempted} {stop : Stop}
      (hDown : (env.health n line.account.id).available = false)
      (hRest : Turns env context limit rest (n + 1) count log stop last) :
      Turns env context limit (line :: rest) n count log stop last
  | deadline {line : FallbackCandidate} {rest : List FallbackCandidate} {n : Nat} (count : Nat)
      (hLate : Late env context (n + 1)) :
      Turns env context limit (line :: rest) n count [] .deadline (n + 2)
  | final {line : FallbackCandidate} {rest : List FallbackCandidate} {n count : Nat}
      {made : Attempted} (hRoom : count < limit)
      (hUp : (env.health n line.account.id).available = true)
      (hEarly : ¬Late env context (n + 1)) (hLine : made.candidate = line)
      (hMade : MadeAt env context count (n + 2) made) (hFinal : made.goesOn = false) :
      Turns env context limit (line :: rest) n count [made] .final (n + 3)
  | next {line : FallbackCandidate} {rest : List FallbackCandidate} {n count last : Nat}
      {made : Attempted} {log : List Attempted} {stop : Stop} (hRoom : count < limit)
      (hUp : (env.health n line.account.id).available = true)
      (hEarly : ¬Late env context (n + 1)) (hLine : made.candidate = line)
      (hMade : MadeAt env context count (n + 2) made) (hOn : made.goesOn = true)
      (hRest : Turns env context limit rest (n + 3) (count + 1) log stop last) :
      Turns env context limit (line :: rest) n count (made :: log) stop last

section Loop

variable {env : Env} {context : AttemptContext}

/-- The loop after one attempt, which became the next one of the log. -/
structure AfterAttempt (s t : OrderedState) (made : Attempted) : Prop where
  log : t.world.log = s.world.log ++ [made]
  attempts : t.attempts = s.attempts ++ [made.usage]
  moment : t.world.moment = s.world.moment + 1
  response : t.lastResponse = some (attemptResponse s.world.log.length made)

theorem execute_made (env : Env) (context : AttemptContext) (candidate : FallbackCandidate)
    (attemptNo : Nat) (isFallback : Bool) (w : World) :
    ∃ made, (execute env context candidate attemptNo isFallback w).2.log = w.log ++ [made] ∧
      (execute env context candidate attemptNo isFallback w).1.usage = made.usage ∧
      made.candidate = candidate ∧ MadeAt env context attemptNo w.moment made :=
  ⟨_, rfl, rfl, rfl, rfl, rfl, rfl⟩

theorem orderedAttempt_made (env : Env) (context : AttemptContext) (candidate : FallbackCandidate)
    (s : OrderedState) :
    ∃ made, made.candidate = candidate ∧
      MadeAt env context s.attempts.length s.world.moment made ∧
      AfterAttempt s (orderedAttempt env context candidate s).1 made ∧
      (orderedAttempt env context candidate s).2 = made.goesOn := by
  obtain ⟨made, hLog, hUsage, hCandidate, hMade⟩ := execute_made env context candidate
    s.attempts.length (!s.attempts.isEmpty || isAccountReason s.fallbackReason) s.world
  have hResult := hMade.result
  rw [hCandidate] at hResult
  refine ⟨made, hCandidate, hMade, ?_⟩
  rw [orderedAttempt, execute_result, Attempted.goesOn, hResult]
  cases hAnswer : answerTo env context candidate s.world.moment with
  | ok answer =>
    refine ⟨⟨hLog, by rw [← hUsage]; rfl, rfl, ?_⟩, rfl⟩
    rw [attemptResponse, hResult, hAnswer]
    rfl
  | error error =>
    refine ⟨⟨hLog, by rw [← hUsage]; rfl, rfl, ?_⟩, ?_⟩
    · rw [attemptResponse, hResult, hAnswer]
      simp [Except.map]
    · simp [Except.map]

/-- The answer to the client once a deadline or the last of some attempts has decided it. -/
def closingResponse (before : Option ClientResponse) (made : List Attempted) (position : Nat) :
    Stop → Option ClientResponse
  | .deadline =>
    some (.gateway 504 "gateway_total_timeout" Stream.StreamTermination.totalTimeout.message)
  | _ =>
    match made.getLast? with
    | some last => some (attemptResponse position last)
    | none => before

/-- What the loop leaves behind when these were its turns. -/
structure LoopEnd (s t : OrderedState) (made : List Attempted) (stop : Stop) (last : Nat) :
    Prop where
  log : t.world.log = s.world.log ++ made
  attempts : t.attempts = s.attempts ++ made.map (·.usage)
  moment : t.world.moment = last
  response : t.lastResponse =
    closingResponse s.lastResponse made (s.world.log.length + made.length - 1) stop

theorem LoopEnd.of_at {s t : OrderedState} {n : Nat} {made : List Attempted} {stop : Stop}
    {last : Nat} (h : LoopEnd { s with world := s.world.at n } t made stop last) :
    LoopEnd s t made stop last :=
  ⟨h.log, h.attempts, h.moment, h.response⟩

theorem LoopEnd.unmoved (s : OrderedState) {stop : Stop} (hStop : stop ≠ .deadline) :
    LoopEnd s s [] stop s.world.moment := by
  refine ⟨by simp, by simp, rfl, ?_⟩
  cases stop with
  | deadline => exact absurd rfl hStop
  | _ => rfl

theorem closingResponse_cons (before : Option ClientResponse) (made : Attempted)
    (later : List Attempted) (position : Nat) (stop : Stop) :
    closingResponse (some (attemptResponse position made)) later
        (position + 1 + later.length - 1) stop =
      closingResponse before (made :: later) (position + (made :: later).length - 1) stop := by
  have hPosition : position + 1 + later.length - 1 = position + (made :: later).length - 1 := by
    simp only [List.length_cons]
    omega
  rw [hPosition]
  cases stop with
  | deadline => rfl
  | _ =>
    cases later with
    | nil => rfl
    | cons next rest =>
      simp only [closingResponse, List.getLast?_cons_cons]
      rw [List.getLast?_eq_some_getLast (List.cons_ne_nil next rest)]

/-- An attempt followed by what the loop did from there. -/
theorem AfterAttempt.loopEnd {s t u : OrderedState} {made : Attempted} {later : List Attempted}
    {stop : Stop} {last : Nat} (hFirst : AfterAttempt s t made)
    (hLater : LoopEnd t u later stop last) : LoopEnd s u (made :: later) stop last := by
  refine ⟨?_, ?_, hLater.moment, ?_⟩
  · rw [hLater.log, hFirst.log, List.append_assoc, List.singleton_append]
  · rw [hLater.attempts, hFirst.attempts, List.append_assoc, List.singleton_append, List.map_cons]
  · rw [hLater.response, hFirst.response, hFirst.log, List.length_append, List.length_singleton]
    exact closingResponse_cons s.lastResponse made later s.world.log.length stop

theorem orderedLoop_turns (limit : Nat) (lines : List FallbackCandidate) (s : OrderedState) :
    ∃ made stop last,
      Turns env context limit lines s.world.moment s.attempts.length made stop last ∧
      LoopEnd s (orderedLoop env context limit lines s) made stop last := by
  induction lines generalizing s with
  | nil => exact ⟨[], .exhausted, s.world.moment, .exhausted _ _, .unmoved s (by decide)⟩
  | cons line rest ih =>
    rw [orderedLoop]
    split
    · next hSpent =>
      exact ⟨[], .allowance, s.world.moment, .allowance _ hSpent, .unmoved s (by decide)⟩
    · next hRoom =>
      dsimp only
      split
      · next hDown =>
        obtain ⟨made, stop, last, hTurns, hEnd⟩ :=
          ih { s with world := s.world.at (s.world.moment + 1) }
        exact ⟨made, stop, last, .skip (by simpa using hDown) hTurns, hEnd.of_at⟩
      · next hUp =>
        split
        · next hLate =>
          exact ⟨[], .deadline, s.world.moment + 2, .deadline _ hLate, by simp [World.at],
            by simp, rfl, rfl⟩
        · next hEarly =>
          have hRoom : s.attempts.length < limit := Nat.lt_of_not_le hRoom
          have hUp : (env.health s.world.moment line.account.id).available = true := by
            simpa using hUp
          obtain ⟨made, hLine, hMade, hAfter, hOn⟩ := orderedAttempt_made env context line
            { s with world := s.world.at (s.world.moment + 2) }
          split
          · next hGoes =>
            obtain ⟨later, stop, last, hTurns, hEnd⟩ := ih (orderedAttempt env context line
              { s with world := s.world.at (s.world.moment + 2) }).1
            rw [hAfter.moment, hAfter.attempts, List.length_append] at hTurns
            refine ⟨made :: later, stop, last, ?_, (hAfter.loopEnd hEnd).of_at⟩
            exact .next hRoom hUp hEarly hLine hMade (hOn.symm.trans hGoes) hTurns
          · next hFinal =>
            have hStops : made.goesOn = false := by
              rw [← hOn]
              exact Bool.eq_false_iff.mpr hFinal
            refine ⟨[made], .final, s.world.moment + 3,
              .final hRoom hUp hEarly hLine hMade hStops, ?_⟩
            have hLast := LoopEnd.unmoved (orderedAttempt env context line
              { s with world := s.world.at (s.world.moment + 2) }).1 (show Stop.final ≠ .deadline by decide)
            rw [hAfter.moment] at hLast
            exact (hAfter.loopEnd hLast).of_at

end Loop

/-! ## Attempts of a run -/

/-- The account was available and the deadline ahead, by two readings right before the attempt. -/
structure Ready (env : Env) (context : AttemptContext) (n : Nat) (made : Attempted) : Prop where
  available : (env.health n made.candidate.account.id).available = true
  early : ¬Late env context (n + 1)
  made : MadeAt env context made.usage.attemptNo (n + 2) made

/-- Readings taken one after another, each followed by its attempt. -/
structure Readings (env : Env) (context : AttemptContext) (first : Nat) (log : List Attempted)
    (moments : List Nat) : Prop where
  ready : List.Forall₂ (Ready env context) moments log
  apart : moments.Pairwise fun n later => n + 3 ≤ later
  later : ∀ n ∈ moments, first ≤ n

theorem Readings.widen {env : Env} {context : AttemptContext} {first first' : Nat}
    {log : List Attempted} {moments : List Nat} (hFirst : first' ≤ first)
    (h : Readings env context first log moments) : Readings env context first' log moments :=
  ⟨h.ready, h.apart, fun n hn => Nat.le_trans hFirst (h.later n hn)⟩

namespace Turns

variable {env : Env} {context : AttemptContext} {limit n count last : Nat}
  {lines : List FallbackCandidate} {log : List Attempted} {stop : Stop}

theorem inOrder (h : Turns env context limit lines n count log stop last) :
    (log.map (·.candidate)).Sublist lines := by
  induction h with
  | exhausted => exact .slnil
  | allowance => exact List.nil_sublist _
  | skip hDown hRest ih => exact ih.cons _
  | deadline => exact List.nil_sublist _
  | final hRoom hUp hEarly hLine hMade hFinal =>
    subst hLine
    exact (List.nil_sublist _).cons_cons _
  | next hRoom hUp hEarly hLine hMade hOn hRest ih =>
    subst hLine
    exact ih.cons_cons _

theorem readings (h : Turns env context limit lines n count log stop last) :
    ∃ moments, Readings env context n log moments := by
  induction h with
  | exhausted => exact ⟨[], .nil, .nil, nofun⟩
  | allowance => exact ⟨[], .nil, .nil, nofun⟩
  | skip hDown hRest ih =>
    obtain ⟨moments, hMoments⟩ := ih
    exact ⟨moments, hMoments.widen (Nat.le_succ _)⟩
  | deadline => exact ⟨[], .nil, .nil, nofun⟩
  | @final line rest n count made hRoom hUp hEarly hLine hMade hFinal =>
    subst hLine
    have hReady : Ready env context n made := ⟨hUp, hEarly, rfl, hMade.result, hMade.startedAt⟩
    exact ⟨[n], .cons hReady .nil, List.pairwise_singleton _ n, by simp⟩
  | @next line rest n count last made log stop hRoom hUp hEarly hLine hMade hOn hRest ih =>
    subst hLine
    obtain ⟨moments, hMoments⟩ := ih
    have hReady : Ready env context n made := ⟨hUp, hEarly, rfl, hMade.result, hMade.startedAt⟩
    refine ⟨n :: moments, .cons hReady hMoments.ready, ?_, ?_⟩
    · exact hMoments.apart.cons hMoments.later
    · rintro m (_ | ⟨_, hm⟩)
      · exact Nat.le_refl n
      · have := hMoments.later m hm
        omega

theorem withinLimit (h : Turns env context limit lines n count log stop last)
    (hCount : count ≤ limit) : count + log.length ≤ limit := by
  induction h with
  | exhausted => exact hCount
  | allowance => exact hCount
  | skip hDown hRest ih => exact ih hCount
  | deadline => exact hCount
  | final hRoom => exact hRoom
  | next hRoom hUp hEarly hLine hMade hOn hRest ih =>
    have := ih hRoom
    simp only [List.length_cons]
    omega

theorem goesOn (h : Turns env context limit lines n count log stop last) :
    ∀ made ∈ log.dropLast, made.goesOn = true := by
  induction h with
  | exhausted => simp
  | allowance => simp
  | skip hDown hRest ih => exact ih
  | deadline => simp
  | final => simp
  | @next line rest n count last made log stop hRoom hUp hEarly hLine hMade hOn hRest ih =>
    cases log with
    | nil => simp
    | cons first later =>
      rintro m (_ | ⟨_, hm⟩)
      · exact hOn
      · exact ih m hm

theorem numbered (h : Turns env context limit lines n count log stop last) :
    log.map (·.usage.attemptNo) = List.range' count log.length := by
  induction h with
  | exhausted => rfl
  | allowance => rfl
  | skip hDown hRest ih => exact ih
  | deadline => rfl
  | final hRoom hUp hEarly hLine hMade hFinal => simp [hMade.number]
  | next hRoom hUp hEarly hLine hMade hOn hRest ih =>
    rw [List.map_cons, ih, hMade.number, List.length_cons, List.range'_succ]

/-- A loop that ran out of lines passed over those that were unavailable at their turn only. -/
theorem tried (h : Turns env context limit lines n count log stop last) (hStop : stop = .exhausted) :
    ∀ line ∈ lines, line ∈ log.map (·.candidate) ∨
      ∃ m, (env.health m line.account.id).available = false := by
  induction h with
  | exhausted => simp
  | allowance => cases hStop
  | @skip line rest n count last log stop hDown hRest ih =>
    rintro l (_ | ⟨_, hl⟩)
    · exact .inr ⟨n, hDown⟩
    · exact ih hStop l hl
  | deadline => cases hStop
  | final => cases hStop
  | next hRoom hUp hEarly hLine hMade hOn hRest ih =>
    subst hLine
    rintro l (_ | ⟨_, hl⟩)
    · exact .inl List.mem_cons_self
    · exact (ih hStop l hl).imp_left (List.mem_cons_of_mem _)

theorem spent (h : Turns env context limit lines n count log stop last) (hStop : stop = .allowance) :
    limit ≤ count + log.length := by
  induction h with
  | exhausted => cases hStop
  | allowance n hSpent => exact hSpent
  | skip hDown hRest ih => exact ih hStop
  | deadline => cases hStop
  | final => cases hStop
  | next hRoom hUp hEarly hLine hMade hOn hRest ih =>
    have := ih hStop
    simp only [List.length_cons]
    omega

theorem late (h : Turns env context limit lines n count log stop last) (hStop : stop = .deadline) :
    ∃ m, last = m + 1 ∧ Late env context m := by
  induction h with
  | exhausted => cases hStop
  | allowance => cases hStop
  | skip hDown hRest ih => exact ih hStop
  | deadline count hLate => exact ⟨_, rfl, hLate⟩
  | final => cases hStop
  | next hRoom hUp hEarly hLine hMade hOn hRest ih => exact ih hStop

theorem final_last (h : Turns env context limit lines n count log stop last)
    (hStop : stop = .final) : ∃ made, log.getLast? = some made ∧ made.goesOn = false := by
  induction h with
  | exhausted => cases hStop
  | allowance => cases hStop
  | skip hDown hRest ih => exact ih hStop
  | deadline => cases hStop
  | final hRoom hUp hEarly hLine hMade hFinal => exact ⟨_, rfl, hFinal⟩
  | next hRoom hUp hEarly hLine hMade hOn hRest ih =>
    obtain ⟨made, hLast, hFinal⟩ := ih hStop
    exact ⟨made, by simp [List.getLast?_cons, hLast], hFinal⟩

end Turns

/-! ## The whole request -/

section Run

variable (env : Env) (config : GatewayConfig) (context : AttemptContext) (route : ResolvedRoute)

/-- Why a request made no further attempt.  A line that was passed over costs nothing: the
allowance is used up by attempts alone. -/
def StoppedBy (done : Completion) : Stop → Prop
  | .exhausted => ∀ line ∈ orderedLines config context route,
    line ∈ done.world.log.map (·.candidate) ∨ line.account.enabled = false ∨
      ∃ n, (env.health n line.account.id).available = false
  | .allowance => done.world.log.length = attemptLimit route.maxRetries
  | .deadline => ∃ n, done.world.moment = n + 1 ∧ Late env context n
  | .final => ∃ made, done.world.log.getLast? = some made ∧ made.goesOn = false

/-- The attempts of a request under the ordered strategy, and the answer they lead to. -/
structure OrderedRun (stop : Stop) (done : Completion) : Prop where
  inOrder : (done.world.log.map (·.candidate)).Sublist (orderedLines config context route)
  enabled : ∀ made ∈ done.world.log, made.candidate.account.enabled = true
  ready : ∃ moments, Readings env context 0 done.world.log moments
  allowance : ∀ retries, route.maxRetries = some retries →
    (done.world.log.length : Int) ≤ retries + 1
  stopped : StoppedBy env config context route done stop
  goesOn : ∀ made ∈ done.world.log.dropLast, made.goesOn = true
  numbered : done.world.log.map (·.usage.attemptNo) = List.range done.world.log.length
  recorded : done.attempts = done.world.log.map (·.usage)
  answered : done.response = (closingResponse none done.world.log (done.world.log.length - 1)
    stop).getD (.gateway 503 "route_unavailable" "no upstream line is currently available")

theorem attemptLimit_some {retries : Int} (hLow : 0 ≤ retries) (hHigh : retries < 2 ^ 31) :
    (attemptLimit (some retries) : Int) = retries + 1 := by
  simp only [attemptLimit]
  omega

/-- The lines a request sets out with. -/
def openLines (n : Nat) : List FallbackCandidate × Nat :=
  let primary := orderedPrimary env config context route n
  let fallbacks := availableFallbackCandidates env config route context.model context.protocol
    primary.2.2
  (primary.1 ++ fallbacks.1, fallbacks.2)

variable {env config context route}

theorem openLines_kept (hStrategy : route.strategy = "ordered_fallback") (n : Nat) :
    Kept env (orderedLines config context route) (openLines env config context route n).1 n
      (openLines env config context route n).2 :=
  (orderedPrimary_kept n).append (availableFallbackCandidates_kept hStrategy _)

theorem StoppedBy.of_turns {lines : List FallbackCandidate} {first n : Nat} {stop : Stop}
    {done : Completion} (hKept : Kept env (orderedLines config context route) lines first n)
    (hTurns : Turns env context (attemptLimit route.maxRetries) lines n 0 done.world.log stop
      done.world.moment) : StoppedBy env config context route done stop := by
  cases stop with
  | exhausted =>
    intro line hLine
    rcases hKept.leftOut line hLine with hOpen | hOff | ⟨m, -, -, hDown⟩
    · exact (hTurns.tried rfl line hOpen).imp_right .inr
    · exact .inr (.inl hOff)
    · exact .inr (.inr ⟨m, hDown⟩)
  | allowance =>
    have hWithin := hTurns.withinLimit (Nat.zero_le _)
    have hSpent := hTurns.spent rfl
    change done.world.log.length = attemptLimit route.maxRetries
    omega
  | deadline => exact hTurns.late rfl
  | final => exact hTurns.final_last rfl

theorem OrderedRun.of_turns {lines : List FallbackCandidate} {n : Nat} {stop : Stop}
    {done : Completion} (hKept : Kept env (orderedLines config context route) lines 0 n)
    (hRetries : ∀ retries, route.maxRetries = some retries → 0 ≤ retries ∧ retries < 2 ^ 31)
    (hTurns : Turns env context (attemptLimit route.maxRetries) lines n 0 done.world.log stop
      done.world.moment)
    (hRecorded : done.attempts = done.world.log.map (·.usage))
    (hAnswered : done.response = (closingResponse none done.world.log (done.world.log.length - 1)
      stop).getD (.gateway 503 "route_unavailable" "no upstream line is currently available")) :
    OrderedRun env config context route stop done where
  inOrder := hTurns.inOrder.trans hKept.inOrder
  enabled := by
    intro made hMade
    exact hKept.enabled _ (hTurns.inOrder.subset (List.mem_map_of_mem hMade))
  ready := by
    obtain ⟨moments, hMoments⟩ := hTurns.readings
    exact ⟨moments, hMoments.widen (Nat.zero_le n)⟩
  allowance := by
    intro retries hSome
    obtain ⟨hLow, hHigh⟩ := hRetries retries hSome
    have hLimit := attemptLimit_some hLow hHigh
    have hWithin := hTurns.withinLimit (Nat.zero_le _)
    rw [hSome] at hWithin
    omega
  stopped := .of_turns hKept hTurns
  goesOn := hTurns.goesOn
  numbered := by rw [hTurns.numbered, List.range_eq_range']
  recorded := hRecorded
  answered := hAnswered

end Run

/-- The turns that a request took, with what it recorded and answered. -/
theorem proxyOrdered_turns (env : Env) (config : GatewayConfig) (context : AttemptContext)
    (route : ResolvedRoute) :
    let done := proxyOrdered env config context route {}
    ∃ stop, Turns env context (attemptLimit route.maxRetries)
        (openLines env config context route 0).1 (openLines env config context route 0).2 0
        done.world.log stop done.world.moment ∧
      done.attempts = done.world.log.map (·.usage) ∧
      done.response = (closingResponse none done.world.log (done.world.log.length - 1) stop).getD
        (.gateway 503 "route_unavailable" "no upstream line is currently available") := by
  obtain ⟨log, stop, last, hTurns, hEnd⟩ := orderedLoop_turns (attemptLimit route.maxRetries)
    (openLines env config context route 0).1
    { usageRequestBody := context.body
      fallbackReason := (orderedPrimary env config context route 0).2.1
      world := { moment := (openLines env config context route 0).2 } }
  have hLog := hEnd.log
  have hMoment := hEnd.moment
  have hResponse := hEnd.response
  simp only [List.nil_append] at hLog
  subst hLog hMoment
  simp only [List.length_nil, Nat.zero_add] at hResponse
  refine ⟨stop, hTurns, hEnd.attempts, ?_⟩
  exact congrArg (Option.getD · (.gateway 503 "route_unavailable"
    "no upstream line is currently available")) hResponse

/-- Every request under the ordered strategy tries its route's lines in order, each while it is
available and the deadline ahead, within the allowance, and answers as its last step did. -/
theorem proxyOrdered_run (env : Env) (config : GatewayConfig) (context : AttemptContext)
    (route : ResolvedRoute) (hStrategy : route.strategy = "ordered_fallback")
    (hRetries : ∀ retries, route.maxRetries = some retries → 0 ≤ retries ∧ retries < 2 ^ 31) :
    ∃ stop, OrderedRun env config context route stop (proxyOrdered env config context route {}) := by
  obtain ⟨stop, hTurns, hRecorded, hAnswered⟩ := proxyOrdered_turns env config context route
  exact ⟨stop, .of_turns (openLines_kept hStrategy 0) hRetries hTurns hRecorded hAnswered⟩

/-- Two lines and one retry: the primary is overloaded and the fallback cannot be reached. -/
def twoLines : ResolvedRoute :=
  { LostFallback.route with
    strategy := "ordered_fallback"
    maxRetries := some 1 }

theorem proxyOrdered_run_two_lines :
    (proxyOrdered LostFallback.env LostFallback.config LostFallback.context twoLines
        {}).world.log.map (·.candidate.account.id) = ["a", "b"] ∧
      ∃ stop, OrderedRun LostFallback.env LostFallback.config LostFallback.context twoLines stop
        (proxyOrdered LostFallback.env LostFallback.config LostFallback.context twoLines {}) := by
  refine ⟨by decide, proxyOrdered_run _ _ _ _ rfl ?_⟩
  intro retries hRetries
  obtain rfl : 1 = retries := Option.some.inj hRetries
  decide

end AiGateway.Proxy
