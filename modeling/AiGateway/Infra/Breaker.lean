import AiGateway.Infra.Health

/-!
# The breaker behind an account's health

Both stores keep a failure counter, the start of the failure window and the end
of the cooldown.  The lemmas say what a report does to these three, whichever
store holds them.
-/

namespace AiGateway.Health

set_option autoImplicit false

structure Breaker where
  failures : Nat
  windowStart : Option DateTime
  cooldownUntil : Option DateTime
  deriving DecidableEq, Repr

def Breaker.closed : Breaker := ⟨0, none, none⟩

/-- A failure report on counters without a width. -/
def Breaker.fail (config : HealthConfig) (now : DateTime) (b : Breaker) : Breaker :=
  if isActive b.cooldownUntil now then b
  else
    let expired := windowExpired b.windowStart now config.failureWindow
    let failures := if expired then 1 else b.failures + 1
    { failures := failures
      windowStart := if expired then some now else b.windowStart
      cooldownUntil :=
        if config.failureThreshold.toNat ≤ failures then some (cooldownEnd config now failures)
        else none }

def MemoryAccountState.breaker (state : MemoryAccountState) : Breaker :=
  ⟨state.consecutiveFailures, state.failureWindowStartedAt, state.cooldownUntil⟩

def AccountHealthRow.breaker (row : AccountHealthRow) : Breaker :=
  ⟨row.consecutiveFailures.toNat, row.failureWindowStartedAt, row.cooldownUntil⟩

namespace HealthRegistry

def breaker (registry : HealthRegistry) (accountId : String) : Breaker :=
  match registry.store with
  | .memory state => ((state.get accountId).getD {}).breaker
  | .database rows => ((rows.get accountId).map AccountHealthRow.breaker).getD .closed

/-- Reports on the account are written: with a database its row must exist and
neither the account nor its source be disabled. -/
def recorded (registry : HealthRegistry) (accountId : String) : Bool :=
  match registry.store with
  | .memory _ => true
  | .database rows => (rows.get accountId).any fun row => row.enabled && row.sourceEnabled

/-- The largest counter the store keeps. -/
def counterCap (registry : HealthRegistry) : Nat :=
  match registry.store with
  | .memory _ => maxU32
  | .database _ => 2 ^ 31 - 1

/-- The largest counter a report compares with the threshold: a row's counter is
compared before it is cut to its column. -/
def counterLimit (registry : HealthRegistry) : Nat :=
  match registry.store with
  | .memory _ => maxU32
  | .database _ => 2 ^ 31

theorem lt_counterLimit {registry : HealthRegistry} {n : Nat} (h : n < registry.counterLimit) :
    n ≤ registry.counterCap := by
  rw [counterLimit] at h
  rw [counterCap]
  split at h
  · exact Nat.le_of_lt h
  · exact Nat.le_sub_one_of_lt h

def inCooldown (registry : HealthRegistry) (now : DateTime) (accountId : String) : Bool :=
  isActive (registry.getHealth now accountId).cooldownUntil now

variable {registry : HealthRegistry} {now : DateTime} {accountId source : String}
  {message : Option String}

/-- Reports change what the store holds, never its kind. -/
structure SameKind (registry later : HealthRegistry) : Prop where
  config : later.config = registry.config
  cap : later.counterCap = registry.counterCap
  limit : later.counterLimit = registry.counterLimit

theorem SameKind.refl (registry : HealthRegistry) : SameKind registry registry := ⟨rfl, rfl, rfl⟩

theorem SameKind.trans {first second third : HealthRegistry} (h : SameKind first second)
    (h' : SameKind second third) : SameKind first third :=
  ⟨h'.config.trans h.config, h'.cap.trans h.cap, h'.limit.trans h.limit⟩

theorem markFailure_sameKind :
    SameKind registry (registry.markFailureWithDetails now accountId source message).1 := by
  rw [markFailureWithDetails]
  split
  · next hStore => exact ⟨rfl, by simp [counterCap, hStore], by simp [counterLimit, hStore]⟩
  · next hStore =>
    split
    · exact .refl registry
    · exact ⟨rfl, by simp [counterCap, hStore], by simp [counterLimit, hStore]⟩

theorem markSuccess_sameKind : SameKind registry (registry.markSuccess now accountId) := by
  rw [markSuccess, markSuccessWithSource]
  split
  · next hStore => exact ⟨rfl, by simp [counterCap, hStore], by simp [counterLimit, hStore]⟩
  · next hStore =>
    split
    · exact .refl registry
    · exact ⟨rfl, by simp [counterCap, hStore], by simp [counterLimit, hStore]⟩

theorem markFailure_of_ne {other : String} (h : other ≠ accountId) :
    (registry.markFailureWithDetails now accountId source message).1.breaker other =
      registry.breaker other ∧
    (registry.markFailureWithDetails now accountId source message).1.recorded other =
      registry.recorded other := by
  rw [markFailureWithDetails]
  split
  · next hStore => simp [breaker, recorded, hStore, Table.get_insert, h]
  · next hStore => split <;> simp [breaker, recorded, hStore, Table.get_insert, h]

theorem markSuccess_of_ne {other : String} (h : other ≠ accountId) :
    (registry.markSuccess now accountId).breaker other = registry.breaker other ∧
      (registry.markSuccess now accountId).recorded other = registry.recorded other := by
  rw [markSuccess, markSuccessWithSource]
  split
  · next hStore => simp [breaker, recorded, hStore, Table.get_insert, h]
  · next hStore => split <;> simp [breaker, recorded, hStore, Table.get_insert, h]

theorem markMemoryFailure_breaker {config : HealthConfig} {entry : MemoryAccountState}
    (source : String) (message : Option String)
    (h : windowExpired entry.failureWindowStartedAt now config.failureWindow = true ∨
      entry.consecutiveFailures < maxU32) :
    (markMemoryFailure config now source message entry).1.breaker =
      entry.breaker.fail config now := by
  have hProbe : (markMemoryFailure config now source message entry).1.breaker =
      (if isActive entry.cooldownUntil now then entry else countFailure config now entry).breaker := by
    rw [markMemoryFailure]
    dsimp only
    split <;> rfl
  rw [hProbe]
  by_cases hActive : isActive entry.cooldownUntil now = true
  · simp [Breaker.fail, MemoryAccountState.breaker, hActive]
  · by_cases hExpired :
        windowExpired entry.failureWindowStartedAt now config.failureWindow = true
    · by_cases hReached : config.failureThreshold.toNat ≤ 1 <;>
        simp [Breaker.fail, MemoryAccountState.breaker, countFailure, hActive, hExpired, hReached]
    · have hMin : min (entry.consecutiveFailures + 1) maxU32 = entry.consecutiveFailures + 1 :=
        Nat.min_eq_left (h.resolve_left hExpired)
      by_cases hReached : config.failureThreshold.toNat ≤ entry.consecutiveFailures + 1 <;>
        simp [Breaker.fail, MemoryAccountState.breaker, countFailure, hActive, hExpired, hMin,
          hReached]

theorem countedRow_eq (config : HealthConfig) (now : DateTime) (row : AccountHealthRow) :
    (countedRow config now row).1 = (row.breaker.fail config now).failures ∧
      (countedRow config now row).2.1 = (row.breaker.fail config now).windowStart ∧
      (countedRow config now row).2.2.1 = (row.breaker.fail config now).cooldownUntil := by
  by_cases hActive : isActive row.cooldownUntil now = true
  · simp [countedRow, Breaker.fail, AccountHealthRow.breaker, hActive]
  · by_cases hExpired : windowExpired row.failureWindowStartedAt now config.failureWindow = true
    · by_cases hReached : config.failureThreshold.toNat ≤ 1 <;>
        simp [countedRow, Breaker.fail, AccountHealthRow.breaker, hActive, hExpired, hReached]
    · by_cases hReached : config.failureThreshold.toNat ≤ row.consecutiveFailures.toNat + 1 <;>
        simp [countedRow, Breaker.fail, AccountHealthRow.breaker, hActive, hExpired, hReached]

theorem recordFailure_breaker {config : HealthConfig} {row : AccountHealthRow}
    (hAccount : row.enabled = true) (hSource : row.sourceEnabled = true) :
    (recordAccountHealthFailure config now source message row).1.breaker =
      { row.breaker.fail config now with
        failures := min (row.breaker.fail config now).failures (2 ^ 31 - 1) } := by
  obtain ⟨hFailures, hStart, hUntil⟩ := countedRow_eq config now row
  have hToNat : (min (((countedRow config now row).1 : Nat) : Int) maxI32).toNat =
      min (countedRow config now row).1 (2 ^ 31 - 1) := by
    rw [maxI32]
    omega
  rw [recordAccountHealthFailure]
  simp only [hAccount, hSource, Bool.not_true, Bool.or_self, Bool.false_eq_true, if_false]
  rw [← hFailures, ← hStart, ← hUntil, ← hToNat]
  split <;> rfl

theorem recordFailure_enabled {config : HealthConfig} {row : AccountHealthRow} :
    (recordAccountHealthFailure config now source message row).1.enabled = row.enabled ∧
      (recordAccountHealthFailure config now source message row).1.sourceEnabled =
        row.sourceEnabled := by
  rw [recordAccountHealthFailure]
  split
  · exact ⟨rfl, rfl⟩
  · dsimp only
    split <;> exact ⟨rfl, rfl⟩

/-- The report opens a window, or the counter has room. -/
def CanCount (registry : HealthRegistry) (now : DateTime) (b : Breaker) : Prop :=
  (isActive b.cooldownUntil now = false ∧
    windowExpired b.windowStart now registry.config.failureWindow = true) ∨
  b.failures < registry.counterLimit

theorem fail_failures_le {config : HealthConfig} {b : Breaker} {limit : Nat} (hLimit : 1 ≤ limit)
    (h : (isActive b.cooldownUntil now = false ∧
      windowExpired b.windowStart now config.failureWindow = true) ∨ b.failures < limit) :
    (b.fail config now).failures ≤ limit := by
  rw [Breaker.fail]
  split
  · next hActive =>
    obtain ⟨hIdle, -⟩ | hRoom := h
    · simp [hIdle] at hActive
    · exact Nat.le_of_lt hRoom
  · dsimp only
    split
    · exact hLimit
    · next hOpen =>
      obtain ⟨-, hExpired⟩ | hRoom := h
      · exact absurd hExpired hOpen
      · exact hRoom

theorem markFailure_recorded :
    (registry.markFailureWithDetails now accountId source message).1.recorded accountId =
      registry.recorded accountId := by
  rw [markFailureWithDetails]
  split
  · next hStore => simp [recorded, hStore]
  · next hStore =>
    split
    · rfl
    · next hRow => simp [recorded, hStore, hRow, Table.get_insert, recordFailure_enabled]

/-- A failure report of a recorded account. -/
theorem markFailure_breaker (now : DateTime) (source : String) (message : Option String)
    (hRecorded : registry.recorded accountId = true)
    (hCount : registry.CanCount now (registry.breaker accountId)) :
    (registry.markFailureWithDetails now accountId source message).1.breaker accountId =
      { (registry.breaker accountId).fail registry.config now with
        failures := min ((registry.breaker accountId).fail registry.config now).failures
          registry.counterCap } := by
  rw [CanCount, counterLimit] at hCount
  rw [counterCap]
  cases hStore : registry.store with
  | memory state =>
    simp only [hStore, breaker] at hCount
    have hSmall := fail_failures_le (by decide) hCount
    have hEntry := markMemoryFailure_breaker source message (hCount.imp_left And.right)
    simp [markFailureWithDetails, breaker, hStore, Table.get_insert, hEntry,
      Nat.min_eq_left hSmall]
  | database rows =>
    cases hRow : rows.get accountId with
    | none => simp [recorded, hStore, hRow] at hRecorded
    | some row =>
      simp only [recorded, hStore, hRow, Option.any_some, Bool.and_eq_true] at hRecorded
      simp [markFailureWithDetails, breaker, hStore, hRow, Table.get_insert,
        recordFailure_breaker hRecorded.1 hRecorded.2]

theorem markFailure_unrecorded (h : registry.recorded accountId = false) :
    (registry.markFailureWithDetails now accountId source message).1.breaker accountId =
      registry.breaker accountId := by
  cases hStore : registry.store with
  | memory state => simp [recorded, hStore] at h
  | database rows =>
    cases hRow : rows.get accountId with
    | none => simp [markFailureWithDetails, hStore, hRow]
    | some row =>
      have hDisabled : (!row.enabled || !row.sourceEnabled) = true := by
        simpa [recorded, hStore, hRow, Bool.or_eq_true, imp_iff_not_or] using h
      simp [markFailureWithDetails, breaker, hStore, hRow, Table.get_insert,
        recordAccountHealthFailure, hDisabled]

theorem markSuccess_recorded :
    (registry.markSuccess now accountId).recorded accountId = registry.recorded accountId := by
  rw [markSuccess, markSuccessWithSource]
  split
  · next hStore => simp [recorded, hStore]
  · next hStore =>
    split
    · rfl
    · next row hRow =>
      have hKept : (recordAccountHealthSuccess now "passive" row).enabled = row.enabled ∧
          (recordAccountHealthSuccess now "passive" row).sourceEnabled = row.sourceEnabled := by
        rw [recordAccountHealthSuccess]
        split
        · exact ⟨rfl, rfl⟩
        · dsimp only
          split <;> exact ⟨rfl, rfl⟩
      simp [recorded, hStore, hRow, Table.get_insert, hKept]

theorem markSuccess_breaker (now : DateTime) (hRecorded : registry.recorded accountId = true) :
    (registry.markSuccess now accountId).breaker accountId = .closed := by
  cases hStore : registry.store with
  | memory state =>
    simp [markSuccess, markSuccessWithSource, breaker, hStore, Table.get_insert, markMemorySuccess,
      MemoryAccountState.breaker, Breaker.closed]
  | database rows =>
    cases hRow : rows.get accountId with
    | none => simp [recorded, hStore, hRow] at hRecorded
    | some row =>
      simp only [recorded, hStore, hRow, Option.any_some, Bool.and_eq_true] at hRecorded
      simp [markSuccess, markSuccessWithSource, breaker, hStore, hRow, Table.get_insert,
        recordAccountHealthSuccess, normalizeSource, hRecorded, AccountHealthRow.breaker,
        Breaker.closed]

theorem markSuccess_unrecorded (h : registry.recorded accountId = false) :
    (registry.markSuccess now accountId).breaker accountId = registry.breaker accountId := by
  cases hStore : registry.store with
  | memory state => simp [recorded, hStore] at h
  | database rows =>
    cases hRow : rows.get accountId with
    | none => simp [markSuccess, markSuccessWithSource, hStore, hRow]
    | some row =>
      have hDisabled : (!row.enabled || !row.sourceEnabled) = true := by
        simpa [recorded, hStore, hRow, Bool.or_eq_true, imp_iff_not_or] using h
      simp [markSuccess, markSuccessWithSource, breaker, hStore, hRow, Table.get_insert,
        recordAccountHealthSuccess, hDisabled]

theorem inCooldown_eq (registry : HealthRegistry) (now : DateTime) (accountId : String) :
    registry.inCooldown now accountId =
      isActive (registry.breaker accountId).cooldownUntil now := by
  rw [inCooldown, getHealth]
  cases hStore : registry.store with
  | memory state =>
    cases hEntry : state.get accountId with
    | none => simp [breaker, hStore, hEntry, unknownHealth, MemoryAccountState.breaker]
    | some entry => simp [breaker, hStore, hEntry, memoryHealth, MemoryAccountState.breaker]
  | database rows =>
    cases hRow : rows.get accountId with
    | none => simp [breaker, hStore, hRow, unknownHealth, Breaker.closed]
    | some row => simp [breaker, hStore, hRow, healthFromRow, AccountHealthRow.breaker]

end HealthRegistry

end AiGateway.Health
