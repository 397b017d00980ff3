import AiGateway.Infra.Breaker

/-!
# One breaker in two stores

The reports on an account reach its entry in memory when there is no database
and its row when there is one.  As long as the counter fits its column, both
go through the same states and are open to routing at the same instants.
-/

namespace AiGateway.Health

set_option autoImplicit false

open HealthRegistry

inductive Report where
  | failure (source : String) (errorMessage : Option String)
  | success (source : String)
  deriving DecidableEq, Repr

structure Observation where
  observedAt : DateTime
  report : Report
  deriving DecidableEq, Repr

/-- What a caller can see after a report: whether it started a cooldown, the
breaker, and at which instants the account is available. -/
@[ext]
structure Seen where
  cooldownStarted : Bool
  breaker : Breaker
  availableAt : DateTime → Bool

namespace HealthRegistry

def apply (registry : HealthRegistry) (accountId : String) (o : Observation) :
    HealthRegistry × Bool :=
  match o.report with
  | .failure source message =>
    registry.markFailureWithDetails o.observedAt accountId source message
  | .success source => (registry.markSuccessWithSource o.observedAt accountId source, false)

def seen (registry : HealthRegistry) (accountId : String) (cooldownStarted : Bool) : Seen where
  cooldownStarted := cooldownStarted
  breaker := registry.breaker accountId
  availableAt := fun later => registry.isAvailable later accountId

/-- What is seen after each of the reports. -/
def trace (registry : HealthRegistry) (accountId : String) : List Observation → List Seen
  | [] => []
  | o :: rest =>
    (registry.apply accountId o).1.seen accountId (registry.apply accountId o).2 ::
      (registry.apply accountId o).1.trace accountId rest

end HealthRegistry

/-- An entry in memory and a row that stand for the same breaker. -/
structure Mirrors (entry : MemoryAccountState) (row : AccountHealthRow) : Prop where
  accountEnabled : row.enabled = true
  sourceEnabled : row.sourceEnabled = true
  entryEnabled : entry.enabled = true
  breaker : entry.breaker = row.breaker
  /-- Staleness is read only while a cooldown is set, and then both were written together. -/
  updated : entry.cooldownUntil = none ∨
    ∃ instant, entry.updatedAt = some instant ∧ row.healthUpdatedAt = some instant

section Step

variable {config : HealthConfig} {now : DateTime} {source : String} {message : Option String}
  {entry : MemoryAccountState} {row : AccountHealthRow}

theorem memoryHealth_available (h : entry.enabled = true) :
    (memoryHealth config now entry).available =
      (!isActive entry.cooldownUntil now || stale now entry.updatedAt config.staleAfter) := by
  simp only [memoryHealth, h, Bool.not_true, Bool.false_eq_true, if_false, Bool.true_and]
  rw [Bool.and_eq_left_iff_imp]
  intro _
  split_ifs <;> decide

theorem healthFromRow_available (hAccount : row.enabled = true) (hSource : row.sourceEnabled = true) :
    (healthFromRow config now row).available =
      (!isActive row.cooldownUntil now ||
        stale now (row.healthUpdatedAt.orElse fun _ => some row.accountUpdatedAt)
          config.staleAfter) := by
  simp only [healthFromRow, hAccount, hSource, Bool.not_true, Bool.or_self, Bool.false_eq_true,
    if_false, Bool.true_and]
  rw [Bool.and_eq_left_iff_imp]
  intro _
  split_ifs <;> decide

theorem Mirrors.available (h : Mirrors entry row) :
    (memoryHealth config now entry).available = (healthFromRow config now row).available := by
  rw [memoryHealth_available h.entryEnabled,
    healthFromRow_available h.accountEnabled h.sourceEnabled]
  have hUntil : entry.cooldownUntil = row.cooldownUntil := congrArg Breaker.cooldownUntil h.breaker
  obtain hNone | ⟨instant, hEntry, hRow⟩ := h.updated
  · rw [← hUntil, hNone]
    rfl
  · rw [hUntil, hEntry, hRow]
    rfl

/-- The flag of a failure report, in the words of the breaker. -/
def Breaker.trips (config : HealthConfig) (now : DateTime) (b : Breaker) : Bool :=
  !isActive b.cooldownUntil now && (b.fail config now).cooldownUntil.isSome

theorem trips_eq (config : HealthConfig) (now : DateTime) (b : Breaker) :
    b.trips config now = (!isActive b.cooldownUntil now &&
      decide (config.failureThreshold.toNat ≤ (b.fail config now).failures)) := by
  unfold Breaker.trips Breaker.fail
  cases hActive : isActive b.cooldownUntil now with
  | true => rfl
  | false =>
    simp only [Bool.false_eq_true, if_false, Bool.not_false, Bool.true_and]
    generalize (if windowExpired b.windowStart now config.failureWindow = true then 1
      else b.failures + 1) = failures
    split
    · next hReached => rw [decide_eq_true hReached]; rfl
    · next hBelow => rw [decide_eq_false hBelow]; rfl

/-- The parts of an entry that a failure report settles outside the breaker. -/
theorem markMemoryFailure_rest :
    (markMemoryFailure config now source message entry).1.enabled = entry.enabled ∧
      (markMemoryFailure config now source message entry).1.updatedAt = some now := by
  have hEnabled : (countFailure config now entry).enabled = entry.enabled := by
    unfold countFailure
    dsimp only
    split_ifs <;> rfl
  unfold markMemoryFailure
  dsimp only
  split_ifs <;> exact ⟨by first | rfl | exact hEnabled, rfl⟩

theorem markMemoryFailure_started (hRoom : entry.consecutiveFailures < maxU32) :
    (markMemoryFailure config now source message entry).2 = entry.breaker.trips config now := by
  have hFailures := congrArg Breaker.failures
    (markMemoryFailure_breaker source message (.inr hRoom) :
      (markMemoryFailure config now source message entry).1.breaker = entry.breaker.fail config now)
  rw [trips_eq, ← hFailures]
  unfold markMemoryFailure
  dsimp only
  split_ifs <;> rfl

theorem recordFailure_started (hAccount : row.enabled = true) (hSource : row.sourceEnabled = true) :
    (recordAccountHealthFailure config now source message row).2 = row.breaker.trips config now := by
  obtain ⟨-, -, hUntil⟩ := countedRow_eq config now row
  unfold recordAccountHealthFailure Breaker.trips
  simp only [hAccount, hSource, Bool.not_true, Bool.or_self, Bool.false_eq_true, if_false, hUntil]
  rfl

theorem recordFailure_updatedAt (hAccount : row.enabled = true) (hSource : row.sourceEnabled = true) :
    (recordAccountHealthFailure config now source message row).1.healthUpdatedAt = some now := by
  unfold recordAccountHealthFailure
  simp only [hAccount, hSource, Bool.not_true, Bool.or_self, Bool.false_eq_true, if_false]
  split <;> rfl

/-- A failure report that leaves the counter below its column's limit. -/
theorem Mirrors.failure (h : Mirrors entry row) (hRoom : entry.consecutiveFailures < maxU32)
    (hBelow : ((markMemoryFailure config now source message entry).1.breaker.failures : Int) <
      maxI32) :
    Mirrors (markMemoryFailure config now source message entry).1
        (recordAccountHealthFailure config now source message row).1 ∧
      (markMemoryFailure config now source message entry).2 =
        (recordAccountHealthFailure config now source message row).2 := by
  have hEntry : (markMemoryFailure config now source message entry).1.breaker =
      entry.breaker.fail config now := markMemoryFailure_breaker source message (.inr hRoom)
  have hRow : (recordAccountHealthFailure config now source message row).1.breaker = _ :=
    recordFailure_breaker h.accountEnabled h.sourceEnabled
  have hKept : (recordAccountHealthFailure config now source message row).1.enabled = row.enabled ∧
      _ := recordFailure_enabled
  have hRest : (markMemoryFailure config now source message entry).1.enabled = entry.enabled ∧
      _ := markMemoryFailure_rest
  constructor
  · refine ⟨hKept.1.trans h.accountEnabled, hKept.2.trans h.sourceEnabled,
      hRest.1.trans h.entryEnabled, ?_, ?_⟩
    · rw [hRow, hEntry, ← h.breaker]
      rw [hEntry] at hBelow
      have hFits : min (entry.breaker.fail config now).failures (2 ^ 31 - 1) =
          (entry.breaker.fail config now).failures := by
        unfold maxI32 at hBelow
        omega
      rw [hFits]
    · right
      exact ⟨now, hRest.2, recordFailure_updatedAt h.accountEnabled h.sourceEnabled⟩
  · rw [markMemoryFailure_started hRoom,
      recordFailure_started h.accountEnabled h.sourceEnabled, h.breaker]

theorem Mirrors.success (h : Mirrors entry row) :
    Mirrors (markMemorySuccess now source entry) (recordAccountHealthSuccess now source row) := by
  have hEntry : (markMemorySuccess now source entry).breaker = .closed ∧
      (markMemorySuccess now source entry).enabled = entry.enabled := by
    unfold markMemorySuccess
    dsimp only
    split <;> exact ⟨rfl, rfl⟩
  have hRow : (recordAccountHealthSuccess now source row).breaker = .closed ∧
      (recordAccountHealthSuccess now source row).enabled = row.enabled ∧
      (recordAccountHealthSuccess now source row).sourceEnabled = row.sourceEnabled := by
    unfold recordAccountHealthSuccess
    simp only [h.accountEnabled, h.sourceEnabled, Bool.not_true, Bool.or_self, Bool.false_eq_true,
      if_false]
    split <;> exact ⟨rfl, rfl, rfl⟩
  refine ⟨hRow.2.1.trans h.accountEnabled, hRow.2.2.trans h.sourceEnabled,
    hEntry.2.trans h.entryEnabled, hEntry.1.trans hRow.1.symm, ?_⟩
  left
  exact congrArg Breaker.cooldownUntil hEntry.1

end Step

/-! ## Whole runs -/

/-- The account is open in memory and its row mirrors it. -/
structure Agrees (memory database : HealthRegistry) (accountId : String) : Prop where
  config : database.config = memory.config
  stores : ∃ state rows row, memory.store = .memory state ∧ database.store = .database rows ∧
    rows.get accountId = some row ∧ Mirrors ((state.get accountId).getD {}) row

theorem isAvailable_memory {registry : HealthRegistry} {accountId : String} {later : DateTime}
    {state : Table String MemoryAccountState} (h : registry.store = .memory state) :
    registry.isAvailable later accountId =
      (memoryHealth registry.config later ((state.get accountId).getD {})).available := by
  simp only [isAvailable, getHealth, h]
  cases state.get accountId with
  | none =>
    have hOpen : ({} : MemoryAccountState).enabled = true := rfl
    exact (memoryHealth_available hOpen).symm
  | some entry => rfl

theorem Agrees.seen {memory database : HealthRegistry} {accountId : String}
    (h : Agrees memory database accountId) (started : Bool) :
    memory.seen accountId started = database.seen accountId started := by
  obtain ⟨hConfig, state, rows, row, hMemory, hDatabase, hRow, hMirrors⟩ := h
  refine Seen.ext rfl ?_ ?_
  · simp only [HealthRegistry.seen, breaker, hMemory, hDatabase, hRow]
    exact hMirrors.breaker
  · funext later
    change memory.isAvailable later accountId = database.isAvailable later accountId
    rw [isAvailable_memory hMemory, hMirrors.available, ← hConfig]
    simp only [isAvailable, getHealth, hDatabase, hRow]
    rfl

theorem Agrees.apply {memory database : HealthRegistry} {accountId : String}
    (h : Agrees memory database accountId) (o : Observation)
    (hRoom : (memory.breaker accountId).failures < maxU32)
    (hBelow : (((memory.apply accountId o).1.breaker accountId).failures : Int) < maxI32) :
    Agrees (memory.apply accountId o).1 (database.apply accountId o).1 accountId ∧
      (memory.apply accountId o).2 = (database.apply accountId o).2 := by
  obtain ⟨observedAt, report⟩ := o
  obtain ⟨hConfig, state, rows, row, hMemory, hDatabase, hRow, hMirrors⟩ := h
  cases report with
  | failure source message =>
    simp only [HealthRegistry.apply, markFailureWithDetails, breaker, hMemory, hDatabase, hRow,
      Table.get_insert, if_true, Option.getD_some] at hRoom hBelow ⊢
    obtain ⟨hNext, hStarted⟩ := hMirrors.failure hRoom hBelow
    rw [← hConfig] at hNext hStarted
    refine ⟨⟨hConfig, _, _, _, rfl, rfl, by rw [Table.get_insert, if_pos rfl], ?_⟩, ?_⟩
    · rw [Table.get_insert, if_pos rfl, ← hConfig]
      exact hNext
    · rw [← hConfig]
      exact hStarted
  | success source =>
    simp only [HealthRegistry.apply, markSuccessWithSource, hMemory, hDatabase, hRow]
    refine ⟨⟨hConfig, _, _, _, rfl, rfl, by rw [Table.get_insert, if_pos rfl], ?_⟩, trivial⟩
    rw [Table.get_insert, if_pos rfl]
    exact hMirrors.success

theorem Agrees.trace {memory database : HealthRegistry} {accountId : String}
    (h : Agrees memory database accountId) (reports : List Observation)
    (hRoom : (memory.breaker accountId).failures < maxU32)
    (hBelow : ∀ s ∈ memory.trace accountId reports, (s.breaker.failures : Int) < maxI32) :
    memory.trace accountId reports = database.trace accountId reports := by
  induction reports generalizing memory database with
  | nil => rfl
  | cons o rest ih =>
    have hHere := hBelow _ List.mem_cons_self
    obtain ⟨hNext, hStarted⟩ := h.apply o hRoom hHere
    have hRoomNext : ((memory.apply accountId o).1.breaker accountId).failures < maxU32 := by
      change (((memory.apply accountId o).1.breaker accountId).failures : Int) < maxI32 at hHere
      unfold maxI32 at hHere
      unfold maxU32
      omega
    simp only [HealthRegistry.trace]
    rw [hNext.seen, hStarted,
      ih hNext hRoomNext fun s hs => hBelow s (List.mem_cons_of_mem _ hs)]

theorem normalized_idem (config : HealthConfig) :
    config.normalized.normalized = config.normalized := by
  have hThreshold : max (max config.failureThreshold 1) 1 = max config.failureThreshold 1 := by
    change (if max config.failureThreshold 1 ≤ 1 then 1 else max config.failureThreshold 1) = _
    split
    · next hLe =>
      change 1 = if config.failureThreshold ≤ 1 then 1 else config.failureThreshold
      change (if config.failureThreshold ≤ 1 then 1 else config.failureThreshold) ≤ 1 at hLe
      split at hLe <;> grind
    · rfl
  simp [HealthConfig.normalized, hThreshold]

/-- A registry without a database, before its first report. -/
def withConfig (config : HealthConfig) : HealthRegistry :=
  ⟨config.normalized, .memory .empty, normalized_idem config⟩

def withDatabaseConfig (rows : Table String AccountHealthRow) (config : HealthConfig) :
    HealthRegistry :=
  ⟨config.normalized, .database rows, normalized_idem config⟩

/-- Reports on an enabled account of an enabled source, from a row without failures on. -/
theorem stores_agree (config : HealthConfig) {rows : Table String AccountHealthRow}
    {accountId : String} {row : AccountHealthRow} (hRow : rows.get accountId = some row)
    (hAccount : row.enabled = true) (hSource : row.sourceEnabled = true)
    (hFresh : row.breaker = .closed) (reports : List Observation)
    (hBelow : ∀ s ∈ (withConfig config).trace accountId reports,
      (s.breaker.failures : Int) < maxI32) :
    (withConfig config).trace accountId reports =
      (withDatabaseConfig rows config).trace accountId reports := by
  have hAgrees : Agrees (withConfig config) (withDatabaseConfig rows config) accountId :=
    ⟨rfl, .empty, rows, row, rfl, rfl, hRow, hAccount, hSource, rfl, hFresh.symm, .inl rfl⟩
  have hRoom : ((withConfig config).breaker accountId).failures < maxU32 := Nat.zero_lt_succ _
  exact hAgrees.trace reports hRoom hBelow

def freshRow (accountId : String) : AccountHealthRow where
  accountId := accountId
  enabled := true
  sourceEnabled := true
  healthStatus := "unknown"
  healthSource := "unknown"
  cooldownUntil := none
  consecutiveFailures := 0
  failureWindowStartedAt := none
  lastError := none
  lastSuccessAt := none
  healthUpdatedAt := none
  lastProbeAt := none
  lastProbeStatus := none
  lastProbeError := none
  accountUpdatedAt := 0

/-- Two failures that trip a breaker with a threshold of two. -/
def twoFailures : List Observation :=
  [⟨0, .failure "passive" none⟩, ⟨1000, .failure "probe" (some "upstream request failed")⟩]

theorem stores_agree_two_failures :
    (withConfig { failureThreshold := 2 }).trace "account" twoFailures =
      (withDatabaseConfig (Table.empty.insert "account" (freshRow "account"))
        { failureThreshold := 2 }).trace "account" twoFailures ∧
    ((withConfig { failureThreshold := 2 }).trace "account" twoFailures).map
        (fun s => (s.cooldownStarted, s.breaker.failures)) = [(false, 1), (true, 2)] := by
  have hCounters : ∀ n ∈ ((withConfig { failureThreshold := 2 }).trace "account" twoFailures).map
      (fun s => s.breaker.failures), (n : Int) < maxI32 := by
    decide
  constructor
  · exact stores_agree _ (by rfl : _ = some (freshRow "account")) rfl rfl rfl twoFailures
      fun s hs => hCounters _ (List.mem_map_of_mem hs)
  · decide

end AiGateway.Health
