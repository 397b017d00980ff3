import AiGateway.Infra.StoreAgreement

/-!
# What a cooldown rests on

Reports on all accounts reach the table in memory.  A watched account is followed
through them with the failures that were counted for it and the one that started its
last cooldown.
-/

namespace AiGateway.Health

set_option autoImplicit false

/-- A report on an entry.  The flag says that it started a cooldown. -/
def entryReport (config : HealthConfig) (entry : MemoryAccountState) (o : Observation) :
    MemoryAccountState × Bool :=
  match o.report with
  | .failure source message => markMemoryFailure config o.observedAt source message entry
  | .success source => (markMemorySuccess o.observedAt source entry, false)

/-- The entry of an account; the first report creates it. -/
def entryOf (state : Table String MemoryAccountState) (accountId : String) : MemoryAccountState :=
  (state.get accountId).getD {}

def memoryReport (config : HealthConfig) (state : Table String MemoryAccountState)
    (accountId : String) (o : Observation) : Table String MemoryAccountState :=
  state.insert accountId (entryReport config (entryOf state accountId) o).1

def memoryAvailable (config : HealthConfig) (now : DateTime)
    (state : Table String MemoryAccountState) (accountId : String) : Bool :=
  ((state.get accountId).map fun entry => (memoryHealth config now entry).available).getD true

/-- Without a database the registry's reports are those on the table. -/
theorem HealthRegistry.apply_memory {registry : HealthRegistry}
    {state : Table String MemoryAccountState} (hStore : registry.store = .memory state)
    (accountId : String) (o : Observation) :
    (registry.apply accountId o).1.store =
        .memory (memoryReport registry.config state accountId o) ∧
      (registry.apply accountId o).2 =
        (entryReport registry.config (entryOf state accountId) o).2 := by
  rw [apply, memoryReport, entryReport, entryOf]
  cases o.report with
  | failure source message => simp [markFailureWithDetails, hStore]
  | success source => simp [markSuccessWithSource, hStore]

theorem HealthRegistry.isAvailable_memory {registry : HealthRegistry}
    {state : Table String MemoryAccountState} (hStore : registry.store = .memory state)
    (now : DateTime) (accountId : String) :
    registry.isAvailable now accountId = memoryAvailable registry.config now state accountId := by
  rw [isAvailable, getHealth, memoryAvailable, hStore]
  cases hEntry : state.get accountId with
  | none => simp [hEntry, unknownHealth]
  | some entry => simp [hEntry]

/-- The table, with the failures of one account reported outside any cooldown since its
last success, and the failure that started its last cooldown since then. -/
structure Watched where
  state : Table String MemoryAccountState := .empty
  outside : List DateTime := []
  cooldownStart : Option DateTime := none

def Watched.report (config : HealthConfig) (accountId : String) (w : Watched)
    (r : String × Observation) : Watched :=
  let entry := entryOf w.state r.1
  let state := memoryReport config w.state r.1 r.2
  if r.1 = accountId then
    match r.2.report with
    | .success _ => { state }
    | .failure _ _ =>
      { state
        outside :=
          if isActive entry.cooldownUntil r.2.observedAt then w.outside
          else w.outside ++ [r.2.observedAt]
        cooldownStart :=
          if (entryReport config entry r.2).2 then some r.2.observedAt else w.cooldownStart }
  else { w with state }

theorem Watched.report_state (config : HealthConfig) (accountId : String) (w : Watched)
    (r : String × Observation) :
    (w.report config accountId r).state = memoryReport config w.state r.1 r.2 := by
  unfold Watched.report
  dsimp only
  split
  · cases r.2.report with
    | failure source message => rfl
    | success source => rfl
  · rfl

theorem isActive_eq_true_iff {until_ : Option DateTime} {now : DateTime} :
    isActive until_ now = true ↔ ∃ ending, until_ = some ending ∧ now < ending := by
  cases until_ <;> simp [isActive]

def checkedSub (a b : Nat) : Option Nat := if b ≤ a then some (a - b) else none

/-- `countFailure` with its subtraction checked. -/
def countFailureChecked (config : HealthConfig) (now : DateTime) (entry : MemoryAccountState) :
    Option MemoryAccountState :=
  let entry :=
    if windowExpired entry.failureWindowStartedAt now config.failureWindow then
      { entry with consecutiveFailures := 1, failureWindowStartedAt := some now }
    else { entry with consecutiveFailures := min (entry.consecutiveFailures + 1) maxU32 }
  if config.failureThreshold.toNat ≤ entry.consecutiveFailures then
    (checkedSub entry.consecutiveFailures config.failureThreshold.toNat).map fun excess =>
      { entry with
        cooldownUntil := some (now +
          (fromStd (exponentialBackoff config.cooldown config.maxCooldown (excess + 1))).getD 0) }
  else some { entry with cooldownUntil := none }

theorem countFailureChecked_eq (config : HealthConfig) (now : DateTime)
    (entry : MemoryAccountState) :
    countFailureChecked config now entry = some (countFailure config now entry) := by
  unfold countFailureChecked countFailure
  extract_lets counted
  split
  · next hReached =>
    rw [checkedSub, if_pos hReached]
    rfl
  · rfl

theorem exponentialBackoff_le (base maximum failures : Nat) :
    exponentialBackoff base maximum failures ≤ max maximum base := by
  unfold exponentialBackoff
  split
  · exact Nat.zero_le _
  · have hMillis (delay : Nat) :
        min (min delay (max (maximum / 1000) (base / 1000))) maxU64 * 1000 ≤ max maximum base := by
      omega
    exact hMillis _

theorem cooldownEnd_le (config : HealthConfig) (now : Int) (failures : Nat) :
    cooldownEnd config now failures ≤ now + (max config.maxCooldown config.cooldown : Nat) := by
  have hDelay := exponentialBackoff_le config.cooldown config.maxCooldown
    (failures - config.failureThreshold.toNat + 1)
  rw [cooldownEnd, fromStd]
  apply Int.add_le_add_left
  split
  · exact Int.ofNat_le.mpr hDelay
  · exact Int.natCast_nonneg _

/-- What the entry of the watched account rests on. -/
structure RestsOn (config : HealthConfig) (entry : MemoryAccountState) (outside : List DateTime)
    (cooldownStart : Option DateTime) : Prop where
  enabled : entry.enabled = true
  window : ∀ first, entry.failureWindowStartedAt = some first →
    ∃ before rest, outside = before ++ first :: rest ∧
      entry.consecutiveFailures ≤ rest.length + 1 ∧
      ∀ t ∈ first :: rest, first ≤ t ∧ t - first ≤ config.failureWindow
  cooling : ∀ ending, entry.cooldownUntil = some ending →
    (∃ first, entry.failureWindowStartedAt = some first) ∧
      config.failureThreshold.toNat ≤ entry.consecutiveFailures ∧
      ∃ s, cooldownStart = some s ∧ ending ≤ s + (max config.maxCooldown config.cooldown : Nat)

theorem RestsOn.fresh (config : HealthConfig) : RestsOn config {} [] none where
  enabled := rfl
  window := nofun
  cooling := nofun

section

variable {config : HealthConfig} {entry : MemoryAccountState} {outside : List DateTime}
  {cooldownStart : Option DateTime}

theorem markMemorySuccess_enabled (now : DateTime) (source : String)
    (entry : MemoryAccountState) :
    (markMemorySuccess now source entry).enabled = entry.enabled ∧
      (markMemorySuccess now source entry).breaker = ⟨0, none, none⟩ := by
  rw [markMemorySuccess]
  dsimp only
  split <;> exact ⟨rfl, rfl⟩

theorem markMemoryFailure_counted (config : HealthConfig) (now : DateTime) (source : String)
    (message : Option String) (entry : MemoryAccountState) :
    let counted := if isActive entry.cooldownUntil now then entry else countFailure config now entry
    let marked := markMemoryFailure config now source message entry
    marked.1.enabled = counted.enabled ∧ marked.1.breaker = counted.breaker ∧
      marked.2 = (!isActive entry.cooldownUntil now &&
        decide (config.failureThreshold.toNat ≤ counted.consecutiveFailures)) := by
  intro counted marked
  refine ⟨?_, ?_, rfl⟩
  all_goals
    simp only [marked, markMemoryFailure]
    split <;> rfl

theorem countFailure_counted (config : HealthConfig) (now : DateTime)
    (entry : MemoryAccountState) :
    let expired := windowExpired entry.failureWindowStartedAt now config.failureWindow
    let failures := if expired then 1 else min (entry.consecutiveFailures + 1) maxU32
    (countFailure config now entry).enabled = entry.enabled ∧
      (countFailure config now entry).breaker =
        ⟨failures, if expired then some now else entry.failureWindowStartedAt,
          if config.failureThreshold.toNat ≤ failures then some (cooldownEnd config now failures)
          else none⟩ := by
  intro expired failures
  unfold countFailure
  by_cases hExpired : windowExpired entry.failureWindowStartedAt now config.failureWindow = true
  · simp only [failures, expired, hExpired, if_true]
    split <;> exact ⟨rfl, rfl⟩
  · simp only [failures, expired, hExpired, Bool.false_eq_true, if_false]
    split <;> exact ⟨rfl, rfl⟩

theorem windowExpired_eq_false {startedAt : Option DateTime} {now : DateTime} {window : Duration}
    (h : windowExpired startedAt now window = false) :
    ∃ first, startedAt = some first ∧ first ≤ now ∧ now - first ≤ window := by
  cases startedAt with
  | none => cases h
  | some first =>
    refine ⟨first, rfl, ?_⟩
    rw [windowExpired, Option.all_some, toStd] at h
    split at h
    · next elapsed hElapsed =>
      split at hElapsed
      · next hOrder =>
        have hTime := Option.some.inj hElapsed
        have hWithin := of_decide_eq_false h
        have hFits : (now - first).toNat ≤ window := by
          rw [hTime]
          exact Nat.le_of_not_lt hWithin
        refine ⟨Int.sub_nonneg.mp hOrder, ?_⟩
        rw [← Int.toNat_of_nonneg hOrder]
        exact Int.ofNat_le.mpr hFits
      · cases hElapsed
    · cases h

theorem RestsOn.count (h : RestsOn config entry outside cooldownStart) (now : DateTime) :
    RestsOn config (countFailure config now entry) (outside ++ [now])
      (if config.failureThreshold.toNat ≤ (countFailure config now entry).consecutiveFailures then
        some now else cooldownStart) := by
  obtain ⟨hEnabled, hBreaker⟩ := countFailure_counted config now entry
  have hFailures := congrArg Breaker.failures hBreaker
  have hWindow := congrArg Breaker.windowStart hBreaker
  have hUntil := congrArg Breaker.cooldownUntil hBreaker
  dsimp only [MemoryAccountState.breaker] at hFailures hWindow hUntil
  have hOpen : ∃ first, (countFailure config now entry).failureWindowStartedAt = some first ∧
      ∃ before rest, outside ++ [now] = before ++ first :: rest ∧
        (countFailure config now entry).consecutiveFailures ≤ rest.length + 1 ∧
        ∀ t ∈ first :: rest, first ≤ t ∧ t - first ≤ config.failureWindow := by
    rw [hFailures, hWindow]
    cases hExpired : windowExpired entry.failureWindowStartedAt now config.failureWindow with
    | true =>
      refine ⟨now, rfl, outside, [], rfl, Nat.le_refl 1, fun t ht => ?_⟩
      rw [List.mem_singleton.mp ht, Int.sub_self]
      exact ⟨Int.le_refl _, Int.natCast_nonneg _⟩
    | false =>
      obtain ⟨first, hFirst, hOrder, hWithin⟩ := windowExpired_eq_false hExpired
      obtain ⟨before, rest, hOutside, hCount, hTimes⟩ := h.window first hFirst
      refine ⟨first, hFirst, before, rest ++ [now], ?_, ?_, ?_⟩
      · rw [hOutside, List.append_assoc, List.cons_append]
      · rw [List.length_append, List.length_singleton]
        exact Nat.le_trans (Nat.min_le_left _ _) (Nat.succ_le_succ hCount)
      · intro t ht
        rw [← List.cons_append, List.mem_append, List.mem_singleton] at ht
        rcases ht with hEarlier | rfl
        · exact hTimes t hEarlier
        · exact ⟨hOrder, hWithin⟩
  obtain ⟨first, hFirst, hCounted⟩ := hOpen
  exact {
    enabled := hEnabled.trans h.enabled
    window := by
      intro other hOther
      rw [hFirst] at hOther
      cases hOther
      exact hCounted
    cooling := by
      intro ending hEnding
      rw [hUntil, ← hFailures] at hEnding
      split at hEnding
      · next hReached =>
        refine ⟨⟨first, hFirst⟩, hReached, now, if_pos hReached, ?_⟩
        rw [← Option.some.inj hEnding]
        exact cooldownEnd_le config now _
      · cases hEnding }

/-- Only the breaker and the switch of an entry matter. -/
theorem RestsOn.congr {other : MemoryAccountState}
    (h : RestsOn config entry outside cooldownStart) (hEnabled : other.enabled = entry.enabled)
    (hBreaker : other.breaker = entry.breaker) : RestsOn config other outside cooldownStart := by
  have hFailures : other.consecutiveFailures = entry.consecutiveFailures :=
    congrArg Breaker.failures hBreaker
  have hWindow : other.failureWindowStartedAt = entry.failureWindowStartedAt :=
    congrArg Breaker.windowStart hBreaker
  have hUntil : other.cooldownUntil = entry.cooldownUntil :=
    congrArg Breaker.cooldownUntil hBreaker
  constructor
  · rw [hEnabled]
    exact h.enabled
  · rw [hWindow, hFailures]
    exact h.window
  · rw [hUntil, hWindow, hFailures]
    exact h.cooling

theorem RestsOn.failure (h : RestsOn config entry outside cooldownStart) (now : DateTime)
    (source : String) (message : Option String) :
    RestsOn config (markMemoryFailure config now source message entry).1
      (if isActive entry.cooldownUntil now then outside else outside ++ [now])
      (if (markMemoryFailure config now source message entry).2 then some now
        else cooldownStart) := by
  obtain ⟨hEnabled, hBreaker, hFlag⟩ := markMemoryFailure_counted config now source message entry
  rw [hFlag]
  cases hActive : isActive entry.cooldownUntil now with
  | true =>
    rw [hActive] at hEnabled hBreaker
    exact h.congr hEnabled hBreaker
  | false =>
    rw [hActive] at hEnabled hBreaker
    have hCount := (h.count now).congr hEnabled hBreaker
    simpa using hCount

theorem RestsOn.success (h : RestsOn config entry outside cooldownStart) (now : DateTime)
    (source : String) : RestsOn config (markMemorySuccess now source entry) [] none := by
  obtain ⟨hEnabled, hBreaker⟩ := markMemorySuccess_enabled now source entry
  exact (RestsOn.fresh config).congr (hEnabled.trans h.enabled) hBreaker

end

theorem entryOf_memoryReport (config : HealthConfig) (state : Table String MemoryAccountState)
    (accountId other : String) (o : Observation) :
    entryOf (memoryReport config state accountId o) other =
      if other = accountId then (entryReport config (entryOf state accountId) o).1
      else entryOf state other := by
  rw [entryOf, memoryReport, Table.get_insert]
  split
  · rfl
  · rfl

def Watched.Rests (config : HealthConfig) (accountId : String) (w : Watched) : Prop :=
  RestsOn config (entryOf w.state accountId) w.outside w.cooldownStart

/-- One report on any account. -/
theorem Watched.Rests.report {config : HealthConfig} {accountId : String} {w : Watched}
    (h : w.Rests config accountId) (r : String × Observation) :
    (w.report config accountId r).Rests config accountId := by
  obtain ⟨other, o⟩ := r
  unfold Watched.Rests Watched.report
  dsimp only
  by_cases hAccount : other = accountId
  · subst hAccount
    rw [if_pos rfl]
    cases hReport : o.report with
    | failure source message =>
      have hEntry : entryReport config (entryOf w.state other) o =
          markMemoryFailure config o.observedAt source message (entryOf w.state other) := by
        rw [entryReport, hReport]
      dsimp only
      rw [entryOf_memoryReport, if_pos rfl, hEntry]
      exact RestsOn.failure h o.observedAt source message
    | success source =>
      dsimp only
      rw [entryOf_memoryReport, if_pos rfl, entryReport, hReport]
      exact RestsOn.success h o.observedAt source
  · rw [if_neg hAccount]
    dsimp only
    rw [entryOf_memoryReport, if_neg (Ne.symm hAccount)]
    exact h

/-- A run of reports. -/
theorem Watched.Rests.run {config : HealthConfig} {accountId : String} {w : Watched}
    (h : w.Rests config accountId) (reports : List (String × Observation)) :
    (reports.foldl (Watched.report config accountId) w).Rests config accountId := by
  induction reports generalizing w with
  | nil => exact h
  | cons r rest ih => exact ih (h.report r)

/-- An unavailable account is cooling down. -/
theorem isActive_of_unavailable {config : HealthConfig} {now : DateTime}
    {state : Table String MemoryAccountState} {accountId : String}
    (hEnabled : (entryOf state accountId).enabled = true)
    (h : memoryAvailable config now state accountId = false) :
    isActive (entryOf state accountId).cooldownUntil now = true := by
  cases hEntry : state.get accountId with
  | none =>
    rw [memoryAvailable, hEntry] at h
    cases h
  | some entry =>
    rw [memoryAvailable, hEntry, Option.map_some, Option.getD_some] at h
    rw [entryOf, hEntry, Option.getD_some] at hEnabled ⊢
    rw [memoryHealth_available hEnabled, Bool.or_eq_false_iff, Bool.not_eq_false'] at h
    exact h.1

/-- What an account is unavailable for: failures counted within one window since its last
success, and a cooldown that is not over. -/
structure Watched.Explains (config : HealthConfig) (w : Watched) (now : DateTime) : Prop where
  failures : ∃ (before : List DateTime) (first : DateTime) (rest : List DateTime),
    w.outside = before ++ first :: rest ∧
    config.failureThreshold.toNat ≤ (first :: rest).length ∧
    ∀ t ∈ first :: rest, first ≤ t ∧ t - first ≤ config.failureWindow
  cooldown : ∃ s, w.cooldownStart = some s ∧
    now < s + (max config.maxCooldown config.cooldown : Nat)

theorem Watched.Rests.explains {config : HealthConfig} {accountId : String} {w : Watched}
    (h : w.Rests config accountId) {now : DateTime}
    (hUnavailable : memoryAvailable config now w.state accountId = false) :
    w.Explains config now := by
  have hActive := isActive_of_unavailable h.enabled hUnavailable
  obtain ⟨ending, hEnding, hLater⟩ := isActive_eq_true_iff.mp hActive
  obtain ⟨⟨first, hFirst⟩, hReached, s, hStart, hEnds⟩ := h.cooling ending hEnding
  obtain ⟨before, rest, hOutside, hCount, hTimes⟩ := h.window first hFirst
  refine ⟨⟨before, first, rest, hOutside, Nat.le_trans hReached hCount, hTimes⟩, s, hStart, ?_⟩
  exact Int.lt_of_lt_of_le hLater hEnds

/-- The circuit breaker is safe over every run of reports.  An account is unavailable
only for failures counted within one window since its last success, and no longer than
the longest cooldown from the failure that started it; a failure during a cooldown leaves
the breaker alone, a success opens the account, and no subtraction underflows. -/
theorem cooldown_rests_on_failures (config : HealthConfig) (accountId : String)
    (reports : List (String × Observation)) :
    let w := reports.foldl (Watched.report config accountId) {}
    let entry := entryOf w.state accountId
    (∀ now, memoryAvailable config now w.state accountId = false →
      (∃ (before : List DateTime) (first : DateTime) (rest : List DateTime),
        w.outside = before ++ first :: rest ∧
        config.failureThreshold.toNat ≤ (first :: rest).length ∧
        ∀ t ∈ first :: rest, first ≤ t ∧ t - first ≤ config.failureWindow) ∧
      ∃ s, w.cooldownStart = some s ∧
        now < s + (max config.maxCooldown config.cooldown : Nat)) ∧
    (∀ now source message, isActive entry.cooldownUntil now = true →
      (markMemoryFailure config now source message entry).1.breaker = entry.breaker) ∧
    (∀ now source later, memoryAvailable config later
      (memoryReport config w.state accountId ⟨now, .success source⟩) accountId = true) ∧
    ∀ now, countFailureChecked config now entry = some (countFailure config now entry) := by
  intro w entry
  have hFresh : Watched.Rests config accountId {} := RestsOn.fresh config
  have hRests : RestsOn config entry w.outside w.cooldownStart := hFresh.run reports
  refine ⟨?_, ?_, ?_, fun now => countFailureChecked_eq config now entry⟩
  · intro now hUnavailable
    have hExplains := Watched.Rests.explains hRests hUnavailable
    exact ⟨hExplains.failures, hExplains.cooldown⟩
  · intro now source message hActive
    obtain ⟨-, hBreaker, -⟩ := markMemoryFailure_counted config now source message entry
    rw [if_pos hActive] at hBreaker
    exact hBreaker
  · intro now source later
    obtain ⟨hEnabled, hBreaker⟩ := markMemorySuccess_enabled now source entry
    have hUntil : (markMemorySuccess now source entry).cooldownUntil = none :=
      congrArg Breaker.cooldownUntil hBreaker
    rw [memoryAvailable, memoryReport, Table.get_insert, if_pos rfl, Option.map_some,
      Option.getD_some, entryReport, memoryHealth_available (hEnabled.trans hRests.enabled), hUntil]
    rfl

/-! ## The registry -/

namespace HealthRegistry

/-- The registry after reports on any accounts. -/
def applyAll (registry : HealthRegistry) (reports : List (String × Observation)) :
    HealthRegistry :=
  reports.foldl (fun registry r => (registry.apply r.1 r.2).1) registry

theorem apply_config (registry : HealthRegistry) (accountId : String) (o : Observation) :
    (registry.apply accountId o).1.config = registry.config := by
  rw [apply]
  cases o.report with
  | failure source message =>
    dsimp only
    unfold markFailureWithDetails
    split
    · rfl
    · split <;> rfl
  | success source =>
    dsimp only
    unfold markSuccessWithSource
    split
    · rfl
    · split <;> rfl

/-- A registry without a database goes through the same tables as what is watched. -/
theorem applyAll_memory {registry : HealthRegistry} {w : Watched}
    (hStore : registry.store = .memory w.state) (accountId : String)
    (reports : List (String × Observation)) :
    (registry.applyAll reports).store =
        .memory (reports.foldl (Watched.report registry.config accountId) w).state ∧
      (registry.applyAll reports).config = registry.config := by
  induction reports generalizing registry w with
  | nil => exact ⟨hStore, rfl⟩
  | cons r rest ih =>
    have hConfig := apply_config registry r.1 r.2
    have hNext : (registry.apply r.1 r.2).1.store =
        .memory (w.report registry.config accountId r).state := by
      rw [(apply_memory hStore r.1 r.2).1, Watched.report_state]
    have hRest := ih hNext
    rw [hConfig] at hRest
    exact hRest

/-- What holds of the watched table holds of the registry: after any reports an account is
unavailable only for failures counted since its last success, and no longer than the longest
cooldown. -/
theorem unavailable_rests_on_failures (config : HealthConfig) (accountId : String)
    (reports : List (String × Observation)) (now : DateTime)
    (hUnavailable : ((withConfig config).applyAll reports).isAvailable now accountId = false) :
    (reports.foldl (Watched.report config.normalized accountId) {}).Explains config.normalized
      now := by
  have hFresh : Watched.Rests config.normalized accountId {} := RestsOn.fresh config.normalized
  have hStart : (withConfig config).store = .memory ({} : Watched).state := rfl
  obtain ⟨hStore, hConfig⟩ := applyAll_memory hStart accountId reports
  rw [isAvailable_memory hStore, hConfig] at hUnavailable
  exact (hFresh.run reports).explains hUnavailable

end HealthRegistry

end AiGateway.Health
