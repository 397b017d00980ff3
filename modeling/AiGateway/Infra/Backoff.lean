import AiGateway.Infra.BreakerSafety

/-!
# How long the cooldowns of a failing account last

An account fails again at the instant each of its cooldowns ends.  A cooldown is twice
the one before as long as the failures stay in the window that the first of them opened.
-/

namespace AiGateway.Health

set_option autoImplicit false

/-- The cooldown that grows with every failure, up to the longest one. -/
def backedOff (config : HealthConfig) (k : Nat) : Duration :=
  min (config.cooldown * 2 ^ k) (max config.maxCooldown config.cooldown)

theorem backedOff_zero (config : HealthConfig) : backedOff config 0 = config.cooldown := by
  rw [backedOff, Nat.pow_zero, Nat.mul_one]
  exact Nat.min_eq_left (Nat.le_max_right _ _)

theorem backedOff_mono (config : HealthConfig) {j k : Nat} (h : j ≤ k) :
    backedOff config j ≤ backedOff config k := by
  have hPower : config.cooldown * 2 ^ j ≤ config.cooldown * 2 ^ k :=
    Nat.mul_le_mul_left _ (Nat.pow_le_pow_right Nat.two_pos h)
  exact Nat.le_min.mpr ⟨Nat.le_trans (Nat.min_le_left _ _) hPower, Nat.min_le_right _ _⟩

theorem backedOff_eq_iff {config : HealthConfig} (hPositive : 0 < config.cooldown) {j k : Nat}
    (h : j < k) :
    backedOff config j = backedOff config k ↔
      max config.maxCooldown config.cooldown ≤ config.cooldown * 2 ^ j := by
  have hGrows : config.cooldown * 2 ^ j < config.cooldown * 2 ^ k :=
    Nat.mul_lt_mul_of_pos_left (Nat.pow_lt_pow_right Nat.one_lt_two h) hPositive
  have hArith (longest short long : Nat) (hLess : short < long) :
      min short longest = min long longest ↔ longest ≤ short := by omega
  exact hArith _ _ _ hGrows

/-- The cooldown the code gives for failures beyond the threshold. -/
def delay (config : HealthConfig) (excess : Nat) : Int :=
  (fromStd (exponentialBackoff config.cooldown config.maxCooldown (excess + 1))).getD 0

theorem cooldownEnd_eq (config : HealthConfig) (now : DateTime) (failures : Nat) :
    cooldownEnd config now failures =
      now + delay config (failures - config.failureThreshold.toNat) := rfl

theorem delay_eq (config : HealthConfig) (excess : Nat) :
    let ms := min (min (config.cooldown / 1000 * 2 ^ min excess 63)
      (max (config.maxCooldown / 1000) (config.cooldown / 1000))) (2 ^ 64 - 1)
    delay config excess = if ms ≤ 2 ^ 63 - 1 then ((ms * 1000 : Nat) : Int) else 0 := by
  intro ms
  have hBackoff : exponentialBackoff config.cooldown config.maxCooldown (excess + 1) = ms * 1000 := by
    rw [exponentialBackoff, if_neg (Nat.succ_ne_zero excess), Nat.add_sub_cancel]
    rfl
  have hRange : ms * 1000 ≤ maxTimeDelta ↔ ms ≤ 2 ^ 63 - 1 :=
    Nat.mul_le_mul_right_iff (Nat.succ_pos 999)
  rw [delay, hBackoff, fromStd]
  by_cases hFits : ms ≤ 2 ^ 63 - 1
  · rw [if_pos (hRange.mpr hFits), if_pos hFits]
    rfl
  · rw [if_neg fun h => hFits (hRange.mp h), if_neg hFits]
    rfl

/-- The arithmetic of `delay_eq_backedOff_iff`: `x` is the doubled base, `y` the one whose
shift is cut at 63 places, `limit` the longest cooldown. -/
theorem whole_millis_iff {x y q limit : Nat} (hx : 0 < x) (hq : 0 < q)
    (hPower : x = y ∨ 2 ^ 63 ≤ y ∧ y ≤ x) (hLimit : limit / 1000 = q) :
    (if min (min y q) (2 ^ 64 - 1) ≤ 2 ^ 63 - 1 then
        ((min (min y q) (2 ^ 64 - 1) * 1000 : Nat) : Int) else 0) =
        ((min (1000 * x) limit : Nat) : Int) ↔
      1000 ∣ min (1000 * x) limit ∧ min (1000 * x) limit ≤ (2 ^ 63 - 1) * 1000 := by
  split <;> omega

/-- The code computes in whole milliseconds and gives no cooldown beyond the range of a
calendar duration. -/
theorem delay_eq_backedOff_iff {config : HealthConfig} (hPositive : 0 < config.cooldown)
    (hWhole : 1000 ∣ config.cooldown) (k : Nat) :
    delay config k = backedOff config k ↔
      1000 ∣ backedOff config k ∧ backedOff config k ≤ maxTimeDelta := by
  obtain ⟨b, hBase⟩ := hWhole
  have hBasePositive : 0 < b := by
    rw [hBase] at hPositive
    exact Nat.pos_of_mul_pos_left hPositive
  have hMillis : config.cooldown / 1000 = b := by rw [hBase, Nat.mul_div_cancel_left b (by decide)]
  have hArith (long short : Nat) : max long short / 1000 = max (long / 1000) (short / 1000) := by
    omega
  have hLongest := hArith config.maxCooldown config.cooldown
  rw [hMillis] at hLongest
  have hPower : b * 2 ^ k = b * 2 ^ min k 63 ∨ 2 ^ 63 ≤ b * 2 ^ min k 63 ∧
      b * 2 ^ min k 63 ≤ b * 2 ^ k := by
    rcases Nat.le_total k 63 with hSmall | hLarge
    · rw [Nat.min_eq_left hSmall]
      exact .inl rfl
    · rw [Nat.min_eq_right hLarge]
      exact .inr ⟨Nat.le_mul_of_pos_left _ hBasePositive,
        Nat.mul_le_mul_left b (Nat.pow_le_pow_right Nat.two_pos hLarge)⟩
  have hIff := whole_millis_iff (Nat.mul_pos hBasePositive (Nat.two_pow_pos k))
    (Nat.lt_of_lt_of_le hBasePositive (Nat.le_max_right _ _)) hPower hLongest
  have hBacked : backedOff config k =
      min (1000 * (b * 2 ^ k)) (max config.maxCooldown config.cooldown) := by
    rw [backedOff, ← Nat.mul_assoc, ← hBase]
  rw [delay_eq, hMillis, hBacked]
  exact hIff

theorem delay_zero_iff {config : HealthConfig} (hPositive : 0 < config.cooldown) :
    delay config 0 = backedOff config 0 ↔
      1000 ∣ backedOff config 0 ∧ backedOff config 0 ≤ maxTimeDelta := by
  constructor
  · intro hDelay
    have hMillis : (1000 : Int) ∣ delay config 0 := by
      rw [delay_eq]
      split
      · exact ⟨_, by rw [Int.natCast_mul, Int.mul_comm]; rfl⟩
      · exact Int.dvd_zero _
    rw [hDelay] at hMillis
    have hWhole : 1000 ∣ config.cooldown := by
      rw [← backedOff_zero]
      exact Int.natCast_dvd_natCast.mp hMillis
    exact (delay_eq_backedOff_iff hPositive hWhole 0).mp hDelay
  · intro hBoth
    have hWhole : 1000 ∣ config.cooldown := by
      rw [← backedOff_zero]
      exact hBoth.1
    exact (delay_eq_backedOff_iff hPositive hWhole 0).mpr hBoth

theorem delay_of_constant {config : HealthConfig} (h : config.maxCooldown ≤ config.cooldown)
    (excess : Nat) : delay config excess = delay config 0 := by
  have hLongest : max (config.maxCooldown / 1000) (config.cooldown / 1000) =
      config.cooldown / 1000 := Nat.max_eq_right (Nat.div_le_div_right h)
  have hShort (shift : Nat) : min (config.cooldown / 1000 * 2 ^ shift) (config.cooldown / 1000) =
      config.cooldown / 1000 := Nat.min_eq_right (Nat.le_mul_of_pos_right _ (Nat.two_pow_pos shift))
  rw [delay_eq, delay_eq, hLongest]
  simp only [hShort]

/-- A failure report on a counter that is compared up to one width and kept in another. -/
def Breaker.failWithin (config : HealthConfig) (limit cap : Nat) (now : DateTime) (b : Breaker) :
    Breaker :=
  if isActive b.cooldownUntil now then b
  else
    let expired := windowExpired b.windowStart now config.failureWindow
    let failures := if expired then 1 else min (b.failures + 1) limit
    { failures := min failures cap
      windowStart := if expired then some now else b.windowStart
      cooldownUntil :=
        if config.failureThreshold.toNat ≤ failures then some (cooldownEnd config now failures)
        else none }

theorem fail_eq_failWithin {config : HealthConfig} {limit cap : Nat} (now : DateTime) {b : Breaker}
    (hCap : b.failures ≤ cap) (hLimit : limit = cap + 1) :
    { b.fail config now with failures := min (b.fail config now).failures cap } =
      b.failWithin config limit cap now := by
  rw [Breaker.fail, Breaker.failWithin]
  split
  · rw [Nat.min_eq_left hCap]
  · have hCounted : min (b.failures + 1) limit = b.failures + 1 :=
      Nat.min_eq_left (by rw [hLimit]; exact Nat.succ_le_succ hCap)
    rw [hCounted]

theorem countFailure_failWithin (config : HealthConfig) (now : DateTime)
    {entry : MemoryAccountState} (hIdle : isActive entry.cooldownUntil now = false) :
    (countFailure config now entry).breaker =
      entry.breaker.failWithin config maxU32 maxU32 now := by
  obtain ⟨-, hBreaker⟩ := countFailure_counted config now entry
  have hActive : ¬isActive entry.breaker.cooldownUntil now = true := by
    rw [MemoryAccountState.breaker, hIdle]
    exact Bool.false_ne_true
  rw [hBreaker, Breaker.failWithin, if_neg hActive]
  dsimp only [MemoryAccountState.breaker]
  congr 1
  split
  · rfl
  · exact (Nat.min_eq_left (Nat.min_le_right _ _)).symm

theorem failWithin_isSome {config : HealthConfig} {limit cap : Nat} {now : DateTime} {b : Breaker}
    (hIdle : isActive b.cooldownUntil now = false) :
    (b.failWithin config limit cap now).cooldownUntil.isSome =
      decide (config.failureThreshold.toNat ≤
        if windowExpired b.windowStart now config.failureWindow then 1
        else min (b.failures + 1) limit) := by
  rw [Breaker.failWithin, if_neg (by rw [hIdle]; exact Bool.false_ne_true)]
  dsimp only
  generalize (if windowExpired b.windowStart now config.failureWindow = true then 1
    else min (b.failures + 1) limit) = failures
  split
  · next hReached => exact (decide_eq_true hReached).symm
  · next hBelow => exact (decide_eq_false hBelow).symm

theorem markMemoryFailure_within (config : HealthConfig) (now : DateTime) (source : String)
    (message : Option String) (entry : MemoryAccountState) :
    let marked := markMemoryFailure config now source message entry
    let b := entry.breaker.failWithin config maxU32 maxU32 now
    marked.1.breaker = b ∧
      marked.2 = (!isActive entry.breaker.cooldownUntil now && b.cooldownUntil.isSome) := by
  intro marked b
  obtain ⟨-, hBreaker, hFlag⟩ := markMemoryFailure_counted config now source message entry
  cases hActive : isActive entry.cooldownUntil now with
  | true =>
    rw [hActive] at hBreaker hFlag
    have hBreakerActive : isActive entry.breaker.cooldownUntil now = true := hActive
    have hSame : entry.breaker.failWithin config maxU32 maxU32 now = entry.breaker :=
      if_pos hBreakerActive
    refine ⟨hBreaker.trans hSame.symm, hFlag.trans ?_⟩
    rw [hBreakerActive]
    rfl
  | false =>
    simp only [hActive, Bool.false_eq_true, if_false] at hBreaker hFlag
    have hCount := countFailure_failWithin config now hActive
    have hBreakerIdle : isActive entry.breaker.cooldownUntil now = false := hActive
    have hFailures := congrArg Breaker.failures (countFailure_counted config now entry).2
    dsimp only [MemoryAccountState.breaker] at hFailures
    rw [hFailures] at hFlag
    refine ⟨hBreaker.trans hCount, hFlag.trans ?_⟩
    rw [failWithin_isSome hBreakerIdle, hBreakerIdle]
    rfl

theorem recordFailure_within {config : HealthConfig} {row : AccountHealthRow}
    (hAccount : row.enabled = true) (hSource : row.sourceEnabled = true)
    (hCap : row.breaker.failures ≤ 2 ^ 31 - 1) (now : DateTime) (source : String)
    (message : Option String) :
    let marked := recordAccountHealthFailure config now source message row
    let b := row.breaker.failWithin config (2 ^ 31) (2 ^ 31 - 1) now
    marked.1.breaker = b ∧
      marked.2 = (!isActive row.breaker.cooldownUntil now && b.cooldownUntil.isSome) := by
  intro marked b
  have hWithin : { row.breaker.fail config now with
      failures := min (row.breaker.fail config now).failures (2 ^ 31 - 1) } = b :=
    fail_eq_failWithin now hCap rfl
  refine ⟨(HealthRegistry.recordFailure_breaker hAccount hSource).trans hWithin, ?_⟩
  have hFail := congrArg Breaker.cooldownUntil hWithin
  dsimp only at hFail
  have hUntil := (HealthRegistry.countedRow_eq config now row).2.2.trans hFail
  simp only [marked, recordAccountHealthFailure, hAccount, hSource, Bool.not_true, Bool.or_self,
    Bool.false_eq_true, if_false, hUntil]
  rfl

/-- The instant the first `k` cooldowns are over, where they last what they should. -/
def restart (config : HealthConfig) (first : DateTime) : Nat → DateTime
  | 0 => first
  | k + 1 => restart config first k + backedOff config k

theorem le_restart (config : HealthConfig) (first : DateTime) (k : Nat) :
    first ≤ restart config first k := by
  induction k with
  | zero => exact Int.le_refl _
  | succ k ih => exact Int.le_trans ih (Int.le_add_of_nonneg_right (Int.natCast_nonneg _))

/-- The cooldown with `k` before it can last what it should: a whole number of
milliseconds that a calendar duration holds, counted by a counter with room for it, and
started by a failure in the window that the first one opened; without growth a window may
end. -/
structure Grows (config : HealthConfig) (limit : Nat) (opened first : DateTime) (k : Nat) :
    Prop where
  whole : 1000 ∣ backedOff config k
  fits : backedOff config k ≤ maxTimeDelta
  counted : k ≤ limit - config.failureThreshold.toNat ∨
    max config.maxCooldown config.cooldown ≤
      config.cooldown * 2 ^ (limit - config.failureThreshold.toNat)
  window : k = 0 ∨ restart config first k - opened ≤ config.failureWindow ∨
    config.failureThreshold.toNat = 1 ∧ backedOff config k = config.cooldown

/-- A breaker in its first cooldown and the account failing again whenever one ends. -/
def cooldowns (config : HealthConfig) (limit cap : Nat) (s : Breaker × DateTime) :
    Nat → Option (Breaker × DateTime)
  | 0 => some s
  | k + 1 => (cooldowns config limit cap s k).bind fun r =>
      r.1.cooldownUntil.map fun ending => (r.1.failWithin config limit cap ending, ending)

def CooldownLasts (config : HealthConfig) (limit cap : Nat) (s : Breaker × DateTime) (k : Nat)
    (length : Duration) : Prop :=
  ∃ r, cooldowns config limit cap s k = some r ∧ r.1.cooldownUntil = some (r.2 + length)

section

variable {config : HealthConfig} {limit cap : Nat} {opened first : DateTime}

def firstCooldown (config : HealthConfig) (cap : Nat) (opened first : DateTime) : Breaker :=
  ⟨min config.failureThreshold.toNat cap, some opened, some (first + delay config 0)⟩

theorem windowExpired_some {opened now : DateTime} {window : Duration} (h : opened ≤ now) :
    windowExpired (some opened) now window = true ↔ ¬now - opened ≤ window := by
  rw [windowExpired, Option.all_some, toStd, if_pos (Int.sub_nonneg.mpr h)]
  rw [decide_eq_true_eq, ← Int.toNat_le, Nat.not_le]

theorem failWithin_inside {ending : DateTime} {k : Nat} (hOpened : opened ≤ ending)
    (hThreshold : config.failureThreshold.toNat ≤ limit) (hCap : limit ≤ cap + 1)
    (hInside : ending - opened ≤ config.failureWindow) :
    Breaker.failWithin config limit cap ending
        ⟨min (min (config.failureThreshold.toNat + k) limit) cap, some opened, some ending⟩ =
      ⟨min (min (config.failureThreshold.toNat + (k + 1)) limit) cap, some opened,
        some (ending + delay config (min (k + 1) (limit - config.failureThreshold.toNat)))⟩ := by
  have hIdle : isActive (some ending) ending = false := by simp [isActive]
  have hOpen : windowExpired (some opened) ending config.failureWindow = false := by
    rw [← Bool.not_eq_true, windowExpired_some hOpened]
    exact not_not_intro hInside
  have hCount : min (min (min (config.failureThreshold.toNat + k) limit) cap + 1) limit =
      min (config.failureThreshold.toNat + (k + 1)) limit := by omega
  have hExcess : min (config.failureThreshold.toNat + (k + 1)) limit -
      config.failureThreshold.toNat = min (k + 1) (limit - config.failureThreshold.toNat) := by
    omega
  have hReached : config.failureThreshold.toNat ≤
      min (config.failureThreshold.toNat + (k + 1)) limit := by omega
  simp only [Breaker.failWithin, hIdle, hOpen, Bool.false_eq_true, if_false, hCount, cooldownEnd_eq,
    hExcess, if_pos hReached]

theorem failWithin_outside {ending : DateTime} {failures : Nat} (hOpened : opened ≤ ending)
    (hOutside : ¬ending - opened ≤ config.failureWindow) :
    (Breaker.failWithin config limit cap ending ⟨failures, some opened, some ending⟩).cooldownUntil =
      if config.failureThreshold.toNat ≤ 1 then
        some (ending + delay config (1 - config.failureThreshold.toNat)) else none := by
  have hIdle : isActive (some ending) ending = false := by simp [isActive]
  have hExpired := (windowExpired_some hOpened).mpr hOutside
  simp only [Breaker.failWithin, hIdle, hExpired, Bool.false_eq_true, if_false, if_true,
    cooldownEnd_eq]

/-- The breaker in the cooldown with `k` before it, where all of them last what they should. -/
def lawful (config : HealthConfig) (limit cap : Nat) (opened first : DateTime) (k : Nat) :
    Breaker × DateTime :=
  (⟨min (min (config.failureThreshold.toNat + k) limit) cap, some opened,
    some (restart config first (k + 1))⟩, restart config first k)

structure Started (config : HealthConfig) (limit cap : Nat) (opened first : DateTime) : Prop where
  order : opened ≤ first
  threshold : 1 ≤ config.failureThreshold.toNat
  reachable : config.failureThreshold.toNat ≤ limit
  cap : limit ≤ cap + 1

theorem CooldownLasts.of_eq {s r : Breaker × DateTime} {k : Nat}
    (h : cooldowns config limit cap s k = some r) (length : Duration) :
    CooldownLasts config limit cap s k length ↔ r.1.cooldownUntil = some (r.2 + length) := by
  constructor
  · rintro ⟨other, hOther, hUntil⟩
    rw [h] at hOther
    cases hOther
    exact hUntil
  · intro hUntil
    exact ⟨r, h, hUntil⟩

theorem cooldowns_succ {s : Breaker × DateTime} {b : Breaker} {start ending : DateTime} {k : Nat}
    (h : cooldowns config limit cap s k = some (b, start)) (hUntil : b.cooldownUntil = some ending) :
    cooldowns config limit cap s (k + 1) = some (b.failWithin config limit cap ending, ending) := by
  rw [cooldowns, h, Option.bind_some, hUntil, Option.map_some]

abbrev start (config : HealthConfig) (cap : Nat) (opened first : DateTime) : Breaker × DateTime :=
  (firstCooldown config cap opened first, first)

theorem cooldowns_eq_lawful (h : Started config limit cap opened first) {k : Nat}
    (hLasts : ∀ j ≤ k, CooldownLasts config limit cap (start config cap opened first) j
      (backedOff config j))
    (hInside : ∀ j, 0 < j → j ≤ k → restart config first j - opened ≤ config.failureWindow) :
    cooldowns config limit cap (start config cap opened first) k =
      some (lawful config limit cap opened first k) := by
  induction k with
  | zero =>
    have hStart : cooldowns config limit cap (start config cap opened first) 0 =
      some (start config cap opened first) := rfl
    have hUntil := (CooldownLasts.of_eq hStart _).mp (hLasts 0 (Nat.le_refl 0))
    have hCount : min (config.failureThreshold.toNat + 0) limit = config.failureThreshold.toNat :=
      Nat.min_eq_left h.reachable
    dsimp only [start, firstCooldown] at hUntil
    rw [hStart, start, firstCooldown, lawful, hUntil, hCount]
    rfl
  | succ k ih =>
    have hState := ih (fun j hj => hLasts j (Nat.le_succ_of_le hj))
      fun j hPositive hj => hInside j hPositive (Nat.le_succ_of_le hj)
    have hNext := cooldowns_succ hState rfl
    have hOrder := Int.le_trans h.order (le_restart config first (k + 1))
    rw [failWithin_inside hOrder h.reachable h.cap
      (hInside (k + 1) (Nat.succ_pos k) (Nat.le_refl _))] at hNext
    have hUntil := (CooldownLasts.of_eq hNext _).mp (hLasts (k + 1) (Nat.le_refl _))
    dsimp only at hUntil
    rw [hNext, hUntil]
    rfl

theorem next_lasts_iff (h : Started config limit cap opened first) {k : Nat}
    (hState : cooldowns config limit cap (start config cap opened first) k =
      some (lawful config limit cap opened first k)) (length : Duration) :
    CooldownLasts config limit cap (start config cap opened first) (k + 1) length ↔
      if restart config first (k + 1) - opened ≤ config.failureWindow then
        delay config (min (k + 1) (limit - config.failureThreshold.toNat)) = length
      else config.failureThreshold.toNat = 1 ∧ delay config 0 = length := by
  have hNext := cooldowns_succ hState rfl
  have hOrder := Int.le_trans h.order (le_restart config first (k + 1))
  rw [CooldownLasts.of_eq hNext]
  split
  · next hWithin =>
    rw [failWithin_inside hOrder h.reachable h.cap hWithin]
    rw [Option.some.injEq]
    exact Int.add_right_inj _
  · next hWithout =>
    rw [failWithin_outside hOrder hWithout]
    have hThreshold := h.threshold
    by_cases hOne : config.failureThreshold.toNat = 1
    · rw [hOne, if_pos (Nat.le_refl 1), Option.some.injEq, Nat.sub_self, and_iff_right rfl]
      exact Int.add_right_inj _
    · rw [if_neg (by omega)]
      exact iff_of_false nofun fun hBoth => hOne hBoth.1

theorem first_lasts_iff (length : Duration) :
    CooldownLasts config limit cap (start config cap opened first) 0 length ↔
      delay config 0 = length := by
  have hStart : cooldowns config limit cap (start config cap opened first) 0 =
    some (start config cap opened first) := rfl
  rw [CooldownLasts.of_eq hStart, start, firstCooldown, Option.some.injEq]
  exact Int.add_right_inj _

/-- No cooldown is longer than the first, and one failure starts it. -/
def Constant (config : HealthConfig) : Prop :=
  config.failureThreshold.toNat = 1 ∧ config.maxCooldown ≤ config.cooldown

theorem Constant.backedOff (h : Constant config) (k : Nat) :
    backedOff config k = config.cooldown := by
  have hPower : config.cooldown ≤ config.cooldown * 2 ^ k :=
    Nat.le_mul_of_pos_right _ (Nat.two_pow_pos k)
  rw [Health.backedOff, Nat.max_eq_right h.2, Nat.min_eq_right hPower]

theorem Constant.grows (h : Constant config) (hWhole : 1000 ∣ config.cooldown)
    (hFits : config.cooldown ≤ maxTimeDelta) (k : Nat) : Grows config limit opened first k := by
  have hSame := h.backedOff k
  refine ⟨?_, ?_, .inr ?_, .inr (.inr ⟨h.1, hSame⟩)⟩
  · rw [hSame]
    exact hWhole
  · rw [hSame]
    exact hFits
  · rw [Nat.max_eq_right h.2]
    exact Nat.le_mul_of_pos_right _ (Nat.two_pow_pos _)

theorem constant_of_backedOff {k : Nat} (hPositive : 0 < config.cooldown) (hk : 0 < k)
    (hThreshold : config.failureThreshold.toNat = 1)
    (h : backedOff config k = config.cooldown) : Constant config := by
  rw [← backedOff_zero] at h
  have hLongest := (backedOff_eq_iff hPositive hk).mp h.symm
  rw [Nat.pow_zero, Nat.mul_one] at hLongest
  exact ⟨hThreshold, Nat.le_trans (Nat.le_max_left _ _) hLongest⟩

theorem Constant.lasts (h : Constant config) (hStarted : Started config limit cap opened first)
    (hFirst : delay config 0 = config.cooldown) (k : Nat) :
    CooldownLasts config limit cap (start config cap opened first) k config.cooldown := by
  induction k with
  | zero => exact (first_lasts_iff _).mpr hFirst
  | succ k ih =>
    obtain ⟨⟨b, started⟩, hState, hUntil⟩ := ih
    dsimp only at hUntil
    have hNext := cooldowns_succ hState hUntil
    rw [CooldownLasts.of_eq hNext]
    have hIdle : isActive b.cooldownUntil (started + config.cooldown) = false := by
      simp [hUntil, isActive]
    have hLimit := Nat.le_trans hStarted.threshold hStarted.reachable
    have hReached : ∀ failures, 1 ≤ failures → (if config.failureThreshold.toNat ≤ failures then
        some (cooldownEnd config (started + config.cooldown) failures) else none) =
          some (started + config.cooldown + config.cooldown) := by
      intro failures hCounted
      rw [h.1, if_pos hCounted, cooldownEnd_eq, delay_of_constant h.2, hFirst]
    rw [Breaker.failWithin, if_neg (by rw [hIdle]; exact Bool.false_ne_true)]
    apply hReached
    split
    · exact Nat.le_refl 1
    · exact Nat.le_min.mpr ⟨Nat.succ_pos _, hLimit⟩

theorem lasts_iff_grows_step (h : Started config limit cap opened first)
    (hPositive : 0 < config.cooldown) (k : Nat)
    (hBefore : ∀ j < k, CooldownLasts config limit cap (start config cap opened first) j
      (backedOff config j))
    (hGrew : ∀ j < k, Grows config limit opened first j) :
    CooldownLasts config limit cap (start config cap opened first) k (backedOff config k) ↔
      Grows config limit opened first k := by
  cases k with
  | zero =>
    rw [first_lasts_iff, delay_zero_iff hPositive]
    constructor
    · rintro ⟨hWhole, hFits⟩
      exact ⟨hWhole, hFits, .inl (Nat.zero_le _), .inl rfl⟩
    · intro hGrows
      exact ⟨hGrows.whole, hGrows.fits⟩
  | succ k =>
    have hFirst := hGrew 0 (Nat.succ_pos k)
    have hWhole : 1000 ∣ config.cooldown := by
      rw [← backedOff_zero]
      exact hFirst.whole
    have hDelay : delay config 0 = config.cooldown := by
      rw [(delay_zero_iff hPositive).mpr ⟨hFirst.whole, hFirst.fits⟩, backedOff_zero]
    by_cases hConstant : Constant config
    · have hFits : config.cooldown ≤ maxTimeDelta := by
        rw [← backedOff_zero]
        exact hFirst.fits
      refine iff_of_true ?_ (hConstant.grows hWhole hFits (k + 1))
      rw [hConstant.backedOff]
      exact hConstant.lasts h hDelay (k + 1)
    · have hGrowing : ∀ j, 0 < j → config.failureThreshold.toNat = 1 →
          backedOff config j ≠ config.cooldown := fun j hj hThreshold hSame =>
        hConstant (constant_of_backedOff hPositive hj hThreshold hSame)
      have hInside : ∀ j, 0 < j → j ≤ k → restart config first j - opened ≤ config.failureWindow := by
        intro j hj hjk
        rcases (hGrew j (Nat.lt_succ_of_le hjk)).window with hZero | hWithin | ⟨hThreshold, hSame⟩
        · omega
        · exact hWithin
        · exact absurd hSame (hGrowing j hj hThreshold)
      have hState := cooldowns_eq_lawful h (fun j hj => hBefore j (Nat.lt_succ_of_le hj)) hInside
      rw [next_lasts_iff h hState]
      by_cases hWithin : restart config first (k + 1) - opened ≤ config.failureWindow
      · rw [if_pos hWithin]
        rcases Nat.lt_or_ge (limit - config.failureThreshold.toNat) (k + 1) with hFull | hRoom
        · have hLast := hGrew _ hFull
          have hLastDelay := (delay_eq_backedOff_iff hPositive hWhole _).mpr
            ⟨hLast.whole, hLast.fits⟩
          have hSame := backedOff_eq_iff hPositive hFull
          rw [Nat.min_eq_right (Nat.le_of_lt hFull), hLastDelay, Int.ofNat_inj]
          constructor
          · intro hEq
            refine ⟨?_, ?_, .inr (hSame.mp hEq), .inr (.inl hWithin)⟩
            · rw [← hEq]
              exact hLast.whole
            · rw [← hEq]
              exact hLast.fits
          · intro hGrows
            exact hSame.mpr (hGrows.counted.resolve_left (Nat.not_le.mpr hFull))
        · rw [Nat.min_eq_left hRoom, delay_eq_backedOff_iff hPositive hWhole]
          constructor
          · rintro ⟨hNextWhole, hNextFits⟩
            exact ⟨hNextWhole, hNextFits, .inl hRoom, .inr (.inl hWithin)⟩
          · intro hGrows
            exact ⟨hGrows.whole, hGrows.fits⟩
      · rw [if_neg hWithin]
        refine iff_of_false ?_ ?_
        · rintro ⟨hThreshold, hEq⟩
          rw [hDelay, Int.ofNat_inj] at hEq
          exact hGrowing (k + 1) (Nat.succ_pos k) hThreshold hEq.symm
        · intro hGrows
          rcases hGrows.window with hZero | hInsideNow | ⟨hThreshold, hSame⟩
          · cases hZero
          · exact hWithin hInsideNow
          · exact hGrowing (k + 1) (Nat.succ_pos k) hThreshold hSame

theorem lasts_iff_grows (h : Started config limit cap opened first)
    (hPositive : 0 < config.cooldown) (n : Nat) :
    (∀ k < n, CooldownLasts config limit cap (start config cap opened first) k
      (backedOff config k)) ↔ ∀ k < n, Grows config limit opened first k := by
  induction n with
  | zero => exact iff_of_true nofun nofun
  | succ n ih =>
    rw [Nat.forall_lt_succ_right, Nat.forall_lt_succ_right]
    constructor
    · rintro ⟨hBefore, hLasts⟩
      have hGrew := ih.mp hBefore
      exact ⟨hGrew, (lasts_iff_grows_step h hPositive n hBefore hGrew).mp hLasts⟩
    · rintro ⟨hGrew, hGrows⟩
      have hBefore := ih.mpr hGrew
      exact ⟨hBefore, (lasts_iff_grows_step h hPositive n hBefore hGrew).mpr hGrows⟩

theorem add_le_restart (hPositive : 0 < config.cooldown) (first : DateTime) (k : Nat) :
    first + k ≤ restart config first k := by
  induction k with
  | zero => exact Int.le_of_eq (Int.add_zero first)
  | succ k ih =>
    have hStep : 1 ≤ backedOff config k :=
      Nat.le_trans (by rw [backedOff_zero]; exact hPositive) (backedOff_mono config (Nat.zero_le k))
    have hCast := Int.ofNat_le.mpr hStep
    rw [restart, Int.natCast_succ, ← Int.add_assoc]
    exact Int.add_le_add ih hCast

/-- All cooldowns last what they should only without growth: a window ends some time. -/
theorem always_grows_iff (h : Started config limit cap opened first)
    (hPositive : 0 < config.cooldown) :
    (∀ k, Grows config limit opened first k) ↔
      Constant config ∧ 1000 ∣ config.cooldown ∧ config.cooldown ≤ maxTimeDelta := by
  constructor
  · intro hGrows
    have hFirst := hGrows 0
    refine ⟨?_, by rw [← backedOff_zero]; exact hFirst.whole,
      by rw [← backedOff_zero]; exact hFirst.fits⟩
    rcases (hGrows (config.failureWindow + 1)).window with hZero | hWithin | ⟨hThreshold, hSame⟩
    · cases hZero
    · have hLate := add_le_restart hPositive first (config.failureWindow + 1)
      have hOrder := h.order
      rw [Int.natCast_succ] at hLate
      have hArith (window restarted opened first : Int) (hStart : opened ≤ first)
          (hLate : first + (window + 1) ≤ restarted) (hWithin : restarted - opened ≤ window) :
          False := by omega
      exact (hArith _ _ _ _ hOrder hLate hWithin).elim
    · exact constant_of_backedOff hPositive (Nat.succ_pos _) hThreshold hSame
  · rintro ⟨hConstant, hWhole, hFits⟩ k
    exact hConstant.grows hWhole hFits k

theorem always_lasts_iff (h : Started config limit cap opened first)
    (hPositive : 0 < config.cooldown) :
    (∀ k, CooldownLasts config limit cap (start config cap opened first) k (backedOff config k)) ↔
      Constant config ∧ 1000 ∣ config.cooldown ∧ config.cooldown ≤ maxTimeDelta := by
  rw [← always_grows_iff h hPositive]
  constructor
  · intro hLasts k
    exact (lasts_iff_grows h hPositive (k + 1)).mp (fun j _ => hLasts j) k (Nat.lt_succ_self k)
  · intro hGrows k
    exact (lasts_iff_grows h hPositive (k + 1)).mpr (fun j _ => hGrows j) k (Nat.lt_succ_self k)

theorem backedOff_reaches (hPositive : 0 < config.cooldown) :
    ∃ k, backedOff config k = max config.maxCooldown config.cooldown := by
  refine ⟨max config.maxCooldown config.cooldown, Nat.min_eq_right ?_⟩
  exact Nat.le_trans (Nat.le_of_lt Nat.lt_two_pow_self) (Nat.le_mul_of_pos_left _ hPositive)

end

namespace HealthRegistry

variable {registry : HealthRegistry} {accountId : String}

theorem markFailure_within (now : DateTime) (source : String) (message : Option String)
    (hRecorded : registry.recorded accountId = true)
    (hCap : (registry.breaker accountId).failures ≤ registry.counterCap) :
    let marked := registry.markFailureWithDetails now accountId source message
    let b := (registry.breaker accountId).failWithin registry.config registry.counterLimit
      registry.counterCap now
    marked.1.breaker accountId = b ∧
      marked.2 = (!isActive (registry.breaker accountId).cooldownUntil now &&
        b.cooldownUntil.isSome) := by
  cases hStore : registry.store with
  | memory state =>
    have hEntry := markMemoryFailure_within registry.config now source message
      ((state.get accountId).getD {})
    simpa only [markFailureWithDetails, breaker, counterLimit, counterCap, hStore, Table.get_insert,
      if_true, Option.getD_some] using hEntry
  | database rows =>
    cases hRow : rows.get accountId with
    | none => simp [recorded, hStore, hRow] at hRecorded
    | some row =>
      simp only [recorded, hStore, hRow, Option.any_some, Bool.and_eq_true] at hRecorded
      simp only [breaker, counterCap, hStore, hRow, Option.map_some, Option.getD_some] at hCap
      have hWritten := @recordFailure_within registry.config row hRecorded.1 hRecorded.2 hCap now
        source message
      simpa only [markFailureWithDetails, breaker, counterLimit, counterCap, hStore, hRow,
        Table.get_insert, if_true, Option.map_some, Option.getD_some] using hWritten

structure FailureReport where
  instant : DateTime
  source : String
  message : Option String

def failed (registry : HealthRegistry) (accountId : String) (r : FailureReport) :
    HealthRegistry × Bool :=
  registry.markFailureWithDetails r.instant accountId r.source r.message

def afterFailures (registry : HealthRegistry) (accountId : String) :
    List FailureReport → HealthRegistry
  | [] => registry
  | r :: rest => (registry.failed accountId r).1.afterFailures accountId rest

def StartsNone (registry : HealthRegistry) (accountId : String) : List FailureReport → Prop
  | [] => True
  | r :: rest =>
    (registry.failed accountId r).2 = false ∧
      (registry.failed accountId r).1.StartsNone accountId rest

def failAgain (accountId source : String) (message : Option String)
    (s : HealthRegistry × DateTime) : Option (HealthRegistry × DateTime) :=
  (s.1.breaker accountId).cooldownUntil.map fun ending =>
    ((s.1.failed accountId ⟨ending, source, message⟩).1, ending)

/-- The registry in the cooldown with `k` before it, and the instant it started. -/
def nthCooldown (accountId : String) (reports : Nat → String × Option String)
    (s : HealthRegistry × DateTime) : Nat → Option (HealthRegistry × DateTime)
  | 0 => some s
  | k + 1 => (nthCooldown accountId reports s k).bind
      (failAgain accountId (reports k).1 (reports k).2)

def Lasts (accountId : String) (reports : Nat → String × Option String)
    (s : HealthRegistry × DateTime) (k : Nat) (length : Duration) : Prop :=
  ∃ r, nthCooldown accountId reports s k = some r ∧
    (r.1.breaker accountId).cooldownUntil = some (r.2 + length)

/-- A registry that keeps the reports on an account in the range of its counter. -/
structure Counts (registry later : HealthRegistry) (accountId : String) : Prop where
  kind : SameKind registry later
  recorded : later.recorded accountId = true
  cap : (later.breaker accountId).failures ≤ registry.counterCap

theorem failWithin_failures_le {config : HealthConfig} {limit cap : Nat} {now : DateTime}
    {b : Breaker} (h : b.failures ≤ cap) : (b.failWithin config limit cap now).failures ≤ cap := by
  rw [Breaker.failWithin]
  split
  · exact h
  · exact Nat.min_le_right _ _

variable {later : HealthRegistry}

theorem Counts.failed (h : Counts registry later accountId) (r : FailureReport) :
    let b := (later.breaker accountId).failWithin registry.config registry.counterLimit
      registry.counterCap r.instant
    Counts registry (later.failed accountId r).1 accountId ∧
      (later.failed accountId r).1.breaker accountId = b ∧
      (later.failed accountId r).2 =
        (!isActive (later.breaker accountId).cooldownUntil r.instant && b.cooldownUntil.isSome) := by
  intro b
  have hCap := h.cap
  rw [← h.kind.cap] at hCap
  have hMarked := markFailure_within r.instant r.source r.message h.recorded hCap
  rw [h.kind.config, h.kind.cap, h.kind.limit] at hMarked
  refine ⟨⟨h.kind.trans markFailure_sameKind, markFailure_recorded.trans h.recorded, ?_⟩, hMarked⟩
  rw [HealthRegistry.failed, hMarked.1]
  exact failWithin_failures_le h.cap

theorem nthCooldown_counts {accountId : String} (reports : Nat → String × Option String)
    (first : DateTime) (h : Counts registry later accountId) (k : Nat) :
    (nthCooldown accountId reports (later, first) k).map
        (fun s => (s.1.breaker accountId, s.2)) =
      cooldowns registry.config registry.counterLimit registry.counterCap
        (later.breaker accountId, first) k ∧
      ∀ s ∈ nthCooldown accountId reports (later, first) k, Counts registry s.1 accountId := by
  induction k with
  | zero =>
    refine ⟨rfl, fun s hs => ?_⟩
    cases hs
    exact h
  | succ k ih =>
    obtain ⟨hEq, hCounts⟩ := ih
    rw [nthCooldown, cooldowns, ← hEq]
    cases hState : nthCooldown accountId reports (later, first) k with
    | none => exact ⟨rfl, nofun⟩
    | some s =>
      have hFailed := (hCounts s hState).failed
      rw [Option.bind_some, Option.map_some, Option.bind_some, failAgain]
      cases hUntil : (s.1.breaker accountId).cooldownUntil with
      | none => exact ⟨rfl, nofun⟩
      | some ending =>
        obtain ⟨hNext, hBreaker, -⟩ := hFailed ⟨ending, (reports k).1, (reports k).2⟩
        refine ⟨?_, fun r hr => ?_⟩
        · simp only [Option.map_some, hBreaker]
        · cases hr
          exact hNext

theorem lasts_iff {accountId : String} (reports : Nat → String × Option String)
    (first : DateTime) (h : Counts registry later accountId) (k : Nat) (length : Duration) :
    Lasts accountId reports (later, first) k length ↔
      CooldownLasts registry.config registry.counterLimit registry.counterCap
        (later.breaker accountId, first) k length := by
  obtain ⟨hEq, -⟩ := nthCooldown_counts reports first h k
  rw [Lasts, CooldownLasts, ← hEq]
  constructor
  · rintro ⟨r, hr, hUntil⟩
    exact ⟨_, by rw [hr]; rfl, hUntil⟩
  · rintro ⟨s, hs, hUntil⟩
    obtain ⟨r, hr, rfl⟩ := Option.map_eq_some_iff.mp hs
    exact ⟨r, hr, hUntil⟩

theorem cooldown_positive (registry : HealthRegistry) : 0 < registry.config.cooldown := by
  have hCooldown : registry.config.cooldown = max registry.config.cooldown (fromMillis 1) :=
    congrArg HealthConfig.cooldown registry.normalized.symm
  rw [hCooldown]
  exact Nat.lt_of_lt_of_le (by decide) (Nat.le_max_right _ (fromMillis 1))

theorem threshold_positive (registry : HealthRegistry) :
    1 ≤ registry.config.failureThreshold.toNat := by
  have hThreshold : registry.config.failureThreshold = max registry.config.failureThreshold 1 :=
    congrArg HealthConfig.failureThreshold registry.normalized.symm
  have hMax : max registry.config.failureThreshold 1 =
      if registry.config.failureThreshold ≤ 1 then 1 else registry.config.failureThreshold := rfl
  rw [hThreshold, hMax]
  split
  · exact Nat.le_refl 1
  · next hMore => exact Nat.le_of_not_le fun hLess => hMore (UInt32.le_iff_toNat_le.mpr hLess)

theorem counterLimit_le (registry : HealthRegistry) :
    registry.counterLimit ≤ registry.counterCap + 1 := by
  rw [counterLimit, counterCap]
  split <;> decide

theorem counterLimit_pos (registry : HealthRegistry) : 1 ≤ registry.counterLimit := by
  rw [counterLimit]
  split <;> decide

/-- No cooldown has started: the counter is below the threshold. -/
structure Quiet (registry later : HealthRegistry) (accountId : String) : Prop extends
    Counts registry later accountId where
  below : (later.breaker accountId).failures < registry.config.failureThreshold.toNat
  idle : (later.breaker accountId).cooldownUntil = none

theorem Quiet.of_closed (hRecorded : registry.recorded accountId = true)
    (hClosed : registry.breaker accountId = .closed) : Quiet registry registry accountId where
  kind := .refl registry
  recorded := hRecorded
  cap := by
    rw [hClosed]
    exact Nat.zero_le _
  below := by
    rw [hClosed]
    exact registry.threshold_positive
  idle := by
    rw [hClosed]
    rfl

theorem Quiet.failed (h : Quiet registry later accountId) {r : FailureReport}
    (hNone : (later.failed accountId r).2 = false) :
    Quiet registry (later.failed accountId r).1 accountId := by
  obtain ⟨hCounts, hBreaker, hFlag⟩ := h.toCounts.failed r
  have hIdle : isActive (later.breaker accountId).cooldownUntil r.instant = false := by
    rw [h.idle]
    rfl
  rw [hNone, hIdle, failWithin_isSome hIdle] at hFlag
  have hBelow := of_decide_eq_false hFlag.symm
  refine ⟨hCounts, ?_, ?_⟩
  · rw [hBreaker, Breaker.failWithin, if_neg (by rw [hIdle]; exact Bool.false_ne_true)]
    exact Nat.lt_of_le_of_lt (Nat.min_le_left _ _) (Nat.not_le.mp hBelow)
  · rw [hBreaker, Breaker.failWithin, if_neg (by rw [hIdle]; exact Bool.false_ne_true)]
    exact if_neg hBelow

theorem Quiet.afterFailures (h : Quiet registry later accountId) {reports : List FailureReport}
    (hNone : later.StartsNone accountId reports) :
    Quiet registry (later.afterFailures accountId reports) accountId := by
  induction reports generalizing later with
  | nil => exact h
  | cons r rest ih => exact ih (h.failed hNone.1) hNone.2

theorem Quiet.starts (h : Quiet registry later accountId) {r : FailureReport}
    (hStarts : (later.failed accountId r).2 = true) :
    ∃ opened, (later.failed accountId r).1.breaker accountId =
        firstCooldown registry.config registry.counterCap opened r.instant ∧
      Started registry.config registry.counterLimit registry.counterCap opened r.instant := by
  obtain ⟨-, hBreaker, hFlag⟩ := h.toCounts.failed r
  have hIdle : isActive (later.breaker accountId).cooldownUntil r.instant = false := by
    rw [h.idle]
    rfl
  have hBelow := h.below
  have hThreshold := registry.threshold_positive
  have hLimit := registry.counterLimit_pos
  rw [hStarts, hIdle, failWithin_isSome hIdle] at hFlag
  have hReached := of_decide_eq_true hFlag.symm
  rw [hBreaker, Breaker.failWithin, if_neg (by rw [hIdle]; exact Bool.false_ne_true)]
  cases hExpired : windowExpired (later.breaker accountId).windowStart r.instant
      registry.config.failureWindow with
  | true =>
    rw [hExpired, if_pos rfl] at hReached
    have hOne := Nat.le_antisymm hReached hThreshold
    refine ⟨r.instant, ?_, Int.le_refl _, hThreshold, by omega, registry.counterLimit_le⟩
    dsimp only
    rw [if_pos rfl, if_pos rfl, hOne, if_pos (Nat.le_refl 1), cooldownEnd_eq, firstCooldown, hOne]
  | false =>
    rw [hExpired, if_neg Bool.false_ne_true] at hReached
    have hCount : min ((later.breaker accountId).failures + 1) registry.counterLimit =
        registry.config.failureThreshold.toNat := by omega
    obtain ⟨opened, hOpened, hOrder, -⟩ := windowExpired_eq_false hExpired
    refine ⟨opened, ?_, hOrder, hThreshold, ?_, registry.counterLimit_le⟩
    · dsimp only
      rw [if_neg Bool.false_ne_true, if_neg Bool.false_ne_true, hCount, if_pos (Nat.le_refl _),
        cooldownEnd_eq, firstCooldown, hOpened, Nat.sub_self]
    · rw [← hCount]
      exact Nat.min_le_right _ _

/-- An account fails until a cooldown starts, and fails again whenever one ends.  Its first
cooldowns double up to the longest one exactly as far as each of them can; all of them do
only where nothing grows. -/
theorem cooldowns_double_iff (registry : HealthRegistry) (accountId : String)
    (hRecorded : registry.recorded accountId = true)
    (hClosed : registry.breaker accountId = .closed) (early : List FailureReport)
    (hEarly : registry.StartsNone accountId early) (r : FailureReport)
    (hStarts : ((registry.afterFailures accountId early).failed accountId r).2 = true)
    (reports : Nat → String × Option String) :
    let cooling := ((registry.afterFailures accountId early).failed accountId r).1
    let lasts (k : Nat) :=
      Lasts accountId reports (cooling, r.instant) k (backedOff registry.config k)
    (∃ opened, (cooling.breaker accountId).windowStart = some opened ∧
      ∀ n, (∀ k < n, lasts k) ↔
        ∀ k < n, Grows registry.config registry.counterLimit opened r.instant k) ∧
    ((∀ k, lasts k) ↔ Constant registry.config ∧ 1000 ∣ registry.config.cooldown ∧
      registry.config.cooldown ≤ maxTimeDelta) ∧
    (∀ j k, j ≤ k → backedOff registry.config j ≤ backedOff registry.config k) ∧
    ∃ k, backedOff registry.config k = max registry.config.maxCooldown registry.config.cooldown := by
  intro cooling lasts
  have hQuiet := (Quiet.of_closed hRecorded hClosed).afterFailures hEarly
  obtain ⟨opened, hBreaker, hStarted⟩ := hQuiet.starts hStarts
  have hPositive := registry.cooldown_positive
  have hLasts : ∀ k, lasts k ↔ CooldownLasts registry.config registry.counterLimit
      registry.counterCap (start registry.config registry.counterCap opened r.instant) k
      (backedOff registry.config k) := by
    intro k
    rw [start, ← hBreaker]
    exact lasts_iff reports r.instant (hQuiet.toCounts.failed r).1 k _
  refine ⟨⟨opened, by rw [hBreaker]; rfl, fun n => ?_⟩, ?_, fun j k => backedOff_mono _,
    backedOff_reaches hPositive⟩
  · simp only [hLasts]
    exact lasts_iff_grows hStarted hPositive n
  · simp only [hLasts]
    exact always_lasts_iff hStarted hPositive

/-- A registry in memory with the default configuration: half a minute doubles, but the
window of the failures is a minute. -/
def defaultRegistry : HealthRegistry where
  config := {}
  store := .memory .empty
  normalized := by decide

def failingAt (instant : DateTime) : FailureReport := ⟨instant, "passive", none⟩

def defaultCooling : HealthRegistry :=
  ((defaultRegistry.afterFailures "a" [failingAt 0, failingAt 0]).failed "a" (failingAt 0)).1

theorem default_cooldowns_double_iff :
    ∃ opened, (defaultCooling.breaker "a").windowStart = some opened ∧
      ∀ n, (∀ k < n, Lasts "a" (fun _ => ("passive", none)) (defaultCooling, 0) k
        (backedOff defaultRegistry.config k)) ↔
          ∀ k < n, Grows defaultRegistry.config defaultRegistry.counterLimit opened 0 k :=
  (cooldowns_double_iff defaultRegistry "a" rfl rfl [failingAt 0, failingAt 0]
    ⟨rfl, rfl, trivial⟩ (failingAt 0) rfl fun _ => ("passive", none)).1

/-- The first failure after the window starts no cooldown at all. -/
theorem third_cooldown_never_starts :
    defaultRegistry.recorded "a" = true ∧ defaultRegistry.breaker "a" = .closed ∧
      defaultRegistry.StartsNone "a" [failingAt 0, failingAt 0] ∧
      ((defaultRegistry.afterFailures "a" [failingAt 0, failingAt 0]).failed "a"
        (failingAt 0)).2 = true ∧
      ¬Lasts "a" (fun _ => ("passive", none)) (defaultCooling, 0) 2
        (backedOff defaultRegistry.config 2) := by
  refine ⟨rfl, rfl, ⟨rfl, rfl, trivial⟩, rfl, ?_⟩
  rintro ⟨r, hr, hUntil⟩
  have hThird : (nthCooldown "a" (fun _ => ("passive", none)) (defaultCooling, 0) 2).bind
      (fun s => (s.1.breaker "a").cooldownUntil) = none := by
    decide
  rw [hr, Option.bind_some, hUntil] at hThird
  cases hThird

end HealthRegistry

end AiGateway.Health
