import AiGateway.Base.Cycle
import AiGateway.Proxy.Fallback

/-!
# How often each fallback is chosen

The weights of the candidates divide the nanoseconds of a second.
-/

namespace AiGateway.Proxy

set_option autoImplicit false

open AiGateway.Config AiGateway.Routing

def weightOf (c : FallbackCandidate) : Nat := c.account.weight.toNat

/-- The weights the control plane accepts. -/
def Accepted (candidates : List FallbackCandidate) : Prop :=
  ∀ c ∈ candidates, 1 ≤ weightOf c ∧ weightOf c ≤ 2 ^ 31 - 1

/-- The sum of the weights, without a width. -/
def weightSum (candidates : List FallbackCandidate) : Nat := (candidates.map weightOf).sum

def nanosPerSecond : Nat := 10 ^ 9

def pickedIndex (candidates : List FallbackCandidate) (nanos : Nat) : Nat :=
  selectedIndex (UInt32.ofNat nanos % max (totalWeight candidates) 1) 0 0 candidates

/-- The ticks of the clock at which a candidate is selected. -/
def ticksOf (candidates : List FallbackCandidate) (i : Nat) : Nat :=
  Nat.count (fun nanos => pickedIndex candidates nanos = i) nanosPerSecond

theorem weightSum_cons (c : FallbackCandidate) (rest : List FallbackCandidate) :
    weightSum (c :: rest) = weightOf c + weightSum rest := rfl

theorem weightSum_append (first rest : List FallbackCandidate) :
    weightSum (first ++ rest) = weightSum first + weightSum rest := by
  simp [weightSum]

theorem weightSum_take_le (candidates : List FallbackCandidate) (i : Nat) :
    weightSum (candidates.take i) ≤ weightSum candidates := by
  conv_rhs => rw [← List.take_append_drop i candidates, weightSum_append]
  exact Nat.le_add_right _ _

theorem weightSum_take_mono (candidates : List FallbackCandidate) {i j : Nat} (h : i ≤ j) :
    weightSum (candidates.take i) ≤ weightSum (candidates.take j) := by
  have hTake : candidates.take i = (candidates.take j).take i := by
    rw [List.take_take, Nat.min_eq_left h]
  rw [hTake]
  exact weightSum_take_le _ i

theorem max_weight {c : FallbackCandidate} (h : 1 ≤ weightOf c) :
    max c.account.weight 1 = c.account.weight := by
  have hMax : max c.account.weight 1 =
      if c.account.weight ≤ 1 then 1 else c.account.weight := rfl
  rw [hMax]
  split
  · next hLess => exact UInt32.toNat_inj.mp (Nat.le_antisymm h (UInt32.le_iff_toNat_le.mp hLess))
  · rfl

theorem totalWeight_cons {c : FallbackCandidate} (rest : List FallbackCandidate)
    (h : 1 ≤ weightOf c) : totalWeight (c :: rest) = c.account.weight + totalWeight rest := by
  rw [totalWeight, List.map_cons, List.sum_cons, max_weight h]
  rfl

theorem Accepted.tail {c : FallbackCandidate} {rest : List FallbackCandidate}
    (h : Accepted (c :: rest)) : Accepted rest := fun d hd => h d (List.mem_cons_of_mem c hd)

theorem totalWeight_toNat {candidates : List FallbackCandidate} (h : Accepted candidates) :
    (totalWeight candidates).toNat = weightSum candidates % 2 ^ 32 := by
  induction candidates with
  | nil => rfl
  | cons c rest ih =>
    rw [totalWeight_cons rest (h c List.mem_cons_self).1, UInt32.toNat_add, ih h.tail,
      weightSum_cons, weightOf, Nat.add_mod_mod]

/-- The candidate in whose part of the running sum the tick lies. -/
theorem selectedIndex_spec {candidates : List FallbackCandidate} (h : Accepted candidates)
    (tick cursor : UInt32) (offset : Nat)
    (hFits : cursor.toNat + weightSum candidates < 2 ^ 32) (hLow : cursor.toNat ≤ tick.toNat)
    (hHigh : tick.toNat < cursor.toNat + weightSum candidates) :
    ∃ i < candidates.length, selectedIndex tick cursor offset candidates = offset + i ∧
      cursor.toNat + weightSum (candidates.take i) ≤ tick.toNat ∧
      tick.toNat < cursor.toNat + weightSum (candidates.take (i + 1)) := by
  induction candidates generalizing cursor offset with
  | nil =>
    rw [weightSum, List.map_nil, List.sum_nil] at hHigh
    omega
  | cons c rest ih =>
    have hWeight := h c List.mem_cons_self
    rw [weightSum_cons] at hFits hHigh
    have hCursor : (cursor + c.account.weight).toNat = cursor.toNat + weightOf c := by
      rw [UInt32.toNat_add, weightOf, Nat.mod_eq_of_lt]
      rw [weightOf] at hFits
      omega
    rw [selectedIndex, max_weight hWeight.1]
    split
    · next hFound =>
      have hFound' := UInt32.lt_iff_toNat_lt.mp hFound
      rw [hCursor] at hFound'
      refine ⟨0, Nat.succ_pos _, rfl, hLow, ?_⟩
      simp only [List.take_succ_cons, List.take_zero, weightSum_cons]
      exact hFound'
    · next hBeyond =>
      have hBeyond' := Nat.not_lt.mp fun hLess => hBeyond (UInt32.lt_iff_toNat_lt.mpr hLess)
      rw [hCursor] at hBeyond'
      obtain ⟨i, hi, hIndex, hFrom, hTo⟩ := ih h.tail
        (cursor + c.account.weight) (offset + 1) (by rw [hCursor]; omega)
        (by rw [hCursor]; exact hBeyond') (by rw [hCursor]; omega)
      rw [hCursor] at hFrom hTo
      refine ⟨i + 1, Nat.succ_lt_succ hi, by omega, ?_, ?_⟩
      · rw [List.take_succ_cons, weightSum_cons]
        omega
      · rw [List.take_succ_cons, weightSum_cons]
        omega

section

variable {candidates : List FallbackCandidate}

theorem weightSum_pos (hNonempty : candidates ≠ []) (h : Accepted candidates) :
    0 < weightSum candidates := by
  cases candidates with
  | nil => exact absurd rfl hNonempty
  | cons c rest =>
    have hWeight := (h c List.mem_cons_self).1
    rw [weightSum_cons]
    omega

theorem weightSum_take_succ {i : Nat} (hi : i < candidates.length) :
    weightSum (candidates.take (i + 1)) = weightSum (candidates.take i) + weightOf candidates[i] := by
  rw [List.take_succ_eq_append_getElem hi, weightSum_append, weightSum_cons]
  rfl

theorem tick_toNat (hNonempty : candidates ≠ []) (h : Accepted candidates)
    (hFits : weightSum candidates < 2 ^ 32) {nanos : Nat} (hNanos : nanos < nanosPerSecond) :
    (UInt32.ofNat nanos % max (totalWeight candidates) 1).toNat = nanos % weightSum candidates := by
  have hTotal : (totalWeight candidates).toNat = weightSum candidates := by
    rw [totalWeight_toNat h, Nat.mod_eq_of_lt hFits]
  have hPositive := weightSum_pos hNonempty h
  have hMax : max (totalWeight candidates) 1 = totalWeight candidates := by
    have hUnfold : max (totalWeight candidates) 1 =
        if totalWeight candidates ≤ 1 then 1 else totalWeight candidates := rfl
    rw [hUnfold]
    split
    · next hLess =>
      have hOne := UInt32.le_iff_toNat_le.mp hLess
      rw [hTotal] at hOne
      exact UInt32.toNat_inj.mp (by rw [hTotal]; exact Nat.le_antisymm hPositive hOne)
    · rfl
  have hNarrow : (UInt32.ofNat nanos).toNat = nanos := by
    rw [UInt32.toNat_ofNat']
    exact Nat.mod_eq_of_lt (Nat.lt_trans hNanos (by decide))
  rw [hMax, UInt32.toNat_mod, hNarrow, hTotal]

/-- A candidate is picked where the tick lies in its part of the sum. -/
theorem pickedIndex_eq_iff (hNonempty : candidates ≠ []) (h : Accepted candidates)
    (hFits : weightSum candidates < 2 ^ 32) {nanos : Nat} (hNanos : nanos < nanosPerSecond)
    {i : Nat} (hi : i < candidates.length) :
    pickedIndex candidates nanos = i ↔
      weightSum (candidates.take i) ≤ nanos % weightSum candidates ∧
        nanos % weightSum candidates < weightSum (candidates.take i) + weightOf candidates[i] := by
  have hTick := tick_toNat hNonempty h hFits hNanos
  have hBelow := Nat.mod_lt nanos (weightSum_pos hNonempty h)
  have hZero : (0 : UInt32).toNat = 0 := rfl
  obtain ⟨k, hk, hIndex, hFrom, hTo⟩ := selectedIndex_spec h
    (UInt32.ofNat nanos % max (totalWeight candidates) 1) 0 0
    (by rw [hZero, Nat.zero_add]; exact hFits) (Nat.zero_le _) (by rw [hZero, hTick]; omega)
  rw [hZero, hTick, Nat.zero_add] at hFrom hTo
  rw [pickedIndex, hIndex, Nat.zero_add, ← weightSum_take_succ hi]
  constructor
  · rintro rfl
    exact ⟨hFrom, hTo⟩
  · rintro ⟨hAbove, hUnder⟩
    rcases Nat.lt_trichotomy k i with hLess | hSame | hMore
    · have hMono : weightSum (candidates.take (k + 1)) ≤ weightSum (candidates.take i) :=
        weightSum_take_mono candidates hLess
      omega
    · exact hSame
    · have hMono : weightSum (candidates.take (i + 1)) ≤ weightSum (candidates.take k) :=
        weightSum_take_mono candidates hMore
      omega

theorem pickedIndex_lt (hNonempty : candidates ≠ []) (h : Accepted candidates)
    (hFits : weightSum candidates < 2 ^ 32) {nanos : Nat} (hNanos : nanos < nanosPerSecond) :
    pickedIndex candidates nanos < candidates.length := by
  have hTick := tick_toNat hNonempty h hFits hNanos
  have hBelow := Nat.mod_lt nanos (weightSum_pos hNonempty h)
  have hZero : (0 : UInt32).toNat = 0 := rfl
  obtain ⟨k, hk, hIndex, -, -⟩ := selectedIndex_spec h
    (UInt32.ofNat nanos % max (totalWeight candidates) 1) 0 0
    (by rw [hZero, Nat.zero_add]; exact hFits) (Nat.zero_le _) (by rw [hZero, hTick]; omega)
  rw [pickedIndex, hIndex, Nat.zero_add]
  exact hk

/-- A candidate's ticks in a second: its weight in each whole cycle, and its part of the
last one. -/
theorem ticksOf_eq (hNonempty : candidates ≠ []) (h : Accepted candidates)
    (hFits : weightSum candidates < 2 ^ 32) {i : Nat} (hi : i < candidates.length) :
    ticksOf candidates i = nanosPerSecond / weightSum candidates * weightOf candidates[i] +
      min (nanosPerSecond % weightSum candidates - weightSum (candidates.take i))
        (weightOf candidates[i]) := by
  have hInside : weightSum (candidates.take i) + weightOf candidates[i] ≤ weightSum candidates := by
    rw [← weightSum_take_succ hi]
    exact weightSum_take_le candidates (i + 1)
  have hCycle : min (weightSum candidates - weightSum (candidates.take i)) (weightOf candidates[i]) =
      weightOf candidates[i] := by omega
  have hTicks : ticksOf candidates i = Nat.count (fun nanos =>
      weightSum (candidates.take i) ≤ nanos % weightSum candidates ∧ nanos % weightSum candidates <
        weightSum (candidates.take i) + weightOf candidates[i]) nanosPerSecond := by
    rw [ticksOf]
    apply Nat.le_antisymm
    · apply Nat.count_mono_left
      intro nanos hNanos hPicked
      exact (pickedIndex_eq_iff hNonempty h hFits hNanos hi).mp hPicked
    · apply Nat.count_mono_left
      intro nanos hNanos hPart
      exact (pickedIndex_eq_iff hNonempty h hFits hNanos hi).mpr hPart
  have hSum := Cycle.count_mod (fun tick => weightSum (candidates.take i) ≤ tick ∧
    tick < weightSum (candidates.take i) + weightOf candidates[i]) (weightSum_pos hNonempty h)
      nanosPerSecond
  rw [Cycle.count_interval, Cycle.count_interval, hCycle] at hSum
  exact hTicks.trans hSum

/-- What weighted selection is for. -/
structure Proportional (candidates : List FallbackCandidate) : Prop where
  noOverflow : ∀ k, (totalWeight (candidates.take k)).toNat = weightSum (candidates.take k)
  returned : ∀ nanos < nanosPerSecond, pickedIndex candidates nanos < candidates.length
  share : ∀ (i : Nat) (hi : i < candidates.length),
    weightOf candidates[i] * (nanosPerSecond / weightSum candidates) ≤ ticksOf candidates i ∧
      ticksOf candidates i ≤
        weightOf candidates[i] * (nanosPerSecond / weightSum candidates + 1)
  reached : ∀ i < candidates.length, 1 ≤ ticksOf candidates i

theorem Accepted.take (h : Accepted candidates) (k : Nat) : Accepted (candidates.take k) :=
  fun c hc => h c (List.mem_of_mem_take hc)

theorem proportional_iff (hNonempty : candidates ≠ []) (h : Accepted candidates) :
    Proportional candidates ↔
      weightSum candidates < 2 ^ 32 ∧ weightSum candidates.dropLast < nanosPerSecond := by
  have hLength := List.length_pos_iff.mpr hNonempty
  rw [List.dropLast_eq_take]
  constructor
  · rintro ⟨hExact, -, -, hReached⟩
    have hFits : weightSum candidates < 2 ^ 32 := by
      have hWhole := hExact candidates.length
      rw [List.take_length] at hWhole
      rw [← hWhole]
      exact (totalWeight candidates).toNat_lt
    refine ⟨hFits, ?_⟩
    have hLast : candidates.length - 1 < candidates.length := Nat.sub_lt hLength Nat.one_pos
    have hTick := hReached (candidates.length - 1) hLast
    obtain ⟨nanos, hNanos, hPicked⟩ :=
      Nat.count_ne_iff_exists.mp (Nat.ne_of_gt (Nat.lt_of_lt_of_le Nat.zero_lt_one hTick))
    have hPart := (pickedIndex_eq_iff hNonempty h hFits hNanos hLast).mp hPicked
    calc weightSum (candidates.take (candidates.length - 1))
        ≤ nanos % weightSum candidates := hPart.1
      _ ≤ nanos := Nat.mod_le _ _
      _ < nanosPerSecond := hNanos
  · rintro ⟨hFits, hReach⟩
    refine ⟨?_, fun nanos hNanos => pickedIndex_lt hNonempty h hFits hNanos, ?_, ?_⟩
    · intro k
      have hPrefix := Nat.lt_of_le_of_lt (weightSum_take_le candidates k) hFits
      rw [totalWeight_toNat (h.take k), Nat.mod_eq_of_lt hPrefix]
    · intro i hi
      rw [ticksOf_eq hNonempty h hFits hi, Nat.mul_succ, Nat.mul_comm]
      exact ⟨Nat.le_add_right _ _, Nat.add_le_add_left (Nat.min_le_right _ _) _⟩
    · intro i hi
      have hPrefix : weightSum (candidates.take i) ≤
          weightSum (candidates.take (candidates.length - 1)) :=
        weightSum_take_mono candidates (Nat.le_sub_one_of_lt hi)
      have hWeight := (h _ (List.getElem_mem hi)).1
      have hInside : weightSum (candidates.take i) + weightOf candidates[i] ≤
          weightSum candidates := by
        rw [← weightSum_take_succ hi]
        exact weightSum_take_le candidates (i + 1)
      have hNanos := Nat.lt_of_le_of_lt hPrefix hReach
      have hSame : weightSum (candidates.take i) % weightSum candidates =
          weightSum (candidates.take i) := Nat.mod_eq_of_lt (by omega)
      have hPicked : pickedIndex candidates (weightSum (candidates.take i)) = i := by
        rw [pickedIndex_eq_iff hNonempty h hFits hNanos hi, hSame]
        omega
      exact Nat.pos_of_ne_zero (Nat.count_ne_iff_exists.mpr ⟨_, hNanos, hPicked⟩)

end

theorem selectFallbackCandidate_picked (env : Env) (config : GatewayConfig) (route : ResolvedRoute)
    (model : String) (protocol : Protocol) (n : Moment) :
    let available := availableFallbackCandidates env config route model protocol n
    (selectFallbackCandidate env config route model protocol n).1 =
      available.1[pickedIndex available.1 (env.subsecNanos available.2).toNat]? := by
  intro available
  rw [selectFallbackCandidate, pickedIndex, UInt32.ofNat_toNat]
  dsimp only
  split
  · next hEmpty =>
    have hNil : available.1 = [] := List.isEmpty_iff.mp hEmpty
    rw [hNil]
    rfl
  · rfl

/-- The selection is proportional exactly where the sum of the weights fits its width and
every candidate's part of it begins within a second. -/
theorem selection_proportional_iff (candidates : List FallbackCandidate)
    (hNonempty : candidates ≠ []) (hAccepted : Accepted candidates) :
    (∀ env config route model protocol n,
      (availableFallbackCandidates env config route model protocol n).1 = candidates →
      ∃ moment, (selectFallbackCandidate env config route model protocol n).1 =
        candidates[pickedIndex candidates (env.subsecNanos moment).toNat]?) ∧
    (Proportional candidates ↔
      weightSum candidates < 2 ^ 32 ∧ weightSum candidates.dropLast < nanosPerSecond) := by
  refine ⟨?_, proportional_iff hNonempty hAccepted⟩
  rintro env config route model protocol n rfl
  exact ⟨_, selectFallbackCandidate_picked env config route model protocol n⟩

def weighing (weight : UInt32) : FallbackCandidate where
  account := { id := "a", providerId := "p", displayName := "a", weight }
  provider := { id := "p", name := "p", baseUrl := "https://up.example" }
  providerId := "p"
  sourceId := "p"
  upstreamModel := "m"
  protocolUpstream := .openAiChatCompletions
  mode := "native"
  upstreamEndpoint := none
  degradedFeatures := []

theorem accepted_weighing {weights : List UInt32}
    (h : ∀ w ∈ weights, 1 ≤ w.toNat ∧ w.toNat ≤ 2 ^ 31 - 1) : Accepted (weights.map weighing) := by
  intro c hc
  obtain ⟨w, hw, rfl⟩ := List.mem_map.mp hc
  exact h w hw

theorem default_weights_proportional_iff :
    Proportional ([100, 100].map weighing) ↔
      weightSum ([100, 100].map weighing) < 2 ^ 32 ∧
        weightSum ([100, 100].map weighing).dropLast < nanosPerSecond :=
  (selection_proportional_iff ([100, 100].map weighing) (List.cons_ne_nil _ _)
    (accepted_weighing (by simp))).2

/-- The largest weight: a second candidate behind it is never chosen, and three of them
overflow the sum. -/
theorem heavy_candidates_are_not_proportional :
    Accepted ([2147483647, 2147483647].map weighing) ∧
      weightSum ([2147483647, 2147483647].map weighing) < 2 ^ 32 ∧
      ticksOf ([2147483647, 2147483647].map weighing) 1 = 0 ∧
      ¬Proportional ([2147483647, 2147483647].map weighing) ∧
      Accepted ([2147483647, 2147483647, 2147483647].map weighing) ∧
      totalWeight ([2147483647, 2147483647, 2147483647].map weighing) = 2147483645 := by
  have hTwo : Accepted ([2147483647, 2147483647].map weighing) := accepted_weighing (by simp)
  have hFits : weightSum ([2147483647, 2147483647].map weighing) < 2 ^ 32 := by decide
  have hNever : ticksOf ([2147483647, 2147483647].map weighing) 1 = 0 := by
    have hNonempty : [2147483647, 2147483647].map weighing ≠ [] := List.cons_ne_nil _ _
    have hSecond : 1 < ([2147483647, 2147483647].map weighing).length := Nat.lt_succ_self 1
    exact ticksOf_eq hNonempty hTwo hFits hSecond
  refine ⟨hTwo, hFits, hNever, ?_, accepted_weighing (by simp), by decide⟩
  intro hProportional
  have hReached := hProportional.reached 1 (by decide)
  omega

end AiGateway.Proxy
