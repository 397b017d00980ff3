import AiGateway.Base.Grouped
import AiGateway.Infra.ReplayedRuns
import AiGateway.Infra.UsagePages
import Mathlib.Algebra.Order.Group.Int

/-!
# Usage reports

The recorded requests are summed up as a whole, by time and by dimension.  The
columns of whole numbers are here; rates, averages and percentiles are not.
-/

namespace AiGateway.Reports

set_option autoImplicit false

open AiGateway.Grouped AiGateway.Health AiGateway.Keyset AiGateway.Listing
  AiGateway.Migrations

@[ext]
structure UsageTotals where
  logicalRequests : Int
  upstreamAttempts : Int
  retries : Int
  successes : Int
  failures : Int
  inputTokens : Int
  outputTokens : Int
  reasoningTokens : Int
  cachedTokens : Int
  cacheReadTokens : Int
  cacheCreationTokens : Int
  totalTokens : Int
  deriving DecidableEq

namespace UsageTotals

def columns (t : UsageTotals) : List Int :=
  [t.logicalRequests, t.upstreamAttempts, t.retries, t.successes, t.failures, t.inputTokens,
    t.outputTokens, t.reasoningTokens, t.cachedTokens, t.cacheReadTokens, t.cacheCreationTokens,
    t.totalTokens]

/-- Each column is cast to `BIGINT`. -/
def fits (t : UsageTotals) : Bool := t.columns.all fun n => -2 ^ 63 ≤ n && n < 2 ^ 63

instance : Zero UsageTotals where
  zero := ⟨0, 0, 0, 0, 0, 0, 0, 0, 0, 0, 0, 0⟩

instance : Add UsageTotals where
  add s t :=
    ⟨s.logicalRequests + t.logicalRequests, s.upstreamAttempts + t.upstreamAttempts,
      s.retries + t.retries, s.successes + t.successes, s.failures + t.failures,
      s.inputTokens + t.inputTokens, s.outputTokens + t.outputTokens,
      s.reasoningTokens + t.reasoningTokens, s.cachedTokens + t.cachedTokens,
      s.cacheReadTokens + t.cacheReadTokens, s.cacheCreationTokens + t.cacheCreationTokens,
      s.totalTokens + t.totalTokens⟩

theorem add_eq (s t : UsageTotals) : s + t =
    ⟨s.logicalRequests + t.logicalRequests, s.upstreamAttempts + t.upstreamAttempts,
      s.retries + t.retries, s.successes + t.successes, s.failures + t.failures,
      s.inputTokens + t.inputTokens, s.outputTokens + t.outputTokens,
      s.reasoningTokens + t.reasoningTokens, s.cachedTokens + t.cachedTokens,
      s.cacheReadTokens + t.cacheReadTokens, s.cacheCreationTokens + t.cacheCreationTokens,
      s.totalTokens + t.totalTokens⟩ := rfl

theorem zero_eq : (0 : UsageTotals) = ⟨0, 0, 0, 0, 0, 0, 0, 0, 0, 0, 0, 0⟩ := rfl

instance : AddCommMonoid UsageTotals where
  add_assoc s t u := by simp only [add_eq, Int.add_assoc]
  zero_add t := by simp only [add_eq, zero_eq, Int.zero_add]
  add_zero t := by simp only [add_eq, zero_eq, Int.add_zero]
  add_comm s t := by
    rw [add_eq, add_eq]
    ext <;> exact Int.add_comm _ _
  nsmul := nsmulRec

end UsageTotals

/-! ## The statements -/

/-- Each event with each of its attempts. -/
def joined (events : List UsageEventRow) (attempts : List UsageAttemptRow) :
    List (UsageEventRow × UsageAttemptRow) :=
  events.flatMap fun event =>
    (attempts.filter fun attempt => event.event.requestId = attempt.requestId).map fun attempt =>
      (event, attempt)

/-- The columns over a set of events.  Their attempts are counted apart. -/
def totals (events : List UsageEventRow) (upstreamAttempts : Nat) : UsageTotals where
  logicalRequests := events.length
  upstreamAttempts := upstreamAttempts
  retries := (events.map fun row => (row.event.retryCount : Int)).sum
  successes := events.countP fun row => row.event.success
  failures := events.countP fun row => !row.event.success
  inputTokens := (events.map fun row => row.event.inputTokens).sum
  outputTokens := (events.map fun row => row.event.outputTokens).sum
  reasoningTokens := (events.map fun row => row.event.reasoningTokens).sum
  cachedTokens := (events.map fun row => row.event.cachedTokens).sum
  cacheReadTokens := (events.map fun row => row.event.cacheReadTokens).sum
  cacheCreationTokens := (events.map fun row => row.event.cacheCreationTokens).sum
  totalTokens := (events.map fun row => row.event.totalTokens).sum

def filtered (d : Database) (filter : UsageFilter) : List UsageEventRow :=
  d.usageEvents.filter filter.selects

def usageAggregate (d : Database) (filter : UsageFilter) : Option UsageTotals :=
  let events := filtered d filter
  let found := totals events (joined events d.usageEventAttempts).length
  if found.fits then some found else none

section Report

variable {κ : Type} [DecidableEq κ]

/-- The events and their attempts are grouped apart, and the groups joined by the key. -/
def report (key : UsageEventRow → κ) (d : Database) (filter : UsageFilter) :
    List (κ × UsageTotals) :=
  let events := filtered d filter
  let logical := groups key events
  let attempts := groups (fun pair => key pair.1) (joined events d.usageEventAttempts)
  (leftJoin (fun made counted => counted.1 = made.1) logical attempts).map fun row =>
    (row.1.1, totals row.1.2 ((row.2.map fun counted => counted.2.length).getD 0))

/-- A column that does not fit fails the statement. -/
def castAll (rows : List (κ × UsageTotals)) : Option (List (κ × UsageTotals)) :=
  if rows.all fun row => row.2.fits then some rows else none

end Report

def width (granularity : String) : Duration :=
  match granularity with
  | "day" => fromMillis (24 * 60 * 60 * 1000)
  | _ => fromMillis (60 * 60 * 1000)

/-- `date_trunc` in UTC. -/
def bucket (granularity : String) (time : DateTime) : DateTime :=
  time / width granularity * width granularity

def usageTimeseries (d : Database) (filter : UsageFilter) (granularity : String) :
    Option (List (DateTime × UsageTotals)) :=
  castAll (orderBy Prod.fst (fun a b => decide (a < b))
    (report (fun row => bucket granularity row.createdAt) d filter))

def dimensionKey (dimension : String) (row : UsageEventRow) : Option String :=
  match dimension with
  | "logical_model" => some row.event.logicalModel
  | "upstream_model" => row.event.upstreamModelId
  | "provider" => some row.providerId
  | "source_id" => row.sourceId
  | "client_source" => some row.event.clientSource
  | "account" => some row.event.accountId
  | "protocol_in" => some row.event.protocolIn
  | "protocol_upstream" => some row.event.protocolUpstream
  | "virtual_key" => row.event.virtualKeyId.map toString
  | "status" => some (if row.event.success then "success" else "failure")
  | "usage_source" => some row.event.usageSource
  | _ => some row.event.logicalModel

/-- `NULLS LAST` -/
def nullsLast (less : String → String → Bool) : Option String → Option String → Bool
  | some a, some b => less a b
  | some _, none => true
  | none, _ => false

def breakdownOrder (postgres : Postgres) (a b : Int × Option String) : Bool :=
  decide (b.1 < a.1) || (decide (b.1 = a.1) && nullsLast postgres.less a.2 b.2)

def usageBreakdown (postgres : Postgres) (d : Database) (filter : UsageFilter)
    (dimension : String) : Option (List (Option String × UsageTotals)) :=
  castAll (orderBy (fun row => (row.2.logicalRequests, row.1)) (breakdownOrder postgres)
    (report (dimensionKey dimension) d filter))

/-! ## Sums over events -/

/-- What one event adds to each column. -/
def rowTotals (attempts : List UsageAttemptRow) (row : UsageEventRow) : UsageTotals :=
  totals [row] (joined [row] attempts).length

section Sums

variable {κ : Type} [DecidableEq κ]

theorem joined_cons (row : UsageEventRow) (rest : List UsageEventRow)
    (attempts : List UsageAttemptRow) :
    joined (row :: rest) attempts = joined [row] attempts ++ joined rest attempts := by
  simp only [joined, List.flatMap_cons, List.flatMap_nil, List.append_nil]

theorem totals_cons (row : UsageEventRow) (rest : List UsageEventRow) (n m : Nat) :
    totals (row :: rest) (n + m) = totals [row] n + totals rest m := by
  simp only [totals, UsageTotals.add_eq, List.length_cons, List.length_nil, List.map_cons,
    List.map_nil, List.sum_cons, List.sum_nil, List.countP_cons, List.countP_nil, Nat.cast_add,
    UsageTotals.mk.injEq, Nat.zero_add, Int.add_zero, and_self, and_true, true_and]
  omega

theorem totals_eq_sum (events : List UsageEventRow) (attempts : List UsageAttemptRow) :
    totals events (joined events attempts).length = (events.map (rowTotals attempts)).sum := by
  induction events with
  | nil => rfl
  | cons row rest ih =>
    rw [joined_cons, List.length_append, totals_cons, ih, List.map_cons, List.sum_cons, rowTotals]

theorem group_joined (key : UsageEventRow → κ) (events : List UsageEventRow)
    (attempts : List UsageAttemptRow) (k : κ) :
    group (fun pair => key pair.1) (joined events attempts) k =
      joined (group key events k) attempts := by
  induction events with
  | nil => rfl
  | cons row rest ih =>
    have hRow : group (fun pair => key pair.1) (joined [row] attempts) k =
        if key row = k then joined [row] attempts else [] := by
      rw [joined, List.flatMap_cons, List.flatMap_nil, List.append_nil, group, List.filter_map]
      by_cases hKey : key row = k
      · simp [hKey]
      · simp [hKey]
    have hRest := ih
    rw [group] at hRow hRest
    rw [joined_cons, group, List.filter_append, hRow, hRest, group, group, List.filter_cons]
    by_cases hKey : key row = k
    · simp only [hKey, decide_true, if_true]
      exact (joined_cons row _ attempts).symm
    · simp [hKey]

theorem report_eq (key : UsageEventRow → κ) (d : Database) (filter : UsageFilter) :
    report key d filter = (keys key (filtered d filter)).map fun k =>
      (k, totals (group key (filtered d filter) k)
        (joined (group key (filtered d filter) k) d.usageEventAttempts).length) := by
  generalize hEvents : filtered d filter = events
  have hFind : ∀ k, (((groups (fun pair => key pair.1) (joined events d.usageEventAttempts)).find?
      fun counted => counted.1 = k).map fun counted => counted.2.length).getD 0 =
        (joined (group key events k) d.usageEventAttempts).length := by
    intro k
    rw [find?_groups, ← group_joined]
    split
    · rfl
    · next hNone =>
      rw [group_eq_nil hNone]
      rfl
  have hOne : ∀ made ∈ groups key events,
      ((groups (fun pair => key pair.1) (joined events d.usageEventAttempts)).filter
        fun counted => counted.1 = made.1).length ≤ 1 := by
    intro made hMade
    exact length_filter_groups_le_one _ _ _
  rw [report, hEvents, leftJoin_eq_map hOne, List.map_map]
  generalize groups (fun pair => key pair.1) (joined events d.usageEventAttempts) = counts at hFind
  rw [groups, List.map_map]
  apply List.map_congr_left
  intro k hk
  simp only [Function.comp_apply, hFind]

/-- The rows of a report add up to the events they are made of. -/
theorem sum_report (key : UsageEventRow → κ) (d : Database) (filter : UsageFilter) :
    ((report key d filter).map Prod.snd).sum =
      totals (filtered d filter) (joined (filtered d filter) d.usageEventAttempts).length := by
  have hAll : ∀ row ∈ filtered d filter, key row ∈ keys key (filtered d filter) := by
    intro row hRow
    exact mem_keys.mpr ⟨row, hRow, rfl⟩
  rw [report_eq, List.map_map, totals_eq_sum, ← sum_groups (keys_nodup key _) hAll]
  congr 1
  apply List.map_congr_left
  intro k hk
  exact totals_eq_sum _ _

theorem report_nodup (key : UsageEventRow → κ) (d : Database) (filter : UsageFilter) :
    ((report key d filter).map Prod.fst).Nodup := by
  rw [report_eq, List.map_map]
  simpa only [Function.comp_def, List.map_id'] using keys_nodup key (filtered d filter)

theorem report_requests {key : UsageEventRow → κ} {d : Database} {filter : UsageFilter}
    {row : κ × UsageTotals} (h : row ∈ report key d filter) : 0 < row.2.logicalRequests := by
  rw [report_eq] at h
  obtain ⟨k, hk, rfl⟩ := List.mem_map.mp h
  have hSome : 0 < (group key (filtered d filter) k).length :=
    List.length_pos_iff.mpr (group_ne_nil hk)
  simp only [totals]
  omega

end Sums

theorem castAll_eq_some {κ : Type} {rows rows' : List (κ × UsageTotals)} (h : castAll rows = some rows') :
    rows' = rows ∧ ∀ row ∈ rows, row.2.fits = true := by
  rw [castAll] at h
  split at h
  · next hFits => exact ⟨(Option.some.inj h).symm, List.all_eq_true.mp hFits⟩
  · cases h

/-! ## The order of the rows -/

theorem less_strict : Strict fun a b : DateTime => decide (a < b) where
  irrefl a := decide_eq_false (lt_irrefl a)
  trans a b c hab hbc := by
    rw [decide_eq_true_iff] at hab hbc ⊢
    exact hab.trans hbc
  total a b hOther := by
    rw [decide_eq_true_iff, decide_eq_true_iff]
    exact lt_or_gt_of_ne hOther

theorem nullsLast_strict {less : String → String → Bool} (h : Strict less) :
    Strict (nullsLast less) where
  irrefl a := by
    cases a with
    | none => rfl
    | some a => exact h.irrefl a
  trans a b c hab hbc := by
    cases a with
    | none => cases hab
    | some a =>
      cases b with
      | none => cases hbc
      | some b =>
        cases c with
        | none => rfl
        | some c => exact h.trans a b c hab hbc
  total a b hOther := by
    cases a with
    | none =>
      cases b with
      | none => exact absurd rfl hOther
      | some b => exact .inr rfl
    | some a =>
      cases b with
      | none => exact .inl rfl
      | some b => exact h.total a b fun hSame => hOther (congrArg some hSame)

theorem breakdownOrder_strict (postgres : Postgres) : Strict (breakdownOrder postgres) := by
  have hKeys := nullsLast_strict postgres.less_strict
  have hBack : Strict fun a b => nullsLast postgres.less b a :=
    ⟨hKeys.irrefl, fun a b c hab hbc => hKeys.trans c b a hbc hab,
      fun a b hOther => hKeys.total b a (Ne.symm hOther)⟩
  refine cast (congrArg Strict ?_) (newer_strict hBack)
  funext a b
  rw [newer, breakdownOrder]

section Reports

variable {postgres : Postgres} {d : Database} {filter : UsageFilter}
  {granularity dimension : String} {aggregate : UsageTotals}
  {series : List (DateTime × UsageTotals)} {rows : List (Option String × UsageTotals)}

theorem usageAggregate_eq_some (h : usageAggregate d filter = some aggregate) :
    aggregate = totals (filtered d filter)
      (joined (filtered d filter) d.usageEventAttempts).length := by
  rw [usageAggregate] at h
  split at h
  · exact (Option.some.inj h).symm
  · cases h

theorem length_eq_countP (events : List UsageEventRow) :
    events.countP (fun row => row.event.success) + events.countP (fun row => !row.event.success) =
      events.length := by
  rw [List.length_eq_countP_add_countP fun row => row.event.success]
  congr 2
  funext row
  cases row.event.success <;> rfl

/-- The buckets and the groups both add up to the whole, whatever is filtered.  No row is
empty, no key comes twice, and the rows come in the order of the statements. -/
theorem usage_reports_add_up (hAggregate : usageAggregate d filter = some aggregate)
    (hSeries : usageTimeseries d filter granularity = some series)
    (hRows : usageBreakdown postgres d filter dimension = some rows) :
    (series.map Prod.snd).sum = aggregate ∧ (rows.map Prod.snd).sum = aggregate ∧
      aggregate.successes + aggregate.failures = aggregate.logicalRequests ∧
      (series.Pairwise fun a b => a.1 < b.1) ∧
      (rows.Pairwise fun a b => breakdownOrder postgres (a.2.logicalRequests, a.1)
        (b.2.logicalRequests, b.1) = true) ∧
      (series.map Prod.fst).Nodup ∧ (rows.map Prod.fst).Nodup ∧
      (∀ row ∈ series, 0 < row.2.logicalRequests) ∧
      ∀ row ∈ rows, 0 < row.2.logicalRequests := by
  obtain ⟨rfl, -⟩ := castAll_eq_some hSeries
  obtain ⟨rfl, -⟩ := castAll_eq_some hRows
  obtain rfl := usageAggregate_eq_some hAggregate
  refine ⟨?_, ?_, ?_, ?_, ?_, ?_, ?_, ?_, ?_⟩
  · rw [((orderBy_perm _).map Prod.snd).sum_eq, sum_report]
  · rw [((orderBy_perm _).map Prod.snd).sum_eq, sum_report]
  · have hEvents := length_eq_countP (filtered d filter)
    simp only [totals]
    omega
  · have hOrder := orderBy_pairwise less_strict
      (report_nodup (fun row => bucket granularity row.createdAt) d filter)
    exact hOrder.imp of_decide_eq_true
  · refine orderBy_pairwise (breakdownOrder_strict postgres) ?_
    have hKeys := report_nodup (dimensionKey dimension) d filter
    refine List.Nodup.of_map Prod.snd ?_
    rw [List.map_map]
    exact hKeys
  · rw [((orderBy_perm _).map Prod.fst).nodup_iff]
    exact report_nodup (fun row => bucket granularity row.createdAt) d filter
  · rw [((orderBy_perm _).map Prod.fst).nodup_iff]
    exact report_nodup (dimensionKey dimension) d filter
  · intro row hRow
    exact report_requests ((orderBy_perm _).mem_iff.mp hRow)
  · intro row hRow
    exact report_requests ((orderBy_perm _).mem_iff.mp hRow)

end Reports

namespace Summed

/-- Two requests of one model, in two hours of one day.  The second one took two attempts. -/
def database : Database :=
  { Orphaned.before with
    usageEvents :=
      [usageRow 0 { Orphaned.event with inputTokens := 3, totalTokens := 3 },
        usageRow 3600000000
          { Orphaned.event with
            requestId := "second", success := false, retryCount := 1, inputTokens := 4,
            totalTokens := 4 }]
    usageEventAttempts :=
      [1, 2].map fun number => attemptRow 0 "second"
        { attemptNo := number, providerId := "custom", sourceId := "s", accountId := "a",
          upstreamModelId := none, statusCode := 502, success := false, latencyMs := 0 } }

def first : UsageTotals := ⟨1, 0, 0, 1, 0, 3, 0, 0, 0, 0, 0, 3⟩

def second : UsageTotals := ⟨1, 2, 1, 0, 1, 4, 0, 0, 0, 0, 0, 4⟩

def both : UsageTotals := ⟨2, 2, 1, 1, 1, 7, 0, 0, 0, 0, 0, 7⟩

end Summed

theorem usage_reports_add_up_hours :
    ([Summed.first, Summed.second] : List UsageTotals).sum = Summed.both := by
  have hAggregate : usageAggregate Summed.database {} = some Summed.both := by decide
  have hSeries : usageTimeseries Summed.database {} "hour" =
      some [(0, Summed.first), (3600000000, Summed.second)] := by decide
  have hRows : usageBreakdown Tied.postgres Summed.database {} "logical_model" =
      some [(some "m", Summed.both)] := by decide
  exact (usage_reports_add_up hAggregate hSeries hRows).1

/-! ## One row as a summary of its own -/

/-- The filter cut down to a range of time. -/
def during (filter : UsageFilter) (start stop : DateTime) : UsageFilter :=
  { filter with
    from? := some (filter.from?.elim start (max start))
    to? := some (filter.to?.elim stop (min stop)) }

theorem during_selects (filter : UsageFilter) (start stop : DateTime) (row : UsageEventRow) :
    (during filter start stop).selects row =
      (filter.selects row && decide (start ≤ row.createdAt ∧ row.createdAt < stop)) := by
  have hFrom : decide (filter.from?.elim start (max start) ≤ row.createdAt) =
      (given filter.from? (· ≤ row.createdAt) && decide (start ≤ row.createdAt)) := by
    cases filter.from? with
    | none => rfl
    | some time =>
      rw [Option.elim_some, given, Option.all_some, ← Bool.decide_and, decide_eq_decide]
      exact max_le_iff.trans and_comm
  have hTo : decide (row.createdAt < filter.to?.elim stop (min stop)) =
      (given filter.to? (row.createdAt < ·) && decide (row.createdAt < stop)) := by
    cases filter.to? with
    | none => rfl
    | some time =>
      rw [Option.elim_some, given, Option.all_some, ← Bool.decide_and, decide_eq_decide]
      exact lt_min_iff.trans and_comm
  rw [UsageFilter.selects, UsageFilter.selects, during]
  dsimp only [given, Option.all_some] at hFrom hTo ⊢
  rw [hFrom, hTo, Bool.decide_and]
  ac_rfl

theorem width_pos (granularity : String) : 0 < width granularity := by
  fun_cases width granularity with
  | case1 => decide
  | case2 => decide

theorem bucket_eq_iff (granularity : String) (first time : DateTime) :
    bucket granularity time = bucket granularity first ↔
      bucket granularity first ≤ time ∧
        time < bucket granularity first + width granularity := by
  have hWidth : (0 : Int) < width granularity := Int.natCast_pos.mpr (width_pos granularity)
  have hNext : bucket granularity first + width granularity =
      (first / width granularity + 1) * width granularity := by
    rw [bucket, Int.add_mul, Int.one_mul]
  rw [hNext, bucket, bucket, ← Int.le_ediv_iff_mul_le hWidth, ← Int.ediv_lt_iff_lt_mul hWidth]
  constructor
  · intro hSame
    rw [Int.eq_of_mul_eq_mul_right (Int.ne_of_gt hWidth) hSame]
    exact ⟨le_rfl, Int.lt_succ _⟩
  · rintro ⟨hLow, hHigh⟩
    have hQuotient : time / (width granularity : Int) = first / width granularity :=
      le_antisymm (Int.lt_add_one_iff.mp hHigh) hLow
    rw [hQuotient]

section Rows

variable {κ : Type} [DecidableEq κ] {key : UsageEventRow → κ} {d : Database}
  {filter narrowed : UsageFilter} {row : κ × UsageTotals}

theorem usageAggregate_of_report (hRow : row ∈ report key d filter) (hFits : row.2.fits = true)
    (hNarrowed : ∀ event ∈ d.usageEvents,
      narrowed.selects event = (filter.selects event && decide (key event = row.1))) :
    usageAggregate d narrowed = some row.2 := by
  rw [report_eq] at hRow
  obtain ⟨k, -, rfl⟩ := List.mem_map.mp hRow
  have hEvents : filtered d narrowed = group key (filtered d filter) k := by
    rw [filtered, group, filtered, List.filter_filter]
    apply List.filter_congr
    intro event hEvent
    rw [hNarrowed event hEvent, Bool.and_comm]
  rw [usageAggregate, hEvents]
  exact if_pos hFits

theorem exists_of_report (hRow : row ∈ report key d filter) :
    ∃ event ∈ filtered d filter, key event = row.1 := by
  rw [report_eq] at hRow
  obtain ⟨k, hk, rfl⟩ := List.mem_map.mp hRow
  exact mem_keys.mp hk

end Rows

/-- The numbers of a bucket are the summary of the hour or the day that it names, under the
same filter. -/
theorem usage_bucket_is_summary {d : Database} {filter : UsageFilter} {granularity : String}
    {series : List (DateTime × UsageTotals)}
    (hSeries : usageTimeseries d filter granularity = some series) :
    ∀ row ∈ series,
      usageAggregate d (during filter row.1 (row.1 + width granularity)) = some row.2 := by
  obtain ⟨rfl, hFits⟩ := castAll_eq_some hSeries
  intro row hRow
  have hReport := (orderBy_perm _).mem_iff.mp hRow
  refine usageAggregate_of_report hReport (hFits row hRow) ?_
  obtain ⟨first, -, hFirst⟩ := exists_of_report hReport
  intro event hEvent
  rw [during_selects, ← hFirst]
  congr 1
  exact decide_eq_decide.mpr (bucket_eq_iff granularity first.createdAt event.createdAt).symm

theorem usage_bucket_is_summary_hour :
    usageAggregate Summed.database (during {} 3600000000 7200000000) = some Summed.second := by
  have hSeries : usageTimeseries Summed.database {} "hour" =
      some [(0, Summed.first), (3600000000, Summed.second)] := by decide
  exact usage_bucket_is_summary hSeries (3600000000, Summed.second) (by decide)

end AiGateway.Reports
