import AiGateway.Infra.Retention

/-!
# What a cleanup counts

A batch drains the expired attempts and the deletable events at one pace, and
the attempts of a deleted event that are not drained yet leave the table
without being counted.  The counters of a completed run are the candidates it
started with exactly when no event is drained before one of its attempts.
-/

namespace AiGateway.Retention

set_option autoImplicit false

open AiGateway.Concurrent Relation

def candidateAttempts (policies : Policies) (t : Tables) : List UsageAttempt :=
  match enabledPolicy policies .usageAttempts with
  | some policy => t.usageAttempts.rows.filter (expiredAttempt policy.cutoff)
  | none => []

def candidateEvents (policies : Policies) (t : Tables) : List UsageEvent :=
  match enabledPolicy policies .usageEvents with
  | some policy =>
    t.usageEvents.rows.filter
      (expiredEvent t.usageAttempts.rows (attemptGuard policies) policy.cutoff)
  | none => []

def SameRequest (a : UsageAttempt) (e : UsageEvent) : Prop := e.requestId = a.requestId

instance {a : UsageAttempt} {e : UsageEvent} : Decidable (SameRequest a e) :=
  inferInstanceAs (Decidable (e.requestId = a.requestId))

theorem countCandidates_usageAttempts (policies : Policies) (t : Tables) :
    (countCandidates policies t).usageAttempts = (candidateAttempts policies t).length := by
  unfold countCandidates countEnabled candidateAttempts
  cases enabledPolicy policies .usageAttempts <;> rfl

theorem countCandidates_usageEvents (policies : Policies) (t : Tables) :
    (countCandidates policies t).usageEvents = (candidateEvents policies t).length := by
  unfold countCandidates countEnabled candidateEvents
  cases enabledPolicy policies .usageEvents <;> rfl

theorem ofRequest_iff {events : List UsageEvent} {a : UsageAttempt} :
    ofRequest events a = true ↔ ∃ e ∈ events, SameRequest a e := by
  simp [ofRequest, SameRequest]

/-! ## The candidates after a batch -/

/-- Whether an event may go depends on the attempts of its request that block it. -/
theorem expiredEvent_congr {as bs : List UsageAttempt} {guard : AttemptGuard} {cutoff : Int}
    {e : UsageEvent}
    (h : ∀ a, a.requestId = e.requestId → guard.blocks a = true → (a ∈ as ↔ a ∈ bs)) :
    expiredEvent as guard cutoff e = expiredEvent bs guard cutoff e := by
  have hAny : (as.any fun a => a.requestId == e.requestId && guard.blocks a) =
      bs.any fun a => a.requestId == e.requestId && guard.blocks a := by
    rw [Bool.eq_iff_iff, List.any_eq_true, List.any_eq_true]
    constructor
    · rintro ⟨a, ha, hBlocks⟩
      obtain ⟨hRequest, hGuard⟩ := Bool.and_eq_true_iff.mp hBlocks
      exact ⟨a, (h a (beq_iff_eq.mp hRequest) hGuard).mp ha, hBlocks⟩
    · rintro ⟨a, ha, hBlocks⟩
      obtain ⟨hRequest, hGuard⟩ := Bool.and_eq_true_iff.mp hBlocks
      exact ⟨a, (h a (beq_iff_eq.mp hRequest) hGuard).mpr ha, hBlocks⟩
  unfold expiredEvent
  rw [hAny]

/-- An expired attempt blocks no event. -/
theorem blocks_eq_false {policies : Policies} {policy : PolicyState} {a : UsageAttempt}
    (hPolicy : enabledPolicy policies .usageAttempts = some policy)
    (hExpired : expiredAttempt policy.cutoff a = true) :
    (attemptGuard policies).blocks a = false := by
  have hBefore : a.createdAt < policy.cutoff := of_decide_eq_true hExpired
  unfold attemptGuard
  rw [hPolicy]
  exact decide_eq_false (Int.not_le.mpr hBefore)

section AttemptBatch

variable (policies : Policies) (n : ℕ) (t : Tables)

/-- The attempt deletions of a batch. -/
def afterAttempts : Tables × ℕ := ifEnabled policies .usageAttempts (deleteAttemptBatch n) t

theorem candidateAttempts_afterAttempts :
    candidateAttempts policies (afterAttempts policies n t).1 =
      (candidateAttempts policies t).drop n := by
  unfold candidateAttempts afterAttempts ifEnabled
  cases enabledPolicy policies .usageAttempts with
  | none => exact List.drop_nil.symm
  | some policy => exact t.usageAttempts.filter_delete_batch (expiredAttempt policy.cutoff) n

theorem count_afterAttempts :
    (afterAttempts policies n t).2 = ((candidateAttempts policies t).take n).length := by
  unfold candidateAttempts afterAttempts ifEnabled
  cases enabledPolicy policies .usageAttempts with
  | none => rw [List.take_nil]; rfl
  | some policy => rfl

theorem candidateEvents_afterAttempts :
    candidateEvents policies (afterAttempts policies n t).1 = candidateEvents policies t := by
  have hEvents : (afterAttempts policies n t).1.usageEvents = t.usageEvents := by
    unfold afterAttempts ifEnabled
    cases enabledPolicy policies .usageAttempts <;> rfl
  have hBlocking : ∀ a, (attemptGuard policies).blocks a = true →
      (a ∈ (afterAttempts policies n t).1.usageAttempts.rows ↔ a ∈ t.usageAttempts.rows) := by
    intro a hBlocks
    unfold afterAttempts ifEnabled
    cases hPolicy : enabledPolicy policies .usageAttempts with
    | none => rfl
    | some policy =>
      constructor
      · intro ha
        exact (Stored.mem_delete.mp ha).1
      · intro ha
        refine Stored.mem_delete_batch_of_not ha ?_
        cases hExpired : expiredAttempt policy.cutoff a with
        | false => rfl
        | true => rw [blocks_eq_false hPolicy hExpired] at hBlocks; cases hBlocks
  unfold candidateEvents
  rw [hEvents]
  cases enabledPolicy policies .usageEvents with
  | none => rfl
  | some policy =>
    refine List.filter_congr fun e _ => expiredEvent_congr fun a _ hBlocks => ?_
    exact hBlocking a hBlocks

end AttemptBatch

section EventBatch

variable (policies : Policies) (n : ℕ) (t : Tables)

/-- The event deletions of a batch. -/
def afterEvents : Tables × ℕ :=
  ifEnabled policies .usageEvents (deleteEventBatch (attemptGuard policies) n) t

theorem candidateAttempts_afterEvents :
    candidateAttempts policies (afterEvents policies n t).1 =
      (candidateAttempts policies t).filter
        fun a => !ofRequest ((candidateEvents policies t).take n) a := by
  unfold afterEvents ifEnabled candidateEvents
  cases enabledPolicy policies .usageEvents with
  | none =>
    rw [List.take_nil]
    exact (List.filter_eq_self.mpr fun _ _ => rfl).symm
  | some policy =>
    unfold candidateAttempts
    cases enabledPolicy policies .usageAttempts with
    | none => rfl
    | some policy' =>
      simp only [deleteEventBatch, Stored.keep, List.filter_filter, Bool.and_comm]
      rfl

theorem count_afterEvents :
    (afterEvents policies n t).2 = ((candidateEvents policies t).take n).length := by
  unfold candidateEvents afterEvents ifEnabled
  cases enabledPolicy policies .usageEvents with
  | none => rw [List.take_nil]; rfl
  | some policy => rfl

/-- An event that stays shares its request with no deleted event, so it keeps its attempts. -/
theorem expiredEvent_deleteEventBatch {guard : AttemptGuard} {cutoff : Int} {e : UsageEvent}
    (he : e ∈ (deleteEventBatch guard n cutoff t).1.usageEvents.rows) :
    expiredEvent (deleteEventBatch guard n cutoff t).1.usageAttempts.rows guard cutoff e =
      expiredEvent t.usageAttempts.rows guard cutoff e := by
  obtain ⟨hStored, hKept⟩ := Stored.mem_delete.mp he
  refine expiredEvent_congr fun a hRequest _ => ?_
  constructor
  · intro ha
    exact (List.mem_filter.mp ha).1
  · intro ha
    refine List.mem_filter.mpr ⟨ha, ?_⟩
    rw [Bool.not_eq_true', ← Bool.not_eq_true, ofRequest_iff]
    rintro ⟨e', he', hSame⟩
    have hStored' := (List.mem_filter.mp (List.mem_of_mem_take he')).1
    have hEq : e' = e := t.requestUnique e' hStored' e hStored (Eq.trans hSame hRequest)
    exact hKept (List.mem_map.mpr ⟨e', he', congrArg UsageEvent.id hEq⟩)

theorem candidateEvents_afterEvents :
    candidateEvents policies (afterEvents policies n t).1 =
      (candidateEvents policies t).drop n := by
  unfold candidateEvents afterEvents ifEnabled
  cases enabledPolicy policies .usageEvents with
  | none => exact List.drop_nil.symm
  | some policy =>
    refine (List.filter_congr fun e he => expiredEvent_deleteEventBatch n t he).trans ?_
    exact t.usageEvents.filter_delete_batch _ n

end EventBatch

theorem deleteDated_accounts (n : ℕ) (cutoff : Int) (s : Stored Dated.id) :
    (deleteDated n cutoff s).2 + ((deleteDated n cutoff s).1.rows.filter (expired cutoff)).length =
      (s.rows.filter (expired cutoff)).length := by
  have hLeft : (deleteDated n cutoff s).1.rows.filter (expired cutoff) =
      (s.rows.filter (expired cutoff)).drop n := s.filter_delete_batch (expired cutoff) n
  rw [hLeft, List.length_drop]
  change ((s.rows.filter (expired cutoff)).take n).length + _ = _
  rw [List.length_take]
  omega

/-- The tables whose rows carry only a date, as a group that attempts and events do not touch. -/
structure SameDated (t t' : Tables) : Prop where
  auditLogs : t'.auditLogs = t.auditLogs
  sourceConnectionTests : t'.sourceConnectionTests = t.sourceConnectionTests
  accountHealthEvents : t'.accountHealthEvents = t.accountHealthEvents
  sourceDiscoveryRuns : t'.sourceDiscoveryRuns = t.sourceDiscoveryRuns
  systemEvents : t'.systemEvents = t.systemEvents

theorem sameDated_usage (policies : Policies) (n : ℕ) (t : Tables) :
    SameDated t (afterEvents policies n (afterAttempts policies n t).1).1 := by
  unfold afterEvents afterAttempts ifEnabled
  cases enabledPolicy policies .usageAttempts with
  | none => cases enabledPolicy policies .usageEvents <;> exact ⟨rfl, rfl, rfl, rfl, rfl⟩
  | some policy => cases enabledPolicy policies .usageEvents <;> exact ⟨rfl, rfl, rfl, rfl, rfl⟩

/-- The other deletions of a batch. -/
def afterDated (policies : Policies) (n : ℕ) (t : Tables) : Tables × ℕ × ℕ × ℕ :=
  let audit := ifEnabled policies .audit (deleteAuditBatch n) t
  let discovery := ifEnabled policies .discovery (deleteDiscoveryBatch n) audit.1
  let system := ifEnabled policies .systemEvents (deleteSystemEventsBatch n) discovery.1
  (system.1, audit.2, discovery.2, system.2)

theorem deleteBatch_fst (policies : Policies) (n : ℕ) (t : Tables) :
    (deleteBatch policies n t).1 =
      (afterDated policies n (afterEvents policies n (afterAttempts policies n t).1).1).1 := rfl

theorem usage_afterDated (policies : Policies) (n : ℕ) (t : Tables) :
    (afterDated policies n t).1.usageEvents = t.usageEvents ∧
      (afterDated policies n t).1.usageAttempts = t.usageAttempts := by
  unfold afterDated ifEnabled
  cases enabledPolicy policies .audit with
  | none =>
    cases enabledPolicy policies .discovery <;> cases enabledPolicy policies .systemEvents <;>
      exact ⟨rfl, rfl⟩
  | some policy =>
    cases enabledPolicy policies .discovery <;> cases enabledPolicy policies .systemEvents <;>
      exact ⟨rfl, rfl⟩

theorem candidates_afterDated (policies : Policies) (n : ℕ) (t : Tables) :
    candidateAttempts policies (afterDated policies n t).1 = candidateAttempts policies t ∧
      candidateEvents policies (afterDated policies n t).1 = candidateEvents policies t := by
  obtain ⟨hEvents, hAttempts⟩ := usage_afterDated policies n t
  unfold candidateAttempts candidateEvents
  rw [hEvents, hAttempts]
  exact ⟨rfl, rfl⟩

/-- The tables a group of deletions leaves, counted by policy. -/
theorem audit_afterDated (policies : Policies) (n : ℕ) (t : Tables) :
    (afterDated policies n t).2.1 + (countCandidates policies (afterDated policies n t).1).audit =
      (countCandidates policies t).audit := by
  unfold afterDated ifEnabled countCandidates countEnabled
  cases enabledPolicy policies .audit with
  | none => exact Nat.zero_add 0
  | some policy =>
    have hLogs := deleteDated_accounts n policy.cutoff t.auditLogs
    have hTests := deleteDated_accounts n policy.cutoff t.sourceConnectionTests
    have hHealth := deleteDated_accounts n policy.cutoff t.accountHealthEvents
    cases enabledPolicy policies .discovery <;> cases enabledPolicy policies .systemEvents <;>
      simp only [deleteAuditBatch, deleteDiscoveryBatch, deleteSystemEventsBatch] <;> omega

theorem discovery_afterDated (policies : Policies) (n : ℕ) (t : Tables) :
    (afterDated policies n t).2.2.1 +
        (countCandidates policies (afterDated policies n t).1).discovery =
      (countCandidates policies t).discovery := by
  unfold afterDated ifEnabled countCandidates countEnabled
  cases enabledPolicy policies .discovery with
  | none => exact Nat.zero_add 0
  | some policy =>
    have hRuns := deleteDated_accounts n policy.cutoff t.sourceDiscoveryRuns
    cases enabledPolicy policies .audit <;> cases enabledPolicy policies .systemEvents <;>
      simpa only [deleteAuditBatch, deleteDiscoveryBatch, deleteSystemEventsBatch] using hRuns

theorem systemEvents_afterDated (policies : Policies) (n : ℕ) (t : Tables) :
    (afterDated policies n t).2.2.2 +
        (countCandidates policies (afterDated policies n t).1).systemEvents =
      (countCandidates policies t).systemEvents := by
  unfold afterDated ifEnabled countCandidates countEnabled
  cases enabledPolicy policies .systemEvents with
  | none => exact Nat.zero_add 0
  | some policy =>
    have hEvents := deleteDated_accounts n policy.cutoff t.systemEvents
    cases enabledPolicy policies .audit <;> cases enabledPolicy policies .discovery <;>
      simpa only [deleteAuditBatch, deleteDiscoveryBatch, deleteSystemEventsBatch] using hEvents

theorem SameDated.counts {t t' : Tables} (h : SameDated t t') (policies : Policies) :
    (countCandidates policies t').audit = (countCandidates policies t).audit ∧
      (countCandidates policies t').discovery = (countCandidates policies t).discovery ∧
      (countCandidates policies t').systemEvents = (countCandidates policies t).systemEvents := by
  unfold countCandidates
  rw [h.auditLogs, h.sourceConnectionTests, h.accountHealthEvents, h.sourceDiscoveryRuns,
    h.systemEvents]
  exact ⟨rfl, rfl, rfl⟩

/-- What a batch does to the candidates and what it counts. -/
structure Drained (policies : Policies) (n : ℕ) (t t' : Tables) (counts : CleanupCounts) : Prop where
  attempts : candidateAttempts policies t' = ((candidateAttempts policies t).drop n).filter
    fun a => !ofRequest ((candidateEvents policies t).take n) a
  attemptCount : counts.usageAttempts = ((candidateAttempts policies t).take n).length
  events : candidateEvents policies t' = (candidateEvents policies t).drop n
  eventCount : counts.usageEvents = ((candidateEvents policies t).take n).length
  audit : counts.audit + (countCandidates policies t').audit = (countCandidates policies t).audit
  discovery : counts.discovery + (countCandidates policies t').discovery =
    (countCandidates policies t).discovery
  systemEvents : counts.systemEvents + (countCandidates policies t').systemEvents =
    (countCandidates policies t).systemEvents

theorem deleteBatch_drained (policies : Policies) (n : ℕ) (t : Tables) :
    Drained policies n t (deleteBatch policies n t).1 (deleteBatch policies n t).2 := by
  obtain ⟨hAudit, hDiscovery, hSystem⟩ := (sameDated_usage policies n t).counts policies
  obtain ⟨hAttempts, hEvents⟩ :=
    candidates_afterDated policies n (afterEvents policies n (afterAttempts policies n t).1).1
  refine ⟨?_, count_afterAttempts policies n t, ?_, ?_, ?_, ?_, ?_⟩
  · rw [deleteBatch_fst, hAttempts, candidateAttempts_afterEvents, candidateAttempts_afterAttempts,
      candidateEvents_afterAttempts]
  · rw [deleteBatch_fst, hEvents, candidateEvents_afterEvents, candidateEvents_afterAttempts]
  · refine (count_afterEvents policies n (afterAttempts policies n t).1).trans ?_
    rw [candidateEvents_afterAttempts]
  · rw [← hAudit]
    exact audit_afterDated policies n _
  · rw [← hDiscovery]
    exact discovery_afterDated policies n _
  · rw [← hSystem]
    exact systemEvents_afterDated policies n _

/-! ## The ledger of a run -/

/-- What a run has deleted, against the candidates it started with. -/
structure Ledger (policies : Policies) (n : ℕ) (t₀ t : Tables) (deleted : CleanupCounts) :
    Prop where
  usageEvents : deleted.usageEvents + (candidateEvents policies t).length =
    (candidateEvents policies t₀).length
  audit : deleted.audit + (countCandidates policies t).audit = (countCandidates policies t₀).audit
  discovery : deleted.discovery + (countCandidates policies t).discovery =
    (countCandidates policies t₀).discovery
  systemEvents : deleted.systemEvents + (countCandidates policies t).systemEvents =
    (countCandidates policies t₀).systemEvents
  usageAttempts : deleted.usageAttempts + (candidateAttempts policies t).length ≤
    (candidateAttempts policies t₀).length
  paced : (deleted.usageAttempts + (candidateAttempts policies t).length =
      (candidateAttempts policies t₀).length ∧
        Paced n SameRequest (candidateAttempts policies t) (candidateEvents policies t)) ↔
    Paced n SameRequest (candidateAttempts policies t₀) (candidateEvents policies t₀)

theorem Ledger.refl (policies : Policies) (n : ℕ) (t : Tables) : Ledger policies n t t {} := by
  refine ⟨Nat.zero_add _, Nat.zero_add _, Nat.zero_add _, Nat.zero_add _, ?_, ?_⟩
  · exact Nat.le_of_eq (Nat.zero_add _)
  · exact ⟨And.right, fun h => ⟨Nat.zero_add _, h⟩⟩

/-- The cascade takes nothing exactly when no candidate behind the batch belongs to a deleted
event. -/
theorem length_cascade {as : List UsageAttempt} {es : List UsageEvent} :
    (as.filter fun a => !ofRequest es a).length = as.length ↔
      ∀ a ∈ as, ∀ e ∈ es, ¬SameRequest a e := by
  rw [List.length_filter_eq_length_iff]
  constructor
  · intro h a ha e he hSame
    have hKept := h a ha
    rw [ofRequest_iff.mpr ⟨e, he, hSame⟩] at hKept
    cases hKept
  · intro h a ha
    rw [Bool.not_eq_true', ← Bool.not_eq_true, ofRequest_iff]
    rintro ⟨e, he, hSame⟩
    exact h a ha e he hSame

theorem Ledger.batch {policies : Policies} {n : ℕ} {t₀ t t' : Tables}
    {deleted counts : CleanupCounts} (hPos : 0 < n) (h : Ledger policies n t₀ t deleted)
    (hBatch : Drained policies n t t' counts) :
    Ledger policies n t₀ t' (deleted.plus counts) := by
  have hEvents := h.usageEvents
  have hAudit := h.audit
  have hDiscovery := h.discovery
  have hSystem := h.systemEvents
  have hAttempts := h.usageAttempts
  have hAuditBatch := hBatch.audit
  have hDiscoveryBatch := hBatch.discovery
  have hSystemBatch := hBatch.systemEvents
  have hEventCount := hBatch.eventCount
  have hAttemptCount := hBatch.attemptCount
  rw [List.length_take] at hEventCount hAttemptCount
  have hCascade := List.length_filter_le
    (fun a => !ofRequest ((candidateEvents policies t).take n) a)
    ((candidateAttempts policies t).drop n)
  have hDropped := List.length_drop (i := n) (l := candidateAttempts policies t)
  refine ⟨?_, ?_, ?_, ?_, ?_, ?_⟩
  · rw [hBatch.events, List.length_drop]
    simp only [CleanupCounts.plus]
    omega
  · simp only [CleanupCounts.plus]
    omega
  · simp only [CleanupCounts.plus]
    omega
  · simp only [CleanupCounts.plus]
    omega
  · rw [hBatch.attempts]
    simp only [CleanupCounts.plus]
    omega
  · have hSplit : Paced n SameRequest (candidateAttempts policies t) (candidateEvents policies t) ↔
        _ := paced_iff hPos
    rw [← h.paced, hSplit, ← length_cascade, hBatch.attempts, hBatch.events]
    simp only [CleanupCounts.plus]
    constructor
    · rintro ⟨hLength, hPaced⟩
      have hNone : (((candidateAttempts policies t).drop n).filter
          fun a => !ofRequest ((candidateEvents policies t).take n) a).length =
          ((candidateAttempts policies t).drop n).length := by
        omega
      rw [List.length_filter_eq_length_iff, ← List.filter_eq_self] at hNone
      rw [hNone] at hPaced hLength ⊢
      exact ⟨by omega, rfl, hPaced⟩
    · rintro ⟨hLength, hNone, hPaced⟩
      refine ⟨by omega, ?_⟩
      rw [List.length_filter_eq_length_iff, ← List.filter_eq_self] at hNone
      rw [hNone]
      exact hPaced

/-! ## Whole runs -/

/-- Nothing is left for a policy to delete. -/
def Settled (policies : Policies) (t : Tables) : Prop := (countCandidates policies t).total = 0

theorem Drained.settled {policies : Policies} {n : ℕ} {t t' : Tables} {counts : CleanupCounts}
    (h : Drained policies n t t' counts) (hSettled : Settled policies t) : Settled policies t' := by
  have hAudit := h.audit
  have hDiscovery := h.discovery
  have hSystem := h.systemEvents
  unfold Settled CleanupCounts.total at *
  rw [countCandidates_usageEvents, countCandidates_usageAttempts] at *
  have hEvents : (candidateEvents policies t).length = 0 := by omega
  have hAttempts : (candidateAttempts policies t).length = 0 := by omega
  rw [h.events, h.attempts, List.length_eq_zero_iff.mp hEvents,
    List.length_eq_zero_iff.mp hAttempts, List.drop_nil, List.drop_nil]
  simp only [List.filter_nil, List.length_nil]
  omega

/-- A step that leaves the candidates and the counters as they are. -/
structure Quiet (s s' : System) : Prop where
  attempts : candidateAttempts s.run.policies s'.tables =
    candidateAttempts s.run.policies s.tables
  events : candidateEvents s.run.policies s'.tables = candidateEvents s.run.policies s.tables
  counts : countCandidates s.run.policies s'.tables = countCandidates s.run.policies s.tables
  deleted : s'.run.deleted = s.run.deleted
  completed : s'.run.status = .completed → s.run.status = .completed ∨
    ∃ rounds counts, Invocation.updating rounds counts false ∈ s.calls
  updating : ∀ rounds counts, Invocation.updating rounds counts false ∈ s'.calls →
    Invocation.updating rounds counts false ∈ s.calls ∨ Settled s.run.policies s.tables

/-- A step that commits a batch. -/
structure Batched (s s' : System) : Prop where
  tables : s'.tables = (deleteBatch s.run.policies s.run.options.batchSize s.tables).1
  deleted : s'.run.deleted =
    s.run.deleted.plus (deleteBatch s.run.policies s.run.options.batchSize s.tables).2
  running : s'.run.status = .running
  updating : ∀ rounds counts, Invocation.updating rounds counts false ∈ s'.calls →
    Invocation.updating rounds counts false ∈ s.calls

/-- The columns of a run that no statement changes. -/
structure SameRequestOptions (run run' : CleanupRun) : Prop where
  dryRun : run'.dryRun = run.dryRun
  options : run'.options = run.options
  policies : run'.policies = run.policies

theorem quiet_of_same {s s' : System} (hTables : s'.tables = s.tables)
    (hDeleted : s'.run.deleted = s.run.deleted)
    (hCompleted : s'.run.status = .completed → s.run.status = .completed ∨
      ∃ rounds counts, Invocation.updating rounds counts false ∈ s.calls)
    (hUpdating : ∀ rounds counts, Invocation.updating rounds counts false ∈ s'.calls →
      Invocation.updating rounds counts false ∈ s.calls ∨ Settled s.run.policies s.tables) :
    Quiet s s' :=
  ⟨by rw [hTables], by rw [hTables], by rw [hTables], hDeleted, hCompleted, hUpdating⟩

/-- What one statement of a call does. -/
theorem runCleanup_cases {t t' : Tables} {run run' : CleanupRun} {c c' : Invocation}
    (hReal : run.dryRun = false) (h : runCleanup t run c = (t', run', c')) :
    SameRequestOptions run run' ∧
      ((t' = t ∧ run'.deleted = run.deleted ∧
          (run'.status = .completed → run.status = .completed ∨
            ∃ rounds counts, c = .updating rounds counts false) ∧
          ∀ rounds counts, c' = .updating rounds counts false → Settled run.policies t) ∨
        (t' = (deleteBatch run.policies run.options.batchSize t).1 ∧
          run'.deleted =
            run.deleted.plus (deleteBatch run.policies run.options.batchSize t).2 ∧
          run'.status = .running ∧ ∀ rounds counts, c' ≠ .updating rounds counts false)) := by
  cases c with
  | looping rounds =>
    simp only [runCleanup, hReal, Bool.false_eq_true, if_false] at h
    split at h
    · unfold roundTransaction at h
      cases hStatus : run.status with
      | running =>
        simp only [hStatus] at h
        split at h
        · cases h
          exact ⟨⟨rfl, rfl, rfl⟩, .inl ⟨rfl, rfl, nofun, nofun⟩⟩
        · cases h
          exact ⟨⟨rfl, rfl, rfl⟩, .inr ⟨rfl, rfl, rfl, nofun⟩⟩
      | cancelRequested =>
        simp only [hStatus] at h
        cases h
        exact ⟨⟨rfl, rfl, rfl⟩, .inl ⟨rfl, rfl, nofun, nofun⟩⟩
      | completed =>
        simp only [hStatus] at h
        cases h
        exact ⟨⟨rfl, rfl, rfl⟩, .inl ⟨rfl, rfl, fun _ => .inl rfl, nofun⟩⟩
      | failed =>
        simp only [hStatus] at h
        cases h
        exact ⟨⟨rfl, rfl, rfl⟩, .inl ⟨rfl, rfl, fun h => by simp [hStatus] at h, nofun⟩⟩
      | cancelled =>
        simp only [hStatus] at h
        cases h
        exact ⟨⟨rfl, rfl, rfl⟩, .inl ⟨rfl, rfl, fun h => by simp [hStatus] at h, nofun⟩⟩
    · cases h
      exact ⟨⟨rfl, rfl, rfl⟩, .inl ⟨rfl, rfl, .inl, nofun⟩⟩
  | counting rounds deleted =>
    cases h
    refine ⟨⟨rfl, rfl, rfl⟩, .inl ⟨rfl, rfl, .inl, ?_⟩⟩
    intro rounds' counts hUpdating
    injection hUpdating with _ _ hMore
    unfold Settled
    have := of_decide_eq_false hMore
    omega
  | updating rounds deleted hasMore =>
    have hNext : ∀ rounds' counts,
        (if deleted.total = 0 then Invocation.returned else .looping (rounds + 1)) ≠
          .updating rounds' counts false := by
      intro rounds' counts
      split <;> intro hEq <;> cases hEq
    cases h
    cases hasMore with
    | true =>
      exact ⟨⟨rfl, rfl, rfl⟩, .inl ⟨rfl, rfl, .inl, fun r d h => absurd h (hNext r d)⟩⟩
    | false =>
      refine ⟨?_, .inl ⟨rfl, ?_, fun _ => .inr ⟨rounds, deleted, rfl⟩,
        fun r d h => absurd h (hNext r d)⟩⟩
      · simp only [Bool.false_eq_true, if_false, complete]
        cases run.status <;> exact ⟨rfl, rfl, rfl⟩
      · simp only [Bool.false_eq_true, if_false, complete]
        cases run.status <;> rfl
  | returned =>
    cases h
    exact ⟨⟨rfl, rfl, rfl⟩, .inl ⟨rfl, rfl, .inl, nofun⟩⟩

/-- The status changes from outside complete no run and count nothing. -/
structure Outside (run run' : CleanupRun) : Prop where
  same : SameRequestOptions run run'
  deleted : run'.deleted = run.deleted
  completed : run'.status = .completed → run.status = .completed

theorem markCleanupFailed_outside (run : CleanupRun) : Outside run (markCleanupFailed run) := by
  unfold markCleanupFailed
  cases hStatus : run.status with
  | running | failed | cancelRequested => exact ⟨⟨rfl, rfl, rfl⟩, rfl, fun h => by cases h⟩
  | completed | cancelled => exact ⟨⟨rfl, rfl, rfl⟩, rfl, id⟩

theorem cancelCleanup_outside (run : CleanupRun) : Outside run (cancelCleanup run) := by
  unfold cancelCleanup
  cases hStatus : run.status with
  | running | cancelRequested => exact ⟨⟨rfl, rfl, rfl⟩, rfl, fun h => by cases h⟩
  | completed | cancelled | failed => exact ⟨⟨rfl, rfl, rfl⟩, rfl, id⟩

theorem prepareCleanupRetry_outside (run : CleanupRun) :
    Outside run (prepareCleanupRetry run) := by
  unfold prepareCleanupRetry
  cases hStatus : run.status with
  | failed | cancelled | cancelRequested => exact ⟨⟨rfl, rfl, rfl⟩, rfl, fun h => by cases h⟩
  | running | completed => exact ⟨⟨rfl, rfl, rfl⟩, rfl, id⟩

/-- A row that is not expired is no candidate. -/
theorem countCandidates_append {policies : Policies} {t : Tables} {row : Dated}
    {hLater : ∀ r ∈ t.auditLogs.rows, r.id < row.id}
    (hFresh : ∀ policy, enabledPolicy policies .audit = some policy → policy.cutoff ≤ row.stamp) :
    countCandidates policies { t with auditLogs := t.auditLogs.append row hLater } =
      countCandidates policies t := by
  unfold countCandidates countEnabled
  cases hPolicy : enabledPolicy policies .audit with
  | none => rfl
  | some policy =>
    have hNot : expired policy.cutoff row = false := decide_eq_false (Int.not_lt.mpr (hFresh policy hPolicy))
    simp only [Stored.append, List.filter_append, List.filter_cons, hNot, Bool.false_eq_true,
      if_false, List.filter_nil, List.append_nil]

theorem step_cases {s s' : System} (hReal : s.run.dryRun = false) (h : Step s s') :
    SameRequestOptions s.run s'.run ∧ (Quiet s s' ∨ Batched s s') := by
  have hOutside : ∀ {run'}, Outside s.run run' → s'.run = run' → s'.tables = s.tables →
      (∀ rounds counts, Invocation.updating rounds counts false ∈ s'.calls →
        Invocation.updating rounds counts false ∈ s.calls) →
      SameRequestOptions s.run s'.run ∧ (Quiet s s' ∨ Batched s s') := by
    rintro _ hOut rfl hTables hCalls
    refine ⟨hOut.same, .inl (quiet_of_same hTables hOut.deleted ?_ ?_)⟩
    · exact fun h => .inl (hOut.completed h)
    · exact fun rounds counts h => .inl (hCalls rounds counts h)
  cases h with
  | enter hTables hRun hCalls =>
    refine hOutside ⟨⟨rfl, rfl, rfl⟩, rfl, id⟩ hRun hTables ?_
    intro rounds counts hMem
    rw [hCalls] at hMem
    cases hMem with
    | tail _ hOld => exact hOld
  | @move c c' hMoves hNext =>
    obtain ⟨hSame, hCall | hCall⟩ := runCleanup_cases hReal hNext
    · obtain ⟨hTables, hDeleted, hCompleted, hUpdating⟩ := hCall
      refine ⟨hSame, .inl (quiet_of_same hTables hDeleted ?_ ?_)⟩
      · intro hStatus
        rcases hCompleted hStatus with hOld | ⟨rounds, counts, rfl⟩
        · exact .inl hOld
        · exact .inr ⟨rounds, counts, hMoves.mem_old⟩
      · intro rounds counts hMem
        rcases hMoves.mem hMem with hEq | hOld
        · exact .inr (hUpdating rounds counts hEq.symm)
        · exact .inl hOld
    · obtain ⟨hTables, hDeleted, hRunning, hNot⟩ := hCall
      refine ⟨hSame, .inr ⟨hTables, hDeleted, hRunning, ?_⟩⟩
      intro rounds counts hMem
      rcases hMoves.mem hMem with hEq | hOld
      · exact absurd hEq.symm (hNot rounds counts)
      · exact hOld
  | fail hMoves hTables hRun =>
    refine hOutside (markCleanupFailed_outside s.run) hRun hTables ?_
    intro rounds counts hMem
    rcases hMoves.mem hMem with hEq | hOld
    · cases hEq
    · exact hOld
  | cancel hTables hRun hCalls =>
    exact hOutside (cancelCleanup_outside s.run) hRun hTables (fun _ _ hMem => hCalls ▸ hMem)
  | retry hTables hRun hCalls =>
    exact hOutside (prepareCleanupRetry_outside s.run) hRun hTables (fun _ _ hMem => hCalls ▸ hMem)
  | appendAudit hLater hFresh hTables hRun hCalls =>
    refine ⟨?_, .inl ⟨?_, ?_, ?_, ?_, ?_, ?_⟩⟩
    · rw [hRun]
      exact ⟨rfl, rfl, rfl⟩
    · rw [hTables]
      rfl
    · rw [hTables]
      rfl
    · rw [hTables, countCandidates_append hFresh]
    · rw [hRun]
    · rw [hRun]
      exact .inl
    · intro rounds counts hMem
      exact .inl (hCalls ▸ hMem)

/-- What holds in every state of a run. -/
structure Accounted (options : CleanupOptions) (policies : Policies) (t₀ : Tables) (s : System) :
    Prop where
  real : s.run.dryRun = false
  sameOptions : s.run.options = options
  samePolicies : s.run.policies = policies
  ledger : Ledger policies options.batchSize t₀ s.tables s.run.deleted
  completed : s.run.status = .completed → Settled policies s.tables
  updating : ∀ rounds counts, Invocation.updating rounds counts false ∈ s.calls →
    Settled policies s.tables

theorem accounted_started (options : CleanupOptions) (policies : Policies) (t : Tables) :
    Accounted options policies t (started options policies t) where
  real := rfl
  sameOptions := rfl
  samePolicies := rfl
  ledger := Ledger.refl policies options.batchSize t
  completed := by
    intro h
    cases h
  updating := by
    intro rounds counts h
    cases h

theorem accounted_step {options : CleanupOptions} {policies : Policies} {t₀ : Tables}
    {s s' : System} (h : Accounted options policies t₀ s) (hStep : Step s s') :
    Accounted options policies t₀ s' := by
  obtain ⟨hSame, hKind⟩ := step_cases h.real hStep
  obtain ⟨hDryRun, rfl, rfl, hLedger, hCompleted, hUpdating⟩ := h
  rcases hKind with hQuiet | hBatch
  · have hSettled : Settled s.run.policies s.tables → Settled s.run.policies s'.tables := by
      unfold Settled
      rw [hQuiet.counts]
      exact id
    refine ⟨hSame.dryRun.trans hDryRun, hSame.options, hSame.policies, ?_, ?_, ?_⟩
    · obtain ⟨hEvents, hAudit, hDiscovery, hSystem, hAttempts, hPaced⟩ := hLedger
      rw [← hQuiet.deleted, ← hQuiet.counts] at hAudit hDiscovery hSystem
      rw [← hQuiet.deleted, ← hQuiet.events] at hEvents
      rw [← hQuiet.deleted, ← hQuiet.attempts] at hAttempts hPaced
      rw [← hQuiet.events] at hPaced
      exact ⟨hEvents, hAudit, hDiscovery, hSystem, hAttempts, hPaced⟩
    · intro hStatus
      rcases hQuiet.completed hStatus with hOld | ⟨rounds, counts, hOld⟩
      · exact hSettled (hCompleted hOld)
      · exact hSettled (hUpdating rounds counts hOld)
    · intro rounds counts hMem
      rcases hQuiet.updating rounds counts hMem with hOld | hNow
      · exact hSettled (hUpdating rounds counts hOld)
      · exact hSettled hNow
  · have hDrained := deleteBatch_drained s.run.policies s.run.options.batchSize s.tables
    rw [← hBatch.tables] at hDrained
    refine ⟨hSame.dryRun.trans hDryRun, hSame.options, hSame.policies, ?_, ?_, ?_⟩
    · rw [hBatch.deleted]
      exact hLedger.batch s.run.options.batchSize_range.1 hDrained
    · intro hStatus
      rw [hBatch.running] at hStatus
      cases hStatus
    · intro rounds counts hMem
      exact hDrained.settled (hUpdating rounds counts (hBatch.updating rounds counts hMem))

/-- A completed run has counted every candidate it started with, except the attempts that went
with their event: those are counted too exactly when no event is drained before its attempts. -/
theorem completed_counts_iff {options : CleanupOptions} {policies : Policies} {t₀ : Tables}
    {s : System} (hRun : ReflTransGen Step (started options policies t₀) s)
    (hCompleted : s.run.status = .completed) :
    s.run.deleted = (finishDryRun t₀ (startCleanup true options policies)).scanned ↔
      Paced options.batchSize SameRequest (candidateAttempts policies t₀)
        (candidateEvents policies t₀) := by
  have h := invariant hRun accounted_step (accounted_started options policies t₀)
  obtain ⟨hEvents, hAudit, hDiscovery, hSystem, -, hPaced⟩ := h.ledger
  have hSettled := h.completed hCompleted
  unfold Settled CleanupCounts.total at hSettled
  rw [countCandidates_usageEvents, countCandidates_usageAttempts] at hSettled
  have hNone : candidateAttempts policies s.tables = [] := List.length_eq_zero_iff.mp (by omega)
  rw [← hPaced, hNone]
  change s.run.deleted = countCandidates policies t₀ ↔ _
  constructor
  · intro hEq
    refine ⟨?_, paced_nil⟩
    rw [hEq, countCandidates_usageAttempts]
    rfl
  · rintro ⟨hLength, -⟩
    rw [List.length_nil, Nat.add_zero] at hLength
    rw [← countCandidates_usageAttempts] at hLength
    rw [← countCandidates_usageEvents policies t₀] at hEvents
    refine CleanupCounts.ext ?_ hLength ?_ ?_ ?_ <;> omega

/-! ## A batch size of one -/

def oneByOne : CleanupOptions := ⟨1, 1, by decide, by decide⟩

/-- Usage events and attempts expire at one instant, and no other policy is selected. -/
def usagePolicies : Policies
  | .usageEvents | .usageAttempts => some ⟨true, 100⟩
  | .audit | .discovery | .systemEvents => none

def noRows : Stored Dated.id := ⟨[], List.Pairwise.nil⟩

/-- One expired event with expired attempts. -/
def oneEvent (attempts : Stored UsageAttempt.id)
    (h : ∀ a ∈ attempts.rows, a.requestId = "request") : Tables where
  usageEvents := ⟨[⟨1, "request", 10⟩], by decide⟩
  usageAttempts := attempts
  auditLogs := noRows
  sourceConnectionTests := noRows
  accountHealthEvents := noRows
  sourceDiscoveryRuns := noRows
  systemEvents := noRows
  requestUnique := by decide
  references := fun a ha => ⟨⟨1, "request", 10⟩, List.mem_singleton_self _, (h a ha).symm⟩

/-- The next state of a run that one call works on. -/
def advance (s : System) : System :=
  match s.calls with
  | [c] =>
    let next := runCleanup s.tables s.run c
    ⟨next.1, next.2.1, [next.2.2]⟩
  | _ => s

theorem reaches_advance {s₀ s : System} {c : Invocation} (hCalls : s.calls = [c])
    (h : ReflTransGen Step s₀ s) : ReflTransGen Step s₀ (advance s) := by
  obtain ⟨t, run, calls⟩ := s
  cases hCalls
  exact h.tail (.move (.at [] []) rfl)

/-- One call begins, commits a batch, counts what is left and updates the run. -/
def oneRound (t : Tables) : System :=
  advance (advance (advance ⟨t, startCleanup false oneByOne usagePolicies, [.looping 0]⟩))

theorem reaches_oneRound (t : Tables) :
    ReflTransGen Step (started oneByOne usagePolicies t) (oneRound t) := by
  have hEnter : Step (started oneByOne usagePolicies t)
      ⟨t, startCleanup false oneByOne usagePolicies, [.looping 0]⟩ := .enter rfl rfl rfl
  have hBatch := reaches_advance rfl (ReflTransGen.single hEnter)
  have hCount := reaches_advance rfl hBatch
  exact reaches_advance rfl hCount

def oneAttempt : Stored UsageAttempt.id := ⟨[⟨1, "request", 10⟩], by decide⟩

theorem oneAttempt_owned : ∀ a ∈ oneAttempt.rows, a.requestId = "request" := by decide

def twoAttempts : Stored UsageAttempt.id := ⟨[⟨1, "request", 10⟩, ⟨2, "request", 20⟩], by decide⟩

/-- An event and its attempt go in one batch. -/
theorem completed_counts_one_attempt :
    (oneRound (oneEvent oneAttempt (by decide))).run.status = .completed ∧
      (oneRound (oneEvent oneAttempt (by decide))).run.deleted =
        (finishDryRun (oneEvent oneAttempt (by decide))
          (startCleanup true oneByOne usagePolicies)).scanned := by
  have hCompleted : (oneRound (oneEvent oneAttempt (by decide))).run.status = .completed := by
    decide
  exact ⟨hCompleted, (completed_counts_iff (reaches_oneRound _) hCompleted).mpr (by decide)⟩

/-- The second attempt goes with its event and is not counted. -/
theorem completed_misses_cascaded_attempt :
    ∃ s, ReflTransGen Step
        (started oneByOne usagePolicies (oneEvent twoAttempts (by decide))) s ∧
      s.run.status = .completed ∧ s.run.deleted.usageAttempts = 1 ∧
      (finishDryRun (oneEvent twoAttempts (by decide))
        (startCleanup true oneByOne usagePolicies)).scanned.usageAttempts = 2 := by
  refine ⟨oneRound (oneEvent twoAttempts (by decide)), reaches_oneRound _, ?_, ?_, ?_⟩
  · decide
  · decide
  · decide

end AiGateway.Retention
