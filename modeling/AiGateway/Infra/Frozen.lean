import AiGateway.Infra.Cleanup
import AiGateway.Infra.PolicySnapshot
import Mathlib.Logic.Equiv.Nat

/-!
# Frozen cutoffs

A cleanup reads its policies back from its own row each time a call works on it.
Whatever is asked for in between, and whatever becomes of the policy table, its
rounds delete no more than the policies it was created with allow.
-/

namespace AiGateway.Retention

set_option autoImplicit false

open AiGateway.Concurrent AiGateway.Health AiGateway.Json AiGateway.Ops AiGateway.Text Relation

/-! ## What a batch may delete -/

/-- Older than the cutoff of an enabled policy. -/
def OlderThan (policies : Policies) (key : RetentionKey) (stamp : Int) : Prop :=
  ∃ policy, enabledPolicy policies key = some policy ∧ stamp < policy.cutoff

/-- Rows that are gone were old enough, and an event that is gone had no attempt that has to be
kept, be it a recent one or any at all while attempts are not cleaned up. -/
structure Allowed (policies : Policies) (t t' : Tables) : Prop where
  usageAttempts : ∀ a ∈ t.usageAttempts.rows, a ∈ t'.usageAttempts.rows ∨
    OlderThan policies .usageAttempts a.createdAt
  usageEvents : ∀ e ∈ t.usageEvents.rows, e ∈ t'.usageEvents.rows ∨
    OlderThan policies .usageEvents e.createdAt ∧
      ∀ a ∈ t.usageAttempts.rows, a.requestId = e.requestId →
        OlderThan policies .usageAttempts a.createdAt
  auditLogs : ∀ r ∈ t.auditLogs.rows, r ∈ t'.auditLogs.rows ∨ OlderThan policies .audit r.stamp
  sourceConnectionTests : ∀ r ∈ t.sourceConnectionTests.rows,
    r ∈ t'.sourceConnectionTests.rows ∨ OlderThan policies .audit r.stamp
  accountHealthEvents : ∀ r ∈ t.accountHealthEvents.rows,
    r ∈ t'.accountHealthEvents.rows ∨ OlderThan policies .audit r.stamp
  sourceDiscoveryRuns : ∀ r ∈ t.sourceDiscoveryRuns.rows,
    r ∈ t'.sourceDiscoveryRuns.rows ∨ OlderThan policies .discovery r.stamp
  systemEvents : ∀ r ∈ t.systemEvents.rows,
    r ∈ t'.systemEvents.rows ∨ OlderThan policies .systemEvents r.stamp

/-- A row is still there after two changes, or one of them had leave to delete it. -/
theorem kept_trans {α : Type} {rows rows' rows'' : List α} {P : α → Prop}
    (h : ∀ r ∈ rows, r ∈ rows' ∨ P r) (h' : ∀ r ∈ rows', r ∈ rows'' ∨ P r) :
    ∀ r ∈ rows, r ∈ rows'' ∨ P r := by
  intro r hr
  obtain hKept | hOld := h r hr
  · exact h' r hKept
  · exact .inr hOld

namespace Allowed

variable {policies : Policies} {t t' t'' : Tables}

theorem refl (policies : Policies) (t : Tables) : Allowed policies t t :=
  ⟨fun _ => .inl, fun _ => .inl, fun _ => .inl, fun _ => .inl, fun _ => .inl, fun _ => .inl,
    fun _ => .inl⟩

theorem trans (h : Allowed policies t t') (h' : Allowed policies t' t'') :
    Allowed policies t t'' where
  usageAttempts := kept_trans h.usageAttempts h'.usageAttempts
  usageEvents e he := by
    obtain hKept | hOld := h.usageEvents e he
    · obtain hKept' | ⟨hOld, hAttempts⟩ := h'.usageEvents e hKept
      · exact .inl hKept'
      · refine .inr ⟨hOld, ?_⟩
        intro a ha hRequest
        obtain hHere | hGone := h.usageAttempts a ha
        · exact hAttempts a hHere hRequest
        · exact hGone
    · exact .inr hOld
  auditLogs := kept_trans h.auditLogs h'.auditLogs
  sourceConnectionTests := kept_trans h.sourceConnectionTests h'.sourceConnectionTests
  accountHealthEvents := kept_trans h.accountHealthEvents h'.accountHealthEvents
  sourceDiscoveryRuns := kept_trans h.sourceDiscoveryRuns h'.sourceDiscoveryRuns
  systemEvents := kept_trans h.systemEvents h'.systemEvents

theorem congr {policies' : Policies}
    (hSame : ∀ key, enabledPolicy policies key = enabledPolicy policies' key)
    (h : Allowed policies t t') : Allowed policies' t t' := by
  have hOlder : ∀ {key stamp}, OlderThan policies key stamp → OlderThan policies' key stamp := by
    rintro key stamp ⟨policy, hPolicy, hBefore⟩
    exact ⟨policy, (hSame key).symm.trans hPolicy, hBefore⟩
  exact ⟨fun a ha => (h.usageAttempts a ha).imp_right hOlder,
    fun e he => (h.usageEvents e he).imp_right fun hOld =>
      ⟨hOlder hOld.1, fun a ha hRequest => hOlder (hOld.2 a ha hRequest)⟩,
    fun r hr => (h.auditLogs r hr).imp_right hOlder,
    fun r hr => (h.sourceConnectionTests r hr).imp_right hOlder,
    fun r hr => (h.accountHealthEvents r hr).imp_right hOlder,
    fun r hr => (h.sourceDiscoveryRuns r hr).imp_right hOlder,
    fun r hr => (h.systemEvents r hr).imp_right hOlder⟩

end Allowed

section Batch

variable {policies : Policies} {policy : PolicyState} (n : ℕ) (t : Tables)

theorem mem_batch_of_not_mem {α : Type} {key : α → ℕ} {s : Stored key} {p : α → Bool} {n : ℕ}
    {r : α} (hr : r ∈ s.rows) (hGone : r ∉ (s.delete ((s.batch p n).map key)).rows) :
    r ∈ s.batch p n := by
  have hKey : key r ∈ (s.batch p n).map key := by
    by_contra hOut
    exact hGone (Stored.mem_delete.mpr ⟨hr, hOut⟩)
  obtain ⟨r', hr', hSame⟩ := List.mem_map.mp hKey
  have hStored := (List.mem_filter.mp (List.mem_of_mem_take hr')).1
  rwa [Stored.eq_of_key hStored hr hSame] at hr'

theorem matches_of_mem_batch {α : Type} {key : α → ℕ} {s : Stored key} {p : α → Bool} {n : ℕ}
    {r : α} (h : r ∈ s.batch p n) : r ∈ s.rows ∧ p r = true :=
  List.mem_filter.mp (List.mem_of_mem_take h)

theorem allowed_deleteAttemptBatch (hPolicy : enabledPolicy policies .usageAttempts = some policy) :
    Allowed policies t (deleteAttemptBatch n policy.cutoff t).1 where
  usageAttempts a ha := by
    by_cases hKept : a ∈ (deleteAttemptBatch n policy.cutoff t).1.usageAttempts.rows
    · exact .inl hKept
    · have hMatch := matches_of_mem_batch (mem_batch_of_not_mem ha hKept)
      exact .inr ⟨policy, hPolicy, of_decide_eq_true hMatch.2⟩
  usageEvents _ := .inl
  auditLogs _ := .inl
  sourceConnectionTests _ := .inl
  accountHealthEvents _ := .inl
  sourceDiscoveryRuns _ := .inl
  systemEvents _ := .inl

theorem olderThan_of_blocks {a : UsageAttempt} (h : (attemptGuard policies).blocks a = false) :
    OlderThan policies .usageAttempts a.createdAt := by
  unfold attemptGuard at h
  cases hPolicy : enabledPolicy policies .usageAttempts with
  | none =>
    rw [hPolicy] at h
    cases h
  | some policy =>
    rw [hPolicy] at h
    exact ⟨policy, hPolicy, Int.not_le.mp (of_decide_eq_false h)⟩

/-- The attempts of an event that may go are old enough themselves. -/
theorem olderThan_of_expiredEvent {e : UsageEvent} {cutoff : Int}
    (h : expiredEvent t.usageAttempts.rows (attemptGuard policies) cutoff e = true) :
    e.createdAt < cutoff ∧ ∀ a ∈ t.usageAttempts.rows, a.requestId = e.requestId →
      OlderThan policies .usageAttempts a.createdAt := by
  obtain ⟨hBefore, hNone⟩ := Bool.and_eq_true_iff.mp h
  refine ⟨of_decide_eq_true hBefore, ?_⟩
  intro a ha hRequest
  apply olderThan_of_blocks
  cases hBlocks : (attemptGuard policies).blocks a with
  | false => rfl
  | true =>
    have hAny : (t.usageAttempts.rows.any fun a =>
        a.requestId == e.requestId && (attemptGuard policies).blocks a) = true :=
      List.any_eq_true.mpr ⟨a, ha, by rw [hBlocks, hRequest, beq_self_eq_true, Bool.and_self]⟩
    rw [hAny] at hNone
    cases hNone

theorem allowed_deleteEventBatch (hPolicy : enabledPolicy policies .usageEvents = some policy) :
    Allowed policies t (deleteEventBatch (attemptGuard policies) n policy.cutoff t).1 where
  usageAttempts a ha := by
    cases hOf : ofRequest (t.usageEvents.batch
        (expiredEvent t.usageAttempts.rows (attemptGuard policies) policy.cutoff) n) a with
    | false =>
      refine .inl (List.mem_filter.mpr ⟨ha, ?_⟩)
      rw [hOf]
      rfl
    | true =>
      obtain ⟨e, he, hRequest⟩ := ofRequest_iff.mp hOf
      have hExpired := olderThan_of_expiredEvent t (matches_of_mem_batch he).2
      exact .inr (hExpired.2 a ha hRequest.symm)
  usageEvents e he := by
    by_cases hKept : e ∈ (deleteEventBatch (attemptGuard policies) n policy.cutoff
        t).1.usageEvents.rows
    · exact .inl hKept
    · have hExpired := olderThan_of_expiredEvent t
        (matches_of_mem_batch (mem_batch_of_not_mem he hKept)).2
      exact .inr ⟨⟨policy, hPolicy, hExpired.1⟩, hExpired.2⟩
  auditLogs _ := .inl
  sourceConnectionTests _ := .inl
  accountHealthEvents _ := .inl
  sourceDiscoveryRuns _ := .inl
  systemEvents _ := .inl

theorem kept_deleteDated (cutoff : Int) (s : Stored Dated.id) {r : Dated} (hr : r ∈ s.rows) :
    r ∈ (deleteDated n cutoff s).1.rows ∨ r.stamp < cutoff := by
  by_cases hKept : r ∈ (deleteDated n cutoff s).1.rows
  · exact .inl hKept
  · have hMatch := matches_of_mem_batch (mem_batch_of_not_mem hr hKept)
    exact .inr (of_decide_eq_true hMatch.2)

theorem allowed_deleteAuditBatch (hPolicy : enabledPolicy policies .audit = some policy) :
    Allowed policies t (deleteAuditBatch n policy.cutoff t).1 where
  usageAttempts _ := .inl
  usageEvents _ := .inl
  auditLogs _ hr := (kept_deleteDated n policy.cutoff t.auditLogs hr).imp_right
    fun hOld => ⟨policy, hPolicy, hOld⟩
  sourceConnectionTests _ hr := (kept_deleteDated n policy.cutoff t.sourceConnectionTests
    hr).imp_right fun hOld => ⟨policy, hPolicy, hOld⟩
  accountHealthEvents _ hr := (kept_deleteDated n policy.cutoff t.accountHealthEvents
    hr).imp_right fun hOld => ⟨policy, hPolicy, hOld⟩
  sourceDiscoveryRuns _ := .inl
  systemEvents _ := .inl

theorem allowed_deleteDiscoveryBatch (hPolicy : enabledPolicy policies .discovery = some policy) :
    Allowed policies t (deleteDiscoveryBatch n policy.cutoff t).1 where
  usageAttempts _ := .inl
  usageEvents _ := .inl
  auditLogs _ := .inl
  sourceConnectionTests _ := .inl
  accountHealthEvents _ := .inl
  sourceDiscoveryRuns _ hr := (kept_deleteDated n policy.cutoff t.sourceDiscoveryRuns
    hr).imp_right fun hOld => ⟨policy, hPolicy, hOld⟩
  systemEvents _ := .inl

theorem allowed_deleteSystemEventsBatch
    (hPolicy : enabledPolicy policies .systemEvents = some policy) :
    Allowed policies t (deleteSystemEventsBatch n policy.cutoff t).1 where
  usageAttempts _ := .inl
  usageEvents _ := .inl
  auditLogs _ := .inl
  sourceConnectionTests _ := .inl
  accountHealthEvents _ := .inl
  sourceDiscoveryRuns _ := .inl
  systemEvents _ hr := (kept_deleteDated n policy.cutoff t.systemEvents hr).imp_right
    fun hOld => ⟨policy, hPolicy, hOld⟩

theorem allowed_ifEnabled {key : RetentionKey} {delete : Int → Tables → Tables × ℕ}
    (hDelete : ∀ policy, enabledPolicy policies key = some policy →
      Allowed policies t (delete policy.cutoff t).1) :
    Allowed policies t (ifEnabled policies key delete t).1 := by
  unfold ifEnabled
  split
  · next policy hPolicy => exact hDelete policy hPolicy
  · exact .refl policies t

theorem allowed_deleteBatch (policies : Policies) : Allowed policies t (deleteBatch policies n t).1 :=
  (allowed_ifEnabled t fun _ h => allowed_deleteAttemptBatch n t h).trans
    ((allowed_ifEnabled _ fun _ h => allowed_deleteEventBatch n _ h).trans
      ((allowed_ifEnabled _ fun _ h => allowed_deleteAuditBatch n _ h).trans
        ((allowed_ifEnabled _ fun _ h => allowed_deleteDiscoveryBatch n _ h).trans
          (allowed_ifEnabled _ fun _ h => allowed_deleteSystemEventsBatch n _ h))))

theorem allowed_runCleanup (run : CleanupRun) (c : Invocation) :
    Allowed run.policies t (runCleanup t run c).1 := by
  cases c with
  | looping rounds =>
    unfold runCleanup
    dsimp only
    split
    · exact .refl run.policies t
    · split
      · unfold roundTransaction
        split
        · exact .refl run.policies t
        · exact .refl run.policies t
        · exact .refl run.policies t
        · exact .refl run.policies t
        · split
          · exact .refl run.policies t
          · exact allowed_deleteBatch run.options.batchSize t run.policies
      · exact .refl run.policies t
  | counting rounds deleted => exact .refl run.policies t
  | updating rounds deleted hasMore => exact .refl run.policies t
  | returned => exact .refl run.policies t

end Batch

/-! ## Operations -/

/-- A row of the cleanup runs. -/
structure CleanupRow where
  status : Status
  dryRun : Bool
  options : CleanupOptions
  policySnapshot : Value
  cutoffSnapshot : Value
  scanned : CleanupCounts
  deleted : CleanupCounts
  batchesCompleted : ℕ
  cancelRequested : Bool

namespace CleanupRow

/-- The row as a call that has read these policies back works on it. -/
def run (row : CleanupRow) (policies : Policies) : CleanupRun where
  status := row.status
  dryRun := row.dryRun
  options := row.options
  policies := policies
  scanned := row.scanned
  deleted := row.deleted
  batchesCompleted := row.batchesCompleted
  cancelRequested := row.cancelRequested

/-- The columns statements change. -/
def update (row : CleanupRow) (run : CleanupRun) : CleanupRow :=
  { row with
    status := run.status
    scanned := run.scanned
    deleted := run.deleted
    batchesCompleted := run.batchesCompleted
    cancelRequested := run.cancelRequested }

/-- A statement that looks at no policy. -/
def edit (row : CleanupRow) (change : CleanupRun → CleanupRun) : CleanupRow :=
  row.update (change (row.run fun _ => none))

end CleanupRow

structure Call where
  operationId : String
  policies : Policies
  invocation : Invocation

structure Operations where
  tables : Tables
  policies : RetentionPolicies
  runs : Table String CleanupRow
  calls : List Call

structure CleanupRequest where
  dryRun : Bool
  batchSize : Int
  maxBatches : Int
  operationId : Option String
  policyKeys : Option (List String)

def checkPolicyKeys : List String → List String → Except OpsError Unit
  | _, [] => .ok ()
  | seen, key :: rest => do
    validatePolicyKey key
    Checked.ensure (key ∉ seen) (.validation ("duplicate policy key '" ++ key ++ "'"))
    checkPolicyKeys (key :: seen) rest

def validateRequest (request : CleanupRequest) : Except OpsError CleanupOptions := do
  let options ← (validateCleanupRequest request.batchSize request.maxBatches).mapError .validation
  Checked.ensure (∀ id ∈ request.operationId, trim id ≠ "" ∧ id.utf8ByteSize ≤ 128)
    (.validation "operation_id must be 1..128 characters")
  match request.policyKeys with
  | none => return options
  | some keys => do
    checkPolicyKeys [] keys
    return options

namespace Operations

def notFound (id : String) : OpsError := .notFound ("cleanup operation '" ++ id ++ "' not found")

/-- The beginning of `run_cleanup`: the row is read, and its policies with it. -/
def beginCall (dates : Rfc3339) (clock : String → DateTime) (s : Operations) (id : String) :
    Operations × Except OpsError Unit :=
  match s.runs.get id with
  | none => (s, .error (notFound id))
  | some row =>
    match policyMapFromSnapshot dates clock row.policySnapshot row.cutoffSnapshot with
    | .error error => (s, .error error)
    | .ok policies =>
      ({ s with calls := ⟨id, policiesOf policies, .looping 0⟩ :: s.calls }, .ok ())

def store (s : Operations) (id : String) (row : CleanupRow) : Operations :=
  { s with runs := s.runs.insert id row }

def newRow (dates : Rfc3339) (dryRun : Bool) (options : CleanupOptions) (policies : PolicyMap) :
    CleanupRow where
  status := .running
  dryRun := dryRun
  options := options
  policySnapshot := policySnapshot policies
  cutoffSnapshot := cutoffSnapshot dates policies
  scanned := {}
  deleted := {}
  batchesCompleted := 0
  cancelRequested := false

def sameOptions (row : CleanupRow) (dryRun : Bool) (options : CleanupOptions) : Prop :=
  row.dryRun = dryRun ∧ row.options.batchSize = options.batchSize ∧
    row.options.maxBatches = options.maxBatches

instance (row : CleanupRow) (dryRun : Bool) (options : CleanupOptions) :
    Decidable (sameOptions row dryRun options) := inferInstanceAs (Decidable (_ ∧ _))

/-- A repeated start resumes the run with its own policies. -/
def startCleanup (dates : Rfc3339) (now : DateTime) (clock : String → DateTime)
    (freshId : String) (request : CleanupRequest) (s : Operations) :
    Operations × Except OpsError Unit :=
  match validateRequest request with
  | .error error => (s, .error error)
  | .ok options =>
    let id := request.operationId.getD freshId
    match loadPolicyMap s.policies now request.policyKeys with
    | .error error => (s, .error error)
    | .ok policies =>
      match s.runs.get id with
      | none => beginCall dates clock (s.store id (newRow dates request.dryRun options policies)) id
      | some row =>
        if ¬ sameOptions row request.dryRun options then
          (s, .error (.conflict
            "operation_id is already associated with different cleanup options"))
        else
          match row.status with
          | .completed | .cancelled => (s, .ok ())
          | .failed => beginCall dates clock (s.store id (row.edit prepareCleanupRetry)) id
          | .running | .cancelRequested => beginCall dates clock s id

def cancelCleanup (s : Operations) (id : String) : Operations × Except OpsError Unit :=
  match s.runs.get id with
  | none => (s, .error (notFound id))
  | some row => (s.store id (row.edit Retention.cancelCleanup), .ok ())

def retryCleanup (dates : Rfc3339) (clock : String → DateTime) (s : Operations) (id : String) :
    Operations × Except OpsError Unit :=
  match s.runs.get id with
  | none => (s, .error (notFound id))
  | some row =>
    match row.status with
    | .completed => (s, .ok ())
    | .running | .failed | .cancelRequested | .cancelled =>
      beginCall dates clock (s.store id (row.edit prepareCleanupRetry)) id

end Operations

/-- A call of the operation makes its next statement. -/
structure Round (id : String) (s s' : Operations) : Prop where
  moved : ∃ call row run invocation, call.operationId = id ∧ s.runs.get id = some row ∧
    runCleanup s.tables (row.run call.policies) call.invocation = (s'.tables, run, invocation) ∧
    Moves call { call with invocation := invocation } s.calls s'.calls ∧
    s'.runs = s.runs.insert id (row.update run) ∧ s'.policies = s.policies

/-- What can happen: requests at any time, a start that finds its row created meanwhile and resumes
it, statements of the calls at work, a call that fails or is cut off, new retention policies, and
changes of the retained tables by others. -/
inductive OperationsStep (dates : Rfc3339) (s s' : Operations) : Prop where
  | start (now : DateTime) (clock : String → DateTime) (freshId : String)
      (request : CleanupRequest) (h : s' = (s.startCleanup dates now clock freshId request).1)
  | cancel (id : String) (h : s' = (s.cancelCleanup id).1)
  | retry (clock : String → DateTime) (id : String) (h : s' = (s.retryCleanup dates clock id).1)
  | resume (clock : String → DateTime) (id : String) (h : s' = (s.beginCall dates clock id).1)
  | round (id : String) (h : Round id s s')
  | fail {call : Call} {row : CleanupRow} {calls : List Call}
      (hMoves : Moves call { call with invocation := .returned } s.calls calls)
      (hRow : s.runs.get call.operationId = some row)
      (h : s' = { s.store call.operationId (row.edit markCleanupFailed) with calls := calls })
  | drop {call : Call} {calls : List Call}
      (hMoves : Moves call { call with invocation := .returned } s.calls calls)
      (h : s' = { s with calls := calls })
  | policies (stored : RetentionPolicies) (h : s' = { s with policies := stored })
  | others (t : Tables) (h : s' = { s with tables := t })

/-- No cleanup has been asked for yet. -/
def opened (t : Tables) (stored : RetentionPolicies) : Operations := ⟨t, stored, .empty, []⟩

/-! ## What a step leaves of the snapshots -/

/-- The policies of a call, as it read them back from the row of its operation. -/
def Decoded (dates : Rfc3339) (s : Operations) (call : Call) : Prop :=
  ∃ row clock found, s.runs.get call.operationId = some row ∧
    policyMapFromSnapshot dates clock row.policySnapshot row.cutoffSnapshot = .ok found ∧
    call.policies = policiesOf found

/-- Rows keep their snapshots, and a call has the policies of an old one or those of its row. -/
structure Effect (dates : Rfc3339) (s s' : Operations) : Prop where
  rows : ∀ id row, s.runs.get id = some row → ∃ row', s'.runs.get id = some row' ∧
    row'.policySnapshot = row.policySnapshot ∧ row'.cutoffSnapshot = row.cutoffSnapshot
  calls : ∀ call ∈ s'.calls, (∃ old ∈ s.calls, old.operationId = call.operationId ∧
    old.policies = call.policies) ∨ Decoded dates s' call

namespace Effect

variable {dates : Rfc3339} {s s' s'' : Operations} {id : String} {row : CleanupRow}

theorem of_same (hRuns : s'.runs = s.runs) (hCalls : s'.calls = s.calls) : Effect dates s s' where
  rows _ row hRow := ⟨row, hRuns ▸ hRow, rfl, rfl⟩
  calls call hCall := .inl ⟨call, hCalls ▸ hCall, rfl, rfl⟩

theorem trans (h : Effect dates s s') (h' : Effect dates s' s'') : Effect dates s s'' where
  rows id row hRow := by
    obtain ⟨row', hRow', hPolicies', hCutoffs'⟩ := h.rows id row hRow
    obtain ⟨row'', hRow'', hPolicies'', hCutoffs''⟩ := h'.rows id row' hRow'
    exact ⟨row'', hRow'', hPolicies''.trans hPolicies', hCutoffs''.trans hCutoffs'⟩
  calls call hCall := by
    obtain ⟨old, hOld, hId, hSame⟩ | hDecoded := h'.calls call hCall
    · obtain ⟨first, hFirst, hFirstId, hFirstSame⟩ | ⟨row, clock, found, hRow, hFound, hPolicies⟩ :=
        h.calls old hOld
      · exact .inl ⟨first, hFirst, hFirstId.trans hId, hFirstSame.trans hSame⟩
      · obtain ⟨row', hRow', hPolicies', hCutoffs'⟩ := h'.rows _ row hRow
        refine .inr ⟨row', clock, found, hId ▸ hRow', ?_, hSame ▸ hPolicies⟩
        rw [hPolicies', hCutoffs']
        exact hFound
    · exact .inr hDecoded

/-- A row is stored again with the snapshots it had. -/
theorem of_store {row' : CleanupRow} (hRow : s.runs.get id = some row)
    (hPolicies : row'.policySnapshot = row.policySnapshot)
    (hCutoffs : row'.cutoffSnapshot = row.cutoffSnapshot) : Effect dates s (s.store id row') where
  rows id' old hOld := by
    rcases Decidable.em (id' = id) with rfl | hOther
    · obtain rfl := Option.some.inj (hRow.symm.trans hOld)
      refine ⟨row', ?_, hPolicies, hCutoffs⟩
      rw [Operations.store, Table.get_insert, if_pos rfl]
    · refine ⟨old, ?_, rfl, rfl⟩
      rw [Operations.store, Table.get_insert, if_neg hOther]
      exact hOld
  calls call hCall := .inl ⟨call, hCall, rfl, rfl⟩

theorem of_new (hNew : s.runs.get id = none) (row' : CleanupRow) :
    Effect dates s (s.store id row') where
  rows id' old hOld := by
    have hOther : id' ≠ id := by
      rintro rfl
      rw [hNew] at hOld
      cases hOld
    refine ⟨old, ?_, rfl, rfl⟩
    rw [Operations.store, Table.get_insert, if_neg hOther]
    exact hOld
  calls call hCall := .inl ⟨call, hCall, rfl, rfl⟩

/-- The calls move on, their operations and policies stay. -/
theorem of_moves {call : Call} {invocation : Invocation} (hRuns : s'.runs = s.runs)
    (hMoves : Moves call { call with invocation := invocation } s.calls s'.calls) :
    Effect dates s s' where
  rows _ row hRow := ⟨row, hRuns ▸ hRow, rfl, rfl⟩
  calls other hOther := by
    obtain rfl | hOld := hMoves.mem hOther
    · exact .inl ⟨call, hMoves.mem_old, rfl, rfl⟩
    · exact .inl ⟨other, hOld, rfl, rfl⟩

theorem of_beginCall (dates : Rfc3339) (clock : String → DateTime) (s : Operations) (id : String) :
    Effect dates s (s.beginCall dates clock id).1 := by
  unfold Operations.beginCall
  split
  · exact of_same rfl rfl
  · next row hRow =>
    split
    · exact of_same rfl rfl
    · next found hFound =>
      constructor
      · intro other old hOld
        exact ⟨old, hOld, rfl, rfl⟩
      · intro call hCall
        obtain rfl | hOld := List.mem_cons.mp hCall
        · exact .inr ⟨row, clock, found, hRow, hFound, rfl⟩
        · exact .inl ⟨call, hOld, rfl, rfl⟩

theorem of_startCleanup (dates : Rfc3339) (now : DateTime) (clock : String → DateTime)
    (freshId : String) (request : CleanupRequest) (s : Operations) :
    Effect dates s (s.startCleanup dates now clock freshId request).1 := by
  unfold Operations.startCleanup
  split
  · exact of_same rfl rfl
  · dsimp only
    split
    · exact of_same rfl rfl
    · split
      · next hNew => exact (of_new hNew _).trans (of_beginCall dates clock _ _)
      · next row hRow =>
        split
        · exact of_same rfl rfl
        · split
          · exact of_same rfl rfl
          · exact of_same rfl rfl
          · have hRetried : Effect dates s (s.store _ (row.edit prepareCleanupRetry)) :=
              of_store hRow rfl rfl
            exact hRetried.trans (of_beginCall dates clock _ _)
          · exact of_beginCall dates clock s _
          · exact of_beginCall dates clock s _

theorem of_cancelCleanup (dates : Rfc3339) (s : Operations) (id : String) :
    Effect dates s (s.cancelCleanup id).1 := by
  unfold Operations.cancelCleanup
  split
  · exact of_same rfl rfl
  · next row hRow => exact of_store hRow rfl rfl

theorem of_retryCleanup (dates : Rfc3339) (clock : String → DateTime) (s : Operations)
    (id : String) : Effect dates s (s.retryCleanup dates clock id).1 := by
  unfold Operations.retryCleanup
  split
  · exact of_same rfl rfl
  · next row hRow =>
    have hRetried : Effect dates s (s.store id (row.edit prepareCleanupRetry)) :=
      of_store hRow rfl rfl
    have hBegun := hRetried.trans (of_beginCall dates clock _ id)
    split
    · exact of_same rfl rfl
    · exact hBegun
    · exact hBegun
    · exact hBegun
    · exact hBegun

end Effect

theorem effect_step {dates : Rfc3339} {s s' : Operations} (h : OperationsStep dates s s') :
    Effect dates s s' := by
  cases h with
  | start now clock freshId request h =>
    rw [h]
    exact .of_startCleanup dates now clock freshId request s
  | cancel id h =>
    rw [h]
    exact .of_cancelCleanup dates s id
  | retry clock id h =>
    rw [h]
    exact .of_retryCleanup dates clock s id
  | resume clock id h =>
    rw [h]
    exact .of_beginCall dates clock s id
  | round id h =>
    obtain ⟨call, row, run, invocation, -, hRow, -, hMoves, hRuns, -⟩ := h.moved
    have hStored : Effect dates s (s.store id (row.update run)) := .of_store hRow rfl rfl
    exact hStored.trans (.of_moves hRuns hMoves)
  | @fail call row calls hMoves hRow h =>
    rw [h]
    have hStored : Effect dates s (s.store call.operationId (row.edit markCleanupFailed)) :=
      .of_store hRow rfl rfl
    exact hStored.trans (.of_moves rfl hMoves)
  | drop hMoves h =>
    rw [h]
    exact .of_moves rfl hMoves
  | policies stored h =>
    rw [h]
    exact .of_same rfl rfl
  | others t h =>
    rw [h]
    exact .of_same rfl rfl

theorem effect_run {dates : Rfc3339} {s s' : Operations}
    (h : ReflTransGen (OperationsStep dates) s s') : Effect dates s s' := by
  induction h with
  | refl => exact .of_same rfl rfl
  | tail _ hStep ih => exact ih.trans (effect_step hStep)

/-! ## The policies a run was created with -/

/-- A request creates the run of an identifier with these policies. -/
structure Created (dates : Rfc3339) (now : DateTime) (id : String) (policies : PolicyMap)
    (s s' : Operations) : Prop where
  absent : s.runs.get id = none
  loaded : ∃ clock freshId request options, request.operationId.getD freshId = id ∧
    validateRequest request = .ok options ∧
    loadPolicyMap s.policies now request.policyKeys = .ok policies ∧
    s' = (s.startCleanup dates now clock freshId request).1

/-- The row has the snapshots of these policies, and calls of it act on them. -/
structure FrozenPolicies (dates : Rfc3339) (id : String) (policies : PolicyMap) (s : Operations) :
    Prop where
  row : ∃ row, s.runs.get id = some row ∧ row.policySnapshot = policySnapshot policies ∧
    row.cutoffSnapshot = cutoffSnapshot dates policies
  calls : ∀ call ∈ s.calls, call.operationId = id → ∀ key,
    enabledPolicy call.policies key = enabledPolicy (policiesOf policies) key

/-- A call works on a row that is there. -/
def CallsHaveRows (s : Operations) : Prop :=
  ∀ call ∈ s.calls, (s.runs.get call.operationId).isSome = true

theorem CallsHaveRows.effect {dates : Rfc3339} {s s' : Operations} (h : CallsHaveRows s)
    (hEffect : Effect dates s s') : CallsHaveRows s' := by
  intro call hCall
  obtain ⟨old, hOld, hId, -⟩ | ⟨row, -, -, hRow, -⟩ := hEffect.calls call hCall
  · obtain ⟨row, hRow⟩ := Option.isSome_iff_exists.mp (h old hOld)
    obtain ⟨row', hRow', -⟩ := hEffect.rows _ row hRow
    rw [← hId, hRow']
    rfl
  · rw [hRow]
    rfl

section Frozen

variable {dates : Rfc3339} {now : DateTime} {id : String} {policies : PolicyMap}
  {s s' : Operations}

theorem checked_of_created (h : Created dates now id policies s s') : Checked policies := by
  obtain ⟨clock, freshId, request, options, -, -, hLoaded, -⟩ := h.loaded
  exact checked_of_loadPolicyMap hLoaded

/-- What a call reads back is what was stored, so its policies are those of the row. -/
theorem enabledPolicy_of_decoded (hDates : dates.Lawful) (hChecked : Checked policies)
    {call : Call} {row : CleanupRow} (hRow : s.runs.get call.operationId = some row)
    (hPolicies : row.policySnapshot = policySnapshot policies)
    (hCutoffs : row.cutoffSnapshot = cutoffSnapshot dates policies)
    (hDecoded : Decoded dates s call) (key : RetentionKey) :
    enabledPolicy call.policies key = enabledPolicy (policiesOf policies) key := by
  obtain ⟨row', clock, found, hRow', hFound, hCall⟩ := hDecoded
  obtain rfl := Option.some.inj (hRow.symm.trans hRow')
  rw [hPolicies, hCutoffs] at hFound
  rw [hCall]
  exact enabledPolicy_of_readBack (get_of_policyMapFromSnapshot hDates hChecked hFound) key

theorem FrozenPolicies.effect (hDates : dates.Lawful) (hChecked : Checked policies)
    (h : FrozenPolicies dates id policies s) (hEffect : Effect dates s s') :
    FrozenPolicies dates id policies s' := by
  obtain ⟨row, hRow, hPolicies, hCutoffs⟩ := h.row
  obtain ⟨row', hRow', hPolicies', hCutoffs'⟩ := hEffect.rows id row hRow
  constructor
  · exact ⟨row', hRow', hPolicies'.trans hPolicies, hCutoffs'.trans hCutoffs⟩
  · intro call hCall hId key
    obtain ⟨old, hOld, hOldId, hSame⟩ | hDecoded := hEffect.calls call hCall
    · rw [← hSame]
      exact h.calls old hOld (hOldId.trans hId) key
    · subst hId
      exact enabledPolicy_of_decoded hDates hChecked hRow' (hPolicies'.trans hPolicies)
        (hCutoffs'.trans hCutoffs) hDecoded key

theorem startCleanup_of_absent {clock : String → DateTime} {freshId : String}
    {request : CleanupRequest} {options : CleanupOptions}
    (hId : request.operationId.getD freshId = id) (hOptions : validateRequest request = .ok options)
    (hLoaded : loadPolicyMap s.policies now request.policyKeys = .ok policies)
    (hAbsent : s.runs.get id = none) :
    s.startCleanup dates now clock freshId request =
      (s.store id (Operations.newRow dates request.dryRun options policies)).beginCall dates
        clock id := by
  unfold Operations.startCleanup
  simp only [hOptions, hLoaded, hId, hAbsent]

/-- No call was there before, and those that are there now have read the new row. -/
theorem frozenPolicies_of_created (hDates : dates.Lawful) (hRows : CallsHaveRows s)
    (h : Created dates now id policies s s') : FrozenPolicies dates id policies s' := by
  have hChecked := checked_of_created h
  obtain ⟨clock, freshId, request, options, hId, hOptions, hLoaded, hStart⟩ := h.loaded
  rw [startCleanup_of_absent hId hOptions hLoaded h.absent] at hStart
  have hStored : FrozenPolicies dates id policies
      (s.store id (Operations.newRow dates request.dryRun options policies)) := by
    constructor
    · refine ⟨Operations.newRow dates request.dryRun options policies, ?_, rfl, rfl⟩
      rw [Operations.store, Table.get_insert, if_pos rfl]
    · intro call hCall hCallId
      have hSome := hRows call hCall
      rw [hCallId, h.absent] at hSome
      cases hSome
  rw [hStart]
  exact hStored.effect hDates hChecked (.of_beginCall dates clock _ id)

theorem FrozenPolicies.allowed (h : FrozenPolicies dates id policies s) (hRound : Round id s s') :
    Allowed (policiesOf policies) s.tables s'.tables := by
  obtain ⟨call, row, run, invocation, hId, hRow, hNext, hMoves, -, -⟩ := hRound.moved
  have hAllowed := allowed_runCleanup s.tables (row.run call.policies) call.invocation
  rw [hNext] at hAllowed
  exact hAllowed.congr (h.calls call hMoves.mem_old hId)

end Frozen

/-- Whatever is read back from the snapshots has the enabled policies that were stored. -/
structure Restored (clock : String → DateTime) (policies found : PolicyMap) : Prop where
  all : ∀ key, found.get key = (policies.get key).map (DatedPolicy.readBack (clock key))
  enabled : ∀ key policy, policy.enabled = true →
    (found.get key = some policy ↔ policies.get key = some policy)

theorem restored_of_policyMapFromSnapshot {dates : Rfc3339} {clock : String → DateTime}
    {policies found : PolicyMap} (hDates : dates.Lawful) (hChecked : Checked policies)
    (h : policyMapFromSnapshot dates clock (policySnapshot policies)
      (cutoffSnapshot dates policies) = .ok found) : Restored clock policies found := by
  have hAll := get_of_policyMapFromSnapshot hDates hChecked h
  refine ⟨hAll, ?_⟩
  intro key policy hEnabled
  rw [hAll key]
  constructor
  · intro hFound
    obtain ⟨stored, hStored, rfl⟩ := Option.map_eq_some_iff.mp hFound
    rw [hStored, stored.readBack_of_enabled (stored.enabled_of_readBack hEnabled)]
  · intro hStored
    rw [hStored, Option.map_some, policy.readBack_of_enabled hEnabled]

/-- A run deletes what its own policies let it delete, at any later time and after any other
requests, and its snapshots still say what these policies were.  They can be read as long as the
clock had a year of four digits when the run was created. -/
theorem cleanup_keeps_frozen_policies {dates : Rfc3339} (hDates : dates.Lawful) (t : Tables)
    (stored : RetentionPolicies) {now : DateTime} {id : String} {policies : PolicyMap}
    {s₀ s₁ s : Operations} (hBefore : ReflTransGen (OperationsStep dates) (opened t stored) s₀)
    (hCreated : Created dates now id policies s₀ s₁)
    (hAfter : ReflTransGen (OperationsStep dates) s₁ s) :
    (∀ s', Round id s s' → Allowed (policiesOf policies) s.tables s'.tables) ∧
    ∃ row, s.runs.get id = some row ∧
      (∀ clock found, policyMapFromSnapshot dates clock row.policySnapshot row.cutoffSnapshot =
        .ok found → Restored clock policies found) ∧
      (0 ≤ now ∧ HasFourDigitYear now → ∀ clock, ∃ found,
        policyMapFromSnapshot dates clock row.policySnapshot row.cutoffSnapshot = .ok found) := by
  have hChecked := checked_of_created hCreated
  have hRows : CallsHaveRows s₀ := by
    refine CallsHaveRows.effect ?_ (effect_run hBefore)
    intro call hCall
    cases hCall
  have hFrozen := (frozenPolicies_of_created hDates hRows hCreated).effect hDates hChecked
    (effect_run hAfter)
  obtain ⟨row, hRow, hPolicies, hCutoffs⟩ := hFrozen.row
  refine ⟨fun s' hRound => hFrozen.allowed hRound, row, hRow, ?_, ?_⟩
  · intro clock found hFound
    rw [hPolicies, hCutoffs] at hFound
    exact restored_of_policyMapFromSnapshot hDates hChecked hFound
  · intro hClock clock
    obtain ⟨_, _, request, _, -, -, hLoaded, -⟩ := hCreated.loaded
    rw [hPolicies, hCutoffs]
    refine policyMapFromSnapshot_ok hDates hChecked ?_
    intro key policy hGet hEnabled
    exact hasFourDigitYear_of_loadPolicyMap hLoaded hClock hGet

/-! ## A cleanup of one event -/

/-- The instant 100 s after the epoch as it is written, and others as longer texts. -/
def epochDates : Rfc3339 where
  write instant := "1970-01-01T00:01:40+00:00" ++
    String.ofList (List.replicate (Equiv.intEquivNat (instant - 100000000)) '+')
  read text := some (Equiv.intEquivNat.symm (text.length - 25) + 100000000)

theorem epochDates_lawful : epochDates.Lawful := by
  have hLength : ∀ n, ("1970-01-01T00:01:40+00:00" ++
      String.ofList (List.replicate n '+')).length = 25 + n := by
    intro n
    rw [String.length_append, String.length_ofList, String.length_ofList, List.length_replicate]
    rfl
  have hRead : ∀ instant, epochDates.read (epochDates.write instant) = some instant := by
    intro instant
    dsimp only [epochDates]
    rw [hLength, Nat.add_sub_cancel_left, Equiv.symm_apply_apply, Int.sub_add_cancel]
  constructor
  · intro instant found hFound
    rw [hRead] at hFound
    exact (Option.some.inj hFound).symm
  · intro instant _
    rw [hRead]
    rfl

def ninetyDays : RetentionPolicies where
  rows := [⟨"audit", 90, false⟩, ⟨"usage_attempts", 90, true⟩, ⟨"usage_events", 90, true⟩]
  keys := by decide
  checked := by decide

/-- Ninety days after the instant that is written as it is. -/
def ninetyDaysLater : DateTime := 90 * 86400000000 + 100000000

/-- The first policy is disabled and has a cutoff of its own. -/
def ninetyDaysBack (now clock : DateTime) : PolicyMap :=
  ((Table.empty.insert "audit" ⟨⟨false, daysBefore clock 90⟩, 90⟩).insert "usage_attempts"
    ⟨⟨true, daysBefore now 90⟩, 90⟩).insert "usage_events" ⟨⟨true, daysBefore now 90⟩, 90⟩

def tenByTen : CleanupOptions := ⟨10, 10, by decide, by decide⟩

def beforeCleanup : Operations := opened (oneEvent oneAttempt oneAttempt_owned) ninetyDays

/-- The run is there, and its call has read it back an hour later. -/
def createdCleanup : Operations :=
  (beforeCleanup.startCleanup epochDates ninetyDaysLater (fun _ => ninetyDaysLater + 3600000000) ""
    ⟨false, 10, 10, some "cleanup", none⟩).1

theorem created_createdCleanup : Created epochDates ninetyDaysLater "cleanup"
    (ninetyDaysBack ninetyDaysLater ninetyDaysLater) beforeCleanup createdCleanup where
  absent := rfl
  loaded := ⟨fun _ => ninetyDaysLater + 3600000000, "", ⟨false, 10, 10, some "cleanup", none⟩,
    tenByTen, rfl, rfl, rfl, rfl⟩

/-- The only call makes its next statement. -/
def Operations.afterStatement (s : Operations) (call : Call) (row : CleanupRow) : Operations :=
  let next := runCleanup s.tables (row.run call.policies) call.invocation
  ⟨next.1, s.policies, s.runs.insert call.operationId (row.update next.2.1),
    [{ call with invocation := next.2.2 }]⟩

theorem Operations.round_afterStatement {s : Operations} {call : Call} {row : CleanupRow}
    (hCalls : s.calls = [call]) (hRow : s.runs.get call.operationId = some row) :
    Round call.operationId s (s.afterStatement call row) := by
  refine ⟨call, row, _, _, rfl, hRow, rfl, ?_, rfl, rfl⟩
  rw [hCalls]
  exact .at [] []

def createdCall : Call where
  operationId := "cleanup"
  policies := policiesOf (ninetyDaysBack ninetyDaysLater (ninetyDaysLater + 3600000000))
  invocation := .looping 0

def createdRow : CleanupRow :=
  Operations.newRow epochDates false tenByTen (ninetyDaysBack ninetyDaysLater ninetyDaysLater)

theorem cleanup_keeps_frozen_policies_ninetyDays :
    ∃ s', Round "cleanup" createdCleanup s' ∧ s'.tables.usageEvents.rows = [] ∧
      Allowed (policiesOf (ninetyDaysBack ninetyDaysLater ninetyDaysLater)) createdCleanup.tables
        s'.tables := by
  have hCalls : createdCleanup.calls = [createdCall] := by rfl
  have hRow : createdCleanup.runs.get createdCall.operationId = some createdRow := by rfl
  have hRound := Operations.round_afterStatement hCalls hRow
  refine ⟨_, hRound, by decide, ?_⟩
  exact (cleanup_keeps_frozen_policies epochDates_lawful (oneEvent oneAttempt (by decide))
    ninetyDays .refl created_createdCleanup .refl).1 _ hRound

end AiGateway.Retention
