import AiGateway.Base.Batches
import AiGateway.Base.Concurrent

/-!
# Retention cleanup

The retained tables, the rows a policy lets go, and a cleanup run: a row of its
own whose counters every batch adds to, worked on by calls that may be cut off
and repeated.  Deleting a usage event takes its attempts with it.
-/

namespace AiGateway.Retention

set_option autoImplicit false

open AiGateway.Concurrent Relation

structure UsageEvent where
  id : ℕ
  requestId : String
  createdAt : Int
deriving DecidableEq

structure UsageAttempt where
  id : ℕ
  requestId : String
  createdAt : Int
deriving DecidableEq

/-- A row of another retained table, with the instant its policy looks at. -/
structure Dated where
  id : ℕ
  stamp : Int
deriving DecidableEq

structure Tables where
  usageEvents : Stored UsageEvent.id
  usageAttempts : Stored UsageAttempt.id
  auditLogs : Stored Dated.id
  sourceConnectionTests : Stored Dated.id
  accountHealthEvents : Stored Dated.id
  sourceDiscoveryRuns : Stored Dated.id
  systemEvents : Stored Dated.id
  requestUnique : ∀ e ∈ usageEvents.rows, ∀ e' ∈ usageEvents.rows,
    e.requestId = e'.requestId → e = e'
  references : ∀ a ∈ usageAttempts.rows, ∃ e ∈ usageEvents.rows, e.requestId = a.requestId

/-! ## Policies and candidates -/

inductive RetentionKey where
  | usageEvents
  | usageAttempts
  | audit
  | discovery
  | systemEvents
deriving DecidableEq

structure PolicyState where
  enabled : Bool
  cutoff : Int
deriving DecidableEq

abbrev Policies := RetentionKey → Option PolicyState

def enabledPolicy (policies : Policies) (key : RetentionKey) : Option PolicyState :=
  (policies key).filter (·.enabled)

inductive AttemptGuard where
  | eligibleBefore (cutoff : Int)
  | keepAll
deriving DecidableEq

def attemptGuard (policies : Policies) : AttemptGuard :=
  match enabledPolicy policies .usageAttempts with
  | some policy => .eligibleBefore policy.cutoff
  | none => .keepAll

/-- Whether an attempt keeps its event. -/
def AttemptGuard.blocks : AttemptGuard → UsageAttempt → Bool
  | .eligibleBefore cutoff, a => decide (cutoff ≤ a.createdAt)
  | .keepAll, _ => true

def expiredAttempt (cutoff : Int) (a : UsageAttempt) : Bool := decide (a.createdAt < cutoff)

def expiredEvent (attempts : List UsageAttempt) (guard : AttemptGuard) (cutoff : Int)
    (e : UsageEvent) : Bool :=
  decide (e.createdAt < cutoff) &&
    !attempts.any fun a => a.requestId == e.requestId && guard.blocks a

def expired (cutoff : Int) (r : Dated) : Bool := decide (r.stamp < cutoff)

@[ext]
structure CleanupCounts where
  usageEvents : ℕ := 0
  usageAttempts : ℕ := 0
  audit : ℕ := 0
  discovery : ℕ := 0
  systemEvents : ℕ := 0
deriving DecidableEq

def CleanupCounts.total (c : CleanupCounts) : ℕ :=
  c.usageEvents + c.usageAttempts + c.audit + c.discovery + c.systemEvents

def CleanupCounts.plus (c d : CleanupCounts) : CleanupCounts where
  usageEvents := c.usageEvents + d.usageEvents
  usageAttempts := c.usageAttempts + d.usageAttempts
  audit := c.audit + d.audit
  discovery := c.discovery + d.discovery
  systemEvents := c.systemEvents + d.systemEvents

/-- A count taken only under an enabled policy. -/
def countEnabled (policies : Policies) (key : RetentionKey) (count : Int → ℕ) : ℕ :=
  match enabledPolicy policies key with
  | some policy => count policy.cutoff
  | none => 0

def countCandidates (policies : Policies) (t : Tables) : CleanupCounts where
  usageAttempts := countEnabled policies .usageAttempts fun cutoff =>
    (t.usageAttempts.rows.filter (expiredAttempt cutoff)).length
  usageEvents := countEnabled policies .usageEvents fun cutoff =>
    (t.usageEvents.rows.filter
      (expiredEvent t.usageAttempts.rows (attemptGuard policies) cutoff)).length
  audit := countEnabled policies .audit fun cutoff =>
    (t.auditLogs.rows.filter (expired cutoff)).length +
      (t.sourceConnectionTests.rows.filter (expired cutoff)).length +
      (t.accountHealthEvents.rows.filter (expired cutoff)).length
  discovery := countEnabled policies .discovery fun cutoff =>
    (t.sourceDiscoveryRuns.rows.filter (expired cutoff)).length
  systemEvents := countEnabled policies .systemEvents fun cutoff =>
    (t.systemEvents.rows.filter (expired cutoff)).length

/-! ## One batch -/

def deleteAttemptBatch (batchSize : ℕ) (cutoff : Int) (t : Tables) : Tables × ℕ :=
  let doomed := t.usageAttempts.batch (expiredAttempt cutoff) batchSize
  ({ t with
      usageAttempts := t.usageAttempts.delete (doomed.map UsageAttempt.id)
      references := fun a ha => t.references a (Stored.mem_delete.mp ha).1 }, doomed.length)

/-- Whether one of the events has this request. -/
def ofRequest (events : List UsageEvent) (a : UsageAttempt) : Bool :=
  events.any (·.requestId == a.requestId)

theorem references_cascade {t : Tables} {doomed : List UsageEvent}
    (hDoomed : ∀ e ∈ doomed, e ∈ t.usageEvents.rows) {a : UsageAttempt}
    (ha : a ∈ (t.usageAttempts.keep fun a => !ofRequest doomed a).rows) :
    ∃ e ∈ (t.usageEvents.delete (doomed.map UsageEvent.id)).rows, e.requestId = a.requestId := by
  obtain ⟨hStored, hKept⟩ := List.mem_filter.mp ha
  obtain ⟨e, he, hRequest⟩ := t.references a hStored
  refine ⟨e, Stored.mem_delete.mpr ⟨he, ?_⟩, hRequest⟩
  intro hMem
  obtain ⟨e', he', hId⟩ := List.mem_map.mp hMem
  have hSame : e' = e := Stored.eq_of_key (hDoomed e' he') he hId
  subst hSame
  have hOf : ofRequest doomed a = true := List.any_eq_true.mpr ⟨e', he', by simp [hRequest]⟩
  rw [hOf] at hKept
  exact Bool.noConfusion hKept

/-- The attempts of the deleted events go too, and are not counted. -/
def deleteEventBatch (guard : AttemptGuard) (batchSize : ℕ) (cutoff : Int) (t : Tables) :
    Tables × ℕ :=
  let doomed := t.usageEvents.batch (expiredEvent t.usageAttempts.rows guard cutoff) batchSize
  ({ t with
      usageEvents := t.usageEvents.delete (doomed.map UsageEvent.id)
      usageAttempts := t.usageAttempts.keep fun a => !ofRequest doomed a
      requestUnique := fun e he e' he' => t.requestUnique e (Stored.mem_delete.mp he).1 e'
        (Stored.mem_delete.mp he').1
      references := fun _ ha => references_cascade
        (fun _ he => (List.mem_filter.mp (List.mem_of_mem_take he)).1) ha }, doomed.length)

/-- Deletes the first expired rows of a table. -/
def deleteDated (batchSize : ℕ) (cutoff : Int) (s : Stored Dated.id) : Stored Dated.id × ℕ :=
  let doomed := s.batch (expired cutoff) batchSize
  (s.delete (doomed.map Dated.id), doomed.length)

def deleteAuditBatch (batchSize : ℕ) (cutoff : Int) (t : Tables) : Tables × ℕ :=
  let logs := deleteDated batchSize cutoff t.auditLogs
  let tests := deleteDated batchSize cutoff t.sourceConnectionTests
  let health := deleteDated batchSize cutoff t.accountHealthEvents
  ({ t with
      auditLogs := logs.1
      sourceConnectionTests := tests.1
      accountHealthEvents := health.1 }, logs.2 + tests.2 + health.2)

def deleteDiscoveryBatch (batchSize : ℕ) (cutoff : Int) (t : Tables) : Tables × ℕ :=
  let runs := deleteDated batchSize cutoff t.sourceDiscoveryRuns
  ({ t with sourceDiscoveryRuns := runs.1 }, runs.2)

def deleteSystemEventsBatch (batchSize : ℕ) (cutoff : Int) (t : Tables) : Tables × ℕ :=
  let events := deleteDated batchSize cutoff t.systemEvents
  ({ t with systemEvents := events.1 }, events.2)

/-- A deletion made only under an enabled policy. -/
def ifEnabled (policies : Policies) (key : RetentionKey) (delete : Int → Tables → Tables × ℕ)
    (t : Tables) : Tables × ℕ :=
  match enabledPolicy policies key with
  | some policy => delete policy.cutoff t
  | none => (t, 0)

/-- The deletions of one cleanup transaction. -/
def deleteBatch (policies : Policies) (batchSize : ℕ) (t : Tables) : Tables × CleanupCounts :=
  let attempts := ifEnabled policies .usageAttempts (deleteAttemptBatch batchSize) t
  let events := ifEnabled policies .usageEvents
    (deleteEventBatch (attemptGuard policies) batchSize) attempts.1
  let audit := ifEnabled policies .audit (deleteAuditBatch batchSize) events.1
  let discovery := ifEnabled policies .discovery (deleteDiscoveryBatch batchSize) audit.1
  let system := ifEnabled policies .systemEvents (deleteSystemEventsBatch batchSize) discovery.1
  (system.1, {
    usageAttempts := attempts.2
    usageEvents := events.2
    audit := audit.2
    discovery := discovery.2
    systemEvents := system.2 })

/-! ## Runs -/

inductive Status where
  | running
  | completed
  | failed
  | cancelRequested
  | cancelled
deriving DecidableEq

def maxBatchSize : ℕ := 10000

def maxMaxBatches : ℕ := 100000

/-- The options a request may carry. -/
structure CleanupOptions where
  batchSize : ℕ
  maxBatches : ℕ
  batchSize_range : 1 ≤ batchSize ∧ batchSize ≤ maxBatchSize
  maxBatches_range : 1 ≤ maxBatches ∧ maxBatches ≤ maxMaxBatches

def validateCleanupRequest (batchSize maxBatches : Int) : Except String CleanupOptions :=
  if hSize : 1 ≤ batchSize ∧ batchSize ≤ maxBatchSize then
    if hMax : 1 ≤ maxBatches ∧ maxBatches ≤ maxMaxBatches then
      .ok ⟨batchSize.toNat, maxBatches.toNat, by omega, by omega⟩
    else .error "max_batches must be between 1 and 100000"
  else .error "batch_size must be between 1 and 10000"

/-- A row of the cleanup runs, with its policy and cutoff snapshots. -/
structure CleanupRun where
  status : Status
  dryRun : Bool
  options : CleanupOptions
  policies : Policies
  scanned : CleanupCounts
  deleted : CleanupCounts
  batchesCompleted : ℕ
  cancelRequested : Bool

def startCleanup (dryRun : Bool) (options : CleanupOptions) (policies : Policies) : CleanupRun where
  status := .running
  dryRun := dryRun
  options := options
  policies := policies
  scanned := {}
  deleted := {}
  batchesCompleted := 0
  cancelRequested := false

def cancelCleanup (run : CleanupRun) : CleanupRun :=
  match run.status with
  | .completed | .cancelled | .failed => run
  | .running | .cancelRequested => { run with status := .cancelRequested, cancelRequested := true }

def prepareCleanupRetry (run : CleanupRun) : CleanupRun :=
  match run.status with
  | .failed | .cancelled | .cancelRequested =>
    { run with status := .running, cancelRequested := false }
  | .running | .completed => run

def markCleanupFailed (run : CleanupRun) : CleanupRun :=
  match run.status with
  | .completed | .cancelled => run
  | .running | .failed | .cancelRequested => { run with status := .failed }

def finishDryRun (t : Tables) (run : CleanupRun) : CleanupRun :=
  match run.status with
  | .completed | .cancelled => run
  | .running | .failed | .cancelRequested =>
    { run with status := .completed, scanned := countCandidates run.policies t }

/-- Where a call of `run_cleanup` stands: before its next round, after the round's transaction,
before the round's last update, or at its end. -/
inductive Invocation where
  | looping (rounds : ℕ)
  | counting (rounds : ℕ) (deleted : CleanupCounts)
  | updating (rounds : ℕ) (deleted : CleanupCounts) (hasMore : Bool)
  | returned
deriving DecidableEq

/-- The transaction of a round: nothing for a run that has ended, a cancellation that was asked
for, else one batch with its counters. -/
def roundTransaction (t : Tables) (run : CleanupRun) (rounds : ℕ) :
    Tables × CleanupRun × Invocation :=
  match run.status with
  | .completed | .failed | .cancelled => (t, run, .returned)
  | .cancelRequested => (t, { run with status := .cancelled }, .returned)
  | .running =>
    if run.cancelRequested then (t, { run with status := .cancelled }, .returned)
    else
      let batch := deleteBatch run.policies run.options.batchSize t
      (batch.1, { run with
        scanned := run.scanned.plus batch.2
        deleted := run.deleted.plus batch.2
        batchesCompleted := run.batchesCompleted + 1 }, .counting rounds batch.2)

def complete (run : CleanupRun) : CleanupRun :=
  match run.status with
  | .running => { run with status := .completed }
  | .completed | .failed | .cancelRequested | .cancelled => run

/-- The next statement of a call. -/
def runCleanup (t : Tables) (run : CleanupRun) : Invocation → Tables × CleanupRun × Invocation
  | .looping rounds =>
    if run.dryRun then (t, finishDryRun t run, .returned)
    else if rounds < run.options.maxBatches then roundTransaction t run rounds
    else (t, run, .returned)
  | .counting rounds deleted =>
    (t, run, .updating rounds deleted (decide (0 < (countCandidates run.policies t).total)))
  | .updating rounds deleted hasMore =>
    (t, if hasMore then run else complete run,
      if deleted.total = 0 then .returned else .looping (rounds + 1))
  | .returned => (t, run, .returned)

structure System where
  tables : Tables
  run : CleanupRun
  calls : List Invocation

/-- What happens to a run: calls of it begin, move on and fail, it is cancelled and retried, and
its own audit entries are written, none of them older than the cutoff. -/
inductive Step (s s' : System) : Prop where
  | enter (hTables : s'.tables = s.tables) (hRun : s'.run = s.run)
      (hCalls : s'.calls = .looping 0 :: s.calls)
  | move {c c' : Invocation} (hMoves : Moves c c' s.calls s'.calls)
      (hNext : runCleanup s.tables s.run c = (s'.tables, s'.run, c'))
  | fail {c : Invocation} (hMoves : Moves c .returned s.calls s'.calls)
      (hTables : s'.tables = s.tables) (hRun : s'.run = markCleanupFailed s.run)
  | cancel (hTables : s'.tables = s.tables) (hRun : s'.run = cancelCleanup s.run)
      (hCalls : s'.calls = s.calls)
  | retry (hTables : s'.tables = s.tables) (hRun : s'.run = prepareCleanupRetry s.run)
      (hCalls : s'.calls = s.calls)
  | appendAudit {row : Dated} (hLater : ∀ r ∈ s.tables.auditLogs.rows, r.id < row.id)
      (hFresh : ∀ policy, enabledPolicy s.run.policies .audit = some policy →
        policy.cutoff ≤ row.stamp)
      (hTables : s'.tables =
        { s.tables with auditLogs := s.tables.auditLogs.append row hLater })
      (hRun : s'.run = s.run) (hCalls : s'.calls = s.calls)

def started (options : CleanupOptions) (policies : Policies) (t : Tables) : System where
  tables := t
  run := startCleanup false options policies
  calls := []

end AiGateway.Retention
