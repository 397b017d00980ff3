import AiGateway.Infra.Frozen

/-!
# Starts of a cleanup, statement by statement

A start reads the row of its operation, inserts one if there is none, and reads it again
if another start was faster.  Between its statements other starts make theirs, and the
runs, cancellations and retries of the operation go on.  A row that is found is compared
with the request by a mode and two bounds.
-/

namespace AiGateway.Retention

set_option autoImplicit false

open AiGateway.Checked AiGateway.Concurrent AiGateway.Health AiGateway.Json AiGateway.Ops
  AiGateway.Text Relation

/-! ## The statements of a start -/

/-- What a start does next. -/
inductive Stage where
  | reading
  | inserting
  | rereading
  | retrying
  | beginning
  | answered
  deriving DecidableEq

inductive Outcome where
  | accepted
  | conflict
  deriving DecidableEq

/-- A request that was found valid, with the policies that were loaded for it. -/
structure Start where
  id : String
  request : CleanupRequest
  options : CleanupOptions
  policies : PolicyMap
  stage : Stage

namespace Start

/-- The comparison of a row that is there, and what comes after it. -/
def judge (start : Start) (row : CleanupRow) (resume : Status → Stage) : Stage × Option Outcome :=
  if ¬Operations.sameOptions row start.request.dryRun start.options then (.answered, some .conflict)
  else
    match row.status with
    | .completed | .cancelled => (.answered, some .accepted)
    | status => (resume status, some .accepted)

/-- A failed run is prepared for a retry before it is resumed. -/
def resumeFound : Status → Stage
  | .failed => .retrying
  | _ => .beginning

/-- After a lost insert a failed run is resumed as it is. -/
def resumeLost (_ : Status) : Stage := .beginning

/-- The state after the next statement, the next stage, and the answer if it is settled now. -/
def statement (dates : Rfc3339) (clock : String → DateTime) (start : Start) (s : Operations) :
    Operations × Stage × Option Outcome :=
  match start.stage with
  | .reading =>
    match s.runs.get start.id with
    | none => (s, .inserting, none)
    | some row => (s, start.judge row resumeFound)
  | .inserting =>
    match s.runs.get start.id with
    | none =>
      (s.store start.id
        (Operations.newRow dates start.request.dryRun start.options start.policies),
        .beginning, some .accepted)
    | some _ => (s, .rereading, none)
  | .rereading =>
    match s.runs.get start.id with
    -- the run was created concurrently, and is gone again
    | none => (s, .answered, some .conflict)
    | some row => (s, start.judge row resumeLost)
  | .retrying =>
    match s.runs.get start.id with
    | none => (s, .beginning, none)
    | some row => (s.store start.id (row.edit prepareCleanupRetry), .beginning, none)
  | .beginning => ((s.beginCall dates clock start.id).1, .answered, none)
  | .answered => (s, .answered, none)

end Start

/-- How a request for an operation was answered. -/
structure Verdict where
  id : String
  request : CleanupRequest
  outcome : Outcome

/-- The operations with the starts at work, and the answers so far, the last one first. -/
structure Starting where
  ops : Operations
  starts : List Start
  verdicts : List Verdict

/-- The start makes its next statement. -/
def Starting.advance (dates : Rfc3339) (clock : String → DateTime) (s : Starting) (start : Start)
    (starts : List Start) : Starting where
  ops := (start.statement dates clock s.ops).1
  starts := starts
  verdicts :=
    ((start.statement dates clock s.ops).2.2.map (Verdict.mk start.id start.request)).toList ++
      s.verdicts

/-- A request comes in, a start makes a statement, or something else happens to the operations. -/
inductive StartingStep (dates : Rfc3339) (s s' : Starting) : Prop where
  | ask (now : DateTime) (freshId : String) (request : CleanupRequest) (options : CleanupOptions)
      (policies : PolicyMap) (hOptions : validateRequest request = .ok options)
      (hPolicies : loadPolicyMap s.ops.policies now request.policyKeys = .ok policies)
      (h : s' = { s with starts :=
        ⟨request.operationId.getD freshId, request, options, policies, .reading⟩ :: s.starts })
  | statement (clock : String → DateTime) (start : Start) (starts : List Start)
      (hMoves : Moves start { start with stage := (start.statement dates clock s.ops).2.1 }
        s.starts starts)
      (h : s' = s.advance dates clock start starts)
  | meanwhile (ops : Operations) (hStep : OperationsStep dates s.ops ops)
      (h : s' = { s with ops := ops })

def idle (t : Tables) (stored : RetentionPolicies) : Starting := ⟨opened t stored, [], []⟩

/-! ## The same cleanup -/

/-- The fields a start compares with a row. -/
structure SameOptions (r r' : CleanupRequest) : Prop where
  dryRun : r.dryRun = r'.dryRun
  batchSize : r.batchSize = r'.batchSize
  maxBatches : r.maxBatches = r'.maxBatches

/-- A request without a list asks for every policy. -/
def CleanupRequest.asksFor (request : CleanupRequest) (key : String) : Prop :=
  key ∈ retentionKeys ∧ ∀ keys ∈ request.policyKeys, key ∈ keys

def SamePolicyKeys (r r' : CleanupRequest) : Prop := ∀ key, r.asksFor key ↔ r'.asksFor key

structure SameCleanup (r r' : CleanupRequest) : Prop where
  options : SameOptions r r'
  keys : SamePolicyKeys r r'

/-! ## Rows keep their options -/

/-- No row goes away, and none gets another mode or other bounds. -/
def KeepsOptions (s s' : Operations) : Prop :=
  ∀ id row, s.runs.get id = some row → ∃ row', s'.runs.get id = some row' ∧
    row'.dryRun = row.dryRun ∧ row'.options = row.options

namespace KeepsOptions

variable {s s' s'' : Operations} {id : String} {row : CleanupRow}

theorem of_same (h : s'.runs = s.runs) : KeepsOptions s s' :=
  fun _ row hRow => ⟨row, h ▸ hRow, rfl, rfl⟩

theorem trans (h : KeepsOptions s s') (h' : KeepsOptions s' s'') : KeepsOptions s s'' := by
  intro id row hRow
  obtain ⟨row', hRow', hDry', hOptions'⟩ := h id row hRow
  obtain ⟨row'', hRow'', hDry'', hOptions''⟩ := h' id row' hRow'
  exact ⟨row'', hRow'', hDry''.trans hDry', hOptions''.trans hOptions'⟩

theorem of_store {row' : CleanupRow} (h : ∀ row, s.runs.get id = some row →
    row'.dryRun = row.dryRun ∧ row'.options = row.options) : KeepsOptions s (s.store id row') := by
  intro other old hOld
  rw [Operations.store, Table.get_insert]
  split
  · next hSame =>
    subst hSame
    obtain ⟨hDry, hOptions⟩ := h old hOld
    exact ⟨row', rfl, hDry, hOptions⟩
  · exact ⟨old, hOld, rfl, rfl⟩

theorem of_new (h : s.runs.get id = none) (row' : CleanupRow) :
    KeepsOptions s (s.store id row') := by
  apply of_store
  intro row hRow
  rw [h] at hRow
  cases hRow

theorem of_update (hRow : s.runs.get id = some row) (run : CleanupRun) :
    KeepsOptions s (s.store id (row.update run)) := by
  apply of_store
  intro old hOld
  obtain rfl := Option.some.inj (hRow.symm.trans hOld)
  exact ⟨rfl, rfl⟩

theorem of_beginCall (dates : Rfc3339) (clock : String → DateTime) (s : Operations) (id : String) :
    KeepsOptions s (s.beginCall dates clock id).1 := by
  apply of_same
  rw [Operations.beginCall]
  split
  · rfl
  · split
    · rfl
    · rfl

theorem of_startCleanup (dates : Rfc3339) (now : DateTime) (clock : String → DateTime)
    (freshId : String) (request : CleanupRequest) (s : Operations) :
    KeepsOptions s (s.startCleanup dates now clock freshId request).1 := by
  rw [Operations.startCleanup]
  split
  · exact of_same rfl
  · dsimp only
    split
    · exact of_same rfl
    · split
      · next hNew => exact (of_new hNew _).trans (of_beginCall dates clock _ _)
      · next row hRow =>
        split
        · exact of_same rfl
        · split
          · exact of_same rfl
          · exact of_same rfl
          · exact (of_update hRow _).trans (of_beginCall dates clock _ _)
          · exact of_beginCall dates clock s _
          · exact of_beginCall dates clock s _

theorem of_cancelCleanup (s : Operations) (id : String) :
    KeepsOptions s (s.cancelCleanup id).1 := by
  rw [Operations.cancelCleanup]
  split
  · exact of_same rfl
  · next row hRow => exact of_update hRow _

theorem of_retryCleanup (dates : Rfc3339) (clock : String → DateTime) (s : Operations)
    (id : String) : KeepsOptions s (s.retryCleanup dates clock id).1 := by
  rw [Operations.retryCleanup]
  split
  · exact of_same rfl
  · next row hRow =>
    have hBegun := (of_update hRow (prepareCleanupRetry (row.run fun _ => none))).trans
      (of_beginCall dates clock _ id)
    split
    · exact of_same rfl
    · exact hBegun
    · exact hBegun
    · exact hBegun
    · exact hBegun

/-- Whatever happens to the operations. -/
theorem of_step {dates : Rfc3339} (h : OperationsStep dates s s') : KeepsOptions s s' := by
  cases h with
  | start now clock freshId request h =>
    rw [h]
    exact of_startCleanup dates now clock freshId request s
  | cancel id h =>
    rw [h]
    exact of_cancelCleanup s id
  | retry clock id h =>
    rw [h]
    exact of_retryCleanup dates clock s id
  | resume clock id h =>
    rw [h]
    exact of_beginCall dates clock s id
  | round id h =>
    obtain ⟨call, row, run, invocation, -, hRow, -, -, hRuns, -⟩ := h.moved
    exact (of_update hRow run).trans (of_same hRuns)
  | @fail call row calls hMoves hRow h =>
    rw [h]
    exact (of_update hRow (markCleanupFailed (row.run fun _ => none))).trans (of_same rfl)
  | drop hMoves h =>
    rw [h]
    exact of_same rfl
  | policies stored h =>
    rw [h]
    exact of_same rfl
  | others t h =>
    rw [h]
    exact of_same rfl

end KeepsOptions

/-! ## One statement of a start -/

/-- The row of an operation was made for this request, or for one like it. -/
structure MadeFor (request : CleanupRequest) (row : CleanupRow) : Prop where
  dryRun : row.dryRun = request.dryRun
  batchSize : (row.options.batchSize : Int) = request.batchSize
  maxBatches : (row.options.maxBatches : Int) = request.maxBatches

theorem MadeFor.sameOptions {r r' : CleanupRequest} {row : CleanupRow} (h : MadeFor r row)
    (h' : MadeFor r' row) : SameOptions r r' where
  dryRun := h.dryRun.symm.trans h'.dryRun
  batchSize := h.batchSize.symm.trans h'.batchSize
  maxBatches := h.maxBatches.symm.trans h'.maxBatches

theorem MadeFor.transfer {r r' : CleanupRequest} {row : CleanupRow} (h : MadeFor r row)
    (hSame : SameOptions r r') : MadeFor r' row where
  dryRun := h.dryRun.trans hSame.dryRun
  batchSize := h.batchSize.trans hSame.batchSize
  maxBatches := h.maxBatches.trans hSame.maxBatches

theorem options_of_validateRequest {request : CleanupRequest} {options : CleanupOptions}
    (h : validateRequest request = .ok options) :
    (options.batchSize : Int) = request.batchSize ∧
      (options.maxBatches : Int) = request.maxBatches := by
  rw [validateRequest] at h
  obtain ⟨found, hFound, hRest⟩ := bind_eq_ok.mp h
  have hSame : found = options := by
    obtain ⟨-, -, hKeys⟩ := bind_eq_ok.mp hRest
    split at hKeys
    · exact Except.ok.inj hKeys
    · obtain ⟨-, -, hReturn⟩ := bind_eq_ok.mp hKeys
      exact Except.ok.inj hReturn
  subst hSame
  rw [mapError_ok, validateCleanupRequest] at hFound
  split at hFound
  · next hSize =>
    split at hFound
    · next hMax =>
      rw [← Except.ok.inj hFound]
      constructor
      · exact Int.toNat_of_nonneg (by omega)
      · exact Int.toNat_of_nonneg (by omega)
    · cases hFound
  · cases hFound

def Start.Valid (start : Start) : Prop := validateRequest start.request = .ok start.options

theorem Start.Valid.sameOptions_iff {start : Start} (h : start.Valid) (row : CleanupRow) :
    Operations.sameOptions row start.request.dryRun start.options ↔ MadeFor start.request row := by
  obtain ⟨hSize, hMax⟩ := options_of_validateRequest h
  constructor
  · rintro ⟨hDry, hRowSize, hRowMax⟩
    exact ⟨hDry, by omega, by omega⟩
  · rintro ⟨hDry, hRowSize, hRowMax⟩
    exact ⟨hDry, by omega, by omega⟩

/-- What a statement does: it keeps the options of every row, and it answers by the row of the
operation as it is after it, with a conflict for want of a row at most. -/
structure Answers (start : Start) (s s' : Operations) (outcome : Option Outcome) : Prop where
  keeps : KeepsOptions s s'
  accepted : outcome = some .accepted →
    ∃ row, s'.runs.get start.id = some row ∧ MadeFor start.request row
  conflict : outcome = some .conflict →
    ∀ row, s'.runs.get start.id = some row → ¬MadeFor start.request row

theorem Start.Valid.answers_judge {start : Start} (h : start.Valid) {s : Operations}
    {row : CleanupRow} (hRow : s.runs.get start.id = some row) (resume : Status → Stage) :
    Answers start s s (start.judge row resume).2 := by
  have hAccepted : MadeFor start.request row → Answers start s s (some .accepted) := by
    intro hMade
    exact ⟨.of_same rfl, fun _ => ⟨row, hRow, hMade⟩, nofun⟩
  rw [Start.judge]
  split
  · next hOther =>
    refine ⟨.of_same rfl, nofun, ?_⟩
    intro _ found hFound
    obtain rfl := Option.some.inj (hRow.symm.trans hFound)
    exact mt (h.sameOptions_iff row).mpr hOther
  · next hSame =>
    have hMade := (h.sameOptions_iff row).mp (not_not.mp hSame)
    split
    · exact hAccepted hMade
    · exact hAccepted hMade
    · exact hAccepted hMade

theorem Start.Valid.answers_statement {start : Start} (h : start.Valid) (dates : Rfc3339)
    (clock : String → DateTime) (s : Operations) :
    Answers start s (start.statement dates clock s).1 (start.statement dates clock s).2.2 := by
  have hAccepted : some Outcome.accepted ≠ some .conflict := by decide
  have hConflict : some Outcome.conflict ≠ some .accepted := by decide
  have hSilent : ∀ {s'}, KeepsOptions s s' → Answers start s s' none := fun hKeeps =>
    ⟨hKeeps, fun hSome => (Option.some_ne_none _ hSome.symm).elim,
      fun hSome => (Option.some_ne_none _ hSome.symm).elim⟩
  rw [Start.statement]
  cases start.stage with
  | reading =>
    dsimp only
    split
    · exact hSilent (.of_same rfl)
    · next row hRow => exact h.answers_judge hRow _
  | inserting =>
    dsimp only
    split
    · next hNew =>
      let row := Operations.newRow dates start.request.dryRun start.options start.policies
      have hStored : (s.store start.id row).runs.get start.id = some row := by
        rw [Operations.store, Table.get_insert, if_pos rfl]
      have hMade : MadeFor start.request row := (h.sameOptions_iff row).mp ⟨rfl, rfl, rfl⟩
      exact ⟨.of_new hNew row, fun _ => ⟨row, hStored, hMade⟩,
        fun hSome => (hAccepted hSome).elim⟩
    · exact hSilent (.of_same rfl)
  | rereading =>
    dsimp only
    split
    · next hNone =>
      refine ⟨.of_same rfl, fun hSome => (hConflict hSome).elim, ?_⟩
      intro _ row hRow
      rw [hNone] at hRow
      cases hRow
    · next row hRow => exact h.answers_judge hRow _
  | retrying =>
    dsimp only
    split
    · exact hSilent (.of_same rfl)
    · next row hRow => exact hSilent (.of_update hRow _)
  | beginning => exact hSilent (.of_beginCall dates clock s start.id)
  | answered => exact hSilent (.of_same rfl)

/-! ## A start that nothing comes between -/

/-- The first of the starts makes its next statement. -/
def Starting.next (dates : Rfc3339) (clock : String → DateTime) (s : Starting) : Starting :=
  match s.starts with
  | [] => s
  | start :: rest =>
    s.advance dates clock start
      ({ start with stage := (start.statement dates clock s.ops).2.1 } :: rest)

theorem run_next (dates : Rfc3339) (clock : String → DateTime) (s : Starting) :
    ReflTransGen (StartingStep dates) s (s.next dates clock) := by
  rw [Starting.next]
  split
  · exact .refl
  · next start rest hStarts =>
    apply ReflTransGen.single
    refine .statement clock start _ ?_ rfl
    rw [hStarts]
    exact .at [] rest

theorem run_statement {dates : Rfc3339} {clock : String → DateTime} {s : Starting} {start : Start}
    {rest : List Start} {ops : Operations} {stage : Stage} {outcome : Option Outcome}
    (hStarts : s.starts = start :: rest)
    (hStatement : start.statement dates clock s.ops = (ops, stage, outcome)) :
    ∃ s', ReflTransGen (StartingStep dates) s s' ∧ s'.ops = ops ∧
      s'.starts = { start with stage := stage } :: rest := by
  refine ⟨s.next dates clock, run_next dates clock s, ?_, ?_⟩
  · rw [Starting.next, hStarts]
    simp only [Starting.advance, hStatement]
  · rw [Starting.next, hStarts]
    simp only [Starting.advance, hStatement]

section Uninterrupted

variable (dates : Rfc3339) (clock : String → DateTime) {s : Starting} {start : Start}
  {rest : List Start} (hStarts : s.starts = start :: rest)

include hStarts

theorem run_beginning (hStage : start.stage = .beginning) :
    ∃ s', ReflTransGen (StartingStep dates) s s' ∧
      s'.ops = (s.ops.beginCall dates clock start.id).1 := by
  have hStatement : start.statement dates clock s.ops =
      ((s.ops.beginCall dates clock start.id).1, .answered, none) := by
    rw [Start.statement, hStage]
  obtain ⟨s', hRun, hOps, -⟩ := run_statement hStarts hStatement
  exact ⟨s', hRun, hOps⟩

theorem run_retrying (hStage : start.stage = .retrying) {row : CleanupRow}
    (hRow : s.ops.runs.get start.id = some row) :
    ∃ s', ReflTransGen (StartingStep dates) s s' ∧
      s'.ops = ((s.ops.store start.id (row.edit prepareCleanupRetry)).beginCall dates clock
        start.id).1 := by
  have hStatement : start.statement dates clock s.ops =
      (s.ops.store start.id (row.edit prepareCleanupRetry), .beginning, none) := by
    simp only [Start.statement, hStage, hRow]
  obtain ⟨s', hRun, hOps, hNext⟩ := run_statement hStarts hStatement
  obtain ⟨s'', hRun', hOps'⟩ := run_beginning dates clock hNext rfl
  rw [hOps] at hOps'
  exact ⟨s'', hRun.trans hRun', hOps'⟩

theorem run_inserting (hStage : start.stage = .inserting)
    (hNew : s.ops.runs.get start.id = none) :
    ∃ s', ReflTransGen (StartingStep dates) s s' ∧
      s'.ops = ((s.ops.store start.id (Operations.newRow dates start.request.dryRun start.options
        start.policies)).beginCall dates clock start.id).1 := by
  have hStatement : start.statement dates clock s.ops =
      (s.ops.store start.id (Operations.newRow dates start.request.dryRun start.options
        start.policies), .beginning, some .accepted) := by
    simp only [Start.statement, hStage, hNew]
  obtain ⟨s', hRun, hOps, hNext⟩ := run_statement hStarts hStatement
  obtain ⟨s'', hRun', hOps'⟩ := run_beginning dates clock hNext rfl
  rw [hOps] at hOps'
  exact ⟨s'', hRun.trans hRun', hOps'⟩

end Uninterrupted

/-- A start whose statements nothing comes between is one step of the operations. -/
theorem exists_uninterrupted (dates : Rfc3339) (now : DateTime) (clock : String → DateTime)
    (freshId : String) (request : CleanupRequest) (s : Starting) :
    ∃ s', ReflTransGen (StartingStep dates) s s' ∧
      s'.ops = (s.ops.startCleanup dates now clock freshId request).1 := by
  rw [Operations.startCleanup]
  split
  · exact ⟨s, .refl, rfl⟩
  · next options hOptions =>
    dsimp only
    split
    · exact ⟨s, .refl, rfl⟩
    · next policies hPolicies =>
      let start : Start :=
        ⟨request.operationId.getD freshId, request, options, policies, .reading⟩
      let asked : Starting := { s with starts := start :: s.starts }
      have hAsked : ReflTransGen (StartingStep dates) s asked :=
        .single (.ask now freshId request options policies hOptions hPolicies rfl)
      have hStarts : asked.starts = start :: s.starts := rfl
      split
      · next hNew =>
        have hStatement : start.statement dates clock asked.ops = (s.ops, .inserting, none) := by
          simp only [Start.statement, start, asked, hNew]
        obtain ⟨s', hRun, hOps, hNext⟩ := run_statement hStarts hStatement
        rw [← hOps] at hNew
        obtain ⟨s'', hRun', hOps'⟩ := run_inserting dates clock hNext rfl hNew
        rw [hOps] at hOps'
        exact ⟨s'', hAsked.trans (hRun.trans hRun'), hOps'⟩
      · next row hRow =>
        have hRead : start.statement dates clock asked.ops =
            (s.ops, (start.judge row Start.resumeFound).1,
              (start.judge row Start.resumeFound).2) := by
          simp only [Start.statement, start, asked, hRow]
        obtain ⟨s', hRun, hOps, hNext⟩ := run_statement hStarts hRead
        have hReached : ReflTransGen (StartingStep dates) s s' := hAsked.trans hRun
        have hThere : s'.ops.runs.get start.id = some row := hOps ▸ hRow
        unfold Start.judge at hNext
        split
        · exact ⟨s', hReached, hOps⟩
        · next hSame =>
          rw [if_neg hSame] at hNext
          cases hStatus : row.status with
          | completed => exact ⟨s', hReached, hOps⟩
          | cancelled => exact ⟨s', hReached, hOps⟩
          | failed =>
            rw [hStatus] at hNext
            obtain ⟨s'', hRun', hOps'⟩ := run_retrying dates clock hNext rfl hThere
            rw [hOps] at hOps'
            exact ⟨s'', hReached.trans hRun', hOps'⟩
          | running =>
            rw [hStatus] at hNext
            obtain ⟨s'', hRun', hOps'⟩ := run_beginning dates clock hNext rfl
            rw [hOps] at hOps'
            exact ⟨s'', hReached.trans hRun', hOps'⟩
          | cancelRequested =>
            rw [hStatus] at hNext
            obtain ⟨s'', hRun', hOps'⟩ := run_beginning dates clock hNext rfl
            rw [hOps] at hOps'
            exact ⟨s'', hReached.trans hRun', hOps'⟩

/-! ## Whole runs -/

/-- Every accepted request has a row made for it, and an answer after it is a conflict if and only
if the request has other options. -/
structure Judged (s : Starting) : Prop where
  starts : ∀ start ∈ s.starts, start.Valid
  rows : ∀ verdict ∈ s.verdicts, verdict.outcome = .accepted →
    ∃ row, s.ops.runs.get verdict.id = some row ∧ MadeFor verdict.request row
  later : s.verdicts.Pairwise fun later earlier =>
    earlier.outcome = .accepted → later.id = earlier.id →
      (later.outcome = .conflict ↔ ¬SameOptions earlier.request later.request)

theorem Judged.keeps {s : Starting} (h : Judged s) {ops : Operations}
    (hKeeps : KeepsOptions s.ops ops) : Judged { s with ops := ops } where
  starts := h.starts
  rows verdict hVerdict hAccepted := by
    obtain ⟨row, hRow, hMade⟩ := h.rows verdict hVerdict hAccepted
    obtain ⟨row', hRow', hDry, hOptions⟩ := hKeeps _ row hRow
    refine ⟨row', hRow', ?_, ?_, ?_⟩
    · exact hDry.trans hMade.dryRun
    · rw [hOptions]
      exact hMade.batchSize
    · rw [hOptions]
      exact hMade.maxBatches
  later := h.later

theorem Judged.answer {s : Starting} (h : Judged s) {start : Start} {outcome : Outcome}
    {before : Operations} (hAnswers : Answers start before s.ops (some outcome)) :
    Judged { s with verdicts := ⟨start.id, start.request, outcome⟩ :: s.verdicts } where
  starts := h.starts
  rows verdict hVerdict hAccepted := by
    rcases List.mem_cons.mp hVerdict with rfl | hOld
    · exact hAnswers.accepted (congrArg some hAccepted)
    · exact h.rows verdict hOld hAccepted
  later := by
    refine List.pairwise_cons.mpr ⟨?_, h.later⟩
    intro earlier hEarlier hAccepted hId
    obtain ⟨row, hRow, hMade⟩ := h.rows earlier hEarlier hAccepted
    have hHere : s.ops.runs.get start.id = some row := by
      have hSameId : start.id = earlier.id := hId
      rw [hSameId]
      exact hRow
    cases outcome with
    | accepted =>
      obtain ⟨found, hFound, hMade'⟩ := hAnswers.accepted rfl
      obtain rfl := Option.some.inj (hHere.symm.trans hFound)
      exact iff_of_false nofun (not_not.mpr (hMade.sameOptions hMade'))
    | conflict =>
      have hOther := hAnswers.conflict rfl row hHere
      exact iff_of_true rfl fun hSame => hOther (hMade.transfer hSame)

theorem judged_step {dates : Rfc3339} {s s' : Starting} (h : Judged s)
    (hStep : StartingStep dates s s') : Judged s' := by
  cases hStep with
  | ask now freshId request options policies hOptions hPolicies hNext =>
    rw [hNext]
    refine ⟨?_, h.rows, h.later⟩
    intro start hStart
    rcases List.mem_cons.mp hStart with rfl | hOld
    · exact hOptions
    · exact h.starts start hOld
  | statement clock start starts hMoves hNext =>
    have hValid := h.starts start hMoves.mem_old
    have hAnswers := hValid.answers_statement dates clock s.ops
    have hStarts : ∀ other ∈ starts, other.Valid := by
      intro other hOther
      rcases hMoves.mem hOther with rfl | hOld
      · exact hValid
      · exact h.starts other hOld
    have hKept : Judged
        { ops := (start.statement dates clock s.ops).1, starts := starts,
          verdicts := s.verdicts } :=
      ⟨hStarts, (h.keeps hAnswers.keeps).rows, h.later⟩
    rw [hNext, Starting.advance]
    cases hOutcome : (start.statement dates clock s.ops).2.2 with
    | none => exact hKept
    | some outcome =>
      rw [hOutcome] at hAnswers
      exact hKept.answer hAnswers
  | meanwhile ops hOps hNext =>
    rw [hNext]
    exact h.keeps (.of_step hOps)

theorem judged_idle (t : Tables) (stored : RetentionPolicies) : Judged (idle t stored) where
  starts := nofun
  rows := nofun
  later := .nil

/-! ## Two starts of one operation -/

def onAudit : CleanupRequest := ⟨false, 10, 10, some "cleanup", some ["audit"]⟩

def onUsage : CleanupRequest := ⟨false, 10, 10, some "cleanup", some ["usage_events"]⟩

def askedFor (request : CleanupRequest) (key : String) (enabled : Bool) : Start where
  id := "cleanup"
  request := request
  options := tenByTen
  policies := Table.empty.insert key ⟨⟨enabled, daysBefore ninetyDaysLater 90⟩, 90⟩
  stage := .reading

def atNinetyDays : String → DateTime := fun _ => ninetyDaysLater

/-- The first start has inserted its row and begun. -/
def startedOnAudit : Starting :=
  (((⟨beforeCleanup, [askedFor onAudit "audit" false], []⟩ : Starting).next epochDates
    atNinetyDays).next epochDates atNinetyDays).next epochDates atNinetyDays

/-- The second start has found that row. -/
def resumedOnUsage : Starting :=
  { startedOnAudit with
    starts := askedFor onUsage "usage_events" true :: startedOnAudit.starts }.next epochDates
      atNinetyDays

theorem run_resumedOnUsage : ReflTransGen (StartingStep epochDates)
    (idle (oneEvent oneAttempt (by decide)) ninetyDays) resumedOnUsage := by
  have hFirst : StartingStep epochDates (idle (oneEvent oneAttempt (by decide)) ninetyDays)
      ⟨beforeCleanup, [askedFor onAudit "audit" false], []⟩ :=
    .ask ninetyDaysLater "" onAudit tenByTen _ rfl rfl rfl
  have hSecond : StartingStep epochDates startedOnAudit
      { startedOnAudit with
        starts := askedFor onUsage "usage_events" true :: startedOnAudit.starts } :=
    .ask ninetyDaysLater "" onUsage tenByTen _ rfl rfl rfl
  have hStarted := (run_next epochDates atNinetyDays
    ⟨beforeCleanup, [askedFor onAudit "audit" false], []⟩).trans
    ((run_next epochDates atNinetyDays _).trans (run_next epochDates atNinetyDays _))
  exact (ReflTransGen.single hFirst).trans
    (hStarted.trans ((ReflTransGen.single hSecond).trans (run_next epochDates atNinetyDays _)))

def firstVerdict : Verdict := ⟨"cleanup", onAudit, .accepted⟩

def secondVerdict : Verdict := ⟨"cleanup", onUsage, .accepted⟩

theorem verdicts_resumedOnUsage : resumedOnUsage.verdicts = [secondVerdict, firstVerdict] := by
  rfl

/-! ## The name of a cleanup -/

/-- A later request is told apart by its mode and its bounds, and by nothing else. -/
theorem named_cleanup_iff {dates : Rfc3339} {t : Tables} {stored : RetentionPolicies}
    {s : Starting} (hRun : ReflTransGen (StartingStep dates) (idle t stored) s)
    {earlier later : Verdict} (hLog : [later, earlier].Sublist s.verdicts)
    (hAccepted : earlier.outcome = .accepted) (hId : later.id = earlier.id) :
    (later.outcome = .conflict ∨ SameCleanup earlier.request later.request) ↔
      (SamePolicyKeys earlier.request later.request ∨
        ¬SameOptions earlier.request later.request) := by
  have hJudged : Judged s := invariant hRun judged_step (judged_idle t stored)
  have hPair := List.pairwise_cons.mp (hJudged.later.sublist hLog)
  have hConflict := hPair.1 earlier (List.mem_singleton.mpr rfl) hAccepted hId
  constructor
  · rintro (hOther | hSame)
    · exact .inr (hConflict.mp hOther)
    · exact .inl hSame.keys
  · rintro (hKeys | hOptions)
    · by_cases hSame : SameOptions earlier.request later.request
      · exact .inr ⟨hSame, hKeys⟩
      · exact .inl (hConflict.mpr hSame)
    · exact .inl (hConflict.mpr hOptions)

theorem named_cleanup_iff_onAudit :
    (secondVerdict.outcome = .conflict ∨ SameCleanup onAudit onUsage) ↔
      (SamePolicyKeys onAudit onUsage ∨ ¬SameOptions onAudit onUsage) := by
  have hLog : [secondVerdict, firstVerdict].Sublist resumedOnUsage.verdicts := by
    rw [verdicts_resumedOnUsage]
  exact named_cleanup_iff run_resumedOnUsage hLog rfl rfl

/-- A request for other policies is accepted under the name of a cleanup that leaves them alone. -/
theorem other_policies_accepted :
    ∃ s, ReflTransGen (StartingStep epochDates)
      (idle (oneEvent oneAttempt (by decide)) ninetyDays) s ∧
      [secondVerdict, firstVerdict].Sublist s.verdicts ∧ firstVerdict.outcome = .accepted ∧
      secondVerdict.id = firstVerdict.id ∧
      ¬(secondVerdict.outcome = .conflict ∨
        SameCleanup firstVerdict.request secondVerdict.request) := by
  refine ⟨resumedOnUsage, run_resumedOnUsage, ?_, rfl, rfl, ?_⟩
  · rw [verdicts_resumedOnUsage]
  · rintro (hConflict | hSame)
    · cases hConflict
    · have hAsked : onAudit.asksFor "audit" := ⟨by decide, by decide⟩
      have hOther := (hSame.keys "audit").mp hAsked
      exact absurd (hOther.2 _ rfl) (by decide)

end AiGateway.Retention
