import AiGateway.Infra.Cleanup

/-!
# The audit trail of a cleanup

A call of `run_cleanup` completes its run with one statement and appends the entry
that says so with the next, whatever the first has found.  The trail tells of no
other completions than those that happened as long as every such statement still
finds a run it completes.
-/

namespace AiGateway.Retention

set_option autoImplicit false

open AiGateway.Concurrent Relation

/-- An entry of the trail.  A completion is listed with what its update has done
to the run, which the code does not look at. -/
inductive AuditEntry where
  | started
  | progress
  | cancelRequested
  | cancelled
  | retry
  | failed
  | completed (moved : Bool)
deriving DecidableEq

def AuditEntry.action : AuditEntry → String
  | .started => "retention.cleanup.started"
  | .progress => "retention.cleanup.progress"
  | .cancelRequested => "retention.cleanup.cancel_requested"
  | .cancelled => "retention.cleanup.cancelled"
  | .retry => "retention.cleanup.retry"
  | .failed => "retention.cleanup.failed"
  | .completed _ => "retention.cleanup.completed"

/-! ## Statements -/

/-- The statement a call makes next.  After a round a call goes on with the next
one or returns. -/
inductive Point where
  | noteStarted
  | entering
  | preparingRetry
  | noteRetry
  | looping (rounds : ℕ)
  | counting (rounds : ℕ) (deleted : CleanupCounts)
  | updating (next : Option ℕ) (hasMore : Bool)
  | completing (next : Option ℕ)
  | noteCompleted (next : Option ℕ) (moved : Bool)
  | dryCounting
  | dryCompleting (counts : CleanupCounts)
  | markingFailed
  | noteFailed
  | returned
deriving DecidableEq

def Point.goOn : Option ℕ → Point
  | some rounds => .looping rounds
  | none => .returned

def Point.ofInvocation : Invocation → Point
  | .looping rounds => .looping rounds
  | .counting rounds deleted => .counting rounds deleted
  | .updating rounds deleted hasMore =>
    .updating (if deleted.total = 0 then none else some (rounds + 1)) hasMore
  | .returned => .returned

/-- The entry written in the transaction of a round. -/
def roundEntry (run : CleanupRun) : Option AuditEntry :=
  match run.status with
  | .completed | .failed | .cancelled => none
  | .cancelRequested => some .cancelled
  | .running => some (if run.cancelRequested then .cancelled else .progress)

def completeDryRun (counts : CleanupCounts) (run : CleanupRun) : CleanupRun :=
  match run.status with
  | .completed | .cancelled => run
  | .running | .failed | .cancelRequested => { run with status := .completed, scanned := counts }

/-- Counting and completing at once. -/
theorem finishDryRun_eq (t : Tables) (run : CleanupRun) :
    finishDryRun t run = completeDryRun (countCandidates run.policies t) run := by
  unfold finishDryRun completeDryRun
  cases run.status <;> rfl

/-- The tables, the run and the entry appended, and where the call stands then. -/
def statement (t : Tables) (run : CleanupRun) :
    Point → Tables × CleanupRun × Option AuditEntry × Point
  | .noteStarted => (t, run, some .started, .entering)
  | .entering =>
    (t, run, none,
      if run.dryRun then (if run.status = .completed then .returned else .dryCounting)
      else .looping 0)
  | .preparingRetry => (t, prepareCleanupRetry run, none, .noteRetry)
  | .noteRetry => (t, run, some .retry, .entering)
  | .looping rounds =>
    if rounds < run.options.maxBatches then
      let round := roundTransaction t run rounds
      (round.1, round.2.1, roundEntry run, .ofInvocation round.2.2)
    else (t, run, none, .returned)
  | .counting rounds deleted =>
    (t, run, none, .ofInvocation
      (.updating rounds deleted (decide (0 < (countCandidates run.policies t).total))))
  | .updating next hasMore =>
    (t, run, none, if hasMore then .goOn next else .completing next)
  | .completing next =>
    (t, complete run, none, .noteCompleted next (decide (run.status = .running)))
  | .noteCompleted next moved => (t, run, some (.completed moved), .goOn next)
  | .dryCounting => (t, run, none, .dryCompleting (countCandidates run.policies t))
  | .dryCompleting counts =>
    (t, completeDryRun counts run, none,
      .noteCompleted none (decide (run.status ≠ .completed ∧ run.status ≠ .cancelled)))
  | .markingFailed => (t, markCleanupFailed run, none, .noteFailed)
  | .noteFailed => (t, run, some .failed, .returned)
  | .returned => (t, run, none, .returned)

/-- Where an error of a round can strike. -/
def Point.inRound : Point → Bool
  | .looping _ | .counting _ _ | .updating _ _ | .completing _ | .noteCompleted _ _ => true
  | _ => false

/-- The entry of a cancellation, in one transaction with its update. -/
def cancelEntry (run : CleanupRun) : Option AuditEntry :=
  match run.status with
  | .completed | .cancelled | .failed => none
  | .running | .cancelRequested => some .cancelRequested

/-! ## Interleavings -/

/-- A run, its trail in the order in which it was written, and the calls at work. -/
structure Audited where
  tables : Tables
  run : CleanupRun
  trail : List AuditEntry
  calls : List Point

/-- One statement of a call that is allowed, a cancellation, a new call that resumes or retries
the run, the end of a call by an error or by being cut off, or a change of the tables by others. -/
inductive AuditStep (allowed : CleanupRun → Point → Prop) (s s' : Audited) : Prop where
  | move {c c' : Point} {entry : Option AuditEntry} (hMoves : Moves c c' s.calls s'.calls)
      (hAllowed : allowed s.run c)
      (hNext : statement s.tables s.run c = (s'.tables, s'.run, entry, c'))
      (hTrail : s'.trail = s.trail ++ entry.toList)
  | cancel (hTables : s'.tables = s.tables) (hRun : s'.run = cancelCleanup s.run)
      (hTrail : s'.trail = s.trail ++ (cancelEntry s.run).toList) (hCalls : s'.calls = s.calls)
  | enter {c : Point} (hBegin : c = .entering ∨ c = .preparingRetry)
      (hTables : s'.tables = s.tables) (hRun : s'.run = s.run) (hTrail : s'.trail = s.trail)
      (hCalls : s'.calls = c :: s.calls)
  | fail {c : Point} (hRound : c.inRound = true) (hReal : s.run.dryRun = false)
      (hMoves : Moves c .markingFailed s.calls s'.calls) (hTables : s'.tables = s.tables)
      (hRun : s'.run = s.run) (hTrail : s'.trail = s.trail)
  | drop {c : Point} (hMoves : Moves c .returned s.calls s'.calls) (hTables : s'.tables = s.tables)
      (hRun : s'.run = s.run) (hTrail : s'.trail = s.trail)
  | others (hRun : s'.run = s.run) (hTrail : s'.trail = s.trail) (hCalls : s'.calls = s.calls)

/-- The row of a run is there, its first entry is still to be written. -/
def begun (dryRun : Bool) (options : CleanupOptions) (policies : Policies) (t : Tables) :
    Audited where
  tables := t
  run := startCleanup dryRun options policies
  trail := []
  calls := [.noteStarted]

/-- The entries after the last retry. -/
def sinceRetry (trail : List AuditEntry) : List AuditEntry :=
  (trail.reverse.takeWhile (· ≠ .retry)).reverse

/-- Completions in the trail happened, and a cancelled run has none since its last retry. -/
structure TrailMatches (s : Audited) : Prop where
  moved : ∀ moved, .completed moved ∈ s.trail → moved = true
  cancelled : s.run.status = .cancelled → ∀ moved, .completed moved ∉ sinceRetry s.trail

/-- An update that completes finds a run it completes. -/
def Timely (run : CleanupRun) : Point → Prop
  | .completing _ => run.status = .running
  | .dryCompleting _ => run.status ≠ .completed ∧ run.status ≠ .cancelled
  | _ => True

/-! ## What a statement does to a completion -/

theorem goOn_ne_noteCompleted (next next' : Option ℕ) (moved : Bool) :
    Point.goOn next ≠ .noteCompleted next' moved := by
  cases next <;> exact Point.noConfusion

theorem ofInvocation_ne_noteCompleted (c : Invocation) (next : Option ℕ) (moved : Bool) :
    Point.ofInvocation c ≠ .noteCompleted next moved := by
  cases c <;> exact Point.noConfusion

section Statement

variable {t t' : Tables} {run run' : CleanupRun} {c c' : Point} {entry : Option AuditEntry}

/-- A completed run stays so. -/
theorem completed_statement (hCompleted : run.status = .completed)
    (h : statement t run c = (t', run', entry, c')) : run'.status = .completed := by
  cases c with
  | preparingRetry =>
    cases h
    simp only [prepareCleanupRetry, hCompleted]
  | looping rounds =>
    simp only [statement, roundTransaction, hCompleted] at h
    split at h <;> cases h <;> exact hCompleted
  | completing next =>
    cases h
    simp only [complete, hCompleted]
  | dryCompleting counts =>
    cases h
    simp only [completeDryRun, hCompleted]
  | markingFailed =>
    cases h
    simp only [markCleanupFailed, hCompleted]
  | _ =>
    cases h
    exact hCompleted

theorem completed_of_entry {moved : Bool}
    (h : statement t run c = (t', run', some (.completed moved), c')) :
    ∃ next, c = .noteCompleted next moved := by
  cases c with
  | noteCompleted next moved =>
    cases h
    exact ⟨next, rfl⟩
  | looping rounds =>
    dsimp only [statement] at h
    split at h
    · have hEntry : roundEntry run = some (.completed moved) := congrArg (·.2.2.1) h
      unfold roundEntry at hEntry
      split at hEntry
      · cases hEntry
      · cases hEntry
      · cases hEntry
      · cases hEntry
      · split at hEntry <;> cases hEntry
    · cases h
  | _ => cases h

/-- An update that was allowed to complete the run has completed it. -/
theorem completed_of_note (hTimely : Timely run c) {next : Option ℕ} {moved : Bool}
    (h : statement t run c = (t', run', entry, .noteCompleted next moved)) :
    moved = true ∧ run'.status = .completed := by
  cases c with
  | completing next =>
    have hRunning : run.status = .running := hTimely
    cases h
    simp only [complete, hRunning, decide_true, and_self]
  | dryCompleting counts =>
    obtain ⟨hOpen, hKept⟩ : run.status ≠ .completed ∧ run.status ≠ .cancelled := hTimely
    cases h
    refine ⟨decide_eq_true ⟨hOpen, hKept⟩, ?_⟩
    unfold completeDryRun
    split
    · next hStatus => exact absurd hStatus hOpen
    · next hStatus => exact absurd hStatus hKept
    · rfl
    · rfl
    · rfl
  | looping rounds =>
    dsimp only [statement] at h
    split at h
    · exact absurd (congrArg (·.2.2.2) h) (ofInvocation_ne_noteCompleted _ next moved)
    · cases h
  | counting rounds deleted =>
    have hPoint : Point.ofInvocation (.updating rounds deleted _) = .noteCompleted next moved :=
      congrArg (·.2.2.2) h
    exact absurd hPoint (ofInvocation_ne_noteCompleted _ next moved)
  | updating rest hasMore =>
    have hPoint : (if hasMore then Point.goOn rest else .completing rest) =
        .noteCompleted next moved := congrArg (·.2.2.2) h
    split at hPoint
    · exact absurd hPoint (goOn_ne_noteCompleted rest next moved)
    · cases hPoint
  | noteCompleted rest told =>
    exact absurd (congrArg (·.2.2.2) h) (goOn_ne_noteCompleted rest next moved)
  | entering =>
    have hPoint : (if run.dryRun then (if run.status = .completed then Point.returned
        else .dryCounting) else .looping 0) = .noteCompleted next moved := congrArg (·.2.2.2) h
    split at hPoint
    · split at hPoint <;> cases hPoint
    · cases hPoint
  | _ => cases h

end Statement

theorem completed_cancelCleanup {run : CleanupRun} (h : run.status = .completed) :
    (cancelCleanup run).status = .completed := by
  simp only [cancelCleanup, h]

/-! ## The invariant -/

/-- Completions written, or about to be written, are those of a completed run. -/
structure Truthful (s : Audited) : Prop where
  trail : ∀ moved, .completed moved ∈ s.trail → moved = true ∧ s.run.status = .completed
  calls : ∀ next moved, .noteCompleted next moved ∈ s.calls →
    moved = true ∧ s.run.status = .completed

theorem truthful_begun (dryRun : Bool) (options : CleanupOptions) (policies : Policies)
    (t : Tables) : Truthful (begun dryRun options policies t) := by
  constructor
  · intro moved hEntry
    cases hEntry
  · intro next moved hCall
    cases List.mem_singleton.mp hCall

/-- A step that keeps a completed run, appends no completion and starts to write none. -/
theorem Truthful.keep {s s' : Audited} (h : Truthful s)
    (hKept : s.run.status = .completed → s'.run.status = .completed)
    (hTrail : ∀ moved, .completed moved ∈ s'.trail → .completed moved ∈ s.trail)
    (hCalls : ∀ next moved, .noteCompleted next moved ∈ s'.calls →
      .noteCompleted next moved ∈ s.calls) : Truthful s' := by
  constructor
  · intro moved hEntry
    obtain ⟨hMoved, hCompleted⟩ := h.trail moved (hTrail moved hEntry)
    exact ⟨hMoved, hKept hCompleted⟩
  · intro next moved hCall
    obtain ⟨hMoved, hCompleted⟩ := h.calls next moved (hCalls next moved hCall)
    exact ⟨hMoved, hKept hCompleted⟩

theorem truthful_step {s s' : Audited} (h : Truthful s) (hStep : AuditStep Timely s s') :
    Truthful s' := by
  cases hStep with
  | @move c c' entry hMoves hTimely hNext hTrail =>
    have hKept := fun hCompleted => completed_statement hCompleted hNext
    constructor
    · intro moved hEntry
      rw [hTrail, List.mem_append] at hEntry
      obtain hOld | hNew := hEntry
      · obtain ⟨hMoved, hCompleted⟩ := h.trail moved hOld
        exact ⟨hMoved, hKept hCompleted⟩
      · rw [Option.mem_toList] at hNew
        rw [Option.mem_def.mp hNew] at hNext
        obtain ⟨next, rfl⟩ := completed_of_entry hNext
        obtain ⟨hMoved, hCompleted⟩ := h.calls next moved hMoves.mem_old
        exact ⟨hMoved, hKept hCompleted⟩
    · intro next moved hCall
      obtain rfl | hOld := hMoves.mem hCall
      · exact completed_of_note hTimely hNext
      · obtain ⟨hMoved, hCompleted⟩ := h.calls next moved hOld
        exact ⟨hMoved, hKept hCompleted⟩
  | cancel hTables hRun hTrail hCalls =>
    refine h.keep ?_ ?_ ?_
    · intro hCompleted
      rw [hRun]
      exact completed_cancelCleanup hCompleted
    · intro moved hEntry
      rw [hTrail, List.mem_append] at hEntry
      obtain hOld | hNew := hEntry
      · exact hOld
      · unfold cancelEntry at hNew
        split at hNew <;> simp at hNew
    · intro next moved hCall
      rwa [hCalls] at hCall
  | @enter c hBegin hTables hRun hTrail hCalls =>
    refine h.keep (fun hCompleted => hRun ▸ hCompleted) (fun _ hEntry => hTrail ▸ hEntry) ?_
    intro next moved hCall
    rw [hCalls, List.mem_cons] at hCall
    obtain rfl | hOld := hCall
    · obtain hEq | hEq := hBegin <;> cases hEq
    · exact hOld
  | fail hRound hReal hMoves hTables hRun hTrail =>
    refine h.keep (fun hCompleted => hRun ▸ hCompleted) (fun _ hEntry => hTrail ▸ hEntry) ?_
    intro next moved hCall
    obtain hEq | hOld := hMoves.mem hCall
    · cases hEq
    · exact hOld
  | drop hMoves hTables hRun hTrail =>
    refine h.keep (fun hCompleted => hRun ▸ hCompleted) (fun _ hEntry => hTrail ▸ hEntry) ?_
    intro next moved hCall
    obtain hEq | hOld := hMoves.mem hCall
    · cases hEq
    · exact hOld
  | others hRun hTrail hCalls =>
    exact h.keep (fun hCompleted => hRun ▸ hCompleted) (fun _ hEntry => hTrail ▸ hEntry)
      (fun _ _ hCall => hCalls ▸ hCall)

theorem mem_of_mem_sinceRetry {trail : List AuditEntry} {entry : AuditEntry}
    (h : entry ∈ sinceRetry trail) : entry ∈ trail := by
  rw [sinceRetry, List.mem_reverse] at h
  exact List.mem_reverse.mp ((List.takeWhile_sublist _).mem h)

/-- As long as every update that completes finds a run it completes, the trail
matches the status. -/
theorem trail_matches_of_timely {dryRun : Bool} {options : CleanupOptions} {policies : Policies}
    {t : Tables} {s : Audited}
    (hRun : ReflTransGen (AuditStep Timely) (begun dryRun options policies t) s) :
    TrailMatches s := by
  have h := invariant hRun truthful_step (truthful_begun dryRun options policies t)
  constructor
  · intro moved hEntry
    exact (h.trail moved hEntry).1
  · intro hCancelled moved hEntry
    obtain ⟨-, hCompleted⟩ := h.trail moved (mem_of_mem_sinceRetry hEntry)
    rw [hCancelled] at hCompleted
    cases hCompleted

/-! ## One call and a cancellation -/

namespace Audited

/-- The next statement of the only call. -/
def advance (s : Audited) : Audited :=
  match s.calls with
  | [c] =>
    let next := statement s.tables s.run c
    ⟨next.1, next.2.1, s.trail ++ next.2.2.1.toList, [next.2.2.2]⟩
  | _ => s

def cancel (s : Audited) : Audited :=
  { s with run := cancelCleanup s.run, trail := s.trail ++ (cancelEntry s.run).toList }

variable {allowed : CleanupRun → Point → Prop} {s₀ s : Audited}

theorem reaches_advance {c : Point} (hCalls : s.calls = [c]) (hAllowed : allowed s.run c)
    (h : ReflTransGen (AuditStep allowed) s₀ s) :
    ReflTransGen (AuditStep allowed) s₀ s.advance := by
  obtain ⟨t, run, trail, calls⟩ := s
  cases hCalls
  exact h.tail (.move (.at [] []) hAllowed rfl rfl)

theorem reaches_cancel (h : ReflTransGen (AuditStep allowed) s₀ s) :
    ReflTransGen (AuditStep allowed) s₀ s.cancel := h.tail (.cancel rfl rfl rfl rfl)

end Audited

/-- Batches of one row, and two rounds. -/
def twoRounds : CleanupOptions := ⟨1, 2, oneByOne.batchSize_range, by decide⟩

def oneExpired : Audited :=
  begun false twoRounds usagePolicies (oneEvent oneAttempt oneAttempt_owned)

/-- The call has deleted all there was and is about to complete its run. -/
def emptied : Audited := oneExpired.advance.advance.advance.advance.advance

theorem reaches_emptied {allowed : CleanupRun → Point → Prop}
    (hAllowed : ∀ run c, (∀ next, c ≠ .completing next) → (∀ counts, c ≠ .dryCompleting counts) →
      allowed run c) : ReflTransGen (AuditStep allowed) oneExpired emptied := by
  have hStarted : ReflTransGen (AuditStep allowed) oneExpired oneExpired.advance :=
    Audited.reaches_advance rfl (hAllowed _ .noteStarted nofun nofun) .refl
  have hEntered : ReflTransGen (AuditStep allowed) oneExpired oneExpired.advance.advance :=
    Audited.reaches_advance rfl (hAllowed _ .entering nofun nofun) hStarted
  have hDeleted := Audited.reaches_advance rfl (hAllowed _ (.looping 0) nofun nofun) hEntered
  have hCounted :=
    Audited.reaches_advance (by rfl) (hAllowed _ (.counting 0 _) nofun nofun) hDeleted
  exact Audited.reaches_advance (by rfl) (hAllowed _ (.updating (some 1) false) nofun nofun)
    hCounted

/-- Left alone, the call completes its run and says so. -/
theorem trail_matches_of_timely_completed :
    ∃ s, ReflTransGen (AuditStep Timely) oneExpired s ∧ s.run.status = .completed ∧
      s.trail = [.started, .progress, .completed true] ∧ TrailMatches s := by
  have hTimely : ∀ run c, (∀ next, c ≠ .completing next) → (∀ counts, c ≠ .dryCompleting counts) →
      Timely run c := by
    intro run c hReal hDry
    cases c with
    | completing next => exact absurd rfl (hReal next)
    | dryCompleting counts => exact absurd rfl (hDry counts)
    | _ => exact trivial
  have hEmptied := reaches_emptied hTimely
  have hCompleted := Audited.reaches_advance (by rfl) (by rfl) hEmptied
  have hNoted := Audited.reaches_advance (by rfl) trivial hCompleted
  exact ⟨_, hNoted, by decide, by decide, trail_matches_of_timely hNoted⟩

/-- A cancellation between the last batch and the update. -/
theorem completion_of_cancelled_run :
    ∃ s, ReflTransGen (AuditStep fun _ _ => True) oneExpired s ∧ s.run.status = .cancelled ∧
      s.trail = [.started, .progress, .cancelRequested, .completed false, .cancelled] ∧
      ¬ TrailMatches s := by
  have hEmptied : ReflTransGen (AuditStep fun _ _ => True) oneExpired emptied :=
    reaches_emptied fun _ _ _ _ => trivial
  have hCancelled := Audited.reaches_cancel hEmptied
  have hUpdated := Audited.reaches_advance (by rfl) trivial hCancelled
  have hNoted := Audited.reaches_advance (by rfl) trivial hUpdated
  have hEnded := Audited.reaches_advance (by rfl) trivial hNoted
  refine ⟨_, hEnded, by decide, by decide, ?_⟩
  intro hMatches
  have hFalse := hMatches.moved false (by decide)
  cases hFalse

end AiGateway.Retention
