import AiGateway.ControlPlane.Publication
import AiGateway.Infra.Restore

/-!
# Serving what was committed

The state of the application is the database and the configuration it serves.  A
write and an import publish the snapshot of what they commit, and a candidate
with a lower revision than the one served is turned away.  The revision is moved
on by writes and overwritten by imports, so an import can commit a configuration
that is never served.
-/

namespace AiGateway.Ops

set_option autoImplicit false

open AiGateway.Checked AiGateway.ControlPlane AiGateway.Health

structure AppState where
  db : Db
  live : RuntimeSnapshot

/-- The state after a candidate was offered, and whether it was accepted. -/
def AppState.reloadSnapshot (state : AppState) (candidate : RuntimeSnapshot) : AppState × Bool :=
  if state.live.revision ≤ candidate.revision then ({ state with live := candidate }, true)
  else (state, false)

inductive Request where
  | act (action : Action)
  | importControlPlane (exported : ControlPlaneExport) (replace : Bool)
  /-- A restore that is rolled back after it has reset the sequence of binding
  ids, which no rollback undoes. -/
  | sequenceReset (next : Int)

section Requests

variable (ops : OpsRepository) (service : Service) (now : DateTime)

def AppState.publish (state : AppState) (committed : Committed) : AppState :=
  ({ state with db := committed.db }.reloadSnapshot committed.snapshot).1

def Request.run (state : AppState) : Request → Except OpsError AppState
  | .act (.write request) => do
    let committed ← (commitWrite service now state.db request).mapError .ofControlPlane
    return state.publish committed
  | .act action => do
    let db ← (action.run service now state.db).mapError .ofControlPlane
    return { state with db := db }
  | .importControlPlane exported replace => do
    let committed ← ops.restoreControlPlane service exported replace state.db
    return state.publish committed
  | .sequenceReset next => do
    let db ← opsStatement (enforce { state.db.toTables with nextBindingId := next })
    return { state with db := db }

end Requests

/-- The requests that publish a snapshot when they succeed. -/
def Request.Publishes : Request → Prop
  | .act (.write _) => True
  | .importControlPlane _ _ => True
  | _ => False

/-- The live configuration is the snapshot of the committed rows. -/
def AppState.Served (service : Service) (state : AppState) : Prop :=
  loadSnapshot service state.db.toTables = .ok state.live

structure Step where
  before : AppState
  request : Request
  after : AppState

inductive ServingRun (ops : OpsRepository) (service : Service) (start : AppState) :
    List Step → AppState → Prop where
  | start : ServingRun ops service start [] start
  | step {history : List Step} {state state' : AppState} {now : DateTime} {request : Request}
      (before : ServingRun ops service start history state)
      (next : request.run ops service now state = .ok state') :
      ServingRun ops service start (history ++ [⟨state, request, state'⟩]) state'

/-! ## What a restore commits -/

theorem restoreSnapshotState_revision (metadata : RuntimeSnapshotMetadata) (db : Db) :
    Ensures (restoreSnapshotState metadata db) fun db => db.revision = metadata.revision := by
  unfold restoreSnapshotState
  exact ensures_then fun _ => ensures_mapError (enforce_revision rfl)

theorem resetSequences_revision {db : Db} {revision : Int} (h : db.revision = revision) :
    Ensures (resetSequences db) fun db => db.revision = revision := by
  unfold resetSequences
  exact ensures_then fun _ => ensures_mapError (enforce_revision h)

theorem restoreRows_published (ops : OpsRepository) (service : Service)
    (exported : ControlPlaneExport) (replace : Bool) (db : Db) :
    Ensures (ops.restoreRows service exported replace db)
      (PublishedAt service exported.runtimeSnapshot.revision) := by
  unfold OpsRepository.restoreRows
  iterate 3 refine ensures_then fun _ => ?_
  refine ensures_seq (restoreSnapshotState_revision exported.runtimeSnapshot _) fun db hDb => ?_
  refine ensures_seq (resetSequences_revision hDb) fun db hDb => ?_
  refine ensures_bind fun snapshot hSnapshot => ensures_then fun _ => ensures_pure ⟨?_, hDb⟩
  exact mapError_ok.mp hSnapshot

theorem restoreControlPlane_published (ops : OpsRepository) (service : Service)
    (exported : ControlPlaneExport) (replace : Bool) (db : Db) :
    Ensures (ops.restoreControlPlane service exported replace db)
      (PublishedAt service exported.runtimeSnapshot.revision) := by
  unfold OpsRepository.restoreControlPlane
  iterate 3 refine ensures_then fun _ => ?_
  refine ensures_seq (restoreRows_published ops service exported replace db) fun _ hCommit => ?_
  exact ensures_then fun _ => ensures_pure hCommit

/-! ## One request -/

/-- The revision that is served is the one in the database. -/
def AppState.Aligned (state : AppState) : Prop := state.live.revision = state.db.revision

theorem AppState.Served.aligned {service : Service} {state : AppState} (h : state.Served service) :
    state.Aligned :=
  loadSnapshot_revision h

/-- What a request must meet to be served: an import does not fall behind the
revision that is committed. -/
def Request.Advances (db : Db) : Request → Prop
  | .importControlPlane exported _ => db.revision ≤ exported.runtimeSnapshot.revision
  | _ => True

theorem publish_served_iff {service : Service} {state : AppState} {committed : Committed}
    {revision : Int} (hAligned : state.Aligned)
    (hCommit : PublishedAt service revision committed) :
    ((state.publish committed).Served service ↔ state.db.revision ≤ revision) := by
  have hRevision : committed.snapshot.revision = revision :=
    (loadSnapshot_revision hCommit.snapshot).trans hCommit.revision
  have hLive : state.live.revision = state.db.revision := hAligned
  simp only [AppState.publish, AppState.reloadSnapshot]
  rw [hRevision, hLive]
  split
  · next hLe => exact ⟨fun _ => hLe, fun _ => hCommit.snapshot⟩
  · next hGt =>
    refine ⟨fun hServed => ?_, fun hLe => absurd hLe hGt⟩
    -- the configuration kept has a revision the database no longer has
    have hKept : state.live.revision = committed.db.revision := loadSnapshot_revision hServed
    have := hCommit.revision
    omega

theorem Action.run_revision {service : Service} {now : DateTime} {db db' : Db} {action : Action}
    (hAction : ∀ request, action ≠ .write request) (h : action.run service now db = .ok db') :
    db'.revision = db.revision := by
  obtain ⟨request, -, hWrite, -⟩ | ⟨-, hOnly | ⟨drawn, hDrawn⟩⟩ := Action.run_cases h
  · exact absurd hWrite (hAction request)
  · rw [hOnly]
  · rw [hDrawn]

/-- A step lemma for every request: a publication is served exactly when it
advances, and then the revisions stay aligned. -/
theorem Request.run_served {ops : OpsRepository} {service : Service} {now : DateTime}
    {state state' : AppState} {request : Request} (hAligned : state.Aligned)
    (h : request.run ops service now state = .ok state') :
    (request.Publishes → (state'.Served service ↔ request.Advances state.db)) ∧
      (request.Advances state.db → state'.Aligned) := by
  have hPublished : ∀ {committed : Committed} {revision : Int},
      PublishedAt service revision committed → state.db.revision ≤ revision →
      (state.publish committed).Aligned := by
    intro committed revision hCommit hLe
    exact ((publish_served_iff hAligned hCommit).mpr hLe).aligned
  cases request with
  | act action =>
    by_cases hAction : ∃ request, action = .write request
    · obtain ⟨request, rfl⟩ := hAction
      obtain ⟨committed, hCommit, hState⟩ := bind_eq_ok.mp h
      obtain rfl := pure_eq_ok.mp hState
      have hAt := commitWrite_published request committed (mapError_ok.mp hCommit)
      have hLe : state.db.revision ≤ state.db.revision + 1 := by omega
      exact ⟨fun _ => iff_of_true ((publish_served_iff hAligned hAt).mpr hLe) trivial,
        fun _ => hPublished hAt hLe⟩
    · have hAction : ∀ request, action ≠ .write request := fun request hEq => hAction ⟨request, hEq⟩
      cases action with
      | write request => exact absurd rfl (hAction request)
      | _ =>
        obtain ⟨db, hDb, hState⟩ := bind_eq_ok.mp h
        obtain rfl := pure_eq_ok.mp hState
        refine ⟨fun hPublishes => hPublishes.elim, fun _ => ?_⟩
        exact hAligned.trans (Action.run_revision hAction (mapError_ok.mp hDb)).symm
  | importControlPlane exported replace =>
    obtain ⟨committed, hCommit, hState⟩ := bind_eq_ok.mp h
    obtain rfl := pure_eq_ok.mp hState
    have hAt := restoreControlPlane_published ops service exported replace state.db committed hCommit
    exact ⟨fun _ => publish_served_iff hAligned hAt, hPublished hAt⟩
  | sequenceReset next =>
    obtain ⟨db, hDb, hState⟩ := bind_eq_ok.mp h
    obtain rfl := pure_eq_ok.mp hState
    refine ⟨fun hPublishes => hPublishes.elim, fun _ => ?_⟩
    have hTables := enforce_ok (mapError_ok.mp hDb)
    exact hAligned.trans (by rw [hTables])

/-! ## Runs -/

/-- Every import of the run has at least the revision that is committed before it. -/
def ImportsAdvance (history : List Step) : Prop :=
  ∀ step ∈ history, step.request.Advances step.before.db

theorem ServingRun.served_iff {ops : OpsRepository} {service : Service} {start state : AppState}
    {history : List Step} (hStart : start.Served service)
    (hRun : ServingRun ops service start history state) :
    (ImportsAdvance history → state.Aligned) ∧
      ((∀ step ∈ history, step.request.Publishes → step.after.Served service) ↔
        ImportsAdvance history) := by
  induction hRun with
  | start => exact ⟨fun _ => hStart.aligned, by simp [ImportsAdvance]⟩
  | @step history state state' now request before next ih =>
    obtain ⟨hAligned, hIff⟩ := ih
    have hSplit : ImportsAdvance (history ++ [⟨state, request, state'⟩]) ↔
        ImportsAdvance history ∧ request.Advances state.db := by
      simp [ImportsAdvance, or_imp, forall_and]
    rw [hSplit]
    refine ⟨fun h => (Request.run_served (hAligned h.1) next).2 h.2, ?_⟩
    constructor
    · intro hAll
      have hHistory := hIff.mp fun step hStep => hAll step (List.mem_append_left _ hStep)
      refine ⟨hHistory, ?_⟩
      cases request with
      | importControlPlane exported replace =>
        have hLast := hAll _ (List.mem_append_right _ (List.mem_singleton_self _)) trivial
        exact ((Request.run_served (hAligned hHistory) next).1 trivial).mp hLast
      | _ => trivial
    · rintro ⟨hHistory, hAdvances⟩ step hStep hPublishes
      obtain hOld | hNew := List.mem_append.mp hStep
      · exact hIff.mpr hHistory step hOld hPublishes
      · obtain rfl := List.mem_singleton.mp hNew
        exact ((Request.run_served (hAligned hHistory) next).1 hPublishes).mpr hAdvances

/-- Every publication of a run that starts from a served state is served exactly
when no import of the run carries a lower revision than the committed one. -/
theorem publications_served_iff {ops : OpsRepository} {service : Service} {start state : AppState}
    {history : List Step} (hStart : start.Served service)
    (hRun : ServingRun ops service start history state) :
    (∀ step ∈ history, step.request.Publishes → step.after.Served service) ↔
      ImportsAdvance history :=
  (hRun.served_iff hStart).2

/-! ## An import behind the committed revision -/

/-- The last state of a list of requests, with the steps that led to it. -/
def serve (ops : OpsRepository) (service : Service) (start : AppState)
    (requests : List (DateTime × Request)) : Except OpsError (List Step × AppState) :=
  requests.foldlM (fun run request => do
    let state ← request.2.run ops service request.1 run.2
    return (run.1 ++ [⟨run.2, request.2, state⟩], state)) ([], start)

theorem run_of_serve {ops : OpsRepository} {service : Service} {start : AppState}
    {requests : List (DateTime × Request)} :
    Ensures (serve ops service start requests) fun run =>
      ServingRun ops service start run.1 run.2 := by
  refine ensures_foldlM (fun run hRun request _ => ?_) .start
  exact ensures_bind fun state hNext => ensures_pure (hRun.step hNext)

namespace Backup

def repository : OpsRepository where
  urls := ⟨fun _ => none, fun value _ => value⟩
  sha256Json _ := "0123456789abcdef0123456789abcdef0123456789abcdef0123456789abcdef"
  metadata := ⟨28, 28⟩

def start : AppState where
  db := Relisted.start
  live := snapshotOf Relisted.service {} 0 0

theorem start_served : start.Served Relisted.service := rfl

def isImport : Request → Bool
  | .importControlPlane _ _ => true
  | _ => false

def advances (db : Db) : Request → Bool
  | .importControlPlane exported _ => db.revision ≤ exported.runtimeSnapshot.revision
  | _ => true

theorem advances_iff {db : Db} {request : Request} :
    advances db request = true ↔ request.Advances db := by
  cases request with
  | importControlPlane exported replace => exact decide_eq_true_iff
  | _ => exact iff_of_true rfl trivial

/-- A new source, an export, and the export imported again. -/
def reimported : Except OpsError (List Step × AppState) := do
  let created ← serve repository Relisted.service start
    [(0, .act (.write (.createSource Relisted.source)))]
  let exported ← repository.exportControlPlane Relisted.service created.2.db
  serve repository Relisted.service start
    [(0, .act (.write (.createSource Relisted.source))), (0, .importControlPlane exported true)]

/-- An export, a new source, and the export imported again. -/
def restored : Except OpsError (List Step × AppState) := do
  let exported ← repository.exportControlPlane Relisted.service Relisted.start
  serve repository Relisted.service start
    [(0, .act (.write (.createSource Relisted.source))), (0, .importControlPlane exported true)]

end Backup

/-- The import of an export that was made after the write before it. -/
theorem publications_served_iff_write :
    ∃ history state, ServingRun Backup.repository Relisted.service Backup.start history state ∧
      history.length = 2 ∧ (∃ step ∈ history, Backup.isImport step.request = true) ∧
      ((∀ step ∈ history, step.request.Publishes → step.after.Served Relisted.service) ↔
        ImportsAdvance history) ∧ ImportsAdvance history := by
  obtain ⟨run, hRun, hTest⟩ := exists_of_succeeds (show succeeds Backup.reimported
      (fun run => run.1.length = 2 && run.1.any (fun step => Backup.isImport step.request) &&
        run.1.all fun step => Backup.advances step.before.db step.request) = true
      by decide +kernel)
  obtain ⟨_, -, hRun⟩ := bind_eq_ok.mp hRun
  obtain ⟨exported, -, hServe⟩ := bind_eq_ok.mp hRun
  have hRun := run_of_serve run hServe
  simp only [Bool.and_eq_true, decide_eq_true_eq, List.any_eq_true, List.all_eq_true] at hTest
  obtain ⟨⟨hLength, hImport⟩, hAdvances⟩ := hTest
  exact ⟨run.1, run.2, hRun, hLength, hImport, publications_served_iff Backup.start_served hRun,
    fun step hStep => Backup.advances_iff.mp (hAdvances step hStep)⟩

/-- The import commits the older rows with their older revision, and the source
created meanwhile stays in service. -/
theorem older_import_not_served :
    ∃ history state, Backup.start.Served Relisted.service ∧
      ServingRun Backup.repository Relisted.service Backup.start history state ∧
      ∃ step ∈ history, step.request.Publishes ∧ ¬ step.after.Served Relisted.service := by
  obtain ⟨run, hRun, hStep⟩ := exists_of_succeeds (show succeeds Backup.restored
      (fun run => run.1.any fun step =>
        Backup.isImport step.request && step.after.live.revision ≠ step.after.db.revision) = true
      by decide +kernel)
  obtain ⟨exported, -, hServe⟩ := bind_eq_ok.mp hRun
  obtain ⟨step, hMem, hTest⟩ := List.any_eq_true.mp hStep
  simp only [Bool.and_eq_true, decide_eq_true_eq] at hTest
  refine ⟨run.1, run.2, Backup.start_served, run_of_serve run hServe, step, hMem, ?_, ?_⟩
  · cases hRequest : step.request with
    | importControlPlane _ _ => trivial
    | _ => simp [hRequest, Backup.isImport] at hTest
  · exact fun hServed => hTest.2 (loadSnapshot_revision hServed)

end AiGateway.Ops
