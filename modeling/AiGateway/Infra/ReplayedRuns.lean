import AiGateway.ControlPlane.Publication
import AiGateway.Infra.Replay
import AiGateway.Infra.VirtualKeys

/-!
# Replays in every run

The states a database goes through between two startups, and after which of them a
replay of the migrations changes no row.
-/

namespace AiGateway.Migrations

set_option autoImplicit false

open AiGateway.Catalog AiGateway.Checked AiGateway.Config AiGateway.ControlPlane AiGateway.Health
  AiGateway.Json AiGateway.Proxy AiGateway.VirtualKeys

/-! ## Writes of the gateway -/

section Operations

variable (now : DateTime)

/-- The shipped presets are offered at each startup.  A version that is there stays
as it is. -/
def insertProviderPreset (preset : PresetRow) (db : Db) :
    Except ControlPlane.CatalogError Db := do
  ensure (0 < preset.version ∧ isObject preset.definition)
    (.invalidState "provider preset version must be positive and definition must be an object")
  (enforce (insertPreset { preset with createdAt := now } db.toTables)).mapError fun _ => .database

def healthRow (account : AccountRow) (source : SourceRow) : AccountHealthRow where
  accountId := account.id
  enabled := account.enabled
  sourceEnabled := source.enabled
  healthStatus := account.health.status
  healthSource := account.health.source
  cooldownUntil := account.health.cooldownUntil
  consecutiveFailures := account.health.consecutiveFailures
  failureWindowStartedAt := account.health.failureWindowStartedAt
  lastError := account.health.lastError
  lastSuccessAt := account.health.lastSuccessAt
  healthUpdatedAt := account.health.updatedAt
  lastProbeAt := account.health.lastProbeAt
  lastProbeStatus := account.health.lastProbeStatus
  lastProbeError := account.health.lastProbeError
  accountUpdatedAt := account.updatedAt

def healthColumns (row : AccountHealthRow) : HealthColumns where
  status := row.healthStatus
  source := row.healthSource
  updatedAt := row.healthUpdatedAt
  cooldownUntil := row.cooldownUntil
  consecutiveFailures := row.consecutiveFailures
  failureWindowStartedAt := row.failureWindowStartedAt
  lastError := row.lastError
  lastSuccessAt := row.lastSuccessAt
  lastProbeAt := row.lastProbeAt
  lastProbeStatus := row.lastProbeStatus
  lastProbeError := row.lastProbeError

inductive HealthReport where
  | failure (source : String) (errorMessage : Option String)
  | success (source : String)

def HealthReport.recorded (config : HealthConfig) (row : AccountHealthRow) :
    HealthReport → AccountHealthRow
  | .failure source errorMessage =>
    (recordAccountHealthFailure config now source errorMessage row).1
  | .success source => recordAccountHealthSuccess now source row

/-- A report on an account that is gone finds no row. -/
def recordHealth (config : HealthConfig) (accountId : String) (report : HealthReport) (db : Db) :
    Except DbError Db :=
  match db.account? accountId with
  | none => .ok db
  | some account =>
    match db.source? account.sourceId with
    | none => .ok db
    | some source =>
      db.updateAccounts (fun row => row.id = accountId) fun row =>
        { row with health := healthColumns (report.recorded now config (healthRow account source)) }

def usageRow (event : UsageEvent) : UsageEventRow where
  providerId := event.providerId
  sourceId := some event.sourceId
  event := event
  createdAt := now

def attemptRow (requestId : String) (attempt : UsageAttempt) : UsageAttemptRow where
  requestId := requestId
  providerId := attempt.providerId
  sourceId := some attempt.sourceId
  attempt := attempt
  createdAt := now

def insertUsageEvent (event : UsageEvent) (rows : List UsageEventRow) : List UsageEventRow :=
  if rows.any fun row => row.event.requestId = event.requestId then rows
  else rows ++ [usageRow now event]

def insertUsageAttempt (requestId : String) (rows : List UsageAttemptRow) (attempt : UsageAttempt) :
    List UsageAttemptRow :=
  if rows.any fun row =>
      row.requestId = requestId && row.attempt.attemptNo = attempt.attemptNo then rows
  else rows ++ [attemptRow now requestId attempt]

/-- A request that is recorded twice keeps its first rows. -/
def insertUsageWithAttempts (event : UsageEvent) (attempts : List UsageAttempt) (d : Database) :
    Except DbError Database :=
  if event.virtualKeyId.all fun id => d.virtualKeys.rows.any fun row => row.id = id then
    .ok { d with
      usageEvents := insertUsageEvent now event d.usageEvents
      usageEventAttempts :=
        attempts.foldl (insertUsageAttempt now event.requestId) d.usageEventAttempts }
  else .error .foreignKeyViolation

end Operations

section Runs

variable (service : Service) (readAuth : Value → Option Value) (config : HealthConfig)
  (hashKey : String → String) (documents : Documents)

/-- One transaction of the gateway, or a startup. -/
inductive Step : Database → Database → Prop where
  | control {d : Database} {now : DateTime} {operation : Operation} {control : Db}
      (next : operation.run service readAuth now d.control = .ok control) :
      Step d { d with control := control }
  | preset {d : Database} {now : DateTime} {preset : PresetRow} {control : Db}
      (next : insertProviderPreset now preset d.control = .ok control) :
      Step d { d with control := control }
  | health {d : Database} {now : DateTime} {accountId : String} {report : HealthReport}
      {control : Db} (next : recordHealth now config accountId report d.control = .ok control) :
      Step d { d with control := control }
  | usage {d d' : Database} {now : DateTime} {event : UsageEvent} {attempts : List UsageAttempt}
      (next : insertUsageWithAttempts now event attempts d = .ok d') : Step d d'
  | key {d : Database} {now : DateTime} {store : KeyStore}
      (same : store.toVirtualKeys = d.virtualKeys) (call : KeyCall) :
      Step d { d with virtualKeys := (call.run hashKey now store).toVirtualKeys }
  | startup {d d' : Database} {now : DateTime} (next : migrate now documents d = .ok d') : Step d d'

/-- The states after a first migration of any database. -/
def Reachable (d : Database) : Prop :=
  ∃ before installed now, migrate now documents before = .ok installed ∧
    Relation.ReflTransGen (Step service readAuth config hashKey documents) installed d

end Runs

/-! ## What the operations keep -/

section Kept

variable {now : DateTime} {db db' : Db} {config : GatewayConfig}

theorem statementInvariant_prepared : StatementInvariant fun db => Prepared db.toTables where
  insertSource _ h := ensures_enforce ⟨h.custom, h.stamped⟩
  updateSource _ _ h := ensures_enforce ⟨h.custom, h.stamped⟩
  deleteSource _ h := ensures_enforce ⟨h.custom, Rows.forall_filter h.stamped⟩
  insertAccount _ hStamped h :=
    ensures_enforce ⟨h.custom, Rows.forall_append_singleton h.stamped hStamped⟩
  updateAccounts _ hStamped h :=
    ensures_enforce ⟨h.custom, Rows.forall_updateWhere h.stamped fun row _ _ => hStamped row⟩
  deleteAccount _ h := ensures_enforce ⟨h.custom, Rows.forall_filter h.stamped⟩
  insertCapability _ h := ensures_enforce ⟨h.custom, h.stamped⟩
  updateCapability _ h := ensures_enforce ⟨h.custom, h.stamped⟩
  insertLogicalModel _ h := ensures_enforce ⟨h.custom, h.stamped⟩
  updateLogicalModel _ _ h := ensures_enforce ⟨h.custom, h.stamped⟩
  deleteLogicalModel _ h := ensures_enforce ⟨h.custom, h.stamped⟩
  insertBinding _ h := by
    unfold Db.insertBinding
    split
    · exact ensures_error
    · exact ensures_enforce ⟨h.custom, h.stamped⟩
  updateBinding _ h := by
    unfold Db.updateBinding
    split
    · exact ensures_error
    · exact ensures_enforce ⟨h.custom, h.stamped⟩
  deleteBindings _ h := ensures_enforce ⟨h.custom, h.stamped⟩
  insertRoute _ h := ensures_enforce ⟨h.custom, h.stamped⟩
  updateRoute _ h := ensures_enforce ⟨h.custom, h.stamped⟩
  deleteRoutes _ h := ensures_enforce ⟨h.custom, h.stamped⟩

theorem finishWrite_prepared {service : Service} (h : Prepared db.toTables) :
    Ensures (finishWrite service now db) fun committed => Prepared committed.db.toTables := by
  intro committed hFinish
  rw [finishWrite_tables committed hFinish]
  exact ⟨h.custom, h.stamped⟩

theorem action_prepared {service : Service} {action : Action} (h : Prepared db.toTables)
    (hRun : action.run service now db = .ok db') : Prepared db'.toTables := by
  obtain ⟨request, committed, -, hCommit, rfl⟩ | ⟨-, hOnly | ⟨drawn, hDrawn⟩⟩ :=
    Action.run_cases hRun
  · obtain ⟨edited, hEdited, hFinish⟩ :=
      commitWrite_from statementInvariant_prepared h request committed hCommit
    exact finishWrite_prepared hEdited committed hFinish
  · rw [hOnly]
    exact ⟨h.custom, h.stamped⟩
  · rw [hDrawn]
    exact ⟨h.custom, h.stamped⟩

/-! ## The import of a configuration -/

theorem importSource_prepared {readAuth : Value → Option Value} (h : Prepared db.toTables)
    (provider : ProviderConfig) :
    Ensures (importSource now readAuth db provider) fun db => Prepared db.toTables := by
  unfold importSource
  exact ensures_then fun _ => ensures_statement (statementInvariant_prepared.insertSource _ h)

theorem importAccount_prepared (h : Prepared db.toTables) (account : AccountConfig) :
    Ensures (importAccount now db account) fun db => Prepared db.toTables := by
  have hNew : HealthColumns.Stamped { updatedAt := some now } := ⟨rfl, of_decide_eq_true rfl⟩
  exact ensures_statement
    (ensures_enforce ⟨h.custom, Rows.forall_append_singleton h.stamped hNew⟩)

theorem importLogicalModel_prepared (h : Prepared db.toTables) (name : String) :
    Ensures (importLogicalModel now name db) fun db => Prepared db.toTables := by
  unfold importLogicalModel
  split
  · exact statementInvariant_prepared.insertLogicalModel _ h
  · exact statementInvariant_prepared.updateLogicalModel _ _ h

theorem ensureImportedSourceModel_prepared (h : Prepared db.toTables)
    (sourceId upstreamModelId : String) :
    Ensures (ensureImportedSourceModel now sourceId upstreamModelId db)
      fun db => Prepared db.toTables := by
  unfold ensureImportedSourceModel
  dsimp only
  split
  · exact ensures_enforce ⟨h.custom, h.stamped⟩
  · exact ensures_enforce ⟨h.custom, h.stamped⟩

theorem putImportedCapability_prepared (h : Prepared db.toTables)
    {sourceId upstreamModelId : String} {protocol : Protocol} {mode : SourceProtocolMode}
    {sourceProtocol : Option Protocol} {adapter : Option String} {features : Value} :
    Ensures (putImportedCapability now sourceId upstreamModelId protocol mode sourceProtocol adapter
      features db) fun db => Prepared db.toTables := by
  unfold putImportedCapability
  split
  · exact ensures_enforce ⟨h.custom, h.stamped⟩
  · exact ensures_enforce ⟨h.custom, h.stamped⟩

theorem ensureImportedCapability_prepared (h : Prepared db.toTables) (account : AccountConfig)
    (model upstreamModelId : String) (protocol : Protocol) :
    Ensures (ensureImportedCapability now config account model upstreamModelId protocol db)
      fun db => Prepared db.toTables := by
  unfold ensureImportedCapability
  dsimp only
  split
  · exact ensures_statement (putImportedCapability_prepared h)
  · refine ensures_then fun _ => ?_
    refine ensures_seq (ensures_statement (putImportedCapability_prepared h)) fun db hDb => ?_
    exact ensures_statement (putImportedCapability_prepared hDb)
  · exact ensures_error

theorem importBinding_prepared (h : Prepared db.toTables) (row : Int → BindingRow) :
    Ensures (importBinding now row db) fun db => Prepared db.toTables := by
  unfold importBinding
  dsimp only
  split
  · unfold Db.insertBinding
    split
    · exact ensures_error
    · exact ensures_enforce ⟨h.custom, h.stamped⟩
  · split
    · exact ensures_error
    · exact ensures_enforce ⟨h.custom, h.stamped⟩

theorem importRouteAccount_prepared (h : Prepared db.toTables) (route : RouteConfig)
    (storedId model : String) (entry : String × Nat) :
    Ensures (importRouteAccount now config route storedId model db entry)
      fun db => Prepared db.toTables := by
  unfold importRouteAccount
  refine ensures_then fun account => ?_
  refine ensures_seq (ensures_statement (ensureImportedSourceModel_prepared h _ _)) fun db hDb => ?_
  refine ensures_foldlM (fun db hDb protocol _ => ?_) hDb
  unfold importAccountProtocol
  refine ensures_seq (ensureImportedCapability_prepared hDb _ _ _ _) fun db hDb => ?_
  exact ensures_statement (importBinding_prepared hDb _)

theorem importRouteModel_prepared (h : Prepared db.toTables) (route : RouteConfig)
    (models : List String) (entry : String × Nat) :
    Ensures (importRouteModel now config route models db entry)
      fun db => Prepared db.toTables := by
  unfold importRouteModel
  refine ensures_seq (ensures_statement (importLogicalModel_prepared h _)) fun db hDb => ?_
  refine ensures_then fun stored => ?_
  refine ensures_seq (P := fun db : Db => Prepared db.toTables) ?_ fun db hDb => ?_
  · exact ensures_statement (ensures_enforce ⟨hDb.custom, hDb.stamped⟩)
  · exact ensures_foldlM (fun db hDb entry _ => importRouteAccount_prepared hDb _ _ _ _) hDb

theorem importGatewayConfig_prepared {readAuth : Value → Option Value} (h : Prepared db.toTables) :
    Ensures (importGatewayConfig now readAuth config db) fun db => Prepared db.toTables := by
  unfold importGatewayConfig
  refine ensures_seq (P := fun db : Db => Prepared db.toTables) ?_ fun db hDb => ?_
  · exact ensures_foldlM (fun db hDb provider _ => importSource_prepared hDb provider) h
  refine ensures_seq (P := fun db : Db => Prepared db.toTables) ?_ fun db hDb => ?_
  · exact ensures_foldlM (fun db hDb account _ => importAccount_prepared hDb account) hDb
  refine ensures_foldlM (fun db hDb route _ => ?_) hDb
  unfold importRoute
  refine ensures_then fun models => ?_
  exact ensures_foldlM (fun db hDb entry _ => importRouteModel_prepared hDb _ _ entry) hDb

theorem clearForImport_prepared (h : Prepared db.toTables) :
    Ensures (clearForImport db) fun db => Prepared db.toTables := by
  unfold clearForImport
  split
  · exact ensures_statement (ensures_enforce ⟨h.custom, by simp [Tables.cleared]⟩)
  · exact ensures_pure h

theorem initializeFromConfig_prepared {service : Service} {readAuth : Value → Option Value}
    (h : Prepared db.toTables) (force : Bool) :
    Ensures (initializeFromConfig now service readAuth config force db)
      fun committed => ∀ finished ∈ committed, Prepared finished.db.toTables := by
  unfold initializeFromConfig
  iterate 2 refine ensures_then fun _ => ?_
  split
  · refine ensures_pure fun finished hNone => ?_
    cases hNone
  · refine ensures_seq (clearForImport_prepared h) fun db hDb => ?_
    refine ensures_seq (importGatewayConfig_prepared hDb) fun db hDb => ?_
    refine ensures_seq (finishWrite_prepared hDb) fun finished hFinished => ensures_pure ?_
    intro other hOther
    obtain rfl := Option.some.inj hOther
    exact hFinished

theorem operation_prepared {service : Service} {readAuth : Value → Option Value}
    {operation : Operation} (h : Prepared db.toTables) :
    Ensures (operation.run service readAuth now db) fun db => Prepared db.toTables := by
  cases operation with
  | act action => exact fun db' hRun => action_prepared h hRun
  | importConfig config force =>
    unfold Operation.run
    refine ensures_seq (initializeFromConfig_prepared h force) fun committed hCommitted => ?_
    refine ensures_pure ?_
    cases committed with
    | none => exact h
    | some finished => exact hCommitted finished rfl

/-! ## Presets and reports -/

theorem preset?_insertPreset {t : Tables} {preset : PresetRow} {id : String} {version : Int}
    (h : (t.preset? id version).isSome = true) :
    ((insertPreset preset t).preset? id version).isSome = true := by
  unfold insertPreset
  split
  · exact h
  · obtain ⟨found, hFound⟩ := Option.isSome_iff_exists.mp h
    rw [Tables.preset?, Rows.find_append_singleton, ← Tables.preset?, hFound]
    rfl

theorem insertPreset_prepared {t : Tables} (h : Prepared t) (preset : PresetRow) :
    Prepared (insertPreset preset t) := by
  refine ⟨preset?_insertPreset h.custom, ?_⟩
  unfold insertPreset
  split
  · exact h.stamped
  · exact h.stamped

theorem insertProviderPreset_prepared (h : Prepared db.toTables) (preset : PresetRow) :
    Ensures (insertProviderPreset now preset db) fun db => Prepared db.toTables := by
  unfold insertProviderPreset
  exact ensures_then fun _ => ensures_mapError (ensures_enforce (insertPreset_prepared h _))

theorem countedRow_status (now : DateTime) (health : HealthConfig) (row : AccountHealthRow) :
    (countedRow health now row).2.2.2 ∈ ["cooling_down", "unhealthy"] := by
  unfold countedRow
  split
  · exact List.mem_cons_self
  · dsimp only
    generalize (if windowExpired row.failureWindowStartedAt now health.failureWindow then 1
      else row.consecutiveFailures.toNat + 1) = failures
    split
    · exact List.mem_cons_self
    · exact List.mem_cons_of_mem _ List.mem_cons_self

theorem recordFailure_stamped {health : HealthConfig} {account : AccountRow} {source : SourceRow}
    (h : account.health.Stamped) (origin : String) (errorMessage : Option String) :
    (healthColumns (recordAccountHealthFailure health now origin errorMessage
      (healthRow account source)).1).Stamped := by
  have hNotStale : ∀ status ∈ ["cooling_down", "unhealthy"], status ≠ "stale" := by decide
  have hStatus := hNotStale _ (countedRow_status now health (healthRow account source))
  unfold recordAccountHealthFailure
  dsimp only
  split
  · exact h
  · split
    · exact ⟨rfl, hStatus⟩
    · exact ⟨rfl, hStatus⟩

theorem recordSuccess_stamped {account : AccountRow} {source : SourceRow}
    (h : account.health.Stamped) (origin : String) :
    (healthColumns (recordAccountHealthSuccess now origin (healthRow account source))).Stamped := by
  unfold recordAccountHealthSuccess
  dsimp only
  split
  · exact h
  · split
    · exact ⟨rfl, of_decide_eq_true rfl⟩
    · exact ⟨rfl, of_decide_eq_true rfl⟩

theorem recordHealth_prepared {health : HealthConfig} (h : Prepared db.toTables)
    (accountId : String) (report : HealthReport) :
    Ensures (recordHealth now health accountId report db) fun db => Prepared db.toTables := by
  unfold recordHealth
  split
  · exact fun _ hSame => Except.ok.inj hSame ▸ h
  · next account hAccount =>
    have hStamped := h.stamped account (Rows.find_key hAccount).1
    split
    · exact fun _ hSame => Except.ok.inj hSame ▸ h
    · refine ensures_enforce ⟨h.custom, Rows.forall_updateWhere h.stamped fun row _ _ _ => ?_⟩
      cases report with
      | failure origin errorMessage => exact recordFailure_stamped hStamped origin errorMessage
      | success origin => exact recordSuccess_stamped hStamped origin

end Kept

/-! ## What a migration leaves -/

section Migrated

variable {now : DateTime} {documents : Documents} {d : Database} {versions : List Nat}

/-- Prepared tables and the scripts registered so far. -/
def Registered (versions : List Nat) (d : Database) : Prop :=
  Prepared d.control.toTables ∧ versions ⊆ d.applied

theorem edit_registered {t : Tables} (h : Registered versions d) (hTables : Prepared t) :
    Ensures (d.edit t) (Registered versions) := by
  intro d' hEdit
  obtain ⟨control, rfl, rfl⟩ := edit_ok hEdit
  exact ⟨hTables, h.2⟩

theorem once_registered {version : Nat} {script : Database → Except MigrationError Database}
    (h : Registered versions d) (hScript : Ensures (script d) (Registered versions)) :
    Ensures (d.once version script) (Registered (version :: versions)) := by
  unfold Database.once
  split
  · next hApplied =>
    exact fun _ hSame => Except.ok.inj hSame ▸ ⟨h.1, List.cons_subset.mpr ⟨hApplied, h.2⟩⟩
  · refine ensures_seq hScript fun d hDone => ensures_pure ?_
    unfold Database.register
    split
    · next hApplied => exact ⟨hDone.1, List.cons_subset.mpr ⟨hApplied, hDone.2⟩⟩
    · refine ⟨hDone.1, List.cons_subset.mpr ⟨by simp, ?_⟩⟩
      exact fun _ hIn => List.mem_append_left _ (hDone.2 hIn)

theorem modelCatalog_custom :
    Ensures (modelCatalog now d) fun d => (d.control.preset? "custom" 1).isSome = true := by
  have hCustom : ((insertPreset (customPreset now) d.control.toTables).preset? "custom" 1).isSome =
      true := by
    unfold insertPreset
    split
    · assumption
    · rw [Tables.preset?, Rows.find_append_singleton]
      simp [customPreset]
  unfold modelCatalog
  refine ensures_bind fun d₁ hEdit => ?_
  obtain ⟨control, hControl, rfl⟩ := edit_ok hEdit
  intro d₂ hSources
  obtain ⟨edited, hEdited, rfl⟩ := edit_ok hSources
  rw [← hControl] at hCustom
  rw [hEdited]
  exact hCustom

theorem stampHealth_stamped (row : AccountRow) :
    (resetUnknownStatus (stampHealth row)).health.Stamped := by
  have hStale : "stale" ∉ knownHealthStatuses := by decide
  have hUpdated : (stampHealth row).health.updatedAt.isSome = true := by
    unfold stampHealth
    dsimp only
    split
    · simp
    · next hNot => simpa [Option.isSome_iff_ne_none] using fun hNone => hNot (.inl hNone)
  unfold resetUnknownStatus
  split
  · next hKnown => exact ⟨hUpdated, fun hStatus => hStale (hStatus ▸ hKnown)⟩
  · exact ⟨hUpdated, of_decide_eq_true rfl⟩

theorem healthPersistence_registered (h : (d.control.preset? "custom" 1).isSome = true) :
    Ensures (healthPersistence d) (Registered []) := by
  unfold healthPersistence
  refine ensures_bind fun d₁ hStamp => ?_
  obtain ⟨stamped, hStamped, rfl⟩ := edit_ok hStamp
  intro d₂ hReset
  obtain ⟨reset, hTables, rfl⟩ := edit_ok hReset
  refine ⟨?_, List.nil_subset _⟩
  rw [hTables, hStamped]
  refine ⟨h, ?_⟩
  intro row hRow
  simp only [List.map_map] at hRow
  obtain ⟨old, -, rfl⟩ := List.mem_map.mp hRow
  exact stampHealth_stamped old

theorem restoreBuiltinProviderPresets_registered (h : Registered versions d) :
    Ensures (restoreBuiltinProviderPresets now d) (Registered versions) := by
  unfold restoreBuiltinProviderPresets
  refine ensures_seq (edit_registered h ⟨h.1.custom, h.1.stamped⟩) fun d hDone => ?_
  exact ensures_pure ⟨hDone.1, hDone.2⟩

theorem healthFailureWindow_registered (h : Registered versions d) :
    Ensures (healthFailureWindow now d) (Registered (22 :: versions)) := by
  refine once_registered h (edit_registered h ⟨h.1.custom, ?_⟩)
  intro row hRow
  obtain ⟨old, hOld, rfl⟩ := List.mem_map.mp hRow
  unfold resetFailures
  split
  · refine ⟨rfl, ?_⟩
    dsimp only
    split
    · exact of_decide_eq_true rfl
    · exact of_decide_eq_true rfl
  · exact h.1.stamped old hOld

theorem kimiNativeResponses_registered (h : Registered versions d) :
    Ensures (kimiNativeResponses now documents d) (Registered (23 :: versions)) := by
  refine once_registered h ?_
  refine ensures_seq (edit_registered h (insertPreset_prepared h.1 _)) fun d hDone => ?_
  refine ensures_then fun sources => ?_
  refine ensures_seq (edit_registered hDone ⟨hDone.1.custom, hDone.1.stamped⟩) fun d hDone => ?_
  exact edit_registered hDone ⟨hDone.1.custom, hDone.1.stamped⟩

theorem rediscovered_registered (h : Registered versions d) :
    Ensures (do
      let sources ← d.control.sources.mapM (rediscovered now documents)
      let d ← d.edit { d.control.toTables with sources := sources }
      d.edit { d.control.toTables with
        accounts := d.control.accounts.map (renameAccount now d.control.toTables) })
      (Registered versions) := by
  refine ensures_then fun sources => ?_
  refine ensures_seq (edit_registered h ⟨h.1.custom, h.1.stamped⟩) fun d hDone => ?_
  refine edit_registered hDone ⟨hDone.1.custom, ?_⟩
  intro row hRow
  obtain ⟨old, hOld, rfl⟩ := List.mem_map.mp hRow
  unfold renameAccount
  split
  · exact hDone.1.stamped old hOld
  · exact hDone.1.stamped old hOld

theorem kimiCodeCnDiscovery_registered (h : Registered versions d) :
    Ensures (kimiCodeCnDiscovery now documents d) (Registered (26 :: versions)) := by
  refine once_registered h ?_
  dsimp only
  split
  · exact ensures_seq (ensures_pure h) fun d hDone => rediscovered_registered hDone
  · refine ensures_then fun definition => ?_
    refine ensures_seq (edit_registered h (insertPreset_prepared h.1 _)) fun d hDone => ?_
    exact rediscovered_registered hDone

theorem insertModelPresets_prepared {t : Tables} (h : Prepared t) (presets : List ModelPresetRow) :
    Prepared (presets.foldl (insertModelPreset now) t) := by
  induction presets generalizing t with
  | nil => exact h
  | cons preset presets ih =>
    apply ih
    unfold insertModelPreset
    split
    · exact h
    · exact ⟨h.custom, h.stamped⟩

theorem multimodalModelCapabilities_registered (h : Registered versions d) :
    Ensures (multimodalModelCapabilities now documents d) (Registered (27 :: versions)) := by
  refine once_registered h ?_
  refine ensures_seq (edit_registered h (insertModelPresets_prepared h.1 _)) fun d hDone => ?_
  refine ensures_seq (edit_registered hDone ⟨hDone.1.custom, hDone.1.stamped⟩) fun d hDone => ?_
  refine ensures_seq (edit_registered hDone ⟨hDone.1.custom, hDone.1.stamped⟩) fun d hDone => ?_
  refine ensures_then fun capabilities => ?_
  exact edit_registered hDone ⟨hDone.1.custom, hDone.1.stamped⟩

/-- Whatever it starts from, a migration leaves a database that can be replayed. -/
theorem migrate_replayable : Ensures (migrate now documents d) Replayable := by
  unfold migrate
  refine ensures_seq modelCatalog_custom fun d hCustom => ?_
  refine ensures_seq (healthPersistence_registered hCustom) fun d hDone => ?_
  rw [virtualKeyLifecycle_eq]
  refine ensures_seq (restoreBuiltinProviderPresets_registered hDone) fun d hDone => ?_
  refine ensures_seq (edit_registered hDone ⟨hDone.1.custom, hDone.1.stamped⟩) fun d hDone => ?_
  refine ensures_seq (healthFailureWindow_registered hDone) fun d hDone => ?_
  refine ensures_seq (kimiNativeResponses_registered hDone) fun d hDone => ?_
  refine ensures_seq (kimiCodeCnDiscovery_registered hDone) fun d hDone => ?_
  refine (multimodalModelCapabilities_registered hDone).imp fun d hDone => ⟨hDone.1, ?_⟩
  exact List.Subset.trans (by decide) hDone.2

end Migrated

/-! ## Runs -/

section Runs

variable {service : Service} {readAuth : Value → Option Value} {config : HealthConfig}
  {hashKey : String → String} {documents : Documents} {d d' : Database} {now : DateTime}

theorem insertUsageWithAttempts_ok {event : UsageEvent} {attempts : List UsageAttempt}
    (h : insertUsageWithAttempts now event attempts d = .ok d') :
    d'.control = d.control ∧ d'.applied = d.applied := by
  unfold insertUsageWithAttempts at h
  split at h
  · obtain rfl := Except.ok.inj h
    exact ⟨rfl, rfl⟩
  · cases h

theorem step_replayable (h : Replayable d)
    (hStep : Step service readAuth config hashKey documents d d') : Replayable d' := by
  cases hStep with
  | control next => exact ⟨operation_prepared h.prepared _ next, h.applied⟩
  | preset next => exact ⟨insertProviderPreset_prepared h.prepared _ _ next, h.applied⟩
  | health next => exact ⟨recordHealth_prepared h.prepared _ _ _ next, h.applied⟩
  | usage next =>
    obtain ⟨hControl, hApplied⟩ := insertUsageWithAttempts_ok next
    exact ⟨hControl ▸ h.prepared, hApplied ▸ h.applied⟩
  | key same call => exact ⟨h.prepared, h.applied⟩
  | startup next => exact migrate_replayable _ next

theorem Reachable.replayable (h : Reachable service readAuth config hashKey documents d) :
    Replayable d := by
  obtain ⟨before, installed, now, hInstalled, hRun⟩ := h
  induction hRun with
  | refl => exact migrate_replayable _ hInstalled
  | tail _ hStep ih => exact step_replayable ih hStep

/-- Migrating a reachable database once more changes no row of the five tables exactly
when none of them has a shape the replayed scripts look for. -/
theorem replay_changes_nothing_iff (h : Reachable service readAuth config hashKey documents d)
    (now : DateTime) :
    (∃ d', migrate now documents d = .ok d' ∧ Unchanged d d') ↔ Settled d := by
  constructor
  · rintro ⟨d', hRun, hSame⟩
    exact settled_of_unchanged h.replayable hRun hSame
  · intro hSettled
    exact ⟨d, migrate_of_settled h.replayable hSettled, rfl, rfl, rfl, rfl, rfl⟩

end Runs

/-! ## A source deleted after its requests -/

namespace Orphaned

def documents : Documents := ⟨.object [], .object [], .object [], []⟩

def before : Database where
  control :=
    { toTables := {}
      keys := by decide
      references := by decide
      checks := by decide }
  virtualKeys := KeyStore.empty.toVirtualKeys

def create : Operation := .act (.write (.createSource Relisted.source))

def delete : Operation := .act (.write (.deleteSource "s"))

/-- A request to a source with the custom preset, as the proxy records it. -/
def event : UsageEvent where
  requestId := "request"
  virtualKeyId := none
  providerId := "custom"
  accountId := "a"
  model := "m"
  logicalModel := "m"
  upstreamModelId := some "m"
  sourceId := "s"
  clientSource := "unknown"
  protocolIn := "openai_chat_completions"
  protocolUpstream := "openai_chat_completions"
  mode := "native"
  statusCode := 200
  success := true
  retryCount := 0
  latencyMs := 0
  ttftMs := none
  inputTokens := 0
  outputTokens := 0
  reasoningTokens := 0
  cachedTokens := 0
  cacheReadTokens := 0
  cacheCreationTokens := 0
  totalTokens := 0
  usageSource := "missing"
  degraded := false
  routeId := none
  streamed := false
  errorSummary := none
  fallbackReason := none
  responseModel := none
  requestedReasoningEffort := none
  responseReasoningEffort := none

def runs (operation : Operation) (d : Database) (test : Database → Bool) : Bool :=
  succeeds (operation.run Relisted.service (fun _ => none) 0 d.control) fun control =>
    test { d with control := control }

def records (d : Database) (test : Database → Bool) : Bool :=
  succeeds (insertUsageWithAttempts 0 event [] d) test

def migrates (d : Database) (test : Database → Bool) : Bool :=
  succeeds (migrate 0 documents d) test

abbrev Reached (d : Database) : Prop :=
  Reachable Relisted.service (fun _ => none) {} id documents d

def providers (d : Database) : List String := d.usageEvents.map UsageEventRow.providerId

variable {d : Database} {test : Database → Bool}

theorem exists_of_runs {operation : Operation} (h : runs operation d test = true)
    (hReached : Reached d) : ∃ d', Reached d' ∧ test d' = true := by
  obtain ⟨control, hRun, hTest⟩ := exists_of_succeeds h
  obtain ⟨before, installed, now, hInstalled, hSteps⟩ := hReached
  exact ⟨_, ⟨before, installed, now, hInstalled, hSteps.tail (.control hRun)⟩, hTest⟩

theorem exists_of_records (h : records d test = true) (hReached : Reached d) :
    ∃ d', Reached d' ∧ test d' = true := by
  obtain ⟨d', hRun, hTest⟩ := exists_of_succeeds h
  obtain ⟨before, installed, now, hInstalled, hSteps⟩ := hReached
  exact ⟨d', ⟨before, installed, now, hInstalled, hSteps.tail (.usage hRun)⟩, hTest⟩

theorem exists_of_migrates (h : migrates before test = true) :
    ∃ d', Reached d' ∧ test d' = true := by
  obtain ⟨d', hRun, hTest⟩ := exists_of_succeeds h
  exact ⟨d', ⟨before, d', 0, hRun, .refl⟩, hTest⟩

end Orphaned

/-- The row of a request through a custom source still names the preset after the source
is deleted, and the next startup replaces the name. -/
theorem replay_rewrites_deleted_source :
    ∃ d d', Orphaned.Reached d ∧ migrate 0 Orphaned.documents d = .ok d' ∧
      Orphaned.providers d = ["custom"] ∧ Orphaned.providers d' = ["unknown"] ∧
      ¬ Unchanged d d' := by
  obtain ⟨installed, hInstalled, hTest⟩ := Orphaned.exists_of_migrates (show
    Orphaned.migrates Orphaned.before (fun d => Orphaned.runs Orphaned.create d fun d =>
      Orphaned.records d fun d => Orphaned.runs Orphaned.delete d fun d =>
        decide (Orphaned.providers d = ["custom"]) &&
          Orphaned.migrates d fun d' => decide (Orphaned.providers d' = ["unknown"])) = true by
    decide)
  obtain ⟨created, hCreated, hTest⟩ := Orphaned.exists_of_runs hTest hInstalled
  obtain ⟨recorded, hRecorded, hTest⟩ := Orphaned.exists_of_records hTest hCreated
  obtain ⟨d, hReached, hTest⟩ := Orphaned.exists_of_runs hTest hRecorded
  simp only [Bool.and_eq_true, decide_eq_true_eq] at hTest
  obtain ⟨hCustom, hTest⟩ := hTest
  obtain ⟨d', hRun, hTest⟩ := exists_of_succeeds hTest
  have hUnknown : Orphaned.providers d' = ["unknown"] := by simpa using hTest
  refine ⟨d, d', hReached, hRun, hCustom, hUnknown, fun hSame => ?_⟩
  have hProviders := congrArg (List.map UsageEventRow.providerId) hSame.usageEvents
  exact absurd ((hUnknown.symm.trans hProviders).trans hCustom) (by decide)

theorem replay_changes_nothing_iff_recorded :
    ∃ d, Orphaned.Reached d ∧ Orphaned.providers d = ["custom"] ∧
      ((∃ d', migrate 0 Orphaned.documents d = .ok d' ∧ Unchanged d d') ↔ Settled d) := by
  obtain ⟨installed, hInstalled, hTest⟩ := Orphaned.exists_of_migrates (show
    Orphaned.migrates Orphaned.before (fun d => Orphaned.runs Orphaned.create d fun d =>
      Orphaned.records d fun d => decide (Orphaned.providers d = ["custom"])) = true by
    decide)
  obtain ⟨created, hCreated, hTest⟩ := Orphaned.exists_of_runs hTest hInstalled
  obtain ⟨recorded, hRecorded, hTest⟩ := Orphaned.exists_of_records hTest hCreated
  exact ⟨recorded, hRecorded, of_decide_eq_true hTest, replay_changes_nothing_iff hRecorded 0⟩

end AiGateway.Migrations
