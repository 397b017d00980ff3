import AiGateway.Infra.RoundTrip
import AiGateway.Infra.Serving

/-!
# The round trip of every reachable state

No operation of the control plane touches a preset or gives a binding a number below
one, so the states of a run meet what the round trip of one state asks for.
-/

namespace AiGateway.Ops

set_option autoImplicit false

open AiGateway.Catalog AiGateway.Checked AiGateway.Config AiGateway.ControlPlane AiGateway.Health
  AiGateway.Json AiGateway.Order

/-- The database as the migrations leave it. -/
structure Installed (start : Db) : Prop where
  isEmpty : start.IsEmpty
  presetsValid : PresetsValid start.toTables
  sequence : 1 ≤ start.nextBindingId

/-- The presets of the start, and bindings numbered from one. -/
def Numbered (start t : Tables) : Prop :=
  t.providerPresets = start.providerPresets ∧ t.modelPresets = start.modelPresets ∧
    1 ≤ t.nextBindingId ∧ ∀ row ∈ t.bindings, 1 ≤ row.id

section Numbered

variable {start : Tables}

theorem enforce_numbered {t : Tables} (h : Numbered start t) :
    Ensures (enforce t) fun db => Numbered start db.toTables :=
  ensures_enforce (P := Numbered start) h

/-- Rows may go. -/
theorem enforce_fewer {db : Db} {t : Tables} (h : Numbered start db.toTables)
    (hPresets : t.providerPresets = db.providerPresets) (hModels : t.modelPresets = db.modelPresets)
    (hNext : t.nextBindingId = db.nextBindingId) (hBindings : t.bindings ⊆ db.bindings) :
    Ensures (enforce t) fun db => Numbered start db.toTables := by
  obtain ⟨hStart, hStartModels, hSequence, hIds⟩ := h
  apply enforce_numbered
  refine ⟨hPresets.trans hStart, hModels.trans hStartModels, hNext ▸ hSequence, ?_⟩
  exact fun row hRow => hIds row (hBindings hRow)

theorem insertBinding_numbered {db : Db} {row : Int → BindingRow} (hId : ∀ id, (row id).id = id)
    (h : Numbered start db.toTables) :
    Ensures (db.insertBinding row) fun db => Numbered start db.toTables := by
  obtain ⟨hPresets, hModels, hSequence, hIds⟩ := h
  unfold Db.insertBinding
  split
  · exact ensures_error
  · apply enforce_numbered
    refine ⟨hPresets, hModels, ?_, ?_⟩
    · show 1 ≤ db.nextBindingId + 1
      omega
    · intro other hOther
      obtain hOld | hNew := List.mem_append.mp hOther
      · exact hIds other hOld
      · rw [List.mem_singleton.mp hNew, hId]
        exact hSequence

theorem updateBinding_numbered {db : Db} {id : Int} {f : BindingRow → BindingRow}
    (hId : ∀ row, (f row).id = row.id) (h : Numbered start db.toTables) :
    Ensures (db.updateBinding id f) fun db => Numbered start db.toTables := by
  obtain ⟨hPresets, hModels, hSequence, hIds⟩ := h
  unfold Db.updateBinding
  split
  · exact ensures_error
  · apply enforce_numbered
    refine ⟨hPresets, hModels, hSequence, ?_⟩
    intro row hRow
    obtain hOld | ⟨old, hOld, -, rfl⟩ := Rows.mem_updateWhere hRow
    · exact hIds row hOld
    · rw [hId]
      exact hIds old hOld

theorem statementInvariant_numbered :
    StatementInvariant fun db => Numbered start db.toTables where
  insertSource _ h := enforce_numbered h
  updateSource _ _ h := enforce_numbered h
  deleteSource _ h := enforce_fewer h rfl rfl rfl (List.filter_subset_self _)
  insertAccount _ _ h := enforce_numbered h
  updateAccounts _ _ h := enforce_numbered h
  deleteAccount _ h := enforce_fewer h rfl rfl rfl (List.filter_subset_self _)
  insertCapability _ h := enforce_numbered h
  updateCapability _ h := enforce_numbered h
  insertLogicalModel _ h := enforce_numbered h
  updateLogicalModel _ _ h := enforce_numbered h
  deleteLogicalModel _ h := enforce_fewer h rfl rfl rfl (List.filter_subset_self _)
  insertBinding hId h := insertBinding_numbered hId h
  updateBinding hId h := updateBinding_numbered hId h
  deleteBindings _ h := enforce_fewer h rfl rfl rfl (List.filter_subset_self _)
  insertRoute _ h := enforce_numbered h
  updateRoute _ h := enforce_numbered h
  deleteRoutes _ h := enforce_numbered h

theorem Action.run_numbered {service : Service} {now : DateTime} {db db' : Db} {action : Action}
    (h : Numbered start db.toTables) (hRun : action.run service now db = .ok db') :
    Numbered start db'.toTables := by
  obtain ⟨request, committed, -, hCommit, rfl⟩ | ⟨-, hOnly | ⟨drawn, hDrawn⟩⟩ :=
    Action.run_cases hRun
  · obtain ⟨edited, hEdited, hFinish⟩ :=
      commitWrite_from statementInvariant_numbered h request committed hCommit
    rw [finishWrite_tables committed hFinish]
    exact hEdited
  · rw [hOnly]
    exact h
  · obtain ⟨hPresets, hModels, hSequence, hIds⟩ := h
    rw [hDrawn]
    refine ⟨hPresets, hModels, ?_, hIds⟩
    show 1 ≤ db.nextBindingId + drawn
    omega

end Numbered

theorem Run.numbered {service : Service} {start db : Db} {history : List (Db × Action)}
    (hStart : Installed start) (hRun : Run service start history db) :
    Numbered start.toTables db.toTables := by
  induction hRun with
  | start =>
    refine ⟨rfl, rfl, hStart.sequence, ?_⟩
    rw [hStart.isEmpty.bindings]
    intro row hRow
    cases hRow
  | step _ next ih => exact Action.run_numbered ih next

theorem Numbered.presetsValid {start t : Tables} (h : Numbered start t)
    (hStart : PresetsValid start) : PresetsValid t where
  providerPresets := h.1 ▸ hStart.providerPresets
  modelPresets := h.2.1 ▸ hStart.modelPresets

/-- A state reached without conflicting discoveries, none of whose texts is redacted,
makes the round trip exactly when its tables fit into an export and no live binding
has stopped being routable. -/
theorem reachable_roundTrips_iff {ops : OpsRepository} {service : Service} {start db : Db}
    {history : List (Db × Action)} (hOps : Standard ops) (hCollation : Linear service.collation)
    (hStart : Installed start) (hRun : Run service start history db)
    (hDiscoveries : NoDiscoveryConflict service history) (hText : Unredacted ops.urls db.toTables) :
    RoundTrips ops service db ↔ FitsExport db.toTables ∧ LiveRoutable db.toTables := by
  obtain ⟨hSound, hLoadable⟩ := hRun.sound_and_loadable_iff hStart.isEmpty
  have hNumbered := Run.numbered hStart hRun
  have hLast : db ∈ visited history db := by simp [visited]
  exact roundTrips_iff hOps hText (hNumbered.presetsValid hStart.presetsValid) hCollation
    (hSound hDiscoveries) hNumbered.2.2.2 (hLoadable.mpr hDiscoveries db hLast)

/-! ## A disabled account -/

section Test

variable (urls : Urls)

def keepsText (text : String) : Bool := sanitizeText urls text = text

/-- An object of texts that stay as they are. -/
def keepsMembers : Value → Bool
  | .object fields => fields.all fun field =>
    !isSensitiveKey field.1 && field.2.asStr.any (keepsText urls)
  | _ => false

def isUnredacted (t : Tables) : Bool :=
  (t.providerPresets.all fun row => keepsText urls row.id) &&
  (t.modelPresets.all fun row => keepsText urls row.id) &&
  (t.sources.all fun row => keepsText urls row.id && keepsText urls row.displayName &&
    keepsText urls row.baseUrl && keepsMembers urls row.endpoints) &&
  (t.accounts.all fun row => keepsText urls row.id && keepsText urls row.displayName &&
    row.credentialEnv.all (keepsText urls)) &&
  (t.sourceModels.all fun row => keepsText urls row.upstreamModelId) &&
  (t.capabilities.all fun row => row.adapter.all (keepsText urls)) &&
  (t.logicalModels.all fun row => keepsText urls row.id && keepsText urls row.publicName &&
    keepsText urls row.displayName) &&
  (t.routes.all fun row => keepsText urls row.id && keepsText urls row.strategy)

variable {urls}

theorem sanitizeMember_of_keepsMembers {value : Value} (h : keepsMembers urls value = true) :
    sanitizeMember urls value = value := by
  cases value with
  | object fields =>
    rw [keepsMembers, List.all_eq_true] at h
    suffices hFields : sanitizeFields urls fields = fields by
      simp [sanitizeMember, sanitizeJson, hideSecret, hFields]
    induction fields with
    | nil => rfl
    | cons field rest ih =>
      obtain ⟨key, value⟩ := field
      have hRest := ih fun field hField => h field (List.mem_cons_of_mem _ hField)
      have hField := h (key, value) List.mem_cons_self
      simp only [Bool.and_eq_true, Bool.not_eq_true'] at hField
      obtain ⟨hKey, hValue⟩ := hField
      cases value with
      | string text =>
        have hText : sanitizeText urls text = text := by simpa [Value.asStr, keepsText] using hValue
        rw [sanitizeText] at hText
        simp only [sanitizeFields, hRest, hKey, sanitizeJson, hideSecret, hText]
        rfl
      | _ => cases hValue
  | _ => cases h

theorem unredacted_of_isUnredacted {t : Tables} (h : isUnredacted urls t = true) :
    Unredacted urls t := by
  simp only [isUnredacted, Bool.and_eq_true, List.all_eq_true, Option.all_eq_true, keepsText,
    decide_eq_true_eq] at h
  obtain ⟨⟨⟨⟨⟨⟨⟨hPresets, hModelPresets⟩, hSources⟩, hAccounts⟩, hSourceModels⟩, hCapabilities⟩,
    hLogicalModels⟩, hRoutes⟩ := h
  refine ⟨hPresets, hModelPresets, ?_, ?_, hSourceModels, hCapabilities, ?_, hRoutes⟩
  · intro row hRow
    obtain ⟨⟨⟨hId, hName⟩, hUrl⟩, hEndpoints⟩ := hSources row hRow
    exact ⟨hId, hName, hUrl, sanitizeMember_of_keepsMembers hEndpoints⟩
  · intro row hRow
    obtain ⟨⟨hId, hName⟩, hEnv⟩ := hAccounts row hRow
    exact ⟨hId, hName, hEnv⟩
  · intro row hRow
    obtain ⟨⟨hId, hPublic⟩, hName⟩ := hLogicalModels row hRow
    exact ⟨hId, hPublic, hName⟩

end Test

/-- Discoveries before the first route cannot conflict. -/
def discoversFirst (history : List (Db × Action)) : Bool :=
  history.all fun step =>
    match step.2 with
    | .applyDiscovery _ => step.1.routes.isEmpty
    | _ => true

theorem noDiscoveryConflict_of_discoversFirst {service : Service} {history : List (Db × Action)}
    (h : discoversFirst history = true) : NoDiscoveryConflict service history := by
  intro db input hStep
  have hRoutes : db.routes = [] := by
    simpa using List.all_eq_true.mp h _ hStep
  have hRows : listedRows service db.toTables input = [] := by
    simp [listedRows, joinedRows, hRoutes, orderedRows]
  intro row hRow
  rw [hRows] at hRow
  cases hRow

namespace Backup

/-- Plain addresses of one scheme. -/
def plainUrls : Urls where
  parse text := if Text.startsWith text "https://" then some ⟨"", none, none, none⟩ else none
  cleaned value _ := value

def recovery : OpsRepository := { repository with urls := plainUrls }

theorem standard : Standard recovery where
  urls text hColon := by
    have hScheme : Text.startsWith text "https://" = false := by
      rw [Bool.eq_false_iff]
      intro hStarts
      have hPrefix := List.isPrefixOf_iff_prefix.mp hStarts
      exact hColon (hPrefix.subset (by decide))
    simp [recovery, plainUrls, hScheme]
  digest _ := by
    dsimp only [recovery, repository]
    decide
  schema := by decide
  migration := by decide

theorem collation_linear : Linear Relisted.service.collation where
  total a b := by simpa [Relisted.service] using String.le_total a b
  trans a b c := by simpa [Relisted.service] using String.le_trans
  antisymm a b := by simpa [Relisted.service] using String.le_antisymm

theorem installed : Installed Relisted.start where
  isEmpty := by constructor <;> rfl
  presetsValid := by constructor <;> simp [Relisted.start]
  sequence := by decide

def served : Except ControlPlaneError (List (Db × Action) × Db) :=
  perform Relisted.service Relisted.start (Relisted.served.map fun action => (0, action))

/-- The only account is disabled, which leaves its binding confirmed and enabled. -/
def disabled : Except ControlPlaneError (List (Db × Action) × Db) :=
  perform Relisted.service Relisted.start
    ((Relisted.served ++ [Action.write (.setAccountEnabled "a" false)]).map fun action => (0, action))

def exports (db : Db) : Bool := (recovery.exportControlPlane Relisted.service db).isOk

def restores (db : Db) : Bool :=
  succeeds (recovery.exportControlPlane Relisted.service db) fun exported =>
    (recovery.restoreControlPlane Relisted.service exported true db).isOk

end Backup

theorem reachable_roundTrips_iff_served :
    ∃ history db, Run Relisted.service Relisted.start history db ∧ db.bindings.length = 1 ∧
      (RoundTrips Backup.recovery Relisted.service db ↔
        FitsExport db.toTables ∧ LiveRoutable db.toTables) := by
  obtain ⟨run, hRun, hTest⟩ := exists_of_succeeds (show succeeds Backup.served
      (fun run => discoversFirst run.1 && isUnredacted Backup.recovery.urls run.2.toTables &&
        run.2.bindings.length = 1) = true by decide)
  simp only [Bool.and_eq_true, decide_eq_true_eq] at hTest
  obtain ⟨⟨hFirst, hText⟩, hBindings⟩ := hTest
  have hRun := run_of_perform run hRun
  refine ⟨run.1, run.2, hRun, hBindings, ?_⟩
  exact reachable_roundTrips_iff Backup.standard Backup.collation_linear Backup.installed hRun
    (noDiscoveryConflict_of_discoversFirst hFirst) (unredacted_of_isUnredacted hText)

/-- The binding of the disabled account is exported, and refused when it is inserted
again. -/
theorem disabled_account_not_restored :
    ∃ history db, Installed Relisted.start ∧ Run Relisted.service Relisted.start history db ∧
      (∃ exported, Backup.recovery.exportControlPlane Relisted.service db = .ok exported) ∧
      ¬ RoundTrips Backup.recovery Relisted.service db := by
  obtain ⟨run, hRun, hTest⟩ := exists_of_succeeds (show succeeds Backup.disabled
      (fun run => Backup.exports run.2 && !Backup.restores run.2) = true by decide +kernel)
  simp only [Bool.and_eq_true, Bool.not_eq_true'] at hTest
  obtain ⟨hExports, hRestores⟩ := hTest
  refine ⟨run.1, run.2, Backup.installed, run_of_perform run hRun, ?_, ?_⟩
  · unfold Backup.exports at hExports
    cases hExport : Backup.recovery.exportControlPlane Relisted.service run.2 with
    | ok exported => exact ⟨exported, rfl⟩
    | error error =>
      rw [hExport] at hExports
      cases hExports
  · rintro ⟨exported, committed, snapshot, hExport, hRestore, -⟩
    have hOk : Backup.restores run.2 = true := by
      rw [Backup.restores, hExport, Checked.succeeds, hRestore]
      rfl
    rw [hOk] at hRestores
    cases hRestores

end AiGateway.Ops
