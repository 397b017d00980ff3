import AiGateway.ControlPlane.ImportRuns
import AiGateway.Infra.Migrations
import Mathlib.Data.List.MinMax

/-!
# Replaying the migrations

What running the scripts once more does to a database that has gone through them:
those behind the registry do nothing, the repairs of accounts and keys find nothing,
and each of the others finds nothing exactly when no row has the shape it looks for.
-/

namespace AiGateway.Migrations

set_option autoImplicit false

open AiGateway.Catalog AiGateway.Checked AiGateway.Config AiGateway.ControlPlane AiGateway.Health
  AiGateway.Json

/-- The tables as the scripts leave them and no operation changes them. -/
structure Prepared (t : Tables) : Prop where
  custom : (t.preset? "custom" 1).isSome = true
  stamped : ∀ row ∈ t.accounts, row.health.Stamped

/-- The scripts that look into the registry. -/
def onceVersions : List Nat := [22, 23, 26, 27]

structure Replayable (d : Database) : Prop where
  prepared : Prepared d.control.toTables
  applied : onceVersions ⊆ d.applied

/-- A usage row whose provider is a placeholder for its source names the preset of
that source, or says that there is no source. -/
def Attributed (t : Tables) (sourceId : Option String) (providerId : String) : Prop :=
  ∀ source ∈ sourceId, providerId ∈ ["custom", source] → vendor t source = providerId

/-- A source that a built-in preset will take over. -/
def Reassigned (presets : List PresetRow) (row : SourceRow) : Prop :=
  row.providerPresetId = "custom" ∧ row.id ∈ builtinProviders ∧
    ∃ preset ∈ presets, preset.id = row.id

/-- A source of a built-in preset without the authentication the preset defines. -/
def Unauthenticated (t : Tables) (row : SourceRow) : Prop :=
  row.providerPresetId ∈ builtinProviders ∧ row.authConfig = .object [] ∧
    ∃ preset ∈ t.preset? row.providerPresetId row.providerPresetVersion,
      (credentialHeader preset).isSome = true

/-- No row has a shape that one of the scripts looks for. -/
structure Settled (d : Database) : Prop where
  providers : ∀ provider ∈ d.providers, (d.control.source? provider.id).isSome = true
  presets : ∀ row ∈ d.control.sources, ¬ Reassigned d.control.providerPresets row
  authentication : ∀ row ∈ d.control.sources, ¬ Unauthenticated d.control.toTables row
  events : ∀ row ∈ d.usageEvents, Attributed d.control.toTables row.sourceId row.providerId
  attempts : ∀ row ∈ d.usageEventAttempts,
    Attributed d.control.toTables row.sourceId row.providerId

/-- The rows of five tables are the same. -/
structure Unchanged (d d' : Database) : Prop where
  sources : d'.control.sources = d.control.sources
  accounts : d'.control.accounts = d.control.accounts
  usageEvents : d'.usageEvents = d.usageEvents
  usageEventAttempts : d'.usageEventAttempts = d.usageEventAttempts
  virtualKeys : d'.virtualKeys = d.virtualKeys

/-! ## Statements -/

theorem enforce_self (db : Db) : enforce db.toTables = .ok db := by
  obtain ⟨t, hKeys, hReferences, hChecks⟩ := db
  simp only [enforce, dif_pos hKeys, dif_pos hReferences, dif_pos hChecks]

section Statements

variable {d d' : Database}

theorem edit_self (d : Database) : d.edit d.control.toTables = .ok d := by
  rw [Database.edit, enforce_self]
  rfl

theorem edit_ok {t : Tables} (h : d.edit t = .ok d') :
    ∃ control : Db, control.toTables = t ∧ d' = { d with control := control } := by
  obtain ⟨control, hControl, hResult⟩ := bind_eq_ok.mp h
  exact ⟨control, enforce_ok (mapError_ok.mp hControl), (pure_eq_ok.mp hResult).symm⟩

theorem once_of_applied {version : Nat} {script : Database → Except MigrationError Database}
    (h : version ∈ d.applied) : d.once version script = .ok d := by
  rw [Database.once, if_pos h]

theorem insertPreset_of_isSome {preset : PresetRow} {t : Tables}
    (h : (t.preset? preset.id preset.version).isSome = true) : insertPreset preset t = t := by
  rw [insertPreset, if_pos h]

end Statements

/-! ## Repairs that find nothing -/

theorem stampHealth_eq {row : AccountRow} (hCheck : row.Check) (hStamped : row.health.Stamped) :
    stampHealth row = row := by
  have hSources : ∀ source ∈ healthSources, sqlTrimmedEmpty source = false := by decide
  have hNone : row.health.updatedAt.isNone = false := by simpa using hStamped.1
  have hFailures : ¬ row.health.consecutiveFailures < 0 := Int.not_lt.mpr hCheck.2.2
  simp [stampHealth, hNone, hFailures, hSources row.health.source hCheck.2.1]

theorem resetUnknownStatus_eq {row : AccountRow} (hCheck : row.Check)
    (hStamped : row.health.Stamped) : resetUnknownStatus row = row := by
  have hKnown : ∀ status ∈ healthStatuses, status ≠ "stale" → status ∈ knownHealthStatuses := by
    decide
  rw [resetUnknownStatus, if_pos (hKnown _ hCheck.1 hStamped.2)]

theorem map_eq_self_iff {α : Type} {f : α → α} {rows : List α} :
    rows.map f = rows ↔ ∀ row ∈ rows, f row = row := by
  conv_lhs => rhs; rw [← List.map_id' rows]
  exact List.map_inj_left

theorem healthPersistence_of_prepared {d : Database} (h : Prepared d.control.toTables) :
    healthPersistence d = .ok d := by
  have hStamp : d.control.accounts.map stampHealth = d.control.accounts :=
    map_eq_self_iff.mpr fun row hRow => stampHealth_eq (d.control.checks.accounts row hRow)
      (h.stamped row hRow)
  have hReset : d.control.accounts.map resetUnknownStatus = d.control.accounts :=
    map_eq_self_iff.mpr fun row hRow => resetUnknownStatus_eq (d.control.checks.accounts row hRow)
      (h.stamped row hRow)
  have hSelf := edit_self d
  rw [healthPersistence, hStamp]
  refine bind_eq_ok.mpr ⟨d, hSelf, ?_⟩
  rw [hReset]
  exact hSelf

theorem virtualKeyLifecycle_eq (d : Database) : virtualKeyLifecycle d = d := by
  have hRows := repaired_virtualKeys d.virtualKeys.checked
  simp only [virtualKeyLifecycle, hRows]

/-! ## Sources -/

section Sources

variable {now : DateTime} {presets : List PresetRow} {t : Tables} {row : SourceRow}

theorem latestPreset?_eq_none_iff {id : String} :
    latestPreset? presets id = none ↔ ∀ preset ∈ presets, preset.id ≠ id := by
  constructor
  · intro hNone preset hPreset hId
    -- the newest of the versions would have been found
    cases hNewest : (presets.filter fun other => other.id = id).argmax PresetRow.version with
    | none =>
      rw [List.argmax_eq_none, List.filter_eq_nil_iff] at hNewest
      exact hNewest preset hPreset (by simpa using hId)
    | some newest =>
      have hMem := List.mem_filter.mp (List.argmax_mem hNewest)
      have hOthers : (presets.all fun other =>
          decide (other.id ≠ id) || decide (other.version ≤ newest.version)) = true := by
        refine List.all_eq_true.mpr fun other hOther => ?_
        by_cases hSame : other.id = id
        · have hListed : other ∈ presets.filter fun other => other.id = id :=
            List.mem_filter.mpr ⟨hOther, by simpa using hSame⟩
          simp [List.le_of_mem_argmax hListed hNewest]
        · simp [hSame]
      have hNot := List.find?_eq_none.mp hNone newest hMem.1
      rw [hOthers, Bool.and_true] at hNot
      exact hNot hMem.2
  · intro hOther
    refine List.find?_eq_none.mpr fun preset hPreset => ?_
    simp [hOther preset hPreset]

theorem latestPreset?_id {id : String} {preset : PresetRow}
    (h : latestPreset? presets id = some preset) : preset.id = id := by
  have hFound := List.find?_some h
  simp only [Bool.and_eq_true, decide_eq_true_eq] at hFound
  exact hFound.1

theorem restorePreset_of_reassigned (h : Reassigned presets row) :
    (restorePreset now presets row).providerPresetId = row.id := by
  obtain ⟨hCustom, hBuiltin, preset, hPreset, hId⟩ := h
  rw [restorePreset, if_pos ⟨hCustom, hBuiltin⟩]
  cases hLatest : latestPreset? presets row.id with
  | none => exact absurd hId (latestPreset?_eq_none_iff.mp hLatest preset hPreset)
  | some latest => exact latestPreset?_id hLatest

theorem restorePreset_of_not_reassigned (h : ¬ Reassigned presets row) :
    restorePreset now presets row = row := by
  rw [restorePreset]
  split
  · next hShape =>
    split
    · next latest hLatest =>
      have hListed := List.mem_of_find?_eq_some hLatest
      exact absurd ⟨hShape.1, hShape.2, latest, hListed, latestPreset?_id hLatest⟩ h
    · rfl
  · rfl

theorem isEmptyObject_iff {value : Value} : isEmptyObject value = true ↔ value = .object [] := by
  unfold isEmptyObject
  split
  · simp
  · next hOther => simpa using hOther

theorem repairAuth_of_unauthenticated (h : Unauthenticated t row) :
    (repairAuth now t row).authConfig ≠ .object [] := by
  obtain ⟨hBuiltin, hEmpty, preset, hPreset, hHeader⟩ := h
  obtain ⟨header, hHeader⟩ := Option.isSome_iff_exists.mp hHeader
  rw [repairAuth, if_pos ⟨hBuiltin, isEmptyObject_iff.mpr hEmpty⟩, hPreset]
  dsimp only
  rw [hHeader]
  intro hNone
  have hGet := Fields.get_insert (Fields.insert [] "credential_header" header) "default_headers"
    ((preset.definition.get "default_headers").getD (.object [])) "default_headers"
  have hFields : Fields.insert _ _ _ = [] := Value.object.inj hNone
  rw [hFields, if_pos rfl] at hGet
  cases hGet

theorem repairAuth_of_not_unauthenticated (h : ¬ Unauthenticated t row) :
    repairAuth now t row = row := by
  rw [repairAuth]
  split
  · next hShape =>
    split
    · next preset hPreset =>
      split
      · next header hHeader =>
        refine absurd ⟨hShape.1, isEmptyObject_iff.mp hShape.2, preset, hPreset, ?_⟩ h
        rw [hHeader]
        rfl
      · rfl
    · rfl
  · rfl

theorem repairAuth_providerPresetId :
    (repairAuth now t row).providerPresetId = row.providerPresetId := by
  rw [repairAuth]
  split
  · split
    · split
      · rfl
      · rfl
    · rfl
  · rfl

/-- The repair does not undo what the restoring of the preset has changed. -/
theorem repaired_eq_self_iff :
    repairAuth now t (restorePreset now presets row) = row ↔
      ¬ Reassigned presets row ∧ ¬ Unauthenticated t row := by
  constructor
  · intro hSame
    have hPreset : ¬ Reassigned presets row := by
      intro hReassigned
      have hId := congrArg SourceRow.providerPresetId hSame
      rw [repairAuth_providerPresetId, restorePreset_of_reassigned hReassigned,
        hReassigned.1] at hId
      have hBuiltin := hReassigned.2.1
      rw [hId] at hBuiltin
      exact absurd hBuiltin (by decide)
    rw [restorePreset_of_not_reassigned hPreset] at hSame
    refine ⟨hPreset, fun hUnauthenticated => ?_⟩
    have hRepaired : (repairAuth now t row).authConfig ≠ .object [] :=
      repairAuth_of_unauthenticated hUnauthenticated
    rw [hSame] at hRepaired
    exact hRepaired hUnauthenticated.2.1
  · rintro ⟨hPreset, hAuth⟩
    rw [restorePreset_of_not_reassigned hPreset, repairAuth_of_not_unauthenticated hAuth]

end Sources

/-! ## Usage rows -/

section Usage

variable {t a b : Tables}

theorem vendor_congr (h : a.sources = t.sources) : vendor a = vendor t := by
  funext source
  simp only [vendor, Tables.source?, h]

theorem attributed_congr (h : a.sources = t.sources) : attributed a = attributed t := by
  funext placeholders sourceId providerId
  simp only [attributed, vendor_congr h]

/-- The second attribution covers the first. -/
theorem attributed_twice (sourceId : Option String) (providerId : String) :
    attributed t (fun source => ["custom", source]) sourceId
        (attributed t (fun source => [source]) sourceId providerId) =
      attributed t (fun source => ["custom", source]) sourceId providerId := by
  cases sourceId with
  | none => rfl
  | some source =>
    dsimp only [attributed]
    by_cases hSource : providerId = source
    · simp [hSource]
    · simp [hSource]

theorem attributed_eq_self_iff (sourceId : Option String) (providerId : String) :
    attributed t (fun source => ["custom", source]) sourceId providerId = providerId ↔
      Attributed t sourceId providerId := by
  cases sourceId with
  | none => simp [attributed, Attributed]
  | some source =>
    simp only [attributed, Attributed, Option.mem_def, Option.some.injEq, forall_eq']
    split
    · next hPlaceholder => exact ⟨fun h _ => h, fun h => h hPlaceholder⟩
    · next hOther => exact ⟨fun _ h => absurd h hOther, fun _ => rfl⟩

theorem attributed_source_of_attributed {sourceId : Option String} {providerId : String}
    (h : Attributed t sourceId providerId) :
    attributed t (fun source => [source]) sourceId providerId = providerId := by
  cases sourceId with
  | none => rfl
  | some source =>
    dsimp only [attributed]
    split
    · next hSource => exact h source rfl (List.mem_cons_of_mem _ hSource)
    · rfl

theorem attributeUsage_eq_self {placeholders : String → List String} {d : Database}
    (hEvents : ∀ row ∈ d.usageEvents,
      attributed d.control.toTables placeholders row.sourceId row.providerId = row.providerId)
    (hAttempts : ∀ row ∈ d.usageEventAttempts,
      attributed d.control.toTables placeholders row.sourceId row.providerId = row.providerId) :
    attributeUsage placeholders d = d := by
  let provider := attributed d.control.toTables placeholders
  have hEventRows : (d.usageEvents.map fun row =>
      { row with providerId := provider row.sourceId row.providerId }) = d.usageEvents := by
    refine map_eq_self_iff.mpr fun row hRow => ?_
    dsimp only [provider]
    rw [hEvents row hRow]
  have hAttemptRows : (d.usageEventAttempts.map fun row =>
      { row with providerId := provider row.sourceId row.providerId }) = d.usageEventAttempts := by
    refine map_eq_self_iff.mpr fun row hRow => ?_
    dsimp only [provider]
    rw [hAttempts row hRow]
  rw [attributeUsage, hEventRows, hAttemptRows]

/-- Both attributions, each over the tables of its own moment. -/
def reattributed (a b : Tables) (sourceId : Option String) (providerId : String) : String :=
  attributed b (fun source => ["custom", source]) sourceId
    (attributed a (fun source => [source]) sourceId providerId)

theorem reattributed_eq_self_iff (hA : a.sources = t.sources) (hB : b.sources = t.sources)
    (sourceId : Option String) (providerId : String) :
    reattributed a b sourceId providerId = providerId ↔ Attributed t sourceId providerId := by
  rw [reattributed, attributed_congr hA, attributed_congr hB, attributed_twice,
    attributed_eq_self_iff]

theorem usageEvents_eq_iff (hA : a.sources = t.sources) (hB : b.sources = t.sources)
    (rows : List UsageEventRow) :
    (rows.map fun row =>
        { row with providerId := reattributed a b row.sourceId row.providerId }) = rows ↔
      ∀ row ∈ rows, Attributed t row.sourceId row.providerId := by
  rw [map_eq_self_iff]
  refine forall₂_congr fun row _ => ?_
  rw [← reattributed_eq_self_iff hA hB]
  exact ⟨fun h => congrArg UsageEventRow.providerId h, fun h => by rw [h]⟩

theorem usageEventAttempts_eq_iff (hA : a.sources = t.sources) (hB : b.sources = t.sources)
    (rows : List UsageAttemptRow) :
    (rows.map fun row =>
        { row with providerId := reattributed a b row.sourceId row.providerId }) = rows ↔
      ∀ row ∈ rows, Attributed t row.sourceId row.providerId := by
  rw [map_eq_self_iff]
  refine forall₂_congr fun row _ => ?_
  rw [← reattributed_eq_self_iff hA hB]
  exact ⟨fun h => congrArg UsageAttemptRow.providerId h, fun h => by rw [h]⟩

end Usage

/-! ## The whole replay -/

section Replay

variable {now : DateTime} {documents : Documents} {d d' : Database}

/-- The legacy providers without a source. -/
def missingProviders (d : Database) : List ProviderRow :=
  d.providers.filter fun provider => (d.control.source? provider.id).isNone

theorem missingProviders_eq_nil_iff :
    missingProviders d = [] ↔
      ∀ provider ∈ d.providers, (d.control.source? provider.id).isSome = true := by
  rw [missingProviders, List.filter_eq_nil_iff]
  refine forall₂_congr fun provider _ => ?_
  simp [Option.isSome_iff_ne_none]

theorem modelCatalog_of_prepared (h : Prepared d.control.toTables) :
    modelCatalog now d = d.edit { d.control.toTables with
      sources := d.control.sources ++ (missingProviders d).map sourceOfProvider } := by
  rw [modelCatalog, insertPreset_of_isSome h.custom, edit_self]
  rfl

theorem registeredScripts_of_applied (h : onceVersions ⊆ d.applied) :
    (do
      let d ← healthFailureWindow now d
      let d ← kimiNativeResponses now documents d
      let d ← kimiCodeCnDiscovery now documents d
      multimodalModelCapabilities now documents d) = .ok d := by
  have hApplied : ∀ version ∈ onceVersions, version ∈ d.applied := fun _ hIn => h hIn
  refine bind_eq_ok.mpr ⟨d, once_of_applied (hApplied 22 (by decide)), ?_⟩
  refine bind_eq_ok.mpr ⟨d, once_of_applied (hApplied 23 (by decide)), ?_⟩
  refine bind_eq_ok.mpr ⟨d, once_of_applied (hApplied 26 (by decide)), ?_⟩
  exact once_of_applied (hApplied 27 (by decide))

/-- What is left of the scripts for a database that has gone through them. -/
theorem migrate_of_replayable (h : Replayable d) (hRun : migrate now documents d = .ok d') :
    ∃ added restored repaired : Db,
      added.toTables = { d.control.toTables with
        sources := d.control.sources ++ (missingProviders d).map sourceOfProvider } ∧
      restored.toTables = { added.toTables with
        sources := added.sources.map (restorePreset now added.providerPresets) } ∧
      repaired.toTables = { restored.toTables with
        sources := restored.sources.map (repairAuth now restored.toTables) } ∧
      d' = { d with
        control := repaired
        usageEvents := d.usageEvents.map fun row => { row with
          providerId := reattributed added.toTables restored.toTables row.sourceId row.providerId }
        usageEventAttempts := d.usageEventAttempts.map fun row => { row with
          providerId := reattributed added.toTables restored.toTables row.sourceId
            row.providerId } } := by
  unfold migrate at hRun
  obtain ⟨d₁, hCatalog, hRun⟩ := bind_eq_ok.mp hRun
  rw [modelCatalog_of_prepared h.prepared] at hCatalog
  obtain ⟨added, hAdded, rfl⟩ := edit_ok hCatalog
  have hPrepared : Prepared added.toTables := by
    rw [hAdded]
    exact ⟨h.prepared.custom, h.prepared.stamped⟩
  obtain ⟨d₂, hHealth, hRun⟩ := bind_eq_ok.mp hRun
  obtain rfl := Except.ok.inj ((healthPersistence_of_prepared hPrepared).symm.trans hHealth)
  rw [virtualKeyLifecycle_eq] at hRun
  obtain ⟨d₃, hPresets, hRun⟩ := bind_eq_ok.mp hRun
  obtain ⟨d₄, hPresets, hUsage⟩ := bind_eq_ok.mp hPresets
  obtain ⟨restored, hRestored, rfl⟩ := edit_ok hPresets
  obtain rfl := pure_eq_ok.mp hUsage
  obtain ⟨d₅, hAuth, hRun⟩ := bind_eq_ok.mp hRun
  obtain ⟨repaired, hRepaired, rfl⟩ := edit_ok hAuth
  rw [registeredScripts_of_applied (by exact h.applied)] at hRun
  obtain rfl := Except.ok.inj hRun
  refine ⟨added, restored, repaired, hAdded, hRestored, hRepaired, ?_⟩
  simp only [usageProviderAttribution, attributeUsage, List.map_map]
  rfl

theorem settled_of_unchanged (h : Replayable d) (hRun : migrate now documents d = .ok d')
    (hSame : Unchanged d d') : Settled d := by
  obtain ⟨added, restored, repaired, hAdded, hRestored, hRepaired, rfl⟩ :=
    migrate_of_replayable h hRun
  have hSources : repaired.sources = d.control.sources := hSame.sources
  have hMissing : missingProviders d = [] := by
    have hLength := congrArg List.length hSources
    simp only [hRepaired, hRestored, hAdded, List.length_map, List.length_append] at hLength
    exact List.eq_nil_of_length_eq_zero (by omega)
  have hAddedSources : added.sources = d.control.sources := by
    rw [hAdded, hMissing]
    exact List.append_nil _
  have hRows : ∀ row ∈ d.control.sources,
      ¬ Reassigned d.control.providerPresets row ∧ ¬ Unauthenticated d.control.toTables row := by
    rw [hRepaired, hRestored, hAdded, hMissing] at hSources
    simp only [List.map_nil, List.append_nil, List.map_map] at hSources
    intro row hRow
    exact repaired_eq_self_iff.mp (map_eq_self_iff.mp hSources row hRow)
  have hRestoredSources : restored.sources = d.control.sources := by
    rw [hRestored, hAdded, hMissing]
    simp only [List.map_nil, List.append_nil]
    exact map_eq_self_iff.mpr fun row hRow => restorePreset_of_not_reassigned (hRows row hRow).1
  exact ⟨missingProviders_eq_nil_iff.mp hMissing, fun row hRow => (hRows row hRow).1,
    fun row hRow => (hRows row hRow).2,
    (usageEvents_eq_iff hAddedSources hRestoredSources _).mp hSame.usageEvents,
    (usageEventAttempts_eq_iff hAddedSources hRestoredSources _).mp hSame.usageEventAttempts⟩

/-- A settled database is returned as it is, its other tables included. -/
theorem migrate_of_settled (h : Replayable d) (hSettled : Settled d) :
    migrate now documents d = .ok d := by
  have hCatalog : modelCatalog now d = .ok d := by
    rw [modelCatalog_of_prepared h.prepared, missingProviders_eq_nil_iff.mpr hSettled.providers,
      List.map_nil, List.append_nil]
    exact edit_self d
  have hAttributed : usageProviderAttribution d = d := attributeUsage_eq_self
    (fun row hRow => attributed_source_of_attributed (hSettled.events row hRow))
    fun row hRow => attributed_source_of_attributed (hSettled.attempts row hRow)
  have hPresets : restoreBuiltinProviderPresets now d = .ok d := by
    have hSources : d.control.sources.map (restorePreset now d.control.providerPresets) =
        d.control.sources :=
      map_eq_self_iff.mpr fun row hRow =>
        restorePreset_of_not_reassigned (hSettled.presets row hRow)
    rw [restoreBuiltinProviderPresets, hSources]
    refine bind_eq_ok.mpr ⟨d, edit_self d, pure_eq_ok.mpr ?_⟩
    exact attributeUsage_eq_self
      (fun row hRow => (attributed_eq_self_iff _ _).mpr (hSettled.events row hRow))
      fun row hRow => (attributed_eq_self_iff _ _).mpr (hSettled.attempts row hRow)
  have hAuth : repairBuiltinSourceAuthSnapshots now d = .ok d := by
    have hSources : d.control.sources.map (repairAuth now d.control.toTables) =
        d.control.sources :=
      map_eq_self_iff.mpr fun row hRow =>
        repairAuth_of_not_unauthenticated (hSettled.authentication row hRow)
    rw [repairBuiltinSourceAuthSnapshots, hSources]
    exact edit_self d
  unfold migrate
  refine bind_eq_ok.mpr ⟨d, hCatalog, ?_⟩
  rw [hAttributed]
  refine bind_eq_ok.mpr ⟨d, healthPersistence_of_prepared h.prepared, ?_⟩
  rw [virtualKeyLifecycle_eq]
  refine bind_eq_ok.mpr ⟨d, hPresets, ?_⟩
  refine bind_eq_ok.mpr ⟨d, hAuth, ?_⟩
  exact registeredScripts_of_applied h.applied

end Replay

end AiGateway.Migrations
