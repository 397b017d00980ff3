import AiGateway.Base.Members
import AiGateway.ControlPlane.Discovery

/-!
# The diff of a discovery

A discovery compares each listed model before and after its refresh, reports
what was not listed any more, and returns the three lists in order.  The record
of the run, which stores the same diff, is left out.
-/

namespace AiGateway.ControlPlane

set_option autoImplicit false

open AiGateway.Catalog AiGateway.Checked AiGateway.Health AiGateway.Json

structure DiscoveryDiffEntry where
  upstreamModelId : String
  changedFields : List String
  deriving DecidableEq, Repr

structure DiscoveryDiff where
  added : List DiscoveryDiffEntry := []
  changed : List DiscoveryDiffEntry := []
  missing : List DiscoveryDiffEntry := []
  deriving DecidableEq, Repr

def changedSourceModelFields (before after : SourceModelRow) : List String :=
  (if before.rawSnapshot ≠ after.rawSnapshot then ["raw_snapshot"] else []) ++
  (if before.metadata ≠ after.metadata then ["metadata"] else []) ++
  (if before.fieldSources ≠ after.fieldSources then ["field_sources"] else []) ++
  (if before.matchedModelPreset ≠ after.matchedModelPreset then ["matched_model_preset"] else []) ++
  (if before.availabilityStatus ≠ after.availabilityStatus then ["availability_status"] else [])

def sortEntries (entries : List DiscoveryDiffEntry) : List DiscoveryDiffEntry :=
  (entries.insertionSort fun a b => a.upstreamModelId ≤ b.upstreamModelId).map fun entry =>
    { entry with changedFields := entry.changedFields.insertionSort (· ≤ ·) }

def sortDiscoveryDiff (diff : DiscoveryDiff) : DiscoveryDiff where
  added := sortEntries diff.added
  changed := sortEntries diff.changed
  missing := sortEntries diff.missing

/-- The entry of a listed model, whose earlier row is `none` if it is new. -/
def DiscoveryDiff.compare (diff : DiscoveryDiff) (previous : Option SourceModelRow)
    (current : SourceModelRow) : DiscoveryDiff :=
  match previous with
  | none => { diff with added := diff.added ++ [⟨current.upstreamModelId, ["source_model"]⟩] }
  | some previous =>
    if changedSourceModelFields previous current = [] then diff
    else
      { diff with
        changed := diff.changed ++
          [⟨current.upstreamModelId, changedSourceModelFields previous current⟩] }

/-- The state of the loops: the rows not met yet, the diff and the rows written. -/
structure Discovering where
  db : Db
  beforeById : List SourceModelRow
  diff : DiscoveryDiff
  records : List SourceModelRow

def fetchSourceModel (sourceId upstreamModelId : String) (db : Db) :
    Except CatalogError SourceModelRow :=
  require (db.sourceModel? sourceId upstreamModelId) (sourceModelNotFound sourceId upstreamModelId)

section Diff

variable (now : DateTime)

def discoverModel (state : Discovering) (refresh : SourceModelRefresh) :
    Except CatalogError Discovering := do
  let previous := Rows.find SourceModelRow.upstreamModelId refresh.upstreamModelId state.beforeById
  let db ← refreshSourceModel now state.db refresh
  let current ← fetchSourceModel refresh.sourceId refresh.upstreamModelId db
  return {
    db
    beforeById := state.beforeById.filter fun row => row.upstreamModelId ≠ refresh.upstreamModelId
    diff := state.diff.compare previous current
    records := state.records ++ [current] }

def missModel (input : DiscoveryApplyInput) (state : Discovering) (previous : SourceModelRow) :
    Except CatalogError Discovering :=
  if previous.availabilityStatus = .unavailable then .ok state
  else do
    let db ← catalogStatement (state.db.updateSourceModel input.sourceId previous.upstreamModelId
      fun row =>
        { row with
          availabilityStatus := .unavailable
          unavailableAt := some input.completedAt
          updatedAt := now })
    -- a statement that returns no row is an error of the database
    let current ← require (db.sourceModel? input.sourceId previous.upstreamModelId) .database
    return { state with
      db
      diff := { state.diff with
        missing := state.diff.missing ++ [⟨current.upstreamModelId, ["availability_status"]⟩] }
      records := state.records ++ [current] }

structure DiscoveryApplyResult where
  db : Db
  diff : DiscoveryDiff
  models : List SourceModelRow

def DiscoveryApplyInput.discovered (input : DiscoveryApplyInput) : List SourceModelRefresh :=
  input.models.insertionSort fun a b => a.upstreamModelId ≤ b.upstreamModelId

/-- The rows of a source by their id. -/
def Tables.modelsOf (t : Tables) (sourceId : String) : List SourceModelRow :=
  (t.sourceModels.filter fun row => row.sourceId = sourceId).insertionSort fun a b =>
    a.upstreamModelId ≤ b.upstreamModelId

def applyDiscoveryDiff (input : DiscoveryApplyInput) (db : Db) :
    Except CatalogError DiscoveryApplyResult := do
  validateDiscovery input
  input.discovered.forM (validateDiscovered input)
  let _ ← require (db.source? input.sourceId)
    (.notFound ("source " ++ input.sourceId ++ " not found"))
  validateAccountForSource db.toTables input.sourceId input.accountId
  let state ← input.discovered.foldlM (discoverModel now)
    { db, beforeById := db.modelsOf input.sourceId, diff := {}, records := [] }
  let state ← state.beforeById.foldlM (missModel now input) state
  ensure (input.models.length < 2 ^ 31)
    (.invalidState "discovery result contains too many models")
  return {
    db := state.db
    diff := sortDiscoveryDiff state.diff
    models := state.records.insertionSort fun a b => a.upstreamModelId ≤ b.upstreamModelId }

/-- The database after a call.  The transaction of a failed one is rolled back. -/
def discover (input : DiscoveryApplyInput) (db : Db) :
    Db × Except CatalogError DiscoveryApplyResult :=
  match applyDiscoveryDiff now input db with
  | .ok result => (result.db, .ok result)
  | .error error => (db, .error error)

end Diff

end AiGateway.ControlPlane
