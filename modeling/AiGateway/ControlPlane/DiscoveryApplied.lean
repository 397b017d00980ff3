import AiGateway.ControlPlane.DiscoveryOutcome

/-!
# A discovery loses no decision

The call with its diff edits the tables as the call without it does.  A listing
that is accepted decides what is available, takes no decision from a stored model
and is told exactly by the diff; applied again it has nothing to tell.
-/

namespace AiGateway.ControlPlane

set_option autoImplicit false

open AiGateway.Catalog AiGateway.Checked AiGateway.Health AiGateway.Json

/-! ## The tables of both calls -/

theorem Db.ext {db db' : Db} (h : db.toTables = db'.toTables) : db = db' := by
  cases db
  cases db'
  cases h
  rfl

/-- The source models after one was marked as missing. -/
def missRow (now : DateTime) (input : DiscoveryApplyInput) (previous : SourceModelRow)
    (rows : List SourceModelRow) : List SourceModelRow :=
  if previous.upstreamModelId ∈ input.modelIds ∨ previous.availabilityStatus = .unavailable then rows
  else
    Rows.updateWhere (fun row => row.key = (input.sourceId, previous.upstreamModelId))
      (fun row => { row with
        availabilityStatus := .unavailable
        unavailableAt := some input.completedAt
        updatedAt := now }) rows

section Tables

variable (now : DateTime) (input : DiscoveryApplyInput)

theorem markMissing_eq (db : Db) (previous : SourceModelRow) :
    ∃ db', markMissing now input db previous = .ok db' ∧
      db'.toTables = { db.toTables with sourceModels := missRow now input previous db.sourceModels } := by
  rw [markMissing, missRow]
  split
  · exact ⟨db, rfl, rfl⟩
  · obtain ⟨db', hDb⟩ := exists_markUnavailable now input db previous.upstreamModelId
    exact ⟨db', catalogStatement_ok.mpr hDb, enforce_ok hDb⟩

theorem missRow_comm (a b : SourceModelRow) (rows : List SourceModelRow) :
    missRow now input b (missRow now input a rows) =
      missRow now input a (missRow now input b rows) := by
  unfold missRow
  split
  · rfl
  · split
    · rfl
    · apply Rows.updateWhere_comm
      · exact fun _ => rfl
      · exact fun _ => rfl

theorem markMissing_comm (db : Db) (a b : SourceModelRow) :
    (markMissing now input db a >>= fun db' => markMissing now input db' b) =
      markMissing now input db b >>= fun db' => markMissing now input db' a := by
  obtain ⟨dba, hA, hTablesA⟩ := markMissing_eq now input db a
  obtain ⟨dbb, hB, hTablesB⟩ := markMissing_eq now input db b
  obtain ⟨dbab, hAB, hTablesAB⟩ := markMissing_eq now input dba b
  obtain ⟨dbba, hBA, hTablesBA⟩ := markMissing_eq now input dbb a
  rw [hA, hB]
  change markMissing now input dba b = markMissing now input dbb a
  rw [hAB, hBA]
  congr 1
  apply Db.ext
  rw [hTablesAB, hTablesBA, hTablesA, hTablesB, missRow_comm]

theorem discoverModel_db (state : Discovering) (refresh : SourceModelRefresh) :
    (discoverModel now state refresh).map Discovering.db =
      refreshSourceModel now state.db refresh := by
  rw [discoverModel, map_of_bind]
  cases hDb : refreshSourceModel now state.db refresh with
  | error e => rfl
  | ok db' =>
    obtain ⟨written, -, hWrote⟩ := refreshSourceModel_wrote now state.db refresh db' hDb
    change (fetchSourceModel refresh.sourceId refresh.upstreamModelId db' >>= fun _ => _).map _ = _
    rw [fetchSourceModel, hWrote.here]
    rfl

theorem missModel_db {state : Discovering} {row : SourceModelRow}
    (hUnlisted : row.upstreamModelId ∉ input.modelIds)
    (hRow : state.db.sourceModel? input.sourceId row.upstreamModelId = some row) :
    (missModel now input state row).map Discovering.db = markMissing now input state.db row := by
  rw [missModel, markMissing]
  split
  · next hGone => rw [if_pos (.inr hGone)]; rfl
  · next hThere =>
    obtain ⟨db', hDb⟩ := exists_markUnavailable now input state.db row.upstreamModelId
    have hWrote := wrote_of_update hDb hRow fun _ => rfl
    rw [if_neg (not_or.mpr ⟨hUnlisted, hThere⟩), hDb]
    change (require (db'.sourceModel? input.sourceId row.upstreamModelId) _ >>= fun _ => _).map _ = _
    rw [hWrote.here]
    rfl

/-- Marking what the first loop left is marking every stored row of the source. -/
theorem markMissing_before (db db' : Db) :
    ((db.modelsOf input.sourceId).filter fun row =>
        row.upstreamModelId ∉ listedIds input.discovered).foldlM (markMissing now input) db' =
      (db.sourceModels.filter fun row => row.sourceId = input.sourceId).foldlM
        (markMissing now input) db' := by
  rw [foldlM_filter]
  · exact foldlM_perm (markMissing_comm now input) (List.perm_insertionSort _ _) db'
  · intro db row _ hListed
    have hMem : row.upstreamModelId ∈ input.modelIds :=
      mem_listedIds_discovered.mp (by simpa using hListed)
    rw [markMissing, if_pos (.inl hMem)]

/-- The call with its diff is the call without it, as far as the tables go. -/
theorem applyDiscoveryDiff_db (db : Db) :
    (applyDiscoveryDiff now input db).map DiscoveryApplyResult.db =
      applyDiscovery now input db := by
  rw [applyDiscoveryDiff, applyDiscovery, map_of_bind]
  refine bind_congr_ok fun _ hValid => ?_
  rw [map_of_bind]
  refine bind_congr_ok fun _ hListed => ?_
  rw [map_of_bind]
  refine bind_congr_ok fun _ _ => ?_
  rw [map_of_bind]
  refine bind_congr_ok fun _ _ => ?_
  have hNodup : (listedIds input.discovered).Nodup :=
    ((discovered_perm input).map _).nodup_iff.mpr (validateDiscovery_nodup hValid)
  have hFirst : (input.discovered.foldlM (discoverModel now)
        { db, beforeById := db.modelsOf input.sourceId, diff := {}, records := [] }).map
      Discovering.db = input.discovered.foldlM (refreshSourceModel now) db := by
    refine map_foldlM_prefix ?_ (mergedUpTo_nil now input db)
    rintro done state refresh rest hItems hDone
    have hSource := forM_validateDiscovered hListed refresh (by simp [hItems])
    exact ⟨discoverModel_db now state refresh,
      mergedUpTo_step hSource (Rows.key_notMem_of_split hNodup hItems) hDone⟩
  change _ = input.discovered.foldlM (refreshSourceModel now) db >>= _
  rw [map_of_bind, ← hFirst, bind_of_map]
  refine bind_congr_ok fun state hState => ?_
  have hMerged := mergedUpTo_run (forM_validateDiscovered hListed) hNodup state hState
  have hSecond : (state.beforeById.foldlM (missModel now input) state).map Discovering.db =
      state.beforeById.foldlM (markMissing now input) state.db := by
    refine map_foldlM_prefix ?_ (missedUpTo_nil now input hMerged.missing)
    rintro done current row rest hItems hDone
    have hRow := hMerged.before_rows row (by simp [hItems])
    have hNew := Rows.key_notMem_of_split hMerged.nodup_before hItems
    refine ⟨missModel_db now input hRow.1 ?_, missedUpTo_step hRow.2 hNew hDone⟩
    rw [hDone.others _ _ fun _ => hNew]
    exact hRow.2
  rw [map_of_bind, ← markMissing_before now input db, ← hMerged.before, ← hSecond, bind_of_map]
  refine bind_congr_ok fun last _ => ?_
  rw [map_of_bind]
  exact bind_congr_ok fun _ _ => rfl

end Tables

/-! ## Nothing to tell again -/

section Again

variable {now : DateTime} {input : DiscoveryApplyInput} {db : Db} {result : DiscoveryApplyResult}

theorem changedSourceModelFields_refreshed (row : SourceModelRow) (later : DateTime) :
    changedSourceModelFields row { row with updatedAt := later } = [] := by
  simp [changedSourceModelFields]

theorem applied_valid (h : applyDiscoveryDiff now input db = .ok result) :
    ∀ refresh ∈ input.models, refresh.Valid := by
  obtain ⟨⟨⟩, -, h⟩ := bind_eq_ok.mp h
  obtain ⟨⟨⟩, hListed, -⟩ := bind_eq_ok.mp h
  rintro refresh hRefresh
  have hMem := (discovered_perm input).mem_iff.mpr hRefresh
  exact validateSourceModelRefresh_valid (forM_validated hListed refresh hMem)

theorem eq_nil_of_idsOf {entries : List DiscoveryDiffEntry} (h : ∀ m, m ∉ idsOf entries) :
    entries = [] :=
  List.map_eq_nil_iff.mp (List.eq_nil_iff_forall_not_mem.mpr h)

/-- What a listing added is known, what it changed is settled, and what it missed
is unavailable. -/
theorem Merged.empty_again {later : DateTime} {again : DiscoveryApplyResult}
    (h : Merged now input db result) (hValid : ∀ refresh ∈ input.models, refresh.Valid)
    (hAgain : Merged later input result.db again) : again.diff = {} := by
  have hAdded : again.diff.added = [] := by
    apply eq_nil_of_idsOf
    rintro m hMem
    obtain ⟨hListed, hNone⟩ := (hAgain.exact.added m).mp hMem
    obtain ⟨refresh, hRefresh, rfl⟩ := List.mem_map.mp hListed
    obtain ⟨row, hRow, -⟩ := h.listed refresh hRefresh
    rw [hRow] at hNone
    cases hNone
  have hChanged : again.diff.changed = [] := by
    apply eq_nil_of_idsOf
    rintro m hMem
    obtain ⟨hListed, old, new, hOld, hNew, hDiffer⟩ := (hAgain.exact.changed m).mp hMem
    obtain ⟨refresh, hRefresh, rfl⟩ := List.mem_map.mp hListed
    obtain ⟨row, hRow, hFirst⟩ := h.listed refresh hRefresh
    obtain ⟨row', hRow', hSecond⟩ := hAgain.listed refresh hRefresh
    obtain rfl := Option.some.inj (hRow.symm.trans hOld)
    obtain rfl := Option.some.inj (hRow'.symm.trans hNew)
    rw [hRow] at hSecond
    cases hSecond with
    | known hKnown =>
      have hMetadata := hValid refresh hRefresh
      rw [(hFirst.settled hMetadata).refreshed hMetadata later] at hKnown
      obtain rfl := Except.ok.inj hKnown
      exact changedSourceModelFields_ne_nil.mpr hDiffer (changedSourceModelFields_refreshed row later)
  have hMissing : again.diff.missing = [] := by
    apply eq_nil_of_idsOf
    rintro m hMem
    obtain ⟨hUnlisted, old, hOld, hThere⟩ := (hAgain.exact.missing m).mp hMem
    rw [h.unlisted m hUnlisted] at hOld
    obtain ⟨before, -, rfl⟩ := Option.map_eq_some_iff.mp hOld
    exact hThere (missedRow_unavailable now input before)
  have hDiff : again.diff = ⟨again.diff.added, again.diff.changed, again.diff.missing⟩ := rfl
  rw [hDiff, hAdded, hChanged, hMissing]

end Again

/-! ## Decisions -/

theorem Merged.keeps {now : DateTime} {input : DiscoveryApplyInput} {db : Db}
    {result : DiscoveryApplyResult} (h : Merged now input db result)
    (hValid : ∀ refresh ∈ input.models, refresh.Valid) {s m : String} {old : SourceModelRow}
    (hOld : db.sourceModel? s m = some old) :
    ∃ new, result.db.sourceModel? s m = some new ∧ KeepsDecisions old new := by
  by_cases hSource : s = input.sourceId
  · subst hSource
    by_cases hListed : m ∈ input.modelIds
    · obtain ⟨refresh, hRefresh, rfl⟩ := List.mem_map.mp hListed
      obtain ⟨row, hRow, hRefreshed⟩ := h.listed refresh hRefresh
      rw [hOld] at hRefreshed
      cases hRefreshed with
      | known hKnown => exact ⟨row, hRow, refreshedRow_keeps (hValid refresh hRefresh) hKnown⟩
    · refine ⟨missedRow now input old, ?_, missedRow_keeps now input old⟩
      rw [h.unlisted m hListed, hOld, Option.map_some]
  · refine ⟨old, ?_, keepsDecisions_of_same rfl rfl rfl rfl⟩
    rw [h.elsewhere s m hSource, hOld]

/-- What a discovery that succeeds leaves behind. -/
structure LosesNothing (input : DiscoveryApplyInput) (db : Db) (result : DiscoveryApplyResult) :
    Prop where
  available : ∀ m, result.db.isAvailable input.sourceId m = true ↔ m ∈ input.modelIds
  decisions : ∀ s m old, db.sourceModel? s m = some old →
    ∃ new, result.db.sourceModel? s m = some new ∧ KeepsDecisions old new
  exact : ExactDiff input db result.db result.diff
  addedChanged : (idsOf result.diff.added).Disjoint (idsOf result.diff.changed)
  addedMissing : (idsOf result.diff.added).Disjoint (idsOf result.diff.missing)
  changedMissing : (idsOf result.diff.changed).Disjoint (idsOf result.diff.missing)
  again : ∀ later, ∃ again, applyDiscoveryDiff later input result.db = .ok again ∧ again.diff = {}

theorem applied_losesNothing {now : DateTime} {input : DiscoveryApplyInput} {db : Db}
    {result : DiscoveryApplyResult} (h : applyDiscoveryDiff now input db = .ok result) :
    LosesNothing input db result := by
  have hMerged := applyDiscoveryDiff_merged now input db result h
  have hValid := applied_valid h
  constructor
  case available =>
    intro m
    have hDb : applyDiscovery now input db = .ok result.db := by
      rw [← applyDiscoveryDiff_db, h]
      rfl
    rw [(applyDiscovery_listed now input db result.db hDb).available, DiscoveryApplyInput.lists,
      if_pos rfl, decide_eq_true_iff]
  case decisions => exact fun s m old hOld => hMerged.keeps hValid hOld
  case exact => exact hMerged.exact
  case addedChanged => exact hMerged.exact.added_changed
  case addedMissing => exact hMerged.exact.added_missing
  case changedMissing => exact hMerged.exact.changed_missing
  case again =>
    intro later
    obtain ⟨again, hAgain⟩ := exists_again later h
    have hSecond := applyDiscoveryDiff_merged later input result.db again hAgain
    exact ⟨again, hAgain, hMerged.empty_again hValid hSecond⟩

/-- A discovery decides what is available, takes no decision away and tells exactly
what it did, or changes nothing. -/
theorem discovery_loses_no_decision (now : DateTime) (input : DiscoveryApplyInput) (db : Db) :
    (∀ result, (discover now input db).2 = .ok result →
      (discover now input db).1 = result.db ∧ LosesNothing input db result) ∧
    ∀ error, (discover now input db).2 = .error error → (discover now input db).1 = db := by
  rw [discover]
  cases hCall : applyDiscoveryDiff now input db with
  | ok result =>
    constructor
    · rintro same hSame
      obtain rfl := Except.ok.inj hSame
      exact ⟨rfl, applied_losesNothing hCall⟩
    · rintro error hError
      cases hError
  | error e =>
    constructor
    · rintro result hResult
      cases hResult
    · exact fun _ _ => rfl

namespace Listing

def source : SourceRow where
  id := "s"
  displayName := "s"
  providerPresetId := "custom"
  providerPresetVersion := 1
  providerPresetSnapshot := .object []
  baseUrl := "https://upstream"
  endpoints := .object []
  authConfig := .object []
  protocolCapabilities := .object []
  enabled := true
  createdAt := 0
  updatedAt := 0

def model (id : String) (availability : CatalogAvailability) : SourceModelRow where
  sourceId := "s"
  upstreamModelId := id
  confirmationStatus := .confirmed
  availabilityStatus := availability
  rawSnapshot := .object []
  metadata := .object [("display_name", .string "Mine")]
  fieldSources := .object [("display_name", .string "user")]
  matchedModelPreset := none
  firstDiscoveredAt := 0
  lastDiscoveredAt := 0
  confirmedAt := some 0
  unavailableAt := some 0
  createdAt := 0
  updatedAt := 0

/-- A confirmed model that was unavailable, one that is available, and one whose
availability was never observed. -/
def db : Db where
  providerPresets := [⟨"custom", 1, "Custom", .object [], 0⟩]
  sources := [source]
  sourceModels := [model "back" .unavailable, model "gone" .available, model "unseen" .unknown]
  keys := by decide
  references := by decide
  checks := by decide

def input (models : List String) : DiscoveryApplyInput where
  sourceId := "s"
  accountId := none
  rawSnapshot := .object []
  models := models.map fun model => ⟨"s", model, .object [], .empty, none, none, 0⟩
  httpStatus := 200
  latencyMs := 0
  startedAt := 0
  completedAt := 0

end Listing

theorem discovery_loses_no_decision_listed :
    ∃ result, (discover 1 (Listing.input ["back", "new", "unseen"]) Listing.db).2 = .ok result ∧
      LosesNothing (Listing.input ["back", "new", "unseen"]) Listing.db result ∧
      result.diff =
        { added := [⟨"new", ["source_model"]⟩]
          changed := [⟨"back", ["availability_status"]⟩, ⟨"unseen", ["availability_status"]⟩]
          missing := [⟨"gone", ["availability_status"]⟩] } := by
  obtain ⟨result, hResult, hDiff⟩ := exists_of_succeeds (show succeeds
      (discover 1 (Listing.input ["back", "new", "unseen"]) Listing.db).2
      (fun result => result.diff =
        { added := [⟨"new", ["source_model"]⟩]
          changed := [⟨"back", ["availability_status"]⟩, ⟨"unseen", ["availability_status"]⟩]
          missing := [⟨"gone", ["availability_status"]⟩] }) = true by decide)
  exact ⟨result, hResult, ((discovery_loses_no_decision 1 _ Listing.db).1 result hResult).2,
    of_decide_eq_true hDiff⟩

/-- A model whose availability was never observed is reported as missing too. -/
theorem unseen_reported_missing :
    ¬ ∀ (now : DateTime) (input : DiscoveryApplyInput) (db : Db) (result : DiscoveryApplyResult),
      (discover now input db).2 = .ok result →
      ∀ m, m ∈ idsOf result.diff.missing ↔
        m ∉ input.modelIds ∧ db.isAvailable input.sourceId m = true := by
  obtain ⟨result, hResult, hMissing⟩ := exists_of_succeeds (show succeeds
      (discover 1 (Listing.input ["back", "gone"]) Listing.db).2
      (fun result => "unseen" ∈ idsOf result.diff.missing) = true by decide)
  intro hClaim
  have hAvailable := ((hClaim 1 _ Listing.db result hResult "unseen").mp
    (of_decide_eq_true hMissing)).2
  exact absurd hAvailable (by decide)

end AiGateway.ControlPlane
