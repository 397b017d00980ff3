import AiGateway.ControlPlane.DiscoveryMerge
import AiGateway.ControlPlane.Runs

/-!
# The outcome of a discovery

What a discovery that succeeds has done to the rows of its source, what its diff
says of them, and why the same listing applied once more has nothing to say.
-/

namespace AiGateway.ControlPlane

set_option autoImplicit false

open AiGateway.Catalog AiGateway.Checked AiGateway.Health AiGateway.Json

/-! ## The sorted diff -/

theorem idsOf_sortEntries_perm (entries : List DiscoveryDiffEntry) :
    (idsOf (sortEntries entries)).Perm (idsOf entries) := by
  rw [sortEntries, idsOf, List.map_map]
  exact (List.perm_insertionSort _ entries).map _

theorem sortEntries_pairwise {entries : List DiscoveryDiffEntry} (h : (idsOf entries).Nodup) :
    (idsOf (sortEntries entries)).Pairwise (· < ·) := by
  have hNodup := (idsOf_sortEntries_perm entries).nodup_iff.mpr h
  have hSorted : (idsOf (sortEntries entries)).Pairwise (· ≤ ·) := by
    rw [sortEntries, idsOf, List.map_map, List.pairwise_map]
    exact List.pairwise_insertionSort _ entries
  exact (hSorted.and hNodup).imp fun h => lt_of_le_of_ne h.1 h.2

/-- The field of the catalogue that two rows of one model differ in. -/
def Differ (old new : SourceModelRow) : Prop :=
  old.rawSnapshot ≠ new.rawSnapshot ∨ old.metadata ≠ new.metadata ∨
  old.fieldSources ≠ new.fieldSources ∨ old.matchedModelPreset ≠ new.matchedModelPreset ∨
  old.availabilityStatus ≠ new.availabilityStatus

theorem changedSourceModelFields_ne_nil {old new : SourceModelRow} :
    changedSourceModelFields old new ≠ [] ↔ Differ old new := by
  rw [changedSourceModelFields, Differ]
  simp only [ne_eq, List.append_eq_nil_iff, ite_eq_right_iff, List.cons_ne_nil, imp_false,
    not_and_or, not_not, or_assoc]

/-- The lists of a diff name the new models, the known models with a changed field
and the models that were not unavailable and are listed no more, each once. -/
structure ExactDiff (input : DiscoveryApplyInput) (db db' : Db) (diff : DiscoveryDiff) :
    Prop where
  added : ∀ m, m ∈ idsOf diff.added ↔
    m ∈ input.modelIds ∧ db.sourceModel? input.sourceId m = none
  changed : ∀ m, m ∈ idsOf diff.changed ↔ m ∈ input.modelIds ∧
    ∃ old new, db.sourceModel? input.sourceId m = some old ∧
      db'.sourceModel? input.sourceId m = some new ∧ Differ old new
  missing : ∀ m, m ∈ idsOf diff.missing ↔ m ∉ input.modelIds ∧
    ∃ old, db.sourceModel? input.sourceId m = some old ∧ old.availabilityStatus ≠ .unavailable
  addedOnce : (idsOf diff.added).Pairwise (· < ·)
  changedOnce : (idsOf diff.changed).Pairwise (· < ·)
  missingOnce : (idsOf diff.missing).Pairwise (· < ·)

namespace ExactDiff

variable {input : DiscoveryApplyInput} {db db' : Db} {diff : DiscoveryDiff}

theorem added_changed (h : ExactDiff input db db' diff) :
    (idsOf diff.added).Disjoint (idsOf diff.changed) := by
  rintro m hAdded hChanged
  obtain ⟨-, old, -, hOld, -⟩ := (h.changed m).mp hChanged
  rw [((h.added m).mp hAdded).2] at hOld
  cases hOld

theorem added_missing (h : ExactDiff input db db' diff) :
    (idsOf diff.added).Disjoint (idsOf diff.missing) := by
  rintro m hAdded hMissing
  exact ((h.missing m).mp hMissing).1 ((h.added m).mp hAdded).1

theorem changed_missing (h : ExactDiff input db db' diff) :
    (idsOf diff.changed).Disjoint (idsOf diff.missing) := by
  rintro m hChanged hMissing
  exact ((h.missing m).mp hMissing).1 ((h.changed m).mp hChanged).1

end ExactDiff

/-! ## The rows after a discovery -/

structure Merged (now : DateTime) (input : DiscoveryApplyInput) (db : Db)
    (result : DiscoveryApplyResult) : Prop where
  only : OnlyModels db result.db
  elsewhere : ∀ s m, s ≠ input.sourceId → result.db.sourceModel? s m = db.sourceModel? s m
  listed : ∀ refresh ∈ input.models, ∃ row,
    result.db.sourceModel? input.sourceId refresh.upstreamModelId = some row ∧
      Refreshed now refresh (db.sourceModel? input.sourceId refresh.upstreamModelId) row
  unlisted : ∀ m, m ∉ input.modelIds → result.db.sourceModel? input.sourceId m =
    (db.sourceModel? input.sourceId m).map (missedRow now input)
  exact : ExactDiff input db result.db result.diff

section Outcome

variable {now : DateTime} {input : DiscoveryApplyInput} {db : Db}

theorem discovered_perm (input : DiscoveryApplyInput) : input.discovered.Perm input.models :=
  List.perm_insertionSort _ input.models

theorem mem_listedIds_discovered {m : String} :
    m ∈ listedIds input.discovered ↔ m ∈ input.modelIds :=
  ((discovered_perm input).map _).mem_iff

theorem forM_validated {refreshes : List SourceModelRefresh} {u : Unit}
    (h : refreshes.forM (validateDiscovered input) = .ok u) :
    ∀ refresh ∈ refreshes, validateSourceModelRefresh refresh = .ok () := by
  induction refreshes with
  | nil => nofun
  | cons head rest ih =>
    change (validateDiscovered input head >>= fun _ => rest.forM (validateDiscovered input)) = _ at h
    obtain ⟨⟨⟩, hHead, hRest⟩ := bind_eq_ok.mp h
    obtain ⟨⟨⟩, hValid, -⟩ := bind_eq_ok.mp hHead
    exact List.forall_mem_cons.mpr ⟨hValid, ih hRest⟩

theorem validateDiscovery_nodup {u : Unit} (h : validateDiscovery input = .ok u) :
    input.modelIds.Nodup := by
  obtain ⟨⟨⟩, -, h⟩ := bind_eq_ok.mp h
  obtain ⟨⟨⟩, -, h⟩ := bind_eq_ok.mp h
  obtain ⟨⟨⟩, -, h⟩ := bind_eq_ok.mp h
  exact ensure_eq_ok.mp h

theorem MergedUpTo.nodup_before {done : List SourceModelRefresh} {state : Discovering}
    (h : MergedUpTo now input db done state) : (rowIds state.beforeById).Nodup := by
  rw [h.before]
  exact (nodup_modelsOf db input.sourceId).sublist (List.filter_sublist.map _)

/-- The rows the second loop meets are stored as they were. -/
theorem MergedUpTo.before_rows {state : Discovering}
    (h : MergedUpTo now input db input.discovered state) :
    ∀ row ∈ state.beforeById, row.upstreamModelId ∉ input.modelIds ∧
      state.db.sourceModel? input.sourceId row.upstreamModelId = some row := by
  rintro row hRow
  rw [h.before, List.mem_filter, decide_eq_true_iff] at hRow
  obtain ⟨hRow, hUnlisted⟩ := hRow
  refine ⟨fun hListed => hUnlisted (mem_listedIds_discovered.mpr hListed), ?_⟩
  rw [h.others _ _ fun _ => hUnlisted, ← find_modelsOf]
  exact (Rows.find_eq_some_iff (nodup_modelsOf db input.sourceId)).mpr ⟨hRow, rfl⟩

theorem MergedUpTo.stored_before {state : Discovering}
    (h : MergedUpTo now input db input.discovered state) : ∀ row ∈ state.beforeById,
      state.db.sourceModel? input.sourceId row.upstreamModelId = some row :=
  fun row hRow => (h.before_rows row hRow).2

/-- The second loop meets every stored row that was not listed. -/
theorem MergedUpTo.mem_before {state : Discovering}
    (h : MergedUpTo now input db input.discovered state) {m : String} {old : SourceModelRow}
    (hUnlisted : m ∉ input.modelIds) (hOld : db.sourceModel? input.sourceId m = some old) :
    old ∈ state.beforeById ∧ old.upstreamModelId = m := by
  rw [← find_modelsOf] at hOld
  obtain ⟨hRow, rfl⟩ := Rows.find_key hOld
  rw [h.before, List.mem_filter, decide_eq_true_iff]
  exact ⟨⟨hRow, fun hListed => hUnlisted (mem_listedIds_discovered.mp hListed)⟩, rfl⟩

theorem applyDiscoveryDiff_merged (now : DateTime) (input : DiscoveryApplyInput) (db : Db) :
    Ensures (applyDiscoveryDiff now input db) (Merged now input db) := by
  unfold applyDiscoveryDiff
  refine ensures_bind fun _ hValid => ensures_bind fun _ hSources => ?_
  iterate 2 refine ensures_then fun _ => ?_
  have hNodup : (listedIds input.discovered).Nodup :=
    ((discovered_perm input).map _).nodup_iff.mpr (validateDiscovery_nodup hValid)
  refine ensures_seq (mergedUpTo_run (forM_validateDiscovered hSources) hNodup) ?_
  rintro state₁ h₁
  have hRows := h₁.nodup_before
  obtain ⟨state₂, hState₂, h₂⟩ := exists_missedUpTo now h₁.stored_before hRows h₁.missing
  refine ensures_bind fun state hState => ensures_then fun _ => ensures_pure ?_
  obtain rfl : state₂ = state := Except.ok.inj (hState₂.symm.trans hState)
  have hKept : ∀ s m, (s = input.sourceId → m ∈ input.modelIds) →
      state₂.db.sourceModel? s m = state₁.db.sourceModel? s m := by
    rintro s m hHere
    refine h₂.others s m fun hSource hMem => ?_
    obtain ⟨row, hRow, rfl⟩ := List.mem_map.mp hMem
    exact (h₁.before_rows row hRow).1 (hHere hSource)
  constructor
  case only => exact h₁.only.trans h₂.only
  case elsewhere =>
    rintro s m hOther
    exact (hKept s m fun hHere => absurd hHere hOther).trans
      (h₁.others s m fun hHere => absurd hHere hOther)
  case listed =>
    rintro refresh hRefresh
    obtain ⟨row, hRow, hRefreshed⟩ := h₁.listed refresh ((discovered_perm input).mem_iff.mpr hRefresh)
    refine ⟨row, (hKept _ _ fun _ => ?_).trans hRow, hRefreshed⟩
    exact List.mem_map_of_mem hRefresh
  case unlisted =>
    rintro m hUnlisted
    have hFirst := h₁.others input.sourceId m fun _ hListed =>
      hUnlisted (mem_listedIds_discovered.mp hListed)
    cases hOld : db.sourceModel? input.sourceId m with
    | none =>
      rw [hOld] at hFirst
      refine (h₂.others _ _ fun _ hMem => ?_).trans hFirst
      obtain ⟨row, hRow, rfl⟩ := List.mem_map.mp hMem
      rw [(h₁.before_rows row hRow).2] at hFirst
      cases hFirst
    | some old =>
      obtain ⟨hBefore, rfl⟩ := h₁.mem_before hUnlisted hOld
      exact h₂.missed old hBefore
  case exact =>
    have hAdded : state₂.diff.added = state₁.diff.added := h₂.added
    have hChanged : state₂.diff.changed = state₁.diff.changed := h₂.changed
    constructor
    case added =>
      intro m
      rw [sortDiscoveryDiff, (idsOf_sortEntries_perm _).mem_iff, hAdded, h₁.added,
        mem_listedIds_discovered]
    case changed =>
      intro m
      rw [sortDiscoveryDiff, (idsOf_sortEntries_perm _).mem_iff, hChanged, h₁.changed,
        mem_listedIds_discovered]
      refine and_congr_right fun hListed => ?_
      simp only [hKept _ m fun _ => hListed, changedSourceModelFields_ne_nil]
    case missing =>
      intro m
      rw [sortDiscoveryDiff, (idsOf_sortEntries_perm _).mem_iff, h₂.missing]
      constructor
      · rintro ⟨row, hRow, rfl, hThere⟩
        obtain ⟨hUnlisted, hSame⟩ := h₁.before_rows row hRow
        refine ⟨hUnlisted, row, ?_, hThere⟩
        rw [← hSame]
        exact (h₁.others _ _ fun _ hListed =>
          hUnlisted (mem_listedIds_discovered.mp hListed)).symm
      · rintro ⟨hUnlisted, old, hOld, hThere⟩
        obtain ⟨hRow, hSame⟩ := h₁.mem_before hUnlisted hOld
        exact ⟨old, hRow, hSame, hThere⟩
    case addedOnce =>
      apply sortEntries_pairwise
      rw [hAdded]
      exact hNodup.sublist h₁.addedOnce
    case changedOnce =>
      apply sortEntries_pairwise
      rw [hChanged]
      exact hNodup.sublist h₁.changedOnce
    case missingOnce => exact sortEntries_pairwise (hRows.sublist h₂.missingOnce)

/-! ## The same listing again -/

/-- A settled row is refreshed without an error. -/
theorem exists_refreshSourceModel {refresh : SourceModelRefresh} {row : SourceModelRow}
    (hValid : validateSourceModelRefresh refresh = .ok ())
    (hRow : db.sourceModel? refresh.sourceId refresh.upstreamModelId = some row)
    (hSettled : SettledRow refresh row) : ∃ db', refreshSourceModel now db refresh = .ok db' := by
  have hMetadata := validateSourceModelRefresh_valid hValid
  obtain ⟨discovered, hDiscovered, -⟩ :=
    CatalogMetadata.resolve_holds hMetadata.1 hMetadata.2
  obtain ⟨metadata, hRead, h⟩ := bind_eq_ok.mp (hSettled.refreshed hMetadata now)
  obtain ⟨refreshed, hRefreshed, hSame⟩ := bind_eq_ok.mp h
  have hUnique : ∀ other ∈ db.sourceModels,
      other.key = (refresh.sourceId, refresh.upstreamModelId) → other = row := by
    rintro other hOther hKey
    have hFound := (Rows.find_eq_some_iff db.keys.sourceModels).mpr ⟨hOther, hKey⟩
    exact Option.some.inj (hFound.symm.trans hRow)
  have hMatched : (if row.confirmationStatus = .confirmed then row.matchedModelPreset
      else refresh.matchedPreset) = row.matchedModelPreset :=
    congrArg SourceModelRow.matchedModelPreset (pure_eq_ok.mp hSame)
  have hMem := (Rows.find_key hRow).1
  have hCheck := db.checks.sourceModels row hMem
  have hUpdate : ∃ db', db.updateSourceModel refresh.sourceId refresh.upstreamModelId (fun other =>
      { other with
        availabilityStatus := .available
        rawSnapshot := refresh.rawSnapshot
        metadata := refreshed.toJson.1
        fieldSources := refreshed.toJson.2
        matchedModelPreset :=
          if row.confirmationStatus = .confirmed then row.matchedModelPreset
          else refresh.matchedPreset
        lastDiscoveredAt := refresh.discoveredAt
        unavailableAt := none
        updatedAt := now }) = .ok db' := by
    apply exists_updateSourceModel
    · exact fun _ => rfl
    · rintro other - -
      rw [hMatched]
      exact db.references.matchedPreset row hMem
    · rintro other hOther hKey
      obtain rfl := hUnique other hOther hKey
      exact ⟨hCheck.1, rfl, rfl, hCheck.2.2.2.1, nofun⟩
  obtain ⟨db', hDb⟩ := hUpdate
  refine ⟨db', bind_eq_ok.mpr ⟨(), hValid, bind_eq_ok.mpr
    ⟨discovered, domainCheck_ok.mpr hDiscovered, ?_⟩⟩⟩
  rw [hRow]
  exact bind_eq_ok.mpr ⟨metadata, hRead, bind_eq_ok.mpr ⟨refreshed, hRefreshed,
    catalogStatement_ok.mpr hDb⟩⟩

theorem exists_discoverModel {state : Discovering} {refresh : SourceModelRefresh}
    {row : SourceModelRow} (hValid : validateSourceModelRefresh refresh = .ok ())
    (hRow : state.db.sourceModel? refresh.sourceId refresh.upstreamModelId = some row)
    (hSettled : SettledRow refresh row) :
    ∃ state', discoverModel now state refresh = .ok state' := by
  obtain ⟨db', hDb⟩ := exists_refreshSourceModel hValid hRow hSettled
  obtain ⟨written, -, hWrote⟩ := refreshSourceModel_wrote now state.db refresh db' hDb
  exact ⟨_, bind_eq_ok.mpr ⟨db', hDb, bind_eq_ok.mpr
    ⟨written, require_eq_ok.mpr hWrote.here, rfl⟩⟩⟩

variable (now) in
/-- The first loop over settled rows. -/
theorem exists_mergedUpTo {refreshes : List SourceModelRefresh}
    (hSource : ∀ refresh ∈ refreshes, refresh.sourceId = input.sourceId)
    (hNodup : (listedIds refreshes).Nodup)
    (hValid : ∀ refresh ∈ refreshes, validateSourceModelRefresh refresh = .ok ())
    (hSettled : ∀ refresh ∈ refreshes, ∃ row,
      db.sourceModel? input.sourceId refresh.upstreamModelId = some row ∧ SettledRow refresh row) :
    ∃ state, refreshes.foldlM (discoverModel now)
        { db, beforeById := db.modelsOf input.sourceId, diff := {}, records := [] } = .ok state ∧
      MergedUpTo now input db refreshes state := by
  refine exists_foldlM_prefix ?_ (mergedUpTo_nil now input db)
  rintro done state refresh rest hItems hDone
  have hMem : refresh ∈ refreshes := by simp [hItems]
  have hNew := Rows.key_notMem_of_split hNodup hItems
  refine ⟨?_, mergedUpTo_step (hSource refresh hMem) hNew hDone⟩
  obtain ⟨row, hRow, hRowSettled⟩ := hSettled refresh hMem
  rw [← hDone.others _ _ fun _ => hNew, ← hSource refresh hMem] at hRow
  exact exists_discoverModel (hValid refresh hMem) hRow hRowSettled

/-- A listing that was merged is merged once more without an error. -/
theorem exists_again {result : DiscoveryApplyResult} (later : DateTime)
    (h : applyDiscoveryDiff now input db = .ok result) :
    ∃ again, applyDiscoveryDiff later input result.db = .ok again := by
  have hMerged := applyDiscoveryDiff_merged now input db result h
  rw [applyDiscoveryDiff] at h
  obtain ⟨⟨⟩, hInput, h⟩ := bind_eq_ok.mp h
  obtain ⟨⟨⟩, hListed, h⟩ := bind_eq_ok.mp h
  obtain ⟨source, hSource, h⟩ := bind_eq_ok.mp h
  obtain ⟨⟨⟩, hAccount, h⟩ := bind_eq_ok.mp h
  obtain ⟨_, _, h⟩ := bind_eq_ok.mp h
  obtain ⟨_, _, h⟩ := bind_eq_ok.mp h
  obtain ⟨⟨⟩, hCount, -⟩ := bind_eq_ok.mp h
  have hNodup : (listedIds input.discovered).Nodup :=
    ((discovered_perm input).map _).nodup_iff.mpr (validateDiscovery_nodup hInput)
  have hSettled : ∀ refresh ∈ input.discovered, ∃ row,
      result.db.sourceModel? input.sourceId refresh.upstreamModelId = some row ∧
        SettledRow refresh row := by
    rintro refresh hRefresh
    obtain ⟨row, hRow, hRefreshed⟩ :=
      hMerged.listed refresh ((discovered_perm input).mem_iff.mp hRefresh)
    have hValid := validateSourceModelRefresh_valid (forM_validated hListed refresh hRefresh)
    exact ⟨row, hRow, hRefreshed.settled hValid⟩
  obtain ⟨state₁, hFirst, h₁⟩ := exists_mergedUpTo later (forM_validateDiscovered hListed)
    hNodup (forM_validated hListed) hSettled
  obtain ⟨state₂, hSecond, -⟩ := exists_missedUpTo later h₁.stored_before
    h₁.nodup_before h₁.missing
  have hSources : result.db.source? input.sourceId = db.source? input.sourceId := by
    rw [hMerged.only]
    rfl
  have hAccounts : validateAccountForSource result.db.toTables input.sourceId input.accountId =
      validateAccountForSource db.toTables input.sourceId input.accountId := by
    rw [hMerged.only]
    rfl
  refine ⟨_, bind_eq_ok.mpr ⟨(), hInput, bind_eq_ok.mpr ⟨(), hListed, bind_eq_ok.mpr
    ⟨source, ?_, bind_eq_ok.mpr ⟨(), ?_, bind_eq_ok.mpr ⟨state₁, hFirst, bind_eq_ok.mpr
      ⟨state₂, hSecond, bind_eq_ok.mpr ⟨(), hCount, rfl⟩⟩⟩⟩⟩⟩⟩⟩
  · rw [hSources]
    exact hSource
  · rw [hAccounts]
    exact hAccount

end Outcome

end AiGateway.ControlPlane
