import AiGateway.ControlPlane.DiscoveryRows

/-!
# A discovery merges

Two loops, over the listed models and over the stored ones that were not listed,
change every row of the source once.  The diff tells the rows apart by what they
were before.
-/

namespace AiGateway.ControlPlane

set_option autoImplicit false

open AiGateway.Catalog AiGateway.Checked AiGateway.Health AiGateway.Json

abbrev idsOf (entries : List DiscoveryDiffEntry) : List String :=
  entries.map DiscoveryDiffEntry.upstreamModelId

abbrev listedIds (refreshes : List SourceModelRefresh) : List String :=
  refreshes.map SourceModelRefresh.upstreamModelId

abbrev rowIds (rows : List SourceModelRow) : List String :=
  rows.map SourceModelRow.upstreamModelId

/-! ## The stored rows -/

theorem mem_modelsOf {t : Tables} {sourceId : String} {row : SourceModelRow} :
    row ∈ t.modelsOf sourceId ↔ row ∈ t.sourceModels ∧ row.sourceId = sourceId := by
  rw [Tables.modelsOf, (List.perm_insertionSort _ _).mem_iff, List.mem_filter, decide_eq_true_iff]

theorem nodup_modelsOf (db : Db) (sourceId : String) : (rowIds (db.modelsOf sourceId)).Nodup := by
  have hPerm : (rowIds (db.modelsOf sourceId)).Perm
      (rowIds (db.sourceModels.filter fun row => row.sourceId = sourceId)) :=
    (List.perm_insertionSort _ _).map _
  have hKeys : ((db.sourceModels.filter fun row => row.sourceId = sourceId).map
      SourceModelRow.key).Nodup :=
    db.keys.sourceModels.sublist (List.filter_sublist.map _)
  have hSame : (db.sourceModels.filter fun row => row.sourceId = sourceId).map SourceModelRow.key =
      (rowIds (db.sourceModels.filter fun row => row.sourceId = sourceId)).map (Prod.mk sourceId) := by
    rw [List.map_map]
    apply List.map_congr_left
    intro row hRow
    have hSource := of_decide_eq_true (List.mem_filter.mp hRow).2
    rw [SourceModelRow.key, hSource]
    rfl
  rw [hSame] at hKeys
  exact hPerm.nodup_iff.mpr hKeys.of_map

theorem find_modelsOf (db : Db) (sourceId m : String) :
    Rows.find SourceModelRow.upstreamModelId m (db.modelsOf sourceId) =
      db.sourceModel? sourceId m := by
  apply Option.ext
  intro row
  rw [Rows.find_eq_some_iff (nodup_modelsOf db sourceId), mem_modelsOf, Tables.sourceModel?,
    Rows.find_eq_some_iff db.keys.sourceModels, SourceModelRow.key, Prod.mk.injEq, and_assoc]

/-! ## The listed models -/

section Loops

variable (now : DateTime) (input : DiscoveryApplyInput) (db : Db)

/-- The listed models taken so far are refreshed, the rows left are those not met. -/
structure MergedUpTo (done : List SourceModelRefresh) (state : Discovering) : Prop where
  only : OnlyModels db state.db
  before : state.beforeById = (db.modelsOf input.sourceId).filter fun row =>
    row.upstreamModelId ∉ listedIds done
  listed : ∀ refresh ∈ done, ∃ row,
    state.db.sourceModel? input.sourceId refresh.upstreamModelId = some row ∧
      Refreshed now refresh (db.sourceModel? input.sourceId refresh.upstreamModelId) row
  others : ∀ s m, (s = input.sourceId → m ∉ listedIds done) →
    state.db.sourceModel? s m = db.sourceModel? s m
  added : ∀ m, m ∈ idsOf state.diff.added ↔
    m ∈ listedIds done ∧ db.sourceModel? input.sourceId m = none
  changed : ∀ m, m ∈ idsOf state.diff.changed ↔ m ∈ listedIds done ∧
    ∃ old new, db.sourceModel? input.sourceId m = some old ∧
      state.db.sourceModel? input.sourceId m = some new ∧ changedSourceModelFields old new ≠ []
  missing : state.diff.missing = []
  addedOnce : (idsOf state.diff.added).Sublist (listedIds done)
  changedOnce : (idsOf state.diff.changed).Sublist (listedIds done)

variable {now} {input} {db}

variable (now) (input) (db) in
theorem mergedUpTo_nil : MergedUpTo now input db []
    { db, beforeById := db.modelsOf input.sourceId, diff := {}, records := [] } where
  only := .refl db
  before := by simp
  listed := by simp
  others _ _ _ := rfl
  added := by simp
  changed := by simp
  missing := rfl
  addedOnce := .slnil
  changedOnce := .slnil

theorem discoverModel_ok (state : Discovering) (refresh : SourceModelRefresh) :
    Ensures (discoverModel now state refresh) fun state' =>
      ∃ row, Refreshed now refresh
          (state.db.sourceModel? refresh.sourceId refresh.upstreamModelId) row ∧
        Wrote state.db state'.db refresh.sourceId refresh.upstreamModelId row ∧
        state'.beforeById = state.beforeById.filter (fun row =>
          row.upstreamModelId ≠ refresh.upstreamModelId) ∧
        state'.diff = state.diff.compare
          (Rows.find SourceModelRow.upstreamModelId refresh.upstreamModelId state.beforeById)
          row := by
  unfold discoverModel
  refine ensures_seq (refreshSourceModel_wrote now state.db refresh) ?_
  rintro written ⟨row, hRow, hWrote⟩
  refine ensures_bind fun current hCurrent => ?_
  obtain rfl : row = current :=
    Option.some.inj (hWrote.here.symm.trans (require_eq_ok.mp hCurrent))
  exact ensures_pure ⟨row, hRow, hWrote, rfl, rfl⟩

theorem mem_idsOf_compare_added {diff : DiscoveryDiff} {previous : Option SourceModelRow}
    {current : SourceModelRow} {m : String} :
    m ∈ idsOf (diff.compare previous current).added ↔
      m ∈ idsOf diff.added ∨ (previous = none ∧ m = current.upstreamModelId) := by
  cases previous with
  | none => simp [DiscoveryDiff.compare]
  | some previous =>
    rw [DiscoveryDiff.compare]
    split <;> simp

theorem mem_idsOf_compare_changed {diff : DiscoveryDiff} {previous : Option SourceModelRow}
    {current : SourceModelRow} {m : String} :
    m ∈ idsOf (diff.compare previous current).changed ↔
      m ∈ idsOf diff.changed ∨ (m = current.upstreamModelId ∧
        ∃ old, previous = some old ∧ changedSourceModelFields old current ≠ []) := by
  cases previous with
  | none => simp [DiscoveryDiff.compare]
  | some previous =>
    rw [DiscoveryDiff.compare]
    split
    · next hSame => simp [hSame]
    · next hDiffer => simp [hDiffer]

theorem compare_sublist (diff : DiscoveryDiff) (previous : Option SourceModelRow)
    (current : SourceModelRow) {done : List String}
    (hAdded : (idsOf diff.added).Sublist done) (hChanged : (idsOf diff.changed).Sublist done) :
    (idsOf (diff.compare previous current).added).Sublist (done ++ [current.upstreamModelId]) ∧
    (idsOf (diff.compare previous current).changed).Sublist
      (done ++ [current.upstreamModelId]) ∧
    (diff.compare previous current).missing = diff.missing := by
  have hKept : ∀ {ids : List String}, ids.Sublist done →
      ids.Sublist (done ++ [current.upstreamModelId]) :=
    fun h => h.trans (List.sublist_append_left _ _)
  cases previous with
  | none =>
    refine ⟨?_, hKept hChanged, rfl⟩
    rw [DiscoveryDiff.compare, idsOf, List.map_append]
    exact hAdded.append (List.Sublist.refl _)
  | some previous =>
    rw [DiscoveryDiff.compare]
    split
    · exact ⟨hKept hAdded, hKept hChanged, rfl⟩
    · refine ⟨hKept hAdded, ?_, rfl⟩
      rw [idsOf, List.map_append]
      exact hChanged.append (List.Sublist.refl _)

theorem mergedUpTo_step {done : List SourceModelRefresh} {state : Discovering}
    {refresh : SourceModelRefresh} (hSource : refresh.sourceId = input.sourceId)
    (hNew : refresh.upstreamModelId ∉ listedIds done) (h : MergedUpTo now input db done state) :
    Ensures (discoverModel now state refresh) (MergedUpTo now input db (done ++ [refresh])) := by
  refine (discoverModel_ok state refresh).imp ?_
  rintro state' ⟨row, hRow, hWrote, hBefore, hDiff⟩
  rw [hSource] at hRow hWrote
  have hPrevious : Rows.find SourceModelRow.upstreamModelId refresh.upstreamModelId
      state.beforeById = db.sourceModel? input.sourceId refresh.upstreamModelId := by
    rw [h.before, Rows.find_filter, find_modelsOf]
    rintro other - hSame
    rw [hSame]
    exact decide_eq_true hNew
  have hId : row.upstreamModelId = refresh.upstreamModelId :=
    congrArg Prod.snd (Rows.find_key hWrote.here).2
  have hDone : listedIds (done ++ [refresh]) = listedIds done ++ [refresh.upstreamModelId] := by
    simp
  rw [h.others _ _ fun _ => hNew] at hRow
  rw [hPrevious] at hDiff
  obtain ⟨hAdded, hChanged, hMissing⟩ := compare_sublist state.diff
    (db.sourceModel? input.sourceId refresh.upstreamModelId) row h.addedOnce h.changedOnce
  rw [hId] at hAdded hChanged
  have hKept : ∀ m, m ≠ refresh.upstreamModelId →
      state'.db.sourceModel? input.sourceId m = state.db.sourceModel? input.sourceId m := by
    rintro m hOther
    exact hWrote.elsewhere _ _ fun hSame => hOther (Prod.mk.inj hSame).2
  constructor
  case only => exact h.only.trans hWrote.only
  case before =>
    rw [hBefore, h.before, List.filter_filter, hDone]
    congr 1
    funext other
    rw [Bool.eq_iff_iff]
    simp only [Bool.and_eq_true, decide_eq_true_eq, List.mem_append, List.mem_singleton, not_or,
      ne_eq, and_comm]
  case listed =>
    rintro other hOther
    obtain hEarlier | hLast := List.mem_append.mp hOther
    · have hNe : other.upstreamModelId ≠ refresh.upstreamModelId := by
        rintro hSame
        exact hNew (hSame ▸ List.mem_map_of_mem hEarlier)
      rw [hKept _ hNe]
      exact h.listed other hEarlier
    · obtain rfl := List.mem_singleton.mp hLast
      exact ⟨row, hWrote.here, hRow⟩
  case others =>
    rintro s m hOther
    rw [hDone] at hOther
    have hNe : (s, m) ≠ (input.sourceId, refresh.upstreamModelId) := by
      rintro hSame
      obtain ⟨rfl, rfl⟩ := Prod.mk.inj hSame
      exact hOther rfl (by simp)
    rw [hWrote.elsewhere s m hNe]
    exact h.others s m fun hHere hMem => hOther hHere (List.mem_append_left _ hMem)
  case added =>
    intro m
    rw [hDiff, mem_idsOf_compare_added, h.added, hDone, List.mem_append, List.mem_singleton, hId]
    constructor
    · rintro (⟨hMem, hNone⟩ | ⟨hNone, rfl⟩)
      · exact ⟨.inl hMem, hNone⟩
      · exact ⟨.inr rfl, hNone⟩
    · rintro ⟨hMem | rfl, hNone⟩
      · exact .inl ⟨hMem, hNone⟩
      · exact .inr ⟨hNone, rfl⟩
  case changed =>
    intro m
    rw [hDiff, mem_idsOf_compare_changed, h.changed, hDone, List.mem_append, List.mem_singleton,
      hId]
    constructor
    · rintro (⟨hMem, old, new, hOld, hAfter, hDiffer⟩ | ⟨rfl, old, hOld, hDiffer⟩)
      · have hNe : m ≠ refresh.upstreamModelId := by
          rintro rfl
          exact hNew hMem
        exact ⟨.inl hMem, old, new, hOld, (hKept m hNe).trans hAfter, hDiffer⟩
      · exact ⟨.inr rfl, old, row, hOld, hWrote.here, hDiffer⟩
    · rintro ⟨hMem, old, new, hOld, hAfter, hDiffer⟩
      by_cases hHere : m = refresh.upstreamModelId
      · subst hHere
        obtain rfl := Option.some.inj (hWrote.here.symm.trans hAfter)
        exact .inr ⟨rfl, old, hOld, hDiffer⟩
      · rw [hKept m hHere] at hAfter
        exact .inl ⟨hMem.resolve_right hHere, old, new, hOld, hAfter, hDiffer⟩
  case missing => rw [hDiff, hMissing, h.missing]
  case addedOnce =>
    rw [hDiff, hDone]
    exact hAdded
  case changedOnce =>
    rw [hDiff, hDone]
    exact hChanged

theorem mergedUpTo_run {refreshes : List SourceModelRefresh}
    (hSource : ∀ refresh ∈ refreshes, refresh.sourceId = input.sourceId)
    (hNodup : (listedIds refreshes).Nodup) :
    Ensures (refreshes.foldlM (discoverModel now)
        { db, beforeById := db.modelsOf input.sourceId, diff := {}, records := [] })
      (MergedUpTo now input db refreshes) := by
  refine ensures_foldlM_prefix ?_ (mergedUpTo_nil now input db)
  rintro done state refresh rest hItems hDone
  have hMem : refresh ∈ refreshes := by simp [hItems]
  exact mergedUpTo_step (hSource refresh hMem) (Rows.key_notMem_of_split hNodup hItems) hDone

/-! ## The models listed no more -/

/-- The rows taken so far are missed; what the first loop left stays. -/
structure MissedUpTo (now : DateTime) (input : DiscoveryApplyInput) (start : Discovering)
    (done : List SourceModelRow) (state : Discovering) : Prop where
  only : OnlyModels start.db state.db
  missed : ∀ row ∈ done,
    state.db.sourceModel? input.sourceId row.upstreamModelId = some (missedRow now input row)
  others : ∀ s m, (s = input.sourceId → m ∉ rowIds done) →
    state.db.sourceModel? s m = start.db.sourceModel? s m
  added : state.diff.added = start.diff.added
  changed : state.diff.changed = start.diff.changed
  missing : ∀ m, m ∈ idsOf state.diff.missing ↔
    ∃ row ∈ done, row.upstreamModelId = m ∧ row.availabilityStatus ≠ .unavailable
  missingOnce : (idsOf state.diff.missing).Sublist (rowIds done)

theorem missModel_ok {state : Discovering} {row : SourceModelRow}
    (hRow : state.db.sourceModel? input.sourceId row.upstreamModelId = some row) :
    Ensures (missModel now input state row) fun state' =>
      Wrote state.db state'.db input.sourceId row.upstreamModelId (missedRow now input row) ∧
      state'.diff = { state.diff with
        missing := state.diff.missing ++
          if row.availabilityStatus = .unavailable then []
          else [⟨row.upstreamModelId, ["availability_status"]⟩] } := by
  unfold missModel
  split
  · next hGone =>
    have hMissed : missedRow now input row = row := if_pos hGone
    have hDiff : state.diff = { state.diff with missing := state.diff.missing ++ [] } := by simp
    rw [hMissed]
    rintro state' hState
    obtain rfl := Except.ok.inj hState
    exact ⟨⟨.refl _, hRow, fun _ _ _ => rfl⟩, hDiff⟩
  · next hThere =>
    have hMissed : missedRow now input row = { row with
      availabilityStatus := .unavailable
      unavailableAt := some input.completedAt
      updatedAt := now } := if_neg hThere
    rw [hMissed]
    refine ensures_bind fun written hWritten => ensures_bind fun current hCurrent => ?_
    have hWrote := wrote_of_update (catalogStatement_ok.mp hWritten) hRow fun _ => rfl
    obtain rfl := Option.some.inj (hWrote.here.symm.trans (require_eq_ok.mp hCurrent))
    exact ensures_pure ⟨hWrote, rfl⟩

variable (now) (input) in
/-- A model can always be marked as unavailable. -/
theorem exists_markUnavailable (db : Db) (m : String) :
    ∃ db', db.updateSourceModel input.sourceId m (fun row =>
      { row with
        availabilityStatus := .unavailable
        unavailableAt := some input.completedAt
        updatedAt := now }) = .ok db' := by
  apply exists_updateSourceModel
  · exact fun _ => rfl
  · rintro other hOther -
    exact db.references.matchedPreset other hOther
  · rintro other hOther -
    obtain ⟨hStatus, hMetadata, hSources, hConfirmed, -⟩ := db.checks.sourceModels other hOther
    exact ⟨hStatus, hMetadata, hSources, hConfirmed, fun _ => rfl⟩

/-- A stored row is missed without an error. -/
theorem exists_missModel {state : Discovering} {row : SourceModelRow}
    (hRow : state.db.sourceModel? input.sourceId row.upstreamModelId = some row) :
    ∃ state', missModel now input state row = .ok state' := by
  rw [missModel]
  split
  · exact ⟨state, rfl⟩
  · obtain ⟨db', hDb⟩ := exists_markUnavailable now input state.db row.upstreamModelId
    have hWrote := wrote_of_update hDb hRow fun _ => rfl
    exact ⟨_, bind_eq_ok.mpr ⟨db', catalogStatement_ok.mpr hDb, bind_eq_ok.mpr
      ⟨_, require_eq_ok.mpr hWrote.here, rfl⟩⟩⟩

theorem missedUpTo_step {start : Discovering} {done : List SourceModelRow} {state : Discovering}
    {row : SourceModelRow}
    (hRow : start.db.sourceModel? input.sourceId row.upstreamModelId = some row)
    (hNew : row.upstreamModelId ∉ rowIds done) (h : MissedUpTo now input start done state) :
    Ensures (missModel now input state row) (MissedUpTo now input start (done ++ [row])) := by
  have hHere := (h.others input.sourceId row.upstreamModelId fun _ => hNew).trans hRow
  refine (missModel_ok hHere).imp ?_
  rintro state' ⟨hWrote, hDiff⟩
  have hDone : rowIds (done ++ [row]) = rowIds done ++ [row.upstreamModelId] := by simp
  constructor
  case only => exact h.only.trans hWrote.only
  case missed =>
    rintro other hOther
    obtain hEarlier | hLast := List.mem_append.mp hOther
    · rw [hWrote.elsewhere, h.missed other hEarlier]
      rintro hSame
      exact hNew ((Prod.mk.inj hSame).2 ▸ List.mem_map_of_mem hEarlier)
    · obtain rfl := List.mem_singleton.mp hLast
      exact hWrote.here
  case others =>
    rintro s m hOther
    rw [hDone] at hOther
    have hNe : (s, m) ≠ (input.sourceId, row.upstreamModelId) := by
      rintro hSame
      obtain ⟨rfl, rfl⟩ := Prod.mk.inj hSame
      exact hOther rfl (by simp)
    rw [hWrote.elsewhere s m hNe]
    exact h.others s m fun hHere hMem => hOther hHere (List.mem_append_left _ hMem)
  case added => rw [hDiff, ← h.added]
  case changed => rw [hDiff, ← h.changed]
  case missing =>
    intro m
    rw [hDiff, idsOf, List.map_append, List.mem_append, h.missing]
    constructor
    · rintro (⟨other, hOther, hFacts⟩ | hLast)
      · exact ⟨other, List.mem_append_left _ hOther, hFacts⟩
      · split at hLast
        · cases hLast
        · next hThere =>
          obtain rfl := List.mem_singleton.mp hLast
          exact ⟨row, by simp, rfl, hThere⟩
    · rintro ⟨other, hOther, rfl, hThere⟩
      obtain hEarlier | hLast := List.mem_append.mp hOther
      · exact .inl ⟨other, hEarlier, rfl, hThere⟩
      · obtain rfl := List.mem_singleton.mp hLast
        rw [if_neg hThere]
        exact .inr List.mem_cons_self
  case missingOnce =>
    rw [hDiff, hDone, idsOf, List.map_append]
    apply h.missingOnce.append
    split
    · exact List.nil_sublist _
    · exact List.Sublist.refl _

variable (now) (input) in
theorem missedUpTo_nil {start : Discovering} (h : start.diff.missing = []) :
    MissedUpTo now input start [] start where
  only := .refl _
  missed := by simp
  others _ _ _ := rfl
  added := rfl
  changed := rfl
  missing := by simp [h]
  missingOnce := by simp [h]

variable (now) in
theorem exists_missedUpTo {start : Discovering} {rows : List SourceModelRow}
    (hRows : ∀ row ∈ rows, start.db.sourceModel? input.sourceId row.upstreamModelId = some row)
    (hNodup : (rowIds rows).Nodup) (hNone : start.diff.missing = []) :
    ∃ state, rows.foldlM (missModel now input) start = .ok state ∧
      MissedUpTo now input start rows state := by
  refine exists_foldlM_prefix ?_ (missedUpTo_nil now input hNone)
  rintro done state row rest hItems hDone
  have hRow := hRows row (by simp [hItems])
  have hNew := Rows.key_notMem_of_split hNodup hItems
  refine ⟨exists_missModel ?_, missedUpTo_step hRow hNew hDone⟩
  rw [hDone.others _ _ fun _ => hNew]
  exact hRow

end Loops

end AiGateway.ControlPlane
