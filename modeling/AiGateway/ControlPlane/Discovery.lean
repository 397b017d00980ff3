import AiGateway.ControlPlane.Writes

/-!
# What discovery and confirmation change

Both edit source models only.  A discovery decides which models of its source
are available and confirms none; a confirmation confirms models and leaves their
availability alone.
-/

namespace AiGateway.ControlPlane

set_option autoImplicit false

open AiGateway.Catalog AiGateway.Checked AiGateway.Health AiGateway.Json

/-- The second database differs from the first in its source models at most. -/
def OnlyModels (db db' : Db) : Prop :=
  db'.toTables = { db.toTables with sourceModels := db'.sourceModels }

theorem OnlyModels.refl (db : Db) : OnlyModels db db := rfl

theorem OnlyModels.trans {db db' db'' : Db} (h : OnlyModels db db') (h' : OnlyModels db' db'') :
    OnlyModels db db'' := by
  unfold OnlyModels at h h' ⊢
  rw [h', h]

/-- A step that confirms nothing and sets the availability of every model. -/
structure Listed (db db' : Db) (available : String → String → Bool) : Prop where
  only : OnlyModels db db'
  confirmed : ∀ s m, db'.isConfirmed s m = db.isConfirmed s m
  available : ∀ s m, db'.isAvailable s m = available s m

/-- A step that may confirm models and leaves their availability alone. -/
structure Confirming (db db' : Db) : Prop where
  only : OnlyModels db db'
  confirmed : ∀ s m, db.isConfirmed s m = true → db'.isConfirmed s m = true
  available : ∀ s m, db'.isAvailable s m = db.isAvailable s m

theorem sourceModel?_updateSourceModel {db db' : Db} {sourceId upstreamModelId : String}
    {f : SourceModelRow → SourceModelRow}
    (h : db.updateSourceModel sourceId upstreamModelId f = .ok db')
    (hKey : ∀ row, (f row).key = row.key) (s m : String) :
    db'.sourceModel? s m = (db.sourceModel? s m).map fun row =>
      if (s, m) = (sourceId, upstreamModelId) then f row else row := by
  rw [enforce_ok h]
  refine (Rows.find_updateWhere hKey (s, m) db.sourceModels).trans ?_
  cases hFind : Rows.find SourceModelRow.key (s, m) db.sourceModels with
  | none => simp [Tables.sourceModel?, hFind]
  | some row =>
    have hRow := (Rows.find_key hFind).2
    simp [Tables.sourceModel?, hFind, hRow]

theorem onlyModels_of_update {db db' : Db} {sourceId upstreamModelId : String}
    {f : SourceModelRow → SourceModelRow}
    (h : db.updateSourceModel sourceId upstreamModelId f = .ok db') : OnlyModels db db' := by
  unfold OnlyModels
  rw [enforce_ok h]

theorem Confirming.refl (db : Db) : Confirming db db :=
  ⟨.refl db, fun _ _ h => h, fun _ _ => rfl⟩

theorem Confirming.trans {db db' db'' : Db} (h : Confirming db db') (h' : Confirming db' db'') :
    Confirming db db'' where
  only := h.only.trans h'.only
  confirmed s m hConfirmed := h'.confirmed s m (h.confirmed s m hConfirmed)
  available s m := (h'.available s m).trans (h.available s m)

theorem Listed.refl (db : Db) : Listed db db db.isAvailable :=
  ⟨.refl db, fun _ _ => rfl, fun _ _ => rfl⟩

/-! ## Confirmation and overrides -/

/-- An edit of one model that keeps its availability and does not withdraw its
confirmation. -/
theorem confirming_of_update {db db' : Db} {sourceId upstreamModelId : String}
    {f : SourceModelRow → SourceModelRow}
    (h : db.updateSourceModel sourceId upstreamModelId f = .ok db')
    (hKey : ∀ row, (f row).key = row.key)
    (hConfirmed : ∀ row, row.confirmationStatus = .confirmed →
      (f row).confirmationStatus = .confirmed)
    (hAvailable : ∀ row, (f row).availabilityStatus = row.availabilityStatus) :
    Confirming db db' := by
  have hFind := sourceModel?_updateSourceModel h hKey
  refine ⟨onlyModels_of_update h, ?_, ?_⟩
  · intro s m hOld
    unfold Tables.isConfirmed at hOld ⊢
    rw [hFind s m]
    cases hRow : db.sourceModel? s m with
    | none => simp [hRow] at hOld
    | some row =>
      simp only [hRow, Option.any_some, decide_eq_true_eq, Option.map_some] at hOld ⊢
      split
      · exact hConfirmed row hOld
      · exact hOld
  · intro s m
    unfold Tables.isAvailable
    rw [hFind s m]
    cases db.sourceModel? s m with
    | none => rfl
    | some row =>
      simp only [Option.any_some, Option.map_some]
      split
      · rw [hAvailable row]
      · rfl

theorem updateSourceModelUserOverrides_confirming (now : DateTime) (db : Db)
    (sourceId upstreamModelId : String) (overrides : MetadataValues) :
    Ensures (updateSourceModelUserOverrides now sourceId upstreamModelId overrides db)
      (Confirming db) := by
  unfold updateSourceModelUserOverrides
  iterate 3 refine ensures_then fun _ => ?_
  refine ensures_mapError fun db' h => ?_
  exact confirming_of_update h (fun _ => rfl) (fun _ hRow => hRow) (fun _ => rfl)

theorem confirmSourceModel_confirming (now : DateTime) (db : Db) (sourceId : String)
    (confirmation : SourceModelConfirmation) :
    Ensures (confirmSourceModel now sourceId db confirmation) (Confirming db) := by
  unfold confirmSourceModel
  iterate 4 refine ensures_then fun _ => ?_
  refine ensures_mapError fun db' h => ?_
  exact confirming_of_update h (fun _ => rfl) (fun _ _ => rfl) (fun _ => rfl)

theorem confirmSourceModels_confirming (now : DateTime) (db : Db) (sourceId : String)
    (confirmations : List SourceModelConfirmation) :
    Ensures (confirmSourceModels now sourceId confirmations db) (Confirming db) := by
  unfold confirmSourceModels
  iterate 2 refine ensures_then fun _ => ?_
  refine ensures_foldlM (fun db' hDb confirmation _ => ?_) (.refl db)
  exact (confirmSourceModel_confirming now db' sourceId confirmation).imp fun _ h => hDb.trans h

/-! ## Discovery -/

def isModel (sourceId upstreamModelId s m : String) : Bool := s = sourceId && m = upstreamModelId

/-- An edit of one model that keeps its confirmation and fixes its availability. -/
theorem listed_of_update {db db' : Db} {sourceId upstreamModelId : String}
    {f : SourceModelRow → SourceModelRow}
    (h : db.updateSourceModel sourceId upstreamModelId f = .ok db')
    (hKey : ∀ row, (f row).key = row.key)
    (hConfirmed : ∀ row, (f row).confirmationStatus = row.confirmationStatus)
    {availability : CatalogAvailability}
    (hAvailable : ∀ row, (f row).availabilityStatus = availability) :
    Listed db db' fun s m =>
      if isModel sourceId upstreamModelId s m then
        (db.sourceModel? s m).isSome && availability = .available
      else db.isAvailable s m := by
  have hFind := sourceModel?_updateSourceModel h hKey
  refine ⟨onlyModels_of_update h, ?_, ?_⟩
  · intro s m
    unfold Tables.isConfirmed
    rw [hFind s m]
    cases db.sourceModel? s m with
    | none => rfl
    | some row =>
      simp only [Option.any_some, Option.map_some]
      split
      · rw [hConfirmed row]
      · rfl
  · intro s m
    unfold Tables.isAvailable
    rw [hFind s m]
    cases db.sourceModel? s m with
    | none => simp
    | some row =>
      simp only [Option.any_some, Option.map_some, isModel, Bool.and_eq_true, decide_eq_true_eq,
        Prod.mk.injEq, Option.isSome_some, Bool.true_and]
      split
      · rw [hAvailable row]
      · rfl

theorem sourceModel?_insertSourceModel {db db' : Db} {row : SourceModelRow}
    (h : db.insertSourceModel row = .ok db') (s m : String) :
    db'.sourceModel? s m = (db.sourceModel? s m).or
      (if isModel row.sourceId row.upstreamModelId s m then some row else none) := by
  rw [enforce_ok h]
  refine (Rows.find_append_singleton (κ := String × String)).trans ?_
  congr 1
  simp only [SourceModelRow.key, isModel, Prod.mk.injEq, Bool.and_eq_true, decide_eq_true_eq,
    @eq_comm _ s, @eq_comm _ m]

theorem onlyModels_of_insert {db db' : Db} {row : SourceModelRow}
    (h : db.insertSourceModel row = .ok db') : OnlyModels db db' := by
  unfold OnlyModels
  rw [enforce_ok h]

theorem listed_of_insert {db db' : Db} {row : SourceModelRow}
    (hPending : row.confirmationStatus = .pending) (hAvailable : row.availabilityStatus = .available)
    (hNew : db.sourceModel? row.sourceId row.upstreamModelId = none)
    (h : db.insertSourceModel row = .ok db') :
    Listed db db' fun s m =>
      isModel row.sourceId row.upstreamModelId s m || db.isAvailable s m := by
  have hFind := sourceModel?_insertSourceModel h
  refine ⟨onlyModels_of_insert h, ?_, ?_⟩
  · intro s m
    unfold Tables.isConfirmed
    rw [hFind s m]
    cases db.sourceModel? s m with
    | some old => rfl
    | none =>
      rw [Option.none_or]
      split
      · simp [hPending]
      · rfl
  · intro s m
    unfold Tables.isAvailable
    rw [hFind s m]
    cases hModel : isModel row.sourceId row.upstreamModelId s m with
    | false => simp
    | true =>
      simp only [isModel, Bool.and_eq_true, decide_eq_true_eq] at hModel
      rw [hModel.1, hModel.2, hNew]
      simp [hAvailable]

theorem refreshSourceModel_listed (now : DateTime) (db : Db) (refresh : SourceModelRefresh) :
    Ensures (refreshSourceModel now db refresh) fun db' =>
      Listed db db' fun s m =>
        isModel refresh.sourceId refresh.upstreamModelId s m || db.isAvailable s m := by
  unfold refreshSourceModel
  iterate 2 refine ensures_then fun _ => ?_
  split
  · next hNew =>
    refine ensures_mapError fun db' h => ?_
    exact listed_of_insert rfl rfl hNew h
  · next existing hOld =>
    iterate 2 refine ensures_then fun _ => ?_
    refine ensures_mapError fun db' h => ?_
    obtain ⟨hOnly, hConfirmed, hAvailable⟩ :=
      listed_of_update h (fun _ => rfl) (fun _ => rfl) (fun _ => rfl)
    refine ⟨hOnly, hConfirmed, fun s m => ?_⟩
    rw [hAvailable s m]
    cases hModel : isModel refresh.sourceId refresh.upstreamModelId s m with
    | false => simp
    | true =>
      simp only [isModel, Bool.and_eq_true, decide_eq_true_eq] at hModel
      simp [hModel.1, hModel.2, hOld]

theorem refreshAll_listed (now : DateTime) (refreshes : List SourceModelRefresh) :
    ∀ db : Db, Ensures (refreshes.foldlM (refreshSourceModel now) db) fun db' =>
      Listed db db' fun s m =>
        (refreshes.any fun refresh => isModel refresh.sourceId refresh.upstreamModelId s m) ||
          db.isAvailable s m := by
  induction refreshes with
  | nil => exact fun db => ensures_pure (.refl db)
  | cons refresh refreshes ih =>
    intro db
    rw [List.foldlM_cons]
    refine ensures_seq (refreshSourceModel_listed now db refresh) fun db' hFirst => ?_
    refine (ih db').imp fun db'' hRest => ⟨hFirst.only.trans hRest.only, ?_, ?_⟩
    · intro s m
      rw [hRest.confirmed, hFirst.confirmed]
    · intro s m
      rw [hRest.available, hFirst.available, List.any_cons]
      ac_rfl

def DiscoveryApplyInput.isMissing (input : DiscoveryApplyInput) (row : SourceModelRow) : Bool :=
  row.upstreamModelId ∉ input.modelIds && row.availabilityStatus ≠ .unavailable

theorem markMissing_listed (now : DateTime) (input : DiscoveryApplyInput) (db : Db)
    (previous : SourceModelRow) :
    Ensures (markMissing now input db previous) fun db' =>
      Listed db db' fun s m =>
        db.isAvailable s m &&
          !(input.isMissing previous && isModel input.sourceId previous.upstreamModelId s m) := by
  unfold markMissing
  split
  · next hKept =>
    have hPresent : input.isMissing previous = false := by
      unfold DiscoveryApplyInput.isMissing
      obtain hListed | hGone := hKept
      · simp [hListed]
      · simp [hGone]
    refine ensures_pure ⟨.refl db, fun _ _ => rfl, fun s m => ?_⟩
    simp [hPresent]
  · next hMissing =>
    have hPresent : input.isMissing previous = true := by
      simpa [DiscoveryApplyInput.isMissing] using hMissing
    refine ensures_mapError fun db' h => ?_
    obtain ⟨hOnly, hConfirmed, hAvailable⟩ :=
      listed_of_update h (fun _ => rfl) (fun _ => rfl) (fun _ => rfl)
    refine ⟨hOnly, hConfirmed, fun s m => ?_⟩
    rw [hAvailable s m, hPresent]
    cases isModel input.sourceId previous.upstreamModelId s m with
    | false => simp
    | true => simp

theorem markAll_listed (now : DateTime) (input : DiscoveryApplyInput)
    (rows : List SourceModelRow) :
    ∀ db : Db, Ensures (rows.foldlM (markMissing now input) db) fun db' =>
      Listed db db' fun s m =>
        db.isAvailable s m && !(rows.any fun row =>
          input.isMissing row && isModel input.sourceId row.upstreamModelId s m) := by
  induction rows with
  | nil => exact fun db => ensures_pure ⟨.refl db, fun _ _ => rfl, fun s m => by simp⟩
  | cons row rows ih =>
    intro db
    rw [List.foldlM_cons]
    refine ensures_seq (markMissing_listed now input db row) fun db' hFirst => ?_
    refine (ih db').imp fun db'' hRest => ⟨hFirst.only.trans hRest.only, ?_, ?_⟩
    · intro s m
      rw [hRest.confirmed, hFirst.confirmed]
    · intro s m
      rw [hRest.available, hFirst.available, List.any_cons, Bool.not_or, Bool.and_assoc]

/-- After a discovery the models of its source are available exactly when they
were listed. -/
def DiscoveryApplyInput.lists (input : DiscoveryApplyInput) (t : Tables) (s m : String) : Bool :=
  if s = input.sourceId then m ∈ input.modelIds else t.isAvailable s m

theorem forM_validateDiscovered {input : DiscoveryApplyInput}
    {refreshes : List SourceModelRefresh} {u : Unit}
    (h : refreshes.forM (validateDiscovered input) = .ok u) :
    ∀ refresh ∈ refreshes, refresh.sourceId = input.sourceId := by
  induction refreshes with
  | nil => intro refresh hRefresh; cases hRefresh
  | cons head rest ih =>
    change (validateDiscovered input head >>= fun _ => rest.forM (validateDiscovered input)) = _ at h
    obtain ⟨⟨⟩, hHead, hRest⟩ := bind_eq_ok.mp h
    obtain ⟨⟨⟩, -, hSource⟩ := bind_eq_ok.mp hHead
    intro refresh hRefresh
    obtain rfl | hMem := List.mem_cons.mp hRefresh
    · exact ensure_eq_ok.mp hSource
    · exact ih hRest refresh hMem

theorem isAvailable_mem {t : Tables} {s m : String} (h : t.isAvailable s m = true) :
    ∃ row ∈ t.sourceModels, row.key = (s, m) ∧ row.availabilityStatus = .available := by
  unfold Tables.isAvailable at h
  cases hRow : t.sourceModel? s m with
  | none => simp [hRow] at h
  | some row =>
    rw [hRow, Option.any_some, decide_eq_true_eq] at h
    obtain ⟨hMem, hKey⟩ := Rows.find_key hRow
    exact ⟨row, hMem, hKey, h⟩

theorem any_refreshed {input : DiscoveryApplyInput} {refreshes : List SourceModelRefresh}
    (hPerm : refreshes.Perm input.models)
    (hSource : ∀ refresh ∈ refreshes, refresh.sourceId = input.sourceId) (s m : String) :
    (refreshes.any fun refresh => isModel refresh.sourceId refresh.upstreamModelId s m) = true ↔
      s = input.sourceId ∧ m ∈ input.modelIds := by
  simp only [List.any_eq_true, isModel, Bool.and_eq_true, decide_eq_true_eq,
    DiscoveryApplyInput.modelIds, List.mem_map]
  constructor
  · rintro ⟨refresh, hMem, rfl, rfl⟩
    exact ⟨hSource refresh hMem, refresh, hPerm.mem_iff.mp hMem, rfl⟩
  · rintro ⟨rfl, refresh, hMem, rfl⟩
    have hMem' := hPerm.mem_iff.mpr hMem
    exact ⟨refresh, hMem', (hSource refresh hMem').symm, rfl⟩

theorem any_missing {input : DiscoveryApplyInput} {rows : List SourceModelRow} {s m : String}
    (h : (rows.any fun row =>
      input.isMissing row && isModel input.sourceId row.upstreamModelId s m) = true) :
    s = input.sourceId ∧ m ∉ input.modelIds := by
  simp only [List.any_eq_true, isModel, DiscoveryApplyInput.isMissing, Bool.and_eq_true,
    decide_eq_true_eq] at h
  obtain ⟨row, -, ⟨hUnlisted, -⟩, rfl, rfl⟩ := h
  exact ⟨rfl, hUnlisted⟩

theorem any_missing_of_available {input : DiscoveryApplyInput} {t : Tables} {m : String}
    (hUnlisted : m ∉ input.modelIds) (h : t.isAvailable input.sourceId m = true) :
    ((t.sourceModels.filter fun row => row.sourceId = input.sourceId).any fun row =>
      input.isMissing row && isModel input.sourceId row.upstreamModelId input.sourceId m) =
        true := by
  obtain ⟨row, hRow, hKey, hAvailable⟩ := isAvailable_mem h
  rw [SourceModelRow.key, Prod.mk.injEq] at hKey
  obtain ⟨hSource, rfl⟩ := hKey
  rw [List.any_eq_true]
  refine ⟨row, List.mem_filter.mpr ⟨hRow, by simpa using hSource⟩, ?_⟩
  simp [DiscoveryApplyInput.isMissing, isModel, hUnlisted, hAvailable]

theorem applyDiscovery_listed (now : DateTime) (input : DiscoveryApplyInput) (db : Db) :
    Ensures (applyDiscovery now input db) fun db' =>
      Listed db db' (input.lists db.toTables) := by
  unfold applyDiscovery
  refine ensures_then fun _ => ensures_bind fun _ hSources => ?_
  iterate 2 refine ensures_then fun _ => ?_
  have hSource := forM_validateDiscovered hSources
  refine ensures_seq (refreshAll_listed now _ db) fun db₁ hRefreshed => ?_
  refine ensures_seq (markAll_listed now input _ db₁) fun db₂ hMarked => ensures_then fun _ => ?_
  refine ensures_pure ⟨hRefreshed.only.trans hMarked.only, ?_, ?_⟩
  · intro s m
    rw [hMarked.confirmed, hRefreshed.confirmed]
  · intro s m
    have hAny := any_refreshed (List.perm_insertionSort _ input.models) hSource s m
    rw [hMarked.available, hRefreshed.available, DiscoveryApplyInput.lists]
    split
    · next hHere =>
      subst hHere
      rcases Classical.em (m ∈ input.modelIds) with hListed | hUnlisted
      · rw [hAny.mpr ⟨rfl, hListed⟩, decide_eq_true hListed, Bool.true_or, Bool.true_and,
          Bool.not_eq_true', Bool.eq_false_iff]
        exact fun hMissing => (any_missing hMissing).2 hListed
      · rw [decide_eq_false hUnlisted, Bool.eq_false_iff]
        intro hKept
        rw [Bool.and_eq_true, Bool.or_eq_true, Bool.not_eq_true'] at hKept
        obtain ⟨hRefreshed | hAvailable, hPresent⟩ := hKept
        · exact hUnlisted (hAny.mp hRefreshed).2
        · rw [any_missing_of_available hUnlisted hAvailable] at hPresent
          cases hPresent
    · next hElsewhere =>
      have hNone : (List.any _ _) ≠ true := fun hTrue => hElsewhere (hAny.mp hTrue).1
      rw [Bool.eq_false_iff.mpr hNone, Bool.false_or]
      cases hMissing : (List.any _ _) with
      | false => simp
      | true => exact absurd (any_missing hMissing).1 hElsewhere

end AiGateway.ControlPlane
