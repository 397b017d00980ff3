import AiGateway.ControlPlane.SnapshotRows
import AiGateway.ControlPlane.Sound

/-!
# What writes keep

A property of the rows that no statement of a write breaks holds when the write is
finished.  Every write that goes through a snapshot commits a database whose
snapshot can be loaded, and keeps the facts the snapshot relies on.
-/

namespace AiGateway.ControlPlane

set_option autoImplicit false

open AiGateway.Catalog AiGateway.Checked AiGateway.Config AiGateway.Health AiGateway.Json

def Loadable (service : Service) (t : Tables) : Prop :=
  ∃ snapshot, loadSnapshot service t = .ok snapshot

structure Good (service : Service) (db : Db) : Prop where
  sound : db.Sound
  loadable : Loadable service db.toTables

theorem loadable_iff {service : Service} {t : Tables} :
    Loadable service t ↔
      validatePersistedSourceUrls service t = .ok () ∧ validateCapabilityChains service t = .ok () ∧
        (buildRows service (snapshotRows service t)).errors = [] := by
  simp only [Loadable, loadSnapshot, buildSnapshot, bind_eq_ok, collected_eq_ok, pure_eq_ok]
  constructor
  · rintro ⟨snapshot, ⟨⟩, hUrls, ⟨⟩, hChains, ⟨⟩, hErrors, -⟩
    exact ⟨hUrls, hChains, hErrors⟩
  · rintro ⟨hUrls, hChains, hErrors⟩
    exact ⟨_, (), hUrls, (), hChains, (), hErrors, rfl⟩

variable {service : Service} {now : DateTime} {db : Db}

/-- The two checks before a snapshot read neither the counter nor its stamp. -/
theorem loadSnapshot_of_publish {published : Tables} {snapshot : RuntimeSnapshot}
    (hUrls : validatePersistedSourceUrls service db.toTables = .ok ())
    (hChains : validateCapabilityChains service db.toTables = .ok ())
    (hTables : published =
      { db.toTables with revision := db.revision + 1, snapshotUpdatedAt := now })
    (hSnapshot : buildSnapshot service published = .ok snapshot) :
    loadSnapshot service published = .ok snapshot := by
  subst hTables
  simp only [loadSnapshot, bind_eq_ok]
  exact ⟨(), hUrls, (), hChains, hSnapshot⟩

/-- What the end of a write has checked, and what it leaves. -/
structure Finished (service : Service) (now : DateTime) (db : Db) (committed : Committed) :
    Prop where
  urls : validatePersistedSourceUrls service db.toTables = .ok ()
  chains : validateCapabilityChains service db.toTables = .ok ()
  tables : committed.db.toTables =
    { db.toTables with revision := db.revision + 1, snapshotUpdatedAt := now }
  snapshot : buildSnapshot service committed.db.toTables = .ok committed.snapshot

theorem finishWrite_finished : Ensures (finishWrite service now db) (Finished service now db) := by
  unfold finishWrite
  refine ensures_bind fun _ hUrls => ensures_bind fun _ hChains => ?_
  refine ensures_bind fun published hPublished => ensures_bind fun snapshot hSnapshot => ?_
  exact ensures_pure ⟨hUrls, hChains, enforce_ok (mapError_ok.mp hPublished), hSnapshot⟩

theorem Finished.loads {committed : Committed} (h : Finished service now db committed) :
    loadSnapshot service committed.db.toTables = .ok committed.snapshot :=
  loadSnapshot_of_publish h.urls h.chains h.tables h.snapshot

theorem finishWrite_good (h : db.Sound) :
    Ensures (finishWrite service now db) fun committed => Good service committed.db := by
  intro committed hFinish
  have hFinished := finishWrite_finished committed hFinish
  refine ⟨?_, committed.snapshot, hFinished.loads⟩
  rw [hFinished.tables]
  exact ⟨h.weights, h.features, h.protocols, h.live⟩

/-- A capability is stored by one statement, or left as it is. -/
theorem upsertSourceModelCapabilityConn_keeps {P : Db → Prop} {input : SourceModelCapabilityInput}
    (h : P db) (hUpsert : Ensures (catalogStatement (upsertCapabilityRow now input db)) P) :
    Ensures (upsertSourceModelCapabilityConn now input db) P := by
  unfold upsertSourceModelCapabilityConn
  refine ensures_then fun _ => ?_
  split
  · refine ensures_then fun _ => ?_
    split
    · exact ensures_pure h
    · exact ensures_then fun _ => hUpsert
  · exact ensures_then fun _ => hUpsert

/-! ## Statements that keep a property -/

/-- The health columns as every write stores them: staleness is found when they are
read, never stored. -/
def HealthColumns.Stamped (health : HealthColumns) : Prop :=
  health.updatedAt.isSome = true ∧ health.status ≠ "stale"

theorem stamped_manualHealth (enabled : Bool) (row : AccountRow) :
    (manualHealth now enabled row).health.Stamped := by
  refine ⟨rfl, ?_⟩
  cases enabled
  · exact of_decide_eq_true rfl
  · exact of_decide_eq_true rfl

/-- A property kept by the statements of the writes, each with what its callers
have checked. -/
structure StatementInvariant (P : Db → Prop) : Prop where
  insertSource {db : Db} (row : SourceRow) : P db → Ensures (db.insertSource row) P
  updateSource {db : Db} (id : String) (f : SourceRow → SourceRow) :
    P db → Ensures (db.updateSource id f) P
  deleteSource {db : Db} (id : String) : P db → Ensures (db.deleteSource id) P
  insertAccount {db : Db} {row : AccountRow} (hWeight : 0 < row.weight)
    (hStamped : row.health.Stamped) : P db → Ensures (db.insertAccount row) P
  updateAccounts {db : Db} {p : AccountRow → Bool} {f : AccountRow → AccountRow}
    (hWeight : ∀ row, 0 < row.weight → 0 < (f row).weight)
    (hStamped : ∀ row, row.health.Stamped → (f row).health.Stamped) :
    P db → Ensures (db.updateAccounts p f) P
  deleteAccount {db : Db} (id : String) : P db → Ensures (db.deleteAccount id) P
  insertCapability {db : Db} {row : CapabilityRow}
    (hFeatures : readableFeatures row.featureCapabilities) :
    P db → Ensures (db.insertCapability row) P
  updateCapability {db : Db} {sourceId upstreamModelId : String} {protocol : Protocol}
    {f : CapabilityRow → CapabilityRow}
    (hFeatures : ∀ row, readableFeatures (f row).featureCapabilities) :
    P db → Ensures (db.updateCapability sourceId upstreamModelId protocol f) P
  insertLogicalModel {db : Db} (row : LogicalModelRow) :
    P db → Ensures (db.insertLogicalModel row) P
  updateLogicalModel {db : Db} (id : String) (f : LogicalModelRow → LogicalModelRow) :
    P db → Ensures (db.updateLogicalModel id f) P
  deleteLogicalModel {db : Db} (id : String) : P db → Ensures (db.deleteLogicalModel id) P
  insertBinding {db : Db} {row : Int → BindingRow} (hId : ∀ id, (row id).id = id) :
    P db → Ensures (db.insertBinding row) P
  updateBinding {db : Db} {id : Int} {f : BindingRow → BindingRow}
    (hId : ∀ row, (f row).id = row.id) : P db → Ensures (db.updateBinding id f) P
  deleteBindings {db : Db} (p : BindingRow → Bool) : P db → Ensures (db.deleteBindings p) P
  insertRoute {db : Db} {row : RouteRow}
    (hProtocols : ∃ protocols, protocolsOfValue row.protocols = some protocols) :
    P db → Ensures (db.insertRoute row) P
  updateRoute {db : Db} {id : String} {f : RouteRow → RouteRow}
    (hProtocols : ∀ row, (∃ protocols, protocolsOfValue row.protocols = some protocols) →
      ∃ protocols, protocolsOfValue (f row).protocols = some protocols) :
    P db → Ensures (db.updateRoute id f) P
  deleteRoutes {db : Db} (p : RouteRow → Bool) : P db → Ensures (db.deleteRoutes p) P

theorem statementInvariant_sound : StatementInvariant fun db => db.Sound where
  insertSource row h := insertSource_sound h row
  updateSource id f h := updateSource_sound h id f
  deleteSource id h := deleteSource_sound h id
  insertAccount hWeight _ h := insertAccount_sound h hWeight
  updateAccounts hWeight _ h := updateAccounts_sound h hWeight
  deleteAccount id h := deleteAccount_sound h id
  insertCapability hFeatures h := insertCapability_sound h hFeatures
  updateCapability hFeatures h := updateCapability_sound h hFeatures
  insertLogicalModel row h := insertLogicalModel_sound h row
  updateLogicalModel id f h := updateLogicalModel_sound h id f
  deleteLogicalModel id h := deleteLogicalModel_sound h id
  insertBinding _ h := insertBinding_sound h _
  updateBinding _ h := updateBinding_sound h _ _
  deleteBindings p h := deleteBindings_sound h p
  insertRoute hProtocols h := insertRoute_sound h hProtocols
  updateRoute hProtocols h := updateRoute_sound h hProtocols
  deleteRoutes p h := deleteRoutes_sound h p

/-- A commit that finishes a write on rows with a property. -/
def CommitsFrom (service : Service) (now : DateTime) (P : Db → Prop) (committed : Committed) :
    Prop :=
  ∃ edited, P edited ∧ finishWrite service now edited = .ok committed

section Writes

variable {P : Db → Prop}

theorem finishWrite_from (db : Db) (h : P db) :
    Ensures (finishWrite service now db) (CommitsFrom service now P) :=
  fun _ hCommit => ⟨db, h, hCommit⟩

/-- A write of one statement. -/
theorem statement_then_commit {x : Except DbError Db} (hx : Ensures x P) :
    Ensures (statement x >>= finishWrite service now) (CommitsFrom service now P) :=
  ensures_seq (ensures_statement hx) finishWrite_from

variable (hP : StatementInvariant P) (h : P db)

include hP h

/-! ## Sources and accounts -/

theorem createSource_from (input : SourceWrite) :
    Ensures (createSource service now input db) (CommitsFrom service now P) := by
  unfold createSource
  iterate 5 refine ensures_then fun _ => ?_
  exact statement_then_commit (hP.insertSource _ h)

theorem switchSourceHealth_keeps (id : String) (previous enabled : Bool) :
    Ensures (switchSourceHealth now id previous enabled db) P := by
  unfold switchSourceHealth
  split
  · refine ensures_statement (hP.updateAccounts (fun _ hWeight => hWeight) ?_ h)
    exact fun row _ => stamped_manualHealth enabled row
  · exact ensures_pure h

theorem updateSource_from (id : String) (input : SourceWrite) :
    Ensures (updateSource service now id input db) (CommitsFrom service now P) := by
  unfold updateSource
  iterate 6 refine ensures_then fun _ => ?_
  refine ensures_seq (ensures_statement (hP.updateSource id _ h)) fun db hDb => ?_
  exact ensures_seq (switchSourceHealth_keeps hP hDb _ _ _) finishWrite_from

theorem setSourceEnabled_from (id : String) (enabled : Bool) :
    Ensures (setSourceEnabled service now id enabled db) (CommitsFrom service now P) := by
  unfold setSourceEnabled
  refine ensures_then fun _ => ?_
  refine ensures_seq (ensures_statement (hP.updateSource id _ h)) fun db hDb => ?_
  exact ensures_seq (switchSourceHealth_keeps hP hDb _ _ _) finishWrite_from

theorem deleteSource_from (id : String) :
    Ensures (deleteSource service now id db) (CommitsFrom service now P) := by
  unfold deleteSource
  exact ensures_then fun _ => statement_then_commit (hP.deleteSource id h)

theorem rotateAccountCredential_from (rotate : String → String → String → Option String)
    (id : String) :
    Ensures (rotateAccountCredential service now rotate id db) (CommitsFrom service now P) := by
  unfold rotateAccountCredential
  iterate 3 refine ensures_then fun _ => ?_
  refine statement_then_commit (hP.updateAccounts (fun _ hWeight => hWeight) ?_ h)
  exact fun _ hStamped => hStamped

theorem createAccount_from (input : AccountWrite) :
    Ensures (createAccount service now input db) (CommitsFrom service now P) := by
  unfold createAccount
  refine ensures_bind fun _ hInput => ensures_then fun _ => ensures_then fun _ => ?_
  have hWeight := weight_of_validateAccountInput hInput
  have hNew : HealthColumns.Stamped { updatedAt := some now } := ⟨rfl, of_decide_eq_true rfl⟩
  refine statement_then_commit (hP.insertAccount ?_ ?_ h)
  · split
    · exact hWeight
    · exact hWeight
  · split
    · exact hNew
    · exact stamped_manualHealth false _

theorem updateAccount_from (id : String) (input : AccountWrite) :
    Ensures (updateAccount service now id input db) (CommitsFrom service now P) := by
  unfold updateAccount
  refine ensures_then fun _ => ensures_bind fun _ hInput => ?_
  refine ensures_then fun _ => ensures_then fun _ => ?_
  have hWeight := weight_of_validateAccountInput hInput
  refine statement_then_commit (hP.updateAccounts (fun row _ => ?_) (fun row hStamped => ?_) h)
  · dsimp only
    split
    · exact hWeight
    · exact hWeight
  · dsimp only
    split
    · exact stamped_manualHealth input.enabled _
    · exact hStamped

theorem setAccountEnabled_from (id : String) (enabled : Bool) :
    Ensures (setAccountEnabled service now id enabled db) (CommitsFrom service now P) := by
  unfold setAccountEnabled
  refine ensures_then fun _ => ?_
  refine statement_then_commit (hP.updateAccounts (fun _ hWeight => hWeight) ?_ h)
  exact fun row _ => stamped_manualHealth enabled _

theorem deleteAccount_from (id : String) :
    Ensures (deleteAccount service now id db) (CommitsFrom service now P) := by
  unfold deleteAccount
  exact ensures_then fun _ => statement_then_commit (hP.deleteAccount id h)

/-! ## Logical models -/

theorem createLogicalModel_from (input : LogicalModelWrite) :
    Ensures (createLogicalModel service now input db) (CommitsFrom service now P) := by
  unfold createLogicalModel
  iterate 4 refine ensures_then fun _ => ?_
  exact statement_then_commit (hP.insertLogicalModel _ h)

theorem updateLogicalModel_from (id : String) (input : LogicalModelWrite) :
    Ensures (updateLogicalModel service now id input db) (CommitsFrom service now P) := by
  unfold updateLogicalModel
  iterate 6 refine ensures_then fun _ => ?_
  exact statement_then_commit (hP.updateLogicalModel id _ h)

theorem setLogicalModelEnabled_from (id : String) (enabled : Bool) :
    Ensures (setLogicalModelEnabled service now id enabled db) (CommitsFrom service now P) := by
  unfold setLogicalModelEnabled
  exact ensures_then fun _ => statement_then_commit (hP.updateLogicalModel id _ h)

theorem deleteLogicalModel_from (id : String) :
    Ensures (deleteLogicalModel service now id db) (CommitsFrom service now P) := by
  unfold deleteLogicalModel
  exact ensures_then fun _ => statement_then_commit (hP.deleteLogicalModel id h)

/-! ## Bindings -/

theorem createModelBinding_from (input : ModelBindingWrite) :
    Ensures (createModelBinding service now input db) (CommitsFrom service now P) := by
  unfold createModelBinding
  iterate 2 refine ensures_then fun _ => ?_
  exact statement_then_commit (hP.insertBinding (fun _ => rfl) h)

theorem updateModelBinding_from (id : Int) (input : ModelBindingWrite) :
    Ensures (updateModelBinding service now id input db) (CommitsFrom service now P) := by
  unfold updateModelBinding
  iterate 4 refine ensures_then fun _ => ?_
  refine statement_then_commit (hP.updateBinding ?_ h)
  exact fun _ => rfl

theorem setModelBindingEnabled_from (id : Int) (enabled : Bool) :
    Ensures (setModelBindingEnabled service now id enabled db) (CommitsFrom service now P) := by
  unfold setModelBindingEnabled
  iterate 2 refine ensures_then fun _ => ?_
  refine statement_then_commit (hP.updateBinding ?_ h)
  exact fun _ => rfl

theorem deleteModelBinding_from (id : Int) :
    Ensures (deleteModelBinding service now id db) (CommitsFrom service now P) := by
  unfold deleteModelBinding
  exact ensures_then fun _ => statement_then_commit (hP.deleteBindings _ h)

/-! ## Routes -/

theorem createRoute_from (input : RouteWrite) :
    Ensures (createRoute service now input db) (CommitsFrom service now P) := by
  unfold createRoute
  iterate 4 refine ensures_then fun _ => ?_
  refine statement_then_commit (hP.insertRoute ?_ h)
  exact ⟨input.protocols, protocolsOfValue_protocolsValue input.protocols⟩

theorem updateRoute_from (id : String) (input : RouteWrite) :
    Ensures (updateRoute service now id input db) (CommitsFrom service now P) := by
  unfold updateRoute
  iterate 5 refine ensures_then fun _ => ?_
  refine statement_then_commit (hP.updateRoute (fun row _ => ?_) h)
  exact ⟨input.protocols, protocolsOfValue_protocolsValue input.protocols⟩

theorem setRouteEnabled_from (id : String) (enabled : Bool) :
    Ensures (setRouteEnabled service now id enabled db) (CommitsFrom service now P) := by
  unfold setRouteEnabled
  iterate 3 refine ensures_then fun _ => ?_
  exact statement_then_commit (hP.updateRoute (fun _ hProtocols => hProtocols) h)

theorem deleteRoute_from (id : String) :
    Ensures (deleteRoute service now id db) (CommitsFrom service now P) := by
  unfold deleteRoute
  exact ensures_then fun _ => statement_then_commit (hP.deleteRoutes _ h)

/-! ## Capabilities and model routing -/

theorem upsertCapabilityRow_keeps (input : SourceModelCapabilityInput) :
    Ensures (upsertCapabilityRow now input db) P := by
  have hFeatures := readable_featuresValue input.featureCapabilities
  unfold upsertCapabilityRow
  dsimp only
  split
  · exact hP.insertCapability hFeatures h
  · exact hP.updateCapability (fun _ => hFeatures) h

theorem upsertSourceModelCapability_from (input : SourceModelCapabilityInput) :
    Ensures (upsertSourceModelCapability now service input db) (CommitsFrom service now P) := by
  unfold upsertSourceModelCapability
  refine ensures_then fun _ => ?_
  refine ensures_seq (ensures_mapError ?_) finishWrite_from
  exact upsertSourceModelCapabilityConn_keeps h (ensures_mapError (upsertCapabilityRow_keeps hP h _))

theorem writeRoutingModel_keeps (id : String) (input : ModelRoutingWrite) (create : Bool)
    (status : CatalogStatus) : Ensures (writeRoutingModel now id input create status db) P := by
  unfold writeRoutingModel
  split
  · exact hP.insertLogicalModel _ h
  · exact hP.updateLogicalModel id _ h

theorem insertLine_keeps (id : String) (seen : List Protocol)
    (entry : ModelRoutingLineWrite × Nat) :
    Ensures (insertLine service now id (db, seen) entry) fun state => P state.1 := by
  unfold insertLine
  refine ensures_then fun _ => ensures_seq (P := P) ?_ fun db hDb => ?_
  · refine ensures_foldlM (fun db hDb protocol _ => ?_) h
    unfold insertLineBinding
    exact ensures_then fun _ => ensures_statement (hP.insertBinding (fun _ => rfl) hDb)
  · exact ensures_pure hDb

theorem insertRoutingRoute_keeps (id routeId publicName : String) (protocols : List Protocol) :
    Ensures (insertRoutingRoute service now id routeId publicName protocols db) P := by
  unfold insertRoutingRoute
  split
  · exact ensures_pure h
  · refine ensures_then fun _ => ensures_statement (hP.insertRoute ?_ h)
    exact ⟨_, protocolsOfValue_protocolsValue _⟩

theorem writeModelRouting_from (id : String) (input : ModelRoutingWrite) (create : Bool)
    (uuid : String) :
    Ensures (writeModelRouting service now id input create uuid db)
      (CommitsFrom service now P) := by
  unfold writeModelRouting
  iterate 3 refine ensures_then fun _ => ?_
  refine ensures_seq (ensures_statement (writeRoutingModel_keeps hP h id input create _))
    fun db hDb => ?_
  refine ensures_seq (ensures_statement (hP.deleteRoutes _ hDb)) fun db hDb => ?_
  refine ensures_seq (ensures_statement (hP.deleteBindings _ hDb)) fun db hDb => ?_
  refine ensures_seq (P := fun state : Db × List Protocol => P state.1) ?_ ?_
  · refine ensures_foldlM (fun state hState entry _ => ?_) hDb
    exact insertLine_keeps hP hState id state.2 entry
  · rintro ⟨db, protocols⟩ hDb
    refine ensures_seq (insertRoutingRoute_keeps hP hDb id _ _ _) fun db hDb => ?_
    exact statement_then_commit (hP.updateLogicalModel id _ hDb)

end Writes

end AiGateway.ControlPlane
