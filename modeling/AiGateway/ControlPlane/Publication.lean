import AiGateway.ControlPlane.Runs

/-!
# The revision of a commit

The counter of publications moves only when a write is finished: the statements
before it leave the counter alone, and the snapshot that is published carries its
next value.
-/

namespace AiGateway.ControlPlane

set_option autoImplicit false

open AiGateway.Catalog AiGateway.Checked AiGateway.Health

theorem loadSnapshot_revision {service : Service} {t : Tables} {snapshot : RuntimeSnapshot}
    (h : loadSnapshot service t = .ok snapshot) : snapshot.revision = t.revision := by
  simp only [loadSnapshot, buildSnapshot, bind_eq_ok, pure_eq_ok] at h
  obtain ⟨-, -, -, -, -, -, rfl⟩ := h
  rfl

/-- A commit at a revision: its snapshot is the one of the rows it leaves. -/
structure PublishedAt (service : Service) (revision : Int) (committed : Committed) : Prop where
  snapshot : loadSnapshot service committed.db.toTables = .ok committed.snapshot
  revision : committed.db.revision = revision

theorem enforce_revision {t : Tables} {revision : Int} (h : t.revision = revision) :
    Ensures (enforce t) fun db => db.revision = revision :=
  ensures_enforce (P := fun t => t.revision = revision) h

theorem statementInvariant_revision (revision : Int) :
    StatementInvariant fun db => db.revision = revision where
  insertSource _ h := enforce_revision h
  updateSource _ _ h := enforce_revision h
  deleteSource _ h := enforce_revision h
  insertAccount _ _ h := enforce_revision h
  updateAccounts _ _ h := enforce_revision h
  deleteAccount _ h := enforce_revision h
  insertCapability _ h := enforce_revision h
  updateCapability _ h := enforce_revision h
  insertLogicalModel _ h := enforce_revision h
  updateLogicalModel _ _ h := enforce_revision h
  deleteLogicalModel _ h := enforce_revision h
  insertBinding _ h := by
    unfold Db.insertBinding
    split
    · exact ensures_error
    · exact enforce_revision h
  updateBinding _ h := by
    unfold Db.updateBinding
    split
    · exact ensures_error
    · exact enforce_revision h
  deleteBindings _ h := enforce_revision h
  insertRoute _ h := enforce_revision h
  updateRoute _ h := enforce_revision h
  deleteRoutes _ h := enforce_revision h

theorem finishWrite_tables {service : Service} {now : DateTime} {db : Db} :
    Ensures (finishWrite service now db) fun committed => committed.db.toTables =
      { db.toTables with revision := db.revision + 1, snapshotUpdatedAt := now } :=
  finishWrite_finished.imp fun _ hFinished => hFinished.tables

theorem finishWrite_published {service : Service} {now : DateTime} {db : Db} :
    Ensures (finishWrite service now db) (PublishedAt service (db.revision + 1)) := by
  intro committed hFinish
  have hFinished := finishWrite_finished committed hFinish
  refine ⟨hFinished.loads, ?_⟩
  rw [hFinished.tables]

theorem commitWrite_published {service : Service} {now : DateTime} {db : Db} (write : Write) :
    Ensures (commitWrite service now db write) (PublishedAt service (db.revision + 1)) := by
  intro committed hCommit
  obtain ⟨edited, hRevision, hFinish⟩ :=
    commitWrite_from (statementInvariant_revision db.revision) rfl write committed hCommit
  have hPublished := finishWrite_published committed hFinish
  rwa [hRevision] at hPublished

end AiGateway.ControlPlane
