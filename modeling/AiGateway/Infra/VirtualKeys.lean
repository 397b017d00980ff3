import AiGateway.Infra.Migrations
import Mathlib.Logic.Relation

/-!
# Virtual keys

A key is a row of its table.  Creating adds a row, revoking closes one, rotating
adds the successor of a row and links the two, and authenticating looks for a row
by the hash of the raw key.  A row once closed or linked stays so, because every
operation only ever closes rows and links those that have no link yet.
-/

namespace AiGateway.VirtualKeys

set_option autoImplicit false

open AiGateway.ControlPlane AiGateway.Health AiGateway.Json AiGateway.Migrations

def virtualKeyInvokeScope : String := "gateway:invoke"
def virtualKeyModelsScope : String := "gateway:models:read"

structure VirtualKeyMaterial where
  raw : String
  keyPrefix : String
  hash : String

def generateVirtualKeyMaterial (hashKey : String → String) (uuid : String) : VirtualKeyMaterial :=
  let raw := "gw_" ++ uuid
  { raw := raw, keyPrefix := String.ofList (raw.toList.take 11), hash := hashKey raw }

structure VirtualKeyRotationOptions where
  overlap : Duration := 0
  expiresAt : Option DateTime := none
  name : Option String := none
  allowedModels : Option (List String) := none
  scopes : Option (List String) := none
  keyGroup : Option (Option String) := none

structure VirtualKeyRotation where
  oldId : Int
  newId : Int
  keyPrefix : String
  key : String
  overlapUntil : Option DateTime

/-- No constraint is named when the connection is lost. -/
inductive VirtualKeyError where
  | database (error : Option DbError)
  | notFound
  | conflict (message : String)
  | validation (message : String)
  deriving DecidableEq

def stringsJson (values : List String) : Value := .array (values.map Value.string)

def scopesJson (scopes : List String) : Value :=
  if scopes.isEmpty then .array [.string virtualKeyInvokeScope] else stringsJson scopes

/-- No model asks for no permission on one. -/
def allowedModelsAllow (value : Value) (model : Option String) : Bool :=
  let allowed := value.asArray.getD []
  allowed.isEmpty || model.isNone ||
    allowed.any fun item => item.asStr = model || item.asStr = some "*"

def scopeAllow (value : Value) (required : String) : Bool :=
  (value.asArray.getD []).any fun item =>
    item.asStr = some "*" || item.asStr = some required ||
      (required = virtualKeyModelsScope && item.asStr = some virtualKeyInvokeScope)

def validateVirtualKeyScopes (scopes : List String) : Except String Unit :=
  let allowed := [virtualKeyInvokeScope, virtualKeyModelsScope, "*"]
  match scopes.find? fun scope => !allowed.contains scope with
  | some scope => .error s!"unsupported virtual key scope '{scope}'"
  | none => .ok ()

/-! ## The table -/

/-- The rows with their unique keys, and the next value of their sequence. -/
structure KeyStore extends VirtualKeys where
  nextId : Int := 1
  ids : (rows.map VirtualKeyRow.id).Nodup := by simp
  hashes : (rows.map VirtualKeyRow.keyHash).Nodup := by simp
  numbered : ∀ row ∈ rows, row.id < nextId := by simp

namespace KeyStore

/-- A failed insert has used up its number. -/
def burn (s : KeyStore) : KeyStore :=
  { s with
    nextId := s.nextId + 1
    numbered := fun row hRow => Int.lt_add_one_of_le (Int.le_of_lt (s.numbered row hRow)) }

structure NewKey where
  name : String
  material : VirtualKeyMaterial
  keyCiphertext : Option String
  allowedModels : Value
  scopes : Value
  keyGroup : Option String
  expiresAt : Option DateTime
  origin : String

def NewKey.row (new : NewKey) (now : DateTime) (id : Int) : VirtualKeyRow where
  id := id
  name := new.name
  keyPrefix := new.material.keyPrefix
  keyHash := new.material.hash
  keyCiphertext := new.keyCiphertext
  allowedModels := new.allowedModels
  scopes := new.scopes
  keyGroup := new.keyGroup
  enabled := true
  origin := new.origin
  expiresAt := new.expiresAt
  replacedById := none
  overlapUntil := none
  revokedAt := none
  lastUsedAt := none
  createdAt := now
  updatedAt := now

def append (s : KeyStore) (new : VirtualKeyRow) (hCheck : new.Check) (hId : new.id = s.nextId)
    (hHash : new.keyHash ∉ s.rows.map VirtualKeyRow.keyHash) : KeyStore where
  rows := s.rows ++ [new]
  checked := Rows.forall_append_singleton s.checked hCheck
  nextId := s.nextId + 1
  ids := by
    apply Rows.nodup_append_singleton s.ids
    intro hOld
    obtain ⟨row, hRow, hSame⟩ := List.mem_map.mp hOld
    have hLess := s.numbered row hRow
    omega
  hashes := Rows.nodup_append_singleton s.hashes hHash
  numbered := by
    apply Rows.forall_append_singleton
    · intro row hRow
      exact Int.lt_add_one_of_le (Int.le_of_lt (s.numbered row hRow))
    · rw [hId]
      exact Int.lt_succ s.nextId

def insert (s : KeyStore) (now : DateTime) (new : NewKey) : KeyStore × Except DbError Int :=
  let row := new.row now s.nextId
  if hCheck : row.Check then
    if hHash : row.keyHash ∉ s.rows.map VirtualKeyRow.keyHash then
      (s.append row hCheck rfl hHash, .ok s.nextId)
    else (s.burn, .error .uniqueViolation)
  else (s.burn, .error .checkViolation)

/-- A change that leaves what the constraints look at. -/
structure SameKey (a b : VirtualKeyRow) : Prop where
  id : b.id = a.id
  keyHash : b.keyHash = a.keyHash
  scopes : b.scopes = a.scopes
  origin : b.origin = a.origin

def update (s : KeyStore) (p : VirtualKeyRow → Bool) (f : VirtualKeyRow → VirtualKeyRow)
    (hf : ∀ row, SameKey row (f row)) : KeyStore where
  rows := Rows.updateWhere p f s.rows
  checked := by
    apply Rows.forall_updateWhere s.checked
    intro row _ _ hRow
    rw [VirtualKeyRow.Check, (hf row).scopes, (hf row).origin]
    exact hRow
  nextId := s.nextId
  ids := by
    rw [Rows.map_updateWhere fun row => (hf row).id]
    exact s.ids
  hashes := by
    rw [Rows.map_updateWhere fun row => (hf row).keyHash]
    exact s.hashes
  numbered := by
    apply Rows.forall_updateWhere s.numbered
    intro row _ _ hRow
    rw [(hf row).id]
    exact hRow

/-! ## The operations -/

def createVirtualKey (s : KeyStore) (now : DateTime) (name : String)
    (allowedModels scopes : List String) (expiresAt : Option DateTime) (keyGroup : Option String)
    (origin : String) (material : VirtualKeyMaterial) (keyCiphertext : Option String) :
    KeyStore × Except DbError (Int × String) :=
  let inserted := s.insert now
    { name := name
      material := material
      keyCiphertext := keyCiphertext
      allowedModels := stringsJson allowedModels
      scopes := scopesJson scopes
      keyGroup := keyGroup
      expiresAt := expiresAt
      origin := origin }
  (inserted.1, inserted.2.map fun id => (id, material.raw))

def revoked (now : DateTime) (row : VirtualKeyRow) : VirtualKeyRow :=
  { row with
    enabled := false
    revokedAt := row.revokedAt.or (some now)
    updatedAt := now }

/-- Whether a row was there to be closed. -/
def revokeVirtualKey (s : KeyStore) (now : DateTime) (id : Int) : KeyStore × Bool :=
  let target (row : VirtualKeyRow) : Bool :=
    row.id = id && row.enabled && row.revokedAt.isNone
  (s.update target (revoked now) fun _ => ⟨rfl, rfl, rfl, rfl⟩, s.rows.any target)

/-- The statements of a rotation at which the database can fail. -/
inductive RotateStatement where
  | begin
  | select
  | insert
  | update
  | commit
  deriving DecidableEq

def maxOverlap : Duration := fromMillis 86400000

/-- The row that may be rotated. -/
def rotatable (s : KeyStore) (now : DateTime) (id : Int) : Except VirtualKeyError VirtualKeyRow :=
  match Rows.find VirtualKeyRow.id id s.rows with
  | none => .error .notFound
  | some old =>
    if !old.enabled || old.revokedAt.isSome then
      .error (.conflict "virtual key is disabled or revoked")
    else if old.expiresAt.any fun expires => expires ≤ now then
      .error (.conflict "virtual key is expired")
    else if old.replacedById.isSome then
      .error (.conflict "virtual key has already been rotated")
    else .ok old

def overlapEnd (now : DateTime) (overlap : Duration) : Except VirtualKeyError (Option DateTime) :=
  if overlap = 0 then .ok none
  else
    match fromStd overlap with
    | none => .error (.validation "invalid overlap window")
    | some overlap => .ok (some (now + overlap))

/-- What the successor of a row takes from the options, or else from the row. -/
def successor (old : VirtualKeyRow) (options : VirtualKeyRotationOptions)
    (material : VirtualKeyMaterial) (keyCiphertext : Option String) : NewKey where
  name := options.name.getD old.name
  material := material
  keyCiphertext := keyCiphertext
  allowedModels := (options.allowedModels.map stringsJson).getD old.allowedModels
  scopes := (options.scopes.map scopesJson).getD old.scopes
  keyGroup := (options.keyGroup.bind id).or old.keyGroup
  expiresAt := options.expiresAt.or old.expiresAt
  origin := "rotated"

def replaced (now : DateTime) (newId : Int) (overlapUntil : Option DateTime)
    (row : VirtualKeyRow) : VirtualKeyRow :=
  { row with
    replacedById := some newId
    overlapUntil := overlapUntil
    enabled := if overlapUntil.isNone then false else row.enabled
    revokedAt := if overlapUntil.isNone then row.revokedAt.or (some now) else row.revokedAt
    updatedAt := now }

/-- A transaction that does not reach its end leaves the rows it found. -/
def rotateVirtualKey (s : KeyStore) (now : DateTime) (id : Int)
    (options : VirtualKeyRotationOptions) (material : VirtualKeyMaterial)
    (keyCiphertext : Option String) (outage : Option RotateStatement) :
    KeyStore × Except VirtualKeyError VirtualKeyRotation :=
  if maxOverlap < options.overlap then
    (s, .error (.validation "overlap window must be at most 86400 seconds"))
  else if outage = some .begin ∨ outage = some .select then (s, .error (.database none))
  else
    match s.rotatable now id with
    | .error error => (s, .error error)
    | .ok old =>
      match overlapEnd now options.overlap with
      | .error error => (s, .error error)
      | .ok overlapUntil =>
        if outage = some .insert then (s, .error (.database none))
        else
          match s.insert now (successor old options material keyCiphertext) with
          | (failed, .error error) => (failed, .error (.database (some error)))
          | (inserted, .ok newId) =>
            if outage = some .update ∨ outage = some .commit then
              (s.burn, .error (.database none))
            else
              (inserted.update (fun row => row.id = id) (replaced now newId overlapUntil)
                  fun _ => ⟨rfl, rfl, rfl, rfl⟩,
                .ok ⟨id, newId, material.keyPrefix, material.raw, overlapUntil⟩)

end KeyStore

/-- The condition of both statements of an authentication. -/
def usable (now : DateTime) (row : VirtualKeyRow) : Bool :=
  row.enabled && row.revokedAt.isNone && row.expiresAt.all (now < ·) &&
    (row.replacedById.isNone || row.overlapUntil.any (now < ·))

namespace KeyStore

/-- The id, name and prefix of the key. -/
def authenticateVirtualKey (hashKey : String → String) (s : KeyStore) (now : DateTime)
    (raw : String) (model : Option String) (requiredScope : String) :
    KeyStore × Option (Int × String × String) :=
  match s.rows.find? fun row => row.keyHash = hashKey raw && usable now row with
  | none => (s, none)
  | some row =>
    if !allowedModelsAllow row.allowedModels model || !scopeAllow row.scopes requiredScope then
      (s, none)
    else
      let target (other : VirtualKeyRow) : Bool := other.id = row.id && usable now other
      (s.update target (fun other => { other with lastUsedAt := some now })
          fun _ => ⟨rfl, rfl, rfl, rfl⟩,
        if (s.rows.filter target).length = 1 then some (row.id, row.name, row.keyPrefix) else none)

end KeyStore

/-! ## Runs -/

inductive KeyCall where
  | create (name : String) (allowedModels scopes : List String) (expiresAt : Option DateTime)
      (keyGroup : Option String) (origin : String) (material : VirtualKeyMaterial)
      (keyCiphertext : Option String)
  | revoke (id : Int)
  | rotate (id : Int) (options : VirtualKeyRotationOptions) (material : VirtualKeyMaterial)
      (keyCiphertext : Option String) (outage : Option KeyStore.RotateStatement)
  | authenticate (raw : String) (model : Option String) (requiredScope : String)

def KeyCall.run (hashKey : String → String) (now : DateTime) (s : KeyStore) : KeyCall → KeyStore
  | .create name allowedModels scopes expiresAt keyGroup origin material keyCiphertext =>
    (s.createVirtualKey now name allowedModels scopes expiresAt keyGroup origin material
      keyCiphertext).1
  | .revoke id => (s.revokeVirtualKey now id).1
  | .rotate id options material keyCiphertext outage =>
    (s.rotateVirtualKey now id options material keyCiphertext outage).1
  | .authenticate raw model requiredScope =>
    (s.authenticateVirtualKey hashKey now raw model requiredScope).1

/-- Calls one after the other, at times that do not fall. -/
inductive Runs (hashKey : String → String) (start : DateTime) (s : KeyStore) :
    DateTime → KeyStore → Prop where
  | start : Runs hashKey start s start s
  | wait {now later : DateTime} {t : KeyStore} : Runs hashKey start s now t → now ≤ later →
      Runs hashKey start s later t
  | call {now : DateTime} {t : KeyStore} (call : KeyCall) : Runs hashKey start s now t →
      Runs hashKey start s now (call.run hashKey now t)

/-! ## What a call does to the rows -/

/-- A row is only ever closed or linked, and a link stays what it is. -/
structure Kept (a b : VirtualKeyRow) : Prop where
  same : KeyStore.SameKey a b
  expiresAt : b.expiresAt = a.expiresAt
  disabled : a.enabled = false → b.enabled = false
  revoked : a.revokedAt.isSome → b.revokedAt = a.revokedAt
  linked : ∀ id, a.replacedById = some id →
    b.replacedById = some id ∧ b.overlapUntil = a.overlapUntil

namespace Kept

variable {a b c : VirtualKeyRow}

theorem refl (a : VirtualKeyRow) : Kept a a :=
  ⟨⟨rfl, rfl, rfl, rfl⟩, rfl, id, fun _ => rfl, fun _ h => ⟨h, rfl⟩⟩

theorem trans (hab : Kept a b) (hbc : Kept b c) : Kept a c where
  same := ⟨hbc.same.id.trans hab.same.id, hbc.same.keyHash.trans hab.same.keyHash,
    hbc.same.scopes.trans hab.same.scopes, hbc.same.origin.trans hab.same.origin⟩
  expiresAt := hbc.expiresAt.trans hab.expiresAt
  disabled h := hbc.disabled (hab.disabled h)
  revoked h := by
    have hSame := hab.revoked h
    rw [← hSame] at h
    exact (hbc.revoked h).trans hSame
  linked id h := by
    obtain ⟨hLink, hOverlap⟩ := hab.linked id h
    obtain ⟨hLink', hOverlap'⟩ := hbc.linked id hLink
    exact ⟨hLink', hOverlap'.trans hOverlap⟩

end Kept

theorem kept_revoked (now : DateTime) (row : VirtualKeyRow) :
    Kept row (KeyStore.revoked now row) where
  same := ⟨rfl, rfl, rfl, rfl⟩
  expiresAt := rfl
  disabled _ := rfl
  revoked h := by
    obtain ⟨moment, hMoment⟩ := Option.isSome_iff_exists.mp h
    simp [KeyStore.revoked, hMoment]
  linked _ h := ⟨h, rfl⟩

theorem kept_replaced (now : DateTime) (newId : Int) (overlapUntil : Option DateTime)
    {row : VirtualKeyRow} (hFree : row.replacedById = none) :
    Kept row (KeyStore.replaced now newId overlapUntil row) where
  same := ⟨rfl, rfl, rfl, rfl⟩
  expiresAt := rfl
  disabled h := by
    dsimp only [KeyStore.replaced]
    split
    · rfl
    · exact h
  revoked h := by
    obtain ⟨moment, hMoment⟩ := Option.isSome_iff_exists.mp h
    simp [KeyStore.replaced, hMoment]
  linked id h := by
    rw [hFree] at h
    cases h

/-- The rows after a call: some of them changed without a new link, a row added
at the end, or a free row linked to a row added at the end. -/
inductive Effect (rows : List VirtualKeyRow) (nextId : Int) : List VirtualKeyRow → Prop where
  | unchanged : Effect rows nextId rows
  | changed (p : VirtualKeyRow → Bool) (f : VirtualKeyRow → VirtualKeyRow)
      (hKept : ∀ row, Kept row (f row)) (hLink : ∀ row, (f row).replacedById = row.replacedById) :
      Effect rows nextId (Rows.updateWhere p f rows)
  | added (new : VirtualKeyRow) (hId : new.id = nextId) (hFree : new.replacedById = none) :
      Effect rows nextId (rows ++ [new])
  | rotated (now : DateTime) (id : Int) (overlapUntil : Option DateTime) (new : VirtualKeyRow)
      (hId : new.id = nextId) (hNew : new.replacedById = none)
      (hFree : ∀ row ∈ rows, row.id = id → row.replacedById = none) (hLess : id < nextId) :
      Effect rows nextId (Rows.updateWhere (fun row => row.id = id)
        (KeyStore.replaced now nextId overlapUntil) (rows ++ [new]))

namespace KeyStore

theorem insert_cases (s : KeyStore) (now : DateTime) (new : NewKey) :
    (s.insert now new).2 = .ok s.nextId ∧
      (s.insert now new).1.rows = s.rows ++ [new.row now s.nextId] ∨
    ∃ error, (s.insert now new).2 = .error error ∧ (s.insert now new).1.rows = s.rows := by
  unfold insert
  dsimp only
  split
  · split
    · exact .inl ⟨rfl, rfl⟩
    · exact .inr ⟨_, rfl, rfl⟩
  · exact .inr ⟨_, rfl, rfl⟩

theorem rotatable_ok {s : KeyStore} {now : DateTime} {id : Int} {old : VirtualKeyRow}
    (h : s.rotatable now id = .ok old) :
    old ∈ s.rows ∧ old.id = id ∧ old.replacedById = none := by
  unfold rotatable at h
  split at h
  · cases h
  · next row hFind =>
    split at h
    · cases h
    · split at h
      · cases h
      · split at h
        · cases h
        · next hFree =>
          cases h
          obtain ⟨hIn, hId⟩ := Rows.find_key hFind
          exact ⟨hIn, hId, by simpa using hFree⟩

/-- A rotation succeeds and links a free row to a new one, or changes no row. -/
theorem rotate_cases (s : KeyStore) (now : DateTime) (id : Int)
    (options : VirtualKeyRotationOptions) (material : VirtualKeyMaterial)
    (keyCiphertext : Option String) (outage : Option RotateStatement) :
    (∃ old overlapUntil, s.rotatable now id = .ok old ∧
      overlapEnd now options.overlap = .ok overlapUntil ∧
      (s.rotateVirtualKey now id options material keyCiphertext outage).2 =
        .ok ⟨id, s.nextId, material.keyPrefix, material.raw, overlapUntil⟩ ∧
      (s.rotateVirtualKey now id options material keyCiphertext outage).1.rows =
        Rows.updateWhere (fun row => row.id = id) (replaced now s.nextId overlapUntil)
          (s.rows ++ [(successor old options material keyCiphertext).row now s.nextId])) ∨
    ∃ error, (s.rotateVirtualKey now id options material keyCiphertext outage).2 = .error error ∧
      (s.rotateVirtualKey now id options material keyCiphertext outage).1.rows = s.rows := by
  unfold rotateVirtualKey
  split
  · exact .inr ⟨_, rfl, rfl⟩
  · split
    · exact .inr ⟨_, rfl, rfl⟩
    · split
      · exact .inr ⟨_, rfl, rfl⟩
      · next old hOld =>
        split
        · exact .inr ⟨_, rfl, rfl⟩
        · next overlapUntil hOverlap =>
          split
          · exact .inr ⟨_, rfl, rfl⟩
          · have hInsert := s.insert_cases now (successor old options material keyCiphertext)
            split
            · next failed error hFailed =>
              rw [hFailed] at hInsert
              obtain ⟨⟨⟩, -⟩ | ⟨_, -, hRows⟩ := hInsert
              exact .inr ⟨_, rfl, hRows⟩
            · next inserted newId hInserted =>
              rw [hInserted] at hInsert
              obtain ⟨hNew, hRows⟩ | ⟨_, ⟨⟩, -⟩ := hInsert
              cases hNew
              split
              · exact .inr ⟨_, rfl, rfl⟩
              · refine .inl ⟨old, overlapUntil, hOld, hOverlap, rfl, ?_⟩
                rw [← hRows]
                rfl

end KeyStore

theorem call_effect (hashKey : String → String) (now : DateTime) (s : KeyStore) (call : KeyCall) :
    Effect s.rows s.nextId (call.run hashKey now s).rows := by
  cases call with
  | create name allowedModels scopes expiresAt keyGroup origin material keyCiphertext =>
    obtain ⟨-, hRows⟩ | ⟨-, -, hRows⟩ := s.insert_cases now
      { name := name
        material := material
        keyCiphertext := keyCiphertext
        allowedModels := stringsJson allowedModels
        scopes := scopesJson scopes
        keyGroup := keyGroup
        expiresAt := expiresAt
        origin := origin }
    · exact hRows ▸ .added _ rfl rfl
    · exact hRows ▸ .unchanged
  | revoke id => exact .changed _ _ (kept_revoked now) fun _ => rfl
  | rotate id options material keyCiphertext outage =>
    obtain ⟨old, overlapUntil, hOld, -, -, hRows⟩ | ⟨_, -, hRows⟩ :=
      s.rotate_cases now id options material keyCiphertext outage
    · obtain ⟨hIn, hId, hFree⟩ := KeyStore.rotatable_ok hOld
      have hLess := s.numbered old hIn
      refine hRows ▸ .rotated now id overlapUntil _ rfl rfl ?_ (hId ▸ hLess)
      intro row hRow hSame
      rw [List.inj_on_of_nodup_map s.ids hRow hIn (hSame.trans hId.symm)]
      exact hFree
    · exact hRows ▸ .unchanged
  | authenticate raw model requiredScope =>
    dsimp only [KeyCall.run]
    unfold KeyStore.authenticateVirtualKey
    split
    · exact .unchanged
    · split
      · exact .unchanged
      · exact .changed _ _
          (fun row => ⟨⟨rfl, rfl, rfl, rfl⟩, rfl, id, fun _ => rfl, fun _ h => ⟨h, rfl⟩⟩)
          fun _ => rfl

/-! ## Links -/

/-- Links lead to later rows, and no two rows have the same successor. -/
structure Linked (rows : List VirtualKeyRow) : Prop where
  forward : ∀ row ∈ rows, ∀ id, row.replacedById = some id →
    row.id < id ∧ ∃ next ∈ rows, next.id = id
  single : ∀ a ∈ rows, ∀ b ∈ rows, ∀ id, a.replacedById = some id → b.replacedById = some id →
    a.id = b.id

namespace Effect

variable {rows rows' : List VirtualKeyRow} {nextId : Int}

theorem kept (h : Effect rows nextId rows') {row : VirtualKeyRow} (hRow : row ∈ rows) :
    ∃ row' ∈ rows', Kept row row' := by
  cases h with
  | unchanged => exact ⟨row, hRow, .refl row⟩
  | changed p f hKept hLink =>
    refine ⟨_, List.mem_map_of_mem hRow, ?_⟩
    split
    · exact hKept row
    · exact .refl row
  | added new hId hFree => exact ⟨row, List.mem_append_left _ hRow, .refl row⟩
  | rotated now id overlapUntil new hId hNew hFree hLess =>
    refine ⟨_, List.mem_map_of_mem (List.mem_append_left _ hRow), ?_⟩
    split
    · next hSame =>
      exact kept_replaced now nextId overlapUntil (hFree row hRow (of_decide_eq_true hSame))
    · exact .refl row

/-- A link after the call was there before, or it is the one of a rotation. -/
theorem link_cases (h : Effect rows nextId rows') {row' : VirtualKeyRow} (hRow : row' ∈ rows')
    {next : Int} (hLink : row'.replacedById = some next) :
    (∃ row ∈ rows, row.id = row'.id ∧ row.replacedById = some next) ∨
    next = nextId ∧ row'.id < next ∧ (∃ new ∈ rows', new.id = next) ∧
      ∀ other ∈ rows', other.replacedById = some next →
        other.id = row'.id ∨ ∃ row ∈ rows, row.replacedById = some next := by
  cases h with
  | unchanged => exact .inl ⟨row', hRow, rfl, hLink⟩
  | changed p f hKept hSame =>
    obtain hOld | ⟨old, hOld, -, rfl⟩ := Rows.mem_updateWhere hRow
    · exact .inl ⟨row', hOld, rfl, hLink⟩
    · rw [hSame] at hLink
      exact .inl ⟨old, hOld, (hKept old).same.id.symm, hLink⟩
  | added new hId hFree =>
    obtain hOld | hLast := List.mem_append.mp hRow
    · exact .inl ⟨row', hOld, rfl, hLink⟩
    · rw [List.mem_singleton.mp hLast, hFree] at hLink
      cases hLink
  | rotated now id overlapUntil new hId hNew hFree hLess =>
    -- a row that was not rewritten has the link it had, and the new row has none
    have hUntouched : ∀ row ∈ rows ++ [new], ∀ k, row.replacedById = some k → row ∈ rows := by
      intro row hIn k hk
      obtain hOld | hLast := List.mem_append.mp hIn
      · exact hOld
      · rw [List.mem_singleton.mp hLast, hNew] at hk
        cases hk
    obtain hOld | ⟨old, -, hOldId, rfl⟩ := Rows.mem_updateWhere hRow
    · exact .inl ⟨row', hUntouched row' hOld next hLink, rfl, hLink⟩
    · cases hLink
      have hSame : old.id = id := of_decide_eq_true hOldId
      refine .inr ⟨rfl, hSame ▸ hLess, ⟨new, ?_, hId⟩, ?_⟩
      · have hOther : new.id ≠ id := by omega
        refine List.mem_map.mpr ⟨new, List.mem_append_right _ (List.mem_singleton_self new), ?_⟩
        simp [hOther]
      · intro other hOther hOtherLink
        obtain hKeep | ⟨row, -, hRowId, rfl⟩ := Rows.mem_updateWhere hOther
        · exact .inr ⟨other, hUntouched other hKeep _ hOtherLink, hOtherLink⟩
        · exact .inl ((of_decide_eq_true hRowId).trans hSame.symm)

theorem linked (h : Effect rows nextId rows') (hNumbered : ∀ row ∈ rows, row.id < nextId)
    (hLinked : Linked rows) : Linked rows' := by
  have hOldLink : ∀ row ∈ rows, ∀ next, row.replacedById = some next → next < nextId := by
    intro row hRow next hLink
    obtain ⟨-, successor, hSuccessor, rfl⟩ := hLinked.forward row hRow next hLink
    exact hNumbered successor hSuccessor
  constructor
  · intro row' hRow next hLink
    obtain ⟨row, hOld, hId, hOldLink⟩ | ⟨-, hLess, hNew, -⟩ := h.link_cases hRow hLink
    · obtain ⟨hLess, successor, hSuccessor, hNext⟩ := hLinked.forward row hOld next hOldLink
      obtain ⟨successor', hHere, hKept⟩ := h.kept hSuccessor
      exact ⟨hId ▸ hLess, successor', hHere, hKept.same.id.trans hNext⟩
    · exact ⟨hLess, hNew⟩
  · intro a ha b hb next hA hB
    obtain ⟨oldA, hOldA, hIdA, hLinkA⟩ | ⟨hNext, -, -, hOnly⟩ := h.link_cases ha hA
    · obtain ⟨oldB, hOldB, hIdB, hLinkB⟩ | ⟨hNext, -⟩ := h.link_cases hb hB
      · rw [← hIdA, ← hIdB]
        exact hLinked.single oldA hOldA oldB hOldB next hLinkA hLinkB
      · have hLess := hOldLink oldA hOldA next hLinkA
        omega
    · obtain hSame | ⟨row, hRow, hRowLink⟩ := hOnly b hb hB
      · exact hSame.symm
      · have hLess := hOldLink row hRow next hRowLink
        omega

end Effect

/-! ## The lifecycle -/

section Lifecycle

variable {hashKey : String → String} {start now : DateTime} {s t : KeyStore}

theorem Runs.ordered (h : Runs hashKey start s now t) : start ≤ now := by
  induction h with
  | start => exact Int.le_refl start
  | wait _ hLater ih => exact ih.trans hLater
  | call _ _ ih => exact ih

theorem Runs.kept (h : Runs hashKey start s now t) {row : VirtualKeyRow} (hRow : row ∈ s.rows) :
    ∃ row' ∈ t.rows, Kept row row' := by
  induction h with
  | start => exact ⟨row, hRow, .refl row⟩
  | wait _ _ ih => exact ih
  | @call now t call _ ih =>
    obtain ⟨mid, hMid, hKept⟩ := ih
    obtain ⟨last, hLast, hKept'⟩ := (call_effect hashKey now t call).kept hMid
    exact ⟨last, hLast, hKept.trans hKept'⟩

theorem Runs.linked (h : Runs hashKey start s now t) (hLinked : Linked s.rows) :
    Linked t.rows := by
  induction h with
  | start => exact hLinked
  | wait _ _ ih => exact ih
  | @call now t call _ ih => exact (call_effect hashKey now t call).linked t.numbered ih

/-! The sequence of the ids is never set back. -/

theorem KeyStore.insert_nextId (s : KeyStore) (now : DateTime) (new : NewKey) :
    s.nextId ≤ (s.insert now new).1.nextId := by
  have hNext : s.nextId ≤ s.nextId + 1 := Int.le_add_one (Int.le_refl _)
  unfold insert
  dsimp only
  split
  · split
    · exact hNext
    · exact hNext
  · exact hNext

theorem KeyStore.rotate_nextId (s : KeyStore) (now : DateTime) (id : Int)
    (options : VirtualKeyRotationOptions) (material : VirtualKeyMaterial)
    (keyCiphertext : Option String) (outage : Option RotateStatement) :
    s.nextId ≤ (s.rotateVirtualKey now id options material keyCiphertext outage).1.nextId := by
  unfold rotateVirtualKey
  split
  · exact Int.le_refl _
  split
  · exact Int.le_refl _
  split
  · exact Int.le_refl _
  next old hOld =>
    split
    · exact Int.le_refl _
    split
    · exact Int.le_refl _
    have hInsert := s.insert_nextId now (successor old options material keyCiphertext)
    split
    · next failed error hFailed =>
      rw [hFailed] at hInsert
      exact hInsert
    · next inserted newId hInserted =>
      rw [hInserted] at hInsert
      split
      · exact Int.le_add_one (Int.le_refl _)
      · exact hInsert

theorem call_nextId (hashKey : String → String) (now : DateTime) (s : KeyStore) (call : KeyCall) :
    s.nextId ≤ (call.run hashKey now s).nextId := by
  cases call with
  | create name allowedModels scopes expiresAt keyGroup origin material keyCiphertext =>
    exact s.insert_nextId now _
  | revoke id => exact Int.le_refl _
  | rotate id options material keyCiphertext outage =>
    exact s.rotate_nextId now id options material keyCiphertext outage
  | authenticate raw model requiredScope =>
    dsimp only [KeyCall.run]
    unfold KeyStore.authenticateVirtualKey
    split
    · exact Int.le_refl _
    · split
      · exact Int.le_refl _
      · exact Int.le_refl _

theorem Effect.positive {rows rows' : List VirtualKeyRow} {nextId : Int}
    (h : Effect rows nextId rows') (hNext : 0 < nextId) (hRows : ∀ row ∈ rows, 0 < row.id) :
    ∀ row ∈ rows', 0 < row.id := by
  cases h with
  | unchanged => exact hRows
  | changed p f hKept hLink =>
    refine Rows.forall_updateWhere hRows fun row _ _ hRow => ?_
    rw [(hKept row).same.id]
    exact hRow
  | added new hId hFree => exact Rows.forall_append_singleton hRows (hId ▸ hNext)
  | rotated now id overlapUntil new hId hNew hFree hLess =>
    have hAppended := Rows.forall_append_singleton hRows (hId ▸ hNext : 0 < new.id)
    exact Rows.forall_updateWhere hAppended fun row _ _ hRow => hRow

/-- A sequence that starts above zero gives such ids. -/
theorem Runs.positive (h : Runs hashKey start s now t) (hNext : 0 < s.nextId)
    (hRows : ∀ row ∈ s.rows, 0 < row.id) : 0 < t.nextId ∧ ∀ row ∈ t.rows, 0 < row.id := by
  induction h with
  | start => exact ⟨hNext, hRows⟩
  | wait _ _ ih => exact ih
  | @call now t call _ ih =>
    exact ⟨Int.lt_of_lt_of_le ih.1 (call_nextId hashKey now t call),
      (call_effect hashKey now t call).positive ih.1 ih.2⟩

/-- A revoked, disabled or expired key. -/
def Closed (now : DateTime) (row : VirtualKeyRow) : Prop :=
  row.enabled = false ∨ row.revokedAt.isSome ∨
    ∃ expires, row.expiresAt = some expires ∧ expires ≤ now

theorem Closed.kept {a b : VirtualKeyRow} {later : DateTime} (h : Closed now a) (hKept : Kept a b)
    (hLater : now ≤ later) : Closed later b := by
  obtain hDisabled | hRevoked | ⟨expires, hExpires, hPast⟩ := h
  · exact .inl (hKept.disabled hDisabled)
  · exact .inr (.inl (hKept.revoked hRevoked ▸ hRevoked))
  · exact .inr (.inr ⟨expires, hKept.expiresAt.trans hExpires, hPast.trans hLater⟩)

theorem Closed.not_usable {row : VirtualKeyRow} (h : Closed now row) : usable now row = false := by
  unfold usable
  obtain hDisabled | hRevoked | ⟨expires, hExpires, hPast⟩ := h
  · simp [hDisabled]
  · have hSome : row.revokedAt.isNone = false := by simpa using hRevoked
    simp [hSome]
  · have hNot : ¬ now < expires := Int.not_lt.mpr hPast
    simp [hExpires, hNot]

/-- Whoever is authenticated holds a usable key of the table. -/
theorem KeyStore.authenticate_usable {raw : String} {model : Option String} {scope : String}
    {id : Int} {name keyPrefix : String}
    (h : (s.authenticateVirtualKey hashKey now raw model scope).2 = some (id, name, keyPrefix)) :
    ∃ row ∈ s.rows, row.id = id ∧ row.keyHash = hashKey raw ∧ usable now row = true := by
  unfold authenticateVirtualKey at h
  split at h
  · cases h
  · next row hFind =>
    split at h
    · cases h
    · dsimp only at h
      split at h
      · cases h
        have hFound := List.find?_some hFind
        rw [Bool.and_eq_true, decide_eq_true_eq] at hFound
        exact ⟨row, List.mem_of_find?_eq_some hFind, rfl, hFound⟩
      · cases h

/-- One row at most has the hash. -/
theorem KeyStore.find_usable {row : VirtualKeyRow} (hRow : row ∈ s.rows) {raw : String}
    (hHash : row.keyHash = hashKey raw) (hUsable : usable now row = true) :
    (s.rows.find? fun row => row.keyHash = hashKey raw && usable now row) = some row := by
  cases hFind : s.rows.find? fun row => row.keyHash = hashKey raw && usable now row with
  | none =>
    have hNot := List.find?_eq_none.mp hFind row hRow
    simp [hHash, hUsable] at hNot
  | some found =>
    have hFound := List.find?_some hFind
    simp only [Bool.and_eq_true, decide_eq_true_eq] at hFound
    have hMem := List.mem_of_find?_eq_some hFind
    rw [List.inj_on_of_nodup_map s.hashes hMem hRow (hFound.1.trans hHash.symm)]

/-- The update of an authentication meets its row alone. -/
theorem KeyStore.length_filter_usable {row : VirtualKeyRow} (hRow : row ∈ s.rows)
    (hUsable : usable now row = true) :
    (s.rows.filter fun other => other.id = row.id && usable now other).length = 1 := by
  have hSame : ∀ other ∈ s.rows,
      (decide (other.id = row.id) && usable now other) = (other.id == row.id) := by
    intro other hOther
    by_cases hId : other.id = row.id
    · rw [List.inj_on_of_nodup_map s.ids hOther hRow hId, hUsable]
      simp
    · simp [hId]
  rw [List.filter_congr hSame, ← List.countP_eq_length_filter]
  have hCount := List.count_eq_one_of_mem s.ids (List.mem_map_of_mem hRow)
  rw [List.count, List.countP_map] at hCount
  exact hCount

theorem KeyStore.authenticate_isSome_iff {raw : String} {model : Option String} {scope : String} :
    (s.authenticateVirtualKey hashKey now raw model scope).2.isSome ↔
      ∃ row ∈ s.rows, row.keyHash = hashKey raw ∧ usable now row = true ∧
        allowedModelsAllow row.allowedModels model = true ∧ scopeAllow row.scopes scope = true := by
  unfold authenticateVirtualKey
  constructor
  · intro h
    split at h
    · cases h
    · next row hFind =>
      split at h
      · cases h
      · next hAllowed =>
        have hFound := List.find?_some hFind
        simp only [Bool.and_eq_true, decide_eq_true_eq] at hFound
        simp only [Bool.or_eq_true, Bool.not_eq_true', not_or, Bool.not_eq_false] at hAllowed
        exact ⟨row, List.mem_of_find?_eq_some hFind, hFound.1, hFound.2, hAllowed⟩
  · rintro ⟨row, hRow, hHash, hUsable, hModel, hScope⟩
    rw [KeyStore.find_usable hRow hHash hUsable]
    simp [hModel, hScope, KeyStore.length_filter_usable hRow hUsable]

/-- No raw key is authenticated as the row, and the row's own is refused. -/
def Refused (hashKey : String → String) (now : DateTime) (s : KeyStore) (row : VirtualKeyRow) :
    Prop :=
  ∀ raw model scope,
    (∀ reply, (s.authenticateVirtualKey hashKey now raw model scope).2 = some reply →
      reply.1 ≠ row.id) ∧
    (hashKey raw = row.keyHash →
      (s.authenticateVirtualKey hashKey now raw model scope).2 = none)

theorem refused_of_closed {row : VirtualKeyRow} (hRow : row ∈ s.rows) (h : Closed now row) :
    Refused hashKey now s row := by
  intro raw model scope
  constructor
  · rintro ⟨id, name, keyPrefix⟩ hReply rfl
    obtain ⟨found, hFound, hId, -, hUsable⟩ := KeyStore.authenticate_usable hReply
    rw [List.inj_on_of_nodup_map s.ids hFound hRow hId, h.not_usable] at hUsable
    cases hUsable
  · intro hHash
    rw [Option.eq_none_iff_forall_ne_some]
    rintro ⟨id, name, keyPrefix⟩ hReply
    obtain ⟨found, hFound, -, hSame, hUsable⟩ := KeyStore.authenticate_usable hReply
    rw [List.inj_on_of_nodup_map s.hashes hFound hRow (hSame.trans hHash), h.not_usable] at hUsable
    cases hUsable

theorem closed_of_revoke {id : Int} {row : VirtualKeyRow}
    (hRow : row ∈ (s.revokeVirtualKey now id).1.rows) (hId : row.id = id) : Closed now row := by
  obtain ⟨old, -, rfl⟩ := List.mem_map.mp hRow
  split
  · exact .inl rfl
  · next hOther =>
    rw [if_neg hOther] at hId
    by_cases hEnabled : old.enabled = true
    · refine .inr (.inl ?_)
      simp only [hId, hEnabled] at hOther
      exact Option.isSome_iff_ne_none.mpr (by simpa using hOther)
    · exact .inl (by simpa using hEnabled)

/-- A replaced key is usable before the end of its overlap only. -/
theorem overlap_of_usable {row : VirtualKeyRow} (hReplaced : row.replacedById.isSome)
    (h : usable now row = true) : ∃ limit, row.overlapUntil = some limit ∧ now < limit := by
  have hLinked : row.replacedById.isNone = false := by simpa using hReplaced
  simp only [usable, hLinked, Bool.false_or, Bool.and_eq_true] at h
  cases hOverlap : row.overlapUntil with
  | none => simp [hOverlap] at h
  | some limit =>
    rw [hOverlap] at h
    exact ⟨limit, rfl, of_decide_eq_true h.2⟩

def Replaces (rows : List VirtualKeyRow) (a b : Int) : Prop :=
  ∃ row ∈ rows, row.id = a ∧ row.replacedById = some b

theorem Linked.lt {rows : List VirtualKeyRow} (h : Linked rows) {a b : Int}
    (hChain : Relation.TransGen (Replaces rows) a b) : a < b := by
  have hStep : ∀ {a b : Int}, Replaces rows a b → a < b := by
    rintro a b ⟨row, hRow, rfl, hLink⟩
    exact (h.forward row hRow b hLink).1
  induction hChain with
  | single hLink => exact hStep hLink
  | tail _ hLink ih => exact ih.trans (hStep hLink)

/-- What holds of the keys in a state reached at a time, and after it. -/
structure Lifecycle (hashKey : String → String) (now : DateTime) (s : KeyStore) : Prop where
  revoked : ∀ id, ∀ row ∈ (s.revokeVirtualKey now id).1.rows, row.id = id → Closed now row
  closed : ∀ row ∈ s.rows, Closed now row → ∀ later t, Runs hashKey now s later t →
    Refused hashKey later t row
  replaced : ∀ row ∈ s.rows, row.replacedById.isSome → ∀ raw model scope reply,
    (s.authenticateVirtualKey hashKey now raw model scope).2 = some reply → reply.1 = row.id →
    ∃ limit, row.overlapUntil = some limit ∧ now < limit
  once : ∀ row ∈ s.rows, ∀ id, row.replacedById = some id → ∀ later t,
    Runs hashKey now s later t → ∃ row' ∈ t.rows, row'.id = row.id ∧
      row'.replacedById = some id ∧ row'.overlapUntil = row.overlapUntil
  single : ∀ a b id, Replaces s.rows a id → Replaces s.rows b id → a = b
  acyclic : ∀ id, ¬ Relation.TransGen (Replaces s.rows) id id
  failed : ∀ id options material keyCiphertext outage error,
    (s.rotateVirtualKey now id options material keyCiphertext outage).2 = .error error →
    (s.rotateVirtualKey now id options material keyCiphertext outage).1.rows = s.rows

def KeyStore.empty : KeyStore := {}

theorem key_lifecycle (h : Runs hashKey start .empty now s) : Lifecycle hashKey now s where
  revoked id row hRow hId := closed_of_revoke hRow hId
  closed row hRow hClosed later t hLater := by
    obtain ⟨row', hRow', hKept⟩ := hLater.kept hRow
    have hRefused : Refused hashKey later t row' :=
      refused_of_closed hRow' (hClosed.kept hKept hLater.ordered)
    intro raw model scope
    rw [← hKept.same.id, ← hKept.same.keyHash]
    exact hRefused raw model scope
  replaced row hRow hReplaced raw model scope reply hReply hId := by
    obtain ⟨found, hFound, hFoundId, -, hUsable⟩ := KeyStore.authenticate_usable hReply
    rw [List.inj_on_of_nodup_map s.ids hFound hRow (hFoundId.trans hId)] at hUsable
    exact overlap_of_usable hReplaced hUsable
  once row hRow id hLink later t hLater := by
    obtain ⟨row', hRow', hKept⟩ := hLater.kept hRow
    exact ⟨row', hRow', hKept.same.id, hKept.linked id hLink⟩
  single a b id := by
    rintro ⟨rowA, hA, rfl, hLinkA⟩ ⟨rowB, hB, rfl, hLinkB⟩
    have hLinked : Linked s.rows := h.linked ⟨by simp [KeyStore.empty], by simp [KeyStore.empty]⟩
    exact hLinked.single rowA hA rowB hB id hLinkA hLinkB
  acyclic id hCycle := by
    have hLinked : Linked s.rows := h.linked ⟨by simp [KeyStore.empty], by simp [KeyStore.empty]⟩
    exact Int.lt_irrefl id (hLinked.lt hCycle)
  failed id options material keyCiphertext outage error hError := by
    obtain ⟨_, _, -, -, hOk, -⟩ | ⟨_, -, hRows⟩ :=
      s.rotate_cases now id options material keyCiphertext outage
    · rw [hOk] at hError
      cases hError
    · exact hRows

end Lifecycle

/-- A key that is created, rotated with an overlap, and used during it. -/
theorem key_lifecycle_rotated :
    ∃ s, Runs id 0 .empty 5 s ∧ s.rows.map VirtualKeyRow.replacedById = [some 2, none] ∧
      (s.authenticateVirtualKey id 5 "old" none virtualKeyInvokeScope).2.isSome ∧
      Lifecycle id 5 s := by
  let create : KeyCall := .create "key" [] [] none none "created" ⟨"old", "old", "old"⟩ none
  let rotate : KeyCall := .rotate 1 { overlap := 10 } ⟨"new", "new", "new"⟩ none none
  have hStart : Runs id 0 .empty 0 .empty := .start
  have hRun := ((hStart.call create).call rotate).wait (show (0 : DateTime) ≤ 5 by decide)
  exact ⟨_, hRun, by decide, by decide, key_lifecycle hRun⟩

end AiGateway.VirtualKeys
