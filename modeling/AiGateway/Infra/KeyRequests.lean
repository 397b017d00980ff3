import AiGateway.Infra.Auth
import AiGateway.Infra.Sealing

/-!
# Requests on virtual keys

Processes that share a table of keys issue, reveal and revoke them, each with the keyring it
was started with.  A key that was issued once is revealed ever after by any process whose
ring holds the version it was sealed under.
-/

namespace AiGateway.VirtualKeys

set_option autoImplicit false

open AiGateway.Auth AiGateway.ControlPlane AiGateway.Health AiGateway.Migrations AiGateway.Secrets
  AiGateway.Text

/-- A random identifier in digits alone. -/
structure SimpleUuid where
  text : String
  length : text.length = 32
  spelling : text.toList.all (· ∈ "0123456789abcdef".toList) = true

/-! ## Handlers -/

structure CreateKeyRequest where
  name : String
  allowedModels : List String := []

structure RotateKeyRequest where
  overlapSecs : Nat := 0
  expiresAt : Option DateTime := none
  name : Option String := none
  allowedModels : Option (List String) := none
  scopes : Option (List String) := none
  keyGroup : Option (Option String) := none

def RotateKeyRequest.options (request : RotateKeyRequest) : VirtualKeyRotationOptions where
  overlap := fromMillis (request.overlapSecs * 1000)
  expiresAt := request.expiresAt
  name := request.name
  allowedModels := request.allowedModels
  scopes := request.scopes
  keyGroup := request.keyGroup

inductive KeyAnswer where
  | created (id : Int) (key name : String) (allowedModels : List String)
  | rotated (rotation : VirtualKeyRotation)
  | revealed (id : Int) (key : String)
  | revoked (id : Int)
  | error (status : Nat) (code message : String)

/-- The id and the raw key that a client is given. -/
def KeyAnswer.issued : KeyAnswer → Option (Int × String)
  | .created id key _ _ => some (id, key)
  | .rotated rotation => some (rotation.newId, rotation.key)
  | _ => none

/-- What a process has of its own.  The database may not be configured. -/
structure Process where
  adminAuth : AdminAuth
  secrets : KeyRing
  db : Bool

/-- What a request meets: the clock, the random bits, and a statement that fails. -/
structure Moment where
  now : DateTime
  uuid : SimpleUuid
  random : Option Nonce
  outage : Option KeyStore.RotateStatement

/-- `dbText` is the text of an error of the database, `var` reads the environment. -/
structure Surroundings where
  lib : Library
  var : String → Option String
  dbText : Option DbError → String

section Handlers

variable (env : Surroundings)

def Surroundings.digest (bytes : Bytes) : Bytes := (env.lib.sha256 bytes).val

def Surroundings.hashKey (raw : String) : String := Auth.hashKey env.digest raw

def virtualKeyErrorResponse : VirtualKeyError → KeyAnswer
  | .notFound => .error 404 "key_not_found" "virtual key not found"
  | .conflict message => .error 409 "key_conflict" message
  | .validation message => .error 400 "key_validation_failed" message
  | .database error => .error 500 "key_operation_failed" (env.dbText error)

/-- The checks that every handler starts with. -/
def withDatabase (process : Process) (headers : List (String × Bytes)) (s : KeyStore)
    (body : KeyStore × KeyAnswer) : KeyStore × KeyAnswer :=
  if !process.adminAuth.authorized env.digest headers then
    (s, .error 401 "unauthorized" "admin key required")
  else if !process.db then
    (s, .error 503 "database_unavailable" "DATABASE_URL is not configured")
  else body

def encryptedVirtualKeyMaterial (process : Process) (moment : Moment) :
    Except KeyAnswer (VirtualKeyMaterial × String) :=
  if !process.secrets.hasMasterKey then
    .error (.error 503 "master_key_unavailable"
      "credential master key is required to create recoverable Virtual Keys")
  else
    let material := generateVirtualKeyMaterial env.hashKey moment.uuid.text
    let aad := virtualKeyAad material.keyPrefix
    match process.secrets.encrypt env.lib material.raw (utf8 aad) moment.random with
    | .ok ciphertext => .ok (material, ciphertext)
    | .error error => .error (.error 422 error.code error.publicMessage)

def createKey (process : Process) (moment : Moment) (s : KeyStore) (request : CreateKeyRequest) :
    KeyStore × KeyAnswer :=
  match encryptedVirtualKeyMaterial env process moment with
  | .error response => (s, response)
  | .ok (material, ciphertext) =>
    if moment.outage.isSome then (s, .error 500 "key_create_failed" (env.dbText none))
    else
      match s.createVirtualKey moment.now request.name request.allowedModels
          [virtualKeyInvokeScope] none none "created" material (some ciphertext) with
      | (s', .ok (id, key)) => (s', .created id key request.name request.allowedModels)
      | (s', .error error) => (s', .error 500 "key_create_failed" (env.dbText (some error)))

def revealKey (process : Process) (outage : Bool) (s : KeyStore) (id : Int) : KeyAnswer :=
  if outage then .error 500 "key_get_failed" "failed to fetch virtual key"
  else
    match Rows.find VirtualKeyRow.id id s.rows with
    | none => .error 404 "key_not_found" "virtual key not found"
    | some row =>
      match row.keyCiphertext with
      | none => .error 409 "key_not_recoverable"
          "this Virtual Key predates recoverable storage; rotate it to obtain a viewable key"
      | some ciphertext =>
        match process.secrets.resolveVirtualKey env.lib env.var row.keyPrefix ciphertext with
        | .ok key => .revealed id key.text
        | .error error => .error 503 error.code error.publicMessage

/-- The payload is what the body was read as, or why it was not. -/
def rotateKey (process : Process) (moment : Moment) (s : KeyStore) (id : Int)
    (payload : Except String RotateKeyRequest) : KeyStore × KeyAnswer :=
  match payload with
  | .error error => (s, .error 400 "invalid_json" error)
  | .ok request =>
    match request.scopes.map validateVirtualKeyScopes with
    | some (.error message) => (s, .error 400 "key_validation_failed" message)
    | _ =>
      match encryptedVirtualKeyMaterial env process moment with
      | .error response => (s, response)
      | .ok (material, ciphertext) =>
        match s.rotateVirtualKey moment.now id request.options material (some ciphertext)
            moment.outage with
        | (s', .ok rotation) => (s', .rotated rotation)
        | (s', .error error) => (s', virtualKeyErrorResponse env error)

def revokeKey (moment : Moment) (s : KeyStore) (id : Int) : KeyStore × KeyAnswer :=
  if moment.outage.isSome then (s, .error 500 "key_revoke_failed" (env.dbText none))
  else
    match s.revokeVirtualKey moment.now id with
    | (s', true) => (s', .revoked id)
    | (s', false) => (s', .error 404 "key_not_found" "virtual key not found or already revoked")

inductive KeyRequest where
  | create (request : CreateKeyRequest)
  | reveal (id : Int)
  | rotate (id : Int) (payload : Except String RotateKeyRequest)
  | revoke (id : Int)

def KeyRequest.body (process : Process) (moment : Moment) (s : KeyStore) :
    KeyRequest → KeyStore × KeyAnswer
  | .create request => createKey env process moment s request
  | .reveal id => (s, revealKey env process moment.outage.isSome s id)
  | .rotate id payload => rotateKey env process moment s id payload
  | .revoke id => revokeKey env moment s id

def KeyRequest.answer (process : Process) (moment : Moment) (headers : List (String × Bytes))
    (s : KeyStore) (request : KeyRequest) : KeyStore × KeyAnswer :=
  withDatabase env process headers s (request.body env process moment s)

end Handlers

/-! ## What no call changes -/

structure StoredKey where
  id : Int
  keyHash : String
  keyPrefix : String
  keyCiphertext : Option String

def storedKey (row : VirtualKeyRow) : StoredKey :=
  ⟨row.id, row.keyHash, row.keyPrefix, row.keyCiphertext⟩

theorem storedKey_revoked (now : DateTime) (row : VirtualKeyRow) :
    storedKey (KeyStore.revoked now row) = storedKey row := rfl

theorem storedKey_replaced (now : DateTime) (newId : Int) (overlapUntil : Option DateTime)
    (row : VirtualKeyRow) :
    storedKey (KeyStore.replaced now newId overlapUntil row) = storedKey row := rfl

theorem storedKey_seen (now : DateTime) (row : VirtualKeyRow) :
    storedKey { row with lastUsedAt := some now } = storedKey row := rfl

theorem KeyStore.update_stored (s : KeyStore) (p : VirtualKeyRow → Bool)
    {f : VirtualKeyRow → VirtualKeyRow} (hf : ∀ row, KeyStore.SameKey row (f row))
    (hStored : ∀ row, storedKey (f row) = storedKey row) :
    (s.update p f hf).rows.map storedKey = s.rows.map storedKey :=
  Rows.map_updateWhere hStored s.rows

/-- Keys are added at the end, and what is stored of one stays. -/
theorem call_stored (hashKey : String → String) (now : DateTime) (s : KeyStore)
    (call : KeyCall) : s.rows.map storedKey <+: (call.run hashKey now s).rows.map storedKey := by
  cases call with
  | create name allowedModels scopes expiresAt keyGroup origin material keyCiphertext =>
    obtain ⟨-, hRows⟩ | ⟨-, -, hRows⟩ := s.insert_cases now
      { name := name
        material := material
        keyCiphertext := keyCiphertext
        allowedModels := stringsJson allowedModels
        scopes := scopesJson scopes
        keyGroup := keyGroup
        expiresAt := expiresAt
        origin := origin }
    · have hAfter := congrArg (List.map storedKey) hRows
      rw [List.map_append] at hAfter
      exact ⟨_, hAfter.symm⟩
    · exact (congrArg (List.map storedKey) hRows).symm ▸ List.prefix_rfl
  | revoke id =>
    rw [KeyCall.run, KeyStore.revokeVirtualKey,
      KeyStore.update_stored _ _ _ (storedKey_revoked now)]
  | rotate id options material keyCiphertext outage =>
    obtain ⟨old, overlapUntil, -, -, -, hRows⟩ | ⟨_, -, hRows⟩ :=
      s.rotate_cases now id options material keyCiphertext outage
    · have hAfter := congrArg (List.map storedKey) hRows
      rw [Rows.map_updateWhere (storedKey_replaced _ _ _), List.map_append] at hAfter
      exact ⟨_, hAfter.symm⟩
    · exact (congrArg (List.map storedKey) hRows).symm ▸ List.prefix_rfl
  | authenticate raw model requiredScope =>
    dsimp only [KeyCall.run]
    unfold KeyStore.authenticateVirtualKey
    split
    · exact List.prefix_rfl
    · split
      · exact List.prefix_rfl
      · dsimp only
        rw [KeyStore.update_stored _ _ _ (storedKey_seen now)]

theorem Runs.stored {hashKey : String → String} {start now : DateTime} {s t : KeyStore}
    (h : Runs hashKey start s now t) : s.rows.map storedKey <+: t.rows.map storedKey := by
  induction h with
  | start => exact List.prefix_rfl
  | wait _ _ ih => exact ih
  | @call now t call _ ih => exact ih.trans (call_stored hashKey now t call)

/-! ## What the requests do -/

section Requests

variable {env : Surroundings} {process : Process} {moment : Moment}
  {headers : List (String × Bytes)} {s : KeyStore} {request : KeyRequest}

/-- A handler makes one call, or none. -/
theorem Runs.answer {start : DateTime} {t : KeyStore} (h : Runs env.hashKey start s moment.now t) :
    Runs env.hashKey start s moment.now (request.answer env process moment headers t).1 := by
  rw [KeyRequest.answer, withDatabase]
  split
  · exact h
  · split
    · exact h
    · cases request with
      | create request =>
        rw [KeyRequest.body, createKey]
        split
        · exact h
        · next material ciphertext _ =>
          split
          · exact h
          · have hCall := h.call (.create request.name request.allowedModels
              [virtualKeyInvokeScope] none none "created" material (some ciphertext))
            rw [KeyCall.run] at hCall
            split
            · next hCreated =>
              rw [hCreated] at hCall
              exact hCall
            · next hFailed =>
              rw [hFailed] at hCall
              exact hCall
      | reveal id => exact h
      | rotate id payload =>
        rw [KeyRequest.body]
        cases payload with
        | error error => exact h
        | ok request =>
          rw [rotateKey]
          split
          · exact h
          · split
            · exact h
            · next material ciphertext _ =>
              have hCall := h.call (.rotate id request.options material (some ciphertext)
                moment.outage)
              rw [KeyCall.run] at hCall
              split
              · next hRotated =>
                rw [hRotated] at hCall
                exact hCall
              · next hFailed =>
                rw [hFailed] at hCall
                exact hCall
      | revoke id =>
        rw [KeyRequest.body, revokeKey]
        split
        · exact h
        · have hCall := h.call (.revoke id)
          rw [KeyCall.run] at hCall
          split
          · next hRevoked =>
            rw [hRevoked] at hCall
            exact hCall
          · next hMissing =>
            rw [hMissing] at hCall
            exact hCall

/-- The material of a process is a raw key, sealed under the version that is active. -/
structure Fresh (env : Surroundings) (process : Process) (material : VirtualKeyMaterial)
    (ciphertext : String) : Prop where
  hash : material.hash = env.hashKey material.raw
  sealed : ∃ key, process.secrets.keys.get process.secrets.activeVersion = some key ∧
    Sealed env.lib process.secrets.activeVersion key (utf8 (virtualKeyAad material.keyPrefix))
      material.raw ciphertext

theorem fits_raw (uuid : SimpleUuid) : (utf8 ("gw_" ++ uuid.text)).length ≤ maxSealed := by
  have hPrintable : Printable uuid.text := by
    intro c hChar
    have hAll : "0123456789abcdef".toList.all
        (fun c => decide (0x20 ≤ c.toNat) && decide (c.toNat < 0x7F)) = true := by decide
    have hDigit := of_decide_eq_true (List.all_eq_true.mp uuid.spelling c hChar)
    simpa using List.all_eq_true.mp hAll c hDigit
  have hPrefix : (utf8 "gw_").length = 3 := by decide
  rw [utf8_append, List.length_append, hPrefix, utf8_length hPrintable, uuid.length, maxSealed]
  decide

theorem fresh_of_encrypted (hLib : env.lib.Lawful) {material : VirtualKeyMaterial}
    {ciphertext : String}
    (h : encryptedVirtualKeyMaterial env process moment = .ok (material, ciphertext)) :
    Fresh env process material ciphertext := by
  rw [encryptedVirtualKeyMaterial] at h
  split at h
  · cases h
  · dsimp only at h
    split at h
    · next hEncrypt =>
      cases h
      exact ⟨rfl, sealed_of_encrypt hLib (fits_raw moment.uuid) hEncrypt⟩
    · cases h

theorem encrypted_error {response : KeyAnswer}
    (h : encryptedVirtualKeyMaterial env process moment = .error response) :
    ∃ status code message, response = .error status code message := by
  rw [encryptedVirtualKeyMaterial] at h
  split at h
  · cases h
    exact ⟨_, _, _, rfl⟩
  · dsimp only at h
    split at h
    · cases h
    · cases h
      exact ⟨_, _, _, rfl⟩

/-- What a request comes to: it fails and leaves the rows it found, reads a key, closes one,
or issues one whose material it made and stored. -/
inductive Outcome (env : Surroundings) (process : Process) (moment : Moment) (s : KeyStore) :
    KeyStore × KeyAnswer → Prop where
  | failed {t : KeyStore} (status : Nat) (code message : String) (hRows : t.rows = s.rows) :
      Outcome env process moment s (t, .error status code message)
  | revealed (id : Int) (key : String) : Outcome env process moment s (s, .revealed id key)
  | revoked (t : KeyStore) (id : Int) : Outcome env process moment s (t, .revoked id)
  | issued {result : KeyStore × KeyAnswer} (id : Int) {material : VirtualKeyMaterial}
      {ciphertext : String}
      (hMaterial : encryptedVirtualKeyMaterial env process moment = .ok (material, ciphertext))
      (hIssued : result.2.issued = some (id, material.raw))
      (hStored : ⟨id, material.hash, material.keyPrefix, some ciphertext⟩ ∈
        result.1.rows.map storedKey) : Outcome env process moment s result

theorem outcome_of_encrypted_error {response : KeyAnswer}
    (h : encryptedVirtualKeyMaterial env process moment = .error response) :
    Outcome env process moment s (s, response) := by
  obtain ⟨status, code, message, rfl⟩ := encrypted_error h
  exact .failed _ _ _ rfl

theorem createKey_outcome (request : CreateKeyRequest) :
    Outcome env process moment s (createKey env process moment s request) := by
  rw [createKey]
  cases hMaterial : encryptedVirtualKeyMaterial env process moment with
  | error response => exact outcome_of_encrypted_error hMaterial
  | ok pair =>
    obtain ⟨material, ciphertext⟩ := pair
    dsimp only
    split
    · exact .failed _ _ _ rfl
    · have hInsert := s.insert_cases moment.now
        { name := request.name
          material := material
          keyCiphertext := some ciphertext
          allowedModels := stringsJson request.allowedModels
          scopes := scopesJson [virtualKeyInvokeScope]
          keyGroup := none
          expiresAt := none
          origin := "created" }
      split
      · next s' id key hCreated =>
        rw [KeyStore.createVirtualKey] at hCreated
        obtain ⟨rfl, hReply⟩ := Prod.mk.inj hCreated
        obtain ⟨hNew, hRows⟩ | ⟨_, hError, -⟩ := hInsert
        · rw [hNew] at hReply
          cases Except.ok.inj hReply
          refine .issued s.nextId hMaterial rfl ?_
          rw [hRows, List.map_append]
          exact List.mem_append_right _ (List.mem_singleton_self _)
        · rw [hError] at hReply
          cases hReply
      · next s' error hFailed =>
        rw [KeyStore.createVirtualKey] at hFailed
        obtain ⟨rfl, hReply⟩ := Prod.mk.inj hFailed
        obtain ⟨hNew, -⟩ | ⟨_, -, hRows⟩ := hInsert
        · rw [hNew] at hReply
          cases hReply
        · exact .failed _ _ _ hRows

theorem revealKey_outcome (outage : Bool) (id : Int) :
    Outcome env process moment s (s, revealKey env process outage s id) := by
  rw [revealKey]
  split
  · exact .failed _ _ _ rfl
  · split
    · exact .failed _ _ _ rfl
    · split
      · exact .failed _ _ _ rfl
      · split
        · exact .revealed _ _
        · exact .failed _ _ _ rfl

theorem rotateKey_outcome (id : Int) (payload : Except String RotateKeyRequest) :
    Outcome env process moment s (rotateKey env process moment s id payload) := by
  cases payload with
  | error error => exact .failed _ _ _ rfl
  | ok request =>
    rw [rotateKey]
    split
    · exact .failed _ _ _ rfl
    · cases hMaterial : encryptedVirtualKeyMaterial env process moment with
      | error response => exact outcome_of_encrypted_error hMaterial
      | ok pair =>
        obtain ⟨material, ciphertext⟩ := pair
        have hRotate := s.rotate_cases moment.now id request.options material (some ciphertext)
          moment.outage
        dsimp only
        split
        · next s' rotation hRotated =>
          rw [hRotated] at hRotate
          obtain ⟨old, overlapUntil, -, -, hReply, hRows⟩ | ⟨_, hError, -⟩ := hRotate
          · cases Except.ok.inj hReply
            refine .issued s.nextId hMaterial rfl ?_
            have hAfter := congrArg (List.map storedKey) hRows
            rw [Rows.map_updateWhere (storedKey_replaced _ _ _), List.map_append] at hAfter
            rw [hAfter]
            exact List.mem_append_right _ (List.mem_singleton_self _)
          · cases hError
        · next s' error hFailed =>
          rw [hFailed] at hRotate
          obtain ⟨_, _, -, -, hReply, -⟩ | ⟨_, -, hRows⟩ := hRotate
          · cases hReply
          · cases error <;> exact .failed _ _ _ hRows

/-- A revocation that meets no row changes none. -/
theorem KeyStore.revoke_cases (s : KeyStore) (now : DateTime) (id : Int) :
    (s.revokeVirtualKey now id).2 = true ∨ (s.revokeVirtualKey now id).1.rows = s.rows := by
  cases hAny : (s.revokeVirtualKey now id).2 with
  | true => exact .inl rfl
  | false =>
    refine .inr ?_
    rw [KeyStore.revokeVirtualKey] at hAny ⊢
    have hNone := List.any_eq_false.mp hAny
    calc
      _ = s.rows.map fun row => row := by
        apply List.map_congr_left
        intro row hRow
        exact if_neg (hNone row hRow)
      _ = s.rows := List.map_id' s.rows

theorem revokeKey_outcome (id : Int) :
    Outcome env process moment s (revokeKey env moment s id) := by
  rw [revokeKey]
  split
  · exact .failed _ _ _ rfl
  · have hRevoke := s.revoke_cases moment.now id
    split
    · exact .revoked _ _
    · next s' hMissing =>
      rw [hMissing] at hRevoke
      obtain hTrue | hRows := hRevoke
      · cases hTrue
      · exact .failed _ _ _ hRows

theorem KeyRequest.outcome :
    Outcome env process moment s (request.answer env process moment headers s) := by
  rw [answer, withDatabase]
  split
  · exact .failed _ _ _ rfl
  · split
    · exact .failed _ _ _ rfl
    · cases request with
      | create request =>
        rw [body]
        exact createKey_outcome request
      | reveal id =>
        rw [body]
        exact revealKey_outcome moment.outage.isSome id
      | rotate id payload =>
        rw [body]
        exact rotateKey_outcome id payload
      | revoke id =>
        rw [body]
        exact revokeKey_outcome id

theorem Outcome.rows_of_error {result : KeyStore × KeyAnswer} {status : Nat}
    {code message : String} (h : Outcome env process moment s result)
    (hError : result.2 = .error status code message) : result.1.rows = s.rows := by
  cases h with
  | failed _ _ _ hRows => exact hRows
  | revealed id key => rfl
  | revoked t id => cases hError
  | issued id hMaterial hIssued hStored =>
    rw [hError] at hIssued
    cases hIssued

theorem Outcome.stored {result : KeyStore × KeyAnswer} {id : Int} {raw : String}
    (h : Outcome env process moment s result) (hIssued : result.2.issued = some (id, raw)) :
    ∃ material ciphertext,
      encryptedVirtualKeyMaterial env process moment = .ok (material, ciphertext) ∧
      material.raw = raw ∧
      ⟨id, material.hash, material.keyPrefix, some ciphertext⟩ ∈ result.1.rows.map storedKey := by
  cases h with
  | failed _ _ _ _ => cases hIssued
  | revealed id key => cases hIssued
  | revoked t id => cases hIssued
  | @issued _ id material ciphertext hMaterial hKey hStored =>
    rw [hIssued] at hKey
    cases hKey
    exact ⟨material, ciphertext, hMaterial, rfl, hStored⟩

/-- A request that is refused or fails changes no key. -/
theorem KeyRequest.rows_of_error {status : Nat} {code message : String}
    (h : (request.answer env process moment headers s).2 = .error status code message) :
    (request.answer env process moment headers s).1.rows = s.rows :=
  KeyRequest.outcome.rows_of_error h

/-! ## What was issued is revealed -/

theorem find_of_stored {t : KeyStore} {stored : StoredKey} (h : stored ∈ t.rows.map storedKey) :
    ∃ row, Rows.find VirtualKeyRow.id stored.id t.rows = some row ∧ storedKey row = stored := by
  obtain ⟨row, hRow, rfl⟩ := List.mem_map.mp h
  exact ⟨row, (Rows.find_eq_some_iff t.ids).mpr ⟨hRow, rfl⟩, rfl⟩

/-- What the reveal of a stored key comes to under a keyring. -/
theorem revealKey_of_stored {t : KeyStore} {stored : StoredKey} {ciphertext : String}
    (h : stored ∈ t.rows.map storedKey) (hCiphertext : stored.keyCiphertext = some ciphertext)
    (hWritten : (trim ciphertext).isEmpty = false) :
    revealKey env process false t stored.id =
      match process.secrets.decrypt env.lib ciphertext (utf8 (virtualKeyAad stored.keyPrefix)) with
      | .ok key => .revealed stored.id key.text
      | .error error => .error 503 error.code error.publicMessage := by
  obtain ⟨row, hFind, rfl⟩ := find_of_stored h
  have hRow : row.keyCiphertext = some ciphertext := hCiphertext
  have hResolved : process.secrets.resolveVirtualKey env.lib env.var row.keyPrefix ciphertext =
      process.secrets.decrypt env.lib ciphertext (utf8 (virtualKeyAad row.keyPrefix)) :=
    KeyRing.resolveRefs_ciphertext env.var hWritten rfl
  rw [revealKey, if_neg Bool.false_ne_true, hFind]
  dsimp only
  rw [hRow]
  dsimp only
  rw [hResolved]
  rfl

/-- The raw key of a stored one authenticates as that one, if at all. -/
theorem authenticate_of_stored {hashKey : String → String} {now : DateTime} {t : KeyStore}
    {stored : StoredKey} {raw : String} (h : stored ∈ t.rows.map storedKey)
    (hHash : stored.keyHash = hashKey raw) {model : Option String} {scope : String}
    {reply : Int × String × String}
    (hReply : (t.authenticateVirtualKey hashKey now raw model scope).2 = some reply) :
    reply.1 = stored.id := by
  obtain ⟨id, name, keyPrefix⟩ := reply
  obtain ⟨row, hRow, rfl⟩ := List.mem_map.mp h
  obtain ⟨found, hFound, hId, hFoundHash, -⟩ := KeyStore.authenticate_usable hReply
  have hSame := List.inj_on_of_nodup_map t.hashes hFound hRow (hFoundHash.trans hHash.symm)
  rw [← hSame, ← hId]
  rfl

/-- A key that a client holds, as the gateway knows it: sealed under a version whose key it
knows, and the key of one row. -/
structure Recoverable (env : Surroundings) (version : String) (key : Key) (id : Int)
    (raw : String) (now : DateTime) (t : KeyStore) : Prop where
  revealed : ∀ process moment headers, process.adminAuth.authorized env.digest headers = true →
    process.db = true → moment.outage = none → process.secrets.keys.get version = some key →
    (KeyRequest.reveal id).answer env process moment headers t = (t, .revealed id raw)
  unavailable : ∀ process moment headers,
    process.adminAuth.authorized env.digest headers = true → process.db = true →
    moment.outage = none → process.secrets.keys.get version = none →
    (KeyRequest.reveal id).answer env process moment headers t =
      (t, .error 503 "credential_master_key_unavailable" "credential master key is unavailable")
  own : ∀ model scope reply,
    (t.authenticateVirtualKey env.hashKey now raw model scope).2 = some reply → reply.1 = id

theorem answer_reveal (id : Int) (t : KeyStore)
    (hAuthorized : process.adminAuth.authorized env.digest headers = true)
    (hDatabase : process.db = true) (hOutage : moment.outage = none) :
    (KeyRequest.reveal id).answer env process moment headers t =
      (t, revealKey env process false t id) := by
  rw [KeyRequest.answer, withDatabase, hAuthorized, hDatabase, KeyRequest.body, hOutage]
  rfl

theorem recoverable_of_stored {version : String} {key : Key} {id : Int} {now : DateTime}
    {material : VirtualKeyMaterial} {ciphertext : String} {t : KeyStore}
    (hHash : material.hash = env.hashKey material.raw)
    (hSealed : Sealed env.lib version key (utf8 (virtualKeyAad material.keyPrefix)) material.raw
      ciphertext)
    (hStored : ⟨id, material.hash, material.keyPrefix, some ciphertext⟩ ∈ t.rows.map storedKey) :
    Recoverable env version key id material.raw now t where
  revealed process moment headers hAuthorized hDatabase hOutage hKey := by
    have hOpens := hSealed.opens process.secrets hKey
    rw [answer_reveal id t hAuthorized hDatabase hOutage,
      revealKey_of_stored hStored rfl hSealed.written]
    dsimp only
    cases hLease : process.secrets.decrypt env.lib ciphertext
        (utf8 (virtualKeyAad material.keyPrefix)) with
    | error error =>
      rw [hLease] at hOpens
      cases hOpens
    | ok lease =>
      rw [hLease] at hOpens
      have hText : lease.text = material.raw := Except.ok.inj hOpens
      dsimp only
      rw [hText]
  unavailable process moment headers hAuthorized hDatabase hOutage hNone := by
    rw [answer_reveal id t hAuthorized hDatabase hOutage,
      revealKey_of_stored hStored rfl hSealed.written]
    dsimp only
    rw [hSealed.closed process.secrets hNone]
    rfl
  own _ _ _ hReply := authenticate_of_stored hStored hHash hReply

/-- A key that a process gives to a client can be revealed in every state from then on, by
whichever process holds the version it was sealed under. -/
theorem issued_keys_are_recoverable (hLib : env.lib.Lawful) {id : Int} {raw : String}
    (h : (request.answer env process moment headers s).2.issued = some (id, raw)) :
    ∃ key, process.secrets.keys.get process.secrets.activeVersion = some key ∧
      ∀ now t, Runs env.hashKey moment.now (request.answer env process moment headers s).1 now t →
        Recoverable env process.secrets.activeVersion key id raw now t := by
  obtain ⟨material, ciphertext, hMaterial, rfl, hStored⟩ := KeyRequest.outcome.stored h
  have hFresh := fresh_of_encrypted hLib hMaterial
  obtain ⟨key, hKey, hSealed⟩ := hFresh.sealed
  refine ⟨key, hKey, fun now t hRuns => ?_⟩
  exact recoverable_of_stored hFresh.hash hSealed (hRuns.stored.subset hStored)

end Requests

/-! ## A recorded key -/

/-- The library with one more sealing that is known. -/
def recordSealing (lib : Library) (key : Key) (nonce : Nonce) (aad plaintext payload : Bytes) :
    Library :=
  { lib with
    sealInPlace := fun key' nonce' aad' plaintext' =>
      if key' = key ∧ nonce' = nonce ∧ aad' = aad ∧ plaintext' = plaintext then some payload
      else lib.sealInPlace key' nonce' aad' plaintext'
    openInPlace := fun key' nonce' aad' payload' =>
      if key' = key ∧ nonce' = nonce ∧ aad' = aad ∧ payload' = payload then some plaintext
      else lib.openInPlace key' nonce' aad' payload' }

theorem recordSealing_lawful {lib : Library} (hLib : lib.Lawful) {key : Key} {nonce : Nonce}
    {aad plaintext payload : Bytes} (hLength : payload.length = plaintext.length + tagLen)
    (hFresh : ∀ text, lib.sealInPlace key nonce aad text ≠ some payload) :
    (recordSealing lib key nonce aad plaintext payload).Lawful where
  opened {key' nonce' aad' plaintext' payload'} h := by
    simp only [recordSealing] at h ⊢
    split at h
    · next hHere =>
      obtain ⟨hKey, hNonce, hAad, hText⟩ := hHere
      rw [if_pos ⟨hKey, hNonce, hAad, (Option.some.inj h).symm⟩, hText]
    · rw [if_neg, hLib.opened h]
      rintro ⟨rfl, rfl, rfl, rfl⟩
      exact hFresh _ h
  tagged {key' nonce' aad' plaintext' payload'} h := by
    simp only [recordSealing] at h
    split at h
    · next hHere =>
      rw [← Option.some.inj h, hHere.2.2.2]
      exact hLength
    · exact hLib.tagged h
  seals key' nonce' aad' plaintext' hFits := by
    simp only [recordSealing]
    split
    · rfl
    · exact hLib.seals key' nonce' aad' plaintext' hFits

def recordedUuid : SimpleUuid := ⟨"5f0c2e4a9b7d4e318a6c1d2b3f4e5a60", by decide, by decide⟩

def recordedRaw : String := "gw_5f0c2e4a9b7d4e318a6c1d2b3f4e5a60"

def recordedAad : Bytes := utf8 "my-ai-gateway/virtual-key/v1/gw_5f0c2e4a"

def recordedSealing : Bytes :=
  [105, 203, 234, 235, 211, 28, 224, 143, 109, 156, 200, 12, 122, 27, 245, 173, 183, 112, 103,
    107, 73, 183, 3, 30, 228, 172, 209, 176, 163, 203, 56, 99, 47, 105, 214, 220, 3, 2, 201, 86,
    127, 250, 211, 88, 76, 96, 34, 238, 179, 170, 9]

/-- `SHA-256` of the raw key and of the admin key, and `AES-256-GCM` of the raw key. -/
def recordedEnv : Surroundings where
  lib := recordSealing
    { recorded with
      sha256 := fun bytes =>
        if bytes = utf8 recordedRaw then
          ⟨[177, 61, 216, 83, 251, 79, 29, 82, 118, 185, 13, 23, 34, 154, 178, 180, 199,
              104, 143, 86, 18, 75, 157, 95, 14, 136, 196, 7, 113, 206, 123, 200], by decide⟩
        else
          ⟨[105, 165, 38, 85, 6, 201, 76, 119, 183, 135, 167, 215, 55, 123, 118, 133, 160,
              239, 248, 46, 51, 146, 10, 113, 231, 238, 34, 205, 97, 84, 149, 62], by decide⟩ }
    recordedKey recordedNonce recordedAad (utf8 recordedRaw) recordedSealing
  var _ := none
  dbText _ := ""

theorem recordedEnv_lawful : recordedEnv.lib.Lawful := by
  have hLib : ∀ sha256, Library.Lawful { recorded with sha256 := sha256 } := fun _ =>
    ⟨recorded_lawful.opened, recorded_lawful.tagged, recorded_lawful.seals⟩
  refine recordSealing_lawful (hLib _) (by decide) ?_
  intro text hSame
  simp only [recorded] at hSame
  split at hSame
  · next hHere => exact absurd hHere.2.2.1 (by decide)
  · have hLast := congrArg List.getLast? (Option.some.inj hSame)
    rw [List.getLast?_append] at hLast
    have hEnds : some (0 : UInt8) = some 9 := hLast
    exact absurd hEnds (by decide)

def recordedProcess : Process where
  adminAuth := AdminAuth.fromKey recordedEnv.digest (some "admin-key")
  secrets := recordedRing
  db := true

def recordedMoment (now : DateTime) : Moment := ⟨now, recordedUuid, some recordedNonce, none⟩

def recordedHeaders : List (String × Bytes) := [("authorization", utf8 "Bearer admin-key")]

/-- A key is created, and can be revealed after it was revoked. -/
theorem issued_key_is_recoverable :
    ∃ issued t key, Runs recordedEnv.hashKey 0 issued 60 t ∧
      Recoverable recordedEnv "v1" key 1 recordedRaw 60 t := by
  let answer := (KeyRequest.create { name := "team" }).answer recordedEnv recordedProcess
    (recordedMoment 0) recordedHeaders .empty
  have hIssued : answer.2.issued = some (1, recordedRaw) := by decide
  obtain ⟨key, -, hRecoverable⟩ := issued_keys_are_recoverable recordedEnv_lawful hIssued
  have hStart : Runs recordedEnv.hashKey 0 answer.1 0 answer.1 := .start
  have hWait : Runs recordedEnv.hashKey 0 answer.1 (recordedMoment 60).now answer.1 :=
    hStart.wait (by decide)
  have hRuns : Runs recordedEnv.hashKey 0 answer.1 (recordedMoment 60).now
      ((KeyRequest.revoke 1).answer recordedEnv recordedProcess (recordedMoment 60)
        recordedHeaders answer.1).1 := hWait.answer
  exact ⟨answer.1, _, key, hRuns, hRecoverable 60 _ hRuns⟩

end AiGateway.VirtualKeys
