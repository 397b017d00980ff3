import AiGateway.Infra.VirtualKeys
import AiGateway.Proxy.Policy

/-!
# Admin and data-plane identities

An admin key is compared by its digest.  A request to the data plane is let in by
the static key of the environment, or else by a virtual key of the database.
-/

namespace AiGateway.Auth

set_option autoImplicit false

open AiGateway.Text AiGateway.Json AiGateway.Health AiGateway.Proxy AiGateway.Migrations
  AiGateway.VirtualKeys

def hexDigit (n : Nat) : Char := Nat.digitChar n

/-- A digest in lower-case hexadecimal. -/
def hexLower (bytes : Bytes) : String :=
  String.ofList (bytes.flatMap fun b => [hexDigit (b.toNat / 16), hexDigit (b.toNat % 16)])

/-- The key of a `Bearer` token, or else of the header of its own. -/
def suppliedKey (headers : List (String × Bytes)) : Option String :=
  ((headerText headers "authorization").bind fun value => stripPrefix value "Bearer ").or
    (headerText headers "x-api-key")

inductive AuthIdentity where
  | staticApiKey
  | virtualKey (id : Int) (name keyPrefix : String)
  deriving DecidableEq

def AuthIdentity.virtualKeyId : AuthIdentity → Option Int
  | .virtualKey id _ _ => some id
  | .staticApiKey => none

section Digests

variable (sha256 : Bytes → Bytes)

def keyDigest (key : String) : Bytes := sha256 (utf8 key)

def keyMatchesDigest (expected : Bytes) (supplied : String) : Bool :=
  expected = keyDigest sha256 supplied

def hashKey (raw : String) : String := hexLower (keyDigest sha256 raw)

structure AdminAuth where
  keyDigest : Option Bytes

def AdminAuth.fromKey (key : Option String) : AdminAuth := ⟨key.map (Auth.keyDigest sha256)⟩

/-- `var` is the value of `GATEWAY_ADMIN_KEY`. -/
def AdminAuth.fromEnv (var : Option String) : AdminAuth :=
  fromKey sha256 (var.filter fun key => !key.isEmpty)

def AdminAuth.authorized (auth : AdminAuth) (headers : List (String × Bytes)) : Bool :=
  match auth.keyDigest, suppliedKey headers with
  | some expected, some supplied => keyMatchesDigest sha256 expected supplied
  | _, _ => false

/-- A transaction that fails leaves the rows it found. -/
def authenticateVirtualKeyWithIdentity (s : KeyStore) (outage : Bool) (now : DateTime)
    (raw : String) (model : Option String) :
    KeyStore × Except VirtualKeyError (Option (Int × String × String)) :=
  if outage then (s, .error (.database none))
  else
    let reply := s.authenticateVirtualKey (hashKey sha256) now raw model virtualKeyInvokeScope
    (reply.1, .ok reply.2)

/-- `var` is the value of `GATEWAY_API_KEY`. -/
def authorizedWithDb (var : Option String) (database : Option KeyStore) (outage : Bool)
    (now : DateTime) (headers : List (String × Bytes)) (model : Option String) :
    Option KeyStore × Option AuthIdentity :=
  if var.any fun expected =>
      (suppliedKey headers).any (keyMatchesDigest sha256 (keyDigest sha256 expected)) then
    (database, some .staticApiKey)
  else
    match database with
    | none => (none, if var.isNone then some .staticApiKey else none)
    | some s =>
      match suppliedKey headers with
      | none => (some s, none)
      | some key =>
        let reply := authenticateVirtualKeyWithIdentity sha256 s outage now key model
        (some reply.1,
          match reply.2 with
          | .ok (some (id, name, keyPrefix)) => some (.virtualKey id name keyPrefix)
          | _ => none)

/-- Whether `models` goes on to list, which it does for no model in particular. -/
def modelsAuthorized (var : Option String) (database : Option KeyStore) (outage : Bool)
    (now : DateTime) (headers : List (String × Bytes)) : Bool :=
  (authorizedWithDb sha256 var database outage now headers none).2.isSome

/-- Whether `proxy` goes on with the model that the request names. -/
def proxyAuthorized (var : Option String) (database : Option KeyStore) (outage : Bool)
    (now : DateTime) (headers : List (String × Bytes)) (payload : Value) : Bool :=
  let model := (payload.get "model").bind Value.asStr
  (authorizedWithDb sha256 var database outage now headers model).2.isSome

end Digests

section Decisions

variable {sha256 : Bytes → Bytes} {var : Option String} {s : KeyStore} {outage : Bool}
  {now : DateTime} {headers : List (String × Bytes)} {model : Option String}

/-- The key of an identity is one of the table. -/
theorem exists_key_of_authorized {identity : AuthIdentity}
    (h : (authorizedWithDb sha256 var (some s) outage now headers model).2 = some identity) :
    ∀ id ∈ identity.virtualKeyId, ∃ row ∈ s.rows, row.id = id := by
  intro id hId
  unfold authorizedWithDb at h
  split at h
  · cases h
    cases hId
  · dsimp only at h
    split at h
    · cases h
    · next key hKey =>
      dsimp only at h
      split at h
      · next id' name keyPrefix hReply =>
        cases h
        cases hId
        rw [authenticateVirtualKeyWithIdentity] at hReply
        split at hReply
        · cases hReply
        · obtain ⟨row, hRow, hSame, -⟩ := KeyStore.authenticate_usable (Except.ok.inj hReply)
          exact ⟨row, hRow, hSame⟩
      · cases h

theorem keyDigest_injective (hSha : Function.Injective sha256) :
    Function.Injective (keyDigest sha256) := hSha.comp utf8_injective

theorem keyMatchesDigest_iff (hSha : Function.Injective sha256) {expected supplied : String} :
    keyMatchesDigest sha256 (keyDigest sha256 expected) supplied = true ↔ expected = supplied := by
  rw [keyMatchesDigest, decide_eq_true_eq]
  exact (keyDigest_injective hSha).eq_iff

theorem AdminAuth.authorized_fromEnv_iff (hSha : Function.Injective sha256) :
    (fromEnv sha256 var).authorized sha256 headers = true ↔
      ∃ expected, var = some expected ∧ expected ≠ "" ∧ suppliedKey headers = some expected := by
  rw [fromEnv, fromKey, authorized]
  cases var with
  | none => simp
  | some expected =>
    by_cases hEmpty : expected = ""
    · subst hEmpty
      simp
    · cases hKey : suppliedKey headers with
      | none => simp [hEmpty]
      | some supplied =>
        have hMatch : keyMatchesDigest sha256 (Auth.keyDigest sha256 expected) supplied =
            true ↔ supplied = expected := (keyMatchesDigest_iff hSha).trans eq_comm
        have hKept : (some expected).filter (fun key => !key.isEmpty) = some expected := by
          simp [Option.filter, hEmpty]
        rw [hKept, Option.map_some, hMatch]
        simp [hEmpty]

/-- A usable key of the table, that may invoke the model. -/
def Opens (sha256 : Bytes → Bytes) (s : KeyStore) (now : DateTime) (key : String)
    (model : Option String) : Prop :=
  ∃ row ∈ s.rows, row.keyHash = hashKey sha256 key ∧ usable now row = true ∧
    allowedModelsAllow row.allowedModels model = true ∧
    scopeAllow row.scopes virtualKeyInvokeScope = true

theorem authenticate_isSome_iff {key : String} :
    (∃ reply, (authenticateVirtualKeyWithIdentity sha256 s outage now key model).2 =
        .ok (some reply)) ↔
      outage = false ∧ Opens sha256 s now key model := by
  unfold authenticateVirtualKeyWithIdentity
  cases outage with
  | true => simp
  | false =>
    simp only [Bool.false_eq_true, if_false, Except.ok.injEq, true_and]
    rw [← Option.isSome_iff_exists]
    exact KeyStore.authenticate_isSome_iff

theorem authorized_isSome_iff (hSha : Function.Injective sha256) :
    (authorizedWithDb sha256 var (some s) outage now headers model).2.isSome ↔
      ∃ key, suppliedKey headers = some key ∧
        (var = some key ∨ outage = false ∧ Opens sha256 s now key model) := by
  unfold authorizedWithDb
  cases hKey : suppliedKey headers with
  | none => simp
  | some key =>
    have hStatic : (var.any fun expected =>
        (some key).any (keyMatchesDigest sha256 (keyDigest sha256 expected))) = true ↔
          var = some key := by
      cases var with
      | none => simp
      | some expected => simp [keyMatchesDigest_iff hSha]
    simp only [Option.some.injEq, exists_eq_left']
    rw [← authenticate_isSome_iff]
    split
    · next hSame => simp [hStatic.mp hSame]
    · next hOther =>
      simp only [mt hStatic.mpr hOther, false_or]
      split
      · next reply hReply => simp [hReply]
      · next hNone =>
        constructor
        · intro h
          cases h
        · rintro ⟨⟨id, name, keyPrefix⟩, hReply⟩
          exact absurd hReply (hNone id name keyPrefix)

end Decisions

/-! ## No empty credential -/

/-- Who is let in, by the gateway and to the administration. -/
structure NoEmptyCredential (sha256 : Bytes → Bytes) (apiKey adminKey : Option String)
    (s : KeyStore) (outage : Bool) (now : DateTime) (headers : List (String × Bytes))
    (model : Option String) : Prop where
  gateway : ∀ identity,
    (authorizedWithDb sha256 apiKey (some s) outage now headers model).2 = some identity →
    ∃ key, suppliedKey headers = some key ∧ key ≠ "" ∧
      ((∃ expected, apiKey = some expected ∧ expected ≠ "" ∧ key = expected) ∨
        ∃ row ∈ s.rows, row.keyHash = hashKey sha256 key ∧ usable now row = true)
  admin : (AdminAuth.fromEnv sha256 adminKey).authorized sha256 headers = true →
    ∃ expected, adminKey = some expected ∧ expected ≠ "" ∧ suppliedKey headers = some expected

/-- The empty key is supplied, and it is the static key or a key of the table. -/
def EmptyAccepted (sha256 : Bytes → Bytes) (apiKey : Option String) (s : KeyStore) (outage : Bool)
    (now : DateTime) (headers : List (String × Bytes)) (model : Option String) : Prop :=
  suppliedKey headers = some "" ∧
    (apiKey = some "" ∨ outage = false ∧ Opens sha256 s now "" model)

theorem noEmptyCredential_iff {sha256 : Bytes → Bytes} (hSha : Function.Injective sha256)
    (apiKey adminKey : Option String) (s : KeyStore) (outage : Bool) (now : DateTime)
    (headers : List (String × Bytes)) (model : Option String) :
    NoEmptyCredential sha256 apiKey adminKey s outage now headers model ↔
      ¬ EmptyAccepted sha256 apiKey s outage now headers model := by
  constructor
  · rintro hOnly ⟨hEmpty, hAccepted⟩
    have hIn : (authorizedWithDb sha256 apiKey (some s) outage now headers model).2.isSome :=
      (authorized_isSome_iff hSha).mpr ⟨"", hEmpty, hAccepted⟩
    obtain ⟨identity, hIdentity⟩ := Option.isSome_iff_exists.mp hIn
    obtain ⟨key, hKey, hNonempty, -⟩ := hOnly.gateway identity hIdentity
    rw [hEmpty] at hKey
    exact hNonempty (Option.some.inj hKey).symm
  · intro hNot
    constructor
    · intro identity hIdentity
      obtain ⟨key, hKey, hAccepted⟩ := (authorized_isSome_iff hSha).mp
        (Option.isSome_of_mem hIdentity)
      have hNonempty : key ≠ "" := by
        rintro rfl
        exact hNot ⟨hKey, hAccepted⟩
      refine ⟨key, hKey, hNonempty, ?_⟩
      obtain hStatic | ⟨-, row, hRow, hHash, hUsable, -⟩ := hAccepted
      · exact .inl ⟨key, hStatic, hNonempty, rfl⟩
      · exact .inr ⟨row, hRow, hHash, hUsable⟩
    · exact (AdminAuth.authorized_fromEnv_iff hSha).mp

/-- An empty `x-api-key` where the variable is set to nothing. -/
theorem empty_key_accepted :
    ¬ NoEmptyCredential id (some "") none .empty false 0 [("x-api-key", [])] none := by
  intro hOnly
  obtain ⟨key, hKey, hNonempty, -⟩ := hOnly.gateway .staticApiKey (by decide)
  exact hNonempty (Option.some.inj (hKey.symm.trans (by decide)))

theorem noEmptyCredential_unset :
    NoEmptyCredential id none none .empty false 0 [("x-api-key", [])] none := by
  apply (noEmptyCredential_iff Function.injective_id none none .empty false 0 _ none).mpr
  rintro ⟨-, hStatic | ⟨-, row, hRow, -⟩⟩
  · cases hStatic
  · cases hRow

/-! ## What a virtual key may do -/

theorem any_stringsJson (values : List String) (p : Option String → Bool) :
    ((stringsJson values).asArray.getD []).any (fun item => p item.asStr) =
      values.any fun value => p (some value) := by
  show (values.map Value.string).any _ = _
  rw [List.any_map]
  rfl

theorem scopeAllow_stringsJson (scopes : List String) :
    scopeAllow (stringsJson scopes) virtualKeyInvokeScope = true ↔
      "*" ∈ scopes ∨ virtualKeyInvokeScope ∈ scopes := by
  have hOther : virtualKeyInvokeScope ≠ virtualKeyModelsScope := by decide
  rw [scopeAllow, any_stringsJson scopes fun item => item = some "*" ||
    item = some virtualKeyInvokeScope || (virtualKeyInvokeScope = virtualKeyModelsScope &&
      item = some virtualKeyInvokeScope)]
  rw [List.any_eq_true]
  constructor
  · rintro ⟨scope, hScope, hEqual⟩
    simp only [Bool.or_eq_true, Bool.and_eq_true, decide_eq_true_eq, Option.some.injEq, hOther,
      false_and, or_false] at hEqual
    obtain rfl | rfl := hEqual
    · exact .inl hScope
    · exact .inr hScope
  · rintro (hAny | hInvoke)
    · exact ⟨"*", hAny, rfl⟩
    · exact ⟨virtualKeyInvokeScope, hInvoke, by simp⟩

theorem allowedModelsAllow_none (value : Value) : allowedModelsAllow value none = true := by
  simp [allowedModelsAllow]

theorem allowedModelsAllow_stringsJson (models : List String) (m : String) :
    allowedModelsAllow (stringsJson models) (some m) = true ↔
      models = [] ∨ m ∈ models ∨ "*" ∈ models := by
  have hAny := any_stringsJson models fun item => item = some m || item = some "*"
  have hEmpty : ((stringsJson models).asArray.getD []).isEmpty = true ↔ models = [] := by
    simp [stringsJson, Value.asArray]
  rw [allowedModelsAllow, hAny, Bool.or_eq_true, Bool.or_eq_true, hEmpty, List.any_eq_true]
  constructor
  · rintro ((hNone | hNamed) | ⟨model, hModel, hEqual⟩)
    · exact .inl hNone
    · cases hNamed
    · simp only [Bool.or_eq_true, decide_eq_true_eq, Option.some.injEq] at hEqual
      obtain rfl | rfl := hEqual
      · exact .inr (.inl hModel)
      · exact .inr (.inr hModel)
  · rintro (hNone | hNamed | hAll)
    · exact .inl (.inl hNone)
    · exact .inr ⟨m, hNamed, by simp⟩
    · exact .inr ⟨"*", hAll, by simp⟩

theorem validateVirtualKeyScopes_iff {scopes : List String} :
    validateVirtualKeyScopes scopes = .ok () ↔
      ∀ scope ∈ scopes, scope = virtualKeyInvokeScope ∨ scope = virtualKeyModelsScope ∨
        scope = "*" := by
  unfold validateVirtualKeyScopes
  dsimp only
  split
  · next scope hFind =>
    have hBad := List.find?_some hFind
    constructor
    · intro h
      cases h
    · intro h
      have hGood := h scope (List.mem_of_find?_eq_some hFind)
      simp [hGood] at hBad
  · next hNone =>
    rw [List.find?_eq_none] at hNone
    simpa [or_iff_not_imp_left] using hNone

/-- Which requests with a key go through, for what its row says. -/
structure KeyAuthorization (sha256 : Bytes → Bytes) (apiKey : Option String) (s : KeyStore)
    (now : DateTime) (headers : List (String × Bytes)) (scopes models : List String) : Prop where
  list : modelsAuthorized sha256 apiKey (some s) false now headers = true ↔
    "*" ∈ scopes ∨ virtualKeyInvokeScope ∈ scopes ∨ virtualKeyModelsScope ∈ scopes
  invoke : ∀ payload m, (Value.get payload "model").bind Value.asStr = some m →
    (proxyAuthorized sha256 apiKey (some s) false now headers payload = true ↔
      ("*" ∈ scopes ∨ virtualKeyInvokeScope ∈ scopes) ∧
        (models = [] ∨ m ∈ models ∨ "*" ∈ models))

section Key

variable {sha256 : Bytes → Bytes} {apiKey : Option String} {s : KeyStore} {now : DateTime}
  {headers : List (String × Bytes)} {row : VirtualKeyRow} {raw : String}

/-- The row with the hash of a key decides for it. -/
theorem opens_iff (hRow : row ∈ s.rows) (hUsable : usable now row = true)
    (hHash : row.keyHash = hashKey sha256 raw) {model : Option String} :
    Opens sha256 s now raw model ↔ allowedModelsAllow row.allowedModels model = true ∧
      scopeAllow row.scopes virtualKeyInvokeScope = true := by
  constructor
  · rintro ⟨other, hOther, hSame, -, hAllowed⟩
    rwa [List.inj_on_of_nodup_map s.hashes hRow hOther (hHash.trans hSame.symm)]
  · intro hAllowed
    exact ⟨row, hRow, hHash, hUsable, hAllowed⟩

theorem authorized_key_iff (hSha : Function.Injective sha256) (hRow : row ∈ s.rows)
    (hUsable : usable now row = true) (hHash : row.keyHash = hashKey sha256 raw)
    (hKey : suppliedKey headers = some raw) (hStatic : apiKey ≠ some raw)
    (model : Option String) :
    (authorizedWithDb sha256 apiKey (some s) false now headers model).2.isSome ↔
      allowedModelsAllow row.allowedModels model = true ∧
        scopeAllow row.scopes virtualKeyInvokeScope = true := by
  rw [authorized_isSome_iff hSha, ← opens_iff hRow hUsable hHash]
  simp [hKey, hStatic]

theorem keyAuthorization_iff (hSha : Function.Injective sha256) (hRow : row ∈ s.rows)
    (hUsable : usable now row = true) (hHash : row.keyHash = hashKey sha256 raw)
    (hKey : suppliedKey headers = some raw) (hStatic : apiKey ≠ some raw)
    {scopes models : List String} (hScopes : row.scopes = stringsJson scopes)
    (hModels : row.allowedModels = stringsJson models)
    (hAccepted : validateVirtualKeyScopes scopes = .ok ()) :
    KeyAuthorization sha256 apiKey s now headers scopes models ↔
      scopes = [] ∨ ∃ scope ∈ scopes, scope ≠ virtualKeyModelsScope := by
  have hAuthorized := authorized_key_iff hSha hRow hUsable hHash hKey hStatic
  rw [hScopes, hModels] at hAuthorized
  have hList : modelsAuthorized sha256 apiKey (some s) false now headers = true ↔
      "*" ∈ scopes ∨ virtualKeyInvokeScope ∈ scopes := by
    rw [modelsAuthorized, hAuthorized, scopeAllow_stringsJson]
    simp [allowedModelsAllow_none]
  have hOther : virtualKeyInvokeScope ≠ virtualKeyModelsScope := by decide
  constructor
  · rintro ⟨hAll, -⟩
    rw [hList] at hAll
    cases scopes with
    | nil => exact .inl rfl
    | cons scope rest =>
      refine .inr ?_
      by_contra hNone
      push Not at hNone
      have hFirst : scope = virtualKeyModelsScope := hNone scope List.mem_cons_self
      obtain hAny | hInvoke := hAll.mpr (.inr (.inr (hFirst ▸ List.mem_cons_self)))
      · exact absurd (hNone "*" hAny) (by decide)
      · exact hOther (hNone _ hInvoke)
  · intro hCondition
    constructor
    · rw [hList, ← or_assoc]
      refine ⟨.inl, ?_⟩
      rintro (hGranted | hReads)
      · exact hGranted
      · obtain rfl | ⟨scope, hScope, hNot⟩ := hCondition
        · cases hReads
        · obtain rfl | hSame | rfl := validateVirtualKeyScopes_iff.mp hAccepted scope hScope
          · exact .inr hScope
          · exact absurd hSame hNot
          · exact .inl hScope
    · intro payload m hModel
      rw [proxyAuthorized, hModel, hAuthorized, allowedModelsAllow_stringsJson,
        scopeAllow_stringsJson, and_comm]

end Key

/-- A table with one key, that was given the scopes. -/
def keyOf (scopes : List String) : KeyStore :=
  (KeyStore.empty.createVirtualKey 0 "key" [] scopes none none "created"
    (generateVirtualKeyMaterial (hashKey id) "1") none).1

theorem models_scope_cannot_list :
    ¬ KeyAuthorization id none (keyOf [virtualKeyModelsScope]) 0 [("x-api-key", utf8 "gw_1")]
      [virtualKeyModelsScope] [] := by
  rintro ⟨hAll, -⟩
  have hRefused : modelsAuthorized id none (some (keyOf [virtualKeyModelsScope])) false 0
      [("x-api-key", utf8 "gw_1")] = false := by decide
  rw [hRefused] at hAll
  cases hAll.mpr (.inr (.inr List.mem_cons_self))

theorem keyAuthorization_invoke :
    KeyAuthorization id none (keyOf [virtualKeyInvokeScope]) 0 [("x-api-key", utf8 "gw_1")]
      [virtualKeyInvokeScope] [] := by
  have hRows : (keyOf [virtualKeyInvokeScope]).rows ≠ [] := by decide
  obtain ⟨hUsable, hHash⟩ :
      usable 0 ((keyOf [virtualKeyInvokeScope]).rows.head hRows) = true ∧
        ((keyOf [virtualKeyInvokeScope]).rows.head hRows).keyHash = hashKey id "gw_1" := by
    decide +revert
  have hKey : suppliedKey [("x-api-key", utf8 "gw_1")] = some "gw_1" := by decide
  apply (keyAuthorization_iff Function.injective_id (List.head_mem hRows) hUsable hHash hKey
    (by decide) (by rfl) (by rfl) (by decide)).mpr
  exact .inr ⟨_, List.mem_cons_self, by decide⟩

end AiGateway.Auth
