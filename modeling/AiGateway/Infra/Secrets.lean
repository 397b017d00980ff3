import AiGateway.Base.Base64
import AiGateway.Base.Json
import AiGateway.Base.Lossy
import AiGateway.Base.Table

/-!
# Credential envelopes

A credential is stored as a text of five fields, `gwenc:v1:key:nonce:ciphertext`,
sealed under a key of the keyring and bound to associated data.  The reader also
takes a shorter form, another separator, and an object.
-/

namespace AiGateway.Secrets

set_option autoImplicit false

open AiGateway.Text AiGateway.Json AiGateway.Base64

def envelopePrefix : String := "gwenc"
def envelopeVersion : String := "v1"
def nonceLen : Nat := 12
def tagLen : Nat := 16
def maxEnvelopeLen : Nat := 16 * 1024 * 1024
def maxKeyVersionLen : Nat := 64
def accountAadPrefix : String := "my-ai-gateway/account/v1"

inductive SecretResolverError where
  | credentialUnavailable
  | ambiguousCredential
  | masterKeyUnavailable
  | invalidMasterKeyConfig
  | invalidCiphertext
  | decryptionFailed
  | invalidPlaintext
  deriving DecidableEq

abbrev Key := { bytes : Bytes // bytes.length = 32 }
abbrev Nonce := { bytes : Bytes // bytes.length = nonceLen }

/-- The digest, the cipher (`AES-256-GCM`, whose tag follows the sealed octets) and
the reader of JSON objects. -/
structure Library where
  sha256 : Bytes → Key
  sealInPlace : Key → Nonce → Bytes → Bytes → Option Bytes
  openInPlace : Key → Nonce → Bytes → Bytes → Option Bytes
  parseObject : String → Option Fields

/-! ## Leases -/

/-- A credential in the clear is a text, and not the empty one. -/
structure SecretLease where
  text : String
  nonempty : text ≠ ""
  deriving DecidableEq

def SecretLease.new (value : Bytes) : Except SecretResolverError SecretLease :=
  match fromUtf8 value with
  | none => .error .invalidPlaintext
  | some text => if h : text = "" then .error .invalidPlaintext else .ok ⟨text, h⟩

/-! ## Keyrings -/

def isAsciiAlphanumeric (b : UInt8) : Bool :=
  (0x30 ≤ b && b ≤ 0x39) || (0x41 ≤ b && b ≤ 0x5A) || (0x61 ≤ b && b ≤ 0x7A)

/-- Letters, digits, `.`, `_` and `-`. -/
def isKeyVersion (value : String) : Bool :=
  !value.isEmpty && (utf8 value).length ≤ maxKeyVersionLen &&
    (utf8 value).all fun b => isAsciiAlphanumeric b || b = 0x2E || b = 0x5F || b = 0x2D

def validateKeyVersion (value : String) : Except SecretResolverError String :=
  if isKeyVersion value then .ok value else .error .invalidMasterKeyConfig

def letters : List Char :=
  "ABCDEFGHIJKLMNOPQRSTUVWXYZabcdefghijklmnopqrstuvwxyz0123456789".toList

def standard : Alphabet where
  symbols := letters ++ ['+', '/']
  length := by decide
  nodup := by decide

def urlSafe : Alphabet where
  symbols := letters ++ ['-', '_']
  length := by decide
  nodup := by decide

def hexValue (b : UInt8) : Option Nat :=
  if 0x30 ≤ b && b ≤ 0x39 then some (b.toNat - 0x30)
  else if 0x41 ≤ b && b ≤ 0x46 then some (b.toNat - 0x41 + 10)
  else if 0x61 ≤ b && b ≤ 0x66 then some (b.toNat - 0x61 + 10)
  else none

/-- A number in base 16, which may have a plus sign for its first digit. -/
def hexByte (a b : UInt8) : Option UInt8 :=
  if a = 0x2B then (hexValue b).map UInt8.ofNat
  else
    (hexValue a).bind fun high => (hexValue b).map fun low => UInt8.ofNat (high * 16 + low)

/-- Slices of two octets each.  There is no outcome when a slice would start or end
inside a character, where the source panics. -/
def hexPairs : Bytes → Option (Option Bytes)
  | a :: b :: rest =>
    if isContinuation a || rest.head?.any isContinuation then none
    else
      match hexByte a b with
      | none => some none
      | some byte => (hexPairs rest).map fun bytes => bytes.map (byte :: ·)
  | _ => some (some [])
where
  isContinuation (b : UInt8) : Bool := 0x80 ≤ b && b < 0xC0

def decodeKeyMaterial (value : Bytes) : Option (Option Bytes) :=
  match fromUtf8 value with
  | none => some none
  | some text =>
    match stripPrefix text "base64:" with
    | some encoded =>
      some ((decodePadded standard encoded.toList).or (decode urlSafe encoded.toList))
    | none =>
      match stripPrefix text "hex:" with
      | some encoded =>
        if (utf8 encoded).length % 2 ≠ 0 then some none else hexPairs (utf8 encoded)
      | none => some none

def deriveKey (lib : Library) (value : Bytes) : Option Key :=
  (decodeKeyMaterial value).map fun material =>
    let decoded := material.getD value
    if h : decoded.length = 32 then ⟨decoded, h⟩ else lib.sha256 decoded

structure KeyRing where
  activeVersion : String
  keys : Table String Key
  version : isKeyVersion activeVersion = true
  versions : ∀ entry ∈ keys.entries, isKeyVersion entry.1 = true
  active : keys.isEmpty = false → keys.containsKey activeVersion = true

def normalizeKeys (lib : Library) : List (String × Bytes) → Table String Key →
    Option (Except SecretResolverError (Table String Key))
  | [], keys => some (.ok keys)
  | (version, value) :: rest, keys =>
    match validateKeyVersion version with
    | .error error => some (.error error)
    | .ok version =>
      if value.isEmpty then some (.error .invalidMasterKeyConfig)
      else (deriveKey lib value).bind fun key => normalizeKeys lib rest (keys.insert version key)

theorem isKeyVersion_of_validate {value version : String}
    (h : validateKeyVersion value = .ok version) : version = value ∧ isKeyVersion value = true := by
  rw [validateKeyVersion] at h
  split at h
  · next hValid => exact ⟨(Except.ok.inj h).symm, hValid⟩
  · cases h

theorem normalizeKeys_versions {lib : Library} {values : List (String × Bytes)}
    {keys result : Table String Key} (h : normalizeKeys lib values keys = some (.ok result))
    (hKeys : ∀ entry ∈ keys.entries, isKeyVersion entry.1 = true) :
    ∀ entry ∈ result.entries, isKeyVersion entry.1 = true := by
  induction values generalizing keys with
  | nil =>
    cases h
    exact hKeys
  | cons pair rest ih =>
    obtain ⟨version, value⟩ := pair
    rw [normalizeKeys] at h
    split at h
    · cases h
    · next version' hVersion =>
      obtain ⟨rfl, hValid⟩ := isKeyVersion_of_validate hVersion
      split at h
      · cases h
      · obtain ⟨key, -, hRest⟩ := Option.bind_eq_some_iff.mp h
        apply ih hRest
        intro entry hEntry
        obtain hSame | hOld := Table.mem_keys_insertEntry (List.mem_map_of_mem hEntry)
        · rw [hSame]
          exact hValid
        · obtain ⟨old, hMem, hKey⟩ := List.mem_map.mp hOld
          exact hKey ▸ hKeys old hMem

/-- The keys may come in any order; a later one replaces an earlier one. -/
def fromKeyring (lib : Library) (activeVersion : String) (values : List (String × Bytes)) :
    Option (Except SecretResolverError KeyRing) :=
  match hActive : validateKeyVersion activeVersion with
  | .error error => some (.error error)
  | .ok activeVersion =>
    match hKeys : normalizeKeys lib values .empty with
    | none => none
    | some (.error error) => some (.error error)
    | some (.ok keys) =>
      if h : !keys.isEmpty && !keys.containsKey activeVersion then
        some (.error .invalidMasterKeyConfig)
      else
        some (.ok
          { activeVersion := activeVersion
            keys := keys
            version := by
              obtain ⟨hSame, hValid⟩ := isKeyVersion_of_validate hActive
              exact hSame ▸ hValid
            versions := normalizeKeys_versions hKeys nofun
            active := by
              intro hSome
              simpa [hSome] using h })

/-! ## Envelopes -/

structure Envelope where
  keyVersion : String
  nonce : Nonce
  ciphertext : Bytes
  deriving DecidableEq

def decodeB64 (value : List Char) : Except SecretResolverError Bytes :=
  match (decode urlSafe value).or (decodePadded standard value) with
  | some bytes => .ok bytes
  | none => .error .invalidCiphertext

def decodeNonce (value : List Char) : Except SecretResolverError Nonce := do
  let bytes ← decodeB64 value
  if h : bytes.length = nonceLen then return ⟨bytes, h⟩ else throw .invalidCiphertext

def decodePayload (value : List Char) : Except SecretResolverError Bytes := do
  let bytes ← decodeB64 value
  if maxEnvelopeLen < bytes.length then throw .invalidCiphertext else return bytes

def parseJsonEnvelope (lib : Library) (value : String) :
    Except SecretResolverError Envelope := do
  let some object := lib.parseObject value | throw .invalidCiphertext
  let some version := (Fields.get object "version").bind fun value =>
    value.asStr.or (value.asU64.map fun v => s!"v{v}") | throw .invalidCiphertext
  let some keyVersion :=
    ((Fields.get object "key_version").or (Fields.get object "key_id")).bind Value.asStr
    | throw .invalidCiphertext
  if version ≠ envelopeVersion then throw .invalidCiphertext
  let some nonce := (Fields.get object "nonce").bind Value.asStr | throw .invalidCiphertext
  let some ciphertext := (Fields.get object "ciphertext").bind Value.asStr
    | throw .invalidCiphertext
  let nonce ← decodeNonce nonce.toList
  let ciphertext ← decodePayload ciphertext.toList
  if ciphertext.length < tagLen then throw .invalidCiphertext
  let keyVersion ← validateKeyVersion keyVersion
  return ⟨keyVersion, nonce, ciphertext⟩

/-- Without the name that five fields may start with. -/
def envelopeFields (value : List Char) : List (List Char) :=
  let fields := if ':' ∈ value then value.splitOn ':' else value.splitOn '.'
  if fields.length = 5 ∧
      (fields.head? = some envelopePrefix.toList ∨ fields.head? = some "enc".toList) then
    fields.tail
  else fields

def parseEnvelope (lib : Library) (value : String) : Except SecretResolverError Envelope :=
  if maxEnvelopeLen < (utf8 value).length || (trim value).isEmpty then .error .invalidCiphertext
  else if startsWith (trim value) "\x7b" then parseJsonEnvelope lib (trim value)
  else
    match envelopeFields (trim value).toList with
    | [version, keyVersion, nonce, payload] => do
      if version ≠ envelopeVersion.toList then throw .invalidCiphertext
      let keyVersion ← validateKeyVersion (String.ofList keyVersion)
      let nonce ← decodeNonce nonce
      let ciphertext ← decodePayload payload
      if ciphertext.length < tagLen then throw .invalidCiphertext
      return ⟨keyVersion, nonce, ciphertext⟩
    | _ => .error .invalidCiphertext

def envelopeText (keyVersion : String) (nonce payload : Bytes) : String :=
  envelopePrefix ++ ":" ++ envelopeVersion ++ ":" ++ keyVersion ++ ":" ++
    String.ofList (encode urlSafe nonce) ++ ":" ++ String.ofList (encode urlSafe payload)

namespace KeyRing

/-- `random` is what the system gives for a nonce, if it gives anything. -/
def encrypt (lib : Library) (ring : KeyRing) (plaintext : String) (aad : Bytes)
    (random : Option Nonce) : Except SecretResolverError String :=
  if plaintext.isEmpty then .error .invalidPlaintext
  else
    match ring.keys.get ring.activeVersion with
    | none => .error .masterKeyUnavailable
    | some key =>
      match random with
      | none => .error .masterKeyUnavailable
      | some nonce =>
        match lib.sealInPlace key nonce aad (utf8 plaintext) with
        | none => .error .decryptionFailed
        | some payload => .ok (envelopeText ring.activeVersion nonce.val payload)

def decrypt (lib : Library) (ring : KeyRing) (ciphertext : String) (aad : Bytes) :
    Except SecretResolverError SecretLease := do
  let envelope ← parseEnvelope lib ciphertext
  match ring.keys.get envelope.keyVersion with
  | none => throw .masterKeyUnavailable
  | some key =>
    match lib.openInPlace key envelope.nonce aad envelope.ciphertext with
    | none => throw .decryptionFailed
    | some plaintext => SecretLease.new plaintext

def rotate (lib : Library) (ring : KeyRing) (ciphertext : String) (aad : Bytes)
    (random : Option Nonce) : Except SecretResolverError String := do
  let plaintext ← ring.decrypt lib ciphertext aad
  ring.encrypt lib plaintext.text aad random

/-- `var` reads the environment. -/
def resolveRefs (lib : Library) (ring : KeyRing) (var : String → Option String)
    (credentialEnv credentialCiphertext inlineCredential : Option String) (aad : Bytes) :
    Except SecretResolverError SecretLease :=
  let name := credentialEnv.filter fun value => !(trim value).isEmpty
  let ciphertext := credentialCiphertext.filter fun value => !(trim value).isEmpty
  let inline := inlineCredential.filter fun value => !value.isEmpty
  let configured := name.toList.length + ciphertext.toList.length + inline.toList.length
  if configured = 0 then .error .credentialUnavailable
  else if 1 < configured then .error .ambiguousCredential
  else
    match name, inline, ciphertext with
    | some name, _, _ =>
      match (var name).filter fun value => !value.isEmpty with
      | none => .error .credentialUnavailable
      | some value => SecretLease.new (utf8 value)
    | none, some value, _ => SecretLease.new (utf8 value)
    | none, none, some ciphertext => ring.decrypt lib ciphertext aad
    | none, none, none => .error .credentialUnavailable

end KeyRing

/-- Binds an envelope to an account of a source. -/
def accountAad (sourceId accountId : String) : String :=
  accountAadPrefix ++ "/" ++ sourceId ++ "/" ++ accountId

namespace KeyRing

def resolveAccount (lib : Library) (ring : KeyRing) (var : String → Option String)
    (sourceId accountId : String)
    (credentialEnv credentialCiphertext inlineCredential : Option String) :
    Except SecretResolverError SecretLease :=
  ring.resolveRefs lib var credentialEnv credentialCiphertext inlineCredential
    (utf8 (accountAad sourceId accountId))

def encryptForAccount (lib : Library) (ring : KeyRing) (sourceId accountId plaintext : String)
    (random : Option Nonce) : Except SecretResolverError String :=
  ring.encrypt lib plaintext (utf8 (accountAad sourceId accountId)) random

end KeyRing

/-! ## What is written can be read -/

theorem not_mem_of_isKeyVersion {version : String} (h : isKeyVersion version = true) :
    ':' ∉ version.toList := by
  intro hMem
  have hOctet : (0x3A : UInt8) ∈ utf8 version := by
    rw [utf8_eq_flatMap]
    exact List.mem_flatMap.mpr ⟨':', hMem, by decide⟩
  simp only [isKeyVersion, Bool.and_eq_true] at h
  exact absurd (List.all_eq_true.mp h.2 _ hOctet) (by decide)

theorem not_mem_encode (bytes : Bytes) : ':' ∉ encode urlSafe bytes := by
  intro hMem
  have hSymbol := mem_symbols_of_mem_encode urlSafe bytes _ hMem
  exact absurd hSymbol (by decide)

theorem envelopeText_toList (version : String) (nonce payload : Bytes) :
    (envelopeText version nonce payload).toList = [':'].intercalate
      ["gwenc".toList, "v1".toList, version.toList, encode urlSafe nonce,
        encode urlSafe payload] := by
  simp [envelopeText, envelopePrefix, envelopeVersion, List.intercalate]

theorem splitOn_envelopeText {version : String} (hVersion : isKeyVersion version = true)
    (nonce payload : Bytes) :
    (envelopeText version nonce payload).toList.splitOn ':' =
      ["gwenc".toList, "v1".toList, version.toList, encode urlSafe nonce,
        encode urlSafe payload] := by
  rw [envelopeText_toList]
  refine List.splitOn_intercalate ':' ?_ (List.cons_ne_nil _ _)
  simp only [List.forall_mem_cons]
  exact ⟨by decide, by decide, not_mem_of_isKeyVersion hVersion, not_mem_encode nonce,
    not_mem_encode payload, nofun⟩

theorem envelopeFields_envelopeText {version : String} (hVersion : isKeyVersion version = true)
    (nonce payload : Bytes) :
    envelopeFields (envelopeText version nonce payload).toList =
      ["v1".toList, version.toList, encode urlSafe nonce, encode urlSafe payload] := by
  have hColon : ':' ∈ (envelopeText version nonce payload).toList := by simp [envelopeText]
  rw [envelopeFields, if_pos hColon, splitOn_envelopeText hVersion]
  exact if_pos ⟨rfl, .inl rfl⟩

theorem trim_envelopeText (version : String) (nonce : Bytes) {payload : Bytes}
    (hPayload : payload ≠ []) :
    trim (envelopeText version nonce payload) = envelopeText version nonce payload := by
  have hSome : encode urlSafe payload ≠ [] := by
    intro hNil
    have hLength := length_le_length_encode urlSafe payload
    rw [hNil] at hLength
    exact hPayload (List.eq_nil_of_length_eq_zero (Nat.le_zero.mp hLength))
  obtain ⟨last, hLast⟩ := List.getLast?_isSome.mpr hSome |> Option.isSome_iff_exists.mp
  have hVisible : isWhitespace last = false := by
    have hSymbol := mem_symbols_of_mem_encode urlSafe payload _ (List.mem_of_getLast? hLast)
    have hAll : urlSafe.symbols.all (fun c => !isWhitespace c) = true := by decide
    simpa using List.all_eq_true.mp hAll _ hSymbol
  have hHead : (envelopeText version nonce payload).toList.head? = some 'g' := by
    simp [envelopeText, envelopePrefix]
  have hEnd : (envelopeText version nonce payload).toList.getLast? = some last := by
    rw [envelopeText, String.toList_append, String.toList_ofList, List.getLast?_append, hLast]
    rfl
  rw [trim, trimChars_of_ends hHead hEnd (by decide) hVisible, String.ofList_toList]

theorem decodeB64_encode (bytes : Bytes) : decodeB64 (encode urlSafe bytes) = .ok bytes := by
  rw [decodeB64, decode_encode]
  rfl

theorem length_payload_le (version : String) (nonce payload : Bytes) :
    payload.length ≤ (utf8 (envelopeText version nonce payload)).length := by
  have hText : (encode urlSafe payload).length ≤
      (envelopeText version nonce payload).toList.length := by
    rw [envelopeText, String.toList_append, String.toList_ofList, List.length_append]
    exact Nat.le_add_left _ _
  rw [utf8_length_eq]
  calc
    payload.length ≤ (encode urlSafe payload).length := length_le_length_encode urlSafe payload
    _ ≤ (envelopeText version nonce payload).toList.length := hText
    _ ≤ octetCount (envelopeText version nonce payload).toList := length_le_octetCount _

theorem parse_envelopeText (lib : Library) {version : String}
    (hVersion : isKeyVersion version = true) (nonce : Nonce) {payload : Bytes}
    (hTag : tagLen ≤ payload.length)
    (hWithin : (utf8 (envelopeText version nonce payload)).length ≤ maxEnvelopeLen) :
    parseEnvelope lib (envelopeText version nonce payload) = .ok ⟨version, nonce, payload⟩ := by
  have hPayload : payload ≠ [] := by
    rintro rfl
    exact absurd hTag (by decide)
  have hBody : startsWith (envelopeText version nonce payload) "\x7b" = false := by
    simp only [startsWith, envelopeText, envelopePrefix, String.toList_append]
    rfl
  have hSome : (envelopeText version nonce payload).isEmpty = false := by
    simp [envelopeText, envelopePrefix]
  have hGuard : (decide (maxEnvelopeLen < (utf8 (envelopeText version nonce payload)).length) ||
      (envelopeText version nonce payload).isEmpty) = false := by
    rw [hSome, Bool.or_false, decide_eq_false_iff_not]
    exact Nat.not_lt.mpr hWithin
  have hLength := Nat.le_trans (length_payload_le version nonce payload) hWithin
  have hNonce : decodeNonce (encode urlSafe nonce.val) = .ok nonce := by
    simp only [decodeNonce, decodeB64_encode, bind, Except.bind, nonce.property]
    rfl
  have hDecoded : decodePayload (encode urlSafe payload) = .ok payload := by
    simp only [decodePayload, decodeB64_encode, bind, Except.bind, Nat.not_lt.mpr hLength]
    rfl
  have hValid : validateKeyVersion (String.ofList version.toList) = .ok version := by
    rw [String.ofList_toList, validateKeyVersion, if_pos hVersion]
  rw [parseEnvelope, trim_envelopeText version nonce hPayload, hGuard, hBody,
    envelopeFields_envelopeText hVersion]
  simp only [Bool.false_eq_true, if_false, hValid, hNonce, hDecoded, Nat.not_lt.mpr hTag, bind,
    Except.bind]
  rfl

/-- What the cipher promises: opening undoes sealing under the same key, nonce and
data, the tag is sixteen octets, and no text that fits an envelope is too long. -/
structure Library.Lawful (lib : Library) : Prop where
  opened : ∀ {key nonce aad plaintext payload},
    lib.sealInPlace key nonce aad plaintext = some payload →
    lib.openInPlace key nonce aad payload = some plaintext
  tagged : ∀ {key nonce aad plaintext payload},
    lib.sealInPlace key nonce aad plaintext = some payload →
    payload.length = plaintext.length + tagLen
  seals : ∀ key nonce aad plaintext, plaintext.length ≤ maxEnvelopeLen →
    (lib.sealInPlace key nonce aad plaintext).isSome

section RoundTrip

variable {lib : Library} {ring other : KeyRing} {plaintext envelope : String} {aad : Bytes}
  {random : Option Nonce}

theorem SecretLease.new_utf8 (h : plaintext ≠ "") :
    SecretLease.new (utf8 plaintext) = .ok ⟨plaintext, h⟩ := by
  simp [SecretLease.new, fromUtf8_utf8, h]

theorem KeyRing.encrypt_eq_ok (h : ring.encrypt lib plaintext aad random = .ok envelope) :
    ∃ key nonce payload, plaintext ≠ "" ∧ ring.keys.get ring.activeVersion = some key ∧
      random = some nonce ∧ lib.sealInPlace key nonce aad (utf8 plaintext) = some payload ∧
      envelope = envelopeText ring.activeVersion nonce.val payload := by
  rw [KeyRing.encrypt] at h
  split at h
  · cases h
  · next hSome =>
    split at h
    · cases h
    · next key hKey =>
      split at h
      · cases h
      · next nonce =>
        split at h
        · cases h
        · next payload hPayload =>
          refine ⟨key, nonce, payload, ?_, hKey, rfl, hPayload, (Except.ok.inj h).symm⟩
          rintro rfl
          exact hSome rfl

/-- The version of an envelope decides which key opens it. -/
theorem KeyRing.decrypt_of_encrypt (hLib : lib.Lawful)
    (h : ring.encrypt lib plaintext aad random = .ok envelope)
    (hWithin : (utf8 envelope).length ≤ maxEnvelopeLen) :
    (other.keys.get ring.activeVersion = ring.keys.get ring.activeVersion →
      (other.decrypt lib envelope aad).map SecretLease.text = .ok plaintext) ∧
    (other.keys.get ring.activeVersion = none →
      other.decrypt lib envelope aad = .error .masterKeyUnavailable) := by
  obtain ⟨key, nonce, payload, hSome, hKey, -, hPayload, rfl⟩ := KeyRing.encrypt_eq_ok h
  have hTag : tagLen ≤ payload.length := by
    rw [hLib.tagged hPayload]
    exact Nat.le_add_left _ _
  rw [KeyRing.decrypt, parse_envelopeText lib ring.version nonce hTag hWithin]
  constructor
  · intro hSame
    rw [hKey] at hSame
    simp only [bind, Except.bind, hSame, hLib.opened hPayload, SecretLease.new_utf8 hSome]
    rfl
  · intro hNone
    simp only [bind, Except.bind, hNone]
    rfl

theorem KeyRing.encrypt_isOk (hLib : lib.Lawful) (hKeys : ring.keys.isEmpty = false)
    (hSome : plaintext ≠ "") (hLength : (utf8 plaintext).length ≤ maxEnvelopeLen)
    (nonce : Nonce) (aad : Bytes) :
    ∃ payload, ring.encrypt lib plaintext aad (some nonce) =
      .ok (envelopeText ring.activeVersion nonce.val payload) := by
  obtain ⟨key, hKey⟩ := Option.isSome_iff_exists.mp (ring.active hKeys)
  obtain ⟨payload, hPayload⟩ :=
    Option.isSome_iff_exists.mp (hLib.seals key nonce aad (utf8 plaintext) hLength)
  have hText : plaintext.isEmpty = false := by simpa using hSome
  refine ⟨payload, ?_⟩
  simp [KeyRing.encrypt, hText, hKey, hPayload]

/-- What becomes of an envelope under the keyrings of later times. -/
structure Readable (lib : Library) (ring : KeyRing) (plaintext : String) (aad : Bytes)
    (envelope : String) : Prop where
  decrypts : (ring.decrypt lib envelope aad).map SecretLease.text = .ok plaintext
  later : ∀ other : KeyRing,
    other.keys.get ring.activeVersion = ring.keys.get ring.activeVersion →
    (other.decrypt lib envelope aad).map SecretLease.text = .ok plaintext
  unavailable : ∀ other : KeyRing, other.keys.get ring.activeVersion = none →
    other.decrypt lib envelope aad = .error .masterKeyUnavailable
  rotates : ∀ other : KeyRing,
    other.keys.get ring.activeVersion = ring.keys.get ring.activeVersion → ∀ nonce,
    ∃ rotated payload, other.rotate lib envelope aad (some nonce) = .ok rotated ∧
      other.encrypt lib plaintext aad (some nonce) = .ok rotated ∧
      rotated = envelopeText other.activeVersion nonce.val payload ∧
      ((utf8 rotated).length ≤ maxEnvelopeLen →
        (other.decrypt lib rotated aad).map SecretLease.text = .ok plaintext)

theorem readable_of_encrypt (hLib : lib.Lawful)
    (h : ring.encrypt lib plaintext aad random = .ok envelope)
    (hWithin : (utf8 envelope).length ≤ maxEnvelopeLen) :
    Readable lib ring plaintext aad envelope where
  decrypts := (KeyRing.decrypt_of_encrypt hLib h hWithin).1 rfl
  later other := (KeyRing.decrypt_of_encrypt hLib h hWithin).1
  unavailable other := (KeyRing.decrypt_of_encrypt hLib h hWithin).2
  rotates other hSame nonce := by
    obtain ⟨key, used, payload, hSome, hKey, -, hPayload, rfl⟩ := KeyRing.encrypt_eq_ok h
    have hDecrypts := (KeyRing.decrypt_of_encrypt hLib h hWithin).1 hSame
    have hOtherKeys : other.keys.isEmpty = false := by
      rw [hKey] at hSame
      exact Table.isEmpty_of_get hSame
    have hLength : (utf8 plaintext).length ≤ maxEnvelopeLen := by
      have hPayloadLength := length_payload_le ring.activeVersion used.val payload
      have hTagged := hLib.tagged hPayload
      omega
    obtain ⟨rotated, hRotated⟩ := KeyRing.encrypt_isOk hLib hOtherKeys hSome hLength nonce aad
    refine ⟨_, rotated, ?_, hRotated, rfl, fun hFits =>
      (KeyRing.decrypt_of_encrypt hLib hRotated hFits).1 rfl⟩
    rw [KeyRing.rotate]
    cases hLease : other.decrypt lib
        (envelopeText ring.activeVersion used.val payload) aad with
    | error _ =>
      rw [hLease] at hDecrypts
      cases hDecrypts
    | ok lease =>
      rw [hLease] at hDecrypts
      have hText : lease.text = plaintext := Except.ok.inj hDecrypts
      simp only [bind, Except.bind, hText, hRotated]

/-- What `encrypt` makes of a text is an envelope, and an envelope that fits is read. -/
structure EnvelopeRoundTrip (lib : Library) (ring : KeyRing) (plaintext : String)
    (aad : Bytes) : Prop where
  produced : (utf8 plaintext).length ≤ maxEnvelopeLen → ∀ nonce,
    ∃ envelope, ring.encrypt lib plaintext aad (some nonce) = .ok envelope
  readable : ∀ random envelope, ring.encrypt lib plaintext aad random = .ok envelope →
    (utf8 envelope).length ≤ maxEnvelopeLen → Readable lib ring plaintext aad envelope

theorem envelope_round_trip (hLib : lib.Lawful) (hKeys : ring.keys.isEmpty = false)
    (hSome : plaintext ≠ "") (aad : Bytes) : EnvelopeRoundTrip lib ring plaintext aad where
  produced hLength nonce := by
    obtain ⟨payload, hEnvelope⟩ := KeyRing.encrypt_isOk hLib hKeys hSome hLength nonce aad
    exact ⟨_, hEnvelope⟩
  readable _ _ h hWithin := readable_of_encrypt hLib h hWithin

end RoundTrip

/-! ## A recorded sealing -/

def recordedKey : Key := ⟨(List.range 32).map UInt8.ofNat, by decide⟩

def recordedNonce : Nonce := ⟨List.replicate 12 0, by decide⟩

def recordedPayload : Bytes :=
  [125, 62, 190, 88, 104, 91, 162, 116, 226, 103, 198, 131, 244, 193, 141, 248, 111]

/-- What `AES-256-GCM` makes of one text; other texts are only marked. -/
def recorded : Library where
  sha256 _ := recordedKey
  sealInPlace key nonce aad plaintext :=
    if key = recordedKey ∧ nonce = recordedNonce ∧ aad = utf8 "aad" ∧ plaintext = utf8 "s" then
      some recordedPayload
    else some (plaintext ++ List.replicate tagLen 0)
  openInPlace key nonce aad payload :=
    if key = recordedKey ∧ nonce = recordedNonce ∧ aad = utf8 "aad" ∧
        payload = recordedPayload then
      some (utf8 "s")
    else if (List.replicate tagLen 0).isSuffixOf payload then
      some (payload.take (payload.length - tagLen))
    else none
  parseObject _ := none

theorem recorded_lawful : recorded.Lawful where
  opened {key nonce aad plaintext payload} h := by
    simp only [recorded] at h ⊢
    split at h
    · next hSame =>
      obtain ⟨hKey, hNonce, hAad, hPlain⟩ := hSame
      rw [← Option.some.inj h, if_pos ⟨hKey, hNonce, hAad, rfl⟩, hPlain]
    · next hOther =>
      have hNot : plaintext ++ List.replicate tagLen 0 ≠ recordedPayload := by
        intro hSame
        have hLast := congrArg List.getLast? hSame
        rw [List.getLast?_append] at hLast
        have hEnds : some (0 : UInt8) = some 111 := hLast
        exact absurd hEnds (by decide)
      rw [← Option.some.inj h, if_neg (fun hAll => hNot hAll.2.2.2)]
      simp
  tagged {key nonce aad plaintext payload} h := by
    simp only [recorded] at h
    split at h
    · next hSame =>
      rw [← Option.some.inj h, hSame.2.2.2]
      decide
    · rw [← Option.some.inj h]
      simp
  seals key nonce aad plaintext _ := by
    simp only [recorded]
    split <;> rfl

def recordedRing : KeyRing where
  activeVersion := "v1"
  keys := Table.empty.insert "v1" recordedKey
  version := by decide
  versions := by decide
  active := by decide

theorem envelope_round_trip_recorded :
    recordedRing.encrypt recorded "s" (utf8 "aad") (some recordedNonce) =
        .ok "gwenc:v1:v1:AAAAAAAAAAAAAAAA:fT6-WGhbonTiZ8aD9MGN-G8" ∧
      EnvelopeRoundTrip recorded recordedRing "s" (utf8 "aad") :=
  ⟨by decide,
    envelope_round_trip recorded_lawful (by decide) (by decide) (utf8 "aad")⟩

end AiGateway.Secrets
