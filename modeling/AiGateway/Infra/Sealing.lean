import AiGateway.Infra.Secrets

/-!
# Sealed texts over time

Processes come and go with keyrings of their own.  An envelope keeps its text as long as
its version is in the ring, wherever the envelope was made, and says so when it is not.
-/

namespace AiGateway.Secrets

set_option autoImplicit false

open AiGateway.Text AiGateway.Base64

def SecretResolverError.code : SecretResolverError → String
  | .credentialUnavailable => "credential_unavailable"
  | .ambiguousCredential => "credential_ambiguous"
  | .masterKeyUnavailable => "credential_master_key_unavailable"
  | .invalidMasterKeyConfig => "credential_master_key_invalid"
  | .invalidCiphertext => "credential_ciphertext_invalid"
  | .decryptionFailed => "credential_decryption_failed"
  | .invalidPlaintext => "credential_plaintext_invalid"

def SecretResolverError.publicMessage : SecretResolverError → String
  | .credentialUnavailable => "account credential is unavailable"
  | .ambiguousCredential => "account credential configuration is ambiguous"
  | .masterKeyUnavailable => "credential master key is unavailable"
  | .invalidMasterKeyConfig => "credential master key configuration is invalid"
  | .invalidCiphertext => "account credential ciphertext is invalid"
  | .decryptionFailed => "account credential could not be decrypted"
  | .invalidPlaintext => "account credential plaintext is invalid"

def virtualKeyAadPrefix : String := "my-ai-gateway/virtual-key/v1"

def virtualKeyAad (keyPrefix : String) : String := virtualKeyAadPrefix ++ "/" ++ keyPrefix

namespace KeyRing

def hasMasterKey (ring : KeyRing) : Bool := !ring.keys.isEmpty

def resolveVirtualKey (lib : Library) (ring : KeyRing) (var : String → Option String)
    (keyPrefix ciphertext : String) : Except SecretResolverError SecretLease :=
  ring.resolveRefs lib var none (some ciphertext) none (utf8 (virtualKeyAad keyPrefix))

end KeyRing

/-! ## The size of an envelope -/

theorem utf8_encode (bytes : Bytes) :
    (utf8 (String.ofList (encode urlSafe bytes))).length = (encode urlSafe bytes).length := by
  have hPrintable : Printable (String.ofList (encode urlSafe bytes)) := by
    intro c hChar
    rw [String.toList_ofList] at hChar
    have hAll : urlSafe.symbols.all
        (fun c => decide (0x20 ≤ c.toNat) && decide (c.toNat < 0x7F)) = true := by decide
    have hSymbol := mem_symbols_of_mem_encode urlSafe bytes c hChar
    simpa using List.all_eq_true.mp hAll c hSymbol
  rw [utf8_length hPrintable, ← String.length_toList, String.toList_ofList]

theorem length_envelopeText_le {version : String} (hVersion : isKeyVersion version = true)
    (nonce payload : Bytes) :
    3 * (utf8 (envelopeText version nonce payload)).length ≤
      4 * (nonce.length + payload.length) + 229 := by
  have hLength : (utf8 version).length ≤ 64 := by
    simp only [isKeyVersion, Bool.and_eq_true, decide_eq_true_eq] at hVersion
    exact hVersion.1.2
  have hNonce := length_encode_le urlSafe nonce
  have hPayload := length_encode_le urlSafe payload
  have hColon : (utf8 ":").length = 1 := by decide
  have hPrefix : (utf8 envelopePrefix).length = 5 := by decide
  have hScheme : (utf8 envelopeVersion).length = 2 := by decide
  rw [envelopeText]
  simp only [utf8_append, List.length_append, utf8_encode, hColon, hPrefix, hScheme]
  omega

/-- Texts of this size fit an envelope under any version. -/
def maxSealed : Nat := 12 * 1024 * 1024 - 256

/-! ## What an envelope holds -/

/-- The key of the version opens the envelope, and no ring without the version does. -/
structure Sealed (lib : Library) (version : String) (key : Key) (aad : Bytes)
    (text envelope : String) : Prop where
  opens : ∀ ring : KeyRing, ring.keys.get version = some key →
    (ring.decrypt lib envelope aad).map SecretLease.text = .ok text
  closed : ∀ ring : KeyRing, ring.keys.get version = none →
    ring.decrypt lib envelope aad = .error .masterKeyUnavailable
  written : (trim envelope).isEmpty = false

section Sealing

variable {lib : Library} {ring : KeyRing} {version text envelope : String} {key : Key} {aad : Bytes}
  {random : Option Nonce}

theorem sealed_of_encrypt (hLib : lib.Lawful) (hFits : (utf8 text).length ≤ maxSealed)
    (h : ring.encrypt lib text aad random = .ok envelope) :
    ∃ key, ring.keys.get ring.activeVersion = some key ∧
      Sealed lib ring.activeVersion key aad text envelope := by
  obtain ⟨key, nonce, payload, hSome, hKey, -, hPayload, hEnvelope⟩ := KeyRing.encrypt_eq_ok h
  have hTagged := hLib.tagged hPayload
  have hWithin : (utf8 envelope).length ≤ maxEnvelopeLen := by
    have hSize := length_envelopeText_le ring.version nonce.val payload
    have hNonce : nonce.val.length = 12 := nonce.property
    have hTag : tagLen = 16 := rfl
    have hMost : maxSealed = 12 * 1024 * 1024 - 256 := rfl
    have hLimit : maxEnvelopeLen = 16 * 1024 * 1024 := rfl
    rw [hEnvelope]
    omega
  refine ⟨key, hKey, ?_, ?_, ?_⟩
  · intro other hOther
    exact (KeyRing.decrypt_of_encrypt hLib h hWithin).1 (hOther.trans hKey.symm)
  · intro other hOther
    exact (KeyRing.decrypt_of_encrypt hLib h hWithin).2 hOther
  · have hFilled : payload ≠ [] := by
      rintro rfl
      exact absurd hTagged (by simp [tagLen])
    rw [hEnvelope, trim_envelopeText _ _ hFilled]
    simp [envelopeText, envelopePrefix]

/-- A reference to an envelope alone is resolved by opening it. -/
theorem KeyRing.resolveRefs_ciphertext (var : String → Option String)
    (h : (trim envelope).isEmpty = false) {env : Option String}
    (hEnv : env.filter (fun value => !(trim value).isEmpty) = none) :
    ring.resolveRefs lib var env (some envelope) none aad = ring.decrypt lib envelope aad := by
  rw [KeyRing.resolveRefs, hEnv]
  simp [Option.filter, h]

end Sealing

end AiGateway.Secrets
