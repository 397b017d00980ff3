import AiGateway.Base.Json

/-!
# Redaction of exported values

What an export hides: members with a sensitive name, texts that look like a
secret, and the user, the fragment and a sensitive query of an address.  Reading
an address is the work of the URL library.
-/

namespace AiGateway.Ops

set_option autoImplicit false

open AiGateway.Json AiGateway.Text

def redacted : String := "[REDACTED]"

/-- The parts of an address the redaction looks at. -/
structure UrlParts where
  username : String
  password : Option String
  query : Option String
  fragment : Option String

/-- The URL library: the parts of a text that is an absolute address, and the
address written without user and fragment, and without the query if asked. -/
structure Urls where
  parse : String → Option UrlParts
  cleaned : String → Bool → String

def endsWith (s suffix : String) : Bool := suffix.toList.isSuffixOf s.toList

def contains (s part : String) : Bool := s.toList.tails.any part.toList.isPrefixOf

def sensitiveNames : List String :=
  ["authorization", "api_key", "apikey", "access_token", "refresh_token", "secret", "password",
    "private_key", "credential", "credential_ciphertext", "key_hash", "auth_token",
    "session_token"]

def isSensitiveKey (key : String) : Bool :=
  let key := toAsciiLowercase key
  sensitiveNames.contains key ||
    ["_secret", "_password", "-secret", "-password", "_key", "-key"].any (endsWith key) ||
    startsWith key "x-api-" || ["api_key", "api-key", "apikey"].any (contains key)

def looksLikeSecret (value : String) : Bool :=
  let value := trim value
  (startsWith value "sk-" && 16 ≤ value.utf8ByteSize) ||
    (startsWith value "sk_" && 16 ≤ value.utf8ByteSize) ||
    (startsWith value "ghp_" && 20 ≤ value.utf8ByteSize) ||
    (startsWith value "Bearer " && 20 ≤ value.utf8ByteSize)

def isSensitiveQuery (query : String) : Bool :=
  ["api_key", "apikey", "token", "secret", "password"].any (contains (toAsciiLowercase query))

section Sanitize

variable (urls : Urls)

def sanitizeString (value : String) : String :=
  if looksLikeSecret value then redacted
  else
    match urls.parse value with
    | none => value
    | some url =>
      let sensitive := url.query.any isSensitiveQuery
      if url.username ≠ "" ∨ url.password.isSome ∨ sensitive ∨ url.fragment.isSome
      then urls.cleaned value sensitive else value

/-- A text that is a member of an object is looked at once more. -/
def sanitizeText (value : String) : String :=
  let value := sanitizeString urls value
  if looksLikeSecret value then redacted else value

def hideSecret : Value → Value
  | .string text => .string (if looksLikeSecret text then redacted else text)
  | value => value

mutual
def sanitizeJson : Value → Value
  | .null => .null
  | .bool b => .bool b
  | .number n => .number n
  | .string value => .string (sanitizeString urls value)
  | .array items => .array (sanitizeItems items)
  | .object fields => .object (sanitizeFields fields)

def sanitizeItems : List Value → List Value
  | [] => []
  | value :: rest => sanitizeJson value :: sanitizeItems rest

def sanitizeFields : List (String × Value) → List (String × Value)
  | [] => []
  | (key, value) :: rest =>
    (key, if isSensitiveKey key then .string redacted else hideSecret (sanitizeJson value)) ::
      sanitizeFields rest
end

/-- A value that is a member of an object, or a column of a row. -/
def sanitizeMember (value : Value) : Value := hideSecret (sanitizeJson urls value)

end Sanitize

/-! ## What an import refuses -/

def plaintextNames : List String :=
  ["credential_ciphertext", "authorization", "api_key", "apikey", "password", "private_key",
    "access_token", "refresh_token", "credential"]

def isPlaintext (text : String) : Bool := text ≠ "" && text ≠ redacted && text ≠ "redacted"

def isPlaintextField (key : String) (value : Value) : Bool :=
  plaintextNames.contains (toAsciiLowercase key) && value.asStr.any isPlaintext

mutual
/-- Whether a value holds a member with the name of a secret and a text of its own. -/
def hasPlaintextSecret : Value → Bool
  | .array items => itemsHavePlaintextSecret items
  | .object fields => fieldsHavePlaintextSecret fields
  | _ => false

def itemsHavePlaintextSecret : List Value → Bool
  | [] => false
  | value :: rest => hasPlaintextSecret value || itemsHavePlaintextSecret rest

def fieldsHavePlaintextSecret : List (String × Value) → Bool
  | [] => false
  | (key, value) :: rest =>
    isPlaintextField key value || hasPlaintextSecret value || fieldsHavePlaintextSecret rest
end

/-! ## Texts the redaction leaves alone -/

section Kept

variable {urls : Urls}

/-- An absolute address has a scheme, which ends in a colon. -/
def Urls.NeedsScheme (urls : Urls) : Prop := ∀ text, ':' ∉ text.toList → urls.parse text = none

def Kept (urls : Urls) (text : String) : Prop := sanitizeText urls text = text

/-- A text without a colon that does not look like a secret. -/
def isPlainText (text : String) : Bool := !looksLikeSecret text && !text.toList.contains ':'

theorem sanitizeString_of_isPlainText (hUrls : urls.NeedsScheme) {text : String}
    (h : isPlainText text = true) : sanitizeString urls text = text := by
  simp only [isPlainText, Bool.and_eq_true, Bool.not_eq_true'] at h
  have hColon : ':' ∉ text.toList := by
    intro hMem
    simp [hMem] at h
  simp [sanitizeString, h.1, hUrls text hColon]

theorem kept_of_isPlainText (hUrls : urls.NeedsScheme) {text : String}
    (h : isPlainText text = true) : Kept urls text := by
  have hSecret : looksLikeSecret text = false := by
    simp only [isPlainText, Bool.and_eq_true, Bool.not_eq_true'] at h
    exact h.1
  simp [Kept, sanitizeText, sanitizeString_of_isPlainText hUrls h, hSecret]

end Kept

/-! ## Nothing that was redacted is refused -/

section Refused

variable (urls : Urls)

theorem hasPlaintextSecret_hideSecret (value : Value) :
    hasPlaintextSecret (hideSecret value) = hasPlaintextSecret value := by
  cases value <;> rfl

/-- A name under which an import refuses a text is a name the export hides. -/
theorem isPlaintextField_sanitized (key : String) (value : Value) :
    isPlaintextField key
      (if isSensitiveKey key then .string redacted else hideSecret value) = false := by
  split
  · have hRedacted : isPlaintext redacted = false := by decide
    simp [isPlaintextField, Value.asStr, hRedacted]
  · next hKey =>
    have hName : plaintextNames.contains (toAsciiLowercase key) = false := by
      by_contra hName
      rw [Bool.not_eq_false, List.contains_iff_mem] at hName
      apply hKey
      have hSub : ∀ name ∈ plaintextNames, name ∈ sensitiveNames := by decide
      simp [isSensitiveKey, hSub _ hName]
    rw [isPlaintextField, hName, Bool.false_and]

mutual
theorem hasPlaintextSecret_sanitizeJson :
    (value : Value) → hasPlaintextSecret (sanitizeJson urls value) = false
  | .null => rfl
  | .bool _ => rfl
  | .number _ => rfl
  | .string _ => rfl
  | .array items => itemsHavePlaintextSecret_sanitize items
  | .object fields => fieldsHavePlaintextSecret_sanitize fields

theorem itemsHavePlaintextSecret_sanitize :
    (items : List Value) → itemsHavePlaintextSecret (sanitizeItems urls items) = false
  | [] => rfl
  | value :: rest => by
    rw [sanitizeItems, itemsHavePlaintextSecret, hasPlaintextSecret_sanitizeJson value,
      itemsHavePlaintextSecret_sanitize rest, Bool.false_or]

theorem fieldsHavePlaintextSecret_sanitize :
    (fields : List (String × Value)) →
      fieldsHavePlaintextSecret (sanitizeFields urls fields) = false
  | [] => rfl
  | (key, value) :: rest => by
    have hValue : hasPlaintextSecret
        (if isSensitiveKey key then .string redacted
         else hideSecret (sanitizeJson urls value)) = false := by
      split
      · rfl
      · rw [hasPlaintextSecret_hideSecret, hasPlaintextSecret_sanitizeJson value]
    rw [sanitizeFields, fieldsHavePlaintextSecret, isPlaintextField_sanitized, hValue,
      fieldsHavePlaintextSecret_sanitize rest]
    rfl
end

theorem hasPlaintextSecret_sanitizeMember (value : Value) :
    hasPlaintextSecret (sanitizeMember urls value) = false := by
  rw [sanitizeMember, hasPlaintextSecret_hideSecret, hasPlaintextSecret_sanitizeJson]

end Refused

end AiGateway.Ops
