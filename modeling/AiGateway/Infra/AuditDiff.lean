import AiGateway.Base.Alike
import AiGateway.Base.Members
import AiGateway.Infra.Redaction
import Mathlib.Data.Finset.Union
import Mathlib.Data.List.Destutter
import Mathlib.Data.List.Sort
import Mathlib.Data.String.Basic

/-!
# The summary of a request in the audit log

A request is summed up by the paths and types of its fields, never by their
values, and by the paths of its sensitive members.  The walk over the payload
ends once it has as many fields as a summary may have, and the mark for a
payload with more is set only when it has gone past that.
-/

namespace AiGateway.Audit

set_option autoImplicit false

open AiGateway.Json AiGateway.Text

def maxDiffFields : ℕ := 128

def sensitiveMarkers : List String :=
  ["authorization", "api_key", "apikey", "credential", "ciphertext", "secret", "password", "token",
    "key_hash", "prompt", "response", "signature", "thinking", "body"]

def isSensitiveKey (key : String) : Bool :=
  sensitiveMarkers.any (Ops.contains (toAsciiLowercase key))

def jsonType (value : Value) : String :=
  match value.kind with
  | .null => "null"
  | .bool => "boolean"
  | .number => "number"
  | .string => "string"
  | .array => "array"
  | .object => "object"

/-- The name of a member under the path of its object. -/
def fieldPath (path key : String) : String := if path = "" then key else path ++ "." ++ key

/-- What the walk has found so far: fields in the order of a map, and sensitive members. -/
structure Collected where
  fields : Fields
  sensitive : List String
  ascending : fields.Ascending

namespace Collected

def empty : Collected := ⟨[], [], List.Pairwise.nil⟩

def insert (c : Collected) (path type : String) : Collected where
  fields := Fields.insert c.fields path (.string type)
  sensitive := c.sensitive
  ascending := by
    rw [Fields.insert_eq]
    exact Entries.ascending_insert c.ascending path (.string type)

def push (c : Collected) (path : String) : Collected :=
  { c with sensitive := c.sensitive ++ [path] }

end Collected

mutual
def collectFields (path : String) : Value → Collected → Collected
  | .object fields, c => collectMembers path fields c
  | value, c => if path ≠ "" then c.insert path (jsonType value) else c

/-- The walk over an object ends where enough fields have been found, in it and in
every object around it. -/
def collectMembers (path : String) : List (String × Value) → Collected → Collected
  | [], c => c
  | (key, value) :: rest, c =>
    if isSensitiveKey key then collectMembers path rest (c.push (fieldPath path key))
    else
      let next :=
        if value.kind = .object then collectFields (fieldPath path key) value c
        else c.insert (fieldPath path key) (jsonType value)
      if maxDiffFields ≤ next.fields.length then next else collectMembers path rest next
end

def truncationMarker : String := "_truncated"

/-- Sorted, each path once. -/
def sortedPaths (paths : List String) : List String :=
  (paths.insertionSort (· ≤ ·)).destutter (· ≠ ·)

def summarizeDiff (value : Value) : Value :=
  let collected := collectFields "" value .empty
  let fields :=
    if maxDiffFields < collected.fields.length then
      Fields.insert [] truncationMarker (.string "true")
    else collected.fields
  let sensitive := (sortedPaths collected.sensitive).take maxDiffFields
  .ofFields
    [("changed_fields", .array (fields.map fun entry => .string entry.1)),
      ("field_types", .object fields),
      ("sensitive_fields", .array (sensitive.map .string))]

/-! ## What a payload holds -/

/-- A value of a payload and its path, under no sensitive member. -/
inductive Visible (payload : Value) : String → Value → Prop
  | whole : Visible payload "" payload
  | member {path key : String} {fields : Fields} {value : Value}
    (hObject : Visible payload path (.object fields)) (hMember : (key, value) ∈ fields)
    (hKey : isSensitiveKey key = false) : Visible payload (fieldPath path key) value

/-- The path of a member that is no object. -/
def IsField (payload : Value) (path : String) : Prop :=
  ∃ parent fields key value, Visible payload parent (.object fields) ∧ (key, value) ∈ fields ∧
    isSensitiveKey key = false ∧ value.kind ≠ .object ∧ path = fieldPath parent key

def IsSensitive (payload : Value) (path : String) : Prop :=
  ∃ parent fields key value, Visible payload parent (.object fields) ∧ (key, value) ∈ fields ∧
    isSensitiveKey key = true ∧ path = fieldPath parent key

/-- A line of the full listing of a payload. -/
inductive Entry where
  | field (path type : String)
  | sensitive (path : String)
deriving DecidableEq

mutual
/-- Every field and every sensitive member of a value, in the order of the document. -/
def listing (path : String) : Value → List Entry
  | .object fields => memberListing path fields
  | _ => []

def memberListing (path : String) : List (String × Value) → List Entry
  | [] => []
  | (key, value) :: rest =>
    (if isSensitiveKey key then [.sensitive (fieldPath path key)]
      else if value.kind = .object then listing (fieldPath path key) value
      else [.field (fieldPath path key) (jsonType value)]) ++ memberListing path rest
end

def Entry.fieldPath? : Entry → Option String
  | .field path _ => some path
  | .sensitive _ => none

/-- The paths of the fields in a listing. -/
def fieldPaths (entries : List Entry) : Finset String :=
  (entries.filterMap Entry.fieldPath?).toFinset

end AiGateway.Audit
