import AiGateway.Base.Bounded
import AiGateway.Base.Order
import AiGateway.ControlPlane.DiscoveryApplied

/-!
# Asking an upstream for its models

A discovery reads the upstream's answer within a limit, finds the models in it by the paths
of the source's preset, and applies them to the catalogue.  Whatever goes wrong on the way is
recorded as a failed run.  The preset, the credential and the request are read before, and
an answer is all that comes of them here.
-/

namespace AiGateway.ControlPlane.ModelDiscovery

set_option autoImplicit false

open AiGateway.Bounded AiGateway.Catalog AiGateway.Checked
  AiGateway.Health AiGateway.Json AiGateway.Text

def maxDiscoveryResponseBytes : Nat := 2 * 1024 * 1024

structure SafeFailure where
  code : String
  message : String
  httpStatus : Option Int
  deriving DecidableEq, Repr

/-- What broke an exchange off. -/
inductive TransportError where
  | policyViolation
  | timeout
  | connect
  | other
  deriving DecidableEq, Repr

namespace SafeFailure

def transport : TransportError → SafeFailure
  | .policyViolation => ⟨"source_url_blocked", "source URL is blocked by server policy", none⟩
  | .timeout => ⟨"upstream_timeout", "upstream request timed out", none⟩
  | .connect => ⟨"upstream_connect_failed", "upstream connection failed", none⟩
  | .other => ⟨"upstream_request_failed", "upstream request failed", none⟩

def http (status : Nat) : SafeFailure :=
  ⟨"upstream_http_error", "upstream returned a non-success HTTP status", some status⟩

def tooLarge (status : Nat) : SafeFailure :=
  ⟨"discovery_response_too_large", "upstream model-list response exceeded the size limit",
    some status⟩

def invalidJson (status : Nat) : SafeFailure :=
  ⟨"invalid_discovery_json", "upstream model-list response was not valid JSON", some status⟩

def invalidShape : SafeFailure :=
  ⟨"invalid_discovery_shape", "upstream model-list response did not match the preset parser",
    some 200⟩

def duplicateModel : SafeFailure :=
  ⟨"duplicate_discovered_model", "upstream model-list response contained duplicate model IDs",
    some 200⟩

def invalidMetadata : SafeFailure :=
  ⟨"invalid_discovery_metadata", "upstream model metadata did not match the preset parser",
    some 200⟩

def credentialUnavailable : SafeFailure :=
  ⟨"credential_unavailable", "account credential environment variable is unavailable", none⟩

def unsupported (reason : String) : SafeFailure := ⟨"discovery_unsupported", reason, none⟩

end SafeFailure

/-- `contentLength` is what the header says of the body. -/
structure Response where
  status : Nat
  contentLength : Option Nat
  body : Chunked UInt8 TransportError

/-- The library's reader of JSON is `parse`. -/
def readJsonLimited (parse : Bytes → Option Value) (response : Response) :
    Except SafeFailure Value := do
  ensure (response.contentLength.all (· ≤ maxDiscoveryResponseBytes)) (.tooLarge response.status)
  let body ← readChunks maxDiscoveryResponseBytes (.tooLarge response.status)
    (response.body.mapError SafeFailure.transport)
  require (parse body) (.invalidJson response.status)

/-! ## The models of an answer -/

structure DiscoveryParser where
  listPath : String
  idPath : String
  metadataPaths : Table MetadataField String

structure DiscoveredModel where
  id : String
  snapshot : Value
  metadata : MetadataValues

def valueAtPath (value : Value) (path : String) : Option Value :=
  (((path.toList.splitOn '.').map String.ofList).filter (· ≠ "")).foldlM Value.get value

def fromFields (fields : List (MetadataField × Value)) :
    Except Catalog.CatalogError MetadataValues := do
  let values : MetadataValues :=
    fields.foldl (fun values field => values.insert field.1 field.2) .empty
  MetadataValues.validate values
  return values

namespace DiscoveryParser

variable (parser : DiscoveryParser)

def fields (item : Value) : List (MetadataField × Value) :=
  MetadataField.all.filterMap fun field =>
    (parser.metadataPaths.get field).bind fun path =>
      (valueAtPath item path).map fun value => (field, value)

def modelId (item : Value) : Option String :=
  ((valueAtPath item parser.idPath).bind Value.asStr).filter fun id => trim id ≠ ""

def parseModel (parsed : List DiscoveredModel) (item : Value) :
    Except SafeFailure (List DiscoveredModel) := do
  ensure (isObject item) .invalidShape
  let id ← require (parser.modelId item) .invalidShape
  ensure (id ∉ parsed.map DiscoveredModel.id) .duplicateModel
  let metadata ← (fromFields (parser.fields item)).mapError fun _ => .invalidMetadata
  return parsed ++ [⟨id, item, metadata⟩]

/-- The models are kept in the order of their ids. -/
def parseDiscoveredModels (raw : Value) : Except SafeFailure (List DiscoveredModel) := do
  let list ← require ((valueAtPath raw parser.listPath).bind Value.asArray) .invalidShape
  let parsed ← list.foldlM parser.parseModel []
  return parsed.insertionSort fun a b => a.id ≤ b.id

end DiscoveryParser

structure Listing where
  httpStatus : Nat
  raw : Value
  models : List DiscoveredModel

def Listing.ids (listing : Listing) : List String := listing.models.map DiscoveredModel.id

def fetchListing (parse : Bytes → Option Value) (parser : DiscoveryParser)
    (answer : Except TransportError Response) : Except SafeFailure Listing :=
  match answer with
  | .error error => .error (.transport error)
  | .ok response => do
    ensure (200 ≤ response.status ∧ response.status ≤ 299) (.http response.status)
    let raw ← readJsonLimited parse response
    let models ← parser.parseDiscoveredModels raw
    return ⟨response.status, raw, models⟩

/-! ## The catalogue -/

inductive DiscoveryStatus where
  | succeeded
  | failed
  | unsupported
  deriving DecidableEq, Repr

structure DiscoveryRun where
  sourceId : String
  accountId : Option String
  providerPresetId : String
  providerPresetVersion : Int
  status : DiscoveryStatus
  rawSnapshot : Option Value
  diff : DiscoveryDiff
  discoveredModelCount : Nat
  httpStatus : Option Int
  latencyMs : Nat
  errorCode : Option String
  errorMessage : Option String
  requestedBy : String
  startedAt : DateTime
  completedAt : DateTime

/-- The checks of the table. -/
def DiscoveryRun.meetsChecks (run : DiscoveryRun) : Bool :=
  run.httpStatus.all (fun status => 100 ≤ status && status ≤ 599) &&
    decide (run.startedAt ≤ run.completedAt) &&
    match run.status with
    | .succeeded => run.rawSnapshot.isSome && run.errorCode.isNone && run.errorMessage.isNone
    | .failed | .unsupported =>
      run.rawSnapshot.isNone && run.errorCode.isSome && run.errorMessage.isSome

structure Catalogue where
  db : Db
  runs : List DiscoveryRun

def Catalogue.insertRun (catalogue : Catalogue) (run : DiscoveryRun) :
    Except CatalogError Catalogue :=
  if run.meetsChecks then .ok { catalogue with runs := catalogue.runs ++ [run] }
  else .error .database

structure DiscoveryCall where
  sourceId : String
  accountId : String
  requestedBy : String
  startedAt : DateTime
  completedAt : DateTime
  latencyMs : Nat

/-- What the preset and the account allow, and what comes of the request. -/
inductive Attempt where
  | unsupported (reason : String)
  | noCredential
  | sent (parser : DiscoveryParser) (answer : Except TransportError Response)

structure DiscoveryExecution where
  run : DiscoveryRun
  diff : DiscoveryDiff
  models : List SourceModelRow

def normalizedActor (value : String) : String :=
  let value := trim value
  if value = "" then "admin_api" else String.ofList (value.toList.take 128)

/-- Whether a JSON value has a text as a key, an item or its whole: the operator `?`. -/
def hasText (value : Value) (text : String) : Bool :=
  match value with
  | .object fields => fields.any fun field => field.1 = text
  | .array items => items.any fun item => item.asStr = some text
  | .string s => s = text
  | _ => false

/-- The last version of the presets that know the model, and the first by its id. -/
def matchModelPreset (collation : String → String → Bool) (t : Tables) (upstreamModelId : String) :
    Option ModelPresetRow :=
  ((t.modelPresets.filter fun row =>
      row.canonicalModelId = upstreamModelId || hasText row.aliases upstreamModelId).insertionSort
    fun a b => if a.version = b.version then collation a.id b.id else b.version ≤ a.version).head?

def recordDiscoveryFailure (call : DiscoveryCall) (status : DiscoveryStatus)
    (failure : SafeFailure) (catalogue : Catalogue) :
    Except CatalogError (Catalogue × DiscoveryExecution) := do
  ensure (trim failure.code ≠ "" ∧ trim failure.message ≠ "" ∧ call.startedAt ≤ call.completedAt)
    (.invalidState "invalid discovery failure audit record")
  let source ← require (catalogue.db.source? call.sourceId)
    (.notFound ("source " ++ call.sourceId ++ " not found"))
  validateAccountForSource catalogue.db.toTables call.sourceId (some call.accountId)
  let run : DiscoveryRun :=
    { sourceId := call.sourceId
      accountId := some call.accountId
      providerPresetId := source.providerPresetId
      providerPresetVersion := source.providerPresetVersion
      status
      rawSnapshot := none
      diff := {}
      discoveredModelCount := 0
      httpStatus := failure.httpStatus
      latencyMs := call.latencyMs
      errorCode := some failure.code
      errorMessage := some failure.message
      requestedBy := normalizedActor call.requestedBy
      startedAt := call.startedAt
      completedAt := call.completedAt }
  let catalogue ← catalogue.insertRun run
  return (catalogue, { run, diff := {}, models := [] })

section Service

variable (parse : Bytes → Option Value) (collation : String → String → Bool) (now : DateTime)

def refreshOf (call : DiscoveryCall) (t : Tables) (model : DiscoveredModel) :
    Except CatalogError SourceModelRefresh :=
  let refresh : SourceModelRefresh :=
    { sourceId := call.sourceId
      upstreamModelId := model.id
      rawSnapshot := model.snapshot
      upstreamMetadata := model.metadata
      matchedPreset := none
      presetMetadata := none
      discoveredAt := call.completedAt }
  match matchModelPreset collation t model.id with
  | none => .ok refresh
  | some record => do
    let metadata ← domainCheck (CatalogMetadata.fromJson record.metadata record.fieldSources)
    return { refresh with
      matchedPreset := some ⟨record.id, record.version⟩
      presetMetadata := some metadata.values }

def applyInput (call : DiscoveryCall) (listing : Listing) (models : List SourceModelRefresh) :
    DiscoveryApplyInput where
  sourceId := call.sourceId
  accountId := some call.accountId
  rawSnapshot := listing.raw
  models := models
  httpStatus := listing.httpStatus
  latencyMs := call.latencyMs
  startedAt := call.startedAt
  completedAt := call.completedAt

/-- The rows and the record of the run are written in one transaction. -/
def applyListing (call : DiscoveryCall) (source : SourceRow) (listing : Listing)
    (catalogue : Catalogue) : Except CatalogError (Catalogue × DiscoveryExecution) := do
  let models ← listing.models.mapM (refreshOf collation call catalogue.db.toTables)
  let result ← applyDiscoveryDiff now (applyInput call listing models) catalogue.db
  let run : DiscoveryRun :=
    { sourceId := call.sourceId
      accountId := some call.accountId
      providerPresetId := source.providerPresetId
      providerPresetVersion := source.providerPresetVersion
      status := .succeeded
      rawSnapshot := some listing.raw
      diff := result.diff
      discoveredModelCount := models.length
      httpStatus := some listing.httpStatus
      latencyMs := call.latencyMs
      errorCode := none
      errorMessage := none
      requestedBy := normalizedActor call.requestedBy
      startedAt := call.startedAt
      completedAt := call.completedAt }
  let catalogue ← Catalogue.insertRun ⟨result.db, catalogue.runs⟩ run
  return (catalogue, { run, diff := result.diff, models := result.models })

def discover (call : DiscoveryCall) (attempt : Attempt) (catalogue : Catalogue) :
    Except CatalogError (Catalogue × DiscoveryExecution) := do
  let source ← require (catalogue.db.source? call.sourceId)
    (.notFound ("source " ++ call.sourceId ++ " not found"))
  match attempt with
  | .unsupported reason =>
    recordDiscoveryFailure call .unsupported (.unsupported reason) catalogue
  | .noCredential => do
    validateAccountForSource catalogue.db.toTables call.sourceId (some call.accountId)
    recordDiscoveryFailure call .failed .credentialUnavailable catalogue
  | .sent parser answer => do
    validateAccountForSource catalogue.db.toTables call.sourceId (some call.accountId)
    match fetchListing parse parser answer with
    | .error failure => recordDiscoveryFailure call .failed failure catalogue
    | .ok listing => applyListing collation now call source listing catalogue

end Service

end AiGateway.ControlPlane.ModelDiscovery
