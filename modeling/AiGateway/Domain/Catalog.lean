import AiGateway.Base.Json
import AiGateway.Base.Relational
import AiGateway.Base.Table
import AiGateway.Domain.Config

/-!
# The model catalogue

Statuses of catalogue rows, the metadata of a source model with the origin of
each field, and the declaration of a protocol capability.
-/

namespace AiGateway.Catalog

set_option autoImplicit false

open AiGateway.Checked AiGateway.Config AiGateway.Json AiGateway.Text

inductive CatalogStatus where
  | pending
  | confirmed
  | unavailable
  deriving DecidableEq, Repr

namespace CatalogStatus

/-- The name of the variant as a debug formatter prints it. -/
def debugName : CatalogStatus → String
  | .pending => "Pending"
  | .confirmed => "Confirmed"
  | .unavailable => "Unavailable"

def canTransitionTo (current next : CatalogStatus) : Bool :=
  current = next ||
    match current, next with
    | .pending, .confirmed => true
    | .pending, .unavailable => true
    | .confirmed, .unavailable => true
    | .unavailable, .pending => true
    | _, _ => false

end CatalogStatus

inductive CatalogAvailability where
  | unknown
  | available
  | unavailable
  deriving DecidableEq, Repr

inductive SourceProtocolMode where
  | unknown
  | native
  | adapter
  | unsupported
  deriving DecidableEq, Repr

def SourceProtocolMode.isRoutable : SourceProtocolMode → Bool
  | .native | .adapter => true
  | .unknown | .unsupported => false

inductive MetadataSource where
  | upstream
  | preset
  | user
  | unknown
  deriving DecidableEq, Repr

def MetadataSource.name : MetadataSource → String
  | .upstream => "upstream"
  | .preset => "preset"
  | .user => "user"
  | .unknown => "unknown"

def MetadataSource.ofName (name : String) : Option MetadataSource :=
  [MetadataSource.upstream, .preset, .user, .unknown].find? fun source => source.name = name

inductive MetadataField where
  | logicalModelName
  | displayName
  | contextWindow
  | maxInputTokens
  | maxOutputTokens
  | inputModalities
  | outputModalities
  | tools
  | thinking
  | webSearch
  | structuredOutput
  | streaming
  | usage
  deriving DecidableEq, Repr

namespace MetadataField

/-- In the order of declaration, which is the order of the maps keyed by it. -/
def all : List MetadataField :=
  [.logicalModelName, .displayName, .contextWindow, .maxInputTokens, .maxOutputTokens,
    .inputModalities, .outputModalities, .tools, .thinking, .webSearch, .structuredOutput,
    .streaming, .usage]

def name : MetadataField → String
  | .logicalModelName => "logical_model_name"
  | .displayName => "display_name"
  | .contextWindow => "context_window"
  | .maxInputTokens => "max_input_tokens"
  | .maxOutputTokens => "max_output_tokens"
  | .inputModalities => "input_modalities"
  | .outputModalities => "output_modalities"
  | .tools => "tools"
  | .thinking => "thinking"
  | .webSearch => "web_search"
  | .structuredOutput => "structured_output"
  | .streaming => "streaming"
  | .usage => "usage"

def ofName (name : String) : Option MetadataField := all.find? fun field => field.name = name

def isFeature : MetadataField → Bool
  | .tools | .thinking | .webSearch | .structuredOutput | .streaming | .usage => true
  | _ => false

def unknownValue (field : MetadataField) : Value :=
  if field.isFeature then .string "unknown" else .null

end MetadataField

inductive CapabilitySupport where
  | supported
  | unsupported
  | unknown
  deriving DecidableEq, Repr

def CapabilitySupport.name : CapabilitySupport → String
  | .supported => "supported"
  | .unsupported => "unsupported"
  | .unknown => "unknown"

def CapabilitySupport.ofName (name : String) : Option CapabilitySupport :=
  [CapabilitySupport.supported, .unsupported, .unknown].find? fun support => support.name = name

inductive CatalogError where
  | json
  | invalidMetadata (message : String)
  | invalidState (message : String)
  deriving DecidableEq, Repr

abbrev MetadataValues := Table MetadataField Value

def isNonemptyText (value : Value) : Bool :=
  value.asStr.any fun text => trim text ≠ ""

def isNull : Value → Bool
  | .null => true
  | _ => false

def isObject : Value → Bool
  | .object _ => true
  | _ => false

namespace MetadataValues

def isValid (field : MetadataField) (value : Value) : Bool :=
  match field with
  | .logicalModelName | .displayName => isNull value || isNonemptyText value
  | .contextWindow | .maxInputTokens | .maxOutputTokens =>
    isNull value || value.asI64.any fun n => 0 < n
  | .inputModalities | .outputModalities =>
    isNull value || value.asArray.any fun items => items.all isNonemptyText
  | _ => value.asStr.any fun text => text ∈ ["supported", "unsupported", "unknown"]

/-- The first field, in field order, whose value is not of its kind. -/
def validate (values : MetadataValues) : Except CatalogError Unit :=
  match MetadataField.all.find? fun field =>
      (values.get field).any fun value => !isValid field value with
  | none => .ok ()
  | some field =>
    .error (.invalidMetadata ("invalid value for metadata field '" ++ field.name ++ "'"))

def toValue (values : MetadataValues) : Value :=
  .ofFields (values.entries.map fun entry => (entry.1.name, entry.2))

def ofValue : Value → Except CatalogError MetadataValues
  | .object fields =>
    fields.foldlM (fun values entry =>
      match MetadataField.ofName entry.1 with
      | some field => .ok (values.insert field entry.2)
      | none => .error .json) .empty
  | _ => .error .json

end MetadataValues

abbrev FieldSources := Table MetadataField MetadataSource

namespace FieldSources

def toValue (sources : FieldSources) : Value :=
  .ofFields (sources.entries.map fun entry => (entry.1.name, .string entry.2.name))

def ofValue : Value → Except CatalogError FieldSources
  | .object fields =>
    fields.foldlM (fun sources entry =>
      match MetadataField.ofName entry.1, entry.2.asStr.bind MetadataSource.ofName with
      | some field, some source => .ok (sources.insert field source)
      | _, _ => .error .json) .empty
  | _ => .error .json

end FieldSources

structure CatalogMetadata where
  values : MetadataValues
  fieldSources : FieldSources

namespace CatalogMetadata

def unknown : CatalogMetadata where
  values := MetadataField.all.foldl (fun t field => t.insert field field.unknownValue) .empty
  fieldSources := MetadataField.all.foldl (fun t field => t.insert field .unknown) .empty

def isUnknownValue (field : MetadataField) (value : Value) : Bool :=
  isNull value || (field.isFeature && value.asStr = some "unknown")

/-- One field of the values laid over the metadata.  A value that says nothing
does not replace one whose origin is known, unless a user wrote it. -/
def applyValue (source : MetadataSource) (metadata : CatalogMetadata) (field : MetadataField)
    (value : Value) : CatalogMetadata :=
  if isUnknownValue field value ∧ source ≠ .user ∧
      metadata.fieldSources.get field ≠ some .unknown then metadata
  else
    { values := metadata.values.insert field value
      fieldSources := metadata.fieldSources.insert field
        (if isUnknownValue field value ∧ source ≠ .user then .unknown else source) }

def applyValues (metadata : CatalogMetadata) (values : MetadataValues) (source : MetadataSource) :
    CatalogMetadata :=
  MetadataField.all.foldl (fun metadata field =>
    match values.get field with
    | some value => applyValue source metadata field value
    | none => metadata) metadata

def resolve (upstream : MetadataValues) (preset : Option MetadataValues) :
    Except CatalogError CatalogMetadata := do
  MetadataValues.validate upstream
  match preset with
  | some preset =>
    MetadataValues.validate preset
    return (unknown.applyValues upstream .upstream).applyValues preset .preset
  | none => return unknown.applyValues upstream .upstream

def applyUserOverrides (metadata : CatalogMetadata) (overrides : MetadataValues) :
    Except CatalogError CatalogMetadata := do
  MetadataValues.validate overrides
  return metadata.applyValues overrides .user

/-- A confirmed model keeps its metadata; otherwise the fields a user wrote are
put back over the refreshed ones. -/
def refreshedPreservingUserFields (metadata : CatalogMetadata) (confirmed : Bool)
    (upstream : MetadataValues) (preset : Option MetadataValues) :
    Except CatalogError CatalogMetadata :=
  if confirmed then .ok metadata
  else do
    let refreshed ← resolve upstream preset
    return MetadataField.all.foldl (fun refreshed field =>
      match metadata.fieldSources.get field, metadata.values.get field with
      | some .user, some value =>
        { values := refreshed.values.insert field value
          fieldSources := refreshed.fieldSources.insert field .user }
      | _, _ => refreshed) refreshed

def toJson (metadata : CatalogMetadata) : Value × Value :=
  (MetadataValues.toValue metadata.values, FieldSources.toValue metadata.fieldSources)

def fromJson (values fieldSources : Value) : Except CatalogError CatalogMetadata := do
  let values ← MetadataValues.ofValue values
  let fieldSources ← FieldSources.ofValue fieldSources
  MetadataValues.validate values
  return { values, fieldSources }

end CatalogMetadata

structure ModelPresetRef where
  id : String
  version : Int
  deriving DecidableEq, Repr

structure SourceModelCapabilityInput where
  sourceId : String
  upstreamModelId : String
  protocol : Protocol
  status : CatalogStatus
  mode : SourceProtocolMode
  sourceProtocol : Option Protocol
  adapter : Option String
  featureCapabilities : Table String CapabilitySupport
  fieldSource : MetadataSource
  observedAt : Int

def SourceModelCapabilityInput.validate (input : SourceModelCapabilityInput) :
    Except CatalogError Unit := do
  ensure (¬ (input.status = .confirmed ∧ input.mode = .unknown))
    (.invalidState "unknown protocol capability cannot be confirmed")
  match input.mode with
  | .adapter =>
    let sourceProtocol ← require input.sourceProtocol
      (.invalidState "adapter capability requires source_protocol")
    let adapter ← require (input.adapter.filter fun name => trim name ≠ "")
      (.invalidState "adapter capability requires adapter")
    let definition ← require (adapterDefinition adapter)
      (.invalidState ("unknown adapter '" ++ adapter ++ "'"))
    ensure (definition.fromProtocol = input.protocol ∧ definition.toProtocol = sourceProtocol)
      (.invalidState ("adapter '" ++ adapter ++ "' does not implement " ++
        input.protocol.toText ++ " -> " ++ sourceProtocol.toText))
  | .native | .unsupported | .unknown =>
    ensure (input.sourceProtocol = none ∧ input.adapter = none)
      (.invalidState "only adapter capability may set source_protocol and adapter")

structure PublishedModel where
  id : String
  displayName : String
  accountIds : List String
  deriving DecidableEq, Repr

end AiGateway.Catalog
