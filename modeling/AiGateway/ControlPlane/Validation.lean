import AiGateway.ControlPlane.Snapshot

/-!
# Validation of control-plane writes

The checks a write must pass on its own, the checks against the rows it refers
to, and the two checks of the whole database that precede a snapshot.
-/

namespace AiGateway.ControlPlane

set_option autoImplicit false

open AiGateway.Catalog AiGateway.Checked AiGateway.Config AiGateway.Health AiGateway.Json
  AiGateway.Text

structure SourceWrite where
  id : String
  displayName : String
  providerPresetId : String := "custom"
  providerPresetVersion : Int := 1
  baseUrl : String
  endpoints : Table Protocol String := .empty
  authConfig : Value := .null
  protocolCapabilities : Value := .null
  enabled : Bool := true

structure AccountWrite where
  id : String
  sourceId : String
  displayName : String
  credentialEnv : Option String := none
  credentialCiphertext : Option String := none
  enabled : Bool := true
  weight : Int := 100

structure LogicalModelWrite where
  id : String
  publicName : String
  displayName : String
  status : CatalogStatus := .pending
  metadata : Value := .null
  fieldSources : Value := .null
  enabled : Bool := true

structure ModelBindingWrite where
  logicalModelId : String
  sourceId : String
  accountId : String
  upstreamModelId : String
  protocol : Protocol
  status : CatalogStatus := .pending
  enabled : Bool := true
  priority : Int := 0

structure RouteWrite where
  id : String
  logicalModelId : String
  protocols : List Protocol
  strategy : String := "primary_then_weighted_fallback"
  allowLossyConversion : Bool := false
  enabled : Bool := true

structure ModelRoutingLineWrite where
  sourceId : String
  accountId : String
  upstreamModelId : String
  deriving DecidableEq, Repr

structure ModelRoutingWrite where
  publicName : String
  displayName : String
  enabled : Bool
  lines : List ModelRoutingLineWrite
  requestTimeoutMs : Option Int
  maxRetries : Option Int

/-! ## The write alone -/

def validateResourceId (path body kind : String) : Except ControlPlaneError Unit :=
  ensure (path = body) (.validation [kind ++ " id in path and body must match"])

def validateNonempty (value field : String) : List String :=
  if trim value = "" then [field ++ " must not be empty"] else []

/-- An absent object is stored as the empty one. -/
def normalizeObject (value : Value) (field : String) : Except ControlPlaneError Value :=
  match value with
  | .null => .ok (.object [])
  | .object fields => .ok (.object fields)
  | _ => .error (.validation [field ++ " must be a JSON object"])

def sourceUrlValidationMessage (field : String) (error : SourceUrlPolicyError) : String :=
  if error = .invalidUrl then
    field ++ " must be an http(s) URL without credentials, query, or fragment"
  else field ++ " is blocked by the server Source URL policy"

def protocolModeOfName (name : String) : Option ProtocolMode :=
  if name = "native" then some .native
  else if name = "adapter" then some .adapter
  else if name = "unsupported" then some .unsupported
  else none

def protocolModeOfValue : Value → Option ProtocolMode
  | .string name => protocolModeOfName name
  | .object [(name, .null)] => protocolModeOfName name
  | _ => none

/-- An optional member: absent and null both mean none. -/
def optionalOfValue {α : Type} (decode : Value → Option α) : Option Value → Option (Option α)
  | none | some .null => some none
  | some value => (decode value).map some

/-- A capability is a mode alone, or its fields as an object or in order. -/
def protocolCapabilityOfValue (value : Value) : Option ProtocolCapability :=
  (protocolModeOfValue value).map (fun mode => { mode := mode }) |>.orElse fun _ =>
    let fields (mode sourceProtocol adapter : Option Value) : Option ProtocolCapability := do
      let mode ← mode.bind protocolModeOfValue
      let sourceProtocol ← optionalOfValue protocolOfValue sourceProtocol
      let adapter ← optionalOfValue Value.asStr adapter
      return { mode, sourceProtocol, adapter }
    match value with
    | .object entries => fields (Fields.get entries "mode") (Fields.get entries "source_protocol")
        (Fields.get entries "adapter")
    | .array [mode] => fields (some mode) none none
    | .array [mode, sourceProtocol] => fields (some mode) (some sourceProtocol) none
    | .array [mode, sourceProtocol, adapter] =>
      fields (some mode) (some sourceProtocol) (some adapter)
    | _ => none

def matrixOfValue : Value → Option ProtocolCapabilityMatrix
  | .object fields =>
    fields.foldlM (fun matrix entry => do
      let protocol ← protocolOfName entry.1
      let capability ← protocolCapabilityOfValue entry.2
      return matrix.insert protocol capability) .empty
  | _ => none

def validateSourceInput (service : Service) (input : SourceWrite) :
    Except ControlPlaneError Unit :=
  let matrix := matrixOfValue input.protocolCapabilities
  let provider : ProviderConfig :=
    { id := input.id
      name := input.displayName
      baseUrl := input.baseUrl
      endpoints := input.endpoints
      protocolCapabilities := matrix.getD .empty }
  let config : GatewayConfig := { listenAddr := "127.0.0.1:0", providers := [provider] }
  collected
    (validateNonempty input.id "source.id" ++
    validateNonempty input.displayName "source.display_name" ++
    validateNonempty input.providerPresetId "source.provider_preset_id" ++
    (if input.providerPresetVersion ≤ 0 then
      ["source.provider_preset_version must be positive"] else []) ++
    (match service.validateBaseUrl input.baseUrl with
      | .ok () => []
      | .error error => [sourceUrlValidationMessage "source.base_url" error]) ++
    (if isNull input.authConfig || isObject input.authConfig then []
      else ["source.auth_config must be a JSON object"]) ++
    (if isNull input.protocolCapabilities || isObject input.protocolCapabilities then []
      else ["source.protocol_capabilities must be a JSON object"]) ++
    (input.endpoints.entries.flatMap fun entry =>
      if trim entry.2 = "" then
        ["source.endpoints." ++ entry.1.toText ++ " must not be empty"] else []) ++
    (if matrix.isSome then []
      else ["source.protocol_capabilities is invalid: " ++
        service.jsonError input.protocolCapabilities]) ++
    config.validationErrors) .validation

def isSet (value : Option String) : Bool := value.any fun text => trim text ≠ ""

def validateAccountInput (input : AccountWrite) : Except ControlPlaneError Unit :=
  collected
    (validateNonempty input.id "account.id" ++
    validateNonempty input.sourceId "account.source_id" ++
    validateNonempty input.displayName "account.display_name" ++
    (if input.weight ≤ 0 then ["account.weight must be positive"] else []) ++
    (if isSet input.credentialEnv = isSet input.credentialCiphertext then
      ["account must set exactly one of credential_env or credential_ciphertext"] else []))
    .validation

theorem weight_of_validateAccountInput {input : AccountWrite} {u : Unit}
    (h : validateAccountInput input = .ok u) : 0 < input.weight := by
  rw [validateAccountInput, collected_eq_ok] at h
  simp only [List.append_eq_nil_iff] at h
  obtain ⟨⟨-, hWeight⟩, -⟩ := h
  split at hWeight
  · cases hWeight
  · omega

def validateLogicalModelInput (input : LogicalModelWrite) : Except ControlPlaneError Unit :=
  collected
    (validateNonempty input.id "logical_model.id" ++
    validateNonempty input.publicName "logical_model.public_name" ++
    validateNonempty input.displayName "logical_model.display_name" ++
    (if isNull input.metadata || isObject input.metadata then []
      else ["logical_model.metadata must be a JSON object"]) ++
    (if isNull input.fieldSources || isObject input.fieldSources then []
      else ["logical_model.field_sources must be a JSON object"])) .validation

def validateBindingInputShape (input : ModelBindingWrite) : Except ControlPlaneError Unit :=
  collected
    (validateNonempty input.logicalModelId "model_binding.logical_model_id" ++
    validateNonempty input.sourceId "model_binding.source_id" ++
    validateNonempty input.accountId "model_binding.account_id" ++
    validateNonempty input.upstreamModelId "model_binding.upstream_model_id") .validation

def validateRouteInputShape (input : RouteWrite) : Except ControlPlaneError Unit :=
  collected
    (validateNonempty input.id "route.id" ++
    validateNonempty input.logicalModelId "route.logical_model_id" ++
    validateNonempty input.strategy "route.strategy" ++
    (if input.protocols.isEmpty then
      ["route.protocols must contain at least one protocol"] else []) ++
    (if input.protocols.Nodup then []
      else ["route.protocols must not contain duplicates"])) .validation

def validateStatusTransition (current next : CatalogStatus) (kind : String) :
    Except ControlPlaneError Unit :=
  ensure (current.canTransitionTo next)
    (.validation [kind ++ " status cannot transition from " ++ current.debugName ++ " to " ++
      next.debugName ++ "; move unavailable records to pending before reconfirming"])

/-! ## The write and the rows it refers to -/

/-- Whether a text is an element or a member of a JSON value. -/
def jsonContains (value : Value) (text : String) : Bool :=
  match value with
  | .array items => items.any fun item => item.asStr = some text
  | .object fields => (Fields.get fields text).isSome
  | .string s => s = text
  | _ => false

def validateBindingFamilyConstraint (service : Service) (t : Tables) (input : ModelBindingWrite) :
    Except ControlPlaneError Unit :=
  let families := t.bindings.filterMap fun row =>
    if row.logicalModelId = input.logicalModelId ∧ row.isLive ∧ row.sourceId ≠ input.sourceId
    then (t.source? row.sourceId).map SourceRow.providerPresetId
    else none
  match service.limitOne families, (t.source? input.sourceId).map SourceRow.providerPresetId with
  | some existing, some new =>
    ensure (new = existing)
      (.validation ["cross-family binding rejected: logical model '" ++ input.logicalModelId ++
        "' already has enabled bindings from provider family '" ++ existing ++
        "'; cannot add binding from family '" ++ new ++ "'"])
  | _, _ => .ok ()

def validateBindingReference (service : Service) (t : Tables) (input : ModelBindingWrite) :
    Except ControlPlaneError Unit := do
  let missing : ControlPlaneError := .validation
    ["model binding references a missing LogicalModel, Source, Account, SourceModel, or " ++
      "SourceModelCapability"]
  let lm ← require (t.logicalModel? input.logicalModelId) missing
  let source ← require (t.source? input.sourceId) missing
  let account ← require (t.account? input.accountId) missing
  let model ← require (t.sourceModel? input.sourceId input.upstreamModelId) missing
  let capability ←
    require (t.capability? input.sourceId input.upstreamModelId input.protocol) missing
  ensure (account.sourceId = input.sourceId)
    (.validation ["account '" ++ input.accountId ++ "' does not belong to source '" ++
      input.sourceId ++ "'"])
  if input.status = .confirmed ∧ input.enabled then do
    collected
      ((if lm.status = .confirmed ∧ lm.enabled then []
        else ["confirmed enabled binding requires a confirmed enabled LogicalModel"]) ++
      (if source.enabled then [] else ["confirmed enabled binding requires an enabled Source"]) ++
      (if account.enabled then []
        else ["confirmed enabled binding requires an enabled Account"]) ++
      (if model.confirmationStatus = .confirmed ∧ model.availabilityStatus = .available then []
        else ["confirmed enabled binding requires a confirmed available SourceModel"]) ++
      (if capability.status = .confirmed ∧ capability.mode.isRoutable then []
        else ["confirmed enabled binding requires a confirmed native or adapter capability"]))
      .validation
    validateBindingFamilyConstraint service t input
  else pure ()

def validateRouteReference (service : Service) (t : Tables) (input : RouteWrite) :
    Except ControlPlaneError Unit := do
  ensure ((t.logicalModel? input.logicalModelId).isSome)
    (.notFound ("logical model '" ++ input.logicalModelId ++ "' not found"))
  collected
    (input.protocols.flatMap fun protocol =>
      let conflicts := (t.routes.filter fun row =>
        row.logicalModelId = some input.logicalModelId && row.id ≠ input.id && row.enabled &&
          jsonContains row.protocols protocol.toText).map RouteRow.id
      (match if input.enabled then service.limitOne conflicts else none with
        | some conflict => ["route protocol " ++ protocol.toText ++
            " conflicts with enabled route '" ++ conflict ++ "'"]
        | none => []) ++
      if t.bindings.any fun row =>
          row.logicalModelId = input.logicalModelId && row.protocol = protocol &&
          row.status = .confirmed && t.isUsable row.sourceId row.upstreamModelId &&
          (t.capability? row.sourceId row.upstreamModelId row.protocol).any fun capability =>
            capability.status = .confirmed && capability.mode.isRoutable
      then []
      else ["route protocol " ++ protocol.toText ++
        " has no confirmed, available model binding"]) .validation

/-! ## The whole database -/

def validatePersistedSourceUrls (service : Service) (t : Tables) :
    Except ControlPlaneError Unit :=
  let sources := t.sources.insertionSort fun a b => service.collation a.id b.id
  collected
    (sources.filterMap fun row =>
      match service.validateBaseUrl row.baseUrl with
      | .ok () => none
      | .error error =>
        some (sourceUrlValidationMessage ("source '" ++ row.id ++ "' base_url") error))
    .validation

def CapabilityRow.before (collation : String → String → Bool) (a b : CapabilityRow) : Bool :=
  if a.sourceId ≠ b.sourceId then collation a.sourceId b.sourceId
  else if a.upstreamModelId ≠ b.upstreamModelId then
    collation a.upstreamModelId b.upstreamModelId
  else protocolRank a.protocol ≤ protocolRank b.protocol

def adapterChainErrors (t : Tables) (row : CapabilityRow) (sourceProtocol : Protocol)
    (adapter : String) : List String :=
  (match adapterDefinition adapter with
    | some definition =>
      if definition.fromProtocol = row.protocol ∧ definition.toProtocol = sourceProtocol then []
      else ["adapter '" ++ adapter ++ "' implements " ++ definition.fromProtocol.toText ++ " -> " ++
        definition.toProtocol.toText ++ ", not " ++ row.protocol.toText ++ " -> " ++
        sourceProtocol.toText]
    | none => ["unknown adapter '" ++ adapter ++ "'"]) ++
  if (t.capability? row.sourceId row.upstreamModelId sourceProtocol).any fun capability =>
      capability.status = .confirmed && capability.mode = .native then []
  else ["adapter capability " ++ row.sourceId ++ "/" ++ row.upstreamModelId ++ "/" ++
    row.protocol.toText ++ " requires confirmed native source protocol " ++
    sourceProtocol.toText]

def capabilityChainErrors (service : Service) (t : Tables) (row : CapabilityRow)
    (source : SourceRow) : List String :=
  let label := "capability " ++ row.sourceId ++ "/" ++ row.upstreamModelId ++ "/" ++
    row.protocol.toText
  match endpointsOfValue source.endpoints with
  | none => ["source '" ++ row.sourceId ++ "'.endpoints is invalid: " ++
      service.jsonError source.endpoints]
  | some endpoints =>
    let endpointErrors (upstream : Protocol) : List String :=
      if (endpoints.get upstream).any fun endpoint => trim endpoint ≠ "" then []
      else ["source '" ++ row.sourceId ++ "' has no endpoint for upstream protocol " ++
        upstream.toText]
    match row.mode with
    | .native => endpointErrors row.protocol
    | .adapter =>
      match row.sourceProtocol with
      | none => [label ++ " requires source_protocol"]
      | some sourceProtocol =>
        match row.adapter with
        | none => [label ++ " requires adapter"]
        | some adapter =>
          adapterChainErrors t row sourceProtocol adapter ++ endpointErrors sourceProtocol
    | .unknown | .unsupported => []

def validateCapabilityChains (service : Service) (t : Tables) : Except ControlPlaneError Unit :=
  let rows := (t.capabilities.filter fun row =>
    row.status = .confirmed && row.mode.isRoutable).insertionSort fun a b =>
      CapabilityRow.before service.collation a b
  collected
    (rows.flatMap fun row =>
      match t.source? row.sourceId with
      | none => []
      | some source => capabilityChainErrors service t row source) .validation

end AiGateway.ControlPlane
