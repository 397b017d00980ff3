import AiGateway.Domain.Catalog
import AiGateway.Domain.Routing
import AiGateway.Infra.Health

/-!
# The capability matrix

What an operator sees of the runtime routes: one row for each model, route,
source, account and upstream model the resolver gives, with a cell for every
protocol.
-/

namespace AiGateway.Matrix

set_option autoImplicit false

open AiGateway.Catalog AiGateway.Checked AiGateway.Config AiGateway.Health AiGateway.Routing

inductive CapabilityFactSource where
  | runtimeSnapshot
  deriving DecidableEq, Repr

structure RuntimeSourceRef where
  sourceId : String
  displayName : Option String
  deriving DecidableEq, Repr

structure RuntimeAccountRef where
  accountId : String
  displayName : Option String
  enabled : Option Bool
  deriving DecidableEq, Repr

inductive CapabilityRouteStatus where
  | routable
  | unroutable
  deriving DecidableEq, Repr

inductive CapabilityBindingSelection where
  | primary
  | fallback
  deriving DecidableEq, Repr

structure ProtocolConversionHop where
  protocolFrom : Protocol
  protocolTo : Protocol
  mode : ProtocolMode
  adapter : Option String
  deriving DecidableEq, Repr

structure EffectiveProtocolCapability where
  protocolIn : Protocol
  status : CapabilityRouteStatus
  bindingId : Option Int
  selection : Option CapabilityBindingSelection
  selectionRank : Option Nat
  protocolUpstream : Option Protocol
  endpoint : Option String
  mode : Option ProtocolMode
  adapter : Option String
  conversionChain : List ProtocolConversionHop
  effectiveCapabilities : Capabilities
  degraded : Bool
  degradedFeatures : List String
  allowLossyConversion : Option Bool
  error : Option RouteResolutionError

structure RouteCapabilityMatrix where
  routeId : String
  source : RuntimeSourceRef
  account : RuntimeAccountRef
  model : String
  modelDisplayName : String
  upstreamModelId : String
  protocols : List EffectiveProtocolCapability

structure CapabilityMatrixResponse where
  version : String
  factSource : CapabilityFactSource
  snapshotRevision : Int
  snapshotGeneratedAt : DateTime
  data : List RouteCapabilityMatrix

inductive CapabilityMatrixBuildError where
  | notRuntimeSnapshot
  | missingRuntimeBindingId (routeId : String) (protocol : Protocol)
  | invalidRuntimeMode (routeId : String) (bindingId : Int) (mode : String)
  | duplicateRuntimeBinding (routeId : String) (bindingId : Int) (protocol : Protocol)
  deriving DecidableEq, Repr

structure MatrixKey where
  model : String
  routeId : String
  sourceId : String
  accountId : String
  upstreamModelId : String
  deriving DecidableEq, Repr

/-- The order of the fields, each as text. -/
def MatrixKey.before (a b : MatrixKey) : Bool :=
  if a.model ≠ b.model then a.model < b.model
  else if a.routeId ≠ b.routeId then a.routeId < b.routeId
  else if a.sourceId ≠ b.sourceId then a.sourceId < b.sourceId
  else if a.accountId ≠ b.accountId then a.accountId < b.accountId
  else a.upstreamModelId ≤ b.upstreamModelId

structure RouteMatrixBuilder where
  routeId : String
  source : RuntimeSourceRef
  account : RuntimeAccountRef
  model : String
  modelDisplayName : String
  upstreamModelId : String
  protocols : Table Protocol EffectiveProtocolCapability

abbrev MatrixRows := Table MatrixKey RouteMatrixBuilder

abbrev Resolutions := Table (String × Protocol) (Option RouteResolutionError)

/-! ## Cells -/

namespace EffectiveProtocolCapability

def routable (protocolIn : Protocol) (binding : ResolvedBinding) (mode : ProtocolMode)
    (allowLossyConversion : Bool) (selection : CapabilityBindingSelection) (selectionRank : Nat) :
    EffectiveProtocolCapability where
  protocolIn := protocolIn
  status := .routable
  bindingId := some binding.bindingId
  selection := some selection
  selectionRank := some selectionRank
  protocolUpstream := some binding.protocolUpstream
  endpoint := some binding.upstreamEndpoint
  mode := some mode
  adapter := binding.adapter
  conversionChain := [⟨protocolIn, binding.protocolUpstream, mode, binding.adapter⟩]
  effectiveCapabilities := binding.effectiveCapabilities
  degraded := !binding.degradedFeatures.isEmpty
  degradedFeatures := binding.degradedFeatures
  allowLossyConversion := some allowLossyConversion
  error := none

def unroutable (protocolIn : Protocol) (error : RouteResolutionError) :
    EffectiveProtocolCapability where
  protocolIn := protocolIn
  status := .unroutable
  bindingId := none
  selection := none
  selectionRank := none
  protocolUpstream := none
  endpoint := none
  mode := none
  adapter := none
  conversionChain := []
  effectiveCapabilities := {}
  degraded := false
  degradedFeatures := []
  allowLossyConversion := none
  error := some error

end EffectiveProtocolCapability

def runtimeMode (routeId : String) (bindingId : Int) (mode : String) :
    Except CapabilityMatrixBuildError ProtocolMode :=
  if mode = "native" then .ok .native
  else if mode = "adapter" then .ok .adapter
  else .error (.invalidRuntimeMode routeId bindingId mode)

/-! ## Rows -/

section Insert

variable (config : GatewayConfig) (model : PublishedModel) (resolved : ResolvedRoute)

def matrixKey (binding : ResolvedBinding) : MatrixKey where
  model := model.id
  routeId := resolved.routeId
  sourceId := binding.sourceId
  accountId := binding.accountId
  upstreamModelId := binding.upstreamModelId

def newRow (binding : ResolvedBinding) : RouteMatrixBuilder where
  routeId := resolved.routeId
  source :=
    { sourceId := binding.sourceId
      displayName := (config.provider binding.sourceId).map ProviderConfig.name }
  account :=
    { accountId := binding.accountId
      displayName := (config.account binding.accountId).map AccountConfig.displayName
      enabled := (config.account binding.accountId).map AccountConfig.enabled }
  model := model.id
  modelDisplayName := model.displayName
  upstreamModelId := binding.upstreamModelId
  protocols := .empty

def insertBinding (selection : CapabilityBindingSelection) (selectionRank : Nat)
    (binding : ResolvedBinding) (rows : MatrixRows) :
    Except CapabilityMatrixBuildError MatrixRows := do
  let mode ← runtimeMode resolved.routeId binding.bindingId binding.mode
  let key := matrixKey model resolved binding
  let row := (rows.get key).getD (newRow config model resolved binding)
  let cell := EffectiveProtocolCapability.routable resolved.protocolIn binding mode
    resolved.allowLossyConversion selection selectionRank
  ensure ((row.protocols.get resolved.protocolIn).isNone = true)
    (.duplicateRuntimeBinding resolved.routeId binding.bindingId resolved.protocolIn)
  return rows.insert key { row with protocols := row.protocols.insert resolved.protocolIn cell }

/-- The fields of a resolved route that are those of its primary binding. -/
def primaryBinding (bindingId : Int) : ResolvedBinding where
  bindingId := bindingId
  sourceId := resolved.sourceId
  providerId := resolved.providerId
  accountId := resolved.primaryAccountId
  upstreamModelId := resolved.upstreamModelId
  protocolUpstream := resolved.protocolUpstream
  upstreamEndpoint := resolved.upstreamEndpoint
  mode := resolved.mode
  adapter := resolved.adapter
  effectiveCapabilities := resolved.effectiveCapabilities
  degradedFeatures := resolved.degradedFeatures

def insertFallbacks : Nat → List ResolvedBinding → MatrixRows →
    Except CapabilityMatrixBuildError MatrixRows
  | _, [], rows => .ok rows
  | rank, binding :: rest, rows => do
    let rows ← insertBinding config model resolved .fallback rank binding rows
    insertFallbacks (rank + 1) rest rows

def insertResolvedRoute (rows : MatrixRows) : Except CapabilityMatrixBuildError MatrixRows := do
  let bindingId ← require resolved.bindingId
    (.missingRuntimeBindingId resolved.routeId resolved.protocolIn)
  let rows ← insertBinding config model resolved .primary 0 (primaryBinding resolved bindingId) rows
  insertFallbacks config model resolved 1 resolved.fallbackBindings rows

end Insert

/-! ## The matrix -/

def notAvailable (row : RouteMatrixBuilder) (protocol : Protocol) : RouteResolutionError where
  code := "runtime_binding_not_available"
  message := "runtime snapshot has no confirmed, available binding for source '" ++
    row.source.sourceId ++ "' account '" ++ row.account.accountId ++ "' upstream model '" ++
    row.upstreamModelId ++ "' on " ++ protocol.toText
  routeId := some row.routeId

def RouteMatrixBuilder.finish (resolutions : Resolutions) (row : RouteMatrixBuilder) :
    RouteCapabilityMatrix where
  routeId := row.routeId
  source := row.source
  account := row.account
  model := row.model
  modelDisplayName := row.modelDisplayName
  upstreamModelId := row.upstreamModelId
  protocols := Protocol.all.map fun protocol =>
    (row.protocols.get protocol).getD (.unroutable protocol
      (((resolutions.get (row.model, protocol)).bind id).getD (notAvailable row protocol)))

/-- One model and one protocol. -/
def matrixStep (config : GatewayConfig) (resolver : RouteResolver)
    (state : MatrixRows × Resolutions) (asked : PublishedModel × Protocol) :
    Except CapabilityMatrixBuildError (MatrixRows × Resolutions) :=
  match resolver.resolveDetailed asked.2 asked.1.id with
  | .ok resolved => do
    let rows ← insertResolvedRoute config asked.1 resolved state.1
    return (rows, state.2.insert (asked.1.id, asked.2) none)
  | .error error => .ok (state.1, state.2.insert (asked.1.id, asked.2) (some error))

def askedOf (models : List PublishedModel) : List (PublishedModel × Protocol) :=
  models.flatMap fun model => Protocol.all.map fun protocol => (model, protocol)

def sortedRows (rows : MatrixRows) : List RouteMatrixBuilder :=
  (rows.entries.insertionSort fun a b => a.1.before b.1).map Prod.snd

def fromRuntimeSnapshot (config : GatewayConfig) (resolver : RouteResolver)
    (models : List PublishedModel) (snapshotRevision : Int) (snapshotGeneratedAt : DateTime) :
    Except CapabilityMatrixBuildError CapabilityMatrixResponse := do
  ensure (resolver.runtimeRoutes.isSome = true) .notRuntimeSnapshot
  let (rows, resolutions) ←
    (askedOf models).foldlM (matrixStep config resolver) (.empty, .empty)
  return {
    version := "v1"
    factSource := .runtimeSnapshot
    snapshotRevision := snapshotRevision
    snapshotGeneratedAt := snapshotGeneratedAt
    data := (sortedRows rows).map (RouteMatrixBuilder.finish resolutions) }

end AiGateway.Matrix
