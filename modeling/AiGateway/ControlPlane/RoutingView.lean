import AiGateway.Base.Upsert
import AiGateway.ControlPlane.ModelRouting

/-!
# The routing view of a model

The bindings of a model, in the order of their priorities, grouped again into the
lines they were written from.
-/

namespace AiGateway.ControlPlane

set_option autoImplicit false

open AiGateway.Catalog AiGateway.Checked AiGateway.Health AiGateway.Json

structure ModelRoutingLineView where
  sourceId : String
  accountId : String
  upstreamModelId : String
  protocols : List Protocol
deriving DecidableEq

structure ModelRoutingView where
  logicalModel : LogicalModelRow
  lines : List ModelRoutingLineView
  protocols : List Protocol
  strategy : String
  requestTimeoutMs : Option Int
  maxRetries : Option Int

structure RoutingBindingRow where
  sourceId : String
  accountId : String
  upstreamModelId : String
  protocol : Protocol
  routable : Bool
deriving DecidableEq

def sortedProtocols (protocols : List Protocol) : List Protocol :=
  protocols.insertionSort fun a b => a.toText ≤ b.toText

section Rows

variable (t : Tables)

/-- The row a binding contributes to the query, if its joins hold. -/
def routingBindingRow (binding : BindingRow) : Option RoutingBindingRow := do
  let source ← t.source? binding.sourceId
  let account ← t.account? binding.accountId
  guard (account.sourceId = binding.sourceId)
  return {
    sourceId := binding.sourceId
    accountId := binding.accountId
    upstreamModelId := binding.upstreamModelId
    protocol := binding.protocol
    routable := binding.isLive && source.enabled && account.enabled &&
      t.isUsable binding.sourceId binding.upstreamModelId &&
      ((t.capability? binding.sourceId binding.upstreamModelId binding.protocol).any
        fun capability => capability.status = .confirmed && capability.mode.isRoutable) &&
      t.routes.any fun route => route.logicalModelId = some binding.logicalModelId &&
        route.enabled && jsonContains route.protocols binding.protocol.toText }

/-- Falling priority, then the id. -/
def routingOrder (a b : BindingRow) : Bool :=
  if a.priority ≠ b.priority then b.priority ≤ a.priority else a.id ≤ b.id

def routingBindingRows (id : String) : List RoutingBindingRow :=
  ((t.bindings.filter fun binding => binding.logicalModelId = id).insertionSort
    fun a b => routingOrder a b).filterMap (routingBindingRow t)

def routingStrategy (id : String) : String :=
  match ((t.routes.filter fun route => route.logicalModelId = some id).map
    RouteRow.strategy).dedup with
  | [] => "ordered_fallback"
  | [strategy] => strategy
  | _ => "mixed"

end Rows

/-! ## Grouping -/

def isRoutingLine (row : RoutingBindingRow) (line : ModelRoutingLineView) : Prop :=
  line.sourceId = row.sourceId ∧ line.accountId = row.accountId ∧
    line.upstreamModelId = row.upstreamModelId

instance (row : RoutingBindingRow) : DecidablePred (isRoutingLine row) := fun _ =>
  inferInstanceAs (Decidable (_ ∧ _ ∧ _))

def newRoutingLine (row : RoutingBindingRow) : ModelRoutingLineView :=
  ⟨row.sourceId, row.accountId, row.upstreamModelId, []⟩

def addsProtocol (row : RoutingBindingRow) (line : ModelRoutingLineView) : Prop :=
  row.routable = true ∧ row.protocol ∉ line.protocols

instance (row : RoutingBindingRow) : DecidablePred (addsProtocol row) := fun _ =>
  inferInstanceAs (Decidable (_ ∧ _))

def withProtocol (row : RoutingBindingRow) (line : ModelRoutingLineView) : ModelRoutingLineView :=
  if addsProtocol row line then { line with protocols := line.protocols ++ [row.protocol] }
  else line

/-- The lines so far, and the protocols of the model. -/
def addRoutingRow (state : List ModelRoutingLineView × List Protocol) (row : RoutingBindingRow) :
    List ModelRoutingLineView × List Protocol :=
  let line := (state.1.find? fun line => isRoutingLine row line).getD (newRoutingLine row)
  (upsert (isRoutingLine row) (withProtocol row) (withProtocol row (newRoutingLine row)) state.1,
    if addsProtocol row line then addNew state.2 row.protocol else state.2)

def fetchModelRouting (t : Tables) (id : String) : Except ControlPlaneError ModelRoutingView := do
  let logicalModel ← require (t.logicalModel? id) (logicalModelNotFound id)
  let (lines, protocols) := (routingBindingRows t id).foldl addRoutingRow ([], [])
  return {
    logicalModel := logicalModel
    lines := lines.map fun line => { line with protocols := sortedProtocols line.protocols }
    protocols := sortedProtocols protocols
    strategy := routingStrategy t id
    requestTimeoutMs := logicalModel.requestTimeoutMs
    maxRetries := logicalModel.maxRetries }

/-! ## The lines of the view -/

def ModelRoutingLineView.line (view : ModelRoutingLineView) : ModelRoutingLineWrite :=
  ⟨view.sourceId, view.accountId, view.upstreamModelId⟩

def RoutingBindingRow.line (row : RoutingBindingRow) : ModelRoutingLineWrite :=
  ⟨row.sourceId, row.accountId, row.upstreamModelId⟩

def BindingRow.line (binding : BindingRow) : ModelRoutingLineWrite :=
  ⟨binding.sourceId, binding.accountId, binding.upstreamModelId⟩

theorem isRoutingLine_iff {row : RoutingBindingRow} {line : ModelRoutingLineView} :
    isRoutingLine row line ↔ line.line = row.line := by
  simp only [isRoutingLine, ModelRoutingLineView.line, RoutingBindingRow.line,
    ModelRoutingLineWrite.mk.injEq]

theorem line_withProtocol (row : RoutingBindingRow) (line : ModelRoutingLineView) :
    (withProtocol row line).line = line.line := by
  unfold withProtocol
  split <;> rfl

theorem lines_addRoutingRow (state : List ModelRoutingLineView × List Protocol)
    (row : RoutingBindingRow) :
    (addRoutingRow state row).1.map ModelRoutingLineView.line =
      addNew (state.1.map ModelRoutingLineView.line) row.line :=
  keys_upsert (fun _ => isRoutingLine_iff) (line_withProtocol row _) (line_withProtocol row)

theorem lines_foldl_addRoutingRow (rows : List RoutingBindingRow)
    (state : List ModelRoutingLineView × List Protocol) :
    (rows.foldl addRoutingRow state).1.map ModelRoutingLineView.line =
      (rows.map RoutingBindingRow.line).foldl addNew (state.1.map ModelRoutingLineView.line) := by
  induction rows generalizing state with
  | nil => rfl
  | cons row rest ih =>
    rw [List.foldl_cons, ih, lines_addRoutingRow]
    rfl

/-- The lines of the view are those of the rows, in the order in which they first appear. -/
theorem lines_of_fetchModelRouting {t : Tables} {id : String} {view : ModelRoutingView}
    (h : fetchModelRouting t id = .ok view) :
    view.lines.map ModelRoutingLineView.line =
      ((routingBindingRows t id).map RoutingBindingRow.line).foldl addNew [] := by
  obtain ⟨lm, -, hView⟩ := bind_eq_ok.mp h
  rw [← pure_eq_ok.mp hView, List.map_map]
  exact lines_foldl_addRoutingRow (routingBindingRows t id) ([], [])

end AiGateway.ControlPlane
