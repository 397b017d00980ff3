import AiGateway.ControlPlane.Closed
import AiGateway.ControlPlane.Runs
import AiGateway.Proxy.Attribution

/-!
# Requests for published models

A request is refused because its route names an unknown provider or account only
where the configuration lacks them, and the configuration of a built snapshot
never does.
-/

namespace AiGateway.Proxy

set_option autoImplicit false

open AiGateway.Catalog AiGateway.Checked AiGateway.Config AiGateway.ControlPlane AiGateway.Routing

/-- The gateway answers that the route references an unknown provider or account. -/
def UnknownReference : ClientResponse → Prop
  | .upstream _ _ => False
  | .gateway _ code _ => code = "provider_not_found" ∨ code = "account_not_found"

section Answers

variable {env : Env} {config : GatewayConfig} {context : AttemptContext} {route : ResolvedRoute}

theorem known_upstreamRequestFailed (error : TransportError) :
    ¬ UnknownReference (upstreamRequestFailed error) := by
  change ¬ ("upstream_request_failed" = "provider_not_found" ∨
    "upstream_request_failed" = "account_not_found")
  decide

theorem known_unavailableResponse (account : AccountConfig) :
    ¬ UnknownReference (unavailableResponse account) := by
  unfold unavailableResponse
  split <;> simp [UnknownReference]

/-- An attempt either hands on the answer of its upstream or fails in transport. -/
theorem known_responseOr_execute {candidate : FallbackCandidate} {attemptNo : Nat}
    {isFallback : Bool} {w : World} {onError : TransportError → ClientResponse}
    (hOnError : ∀ error, ¬ UnknownReference (onError error)) :
    ¬ UnknownReference
      (responseOr (execute env context candidate attemptNo isFallback w).1.result onError) := by
  rw [execute_result]
  cases answerTo env context candidate w.moment with
  | ok answer => exact id
  | error error => exact hOnError error

/-! ## The weighted policy -/

theorem known_weightedWithoutPrimary (account : AccountConfig) (reason : String) (w : World) :
    ¬ UnknownReference
      (weightedWithoutPrimary env config context route account reason w).response := by
  unfold weightedWithoutPrimary
  dsimp only
  split
  · exact known_unavailableResponse account
  · apply known_responseOr_execute
    intro error
    split
    · exact known_upstreamRequestFailed error
    · exact known_unavailableResponse account

theorem known_weightedAfterAnswer (primary : FallbackCandidate) (attempt : Nat)
    (answer : UpstreamResponse) (first : UsageAttempt) (w : World) :
    ¬ UnknownReference
      (weightedAfterAnswer env config context route primary attempt answer first w).response := by
  unfold weightedAfterAnswer
  dsimp only
  split
  · exact known_responseOr_execute known_upstreamRequestFailed
  · split
    · exact known_responseOr_execute fun _ => id
    · exact id

theorem known_weightedAfterError (primary : FallbackCandidate) (error : TransportError)
    (first : UsageAttempt) (w : World) :
    ¬ UnknownReference
      (weightedAfterError env config context route primary error first w).response := by
  unfold weightedAfterError
  dsimp only
  split
  · exact known_responseOr_execute known_upstreamRequestFailed
  · exact known_upstreamRequestFailed error

theorem known_weightedWithPrimary (primary : FallbackCandidate) (w : World) :
    ¬ UnknownReference (weightedWithPrimary env config context route primary w).response := by
  unfold weightedWithPrimary
  dsimp only
  rw [execute_result]
  cases answerTo env context primary w.moment with
  | ok answer =>
    dsimp only [Except.map]
    split
    · exact known_weightedAfterAnswer primary _ answer _ _
    · exact id
  | error error => exact known_weightedAfterError primary error _ _

theorem known_proxyWeighted (h : Known config route.sourceId route.primaryAccountId) (w : World) :
    ¬ UnknownReference (proxyWeighted env config context route w).response := by
  obtain ⟨provider, account, hProvider, hAccount, -⟩ := h
  unfold proxyWeighted
  simp only [hProvider, hAccount]
  split
  · exact known_weightedWithoutPrimary account _ _
  · split
    · exact known_weightedWithoutPrimary account _ _
    · exact known_weightedWithPrimary _ _

/-! ## The ordered policy -/

/-- The loop keeps no answer about an unknown reference. -/
def KnownLast (s : OrderedState) : Prop :=
  ∀ response, s.lastResponse = some response → ¬ UnknownReference response

theorem knownLast_orderedAttempt (candidate : FallbackCandidate) (s : OrderedState) :
    KnownLast (orderedAttempt env context candidate s).1 := by
  intro response hLast
  unfold orderedAttempt at hLast
  simp only [execute_result] at hLast
  cases hAnswer : answerTo env context candidate s.world.moment with
  | ok answer =>
    rw [hAnswer] at hLast
    cases hLast
    exact id
  | error error =>
    rw [hAnswer] at hLast
    obtain rfl := Option.some.inj hLast
    split <;> simp [transportResponse, UnknownReference]

theorem knownLast_orderedLoop (limit : Nat) (candidates : List FallbackCandidate)
    (s : OrderedState) (h : KnownLast s) :
    KnownLast (orderedLoop env context limit candidates s) := by
  induction candidates generalizing s with
  | nil => exact h
  | cons candidate rest ih =>
    unfold orderedLoop
    dsimp only
    split
    · exact h
    · split
      · exact ih _ h
      · split
        · intro response hLast
          obtain rfl := Option.some.inj hLast
          simp [UnknownReference]
        · split
          · exact ih _ (knownLast_orderedAttempt candidate _)
          · exact knownLast_orderedAttempt candidate _

theorem KnownLast.getD {s : OrderedState} (h : KnownLast s) {response : ClientResponse}
    (hResponse : ¬ UnknownReference response) :
    ¬ UnknownReference (s.lastResponse.getD response) := by
  cases hLast : s.lastResponse with
  | none => exact hResponse
  | some last => exact h last hLast

theorem known_proxyOrdered (w : World) :
    ¬ UnknownReference (proxyOrdered env config context route w).response := by
  unfold proxyOrdered
  dsimp only [finish]
  apply KnownLast.getD
  · apply knownLast_orderedLoop
    intro response hLast
    cases hLast
  · simp [UnknownReference]

theorem known_proxyRoute (h : Known config route.sourceId route.primaryAccountId) (w : World) :
    ¬ UnknownReference (proxyRoute env config context route w).response := by
  unfold proxyRoute
  split
  · exact known_proxyOrdered w
  · exact known_proxyWeighted h w

end Answers

/-- The snapshot is closed, each published model resolves on each of its
protocols, and whatever is resolved names providers and accounts the proxy finds. -/
theorem built_snapshot_closed {service : Service} {t : Tables} {snapshot : RuntimeSnapshot}
    (h : buildSnapshot service t = .ok snapshot) :
    ∃ routes, snapshot.Closed routes ∧
      (∀ model ∈ snapshot.models, ∃ route ∈ routes, route.model = model.id) ∧
      (∀ route ∈ routes, ∃ resolved,
        snapshot.resolver.resolveDetailed route.protocol route.model = .ok resolved) ∧
      ∀ protocol model resolved, snapshot.resolver.resolveDetailed protocol model = .ok resolved →
        Known snapshot.config resolved.sourceId resolved.primaryAccountId ∧
        (∀ binding ∈ resolved.fallbackBindings,
          Known snapshot.config binding.sourceId binding.accountId) ∧
        ∀ env context w, ¬ UnknownReference
          (proxyRoute env snapshot.config context resolved w).response := by
  have hClosed := closed_of_buildSnapshot h
  refine ⟨_, hClosed, ?_, fun route hRoute => hClosed.exists_resolved hRoute, ?_⟩
  · intro model hModel
    have hIds := (hClosed.published model.id).mp (List.mem_map_of_mem hModel)
    obtain ⟨route, hRoute, hName⟩ := List.mem_map.mp hIds
    exact ⟨route, hRoute, hName⟩
  · intro protocol model resolved hResolved
    obtain ⟨hPrimary, hFallbacks⟩ := hClosed.resolved_known hResolved
    exact ⟨hPrimary, hFallbacks, fun _ _ w => known_proxyRoute hPrimary w⟩

theorem built_snapshot_closed_served :
    ∃ t snapshot routes, buildSnapshot Relisted.service t = .ok snapshot ∧
      snapshot.models.length = 1 ∧ snapshot.Closed routes := by
  obtain ⟨run, -, hSnapshot⟩ := exists_of_succeeds (show succeeds
      (perform Relisted.service Relisted.start (Relisted.served.map fun action => (0, action)))
      (fun run => succeeds (buildSnapshot Relisted.service run.2.toTables)
        fun snapshot => snapshot.models.length = 1) = true by decide)
  obtain ⟨snapshot, hBuilt, hModels⟩ := exists_of_succeeds hSnapshot
  obtain ⟨routes, hClosed, -⟩ := built_snapshot_closed hBuilt
  exact ⟨run.2.toTables, snapshot, routes, hBuilt, by simpa using hModels, hClosed⟩

end AiGateway.Proxy
