import Mathlib.Data.List.Destutter
import Mathlib.Data.Prod.Lex
import Mathlib.Order.Nat
import AiGateway.Infra.SourceUrlSafety

/-!
# Requests and their redirects

A request to a source goes to a URL, and on to each URL that a response redirects it to.
Every time the client connects to the address that the host is, or to one that the host
name resolves to at that moment.
-/

namespace AiGateway.SourceUrl

set_option autoImplicit false

open AiGateway.Net AiGateway.Checked SourceUrlPolicy

def maxRedirects : Nat := 5

def defaultPort (scheme : String) : Option UInt16 :=
  if scheme = "http" ∨ scheme = "ws" then some 80
  else if scheme = "https" ∨ scheme = "wss" then some 443
  else if scheme = "ftp" then some 21
  else none

def Url.portOrKnownDefault (url : Url) : Option UInt16 := url.port.or (defaultPort url.scheme)

def sameOrigin (left right : Url) : Bool :=
  decide (left.scheme = right.scheme) && decide (left.hostStr = right.hostStr) &&
    decide (left.portOrKnownDefault = right.portOrKnownDefault)

/-- IPv4 addresses come first, then the addresses as numbers, then the ports. -/
def socketKey (address : IpAddr × UInt16) : Nat ×ₗ Nat ×ₗ Nat :=
  match address.1 with
  | .v4 ip => toLex (4, toLex (ip.toNat, address.2.toNat))
  | .v6 ip => toLex (6, toLex (ip.toNat, address.2.toNat))

def sortedAddresses (addresses : List (IpAddr × UInt16)) : List (IpAddr × UInt16) :=
  (addresses.insertionSort fun a b => socketKey a ≤ socketKey b).destutter (· ≠ ·)

namespace SourceUrlPolicy

section Parsed

variable (parseUrl : String → Option Url) (policy : SourceUrlPolicy)

def validateBaseUrl (value : String) : Except SourceUrlPolicyError Url :=
  match parseUrl value with
  | none => .error .invalidUrl
  | some url => do
    policy.validateUrlCommon url
    if url.query.isSome || url.fragment.isSome then .error .invalidUrl else .ok url

def parseRequestUrl (value : String) : Except SourceUrlPolicyError Url :=
  match parseUrl value with
  | none => .error .invalidUrl
  | some url => do
    policy.validateRequestUrl url
    .ok url

end Parsed

variable (policy : SourceUrlPolicy)

/-- `previous` are all URLs of the request so far, `url` is where it is redirected to. -/
def redirectPolicy (previous : List Url) (url : Url) : Except SourceUrlPolicyError Unit :=
  let blocked := decide (maxRedirects < previous.length) || previous.contains url ||
    previous.head?.all (fun initial => !sameOrigin initial url) ||
    !(policy.validateRequestUrl url).isOk
  if blocked then .error .redirectBlocked else .ok ()

/-- `answer` is what the system's resolver tells of the host, if it tells anything. -/
def resolve (host : String) (answer : Option (List (IpAddr × UInt16))) :
    Except SourceUrlPolicyError (List (IpAddr × UInt16)) :=
  match answer with
  | none => .error .dnsResolutionFailed
  | some answer => do
    let addresses := sortedAddresses answer
    policy.validateResolvedAddresses host addresses
    .ok addresses

end SourceUrlPolicy

/-! ## Runs -/

/-- The client asks no resolver for a host that is an address. -/
inductive Connects (policy : SourceUrlPolicy) (url : Url) : IpAddr → Prop
  | address {ip : IpAddr} (host : url.Literal ip) : Connects policy url ip
  | name {name : String} {answer addresses : List (IpAddr × UInt16)} {address : IpAddr × UInt16}
      (host : url.host = some (.domain name))
      (resolved : policy.resolve name (some answer) = .ok addresses)
      (chosen : address ∈ addresses) : Connects policy url address.1

structure Hop where
  url : Url
  address : IpAddr

/-- A request that got as far as these connections.  Each response may redirect it anywhere. -/
inductive Exchange (policy : SourceUrlPolicy) : List Hop → Prop
  | request {url : Url} {address : IpAddr} (valid : policy.validateRequestUrl url = .ok ())
      (connects : Connects policy url address) : Exchange policy [⟨url, address⟩]
  | redirect {hops : List Hop} {url : Url} {address : IpAddr} (before : Exchange policy hops)
      (follow : policy.redirectPolicy (hops.map Hop.url) url = .ok ())
      (connects : Connects policy url address) : Exchange policy (hops ++ [⟨url, address⟩])

/-! ## One redirect -/

theorem sameOrigin_iff {left right : Url} :
    sameOrigin left right = true ↔ left.scheme = right.scheme ∧ left.hostStr = right.hostStr ∧
      left.portOrKnownDefault = right.portOrKnownDefault := by
  simp only [sameOrigin, Bool.and_eq_true, decide_eq_true_eq, and_assoc]

theorem isOk_iff {result : Except SourceUrlPolicyError Unit} :
    result.isOk = true ↔ result = .ok () := by
  cases result with
  | error error => simp [Except.isOk, Except.toBool]
  | ok value => simp [Except.isOk, Except.toBool]

theorem redirectPolicy_ok_iff {policy : SourceUrlPolicy} {previous : List Url} {url : Url} :
    policy.redirectPolicy previous url = .ok () ↔
      previous.length ≤ maxRedirects ∧ url ∉ previous ∧
        (∃ initial, previous.head? = some initial ∧ sameOrigin initial url = true) ∧
        policy.validateRequestUrl url = .ok () := by
  rw [← @isOk_iff (policy.validateRequestUrl url), redirectPolicy]
  cases previous with
  | nil => simp
  | cons initial rest =>
    cases sameOrigin initial url <;> cases (policy.validateRequestUrl url).isOk <;>
      simp [and_assoc]

/-! ## One resolution -/

theorem socketKey_injective : Function.Injective socketKey := by
  rintro ⟨ip, port⟩ ⟨ip', port'⟩ h
  cases ip with
  | v4 ip =>
    cases ip' with
    | v4 ip' =>
      obtain ⟨_, hIp, hPort⟩ : 4 = 4 ∧ ip.toNat = ip'.toNat ∧ port.toNat = port'.toNat := by
        simpa [socketKey] using h
      rw [Ipv4Addr.toNat_inj hIp, UInt16.toNat_inj.mp hPort]
    | v6 ip' => simp [socketKey] at h
  | v6 ip =>
    cases ip' with
    | v4 ip' => simp [socketKey] at h
    | v6 ip' =>
      obtain ⟨_, hIp, hPort⟩ : 6 = 6 ∧ ip.toNat = ip'.toNat ∧ port.toNat = port'.toNat := by
        simpa [socketKey] using h
      rw [Ipv6Addr.toNat_inj hIp, UInt16.toNat_inj.mp hPort]

theorem sortedAddresses_eq_dedup (addresses : List (IpAddr × UInt16)) :
    sortedAddresses addresses =
      (addresses.insertionSort fun a b => socketKey a ≤ socketKey b).dedup := by
  have : Std.Antisymm fun a b : IpAddr × UInt16 => socketKey a ≤ socketKey b :=
    ⟨fun _ _ hLe hGe => socketKey_injective (le_antisymm hLe hGe)⟩
  have : Std.Total fun a b : IpAddr × UInt16 => socketKey a ≤ socketKey b :=
    ⟨fun a b => le_total (socketKey a) (socketKey b)⟩
  have : IsTrans (IpAddr × UInt16) fun a b => socketKey a ≤ socketKey b :=
    ⟨fun _ _ _ hLeft hRight => le_trans hLeft hRight⟩
  exact (List.pairwise_insertionSort _ addresses).destutter_eq_dedup

theorem mem_sortedAddresses {addresses : List (IpAddr × UInt16)} {address : IpAddr × UInt16} :
    address ∈ sortedAddresses addresses ↔ address ∈ addresses := by
  rw [sortedAddresses_eq_dedup, List.mem_dedup, List.mem_insertionSort]

theorem nodup_sortedAddresses (addresses : List (IpAddr × UInt16)) :
    (sortedAddresses addresses).Nodup := by
  rw [sortedAddresses_eq_dedup]
  exact List.nodup_dedup _

theorem resolve_eq_ok {policy : SourceUrlPolicy} {host : String}
    {answer : Option (List (IpAddr × UInt16))} {addresses : List (IpAddr × UInt16)}
    (h : policy.resolve host answer = .ok addresses) :
    ∃ found, answer = some found ∧ addresses = sortedAddresses found ∧
      policy.validateResolvedAddresses host addresses = .ok () := by
  cases answer with
  | none => cases h
  | some found =>
    obtain ⟨_, hValid, hSame⟩ := bind_eq_ok.mp h
    cases hSame
    exact ⟨found, rfl, rfl, hValid⟩

/-! ## Whole exchanges -/

section Listed

variable {parseUrl : String → Option Url} {parseNet : String → Option IpNet} {value : String}
variable {policy : SourceUrlPolicy}

/-- What a connection may be opened to on behalf of a URL. -/
structure SafeHop (parseUrl : String → Option Url) (parseNet : String → Option IpNet)
    (value : String) (policy : SourceUrlPolicy) (hop : Hop) : Prop where
  valid : policy.validateRequestUrl hop.url = .ok ()
  allowed : ¬Forbidden hop.address
  admitted : Admitted parseNet value hop.address ∨
    ∃ name, hop.url.host = some (.domain name) ∧ ListsHost parseUrl value (normalizeHost name)

theorem safeHop_of_connects (hPolicy : FromEntries parseUrl parseNet value policy) {url : Url}
    {address : IpAddr} (hValid : policy.validateRequestUrl url = .ok ())
    (hConnects : Connects policy url address) :
    SafeHop parseUrl parseNet value policy ⟨url, address⟩ := by
  cases hConnects with
  | address hHost =>
    obtain ⟨hAllowed, hAdmitted⟩ := validateRequestUrl_admitted hPolicy hHost hValid
    exact ⟨hValid, hAllowed, .inl hAdmitted⟩
  | @name name answer addresses address hHost hResolved hChosen =>
    obtain ⟨_, _, _, hChecked⟩ := resolve_eq_ok hResolved
    obtain ⟨hAllowed, hAdmitted⟩ :=
      validateResolvedAddresses_admitted hPolicy hChecked address hChosen
    exact ⟨hValid, hAllowed, hAdmitted.imp_right fun hListed => ⟨name, hHost, hListed⟩⟩

/-- What every redirect keeps. -/
structure Contained (parseUrl : String → Option Url) (parseNet : String → Option IpNet)
    (value : String) (policy : SourceUrlPolicy) (hops : List Hop) : Prop where
  short : hops.length ≤ maxRedirects + 1
  fresh : (hops.map Hop.url).Nodup
  origin : ∃ initial, (hops.map Hop.url).head? = some initial ∧
    ∀ hop ∈ hops, sameOrigin initial hop.url = true
  safe : ∀ hop ∈ hops, SafeHop parseUrl parseNet value policy hop

theorem contained_request {hop : Hop} (hSafe : SafeHop parseUrl parseNet value policy hop) :
    Contained parseUrl parseNet value policy [hop] where
  short := by
    rw [List.length_singleton]
    omega
  fresh := List.nodup_singleton _
  origin := by
    refine ⟨hop.url, rfl, fun next hNext => ?_⟩
    rw [List.mem_singleton.mp hNext]
    exact sameOrigin_iff.mpr ⟨rfl, rfl, rfl⟩
  safe := by
    intro next hNext
    rw [List.mem_singleton.mp hNext]
    exact hSafe

theorem contained_redirect {hops : List Hop} {hop : Hop}
    (hHops : Contained parseUrl parseNet value policy hops)
    (hFollow : policy.redirectPolicy (hops.map Hop.url) hop.url = .ok ())
    (hSafe : SafeHop parseUrl parseNet value policy hop) :
    Contained parseUrl parseNet value policy (hops ++ [hop]) := by
  obtain ⟨hShort, hFresh, ⟨initial, hInitial, hOrigin⟩, _⟩ := redirectPolicy_ok_iff.mp hFollow
  rw [List.length_map] at hShort
  constructor
  · rw [List.length_append, List.length_singleton]
    omega
  · rw [List.map_append, List.map_singleton]
    exact List.nodup_append.mpr ⟨hHops.fresh, List.nodup_singleton _, fun url hUrl next hNext => by
      rw [List.mem_singleton.mp hNext]
      rintro rfl
      exact hFresh hUrl⟩
  · obtain ⟨first, hFirst, hSame⟩ := hHops.origin
    obtain rfl : initial = first := Option.some.inj (hInitial.symm.trans hFirst)
    refine ⟨initial, ?_, fun next hNext => ?_⟩
    · rw [List.map_append, List.head?_append, hInitial, Option.some_or]
    · rcases List.mem_append.mp hNext with hOld | hNew
      · exact hSame next hOld
      · rw [List.mem_singleton.mp hNew]
        exact hOrigin
  · intro next hNext
    rcases List.mem_append.mp hNext with hOld | hNew
    · exact hHops.safe next hOld
    · rw [List.mem_singleton.mp hNew]
      exact hSafe

theorem exchange_contained (hPolicy : FromEntries parseUrl parseNet value policy)
    {hops : List Hop} (h : Exchange policy hops) :
    Contained parseUrl parseNet value policy hops := by
  induction h with
  | request hValid hConnects =>
    exact contained_request (safeHop_of_connects hPolicy hValid hConnects)
  | redirect _ hFollow hConnects ih =>
    have hValid := (redirectPolicy_ok_iff.mp hFollow).2.2.2
    exact contained_redirect ih hFollow (safeHop_of_connects hPolicy hValid hConnects)

end Listed

/-- A source's base URL is one that a request may go to. -/
theorem parseRequestUrl_of_base {parseUrl : String → Option Url} {policy : SourceUrlPolicy}
    {value : String} {url : Url} (h : policy.validateBaseUrl parseUrl value = .ok url) :
    policy.parseRequestUrl parseUrl value = .ok url := by
  unfold validateBaseUrl at h
  unfold parseRequestUrl
  cases hParsed : parseUrl value with
  | none =>
    rw [hParsed] at h
    cases h
  | some parsed =>
    rw [hParsed] at h
    obtain ⟨_, hCommon, hRest⟩ := bind_eq_ok.mp h
    split at hRest
    · cases hRest
    · next hParts =>
      cases hRest
      have hFragment : url.fragment.isSome = false := by
        rw [Bool.or_eq_true, not_or, Bool.not_eq_true, Bool.not_eq_true] at hParts
        exact hParts.2
      have hRequest : policy.validateRequestUrl url = .ok () := by
        rw [validateRequestUrl, hCommon, hFragment]
        rfl
      exact bind_eq_ok.mpr ⟨(), hRequest, rfl⟩

/-- Whatever the responses and the resolver say: a request goes to at most six URLs, none
twice, all of the first one's origin and all valid, and every connection is to an address that
is not forbidden and is public, listed, or of a listed host.  One bad address in a resolver's
answer refuses all of it. -/
theorem requests_stay_contained (parseUrl : String → Option Url)
    (parseNet : String → Option IpNet) (value : String) (policy : SourceUrlPolicy)
    (hPolicy : fromAllowlist parseUrl parseNet value = .ok policy) :
    (∀ hops : List Hop, Exchange policy hops →
      hops.length ≤ 6 ∧ (hops.map Hop.url).Nodup ∧
      (∃ initial, (hops.map Hop.url).head? = some initial ∧ ∀ hop ∈ hops,
        initial.scheme = hop.url.scheme ∧ initial.hostStr = hop.url.hostStr ∧
        initial.portOrKnownDefault = hop.url.portOrKnownDefault) ∧
      ∀ hop ∈ hops, policy.validateRequestUrl hop.url = .ok () ∧ ¬Forbidden hop.address ∧
        (Admitted parseNet value hop.address ∨ ∃ name, hop.url.host = some (.domain name) ∧
          ListsHost parseUrl value (normalizeHost name))) ∧
    (∀ (host : String) (answer : Option (List (IpAddr × UInt16)))
        (addresses : List (IpAddr × UInt16)), policy.resolve host answer = .ok addresses →
      ∃ found, answer = some found ∧ addresses.Nodup ∧
        (∀ address, address ∈ addresses ↔ address ∈ found) ∧
        ∀ address ∈ found, ¬Forbidden address.1 ∧ (Admitted parseNet value address.1 ∨
          ListsHost parseUrl value (normalizeHost host))) ∧
    ∀ (text : String) (url : Url), policy.validateBaseUrl parseUrl text = .ok url →
      policy.parseRequestUrl parseUrl text = .ok url := by
  have hEntries := fromAllowlist_fromEntries value policy hPolicy
  refine ⟨fun hops hExchange => ?_, fun host answer addresses hResolved => ?_, fun text url => ?_⟩
  · obtain ⟨hShort, hFresh, ⟨initial, hInitial, hSame⟩, hSafe⟩ :=
      exchange_contained hEntries hExchange
    refine ⟨hShort, hFresh, ⟨initial, hInitial, fun hop hHop => ?_⟩, fun hop hHop => ?_⟩
    · exact sameOrigin_iff.mp (hSame hop hHop)
    · exact ⟨(hSafe hop hHop).valid, (hSafe hop hHop).allowed, (hSafe hop hHop).admitted⟩
  · obtain ⟨found, hFound, hSorted, hChecked⟩ := resolve_eq_ok hResolved
    have hMem (address : IpAddr × UInt16) : address ∈ addresses ↔ address ∈ found := by
      rw [hSorted]
      exact mem_sortedAddresses
    refine ⟨found, hFound, hSorted ▸ nodup_sortedAddresses found, hMem, fun address hAddress => ?_⟩
    exact validateResolvedAddresses_admitted hEntries hChecked address ((hMem address).mpr hAddress)
  · exact parseRequestUrl_of_base

/-- A request to an address that an entry lists, redirected once. -/
theorem listed_address_redirected :
    let policy : SourceUrlPolicy := { allowedIps := [.v4 (.new 10 0 0 8)] }
    let start : Url :=
      { scheme := "http", username := "", password := none, host := some (.ip (.v4 (.new 10 0 0 8))),
        hostStr := some "10.0.0.8", port := none, path := "/v1/models", query := none,
        fragment := none }
    let next : Url := { start with port := some 80, path := "/v2/models" }
    let hops : List Hop := [⟨start, .v4 (.new 10 0 0 8)⟩, ⟨next, .v4 (.new 10 0 0 8)⟩]
    Exchange policy hops ∧ hops.length ≤ 6 ∧ ∀ hop ∈ hops, ¬Forbidden hop.address := by
  intro policy start next hops
  have hHost : start.Literal (.v4 (.new 10 0 0 8)) :=
    ⟨rfl, "10.0.0.8", ⟨by decide, by decide⟩, by decide, rfl⟩
  have hNext : next.Literal (.v4 (.new 10 0 0 8)) := ⟨rfl, hHost.hostStr⟩
  have hExchange : Exchange policy hops :=
    .redirect (.request (by decide) (.address hHost)) (by decide) (.address hNext)
  have hContained := (requests_stay_contained (fun _ => none) (fun _ => none) "10.0.0.8"
    policy rfl).1 hops hExchange
  exact ⟨hExchange, hContained.1, fun hop hHop => (hContained.2.2.2 hop hHop).2.1⟩

end AiGateway.SourceUrl
