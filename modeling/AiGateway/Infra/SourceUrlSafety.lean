import AiGateway.Base.Relational
import AiGateway.Infra.AddressClasses

/-!
# What an accepted target can be

An address that no entry can allow is refused in every form, and an address that is not
public needs an entry.
-/

namespace AiGateway.SourceUrl

set_option autoImplicit false

open AiGateway.Text AiGateway.Routing AiGateway.Net AiGateway.Checked SourceUrlPolicy

section Policy

variable {policy : SourceUrlPolicy}

theorem allowed_address {ip : IpAddr} {hostIsAllowed : Bool}
    (h : policy.ipIsAllowed ip hostIsAllowed = true) :
    ¬Forbidden ip ∧ (isPublicIp ip = true ∨ hostIsAllowed = true ∨ ip ∈ policy.allowedIps ∨
      ∃ network ∈ policy.allowedNetworks, network.contains ip = true) := by
  unfold ipIsAllowed at h
  split at h
  · cases h
  · next hAdmitted =>
    refine ⟨fun hForbidden => hAdmitted (never_of_forbidden hForbidden), ?_⟩
    simpa only [Bool.or_eq_true, or_assoc, List.contains_iff_mem, List.any_eq_true] using h

/-! ## Hosts that are addresses -/

/-- How a URL writes an address: decimal or lower case hexadecimal digits, and separators. -/
def AddressText (text : String) : Prop :=
  text.toList.all (· ∈ "0123456789abcdef:.".toList) = true ∧ text.toList.getLast? ≠ some '.'

/-- What the URL library tells of a host that is an address. -/
structure Url.Literal (url : Url) (ip : IpAddr) : Prop where
  host : url.host = some (.ip ip)
  hostStr : ∃ text, AddressText text ∧ IpAddr.fromStr text = some ip ∧
    url.hostStr = some (match ip with | .v4 _ => text | .v6 _ => "[" ++ text ++ "]")

theorem addressText_char {text : String} (h : AddressText text) :
    ∀ c ∈ text.toList, c.toLower = c ∧ c ≠ '[' := by
  have hAlphabet : "0123456789abcdef:.".toList.all
      (fun c => decide (c.toLower = c ∧ c ≠ '[')) = true := by decide
  intro c hc
  have hMem := of_decide_eq_true (List.all_eq_true.mp h.1 c hc)
  exact of_decide_eq_true (List.all_eq_true.mp hAlphabet c hMem)

theorem toAsciiLowercase_addressText {text : String} (h : AddressText text) :
    toAsciiLowercase text = text := by
  have hChars : text.toList.map Char.toLower = text.toList :=
    calc text.toList.map Char.toLower
        = text.toList.map id := List.map_congr_left fun c hc => (addressText_char h c hc).1
      _ = text.toList := List.map_id _
  rw [toAsciiLowercase, hChars, String.ofList_toList]

theorem trimEndMatches_of_getLast? {c : Char} {s : String} (h : s.toList.getLast? ≠ some c) :
    trimEndMatches c s = s := by
  rw [trimEndMatches]
  rw [← List.head?_reverse] at h
  cases hReverse : s.toList.reverse with
  | nil =>
    rw [List.reverse_eq_nil_iff] at hReverse
    rw [List.dropWhile_nil, List.reverse_nil, ← hReverse, String.ofList_toList]
  | cons last rest =>
    rw [hReverse] at h
    have hLast : ¬(decide (last = c) = true) := by
      rw [decide_eq_true_eq]
      rintro rfl
      exact h rfl
    rw [List.dropWhile_cons, if_neg hLast, ← hReverse, List.reverse_reverse, String.ofList_toList]

theorem normalizeHost_addressText {text : String} (h : AddressText text) :
    normalizeHost text = text := by
  have hStrip : stripPrefix text "[" = none := by
    rw [stripPrefix, if_neg]
    intro hStarts
    obtain ⟨rest, hRest⟩ := List.isPrefixOf_iff_prefix.mp hStarts
    have hMem : '[' ∈ text.toList := hRest ▸ List.mem_cons_self
    exact (addressText_char h '[' hMem).2 rfl
  rw [normalizeHost, trimEndMatches_of_getLast? h.2, hStrip]
  exact toAsciiLowercase_addressText h

theorem normalizeHost_bracketed {text : String} (h : AddressText text) :
    normalizeHost ("[" ++ text ++ "]") = text := by
  have hChars : ("[" ++ text ++ "]").toList = '[' :: (text.toList ++ [']']) := by
    rw [String.toList_append, String.toList_append]
    rfl
  have hTrim : trimEndMatches '.' ("[" ++ text ++ "]") = "[" ++ text ++ "]" := by
    apply trimEndMatches_of_getLast?
    rw [hChars, ← List.cons_append, List.getLast?_concat]
    decide
  have hStart : stripPrefix ("[" ++ text ++ "]") "[" = some (text ++ "]") := by
    rw [stripPrefix, if_pos]
    · rw [hChars]
      congr 1
      apply String.toList_injective
      rw [String.toList_ofList, String.toList_append]
      rfl
    · rw [startsWith, hChars]
      rfl
  have hEnd : stripSuffix (text ++ "]") "]" = some text := by
    have hBracket : "]".toList = [']'] := rfl
    rw [stripSuffix, if_pos]
    · rw [String.toList_append, hBracket, List.length_append, Nat.add_sub_cancel,
        List.take_left, String.ofList_toList]
    · rw [endsWith, String.toList_append]
      exact List.isSuffixOf_iff_suffix.mpr (List.suffix_append _ _)
  rw [normalizeHost, hTrim, hStart, Option.bind_some, hEnd]
  exact toAsciiLowercase_addressText h

theorem normalizeHost_literal {url : Url} {ip : IpAddr} (h : url.Literal ip) :
    ∃ host, url.hostStr = some host ∧ IpAddr.fromStr (normalizeHost host) = some ip := by
  obtain ⟨text, hText, hParsed, hHost⟩ := h.hostStr
  refine ⟨_, hHost, ?_⟩
  cases ip with
  | v4 ip => rw [normalizeHost_addressText hText, hParsed]
  | v6 ip => rw [normalizeHost_bracketed hText, hParsed]

theorem not_metadata_of_address {host : String} {ip : IpAddr} (h : IpAddr.fromStr host = some ip) :
    isMetadataHostname host = false := by
  rw [isMetadataHostname, decide_eq_false_iff_not]
  intro hName
  simp only [List.mem_cons, List.not_mem_nil, or_false] at hName
  rcases hName with rfl | rfl | rfl | rfl
  all_goals
    rw [show IpAddr.fromStr _ = none by decide] at h
    cases h

/-- A URL whose host is an address is judged by the address. -/
theorem validateUrlCommon_literal {url : Url} {ip : IpAddr} (h : url.Literal ip) :
    policy.validateUrlCommon url =
      if ¬(url.scheme = "http" ∨ url.scheme = "https") ∨ url.username ≠ "" ∨
        url.password.isSome ∨ url.port = some 0 then .error .invalidUrl
      else policy.validateIp ip false := by
  obtain ⟨host, hHost, hParsed⟩ := normalizeHost_literal h
  have hName := not_metadata_of_address hParsed
  simp only [validateUrlCommon, hHost, hName, hParsed, Bool.false_eq_true, if_false]

/-! ## A mapped address under the default policy -/

theorem isNeverAllowedIp_mapped (ip : Ipv4Addr) :
    isNeverAllowedIp (.v6 (mapped ip)) = isNeverAllowedIp (.v4 ip) := by
  have hSegments : (mapped ip).segments = [0, 0, 0, 0, 0, 0xffff] ++ embedded ip := rfl
  have hUnspecified : (mapped ip).isUnspecified = false := by
    simp [Ipv6Addr.isUnspecified, hSegments]
  have hMulticast : (mapped ip).isMulticast = false := rfl
  have hNotMetadata : ¬((mapped ip).segments = [0xfd00, 0x0ec2, 0, 0, 0, 0, 0, 0x0254]) := by
    simp [hSegments]
  have hMetadata : isMetadataIp (.v6 (mapped ip)) = isMetadataIpv4 ip := by
    simp only [isMetadataIp, mappedIpv4_mapped, Option.any_some, hNotMetadata, decide_false,
      Bool.false_or]
  simp only [isNeverAllowedIp, hMetadata, hUnspecified, hMulticast, mappedIpv4_mapped,
    Option.any_some, Bool.false_or, isNeverAllowedIpv4]
  rw [← Bool.or_assoc]
  simp only [isMetadataIp, Bool.or_self]

theorem ipIsAllowed_mapped (ip : Ipv4Addr) (hostIsAllowed : Bool) :
    ({} : SourceUrlPolicy).ipIsAllowed (.v6 (mapped ip)) hostIsAllowed =
      ({} : SourceUrlPolicy).ipIsAllowed (.v4 ip) hostIsAllowed := by
  have hPublic : isPublicIp (.v6 (mapped ip)) = isPublicIp (.v4 ip) := by
    simp only [isPublicIp, mappedIpv4_mapped, Option.map_some, Option.getD_some]
  simp only [ipIsAllowed, isNeverAllowedIp_mapped, hPublic, List.contains_nil, List.any_nil]

theorem validateIp_mapped (ip : Ipv4Addr) (hostIsAllowed : Bool) :
    ({} : SourceUrlPolicy).validateIp (.v6 (mapped ip)) hostIsAllowed =
      ({} : SourceUrlPolicy).validateIp (.v4 ip) hostIsAllowed := by
  rw [validateIp, validateIp, ipIsAllowed_mapped]

theorem validateResolvedAddresses_mapped (host : String) (ip : Ipv4Addr) (port : UInt16)
    (before later : List (IpAddr × UInt16)) :
    ({} : SourceUrlPolicy).validateResolvedAddresses host
        (before ++ (.v6 (mapped ip), port) :: later) =
      ({} : SourceUrlPolicy).validateResolvedAddresses host
        (before ++ (.v4 ip, port) :: later) := by
  have hSome (address : IpAddr × UInt16) : (before ++ address :: later).isEmpty = false := by simp
  simp only [validateResolvedAddresses, hSome, List.all_append, List.all_cons, ipIsAllowed_mapped]

theorem validateRequestUrl_mapped {url url' : Url} {ip : Ipv4Addr} (h : url.Literal (.v4 ip))
    (h' : url'.Literal (.v6 (mapped ip)))
    (hSame : url' = { url with host := url'.host, hostStr := url'.hostStr }) :
    ({} : SourceUrlPolicy).validateRequestUrl url' =
      ({} : SourceUrlPolicy).validateRequestUrl url := by
  have hCommon : ({} : SourceUrlPolicy).validateUrlCommon url' =
      ({} : SourceUrlPolicy).validateUrlCommon url := by
    rw [validateUrlCommon_literal h', validateUrlCommon_literal h, validateIp_mapped, hSame]
  rw [validateRequestUrl, validateRequestUrl, hCommon, hSame]

end Policy

/-! ## Allowlists -/

section Allowlist

variable (parseUrl : String → Option Url) (parseNet : String → Option IpNet)

def ListsIp (value : String) (ip : IpAddr) : Prop :=
  ∃ entry ∈ entries value, containsChar entry '/' = false ∧ IpAddr.fromStr entry = some ip

def ListsNetwork (value : String) (network : IpNet) : Prop :=
  ∃ entry ∈ entries value, containsChar entry '/' = true ∧ parseNet entry = some network

/-- An entry is this host name, but for case, a last dot and brackets. -/
def ListsHost (value host : String) : Prop :=
  ∃ entry ∈ entries value, containsChar entry '/' = false ∧ IpAddr.fromStr entry = none ∧
    ∃ candidate name, parseUrl ("http://" ++ entry ++ "/") = some candidate ∧
      candidate.hostStr = some name ∧ normalizeHost name = host

/-- Every item of a policy comes from an entry. -/
structure FromEntries (value : String) (policy : SourceUrlPolicy) : Prop where
  ips : ∀ ip ∈ policy.allowedIps, ListsIp value ip
  networks : ∀ network ∈ policy.allowedNetworks, ListsNetwork parseNet value network
  hosts : ∀ host ∈ policy.allowedHosts, ListsHost parseUrl value host

variable {parseUrl parseNet}

theorem addEntry_fromEntries {value entry : String} {policy : SourceUrlPolicy}
    (h : FromEntries parseUrl parseNet value policy) (hEntry : entry ∈ entries value) :
    Ensures (addEntry parseUrl parseNet policy entry) (FromEntries parseUrl parseNet value) := by
  unfold addEntry
  split
  · next hSlash =>
    split
    · exact ensures_error
    · next network hNetwork =>
      refine ensures_pure ⟨h.ips, ?_, h.hosts⟩
      intro item hItem
      rcases List.mem_append.mp hItem with hOld | hNew
      · exact h.networks item hOld
      · rw [List.mem_singleton] at hNew
        exact hNew ▸ ⟨entry, hEntry, hSlash, hNetwork⟩
  · next hSlash =>
    rw [Bool.not_eq_true] at hSlash
    split
    · next ip hIp =>
      refine ensures_pure ⟨?_, h.networks, h.hosts⟩
      intro item hItem
      rcases List.mem_cons.mp hItem with rfl | hOld
      · exact ⟨entry, hEntry, hSlash, hIp⟩
      · exact h.ips item hOld
    · next hName =>
      split
      · exact ensures_error
      · next candidate hCandidate =>
        split
        · exact ensures_error
        · next name hHost =>
          split
          · exact ensures_error
          · refine ensures_pure ⟨h.ips, h.networks, ?_⟩
            intro item hItem
            rcases List.mem_cons.mp hItem with rfl | hOld
            · exact ⟨entry, hEntry, hSlash, hName, candidate, name, hCandidate, hHost, rfl⟩
            · exact h.hosts item hOld

theorem fromAllowlist_fromEntries (value : String) :
    Ensures (fromAllowlist parseUrl parseNet value) (FromEntries parseUrl parseNet value) := by
  refine ensures_foldlM (fun policy hPolicy entry hEntry => ?_) ?_
  · exact addEntry_fromEntries hPolicy hEntry
  · refine ⟨?_, ?_, ?_⟩
    all_goals
      intro item hItem
      cases hItem

/-! ## Accepted targets -/

/-- Public, or named by an entry directly or through its network. -/
def Admitted (parseNet : String → Option IpNet) (value : String) (ip : IpAddr) : Prop :=
  Public ip ∨ ListsIp value ip ∨
    ∃ network, ListsNetwork parseNet value network ∧ network.contains ip = true

theorem allowed_admitted {value : String} {policy : SourceUrlPolicy}
    (hPolicy : FromEntries parseUrl parseNet value policy) {ip : IpAddr} {hostIsAllowed : Bool}
    (h : policy.ipIsAllowed ip hostIsAllowed = true) :
    ¬Forbidden ip ∧ (Admitted parseNet value ip ∨ hostIsAllowed = true) := by
  obtain ⟨hSafe, hPublic | hHost | hIp | ⟨network, hNetwork, hWithin⟩⟩ := allowed_address h
  · exact ⟨hSafe, .inl (.inl (public_of_isPublicIp hPublic))⟩
  · exact ⟨hSafe, .inr hHost⟩
  · exact ⟨hSafe, .inl (.inr (.inl (hPolicy.ips ip hIp)))⟩
  · exact ⟨hSafe, .inl (.inr (.inr ⟨network, hPolicy.networks network hNetwork, hWithin⟩))⟩

theorem validateIp_ok {policy : SourceUrlPolicy} {ip : IpAddr} {hostIsAllowed : Bool}
    (h : policy.validateIp ip hostIsAllowed = .ok ()) :
    policy.ipIsAllowed ip hostIsAllowed = true := by
  rw [validateIp] at h
  split at h
  · assumption
  · cases h

theorem validateRequestUrl_admitted {value : String} {policy : SourceUrlPolicy}
    (hPolicy : FromEntries parseUrl parseNet value policy) {url : Url} {ip : IpAddr}
    (hHost : url.Literal ip) (h : policy.validateRequestUrl url = .ok ()) :
    ¬Forbidden ip ∧ Admitted parseNet value ip := by
  obtain ⟨_, hCommon, _⟩ := bind_eq_ok.mp h
  rw [validateUrlCommon_literal hHost] at hCommon
  split at hCommon
  · cases hCommon
  · obtain ⟨hSafe, hAdmitted | hNever⟩ := allowed_admitted hPolicy (validateIp_ok hCommon)
    · exact ⟨hSafe, hAdmitted⟩
    · cases hNever

theorem validateResolvedAddresses_admitted {value : String} {policy : SourceUrlPolicy}
    (hPolicy : FromEntries parseUrl parseNet value policy) {host : String}
    {addresses : List (IpAddr × UInt16)}
    (h : policy.validateResolvedAddresses host addresses = .ok ()) :
    ∀ address ∈ addresses, ¬Forbidden address.1 ∧
      (Admitted parseNet value address.1 ∨ ListsHost parseUrl value (normalizeHost host)) := by
  intro address hAddress
  unfold validateResolvedAddresses at h
  dsimp only at h
  split at h
  · cases h
  · split at h
    · cases h
    · split at h
      · next hAll =>
        have hAllowed := List.all_eq_true.mp hAll address hAddress
        obtain ⟨hSafe, hAdmitted⟩ := allowed_admitted hPolicy hAllowed
        refine ⟨hSafe, hAdmitted.imp_right fun hHost => ?_⟩
        exact hPolicy.hosts _ (List.contains_iff_mem.mp hHost)
      · cases h

end Allowlist

theorem ipv4In_iff (ip network : Ipv4Addr) (prefixLen : UInt32) (h : prefixLen.toNat ≤ 32) :
    ipv4In ip network prefixLen = true ↔
      let size := 2 ^ (32 - prefixLen.toNat)
      network.toNat / size * size ≤ ip.toNat ∧ ip.toNat < network.toNat / size * size + size :=
  (ipv4In_within h).trans (div_eq_div_iff (Nat.two_pow_pos _))

theorem ipv6In_iff (ip network : Ipv6Addr) (prefixLen : UInt32) (h : prefixLen.toNat ≤ 128) :
    ipv6In ip network prefixLen = true ↔
      let size := 2 ^ (128 - prefixLen.toNat)
      network.toNat / size * size ≤ ip.toNat ∧ ip.toNat < network.toNat / size * size + size :=
  (ipv6In_within h).trans (div_eq_div_iff (Nat.two_pow_pos _))

/-- The policy of any allowlist: a target that is an address, and every address that a host
name resolves to, is none of the forbidden ones and is public or listed.  With no allowlist
an IPv4 address and its mapped form are one, and the tests of a prefix are exact. -/
theorem accepted_targets_are_safe (parseUrl : String → Option Url)
    (parseNet : String → Option IpNet) (value : String) (policy : SourceUrlPolicy)
    (hPolicy : fromAllowlist parseUrl parseNet value = .ok policy) :
    (∀ (url : Url) (ip : IpAddr), url.Literal ip → policy.validateRequestUrl url = .ok () →
      ¬Forbidden ip ∧ Admitted parseNet value ip) ∧
    (∀ (host : String) (addresses : List (IpAddr × UInt16)),
      policy.validateResolvedAddresses host addresses = .ok () →
      ∀ address ∈ addresses, ¬Forbidden address.1 ∧
        (Admitted parseNet value address.1 ∨ ListsHost parseUrl value (normalizeHost host))) ∧
    ((∀ (ip : Ipv4Addr) (hostIsAllowed : Bool),
        ({} : SourceUrlPolicy).ipIsAllowed (.v6 (mapped ip)) hostIsAllowed =
          ({} : SourceUrlPolicy).ipIsAllowed (.v4 ip) hostIsAllowed) ∧
      (∀ (url url' : Url) (ip : Ipv4Addr), url.Literal (.v4 ip) → url'.Literal (.v6 (mapped ip)) →
        url' = { url with host := url'.host, hostStr := url'.hostStr } →
        ({} : SourceUrlPolicy).validateRequestUrl url' =
          ({} : SourceUrlPolicy).validateRequestUrl url) ∧
      ∀ (host : String) (ip : Ipv4Addr) (port : UInt16) (before later : List (IpAddr × UInt16)),
        ({} : SourceUrlPolicy).validateResolvedAddresses host
            (before ++ (.v6 (mapped ip), port) :: later) =
          ({} : SourceUrlPolicy).validateResolvedAddresses host
            (before ++ (.v4 ip, port) :: later)) ∧
    (∀ (ip network : Ipv4Addr) (prefixLen : UInt32), prefixLen.toNat ≤ 32 →
      (ipv4In ip network prefixLen = true ↔
        let size := 2 ^ (32 - prefixLen.toNat)
        network.toNat / size * size ≤ ip.toNat ∧
          ip.toNat < network.toNat / size * size + size)) ∧
    ∀ (ip network : Ipv6Addr) (prefixLen : UInt32), prefixLen.toNat ≤ 128 →
      (ipv6In ip network prefixLen = true ↔
        let size := 2 ^ (128 - prefixLen.toNat)
        network.toNat / size * size ≤ ip.toNat ∧
          ip.toNat < network.toNat / size * size + size) := by
  have hEntries := fromAllowlist_fromEntries value policy hPolicy
  refine ⟨?_, ?_, ⟨ipIsAllowed_mapped, ?_, validateResolvedAddresses_mapped⟩, ipv4In_iff,
    ipv6In_iff⟩
  · intro url ip hHost hAccepted
    exact validateRequestUrl_admitted hEntries hHost hAccepted
  · intro host addresses hAccepted
    exact validateResolvedAddresses_admitted hEntries hAccepted
  · intro url url' ip hHost hHost' hSame
    exact validateRequestUrl_mapped hHost hHost' hSame

/-- A private address that a network of the allowlist holds. -/
theorem listed_network_target_is_safe :
    ¬Forbidden (.v4 (.new 10 20 5 7)) ∧
      Admitted (fun entry => if entry = "10.20.0.0/16" then
        some (.v4 (.new 10 20 0 0) 16 (by decide)) else none) "10.20.0.0/16"
        (.v4 (.new 10 20 5 7)) :=
  (accepted_targets_are_safe (fun _ => none)
    (fun entry => if entry = "10.20.0.0/16" then
      some (.v4 (.new 10 20 0 0) 16 (by decide)) else none) "10.20.0.0/16"
    { allowedNetworks := [.v4 (.new 10 20 0 0) 16 (by decide)] } rfl).1
    { scheme := "http", username := "", password := none, host := some (.ip (.v4 (.new 10 20 5 7))),
      hostStr := some "10.20.5.7", port := some 8080, path := "/", query := none,
      fragment := none }
    (.v4 (.new 10 20 5 7))
    ⟨rfl, "10.20.5.7", ⟨by decide, by decide⟩, by decide, rfl⟩ (by decide)

end AiGateway.SourceUrl
