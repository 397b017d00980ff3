import AiGateway.Base.IpText
import AiGateway.Domain.Routing

/-!
# Which targets a source URL may have

URLs and networks are parsed by libraries: a URL is what the `url` crate tells of it,
`parseUrl` and `parseNet` are their parsers.
-/

namespace AiGateway.SourceUrl

set_option autoImplicit false

open AiGateway.Text AiGateway.Routing AiGateway.Net

inductive SourceUrlPolicyError where
  | invalidAllowlist
  | invalidUrl
  | disallowedTarget
  | dnsResolutionFailed
  | noResolvedAddresses
  | redirectBlocked
  deriving DecidableEq, Repr

inductive Host where
  | domain (name : String)
  | ip (ip : IpAddr)
  deriving DecidableEq, Repr

structure Url where
  scheme : String
  username : String
  password : Option String
  host : Option Host
  hostStr : Option String
  port : Option UInt16
  path : String
  query : Option String
  fragment : Option String
  deriving DecidableEq, Repr

/-- A network of the `ipnet` crate. -/
inductive IpNet where
  | v4 (network : Ipv4Addr) (prefixLen : Nat) (within : prefixLen ≤ 32)
  | v6 (network : Ipv6Addr) (prefixLen : Nat) (within : prefixLen ≤ 128)

/-- The subtraction wraps; a length over the width leaves a mask without bits. -/
def ipv4In (ip network : Ipv4Addr) (prefixLen : UInt32) : Bool :=
  inBlock 32 ip.toNat network.toNat (32 - prefixLen).toNat

def ipv6In (ip network : Ipv6Addr) (prefixLen : UInt32) : Bool :=
  inBlock 128 ip.toNat network.toNat (128 - prefixLen).toNat

/-- A network holds addresses of its own family only. -/
def IpNet.contains : IpNet → IpAddr → Bool
  | .v4 network prefixLen _, .v4 ip => inBlock 32 ip.toNat network.toNat (32 - prefixLen)
  | .v6 network prefixLen _, .v6 ip => inBlock 128 ip.toNat network.toNat (128 - prefixLen)
  | _, _ => false

def endsWith (s suffix : String) : Bool := suffix.toList.isSuffixOf s.toList

def containsChar (s : String) (c : Char) : Bool := s.toList.contains c

def stripSuffix (s suffix : String) : Option String :=
  if endsWith s suffix then
    some (String.ofList (s.toList.take (s.toList.length - suffix.toList.length)))
  else none

def normalizeHost (host : String) : String :=
  let host := trimEndMatches '.' host
  toAsciiLowercase (((stripPrefix host "[").bind fun host => stripSuffix host "]").getD host)

def isLocalHostname (host : String) : Bool :=
  host = "localhost" || endsWith host ".localhost" || endsWith host ".local" ||
    endsWith host ".internal" || endsWith host ".home" || endsWith host ".lan" ||
    !containsChar host '.'

def isMetadataHostname (host : String) : Bool :=
  host ∈ ["metadata.google.internal", "metadata.aws.internal", "instance-data.ec2.internal",
    "metadata.azure.internal"]

/-- The address that an address of the form `::ffff:a.b.c.d` stands for. -/
def mappedIpv4 (ip : Ipv6Addr) : Option Ipv4Addr :=
  match ip.segments with
  | [0, 0, 0, 0, 0, 0xffff, high, low] =>
    some (.new (high >>> 8).toUInt8 high.toUInt8 (low >>> 8).toUInt8 low.toUInt8)
  | _ => none

def isMetadataIpv4 (ip : Ipv4Addr) : Bool :=
  ip.octets ∈ [[169, 254, 169, 254], [169, 254, 170, 2], [169, 254, 170, 23], [100, 100, 100, 200]]

def isMetadataIp : IpAddr → Bool
  | .v4 ip => isMetadataIpv4 ip
  | .v6 ip => ip.segments = [0xfd00, 0x0ec2, 0, 0, 0, 0, 0, 0x0254] ||
      (mappedIpv4 ip).any isMetadataIpv4

def isNeverAllowedIpv4 (ip : Ipv4Addr) : Bool :=
  isMetadataIp (.v4 ip) || (ip.isUnspecified || ip.isMulticast || ip.isBroadcast)

def isNeverAllowedIp : IpAddr → Bool
  | .v4 ip => isNeverAllowedIpv4 ip
  | .v6 ip => isMetadataIp (.v6 ip) ||
      (ip.isUnspecified || ip.isMulticast || (mappedIpv4 ip).any isNeverAllowedIpv4)

def isPublicIpv4 (ip : Ipv4Addr) : Bool :=
  !(ip.isUnspecified || ip.isLoopback || ip.isPrivate || ip.isLinkLocal || ip.isMulticast ||
    ip.isBroadcast || ip.isDocumentation || ipv4In ip (.new 0 0 0 0) 8 ||
    ipv4In ip (.new 100 64 0 0) 10 || ipv4In ip (.new 192 0 0 0) 24 ||
    ipv4In ip (.new 192 88 99 0) 24 || ipv4In ip (.new 198 18 0 0) 15 ||
    ipv4In ip (.new 240 0 0 0) 4)

def isPublicIpv6 (ip : Ipv6Addr) : Bool :=
  ipv6In ip ⟨[0x2000, 0, 0, 0, 0, 0, 0, 0], rfl⟩ 3 &&
    !ipv6In ip ⟨[0x2001, 0, 0, 0, 0, 0, 0, 0], rfl⟩ 23 &&
    !ipv6In ip ⟨[0x2001, 0x0db8, 0, 0, 0, 0, 0, 0], rfl⟩ 32 &&
    !ipv6In ip ⟨[0x2002, 0, 0, 0, 0, 0, 0, 0], rfl⟩ 16

def isPublicIp : IpAddr → Bool
  | .v4 ip => isPublicIpv4 ip
  | .v6 ip => ((mappedIpv4 ip).map isPublicIpv4).getD (isPublicIpv6 ip)

structure SourceUrlPolicy where
  allowedHosts : List String := []
  allowedIps : List IpAddr := []
  allowedNetworks : List IpNet := []

namespace SourceUrlPolicy

section Allowlist

variable (parseUrl : String → Option Url) (parseNet : String → Option IpNet)

def entries (value : String) : List String :=
  ((value.toList.splitOn ',').map fun entry => trim (String.ofList entry)).filter fun entry =>
    entry ≠ ""

def hasMoreThanHost (entry : String) (candidate : Url) : Bool :=
  candidate.port.isSome || candidate.username ≠ "" || candidate.password.isSome ||
    candidate.path ≠ "/" || candidate.query.isSome || candidate.fragment.isSome ||
    containsChar entry '*'

def addEntry (policy : SourceUrlPolicy) (entry : String) :
    Except SourceUrlPolicyError SourceUrlPolicy :=
  if containsChar entry '/' then
    match parseNet entry with
    | none => .error .invalidAllowlist
    | some network => .ok { policy with allowedNetworks := policy.allowedNetworks ++ [network] }
  else
    match IpAddr.fromStr entry with
    | some ip => .ok { policy with allowedIps := ip :: policy.allowedIps }
    | none =>
      match parseUrl ("http://" ++ entry ++ "/") with
      | none => .error .invalidAllowlist
      | some candidate =>
        match candidate.hostStr with
        | none => .error .invalidAllowlist
        | some host =>
          if hasMoreThanHost entry candidate then .error .invalidAllowlist
          else .ok { policy with allowedHosts := normalizeHost host :: policy.allowedHosts }

def fromAllowlist (value : String) : Except SourceUrlPolicyError SourceUrlPolicy :=
  (entries value).foldlM (addEntry parseUrl parseNet) {}

end Allowlist

variable (policy : SourceUrlPolicy)

def ipIsAllowed (ip : IpAddr) (hostIsAllowed : Bool) : Bool :=
  if isNeverAllowedIp ip then false
  else
    isPublicIp ip || hostIsAllowed || policy.allowedIps.contains ip ||
      policy.allowedNetworks.any fun network => network.contains ip

def validateIp (ip : IpAddr) (hostIsAllowed : Bool) : Except SourceUrlPolicyError Unit :=
  if policy.ipIsAllowed ip hostIsAllowed then .ok () else .error .disallowedTarget

def validateUrlCommon (url : Url) : Except SourceUrlPolicyError Unit :=
  match url.hostStr with
  | none => .error .invalidUrl
  | some text =>
    if ¬(url.scheme = "http" ∨ url.scheme = "https") ∨ url.username ≠ "" ∨ url.password.isSome ∨
        url.port = some 0 then .error .invalidUrl
    else
      let host := normalizeHost text
      if isMetadataHostname host then .error .disallowedTarget
      else
        match IpAddr.fromStr host with
        | some ip => policy.validateIp ip false
        | none =>
          if isLocalHostname host && !policy.allowedHosts.contains host then
            .error .disallowedTarget
          else .ok ()

def validateRequestUrl (url : Url) : Except SourceUrlPolicyError Unit := do
  policy.validateUrlCommon url
  if url.fragment.isSome then .error .invalidUrl else .ok ()

/-- The addresses come with ports, which the policy does not look at. -/
def validateResolvedAddresses (host : String) (addresses : List (IpAddr × UInt16)) :
    Except SourceUrlPolicyError Unit :=
  if addresses.isEmpty then .error .noResolvedAddresses
  else
    let host := normalizeHost host
    if isMetadataHostname host then .error .disallowedTarget
    else
      let hostIsAllowed := policy.allowedHosts.contains host
      if addresses.all fun address => policy.ipIsAllowed address.1 hostIsAllowed then .ok ()
      else .error .disallowedTarget

end SourceUrlPolicy

end AiGateway.SourceUrl
