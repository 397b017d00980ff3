import AiGateway.Base.Ip
import AiGateway.Base.Text

/-!
# Reading an address

`IpAddr::from_str`: the text is an address in dotted decimal or in groups of
hexadecimal digits, and nothing follows it.
-/

namespace AiGateway.Net

set_option autoImplicit false

/-- `char::to_digit`. -/
def toDigit (radix : Nat) (c : Char) : Option Nat :=
  let value :=
    if '0' ≤ c ∧ c ≤ '9' then some (c.toNat - '0'.toNat)
    else if 'a' ≤ c ∧ c ≤ 'z' then some (c.toNat - 'a'.toNat + 10)
    else if 'A' ≤ c ∧ c ≤ 'Z' then some (c.toNat - 'A'.toNat + 10)
    else none
  value.filter (· < radix)

/-- All digits that follow, at most so many and at most so large. -/
def readNumber (radix maxDigits limit : Nat) (allowZeroPrefix : Bool) (cs : List Char) :
    Option (Nat × List Char) :=
  let digits := cs.takeWhile fun c => (toDigit radix c).isSome
  let value := fromBeDigits radix (digits.filterMap (toDigit radix))
  if digits = [] ∨ maxDigits < digits.length then none
  else if !allowZeroPrefix && digits.head? = some '0' && 1 < digits.length then none
  else if limit < value then none
  else some (value, cs.drop digits.length)

/-- The separator, except before the first group. -/
def readSeparator (separator : Char) (first : Bool) (cs : List Char) : Option (List Char) :=
  if first then some cs
  else
    match cs with
    | [] => none
    | c :: rest => if c = separator then some rest else none

def readOctets : Nat → Bool → List Char → Option (List UInt8 × List Char)
  | 0, _, cs => some ([], cs)
  | n + 1, first, cs => do
    let inner ← readSeparator '.' first cs
    let (octet, rest) ← readNumber 10 3 255 false inner
    let (octets, rest) ← readOctets n false rest
    some (UInt8.ofNat octet :: octets, rest)

def readIpv4 (cs : List Char) : Option (Ipv4Addr × List Char) := do
  let (octets, rest) ← readOctets 4 true cs
  if four : octets.length = 4 then some (⟨octets, four⟩, rest) else none

/-- The last two segments of an address written in dotted decimal. -/
def embedded (ip : Ipv4Addr) : List UInt16 :=
  match ip.octets with
  | [a, b, c, d] =>
    [UInt16.ofNat (a.toNat * 256 + b.toNat), UInt16.ofNat (c.toNat * 256 + d.toNat)]
  | _ => []

/-- The groups that follow, whether they end in dotted decimal, and the rest.  Dotted
decimal takes the place of two groups. -/
def readGroups : Nat → Bool → List Char → List UInt16 × Bool × List Char
  | 0, _, cs => ([], false, cs)
  | slots + 1, first, cs =>
    let inner := readSeparator ':' first cs
    match if slots = 0 then none else inner.bind readIpv4 with
    | some (ip, rest) => (embedded ip, true, rest)
    | none =>
      match inner.bind (readNumber 16 4 65535 true) with
      | none => ([], false, cs)
      | some (group, rest) =>
        let later := readGroups slots false rest
        (UInt16.ofNat group :: later.1, later.2)

def readIpv6 (cs : List Char) : Option (Ipv6Addr × List Char) :=
  let (head, dotted, rest) := readGroups 8 true cs
  if eight : head.length = 8 then some (⟨head, eight⟩, rest)
  else if dotted then none
  else
    match rest with
    | ':' :: ':' :: rest =>
      -- the omitted part stands for one zero at least
      let (tail, _, rest) := readGroups (8 - (head.length + 1)) true rest
      let segments := head ++ List.replicate (8 - head.length - tail.length) 0 ++ tail
      if eight : segments.length = 8 then some (⟨segments, eight⟩, rest) else none
    | _ => none

def IpAddr.fromStr (s : String) : Option IpAddr :=
  let read :=
    match readIpv4 s.toList with
    | some (ip, rest) => some (IpAddr.v4 ip, rest)
    | none => (readIpv6 s.toList).map fun (ip, rest) => (IpAddr.v6 ip, rest)
  match read with
  | some (ip, []) => some ip
  | _ => none

example : IpAddr.fromStr "192.168.0.1" = some (.v4 (.new 192 168 0 1)) := by decide

example : IpAddr.fromStr "::ffff:10.0.0.1" =
    some (.v6 ⟨[0, 0, 0, 0, 0, 0xffff, 0x0a00, 1], rfl⟩) := by decide

end AiGateway.Net
