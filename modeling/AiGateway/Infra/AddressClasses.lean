import AiGateway.Infra.SourceUrl

/-!
# Classes of addresses

What the tests of the octets and segments say of the address as a number: the addresses
that no entry can allow, and the blocks that are not public.
-/

namespace AiGateway.SourceUrl

set_option autoImplicit false

open AiGateway.Text AiGateway.Routing AiGateway.Net SourceUrlPolicy

/-! ## Mapped addresses -/

def mapped (ip : Ipv4Addr) : Ipv6Addr where
  segments := [0, 0, 0, 0, 0, 0xffff] ++ embedded ip
  eight := by
    obtain ⟨octets, hFour⟩ := ip
    match octets, hFour with
    | [a, b, c, d], _ => rfl

theorem toUInt8_high (a b : UInt8) :
    (UInt16.ofNat (a.toNat * 256 + b.toNat) >>> 8).toUInt8 = a := by
  have ha := a.toNat_lt
  have hb := b.toNat_lt
  apply UInt8.toNat_inj.mp
  rw [UInt16.toNat_toUInt8, UInt16.toNat_shiftRight, UInt16.toNat_ofNat', Nat.shiftRight_eq_div_pow]
  have hShift : (8 : UInt16).toNat % 16 = 8 := rfl
  rw [hShift]
  omega

theorem toUInt8_low (a b : UInt8) : (UInt16.ofNat (a.toNat * 256 + b.toNat)).toUInt8 = b := by
  have ha := a.toNat_lt
  have hb := b.toNat_lt
  apply UInt8.toNat_inj.mp
  rw [UInt16.toNat_toUInt8, UInt16.toNat_ofNat']
  omega

theorem ofNat_split (s : UInt16) :
    UInt16.ofNat ((s >>> 8).toUInt8.toNat * 256 + s.toUInt8.toNat) = s := by
  have hs := s.toNat_lt
  apply UInt16.toNat_inj.mp
  rw [UInt16.toNat_toUInt8, UInt16.toNat_toUInt8, UInt16.toNat_shiftRight, UInt16.toNat_ofNat',
    Nat.shiftRight_eq_div_pow]
  have hShift : (8 : UInt16).toNat % 16 = 8 := rfl
  rw [hShift]
  omega

theorem mappedIpv4_mapped (ip : Ipv4Addr) : mappedIpv4 (mapped ip) = some ip := by
  obtain ⟨octets, hFour⟩ := ip
  match octets, hFour with
  | [a, b, c, d], _ =>
    simp only [mappedIpv4, mapped, embedded, List.cons_append, List.nil_append, toUInt8_high,
      toUInt8_low]
    rfl

theorem mappedIpv4_eq_some_iff {ip : Ipv6Addr} {inner : Ipv4Addr} :
    mappedIpv4 ip = some inner ↔ ip = mapped inner := by
  constructor
  · intro h
    obtain ⟨segments, hEight⟩ := ip
    rw [mappedIpv4] at h
    split at h
    · next high low hSegments =>
      cases h
      dsimp only at hSegments
      subst hSegments
      simp only [mapped, embedded, Ipv4Addr.new, ofNat_split, List.cons_append, List.nil_append]
    · cases h
  · rintro rfl
    exact mappedIpv4_mapped inner

/-! ## Blocks of addresses -/

def WithinV4 (ip : Ipv4Addr) (block : Ipv4Addr × Nat) : Prop :=
  ip.toNat / 2 ^ (32 - block.2) = block.1.toNat / 2 ^ (32 - block.2)

def WithinV6 (ip : Ipv6Addr) (block : Ipv6Addr × Nat) : Prop :=
  ip.toNat / 2 ^ (128 - block.2) = block.1.toNat / 2 ^ (128 - block.2)

theorem ipv4In_within {ip network : Ipv4Addr} {prefixLen : UInt32} (h : prefixLen.toNat ≤ 32) :
    ipv4In ip network prefixLen = true ↔ WithinV4 ip (network, prefixLen.toNat) := by
  have hShift : (32 - prefixLen).toNat = 32 - prefixLen.toNat := UInt32.toNat_sub_of_le _ _ h
  rw [ipv4In, hShift, inBlock_iff ip.toNat_lt network.toNat_lt, WithinV4]

theorem ipv6In_within {ip network : Ipv6Addr} {prefixLen : UInt32} (h : prefixLen.toNat ≤ 128) :
    ipv6In ip network prefixLen = true ↔ WithinV6 ip (network, prefixLen.toNat) := by
  have hShift : (128 - prefixLen).toNat = 128 - prefixLen.toNat := UInt32.toNat_sub_of_le _ _ h
  rw [ipv6In, hShift, inBlock_iff ip.toNat_lt network.toNat_lt, WithinV6]

theorem first_octet {a b c d x y z w : UInt8} (h : WithinV4 (.new a b c d) (.new x y z w, 8)) :
    a = x := by
  have hb := b.toNat_lt
  have hc := c.toNat_lt
  have hd := d.toNat_lt
  have hy := y.toNat_lt
  have hz := z.toNat_lt
  have hw := w.toNat_lt
  simp only [WithinV4, Ipv4Addr.toNat_new, Nat.reduceSub, Nat.reducePow] at h
  exact UInt8.toNat_inj.mp (by omega)

theorem first_two_octets {a b c d x y z w : UInt8}
    (h : WithinV4 (.new a b c d) (.new x y z w, 16)) : a = x ∧ b = y := by
  have hb := b.toNat_lt
  have hc := c.toNat_lt
  have hd := d.toNat_lt
  have hy := y.toNat_lt
  have hz := z.toNat_lt
  have hw := w.toNat_lt
  simp only [WithinV4, Ipv4Addr.toNat_new, Nat.reduceSub, Nat.reducePow] at h
  exact ⟨UInt8.toNat_inj.mp (by omega), UInt8.toNat_inj.mp (by omega)⟩

theorem first_three_octets {a b c d x y z w : UInt8}
    (h : WithinV4 (.new a b c d) (.new x y z w, 24)) : a = x ∧ b = y ∧ c = z := by
  have hb := b.toNat_lt
  have hc := c.toNat_lt
  have hd := d.toNat_lt
  have hy := y.toNat_lt
  have hz := z.toNat_lt
  have hw := w.toNat_lt
  simp only [WithinV4, Ipv4Addr.toNat_new, Nat.reduceSub, Nat.reducePow] at h
  exact ⟨UInt8.toNat_inj.mp (by omega), UInt8.toNat_inj.mp (by omega), UInt8.toNat_inj.mp (by omega)⟩

theorem isLoopback_of_within {ip : Ipv4Addr} (h : WithinV4 ip (.new 127 0 0 0, 8)) :
    ip.isLoopback = true := by
  obtain ⟨a, b, c, d, rfl⟩ := ip.eq_new
  obtain rfl := first_octet h
  rfl

theorem isLinkLocal_of_within {ip : Ipv4Addr} (h : WithinV4 ip (.new 169 254 0 0, 16)) :
    ip.isLinkLocal = true := by
  obtain ⟨a, b, c, d, rfl⟩ := ip.eq_new
  obtain ⟨rfl, rfl⟩ := first_two_octets h
  rfl

theorem isPrivate_of_within {ip : Ipv4Addr} (h : WithinV4 ip (.new 10 0 0 0, 8) ∨
    WithinV4 ip (.new 172 16 0 0, 12) ∨ WithinV4 ip (.new 192 168 0 0, 16)) :
    ip.isPrivate = true := by
  obtain ⟨a, b, c, d, rfl⟩ := ip.eq_new
  rcases h with h | h | h
  · obtain rfl := first_octet h
    rfl
  · have hBlock : (Ipv4Addr.new a b c d).toNat / 2 ^ 20 = 2753 := h.trans (by decide)
    have hb := b.toNat_lt
    have hc := c.toNat_lt
    have hd := d.toNat_lt
    rw [Ipv4Addr.toNat_new] at hBlock
    have hA : a = 172 := UInt8.toNat_inj.mp (by
      change a.toNat = 172
      omega)
    have hLow : (16 : UInt8) ≤ b := UInt8.le_iff_toNat_le.mpr (by
      change 16 ≤ b.toNat
      omega)
    have hHigh : b ≤ (31 : UInt8) := UInt8.le_iff_toNat_le.mpr (by
      change b.toNat ≤ 31
      omega)
    simp [Ipv4Addr.isPrivate, Ipv4Addr.new, hA, hLow, hHigh]
  · obtain ⟨rfl, rfl⟩ := first_two_octets h
    rfl

theorem isDocumentation_of_within {ip : Ipv4Addr} (h : WithinV4 ip (.new 192 0 2 0, 24) ∨
    WithinV4 ip (.new 198 51 100 0, 24) ∨ WithinV4 ip (.new 203 0 113 0, 24)) :
    ip.isDocumentation = true := by
  obtain ⟨a, b, c, d, rfl⟩ := ip.eq_new
  rcases h with h | h | h
  · obtain ⟨rfl, rfl, rfl⟩ := first_three_octets h
    rfl
  · obtain ⟨rfl, rfl, rfl⟩ := first_three_octets h
    rfl
  · obtain ⟨rfl, rfl, rfl⟩ := first_three_octets h
    rfl

theorem isMulticast_of_within {ip : Ipv4Addr} (h : WithinV4 ip (.new 224 0 0 0, 4)) :
    ip.isMulticast = true := by
  obtain ⟨a, b, c, d, rfl⟩ := ip.eq_new
  have hBlock : (Ipv4Addr.new a b c d).toNat / 2 ^ 28 = 14 := h.trans (by decide)
  have hb := b.toNat_lt
  have hc := c.toNat_lt
  have hd := d.toNat_lt
  rw [Ipv4Addr.toNat_new] at hBlock
  have hLow : (224 : UInt8) ≤ a := UInt8.le_iff_toNat_le.mpr (by
    change 224 ≤ a.toNat
    omega)
  have hHigh : a ≤ (239 : UInt8) := UInt8.le_iff_toNat_le.mpr (by
    change a.toNat ≤ 239
    omega)
  simp [Ipv4Addr.isMulticast, Ipv4Addr.new, hLow, hHigh]

/-! ## Addresses that no entry can allow -/

def Metadata : IpAddr → Prop
  | .v4 ip => ip = .new 169 254 169 254 ∨ ip = .new 169 254 170 2 ∨ ip = .new 169 254 170 23 ∨
      ip = .new 100 100 100 200
  | .v6 ip => ip.segments = [0xfd00, 0x0ec2, 0, 0, 0, 0, 0, 0x0254]

def Unspecified : IpAddr → Prop
  | .v4 ip => ip.toNat = 0
  | .v6 ip => ip.toNat = 0

/-- `224.0.0.0/4` and `ff00::/8`. -/
def Multicast : IpAddr → Prop
  | .v4 ip => ip.toNat / 2 ^ 28 = 14
  | .v6 ip => ip.toNat / 2 ^ 120 = 255

def Broadcast : IpAddr → Prop
  | .v4 ip => ip.toNat = 2 ^ 32 - 1
  | .v6 _ => False

def Special (ip : IpAddr) : Prop := Metadata ip ∨ Unspecified ip ∨ Multicast ip ∨ Broadcast ip

/-- Directly, or as the address that it is mapped from. -/
def Forbidden (ip : IpAddr) : Prop :=
  Special ip ∨ ∃ inner, ip = .v6 (mapped inner) ∧ Special (.v4 inner)

theorem never_of_special_v4 {ip : Ipv4Addr} (h : Special (.v4 ip)) :
    isNeverAllowedIpv4 ip = true := by
  simp only [isNeverAllowedIpv4, Bool.or_eq_true]
  rcases h with hMetadata | hZero | hMulticast | hBroadcast
  · left
    rcases hMetadata with rfl | rfl | rfl | rfl
    all_goals decide
  · right; left; left
    obtain rfl : ip = .new 0 0 0 0 := Ipv4Addr.toNat_inj (Eq.trans hZero (by decide))
    rfl
  · right; left; right
    exact isMulticast_of_within (Eq.trans hMulticast (by decide))
  · right; right
    obtain rfl : ip = .new 255 255 255 255 := Ipv4Addr.toNat_inj (Eq.trans hBroadcast (by decide))
    rfl

theorem multicast_segment {s : UInt16} (h : s.toNat / 2 ^ 8 = 255) : s &&& 0xff00 = 0xff00 := by
  have hMask : mask 16 8 = (0xff00 : UInt16).toBitVec := by decide
  have hSame := (and_mask_eq_iff s.toBitVec (0xff00 : UInt16).toBitVec 8).mpr (h.trans rfl)
  rw [hMask, BitVec.and_self] at hSame
  apply UInt16.toBitVec_inj.mp
  rw [UInt16.toBitVec_and]
  exact hSame

theorem never_of_special_v6 {ip : Ipv6Addr} (h : Special (.v6 ip)) :
    isNeverAllowedIp (.v6 ip) = true := by
  simp only [isNeverAllowedIp, isMetadataIp, Bool.or_eq_true, decide_eq_true_eq]
  rcases h with hMetadata | hZero | hMulticast | hNever
  · left; left
    exact hMetadata
  · right; left; left
    obtain rfl : ip = ⟨[0, 0, 0, 0, 0, 0, 0, 0], rfl⟩ :=
      Ipv6Addr.toNat_inj (Eq.trans hZero (by decide))
    rfl
  · right; left; right
    obtain ⟨a, b, c, d, e, f, g, k, hSegments⟩ := ip.eq_segments
    have hb := b.toNat_lt
    have hc := c.toNat_lt
    have hd := d.toNat_lt
    have he := e.toNat_lt
    have hf := f.toNat_lt
    have hg := g.toNat_lt
    have hk := k.toNat_lt
    simp only [Multicast, Ipv6Addr.toNat, fromBeDigits, hSegments, List.map_cons, List.map_nil,
      List.foldl_cons, List.foldl_nil] at hMulticast
    have hFirst : a.toNat / 2 ^ 8 = 255 := by omega
    rw [Ipv6Addr.isMulticast, hSegments]
    exact decide_eq_true (multicast_segment hFirst)
  · exact hNever.elim

theorem never_of_forbidden {ip : IpAddr} (h : Forbidden ip) : isNeverAllowedIp ip = true := by
  rcases h with hSpecial | ⟨inner, rfl, hSpecial⟩
  · cases ip with
    | v4 ip => exact never_of_special_v4 hSpecial
    | v6 ip => exact never_of_special_v6 hSpecial
  · have hInner := never_of_special_v4 hSpecial
    simp only [isNeverAllowedIp, mappedIpv4_mapped, Option.any_some, hInner, Bool.or_true]

/-! ## Public addresses -/

/-- The first address of a block, and how many bits its addresses share. -/
def reservedV4 : List (Ipv4Addr × Nat) :=
  [(.new 0 0 0 0, 8), (.new 10 0 0 0, 8), (.new 100 64 0 0, 10), (.new 127 0 0 0, 8),
    (.new 169 254 0 0, 16), (.new 172 16 0 0, 12), (.new 192 0 0 0, 24), (.new 192 0 2 0, 24),
    (.new 192 88 99 0, 24), (.new 192 168 0 0, 16), (.new 198 18 0 0, 15), (.new 198 51 100 0, 24),
    (.new 203 0 113 0, 24), (.new 224 0 0 0, 4), (.new 240 0 0 0, 4)]

/-- The first address of a block whose length is at most 32. -/
def network (first second : UInt16) : Ipv6Addr := ⟨[first, second, 0, 0, 0, 0, 0, 0], rfl⟩

def reservedV6 : List (Ipv6Addr × Nat) :=
  [(network 0x2001 0, 23), (network 0x2001 0x0db8, 32), (network 0x2002 0, 16)]

/-- Outside the reserved blocks, and for an IPv6 address inside `2000::/3`.  A mapped
address is as public as the address that it is mapped from. -/
def Public : IpAddr → Prop
  | .v4 ip => ∀ block ∈ reservedV4, ¬WithinV4 ip block
  | .v6 ip =>
    (∃ inner, ip = mapped inner ∧ ∀ block ∈ reservedV4, ¬WithinV4 inner block) ∨
      WithinV6 ip (network 0x2000 0, 3) ∧
        ∀ block ∈ reservedV6, ¬WithinV6 ip block

theorem not_publicIpv4_of_within {ip : Ipv4Addr} {block : Ipv4Addr × Nat}
    (hBlock : block ∈ reservedV4) (h : WithinV4 ip block) : isPublicIpv4 ip = false := by
  have hIn (network : Ipv4Addr) (prefixLen : UInt32) (hLen : prefixLen.toNat ≤ 32)
      (hWithin : WithinV4 ip (network, prefixLen.toNat)) : ipv4In ip network prefixLen = true :=
    (ipv4In_within hLen).mpr hWithin
  simp only [reservedV4, List.mem_cons, List.not_mem_nil, or_false] at hBlock
  simp only [isPublicIpv4, Bool.not_eq_false', Bool.or_eq_true]
  rcases hBlock with rfl | rfl | rfl | rfl | rfl | rfl | rfl | rfl | rfl | rfl | rfl | rfl | rfl |
    rfl | rfl
  · simp only [hIn _ 8 (by decide) h, true_or, or_true]
  · simp only [isPrivate_of_within (.inl h), true_or, or_true]
  · simp only [hIn _ 10 (by decide) h, true_or, or_true]
  · simp only [isLoopback_of_within h, true_or, or_true]
  · simp only [isLinkLocal_of_within h, true_or, or_true]
  · simp only [isPrivate_of_within (.inr (.inl h)), true_or, or_true]
  · simp only [hIn _ 24 (by decide) h, true_or, or_true]
  · simp only [isDocumentation_of_within (.inl h), true_or, or_true]
  · simp only [hIn _ 24 (by decide) h, true_or, or_true]
  · simp only [isPrivate_of_within (.inr (.inr h)), true_or, or_true]
  · simp only [hIn _ 15 (by decide) h, true_or, or_true]
  · simp only [isDocumentation_of_within (.inr (.inl h)), true_or, or_true]
  · simp only [isDocumentation_of_within (.inr (.inr h)), true_or, or_true]
  · simp only [isMulticast_of_within h, true_or, or_true]
  · simp only [hIn _ 4 (by decide) h, or_true]

theorem public_of_isPublicIp {ip : IpAddr} (h : isPublicIp ip = true) : Public ip := by
  cases ip with
  | v4 ip =>
    intro block hBlock hWithin
    rw [isPublicIp, not_publicIpv4_of_within hBlock hWithin] at h
    cases h
  | v6 ip =>
    rw [isPublicIp] at h
    cases hMapped : mappedIpv4 ip with
    | some inner =>
      refine .inl ⟨inner, mappedIpv4_eq_some_iff.mp hMapped, ?_⟩
      intro block hBlock hWithin
      rw [hMapped, Option.map_some, Option.getD_some, not_publicIpv4_of_within hBlock hWithin] at h
      cases h
    | none =>
      rw [hMapped, Option.map_none, Option.getD_none] at h
      simp only [isPublicIpv6, Bool.and_eq_true, Bool.not_eq_true', ← Bool.not_eq_true] at h
      rw [ipv6In_within (by decide), ipv6In_within (by decide), ipv6In_within (by decide),
        ipv6In_within (by decide)] at h
      obtain ⟨⟨⟨hUnicast, hFirst⟩, hSecond⟩, hThird⟩ := h
      refine .inr ⟨hUnicast, ?_⟩
      intro block hBlock
      simp only [reservedV6, List.mem_cons, List.not_mem_nil, or_false] at hBlock
      rcases hBlock with rfl | rfl | rfl
      · exact hFirst
      · exact hSecond
      · exact hThird

end AiGateway.SourceUrl
