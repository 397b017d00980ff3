import Mathlib.Data.Nat.Digits.Defs

/-!
# Internet addresses

Octets and segments in network order, and the blocks of addresses that share their
leading bits.
-/

namespace AiGateway.Net

set_option autoImplicit false

structure Ipv4Addr where
  octets : List UInt8
  four : octets.length = 4
  deriving DecidableEq, Repr

structure Ipv6Addr where
  segments : List UInt16
  eight : segments.length = 8
  deriving DecidableEq, Repr

inductive IpAddr where
  | v4 (ip : Ipv4Addr)
  | v6 (ip : Ipv6Addr)
  deriving DecidableEq, Repr

/-- The number written by digits, the most significant first. -/
def fromBeDigits (base : Nat) (digits : List Nat) : Nat :=
  digits.foldl (fun n digit => n * base + digit) 0

theorem fromBeDigits_eq_ofDigits (base : Nat) (digits : List Nat) :
    fromBeDigits base digits = Nat.ofDigits base digits.reverse := by
  rw [fromBeDigits, Nat.ofDigits_eq_foldr, List.foldr_reverse]
  simp only [Nat.cast_id, Nat.add_comm, Nat.mul_comm]

theorem fromBeDigits_lt {base : Nat} (hBase : 1 < base) {digits : List Nat}
    (h : ∀ d ∈ digits, d < base) : fromBeDigits base digits < base ^ digits.length := by
  rw [fromBeDigits_eq_ofDigits, ← List.length_reverse]
  exact Nat.ofDigits_lt_base_pow_length hBase fun d hd => h d (List.mem_reverse.mp hd)

theorem fromBeDigits_inj {base : Nat} (hBase : 1 < base) {xs ys : List Nat}
    (hLength : xs.length = ys.length) (hx : ∀ d ∈ xs, d < base) (hy : ∀ d ∈ ys, d < base)
    (h : fromBeDigits base xs = fromBeDigits base ys) : xs = ys := by
  rw [fromBeDigits_eq_ofDigits, fromBeDigits_eq_ofDigits] at h
  apply List.reverse_inj.mp
  refine Nat.ofDigits_inj_of_len_eq hBase ?_ ?_ ?_ h
  · rw [List.length_reverse, List.length_reverse, hLength]
  · exact fun d hd => hx d (List.mem_reverse.mp hd)
  · exact fun d hd => hy d (List.mem_reverse.mp hd)

namespace Ipv4Addr

def new (a b c d : UInt8) : Ipv4Addr := ⟨[a, b, c, d], rfl⟩

/-- `u32::from_be_bytes` of the octets. -/
def toNat (ip : Ipv4Addr) : Nat := fromBeDigits 256 (ip.octets.map UInt8.toNat)

theorem octet_lt (ip : Ipv4Addr) : ∀ d ∈ ip.octets.map UInt8.toNat, d < 256 := by
  intro d hd
  obtain ⟨b, -, rfl⟩ := List.mem_map.mp hd
  exact b.toNat_lt

theorem toNat_lt (ip : Ipv4Addr) : ip.toNat < 2 ^ 32 := by
  have hBound := fromBeDigits_lt (by decide) ip.octet_lt
  rw [List.length_map, ip.four] at hBound
  exact hBound

theorem toNat_inj {ip ip' : Ipv4Addr} (h : ip.toNat = ip'.toNat) : ip = ip' := by
  have hLength : (ip.octets.map UInt8.toNat).length = (ip'.octets.map UInt8.toNat).length := by
    rw [List.length_map, List.length_map, ip.four, ip'.four]
  have hOctets := fromBeDigits_inj (by decide) hLength ip.octet_lt ip'.octet_lt h
  have hSame := (List.map_inj_right fun _ _ => UInt8.toNat_inj.mp).mp hOctets
  obtain ⟨octets, _⟩ := ip
  obtain ⟨octets', _⟩ := ip'
  cases hSame
  rfl

theorem eq_new (ip : Ipv4Addr) : ∃ a b c d, ip = new a b c d := by
  obtain ⟨octets, hFour⟩ := ip
  match octets, hFour with
  | [a, b, c, d], _ => exact ⟨a, b, c, d, rfl⟩

theorem toNat_new (a b c d : UInt8) :
    (new a b c d).toNat = ((a.toNat * 256 + b.toNat) * 256 + c.toNat) * 256 + d.toNat := by
  simp [toNat, new, fromBeDigits]

def isUnspecified (ip : Ipv4Addr) : Bool := ip.octets = [0, 0, 0, 0]

def isLoopback (ip : Ipv4Addr) : Bool := ip.octets.head? = some 127

def isPrivate (ip : Ipv4Addr) : Bool :=
  match ip.octets with
  | a :: b :: _ => a = 10 || (a = 172 && 16 ≤ b && b ≤ 31) || (a = 192 && b = 168)
  | _ => false

def isLinkLocal (ip : Ipv4Addr) : Bool := ip.octets.take 2 = [169, 254]

def isMulticast (ip : Ipv4Addr) : Bool :=
  match ip.octets with
  | a :: _ => 224 ≤ a && a ≤ 239
  | [] => false

def isBroadcast (ip : Ipv4Addr) : Bool := ip.octets = [255, 255, 255, 255]

instance : LawfulBEq (List UInt8) := inferInstance

def isDocumentation (ip : Ipv4Addr) : Bool :=
  ip.octets.take 3 ∈ [[192, 0, 2], [198, 51, 100], [203, 0, 113]]

end Ipv4Addr

namespace Ipv6Addr

theorem eq_segments (ip : Ipv6Addr) :
    ∃ a b c d e f g h, ip.segments = [a, b, c, d, e, f, g, h] := by
  obtain ⟨segments, hEight⟩ := ip
  match segments, hEight with
  | [a, b, c, d, e, f, g, h], _ => exact ⟨a, b, c, d, e, f, g, h, rfl⟩

/-- `u128::from_be_bytes` of the octets. -/
def toNat (ip : Ipv6Addr) : Nat := fromBeDigits 65536 (ip.segments.map UInt16.toNat)

theorem segment_lt (ip : Ipv6Addr) : ∀ d ∈ ip.segments.map UInt16.toNat, d < 65536 := by
  intro d hd
  obtain ⟨s, -, rfl⟩ := List.mem_map.mp hd
  exact s.toNat_lt

theorem toNat_lt (ip : Ipv6Addr) : ip.toNat < 2 ^ 128 := by
  have hBound := fromBeDigits_lt (by decide) ip.segment_lt
  rw [List.length_map, ip.eight] at hBound
  exact hBound

theorem toNat_inj {ip ip' : Ipv6Addr} (h : ip.toNat = ip'.toNat) : ip = ip' := by
  have hLength : (ip.segments.map UInt16.toNat).length = (ip'.segments.map UInt16.toNat).length := by
    rw [List.length_map, List.length_map, ip.eight, ip'.eight]
  have hSegments := fromBeDigits_inj (by decide) hLength ip.segment_lt ip'.segment_lt h
  have hSame := (List.map_inj_right fun _ _ => UInt16.toNat_inj.mp).mp hSegments
  obtain ⟨segments, _⟩ := ip
  obtain ⟨segments', _⟩ := ip'
  cases hSame
  rfl

def isUnspecified (ip : Ipv6Addr) : Bool := ip.segments = [0, 0, 0, 0, 0, 0, 0, 0]

def isMulticast (ip : Ipv6Addr) : Bool :=
  match ip.segments with
  | s :: _ => s &&& 0xff00 = 0xff00
  | [] => false

end Ipv6Addr

/-- The bits left by a mask of `width - shift` leading ones; a shift by the whole width
is refused and leaves none. -/
def mask (width shift : Nat) : BitVec width :=
  if shift < width then BitVec.allOnes width <<< shift else 0

theorem getLsbD_mask (width shift i : Nat) :
    (mask width shift).getLsbD i = (decide (i < width) && decide (shift ≤ i)) := by
  unfold mask
  split
  · rw [BitVec.getLsbD_shiftLeft]
    by_cases hi : i < width
    · by_cases hs : i < shift
      · simp [hs]
      · simp [hi, hs]
        omega
    · simp [hi]
  · have hZero : (0 : BitVec width).getLsbD i = false := BitVec.getLsbD_zero
    rw [hZero, eq_comm, Bool.and_eq_false_iff, decide_eq_false_iff_not, decide_eq_false_iff_not]
    omega

theorem and_mask_eq_iff {width : Nat} (x y : BitVec width) (shift : Nat) :
    x &&& mask width shift = y &&& mask width shift ↔
      x.toNat / 2 ^ shift = y.toNat / 2 ^ shift := by
  rw [← Nat.shiftRight_eq_div_pow, ← Nat.shiftRight_eq_div_pow, ← BitVec.toNat_ushiftRight,
    ← BitVec.toNat_ushiftRight, BitVec.toNat_inj]
  constructor
  · intro h
    apply BitVec.eq_of_getLsbD_eq
    intro i _
    have hBit := congrArg (fun word => word.getLsbD (shift + i)) h
    simp only [BitVec.getLsbD_and, getLsbD_mask, Nat.le_add_right, decide_true, Bool.and_true]
      at hBit
    rw [BitVec.getLsbD_ushiftRight, BitVec.getLsbD_ushiftRight]
    by_cases hi : shift + i < width
    · simpa [hi] using hBit
    · rw [BitVec.getLsbD_of_ge x _ (Nat.not_lt.mp hi), BitVec.getLsbD_of_ge y _ (Nat.not_lt.mp hi)]
  · intro h
    apply BitVec.eq_of_getLsbD_eq
    intro i _
    rw [BitVec.getLsbD_and, BitVec.getLsbD_and, getLsbD_mask]
    by_cases hs : shift ≤ i
    · have hBit := congrArg (fun word => word.getLsbD (i - shift)) h
      simp only [BitVec.getLsbD_ushiftRight, Nat.add_sub_cancel' hs] at hBit
      rw [hBit]
    · simp [hs]

/-- Two addresses of a width that agree but for the last `shift` bits. -/
def inBlock (width address network shift : Nat) : Bool :=
  BitVec.ofNat width address &&& mask width shift = BitVec.ofNat width network &&& mask width shift

theorem inBlock_iff {width address network : Nat} (hAddress : address < 2 ^ width)
    (hNetwork : network < 2 ^ width) (shift : Nat) :
    inBlock width address network shift = true ↔ address / 2 ^ shift = network / 2 ^ shift := by
  rw [inBlock, decide_eq_true_eq, and_mask_eq_iff, BitVec.toNat_ofNat, BitVec.toNat_ofNat,
    Nat.mod_eq_of_lt hAddress, Nat.mod_eq_of_lt hNetwork]

theorem div_eq_div_iff {address network size : Nat} (h : 0 < size) :
    address / size = network / size ↔
      network / size * size ≤ address ∧ address < network / size * size + size := by
  rw [Nat.div_eq_iff h, Nat.mul_comm]
  constructor
  · rintro ⟨hFrom, hTo⟩
    exact ⟨hFrom, by omega⟩
  · rintro ⟨hFrom, hTo⟩
    exact ⟨hFrom, by omega⟩

end AiGateway.Net
