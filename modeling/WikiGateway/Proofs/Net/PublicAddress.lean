import Mathlib.Data.Nat.Bitwise
import WikiGateway.Proofs.Net.Listed

/-!
# Which addresses are public

The test for public addresses looks at the first octets of an address, or at its first group under a mask. It finds
just the addresses outside of ten networks (`reservedNetworks`), where a network has the addresses that begin with the
same bits as its base (`Network.contains_iff`).

* `IpAddress.isPublic_iff`: addresses of either version.
* `isPublic_by_network`: texts, of which those of mapped addresses are judged by the address of version 4.
-/

namespace WikiGateway

/-! ## The same first bits -/

/-- Two bit vectors agree up to a length if each bit of the one is that of the other. -/
theorem samePrefix_iff {w : Nat} (length : Nat) (a b : BitVec w) :
    samePrefix length a b = true ↔ ∀ i < length, a.getMsbD i = b.getMsbD i := by
  rw [samePrefix, beq_iff_eq]
  constructor
  · intro h i hi
    by_cases hw : i < w
    · have hbit := congrArg (fun x : BitVec w => x.getLsbD (w - 1 - i - (w - length))) h
      simp only [BitVec.getLsbD_ushiftRight] at hbit
      rw [show w - length + (w - 1 - i - (w - length)) = w - 1 - i by omega] at hbit
      simp [BitVec.getMsbD_eq_getLsbD, hw, hbit]
    · simp [BitVec.getMsbD_eq_getLsbD, hw]
  · intro h
    refine BitVec.eq_of_getLsbD_eq fun j hj => ?_
    rw [BitVec.getLsbD_ushiftRight, BitVec.getLsbD_ushiftRight]
    by_cases hw : w - length + j < w
    · have hbit := h (w - 1 - (w - length + j)) (by omega)
      rw [BitVec.getMsbD_eq_getLsbD, BitVec.getMsbD_eq_getLsbD,
        show w - 1 - (w - 1 - (w - length + j)) = w - length + j by omega] at hbit
      simpa [show w - 1 - (w - length + j) < w by omega] using hbit
    · rw [BitVec.getLsbD_of_ge _ _ (by omega), BitVec.getLsbD_of_ge _ _ (by omega)]

/-- An address of the version of a network begins with the same bits as its base. -/
def Network.BeginsLike : Network → IpAddress → Prop
  | v4 base length, .v4 a => ∀ i < length, base.getMsbD i = a.getMsbD i
  | v6 base length, .v6 a => ∀ i < length, base.getMsbD i = a.getMsbD i
  | _, _ => False

/-- A network has the addresses that begin like its base. -/
theorem Network.contains_iff (network : Network) (a : IpAddress) :
    network.contains a = true ↔ network.BeginsLike a := by
  cases network <;> cases a <;> simp [contains, BeginsLike, samePrefix_iff]

/-! ## The reserved networks -/

/-- The networks whose addresses are reserved for private use, as they are written. -/
def reservedRanges : List String := [
  "10.0.0.0/8", "172.16.0.0/12", "192.168.0.0/16", "127.0.0.0/8", "0.0.0.0/8", "169.254.0.0/16",
  "fc00::/7", "fe80::/10", "::1/128", "::/128"]

/-- The networks whose addresses are reserved for private use. -/
def reservedNetworks : List Network := [
  .v4 0x0A000000 8, .v4 0xAC100000 12, .v4 0xC0A80000 16, .v4 0x7F000000 8, .v4 0 8, .v4 0xA9FE0000 16,
  .v6 0xFC000000000000000000000000000000 7, .v6 0xFE800000000000000000000000000000 10, .v6 1 128, .v6 0 128]

theorem map_parse?_reservedRanges : reservedRanges.map Network.parse? = reservedNetworks.map some := by
  decide +kernel

/-- A mask of ones above the last `k` bits clears these. -/
theorem and_ones_shiftLeft {x k m : Nat} (h : x < 2 ^ (k + m)) : x &&& (2 ^ m - 1) <<< k = x >>> k <<< k := by
  refine Nat.eq_of_testBit_eq fun i => ?_
  simp only [Nat.testBit_and, Nat.testBit_shiftLeft, Nat.testBit_shiftRight, Nat.testBit_two_pow_sub_one]
  by_cases hk : k ≤ i
  · by_cases hm : i - k < m
    · simp [hk, hm, Nat.add_sub_cancel' hk]
    · have hhigh : x.testBit i = false :=
        Nat.testBit_lt_two_pow (Nat.lt_of_lt_of_le h (Nat.pow_le_pow_right (by decide) (by omega)))
      simp [hk, Nat.add_sub_cancel' hk, hhigh]
  · simp [hk]

/-- The first group of an address under a mask that clears its last `k` bits. -/
theorem toNat_firstGroup_and (bits mask : Ipv6) {k m : Nat} (hwidth : k + m = 16)
    (hmask : mask.toNat = (2 ^ m - 1) <<< k) :
    ((bits >>> 112) &&& mask).toNat = bits.toNat / 2 ^ (112 + k) * 2 ^ k := by
  have hgroup : bits.toNat >>> 112 < 2 ^ (k + m) := by
    have hlt := bits.isLt
    rw [hwidth, Nat.shiftRight_eq_div_pow]
    omega
  rw [BitVec.toNat_and, BitVec.toNat_ushiftRight, hmask, and_ones_shiftLeft hgroup, ← Nat.shiftRight_add,
    Nat.shiftRight_eq_div_pow, Nat.shiftLeft_eq]

namespace IpAddress

/-- The public addresses are those outside of the reserved networks. -/
theorem isPublic_eq (a : IpAddress) : a.isPublic = !reservedNetworks.any (·.contains a) := by
  cases a with
  | v4 bits =>
    have hlt := bits.isLt
    have hsecond : ((bits >>> 16) &&& 0xFF).toNat = bits.toNat / 65536 % 256 := by
      rw [BitVec.toNat_and, BitVec.toNat_ushiftRight, Nat.shiftRight_eq_div_pow]
      exact Nat.and_two_pow_sub_one_eq_mod _ 8
    rw [isPublic]
    refine congrArg (! ·) (Bool.eq_iff_iff.mpr ?_)
    simp only [reservedNetworks, List.any_cons, List.any_nil, Network.contains, samePrefix, Bool.or_false,
      Bool.or_eq_true, Bool.and_eq_true, beq_iff_eq, decide_eq_true_eq, ← BitVec.toNat_inj, BitVec.le_def,
      BitVec.toNat_ushiftRight, hsecond, Nat.shiftRight_eq_div_pow]
    simp only [BitVec.ofNat_eq_ofNat, BitVec.toNat_ofNat, Nat.reducePow, Nat.reduceMod, Nat.reduceSub]
    omega
  | v6 bits =>
    have hlt := bits.isLt
    have hseven := toNat_firstGroup_and bits 0xFE00 (k := 9) (m := 7) rfl rfl
    have hten := toNat_firstGroup_and bits 0xFFC0 (k := 6) (m := 10) rfl rfl
    rw [isPublic]
    refine congrArg (! ·) (Bool.eq_iff_iff.mpr ?_)
    simp only [reservedNetworks, List.any_cons, List.any_nil, Network.contains, samePrefix, Bool.or_false,
      Bool.false_or, Bool.or_eq_true, beq_iff_eq, ← BitVec.toNat_inj, BitVec.toNat_ushiftRight, hseven, hten,
      Nat.shiftRight_eq_div_pow]
    simp only [BitVec.ofNat_eq_ofNat, BitVec.toNat_ofNat, Nat.reduceAdd, Nat.reducePow, Nat.reduceMod, Nat.reduceSub]
    omega

end IpAddress

/-- The public addresses are those that begin like none of the reserved networks. -/
theorem IpAddress.isPublic_iff (a : IpAddress) : a.isPublic = true ↔
    ∀ range ∈ reservedRanges, ∃ network, Network.parse? range = some network ∧ ¬ network.BeginsLike a := by
  have hranges : (∀ range ∈ reservedRanges, ∃ network, Network.parse? range = some network ∧ ¬ network.BeginsLike a) ↔
      ∀ read ∈ reservedRanges.map Network.parse?, ∃ network, read = some network ∧ ¬ network.BeginsLike a := by
    rw [List.forall_mem_map]
  rw [hranges, map_parse?_reservedRanges, List.forall_mem_map, isPublic_eq]
  simp [Network.contains_iff]

/-! ## Texts of addresses -/

/-- The address that a client's text spells, before a mapped address is unwrapped. -/
def spelledAddress? (s : String) : Option IpAddress :=
  IpAddress.parse? (String.ofList (withoutBrackets (Text.trimBoth Text.isSpace s.toList)))

theorem clientAddress?_eq (s : String) : clientAddress? s = (spelledAddress? s).map IpAddress.unmapped := rfl

theorem isPublic_of_clientAddress? {s : String} {a : IpAddress} (h : clientAddress? s = some a) :
    WikiGateway.isPublic s = a.isPublic := by
  rw [WikiGateway.isPublic, h, Option.map_some, Option.getD_some]

/-- **A text is public exactly if it spells an address that begins like none of the reserved networks.** A text of
a mapped address is judged by the address of version 4 in it. -/
theorem isPublic_by_network (s : String) :
    (isPublic s = true ↔ ∃ a, clientAddress? s = some a ∧
      ∀ range ∈ reservedRanges, ∃ network, Network.parse? range = some network ∧ ¬ network.BeginsLike a) ∧
    ∀ b, spelledAddress? s = some (.v6 (mapIpv4 b)) →
      clientAddress? s = some (.v4 b) ∧ isPublic s = isPublic (ipv4Text b) := by
  refine ⟨?_, fun b hb => ?_⟩
  · simp only [← IpAddress.isPublic_iff]
    cases h : clientAddress? s with
    | none => simp [isPublic, h]
    | some a => simp [isPublic_of_clientAddress? h]
  · have hclient : clientAddress? s = some (.v4 b) := by
      rw [clientAddress?_eq, hb, Option.map_some, IpAddress.unmapped_mapIpv4]
    have htext : clientAddress? (ipv4Text b) = some (.v4 b) := IpAddress.clientAddress?_toString (.v4 b)
    exact ⟨hclient, by rw [isPublic_of_clientAddress? hclient, isPublic_of_clientAddress? htext]⟩

/-- A mapped address between brackets and blanks. -/
theorem isPublic_by_network_mapped :
    spelledAddress? " [::FFFF:10.1.2.3] " = some (.v6 (mapIpv4 0x0A010203)) ∧
      clientAddress? " [::FFFF:10.1.2.3] " = some (.v4 0x0A010203) ∧
      isPublic " [::FFFF:10.1.2.3] " = isPublic (ipv4Text 0x0A010203) := by
  have hspelled : spelledAddress? " [::FFFF:10.1.2.3] " = some (.v6 (mapIpv4 0x0A010203)) := by decide +kernel
  exact ⟨hspelled, (isPublic_by_network " [::FFFF:10.1.2.3] ").2 0x0A010203 hspelled⟩

end WikiGateway
