import WikiGateway.Net.Address

/-!
# Networks

A network is the set of addresses of one version that begin with the same bits.

* `Network.contains`: membership.
* `Network.parse?`: the network that a text spells: an address with a length, or an address alone.
* `contains_single`: an address alone is a network of one.
-/

namespace WikiGateway

/-- The addresses that share their first bits with a base address. -/
inductive Network
  | v4 (base : Ipv4) (length : Nat)
  | v6 (base : Ipv6) (length : Nat)
deriving DecidableEq, Repr, Inhabited

/-- Whether two bit vectors have the same first `length` bits. -/
def samePrefix {w : Nat} (length : Nat) (a b : BitVec w) : Bool := a >>> (w - length) == b >>> (w - length)

/-- A bit vector with zeros after its first `length` bits. -/
def keepPrefix {w : Nat} (length : Nat) (a : BitVec w) : BitVec w := (a >>> (w - length)) <<< (w - length)

namespace Network

/-- Whether an address belongs to a network. -/
def contains : Network → IpAddress → Bool
  | v4 base length, .v4 a => samePrefix length base a
  | v6 base length, .v6 a => samePrefix length base a
  | _, _ => false

/-- The network of one address. -/
def single : IpAddress → Network
  | .v4 a => v4 a 32
  | .v6 a => v6 a 128

/-- The text of a network: its base and its length. -/
def toString : Network → String
  | v4 base length => ipv4Text base ++ "/" ++ length.repr
  | v6 base length => ipv6Text base ++ "/" ++ length.repr

instance : ToString Network := ⟨toString⟩

/-- Reads the length of a network. -/
def readLength (maxDigits width : Nat) : List Char → Option Nat
  | '/' :: cs => whenComplete (AddressGrammar.readDecimal maxDigits (width + 1) cs)
  | _ => none

/-- The network of an address with a length. -/
def ofRange? (cs : List Char) : Option Network :=
  let asV4 := (AddressGrammar.lenient.readIpv4 cs).bind fun (a, rest) =>
    (readLength 2 32 rest).map fun length => v4 (keepPrefix length a) length
  let asV6 := (AddressGrammar.lenient.readIpv6 cs).bind fun (a, rest) =>
    (readLength 3 128 rest).map fun length => v6 (keepPrefix length a) length
  asV4 <|> asV6

/-- The network that a text spells: an address with a length, or an address alone. -/
def parse? (s : String) : Option Network := ofRange? s.toList <|> (IpAddress.parse? s).map single

/-- An address alone is a network of one. -/
theorem contains_single (a b : IpAddress) : (single a).contains b = decide (a = b) := by
  cases a <;> cases b <;> simp [single, contains, samePrefix] <;> rfl

end Network

end WikiGateway
