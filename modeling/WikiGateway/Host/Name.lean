import WikiGateway.Host.Idna
import WikiGateway.Net.Address
import WikiGateway.Text.Percent

/-!
# Hosts

A host is a domain name or an address. A name whose last label is a number is an address of version 4 in one of the
older spellings: fewer than four parts, of which the last one fills what is left, in base eight, ten or sixteen.

* `Host.parse?`: the host that a text names.
* `Host.toString`: its text, with an address of version 6 in brackets.
-/

namespace WikiGateway

/-- A domain name in its ASCII form, or an address. -/
inductive Host
  | domain (name : String)
  | ipv4 (address : Ipv4)
  | ipv6 (address : Ipv6)
deriving DecidableEq, Repr, Inhabited

namespace Host

/-! ## Numbers -/

/-- The value of digits in a base. -/
def numberIn (base : Nat) (digits : List Char) : Nat :=
  digits.foldl (fun n c => n * base + (Text.hexValue? c).getD 0) 0

/-- The number that one part of an address spells: in base sixteen after `0x`, in base eight after `0`. -/
def addressNumber? : List Char → Option Nat
  | [] => none
  | '0' :: 'x' :: digits | '0' :: 'X' :: digits =>
    if digits.all Text.isHexDigit then some (numberIn 16 digits) else none
  | '0' :: d :: digits =>
    if (d :: digits).all (fun c => '0' ≤ c && c ≤ '7') then some (numberIn 8 (d :: digits)) else none
  | digits => if digits.all Char.isDigit then some (numberIn 10 digits) else none

/-- The parts of a name between dots, without an empty one at the end. -/
def nameParts (name : List Char) : List (List Char) :=
  let parts := Text.splitOn (· == '.') name
  if parts.getLast? = some [] then parts.dropLast else parts

/-- Whether the last part of a name is a number. -/
def endsInNumber (name : List Char) : Bool :=
  match (nameParts name).getLast? with
  | none => false
  | some last => !last.isEmpty && (last.all Char.isDigit || (addressNumber? last).isSome)

/-- The address that numbers spell: all but the last fill one octet. -/
def addressOfNumbers? (numbers : List Nat) : Option Ipv4 :=
  match numbers.getLast? with
  | none => none
  | some last =>
    let octets := numbers.dropLast
    let bits := 8 * (4 - octets.length)
    if octets.length < 4 ∧ octets.all (· ≤ 255) = true ∧ last < 1 <<< bits then
      some (BitVec.ofNat 32 (octets.foldl (fun n octet => n * 256 + octet) 0 <<< bits + last))
    else none

/-- The address that a name whose last part is a number spells. -/
def addressOfName? (name : List Char) : Option Ipv4 :=
  match (nameParts name).mapM addressNumber? with
  | none => none
  | some numbers => addressOfNumbers? numbers

/-! ## Hosts -/

/-- The address of version 6 between brackets. -/
def bracketed? (cs : List Char) : Option Host :=
  if cs.getLast? = some ']' then (parseIpv6? (String.ofList cs.dropLast)).map .ipv6 else none

/-- The host that a name without brackets spells. -/
def ofName? (cs : List Char) : Option Host :=
  match (Text.decode? (Text.percentDecode (Text.encode (String.ofList cs)))).bind fun name =>
      Idna.toAscii? name.toList with
  | none => none
  | some name =>
    if name.isEmpty then none
    else if endsInNumber name then (addressOfName? name).map .ipv4
    else some (domain (String.ofList name))

/-- The host that a text names. -/
def parse? (s : String) : Option Host :=
  match s.toList with
  | '[' :: cs => bracketed? cs
  | cs => ofName? cs

/-- Characters that no host of a URL may hold, whatever its scheme. -/
def isForbiddenAnywhere (c : Char) : Bool :=
  c.toNat == 0 || c == '\t' || c == '\n' || c == '\r' || " #/:<>?@[\\]^|".contains c

/-- A byte other than a control character. -/
def isPrintableByte (b : UInt8) : Bool := 0x20 ≤ b && b < 0x7F

/-- The host that a text names in a URL whose scheme gives names no meaning. -/
def parseOpaque? (s : String) : Option Host :=
  match s.toList with
  | '[' :: cs => bracketed? cs
  | cs => if cs.any isForbiddenAnywhere then none else some (domain (Text.percentEncode isPrintableByte s))

/-- The text of a host, with an address of version 6 in brackets. -/
def toString : Host → String
  | domain name => name
  | ipv4 address => ipv4Text address
  | ipv6 address => "[" ++ ipv6GroupText address ++ "]"

instance : ToString Host := ⟨toString⟩

end Host

end WikiGateway
