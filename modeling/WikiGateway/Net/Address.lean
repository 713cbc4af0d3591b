import WikiGateway.Text.Chars

/-!
# Internet addresses

Addresses of both versions of the protocol as bit vectors, with their written forms. Version 6 addresses are written in
groups of sixteen bits, of which one run of zeros may be left out, and whose last two groups may be a version 4 address.

* `IpAddress.parse?`: the address of a text.
* `IpAddress.toString`: the canonical text, where the longest run of zero groups is left out.
* `socketAddress?`: an address with a port.
-/

namespace WikiGateway

/-- An address of version 4. -/
abbrev Ipv4 := BitVec 32

/-- An address of version 6. -/
abbrev Ipv6 := BitVec 128

/-- An Internet address. -/
inductive IpAddress
  | v4 (bits : Ipv4)
  | v6 (bits : Ipv6)
deriving DecidableEq, Repr, Inhabited

/-! ## Reading -/

/-- How strictly addresses are read. -/
structure AddressGrammar where
  /-- Whether an octet may have leading zeros. -/
  leadingZeros : Bool
  /-- Whether two colons may stand for no group at all. -/
  emptyGap : Bool

/-- The grammar of addresses that stand alone. -/
def AddressGrammar.strict : AddressGrammar := ⟨false, false⟩

/-- The grammar of addresses in front of a network's length. -/
def AddressGrammar.lenient : AddressGrammar := ⟨true, true⟩

namespace AddressGrammar

/-- The value of digits in base sixteen. -/
def hexNumber (digits : List Char) : Nat :=
  digits.foldl (fun n c => n * 16 + (Text.hexValue? c).getD 0) 0

/-- Reads a decimal number of at most `maxDigits` digits that is below `limit`. -/
def readDecimal (maxDigits limit : Nat) (cs : List Char) : Option (Nat × List Char) :=
  let digits := cs.takeWhile Char.isDigit
  let n := Text.digitsValue digits
  if digits.isEmpty || maxDigits < digits.length || limit ≤ n then none
  else some (n, cs.dropWhile Char.isDigit)

/-- Reads a group of at most four digits in base sixteen. -/
def readGroup (cs : List Char) : Option (Nat × List Char) :=
  let digits := cs.takeWhile Text.isHexDigit
  if digits.isEmpty || 4 < digits.length then none else some (hexNumber digits, cs.dropWhile Text.isHexDigit)

variable (g : AddressGrammar)

/-- Reads one octet. -/
def readOctet (cs : List Char) : Option (Nat × List Char) :=
  match cs with
  | '0' :: d :: _ => if d.isDigit && !g.leadingZeros then none else readDecimal 3 256 cs
  | _ => readDecimal 3 256 cs

/-- Reads octets, each after a dot. -/
def readDottedOctets : Nat → List Char → Option (List Nat × List Char)
  | 0, cs => some ([], cs)
  | count + 1, '.' :: cs =>
    match g.readOctet cs with
    | none => none
    | some (octet, cs) => (readDottedOctets count cs).map fun (octets, cs) => (octet :: octets, cs)
  | _ + 1, _ => none

/-- Reads an address of version 4. -/
def readIpv4 (cs : List Char) : Option (Ipv4 × List Char) :=
  match g.readOctet cs with
  | none => none
  | some (octet, cs) => (g.readDottedOctets 3 cs).map fun (octets, cs) =>
    (BitVec.ofNat 32 ((octet :: octets).foldl (fun n octet => n * 256 + octet) 0), cs)

/-- What follows the colon between two groups; there is none before the first. -/
def afterColon? (isFirst : Bool) (cs : List Char) : Option (List Char) :=
  if isFirst then some cs
  else match cs with
    | ':' :: cs => some cs
    | _ => none

/-- Reads up to a number of groups. The flag says whether the last two came from an address of version 4, which ends
the groups. -/
def readGroups (isFirst : Bool) : Nat → List Char → List Nat × Bool × List Char
  | 0, cs => ([], false, cs)
  | count + 1, cs =>
    match afterColon? isFirst cs with
    | none => ([], false, cs)
    | some body =>
      match if count = 0 then none else g.readIpv4 body with
      | some (ipv4, rest) => ([ipv4.toNat / 65536, ipv4.toNat % 65536], true, rest)
      | none =>
        match readGroup body with
        | none => ([], false, cs)
        | some (group, rest) =>
          let (groups, endsInIpv4, rest) := readGroups false count rest
          (group :: groups, endsInIpv4, rest)

/-- The address of eight groups. -/
def ipv6OfGroups (groups : List Nat) : Ipv6 := BitVec.ofNat 128 (groups.foldl (fun n group => n * 65536 + group) 0)

/-- Reads an address of version 6. -/
def readIpv6 (cs : List Char) : Option (Ipv6 × List Char) :=
  let (front, endsInIpv4, rest) := g.readGroups true 8 cs
  if front.length = 8 then some (ipv6OfGroups front, rest)
  else if endsInIpv4 then none
  else match rest with
    | ':' :: ':' :: rest =>
      let (back, _, rest) := g.readGroups true (8 - front.length - (if g.emptyGap then 0 else 1)) rest
      some (ipv6OfGroups (front ++ List.replicate (8 - front.length - back.length) 0 ++ back), rest)
    | _ => none

end AddressGrammar

/-- The value that was read, if nothing is left. -/
def whenComplete {α : Type} : Option (α × List Char) → Option α
  | some (value, []) => some value
  | _ => none

/-- The address of version 4 that a text spells. -/
def parseIpv4? (s : String) : Option Ipv4 := whenComplete (AddressGrammar.strict.readIpv4 s.toList)

/-- The address of version 6 that a text spells. -/
def parseIpv6? (s : String) : Option Ipv6 := whenComplete (AddressGrammar.strict.readIpv6 s.toList)

-- Unfolding the readers is of no use where an address is only compared or classified, and it is slow.
/-- The address that a text spells. -/
@[irreducible] def IpAddress.parse? (s : String) : Option IpAddress :=
  (parseIpv4? s).map .v4 <|> (parseIpv6? s).map .v6

/-! ## Writing -/

/-- The four octets, the most significant first. -/
def ipv4Octets (a : Ipv4) : List Nat :=
  [a.toNat / 16777216, a.toNat / 65536 % 256, a.toNat / 256 % 256, a.toNat % 256]

/-- The text of an address of version 4. -/
def ipv4Text (a : Ipv4) : String := String.intercalate "." ((ipv4Octets a).map (fun n => n.repr))

/-- The eight groups, the most significant first. -/
def ipv6Groups (a : Ipv6) : List Nat := (List.range 8).map fun i => a.toNat >>> (16 * (7 - i)) % 65536

/-- The first longest run of zeros from the position `i` on: where it starts and how long it is. -/
def longestZeroRun (i : Nat) : List Nat → Nat × Nat
  | [] => (i, 0)
  | group :: groups =>
    let run := ((group :: groups).takeWhile (· == 0)).length
    let later := longestZeroRun (i + 1) groups
    if later.2 ≤ run then (i, run) else later

/-- Groups in base sixteen with colons between. -/
def groupsText (groups : List Nat) : String := String.intercalate ":" (groups.map Text.hexText)

/-- The text of an address of version 6 in groups alone, where the longest run of two or more zeros is left out. -/
def ipv6GroupText (a : Ipv6) : String :=
  let groups := ipv6Groups a
  let (start, run) := longestZeroRun 0 groups
  if 1 < run then groupsText (groups.take start) ++ "::" ++ groupsText (groups.drop (start + run))
  else groupsText groups

/-- The address of version 4 that is mapped into version 6, if the address is such a one. -/
def mappedIpv4? (a : Ipv6) : Option Ipv4 :=
  if a >>> 32 = 0xFFFF then some (a.setWidth 32) else none

/-- The text of an address of version 6, where a mapped address of version 4 keeps its dots. -/
def ipv6Text (a : Ipv6) : String :=
  match mappedIpv4? a with
  | some v4 => "::ffff:" ++ ipv4Text v4
  | none => ipv6GroupText a

/-- The canonical text of an address. -/
def IpAddress.toString : IpAddress → String
  | v4 a => ipv4Text a
  | v6 a => ipv6Text a

instance : ToString IpAddress := ⟨IpAddress.toString⟩

/-! ## Ports -/

/-- Whether a text is a port number. -/
def isPort (cs : List Char) : Bool := !cs.isEmpty && cs.all Char.isDigit && Text.digitsValue cs < 65536

/-- What follows a zone number, if there is one. -/
def afterZone? : List Char → Option (List Char)
  | '%' :: cs =>
    let digits := cs.takeWhile Char.isDigit
    if digits.isEmpty || 0x100000000 ≤ Text.digitsValue digits then none else some (cs.dropWhile Char.isDigit)
  | cs => some cs

/-- The address and the port of a text; an address of version 6 stands in brackets and may have a zone. -/
def socketAddress? (s : String) : Option (IpAddress × Nat) :=
  match s.toList with
  | '[' :: cs =>
    match AddressGrammar.strict.readIpv6 cs with
    | none => none
    | some (a, cs) =>
      match afterZone? cs with
      | some (']' :: ':' :: port) => if isPort port then some (.v6 a, Text.digitsValue port) else none
      | _ => none
  | cs =>
    match AddressGrammar.strict.readIpv4 cs with
    | some (a, ':' :: port) => if isPort port then some (.v4 a, Text.digitsValue port) else none
    | _ => none

/-- Whether a text is an address with a port. -/
def isSocketAddress (s : String) : Bool := (socketAddress? s).isSome

end WikiGateway
