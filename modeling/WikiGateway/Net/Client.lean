import WikiGateway.Net.Address

/-!
# Addresses of clients

How the address of a client is read from text, and which addresses are public.

* `clientAddress?`: the address of a text, with blanks and brackets removed and mapped addresses unwrapped.
* `hopAddress?`: the same, where the loopback address of version 6 reads as that of version 4.
* `isPublic`: whether a text spells an address that is not reserved for private use.
-/

namespace WikiGateway

/-- A text without brackets around it. -/
def withoutBrackets (cs : List Char) : List Char :=
  match cs with
  | '[' :: rest => if rest.getLast? = some ']' then rest.dropLast else cs
  | _ => cs

/-- The address with a mapped address of version 4 unwrapped. -/
def IpAddress.unmapped : IpAddress → IpAddress
  | v4 a => v4 a
  | v6 a =>
    match mappedIpv4? a with
    | some b => v4 b
    | none => v6 a

/-- The address that a client's text spells. -/
def clientAddress? (s : String) : Option IpAddress :=
  (IpAddress.parse? (String.ofList (withoutBrackets (Text.trimBoth Text.isSpace s.toList)))).map
    IpAddress.unmapped

/-- The address with the loopback address of version 6 replaced by that of version 4. -/
def IpAddress.foldLoopback (a : IpAddress) : IpAddress := if a = v6 1 then v4 0x7F000001 else a

/-- The address that a hop of a chain of proxies spells. -/
def hopAddress? (s : String) : Option IpAddress := (clientAddress? s).map IpAddress.foldLoopback

/-- Whether an address is not reserved for private use. -/
def IpAddress.isPublic : IpAddress → Bool
  | v4 bits =>
    let a := bits >>> 24
    let b := (bits >>> 16) &&& 0xFF
    !(a == 10 || (a == 172 && 16 ≤ b && b ≤ 31) || (a == 192 && b == 168) || a == 127 || a == 0 ||
      (a == 169 && b == 254))
  | v6 bits =>
    let first := bits >>> 112
    !(first &&& 0xFE00 == 0xFC00 || first &&& 0xFFC0 == 0xFE80 || bits == 1 || bits == 0)

/-- Whether a text spells an address that is not reserved for private use. -/
def isPublic (s : String) : Bool := ((clientAddress? s).map IpAddress.isPublic).getD false

end WikiGateway
