import WikiGateway.Net.Client
import WikiGateway.Net.Proxies
import WikiGateway.Text.Split

/-!
# The address behind a chain of proxies

A proxy adds the address of whoever connected to it at the end of the forwarded header. Starting from the connection
itself, the chain is followed backwards as long as each hop is a proxy whose word is taken.

* `followChain`: the walk along the hops.
* `resolveClient`: the address of the client of a request.
-/

namespace WikiGateway

/-- Why the address of a client is not known. -/
inductive ClientError
  /-- The connection has no usable address. -/
  | missing
  /-- The connection has more than one address. -/
  | severalAddresses (remote : String)
  /-- One of the installation's own proxies reported no address. -/
  | invalidHeader (header : String)
  /-- The walk ended without an address. -/
  | unresolvable
deriving DecidableEq, Repr, Inhabited

namespace ClientError

/-- The text of the error. -/
def message : ClientError → String
  | missing => "unable to determine IP: no remote address"
  | severalAddresses remote =>
    "could not determine the remote IP address due to multiple values: '" ++ remote ++ "'"
  | invalidHeader header => "invalid IP given in XFF '" ++ header ++ "'"
  | unresolvable => "unable to determine IP"

/-- A short label of the error. -/
def kind : ClientError → String
  | missing => "missing"
  | severalAddresses _ => "multiple_remote_addresses"
  | invalidHeader _ => "invalid_forwarded_for"
  | unresolvable => "unresolvable"

end ClientError

section
variable (proxies : ProxyLookup) (allowPrivate : Bool)

/-- Follows the chain from `hop` on through the hops behind it, where `answer` is the address known so far. A hop is
passed if it is trusted and the next one is not called unknown and is public, unless private addresses are allowed or
the hop is configured. -/
def followChain (header : String) (answer : Option IpAddress) (hop : String) :
    List String → Except ClientError (Option IpAddress)
  | [] => .ok answer
  | next :: behind =>
    match hopAddress? hop with
    | none => .ok answer
    | some current =>
      if next == "unknown" || !proxies.isTrusted current then .ok answer
      else
        let isConfigured := proxies.isConfigured current
        if !(isPublic next || allowPrivate || isConfigured) then .ok answer
        else
          match hopAddress? next with
          | none => if isConfigured then .error (.invalidHeader header) else followChain header none next behind
          | some a => followChain header (some a) next behind

/-- The hops of a forwarded header, the nearest first. -/
def forwardedHops (header : String) : List String :=
  ((Text.splitOn (· == ',') header.toList).map fun hop =>
    String.ofList (Text.trimBoth Text.isSpace hop)).reverse

/-- The address of the client of a request, from the address of the connection and the forwarded header. -/
def resolveClient (remote header : Option String) : Except ClientError IpAddress :=
  match (remote.map Text.trim).filter (· != "") with
  | none => .error .missing
  | some remote =>
    if remote.toList.contains ',' then .error (.severalAddresses remote)
    else
      match clientAddress? remote with
      | none => .error .missing
      | some address =>
        match header with
        | none => .ok address
        | some header =>
          match followChain proxies allowPrivate header (some address) remote (forwardedHops header) with
          | .error e => .error e
          | .ok none => .error .unresolvable
          | .ok (some a) => .ok a

end

end WikiGateway
