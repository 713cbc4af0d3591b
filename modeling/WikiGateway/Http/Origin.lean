import WikiGateway.Host.Name
import WikiGateway.Http.Transport
import WikiGateway.Text.Split

/-!
# Scheme, host and port of a request

The origin under which a client reached the server, from the variables and header fields of the request.

* `detectProtocol`: whether the connection of the client is encrypted.
* `splitHostPort?`, `joinHostPort`: a host with an optional port as text.
* `detectServer`: the origin, from the first of several sources that names a host.
-/

namespace WikiGateway

/-- The protocol of a request. -/
inductive Protocol
  | http
  | https
deriving DecidableEq, Repr, Inhabited

namespace Protocol

/-- The scheme of the protocol's URLs. -/
def scheme : Protocol → String
  | http => "http"
  | https => "https"

/-- The port that is used when none is given. -/
def standardPort : Protocol → Nat
  | http => 80
  | https => 443

end Protocol

/-- The protocol of a request: encrypted if the server or a proxy says so. -/
def detectProtocol (t : Transport) : Protocol :=
  let isDirect := (t.https.map fun v => v != "" && v != "off").getD false
  if isDirect || t.header? "X-Forwarded-Proto" == some "https" then .https else .http

/-! ## Hosts with ports -/

/-- The value of a port: decimal digits that stay below 65536. -/
def parsePort? (cs : List Char) : Option Nat :=
  if isPort cs then some (Text.digitsValue cs) else none

/-- An address of version 6 in brackets, from the text after the opening one. -/
def splitBracketed? (cs : List Char) : Option (String × Option Nat) :=
  match Text.cut? (· == ']') cs with
  | none => none
  | some (address, tail) =>
    let address := String.ofList address
    if (parseIpv6? address).isNone then none
    else match tail with
      | [] => some (address, none)
      | ':' :: port => (parsePort? port).map fun port => (address, some port)
      | _ => none

/-- A name with an optional port, where `isName` says which names there are. -/
def splitNamed? (isName : String → Bool) (cs : List Char) : Option (String × Option Nat) :=
  match Text.cut? (· == ':') cs with
  | none => check cs none
  | some (name, port) => (parsePort? port).bind fun port => check name (some port)
where
  /-- The pair, if the name is one. -/
  check (name : List Char) (port : Option Nat) : Option (String × Option Nat) :=
    let name := String.ofList name
    if name != "" && isName name then some (name, port) else none

/-- Splits a host with an optional port: an address of version 6 in brackets or alone, or a name. -/
def splitHostPortWith? (isName : String → Bool) (s : String) : Option (String × Option Nat) :=
  match s.toList with
  | '[' :: cs => splitBracketed? cs
  | cs =>
    if 1 < cs.count ':' then (parseIpv6? s).map fun _ => (s, none)
    else splitNamed? isName cs

/-- Splits a host with an optional port. -/
def splitHostPort? (s : String) : Option (String × Option Nat) :=
  splitHostPortWith? (fun name => (Host.parse? name).isSome) s

/-- Joins a host and a port, with an address of version 6 in brackets and without the default port. -/
def joinHostPort (host : String) (port defaultPort : Nat) : String :=
  let host := if host.toList.contains ':' then "[" ++ host ++ "]" else host
  if port = defaultPort then host else host ++ ":" ++ port.repr

/-! ## The origin -/

/-- The sources of the host in the order in which they are tried. -/
def hostSources (t : Transport) : List String :=
  [t.header? "Host", t.serverName, t.hostname, t.serverAddr].filterMap id

/-- The origin of a request. A port in its source is ignored if a proxy passed on the protocol and standard ports are
to be assumed. -/
def detectServerWith (isName : String → Bool) (t : Transport) (assumeDefaultPorts : Bool) : String :=
  let protocol := detectProtocol t
  let standard := protocol.standardPort
  let (host, port) :=
    match (hostSources t).findSome? (splitHostPortWith? isName) with
    | none => ("localhost", standard)
    | some (host, port) =>
      (host,
        if assumeDefaultPorts && (t.header? "X-Forwarded-Proto").isSome then standard
        else (port <|> t.serverPort).getD standard)
  protocol.scheme ++ "://" ++ joinHostPort host port standard

/-- The origin of a request. -/
def detectServer (t : Transport) (assumeDefaultPorts : Bool) : String :=
  detectServerWith (fun name => (Host.parse? name).isSome) t assumeDefaultPorts

end WikiGateway
