import WikiGateway.Config.Reload
import WikiGateway.Request.Dispatch
import WikiGateway.Server.Body
import WikiGateway.Server.Target

/-!
# The front controller

Every request on the wire takes one way: its body is read, its entry point and the parameters of its path are found,
the address of the client is resolved, and the handler of the entry point answers. Whatever fails is told to the client
in plain text.

* `Incoming.transport`: a request on the wire as the rest of the library sees it.
* `answer`: the message for a request whose body is there.
* `frontController`: the message for a request on the wire.
* `Service`: the live site and the dispatcher, which stays as it was at the start.
-/

namespace WikiGateway

/-- A request on the wire, without its body. -/
structure Incoming where
  method : String
  target : Target
  /-- The address of the other end of the connection. -/
  peer : IpAddress
  /-- Names in any case and values, in order. -/
  fields : List (String × List UInt8)
deriving DecidableEq, Repr, Inhabited

/-- The request with its body. Whether the connection is encrypted is known from the settings. -/
def Incoming.transport (i : Incoming) (body : List UInt8) (https : Bool) : Transport :=
  let headers := i.fields.foldl (fun headers (name, value) =>
    addHeader (Text.lowerAscii name) (Text.decodeLossy value) headers) []
  { method := some i.method
    requestUri := some i.target.pathAndQuery
    queryString := i.target.query
    https := if https then some "on" else none
    remoteAddr := some i.peer.toString
    headers := headers
    body := body }

/-! ## Messages -/

/-- A message in plain text. -/
def plainMessage (status : Nat) (text : String) : Message :=
  ⟨status, [("content-type", "text/plain; charset=utf-8")], Text.encode text⟩

/-- The message that tells the client what failed, with the id of the request if it can be sent. -/
def rejection (requestId : String) (status : Nat) (text : String) : Message :=
  let message := plainMessage status text
  if isFieldValue requestId then message.setField (Text.lowerAscii requestIdHeader) requestId else message

/-- The status for a request that is not answered. -/
def DispatchError.status : DispatchError → Nat
  | unknownEntryPoint _ => 404
  | request _ => 400

/-- The message of a request that was handled, with the id that the request came with. -/
def Request.finish (r : Request) (requestId : String) : Message :=
  (r.response.header (requestIdHeader ++ ": " ++ requestId) true none).toMessage

/-- The message for a request: routing comes first, then the address of the client, then the handler. -/
def answer (site : Site) (dispatcher : Dispatcher) (t : Transport) (freshId : String) : Message :=
  let received := Request.receive site t (.sent {}) freshId
  match received.interpolateTitle with
  | .error e => rejection received.id 400 e.message
  | .ok routed =>
    match routed.clientIp with
    | .error e => rejection received.id 400 e.message
    | .ok _ =>
      match dispatcher.dispatch routed with
      | (_, some e) => rejection received.id e.status e.message
      | (handled, none) => handled.finish received.id

/-! ## On the wire -/

/-- Whether a status tells of success. -/
def isSuccess (status : Nat) : Bool := 200 ≤ status && status < 300

/-- The message with the length of its body as a field, unless that is there. -/
def Message.withLength (m : Message) : Message :=
  if (m.field? "content-length").isSome then m else m.addField "content-length" m.body.length.repr

/-- The message as it is sent in answer to a method: without body and length for an open tunnel, and without body where
only the fields are asked for. -/
def Message.inAnswerTo (m : Message) (method : String) : Message :=
  if method = "CONNECT" ∧ isSuccess m.status then { m with body := [] }
  else
    let m := m.withLength
    if method = "HEAD" then { m with body := [] } else m

/-- The message for a request on the wire. -/
def frontController (site : Site) (dispatcher : Dispatcher) (i : Incoming) (chunks : List BodyChunk)
    (freshId : String) : Message :=
  let message := match readBody chunks with
    | .error e => plainMessage e.status e.message
    | .ok body => answer site dispatcher (i.transport body site.config.server.https) freshId
  message.inAnswerTo i.method

/-! ## The service -/

/-- A service: the site that is live, and the dispatcher. -/
structure Service where
  reloader : Reloader
  dispatcher : Dispatcher

namespace Service

/-- A service for a site, whose file is as it is at the start. -/
def start (file : Option (List UInt8)) (site : Site) : Service := ⟨.start file site, .ofSite site⟩

/-- The service after an attempt to reload the settings; the dispatcher stays. -/
def reload [MultiByteDecoders] (s : Service) (file : Option (List UInt8)) : Service :=
  { s with reloader := (s.reloader.reload file).1 }

/-- The message for a request on the wire. -/
def respond (s : Service) (i : Incoming) (chunks : List BodyChunk) (freshId : String) : Message :=
  frontController s.reloader.live s.dispatcher i chunks freshId

end Service

end WikiGateway
