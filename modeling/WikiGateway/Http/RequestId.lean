import WikiGateway.Http.Transport

/-!
# Request ids

Every request has an id that marks its log entries and goes back to the client.

* `chooseRequestId`: the id that came with a request, or a fresh one.
-/

namespace WikiGateway

/-- The header field that carries a request's id in both directions. -/
def requestIdHeader : String := "X-Request-Id"

/-- The id of a request: that of the client, if it may choose one, or that of the web server, or a fresh one. An empty
id counts as none. -/
def chooseRequestId (t : Transport) (allowExternal : Bool) (fresh : String) : String :=
  let external := if allowExternal then t.header? requestIdHeader else none
  ((external.filter (· != "")) <|> (t.uniqueId.filter (· != ""))).getD fresh

end WikiGateway
