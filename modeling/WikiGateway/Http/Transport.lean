import WikiGateway.Text.Chars

/-!
# What a server hands over

A `Transport` is a request as the web server hands it over: variables that may be unset, header fields and the body.
A field that comes several times is one field with its values joined.

* `addHeader`: one more header field.
* `header?`: a header field by its name in any case.
-/

namespace WikiGateway

/-- A request as the web server hands it over. -/
structure Transport where
  method : Option String := none
  requestUri : Option String := none
  scriptName : Option String := none
  queryString : Option String := none
  pathInfo : Option String := none
  origPathInfo : Option String := none
  /-- Neither empty nor `off` for an encrypted connection. -/
  https : Option String := none
  serverName : Option String := none
  hostname : Option String := none
  serverAddr : Option String := none
  serverPort : Option Nat := none
  remoteAddr : Option String := none
  uniqueId : Option String := none
  /-- Header fields in the order of arrival, with repeated ones joined. -/
  headers : List (String × String) := []
  body : List UInt8 := []
deriving Repr, Inhabited

/-- The fields with one more, which is joined to an earlier one of the same name in any case. -/
def addHeader (name value : String) : List (String × String) → List (String × String)
  | [] => [(name, value)]
  | (n, v) :: rest =>
    if Text.eqIgnoreCase n name then (n, v ++ ", " ++ value) :: rest else (n, v) :: addHeader name value rest

/-- The value of a field by its name in any case. -/
def headerOf? (name : String) (headers : List (String × String)) : Option String :=
  (headers.find? fun field => Text.eqIgnoreCase field.1 name).map Prod.snd

namespace Transport

/-- The transport with one more header field. -/
def addHeader (t : Transport) (name value : String) : Transport :=
  { t with headers := WikiGateway.addHeader name value t.headers }

/-- A header field by its name in any case. -/
def header? (t : Transport) (name : String) : Option String := headerOf? name t.headers

end Transport

end WikiGateway
