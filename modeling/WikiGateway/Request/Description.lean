import WikiGateway.Request.Routing

/-!
# Descriptions of requests

All that was found out about a request, as JSON.

* `Request.describe`: the description, which needs the address of the client.
* `Description.toJson`: its members, in a fixed order; the bad path is left out if there is none.
-/

namespace WikiGateway

/-- What was found out about a request. -/
structure Description where
  requestId : String
  method : String
  entryPoint : String
  subpath : String
  badPath : Option String
  /-- Every field, cleaned. -/
  params : FieldMap
  /-- The fields of query and path as they came. -/
  query : FieldMap
  ip : IpAddress
  protocol : Protocol
  server : String
  languages : List LanguageRange

namespace Description

/-- A language with its weight as JSON. -/
def languageJson (range : LanguageRange) : Json := .array [.string range.code, .number range.weightText]

/-- The description as JSON. -/
def toJson (d : Description) : Json :=
  let front : List (String × Json) := [("request_id", .string d.requestId), ("method", .string d.method),
    ("entry_point", .string d.entryPoint), ("subpath", .string d.subpath)]
  let lost : List (String × Json) := d.badPath.toList.map fun path => ("bad_path", .string path)
  let rest : List (String × Json) := [("params", d.params.toJson), ("query", d.query.toJson),
    ("ip", .string d.ip.toString), ("protocol", .string d.protocol.scheme), ("server", .string d.server),
    ("accept_language", .array (d.languages.map languageJson))]
  .object (front ++ lost ++ rest)

end Description

/-- The description of a request. -/
def Request.describe (r : Request) : Except RequestError Description :=
  r.clientIp.map fun ip => {
    requestId := r.id
    method := r.method
    entryPoint := r.entryName
    subpath := r.subpath
    badPath := r.badPath
    params := r.fields.values []
    query := r.fields.queryAndPath
    ip := ip
    protocol := r.protocol
    server := r.server
    languages := r.languages }

end WikiGateway
