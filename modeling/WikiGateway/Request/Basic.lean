import WikiGateway.Config.Site
import WikiGateway.Fields.Cookies
import WikiGateway.Fields.FormText
import WikiGateway.Fields.Store
import WikiGateway.Http.AcceptLanguage
import WikiGateway.Http.Origin
import WikiGateway.Http.RequestId
import WikiGateway.Http.RequestUrl
import WikiGateway.Http.Response
import WikiGateway.Net.Forwarded

/-!
# Requests

A request joins what the server handed over with the site that it is for, the fields and cookies read from it, what
routing found out, and the response in the making.

* `Request.receive`: a request before routing.
* `Request.url`, `server`, `fullUrl`, `clientIp`: where it went and whence it came.
* `Request.cookie?`, `crossSiteCookie?`: its cookies.
* `Request.queryWith`: its query with other values, for links to pages like this one.
-/

namespace WikiGateway

/-- Why something about a request is not known. -/
inductive RequestError
  /-- The server handed over no URL. -/
  | noUrl
  /-- The address of the client is not known. -/
  | client (e : ClientError)
deriving DecidableEq, Repr, Inhabited

/-- The text of the error. -/
def RequestError.message : RequestError → String
  | noUrl => "web server doesn't provide either REQUEST_URI, X-Original-URL or SCRIPT_NAME"
  | client e => e.message

/-! ## Fields of a request -/

/-- The type of bodies that are forms. -/
def formContentType : String := "application/x-www-form-urlencoded"

/-- Whether the body of a request is a form: that of a POST whose type says so. -/
def Transport.hasForm (t : Transport) : Bool :=
  t.method == some "POST" &&
    (t.header? "Content-Type").any fun type =>
      formContentType.toList.isPrefixOf ((type.toList.dropWhile Text.isSpace).map Char.toLower)

/-- The fields of a request; only those of the query may be in the legacy encoding. -/
def FieldStore.ofTransport (t : Transport) (legacy : Option Encoding) : FieldStore :=
  let query := match t.queryString with
    | some query => parseForm legacy (Text.encode query)
    | none => .empty
  .ofMaps query (if t.hasForm then parseForm none t.body else .empty)

/-! ## Requests -/

/-- A request for a site. -/
structure Request where
  site : Site
  transport : Transport
  id : String
  fields : FieldStore
  cookies : FieldMap
  response : Response
  /-- The entry point and the path below it, once they are known. -/
  entry : Option EntryPointMatch := none
  /-- The path that led nowhere. -/
  badPath : Option String := none
  /-- The address of the client, if it was set. -/
  chosenIp : Option IpAddress := none
  sessionId : Option String := none
  /-- Whether a POST was declared safe. -/
  isMarkedSafe : Bool := false

namespace Request

/-- A request before routing; `freshId` is its id if it brings none. -/
def receive (site : Site) (t : Transport) (response : Response) (freshId : String) : Request := {
  site := site
  transport := t
  id := chooseRequestId t site.config.request.allowExternalId freshId
  fields := .ofTransport t site.legacyEncoding
  cookies := match t.header? "Cookie" with
    | some header => parseCookies header
    | none => .empty
  response := response }

/-! ### URL and origin -/

/-- The URL of the request. -/
def url (r : Request) : Except RequestError String :=
  match requestUrl? r.transport with
  | some url => .ok url
  | none => .error .noUrl

/-- The decoded part of the URL's path below another path. -/
def pathBelow (r : Request) (base : String) : Except RequestError (Option String) :=
  r.url.map fun url => pathBelow? url base

/-- The protocol of the request. -/
def protocol (r : Request) : Protocol := detectProtocol r.transport

/-- The origin under which the client reached the site. -/
def server (r : Request) : String := detectServer r.transport r.site.config.proxies.assumeDefaultPorts

/-- What follows the scheme of a fixed origin, without slashes at the end. -/
def originHost (origin : String) : String :=
  let rest := match Text.cutText? "://".toList origin.toList with
    | some (_, rest) => rest
    | none => origin.toList
  String.ofList (Text.trimEnd (· == '/') rest)

/-- The fixed origin of the site under the protocol of the request, or else the origin of the request. -/
def publicServer (r : Request) : String :=
  match r.site.config.server.canonicalServer with
  | some origin => r.protocol.scheme ++ "://" ++ originHost origin
  | none => r.server

/-- The absolute URL of the request. -/
def fullUrl (r : Request) : Except RequestError String := r.url.map fun url => r.publicServer ++ url

/-! ### Header fields and method -/

/-- A header field by its name in any case. -/
def header? (r : Request) (name : String) : Option String := r.transport.header? name

/-- The items of a header field between commas. -/
def headerList? (r : Request) (name : String) : Option (List String) :=
  (r.header? name).map fun value =>
    (Text.splitOn (· == ',') value.toList).map fun item => String.ofList (Text.trimBoth Text.isSpace item)

/-- Every header field with its name in upper case. -/
def headers (r : Request) : List (String × String) :=
  r.transport.headers.map fun (name, value) => (Text.upperAscii name, value)

/-- The method. -/
def method (r : Request) : String := r.transport.method.getD "GET"

/-- Whether the request is a POST. -/
def wasPosted (r : Request) : Bool := r.method == "POST"

/-- The methods that change nothing. -/
def safeMethods : List String := ["GET", "HEAD", "OPTIONS", "TRACE"]

/-- Whether the method is given and changes nothing. -/
def hasSafeMethod (r : Request) : Bool := r.transport.method.any safeMethods.contains

/-- Whether the request changes nothing, by its method or because a POST was declared so. -/
def isSafe (r : Request) : Bool := (r.isMarkedSafe && r.wasPosted) || r.hasSafeMethod

/-- The query as it came. -/
def rawQuery (r : Request) : String := r.transport.queryString.getD ""

/-- The body of a POST as it came. -/
def rawPost (r : Request) : List UInt8 := if r.wasPosted then r.transport.body else []

/-- The languages that the client accepts. -/
def languages (r : Request) : List LanguageRange :=
  match r.header? "Accept-Language" with
  | some header => parseAcceptLanguage header
  | none => []

/-- The address of the client. -/
def clientIp (r : Request) : Except RequestError IpAddress :=
  match r.chosenIp with
  | some a => .ok a
  | none =>
    match resolveClient r.site.proxies r.site.config.proxies.usePrivateAddresses r.transport.remoteAddr
        (r.header? "X-Forwarded-For") with
    | .ok a => .ok a
    | .error e => .error (.client e)

/-! ### Cookies -/

/-- The value of a cookie by its full name. -/
def cookieValue? (r : Request) (fullName : String) : Option String :=
  (r.cookies.get? (lookupName fullName)).bind FieldValue.scalar?

/-- The value of a cookie by what stands before its name, which is the site's by default, and its name. -/
def cookie? (r : Request) (name : String) (front : Option String) : Option String :=
  r.cookieValue? (front.getD r.site.config.cookies.namePrefix ++ name)

/-- The value of a cookie for requests across sites, with the older kind as a last resort if the site reads it. -/
def crossSiteCookie? (r : Request) (name front : String) : Option String :=
  r.cookieValue? (front ++ name) <|>
    if r.site.config.cookies.useLegacyCookies then r.cookieValue? (front ++ "ss0-" ++ name) else none

/-- The attributes of the site's cookies. -/
def cookieOptions (r : Request) : CookieOptions := .ofSettings r.site.config.cookies

/-! ### Links -/

/-- The fields of query and path without the title, with other values in the place of some. -/
def linkFields (r : Request) (values : List (String × String)) : FieldMap :=
  values.foldl (fun m (name, value) => m.insert name (.scalar value)) (r.fields.queryAndPath.remove "title")

/-- The query of a link to a page like this one. -/
def queryWith (r : Request) (values : List (String × String)) : String := (r.linkFields values).formText

end Request

end WikiGateway
