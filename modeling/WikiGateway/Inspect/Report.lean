import WikiGateway.Inspect.Invocation
import WikiGateway.Request.Description
import WikiGateway.Url

/-!
# Reports of the inspection tool

The tool shows how a site routes a request, or all that it routes, without a server. A command line that cannot be
followed ends in a code of its own for wrong usage, all other failures in the general one.

* `RequestArguments.transport?`: the request as a server would hand it over.
* `Site.routesText`: the entry points and path templates of a site.
* `Invocation.report`: what is printed, and the code at the end.
-/

namespace WikiGateway

/-! ## Requests by hand -/

namespace Inspect.RequestArguments

/-- The transport with what a URL says, and the text after it that is the URL on the wire. -/
def placeUrl (url : String) (t : Transport) : Transport × String :=
  match Url.parse? url with
  | none => (t, url)
  | some u =>
    let t := if u.scheme = "https" then { t with https := some "on" } else t
    let t := match u.host, u.port with
      | none, _ => t
      | some host, none => t.addHeader "Host" (toString host)
      | some host, some port => t.addHeader "Host" (toString host ++ ":" ++ toString port)
    (t, match u.query with
      | some query => u.path ++ "?" ++ query
      | none => u.path)

/-- The name and value of a header field that was given as text. -/
def headerOfText? (text : String) : Option (String × String) :=
  let trim (cs : List Char) := String.ofList (Text.trimBoth Text.isSpace cs)
  (Text.cut? (· == ':') text.toList).map fun (name, value) => (trim name, trim value)

/-- The transport with header fields that were given as texts. -/
def placeHeaders? : List String → Transport → Option Transport
  | [], t => some t
  | text :: rest, t =>
    (headerOfText? text).bind fun (name, value) => placeHeaders? rest (t.addHeader name value)

/-- Whether a text gives the type of the body. -/
def givesType (text : String) : Bool := "content-type".toList.isPrefixOf (text.toList.map Char.toLower)

/-- The transport with the body, which is a form if it is posted without a type. -/
def placeBody (r : RequestArguments) (t : Transport) : Transport :=
  match r.body with
  | none => t
  | some body =>
    let t := if Text.eqIgnoreCase r.method "POST" && !r.headers.any givesType then
        t.addHeader "Content-Type" formContentType
      else t
    { t with body := Text.encode body }

/-- The request as a server would hand it over; none if a header field has no colon. -/
def transport? (r : RequestArguments) : Option Transport :=
  let (t, uri) := placeUrl r.url { method := some (Text.upperAscii r.method), remoteAddr := some r.remoteAddr }
  let query := (Text.cut? (· == '?') uri.toList).map fun (_, query) => String.ofList query
  (placeHeaders? r.headers { t with queryString := query, requestUri := some uri }).map r.placeBody

/-- The description of the request, as a site routes it. -/
def describe? (r : RequestArguments) (site : Site) (freshId : String) : Option Description := do
  let t ← r.transport?
  let routed ← (Request.receive site t (.recorded {}) freshId).interpolateTitle.toOption
  routed.describe.toOption

end Inspect.RequestArguments

/-! ## Routes -/

namespace Site

/-- A text with blanks after it, up to a width. -/
def padEnd (width : Nat) (s : String) : String := s ++ String.ofList (List.replicate (width - s.length) ' ')

/-- A text with blanks in front of it, up to a width. -/
def padStart (width : Nat) (s : String) : String := String.ofList (List.replicate (width - s.length) ' ') ++ s

/-- The line of an entry point. -/
def entryPointLine (e : EntryPoint) : String :=
  "  " ++ padEnd 18 e.name ++ " " ++ (if e.path.isEmpty then "(fallback)" else e.path) ++ "\n"

/-- The line of a template by its place in the order of the templates, from zero. -/
def templateLine (t : PathTemplate) (i : Nat) : String :=
  "  " ++ padStart 2 (toString (i + 1)) ++ ". " ++ t.source ++ "\n"

/-- The entry points and path templates of the site, in the order in which they are tried. -/
def routesText (site : Site) : String :=
  "Entry points (default: " ++ site.entryPoints.default ++ "):\n" ++
  String.join (site.entryPoints.entries.map entryPointLine) ++
  "Path templates:\n" ++
  String.join (site.router.templates.zipIdx.map fun (t, i) => templateLine t i)

end Site

/-! ## Reports -/

namespace Inspect

/-- What is printed, and the code at the end. -/
structure Report where
  output : String
  exitCode : Nat
deriving DecidableEq, Repr, Inhabited

/-- The report of a text. -/
def Report.ofText (text : String) : Report := ⟨text, 0⟩

/-- The report of a failure. -/
def Report.failure : Report := ⟨"", 1⟩

/-- The report of wrong usage. -/
def Report.wrongUsage : Report := ⟨"", 2⟩

/-- What a command shows of a site; nothing if it fails. -/
def Command.output? (site : Site) (freshId : String) : Command → Option String
  | request r => (r.describe? site freshId).map fun d => d.toJson.pretty ++ "\n"
  | routes => some site.routesText

/-- The report of an invocation, where `file` is what the named file holds, if it can be read. -/
def Invocation.report [MultiByteDecoders] (file : Option (List UInt8)) (freshId : String) : Invocation → Report
  | help topic => .ofText topic.text
  | run config command =>
    let site? := match config with
      | some _ => (Site.load file).toOption
      | none => (Site.compile {}).toOption
    match site?.bind fun site => command.output? site freshId with
    | some text => .ofText text
    | none => .failure

end Inspect

end WikiGateway
