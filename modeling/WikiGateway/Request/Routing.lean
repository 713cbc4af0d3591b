import WikiGateway.Request.Basic

/-!
# Routing of requests

The path of a request selects an entry point, and what is left of it a path template of the site, whose parameters join
the fields of the request. Entry points of programs take no parameters from the path.

* `Request.path`: path information from the web server if the site prefers it, or else the path of the URL.
* `Request.detectEntry`, `Request.setEntry`: the entry point, found or forced.
* `Request.interpolateTitle`: the parameters of the path, or else the path information as the title. A path that leads
  nowhere is remembered.
-/

namespace WikiGateway.Request

/-- The path information, if the site prefers it. -/
def pathInfo? (r : Request) : Option String :=
  if r.site.config.paths.usePathInfo then r.transport.origPathInfo <|> r.transport.pathInfo else none

/-- The path that selects the entry point. -/
def path (r : Request) : Except RequestError String :=
  match r.pathInfo? with
  | some info => .ok info
  | none => r.url.map fun url => scriptPath url r.transport.scriptName (some r.site.config.paths.script)

/-- The request with the entry point of its path. -/
def detectEntry (r : Request) : Except RequestError Request :=
  r.path.map fun path => { r with entry := some (r.site.entryPoints.detect path) }

/-- The path below a script, if it is that script or lies below it. -/
def belowScript? (script path : String) : Option String :=
  ((Text.dropPrefix? script.toList path.toList).filter fun rest => rest.isEmpty || rest.head? == some '/').map
    String.ofList

/-- The request with an entry point of some name, whose script is taken off the path. -/
def setEntry (r : Request) (name : String) : Except RequestError Request :=
  r.path.map fun path =>
    let script := r.site.config.paths.scriptPath ++ "/" ++ name ++ ".php"
    { r with entry := some ⟨name, (belowScript? script path).getD path⟩ }

/-- The name of the entry point; the default one before it is known. -/
def entryName (r : Request) : String :=
  match r.entry with
  | some m => m.name
  | none => r.site.entryPoints.default

/-- The path below the entry point; empty before it is known. -/
def subpath (r : Request) : String :=
  match r.entry with
  | some m => m.subpath
  | none => ""

/-- The name of the entry point that takes no parameters from the path. -/
def programEntry : String := "api"

/-- The request with the path information as the title, or else with its path remembered as bad. -/
def takePathInfo (r : Request) : Request :=
  match r.pathInfo? with
  | none => { r with badPath := some r.subpath }
  | some info =>
    let title := match info.toList with
      | '/' :: rest => String.ofList rest
      | _ => info
    if title = "" then r else { r with fields := r.fields.interpolate [("title", title)] }

/-- The request with the parameters of its path below the entry point. -/
def takeParams (r : Request) : Request :=
  if r.entryName = programEntry then r
  else
    match r.site.router.route r.subpath with
    | .home => r
    | .matched _ params => { r with fields := r.fields.interpolate params }
    | .nowhere => r.takePathInfo

/-- The request with an entry point and the parameters of its path. -/
def interpolateTitle (r : Request) : Except RequestError Request :=
  match r.entry with
  | some _ => .ok r.takeParams
  | none => r.detectEntry.map takeParams

end WikiGateway.Request
