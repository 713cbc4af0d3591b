import WikiGateway.Encoding.Catalogue
import WikiGateway.Net.Proxies
import WikiGateway.Route.SiteRouter
import WikiGateway.Url

/-!
# Validation of settings

Each section of the settings has its own problems; all of them are reported, in a fixed order.

* `SiteConfig.problems`: every problem of the settings.
* `ConfigProblem.message`: the text of a problem.
-/

namespace WikiGateway

/-- A problem of the settings. -/
inductive ConfigProblem
  /-- A setting is no address with a port. -/
  | invalidAddress (setting value : String)
  /-- A setting must not be zero. -/
  | zero (setting : String)
  /-- A fault in a path template or an entry point. -/
  | route (e : RouteError)
  /-- Two entry points have one name. -/
  | duplicateEntryPoint (name : String)
  /-- The default entry point has no name. -/
  | emptyDefaultEntryPoint
  /-- An entry of a list of proxies is no network. -/
  | proxy (e : InvalidProxy)
  /-- No encoding has this label. -/
  | unknownEncoding (label : String)
  /-- The fixed origin is no URL of the web. -/
  | invalidCanonicalServer (url : String)
deriving DecidableEq, Repr, Inhabited

/-- The text of a problem. -/
def ConfigProblem.message : ConfigProblem → String
  | invalidAddress setting value => setting ++ " is not a valid socket address: '" ++ value ++ "'"
  | zero setting => setting ++ " must be greater than zero"
  | route e => e.message
  | duplicateEntryPoint name => "entry point '" ++ name ++ "' is defined more than once"
  | emptyDefaultEntryPoint => "default_entry_point must not be empty"
  | proxy e => e.message
  | unknownEncoding label => "unknown legacy encoding '" ++ label ++ "'"
  | invalidCanonicalServer url =>
    "canonical_server must be an absolute http or https URL (got '" ++ url ++ "')"

/-! ## Problems of sections -/

/-- The problem of an address with a port. -/
def addressProblems (setting value : String) : List ConfigProblem :=
  if isSocketAddress value then [] else [.invalidAddress setting value]

/-- Whether a text is a URL of the web with a host. -/
def isWebUrl (s : String) : Bool :=
  (Url.parse? s).any fun url => ["http", "https"].contains url.scheme && url.host.isSome

namespace ServerSettings

/-- The problem of the time limit. -/
def timeoutProblems (s : ServerSettings) : List ConfigProblem :=
  if s.requestTimeout = 0 then [.zero "server.request_timeout_secs"] else []

/-- The problem of the fixed origin. -/
def canonicalProblems (s : ServerSettings) : List ConfigProblem :=
  match s.canonicalServer with
  | none => []
  | some url => if isWebUrl url then [] else [.invalidCanonicalServer url]

end ServerSettings

/-- The problem of the address for metrics, which counts only if metrics are served. -/
def MonitoringSettings.problems (m : MonitoringSettings) : List ConfigProblem :=
  if m.metricsEnabled then addressProblems "observability.metrics_address" m.metricsAddress else []

/-- The first fault of a result. -/
def routeProblems {α : Type} : Except RouteError α → List ConfigProblem
  | .ok _ => []
  | .error e => [.route e]

/-- The names that come a second time or more, in order. -/
def repeatedNames (seen : List String) : List String → List String
  | [] => []
  | name :: rest =>
    if seen.contains name then name :: repeatedNames seen rest else repeatedNames (name :: seen) rest

/-- The problems of a list of proxies. -/
def proxyProblems (entries : List String) : List ConfigProblem :=
  entries.filterMap fun entry =>
    match parseProxy entry with
    | .ok _ => none
    | .error e => some (.proxy e)

/-- The problem of a label of an encoding; an empty one stands for none. -/
def RequestSettings.problems (r : RequestSettings) : List ConfigProblem :=
  if r.legacyEncoding = "" ∨ (Encoding.lookup? r.legacyEncoding).isSome then []
  else [.unknownEncoding r.legacyEncoding]

namespace SiteConfig

/-- The entry points as a table. -/
def entryPointTable (c : SiteConfig) : Except RouteError EntryPointTable :=
  EntryPointTable.ofList c.entryPoints c.defaultEntryPoint

/-- The problems of the entry points. -/
def entryPointProblems (c : SiteConfig) : List ConfigProblem :=
  (if c.defaultEntryPoint = "" then [.emptyDefaultEntryPoint] else []) ++
    (repeatedNames [] (c.entryPoints.map (·.name))).map .duplicateEntryPoint ++ routeProblems c.entryPointTable

/-- Every problem of the settings. -/
def problems (c : SiteConfig) : List ConfigProblem :=
  addressProblems "server.bind_address" c.server.bindAddress ++ c.server.timeoutProblems ++
    c.server.canonicalProblems ++ c.monitoring.problems ++ routeProblems (siteRouter c.paths) ++
    c.entryPointProblems ++ proxyProblems c.proxies.cdnServers ++ proxyProblems c.proxies.trustedProxies ++
    c.request.problems

end SiteConfig

end WikiGateway
