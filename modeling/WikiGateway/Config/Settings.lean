import WikiGateway.Config.Decode
import WikiGateway.Route.EntryPoint
import WikiGateway.Text.Json
import WikiGateway.Toml.Document

/-!
# Settings of a site

The sections of a site's settings with their defaults, the way they are read from a document, and their JSON form.

* `SiteConfig.ofEntries?`, `SiteConfig.parse?`: the settings of a document.
* `SiteConfig.toJson`: every setting by its name.
-/

namespace WikiGateway

/-- The listener and the origin of a site. -/
structure ServerSettings where
  bindAddress : String := "0.0.0.0:8080"
  /-- Whether the listener itself is reached over an encrypted connection. -/
  https : Bool := false
  /-- Seconds until a request is given up. -/
  requestTimeout : Nat := 30
  /-- The origin of the site, if it is fixed. -/
  canonicalServer : Option String := none
deriving DecidableEq, Repr, Inhabited

/-- One more path template. -/
structure ExtraRoute where
  template : String := ""
  /-- The parameters with the templates of their values. -/
  params : List (String × String) := []
  /-- The values that placeholders may take. -/
  oneOf : List (String × List String) := []
  /-- The patterns that values of placeholders must match. -/
  patterns : List (String × String) := []
deriving DecidableEq, Repr, Inhabited

/-- The paths of a site. -/
structure PathSettings where
  /-- The path of the scripts. -/
  scriptPath : String := "/w"
  /-- The path of the script that shows pages. -/
  script : String := "/w/index.php"
  /-- Whether path information of the web server is preferred to the URL. -/
  usePathInfo : Bool := true
  /-- The template of the paths of articles. -/
  articlePath : String := "/wiki/$1"
  /-- The template of the paths of articles with actions. -/
  articlePathWithAction : Option String := none
  /-- The actions that such paths may name. -/
  validActions : List String := ["view", "edit", "history", "info", "raw", "purge", "watch", "unwatch"]
  /-- Templates by action. -/
  actionPaths : List (String × String) := []
  /-- The template of the paths of articles in a variant of the language. -/
  variantArticlePath : Option String := none
  /-- The variants of the language. -/
  variants : List String := []
  extraRoutes : List ExtraRoute := []
deriving DecidableEq, Repr, Inhabited

/-- The proxies of a site. -/
structure ProxySettings where
  /-- The installation's own proxies. -/
  cdnServers : List String := []
  /-- Further proxies whose word is taken. -/
  trustedProxies : List String := []
  /-- Whether private addresses of clients are accepted. -/
  usePrivateAddresses : Bool := false
  /-- Whether ports are ignored when a proxy passes on the protocol. -/
  assumeDefaultPorts : Bool := true
deriving DecidableEq, Repr, Inhabited

/-- How requests are read. -/
structure RequestSettings where
  /-- Whether a client may choose the id of its request. -/
  allowExternalId : Bool := false
  /-- The label of the encoding of fields that are no UTF-8, if it is not empty. -/
  legacyEncoding : String := "windows-1252"
deriving DecidableEq, Repr, Inhabited

/-- The cookies of a site. -/
structure CookieSettings where
  /-- What stands before every name. -/
  namePrefix : String := "wiki"
  domain : String := ""
  path : String := "/"
  secure : Bool := false
  httpOnly : Bool := true
  /-- Whether cookies of the older kind for requests across sites are read. -/
  useLegacyCookies : Bool := false
deriving DecidableEq, Repr, Inhabited

/-- The entry point for programs. -/
structure RestSettings where
  /-- Whether pages of any origin may read the answers. -/
  allowCrossOrigin : Bool := false
deriving DecidableEq, Repr, Inhabited

/-- The log and the metrics of a site. -/
structure MonitoringSettings where
  logLevel : String := "info"
  metricsEnabled : Bool := true
  metricsAddress : String := "0.0.0.0:9090"
deriving DecidableEq, Repr, Inhabited

/-- The entry points of a site that names none. -/
def usualEntryPoints : List EntryPoint := [
  ⟨"api", "/w/api.php"⟩, ⟨"rest", "/w/rest.php"⟩, ⟨"load", "/w/load.php"⟩, ⟨"thumb", "/w/thumb.php"⟩,
  ⟨"thumb_handler", "/w/thumb_handler.php"⟩, ⟨"opensearch_desc", "/w/opensearch_desc.php"⟩, ⟨"index", ""⟩]

/-- The settings of a site. -/
structure SiteConfig where
  server : ServerSettings := {}
  paths : PathSettings := {}
  entryPoints : List EntryPoint := usualEntryPoints
  /-- The name of the entry point for all that no other claims. -/
  defaultEntryPoint : String := "index"
  proxies : ProxySettings := {}
  request : RequestSettings := {}
  cookies : CookieSettings := {}
  rest : RestSettings := {}
  monitoring : MonitoringSettings := {}
deriving DecidableEq, Repr, Inhabited

/-! ## Reading -/

open Config

/-- The section of a value. -/
def ServerSettings.ofToml? (v : Toml) : Option ServerSettings := do
  let s ← section? v
  let d : ServerSettings := {}
  return {
    bindAddress := ← s.read 0 "bind_address" text? d.bindAddress
    https := ← s.read 1 "https" flag? d.https
    requestTimeout := ← s.read 2 "request_timeout_secs" count? d.requestTimeout
    canonicalServer := ← s.read 3 "canonical_server" (optional? text?) none }

/-- The section of a value. -/
def ExtraRoute.ofToml? (v : Toml) : Option ExtraRoute := do
  let s ← section? v
  return {
    template := ← s.read 0 "template" text? ""
    params := ← s.read 1 "params" (tableOf? text?) []
    oneOf := ← s.read 2 "one_of" (tableOf? (listOf? text?)) []
    patterns := ← s.read 3 "patterns" (tableOf? text?) [] }

/-- The section of a value. -/
def PathSettings.ofToml? (v : Toml) : Option PathSettings := do
  let s ← section? v
  let d : PathSettings := {}
  return {
    scriptPath := ← s.read 0 "script_path" text? d.scriptPath
    script := ← s.read 1 "script" text? d.script
    usePathInfo := ← s.read 2 "use_path_info" flag? d.usePathInfo
    articlePath := ← s.read 3 "article_path" text? d.articlePath
    articlePathWithAction := ← s.read 4 "article_path_with_action" (optional? text?) none
    validActions := ← s.read 5 "valid_actions" (listOf? text?) d.validActions
    actionPaths := ← s.read 6 "action_paths" (tableOf? text?) []
    variantArticlePath := ← s.read 7 "variant_article_path" (optional? text?) none
    variants := ← s.read 8 "variants" (listOf? text?) []
    extraRoutes := ← s.read 9 "extra_router_paths" (listOf? ExtraRoute.ofToml?) [] }

/-- The section of a value. -/
def ProxySettings.ofToml? (v : Toml) : Option ProxySettings := do
  let s ← section? v
  let d : ProxySettings := {}
  return {
    cdnServers := ← s.read 0 "cdn_servers" (listOf? text?) []
    trustedProxies := ← s.read 1 "trusted_proxies" (listOf? text?) []
    usePrivateAddresses := ← s.read 2 "use_private_ips" flag? d.usePrivateAddresses
    assumeDefaultPorts := ← s.read 3 "assume_proxies_use_default_protocol_ports" flag? d.assumeDefaultPorts }

/-- The section of a value. -/
def RequestSettings.ofToml? (v : Toml) : Option RequestSettings := do
  let s ← section? v
  let d : RequestSettings := {}
  return {
    allowExternalId := ← s.read 0 "allow_external_req_id" flag? d.allowExternalId
    legacyEncoding := ← s.read 1 "legacy_encoding" text? d.legacyEncoding }

/-- The section of a value. -/
def CookieSettings.ofToml? (v : Toml) : Option CookieSettings := do
  let s ← section? v
  let d : CookieSettings := {}
  return {
    namePrefix := ← s.read 0 "prefix" text? d.namePrefix
    domain := ← s.read 1 "domain" text? d.domain
    path := ← s.read 2 "path" text? d.path
    secure := ← s.read 3 "secure" flag? d.secure
    httpOnly := ← s.read 4 "http_only" flag? d.httpOnly
    useLegacyCookies := ← s.read 5 "use_same_site_legacy_cookies" flag? d.useLegacyCookies }

/-- The section of a value. -/
def RestSettings.ofToml? (v : Toml) : Option RestSettings := do
  let s ← section? v
  let d : RestSettings := {}
  return { allowCrossOrigin := ← s.read 0 "allow_cross_origin" flag? d.allowCrossOrigin }

/-- The section of a value. -/
def MonitoringSettings.ofToml? (v : Toml) : Option MonitoringSettings := do
  let s ← section? v
  let d : MonitoringSettings := {}
  return {
    logLevel := ← s.read 0 "log_level" text? d.logLevel
    metricsEnabled := ← s.read 1 "metrics_enabled" flag? d.metricsEnabled
    metricsAddress := ← s.read 2 "metrics_address" text? d.metricsAddress }

/-- The entry point of a value, which names it and its path. -/
def EntryPoint.ofToml? (v : Toml) : Option EntryPoint := do
  let s ← section? v
  return ⟨← s.need 0 "name" text?, ← s.need 1 "prefix" text?⟩

namespace SiteConfig

/-- The settings of a document's entries. -/
def ofEntries? (entries : Toml.Entries) : Option SiteConfig := do
  let s := Section.named entries
  return {
    server := ← s.read 0 "server" ServerSettings.ofToml? {}
    paths := ← s.read 1 "paths" PathSettings.ofToml? {}
    entryPoints := ← s.read 2 "entry_points" (listOf? EntryPoint.ofToml?) usualEntryPoints
    defaultEntryPoint := ← s.read 3 "default_entry_point" text? "index"
    proxies := ← s.read 4 "proxies" ProxySettings.ofToml? {}
    request := ← s.read 5 "request" RequestSettings.ofToml? {}
    cookies := ← s.read 6 "cookies" CookieSettings.ofToml? {}
    rest := ← s.read 7 "rest" RestSettings.ofToml? {}
    monitoring := ← s.read 8 "observability" MonitoringSettings.ofToml? {} }

/-- The settings of a document's text. -/
def parse? (text : String) : Option SiteConfig := (Toml.parse? text).bind ofEntries?

/-! ## Writing -/

/-- Texts as JSON. -/
def textsJson (texts : List String) : Json := .array (texts.map .string)

/-- A table of texts as JSON. -/
def tableJson (table : List (String × String)) : Json :=
  .object (table.map fun (key, value) => (key, .string value))

/-- A text that may be missing as JSON. -/
def optionJson : Option String → Json
  | none => .null
  | some text => .string text

/-- One more path template as JSON. -/
def extraRouteJson (route : ExtraRoute) : Json := .object [
  ("template", .string route.template),
  ("params", tableJson route.params),
  ("one_of", .object (route.oneOf.map fun (name, values) => (name, textsJson values))),
  ("patterns", tableJson route.patterns)]

/-- An entry point as JSON. -/
def entryPointJson (e : EntryPoint) : Json := .object [("name", .string e.name), ("prefix", .string e.path)]

/-- The paths as JSON. -/
def pathsJson (p : PathSettings) : Json := .object [
  ("script_path", .string p.scriptPath),
  ("script", .string p.script),
  ("use_path_info", .bool p.usePathInfo),
  ("article_path", .string p.articlePath),
  ("article_path_with_action", optionJson p.articlePathWithAction),
  ("valid_actions", textsJson p.validActions),
  ("action_paths", tableJson p.actionPaths),
  ("variant_article_path", optionJson p.variantArticlePath),
  ("variants", textsJson p.variants),
  ("extra_router_paths", .array (p.extraRoutes.map extraRouteJson))]

/-- The settings as JSON. -/
def toJson (c : SiteConfig) : Json := .object [
  ("server", .object [
    ("bind_address", .string c.server.bindAddress),
    ("https", .bool c.server.https),
    ("request_timeout_secs", .number c.server.requestTimeout.repr),
    ("canonical_server", optionJson c.server.canonicalServer)]),
  ("paths", pathsJson c.paths),
  ("entry_points", .array (c.entryPoints.map entryPointJson)),
  ("default_entry_point", .string c.defaultEntryPoint),
  ("proxies", .object [
    ("cdn_servers", textsJson c.proxies.cdnServers),
    ("trusted_proxies", textsJson c.proxies.trustedProxies),
    ("use_private_ips", .bool c.proxies.usePrivateAddresses),
    ("assume_proxies_use_default_protocol_ports", .bool c.proxies.assumeDefaultPorts)]),
  ("request", .object [
    ("allow_external_req_id", .bool c.request.allowExternalId),
    ("legacy_encoding", .string c.request.legacyEncoding)]),
  ("cookies", .object [
    ("prefix", .string c.cookies.namePrefix),
    ("domain", .string c.cookies.domain),
    ("path", .string c.cookies.path),
    ("secure", .bool c.cookies.secure),
    ("http_only", .bool c.cookies.httpOnly),
    ("use_same_site_legacy_cookies", .bool c.cookies.useLegacyCookies)]),
  ("rest", .object [("allow_cross_origin", .bool c.rest.allowCrossOrigin)]),
  ("observability", .object [
    ("log_level", .string c.monitoring.logLevel),
    ("metrics_enabled", .bool c.monitoring.metricsEnabled),
    ("metrics_address", .string c.monitoring.metricsAddress)])]

end SiteConfig

end WikiGateway
