import WikiGateway.Config.Validation
import WikiGateway.Text.Utf8

/-!
# Sites

A site is its settings with all that is compiled from them once.

* `Site.compile`: the site of settings without problems.
* `Site.load`: the site of a file.
-/

namespace WikiGateway

/-- Settings and what is compiled from them. -/
structure Site where
  config : SiteConfig
  router : Router
  entryPoints : EntryPointTable
  proxies : ProxyList
  /-- The encoding of fields that are no UTF-8, with its way to read them. -/
  legacyEncoding : Option Encoding

/-- Why there is no site. -/
inductive ConfigError
  /-- The file cannot be read as text. -/
  | unreadable
  /-- The text is no document, or its values do not fit. -/
  | malformed
  /-- The settings have problems. -/
  | invalid (problems : List ConfigProblem)
deriving DecidableEq, Repr, Inhabited

namespace ConfigError

/-- The text of the error. -/
def message : ConfigError → String
  | unreadable => "IO error"
  | malformed => "Parse error"
  | invalid problems => "Validation failed: " ++ String.intercalate ", " (problems.map ConfigProblem.message)

/-- Whether the error has a cause of its own beneath it. -/
def hasCause : ConfigError → Bool
  | invalid _ => false
  | _ => true

end ConfigError

/-- The settings of a text. -/
def SiteConfig.parse (text : String) : Except ConfigError SiteConfig :=
  match SiteConfig.parse? text with
  | some config => .ok config
  | none => .error .malformed

/-- The proxies of the settings; entries that are no networks are left out. -/
def SiteConfig.proxyList (c : SiteConfig) : ProxyList :=
  let networks (entries : List String) := entries.filterMap fun entry => (parseProxy entry).toOption
  ⟨networks c.proxies.cdnServers, networks c.proxies.trustedProxies⟩

namespace Site

/-- The site of settings without problems. -/
def compile [MultiByteDecoders] (c : SiteConfig) : Except ConfigError Site :=
  match c.problems, siteRouter c.paths, c.entryPointTable with
  | [], .ok router, .ok entryPoints =>
    .ok ⟨c, router, entryPoints, c.proxyList, Encoding.ofLabel? c.request.legacyEncoding⟩
  | problems, _, _ => .error (.invalid problems)

/-- The site of a text. -/
def ofText [MultiByteDecoders] (text : String) : Except ConfigError Site := (SiteConfig.parse text).bind compile

/-- The text of a file that may be missing. -/
def readText (file : Option (List UInt8)) : Except ConfigError String :=
  match file.bind Text.decode? with
  | some text => .ok text
  | none => .error .unreadable

/-- The site of a file that may be missing. -/
def load [MultiByteDecoders] (file : Option (List UInt8)) : Except ConfigError Site := (readText file).bind ofText

end Site

end WikiGateway
