import Mathlib.Data.List.Forall2
import WikiGateway.Proofs.Config.Problems

/-!
# Settings are checked section by section

The settings fall into sections, each with fields of its own (`ConfigSection.SameFields`) and problems that these alone
decide about (`SiteConfig.problemsOf`, `problemsOf_eq_of_sameFields`). What is reported is one section after the other,
so that a change in one section exchanges its part of the report (`problems_exchange`). Nothing that does not parse
reaches a site: without problems, every entry of the lists of proxies is a network of the site
(`Site.compiledFrom_of_compile`).

* `problems_eq_flatMap`: the report is made of the sections in order.
* `exists_compile_iff`: just the settings whose sections are all without problems make a site.
* `SiteConfig.problems_by_section`: all of this together.
-/

namespace WikiGateway

/-- The sections of settings that are checked, in the order in which their problems are reported. -/
inductive ConfigSection
  | bindAddress
  | timeout
  | canonicalServer
  | metricsAddress
  | paths
  | defaultEntryPoint
  /-- The names of the entry points. -/
  | entryPointNames
  /-- The paths of the entry points. -/
  | entryPointPaths
  | cdnServers
  | trustedProxies
  | legacyEncoding
deriving DecidableEq, Repr

namespace ConfigSection

/-- The sections in order. -/
def all : List ConfigSection :=
  [bindAddress, timeout, canonicalServer, metricsAddress, paths, defaultEntryPoint, entryPointNames, entryPointPaths,
    cdnServers, trustedProxies, legacyEncoding]

theorem mem_all (s : ConfigSection) : s ∈ all := by
  cases s <;> decide

theorem nodup_all : all.Nodup := by decide

/-- Two settings have the same fields in a section. The address for metrics counts only if metrics are served. -/
def SameFields (c d : SiteConfig) : ConfigSection → Prop
  | bindAddress => c.server.bindAddress = d.server.bindAddress
  | timeout => c.server.requestTimeout = d.server.requestTimeout
  | canonicalServer => c.server.canonicalServer = d.server.canonicalServer
  | metricsAddress => c.monitoring.metricsEnabled = d.monitoring.metricsEnabled ∧
      (c.monitoring.metricsEnabled = true → c.monitoring.metricsAddress = d.monitoring.metricsAddress)
  | paths => c.paths = d.paths
  | defaultEntryPoint => c.defaultEntryPoint = d.defaultEntryPoint
  | entryPointNames => c.entryPoints.map EntryPoint.name = d.entryPoints.map EntryPoint.name
  | entryPointPaths => c.entryPoints = d.entryPoints ∧ c.defaultEntryPoint = d.defaultEntryPoint
  | cdnServers => c.proxies.cdnServers = d.proxies.cdnServers
  | trustedProxies => c.proxies.trustedProxies = d.proxies.trustedProxies
  | legacyEncoding => c.request.legacyEncoding = d.request.legacyEncoding

instance (c d : SiteConfig) : DecidablePred (SameFields c d)
  | bindAddress | timeout | canonicalServer | paths | defaultEntryPoint | entryPointNames | cdnServers | trustedProxies
  | legacyEncoding => inferInstanceAs (Decidable (_ = _))
  | metricsAddress | entryPointPaths => inferInstanceAs (Decidable (_ ∧ _))

end ConfigSection

/-! ## The problems of a section -/

/-- A problem, if there is cause for it. -/
def problemIf (cause : Prop) [Decidable cause] (p : ConfigProblem) : List ConfigProblem := if cause then [p] else []

/-- The names for which an earlier one of the list is the same, in order. -/
def repeats (names : List String) : List String :=
  (names.zipIdx.filter fun entry => entry.1 ∈ names.take entry.2).map Prod.fst

/-- The problems of entries that are no networks. -/
def unparsed (entries : List String) : List ConfigProblem :=
  (entries.filter fun entry => (parseProxy entry).toOption = none).map fun entry => .proxy ⟨Text.trim entry⟩

namespace SiteConfig

/-- The problems of one section of the settings. -/
def problemsOf (c : SiteConfig) : ConfigSection → List ConfigProblem
  | .bindAddress =>
    problemIf (socketAddress? c.server.bindAddress = none)
      (.invalidAddress "server.bind_address" c.server.bindAddress)
  | .timeout => problemIf (c.server.requestTimeout = 0) (.zero "server.request_timeout_secs")
  | .canonicalServer =>
    (c.server.canonicalServer.toList.filter fun url => !isWebUrl url).map .invalidCanonicalServer
  | .metricsAddress =>
    problemIf (c.monitoring.metricsEnabled = true ∧ socketAddress? c.monitoring.metricsAddress = none)
      (.invalidAddress "observability.metrics_address" c.monitoring.metricsAddress)
  | .paths => (faultOf? (siteRouter c.paths)).toList.map .route
  | .defaultEntryPoint => problemIf (c.defaultEntryPoint = "") .emptyDefaultEntryPoint
  | .entryPointNames => (repeats (c.entryPoints.map EntryPoint.name)).map .duplicateEntryPoint
  | .entryPointPaths => (faultOf? (EntryPointTable.ofList c.entryPoints c.defaultEntryPoint)).toList.map .route
  | .cdnServers => unparsed c.proxies.cdnServers
  | .trustedProxies => unparsed c.proxies.trustedProxies
  | .legacyEncoding =>
    problemIf (c.request.legacyEncoding ≠ "" ∧ Encoding.lookup? c.request.legacyEncoding = none)
      (.unknownEncoding c.request.legacyEncoding)

end SiteConfig

/-! ### As they are reported -/

theorem addressProblems_eq (setting value : String) :
    addressProblems setting value = problemIf (socketAddress? value = none) (.invalidAddress setting value) := by
  unfold addressProblems isSocketAddress problemIf
  cases socketAddress? value <;> rfl

theorem canonicalProblems_eq (s : ServerSettings) : s.canonicalProblems =
    (s.canonicalServer.toList.filter fun url => !isWebUrl url).map .invalidCanonicalServer := by
  unfold ServerSettings.canonicalProblems
  cases s.canonicalServer with
  | none => rfl
  | some url => cases h : isWebUrl url <;> simp [h]

theorem monitoringProblems_eq (m : MonitoringSettings) : m.problems =
    problemIf (m.metricsEnabled = true ∧ socketAddress? m.metricsAddress = none)
      (.invalidAddress "observability.metrics_address" m.metricsAddress) := by
  unfold MonitoringSettings.problems
  rw [addressProblems_eq]
  cases m.metricsEnabled <;> simp [problemIf]

theorem routeProblems_eq {α : Type} (result : Except RouteError α) :
    routeProblems result = (faultOf? result).toList.map .route := by
  cases result <;> rfl

theorem requestProblems_eq (r : RequestSettings) : r.problems =
    problemIf (r.legacyEncoding ≠ "" ∧ Encoding.lookup? r.legacyEncoding = none)
      (.unknownEncoding r.legacyEncoding) := by
  unfold RequestSettings.problems problemIf
  by_cases hempty : r.legacyEncoding = ""
  · simp [hempty]
  · cases h : Encoding.lookup? r.legacyEncoding <;> simp [hempty]

theorem proxyProblems_eq (entries : List String) : proxyProblems entries = unparsed entries := by
  unfold proxyProblems unparsed
  induction entries with
  | nil => rfl
  | cons entry entries ih =>
    rw [List.filterMap_cons, List.filter_cons, ih]
    cases hparse : parseProxy entry with
    | ok network => rfl
    | error e =>
      rw [(parseProxy_eq_error_iff.mp hparse).2]
      rfl

/-- The names seen so far are those in front of the list, in whatever order. -/
theorem repeatedNames_eq : ∀ (names : List String) {front seen : List String}, (∀ name, name ∈ seen ↔ name ∈ front) →
    repeatedNames seen names =
      ((names.zipIdx front.length).filter fun entry => entry.1 ∈ (front ++ names).take entry.2).map Prod.fst
  | [], _, _, _ => rfl
  | name :: names, front, seen, h => by
    have hrest : ∀ {seen' : List String}, (∀ other, other ∈ seen' ↔ other ∈ front ++ [name]) →
        repeatedNames seen' names = ((names.zipIdx (front.length + 1)).filter
          fun entry => entry.1 ∈ (front ++ name :: names).take entry.2).map Prod.fst := by
      intro seen' h'
      simpa using repeatedNames_eq names h'
    rw [repeatedNames, List.zipIdx_cons, List.filter_cons]
    simp only [List.take_left, List.contains_eq_mem, decide_eq_true_eq]
    by_cases hseen : name ∈ front
    · rw [if_pos ((h name).mpr hseen), if_pos hseen, List.map_cons, hrest]
      intro other
      rw [h, List.mem_append, List.mem_singleton]
      exact ⟨.inl, fun hor => hor.elim id fun heq => heq ▸ hseen⟩
    · rw [if_neg (mt (h name).mp hseen), if_neg hseen, hrest]
      intro other
      rw [List.mem_cons, List.mem_append, List.mem_singleton, h, or_comm]

theorem repeatedNames_nil_eq (names : List String) : repeatedNames [] names = repeats names :=
  @repeatedNames_eq names [] [] fun _ => Iff.rfl

namespace SiteConfig

variable {c d : SiteConfig} {s : ConfigSection}

/-- The problems of the settings are those of the sections in order. -/
theorem problems_eq_flatMap (c : SiteConfig) : c.problems = ConfigSection.all.flatMap c.problemsOf := by
  simp only [problems, entryPointProblems, ServerSettings.timeoutProblems, addressProblems_eq, canonicalProblems_eq,
    monitoringProblems_eq, routeProblems_eq, requestProblems_eq, proxyProblems_eq, repeatedNames_nil_eq,
    entryPointTable, ConfigSection.all, List.flatMap_cons, List.flatMap_nil, List.append_nil, List.append_assoc]
  rfl

/-- Only the fields of a section decide about its problems. -/
theorem problemsOf_eq_of_sameFields (h : s.SameFields c d) : d.problemsOf s = c.problemsOf s := by
  cases s with
  | metricsAddress =>
    obtain ⟨henabled, haddress⟩ := h
    unfold problemsOf
    rw [← henabled]
    cases hserved : c.monitoring.metricsEnabled with
    | false => simp [problemIf]
    | true => rw [haddress hserved]
  | entryPointPaths =>
    obtain ⟨hentries, hdefault⟩ := h
    unfold problemsOf
    rw [hentries, hdefault]
  | _ =>
    unfold ConfigSection.SameFields at h
    simp only [problemsOf, h]

/-- A change in one section exchanges its part of the problems and no other. -/
theorem problems_exchange (h : ∀ t ≠ s, t.SameFields c d) : ∃ before after,
    c.problems = before ++ c.problemsOf s ++ after ∧ d.problems = before ++ d.problemsOf s ++ after := by
  obtain ⟨before, after, hall⟩ := List.append_of_mem s.mem_all
  have hnodup := hall ▸ ConfigSection.nodup_all
  have hothers : ∀ t ∈ before ++ after, d.problemsOf t = c.problemsOf t := by
    intro t ht
    refine problemsOf_eq_of_sameFields (h t ?_)
    rintro rfl
    exact (List.nodup_cons.mp (List.perm_middle.nodup_iff.mp hnodup)).1 ht
  rw [List.forall_mem_append] at hothers
  refine ⟨before.flatMap c.problemsOf, after.flatMap c.problemsOf, ?_, ?_⟩
  · rw [problems_eq_flatMap, hall, List.flatMap_append, List.flatMap_cons, List.append_assoc]
  · rw [problems_eq_flatMap, hall, List.flatMap_append, List.flatMap_cons, List.append_assoc,
      List.flatMap_congr hothers.1, List.flatMap_congr hothers.2]

theorem problems_eq_nil_iff : c.problems = [] ↔ ∀ s, c.problemsOf s = [] := by
  rw [problems_eq_flatMap, List.flatMap_eq_nil_iff]
  exact ⟨fun h s => h s s.mem_all, fun h s _ => h s⟩

end SiteConfig

/-! ## What is compiled -/

/-- Networks that are, one by one, those of the entries of a list. -/
def NetworksOf (entries : List String) (networks : List Network) : Prop :=
  List.Forall₂ (fun entry network => parseProxy entry = .ok network) entries networks

/-- Without problems no entry is left out. -/
theorem networksOf_filterMap : ∀ {entries : List String}, unparsed entries = [] →
    NetworksOf entries (entries.filterMap fun entry => (parseProxy entry).toOption)
  | [], _ => .nil
  | entry :: entries, h => by
    rw [unparsed, List.map_eq_nil_iff, List.filter_eq_nil_iff, List.forall_mem_cons] at h
    obtain ⟨hentry, hentries⟩ := h
    cases hparse : parseProxy entry with
    | error e => simp [hparse, Except.toOption] at hentry
    | ok network =>
      rw [List.filterMap_cons, hparse]
      refine .cons hparse (networksOf_filterMap ?_)
      rw [unparsed, List.map_eq_nil_iff, List.filter_eq_nil_iff]
      exact hentries

/-- An address is in one of the networks if it is in that of an entry. -/
theorem NetworksOf.any_contains_iff {entries : List String} {networks : List Network} (h : NetworksOf entries networks)
    (a : IpAddress) : networks.any (·.contains a) = true ↔
      ∃ entry ∈ entries, ∃ network, parseProxy entry = .ok network ∧ network.contains a = true := by
  induction h with
  | nil => simp
  | cons hentry _ ih =>
    rw [List.any_cons, Bool.or_eq_true, ih, List.exists_mem_cons_iff, hentry]
    simp

/-- A site with all that its settings say: the router and the table of entry points, and as its proxies the networks of
all entries, none of which is left out. -/
structure Site.CompiledFrom [MultiByteDecoders] (c : SiteConfig) (site : Site) : Prop where
  config : site.config = c
  router : siteRouter c.paths = .ok site.router
  entryPoints : EntryPointTable.ofList c.entryPoints c.defaultEntryPoint = .ok site.entryPoints
  configured : NetworksOf c.proxies.cdnServers site.proxies.configured
  trusted : NetworksOf c.proxies.trustedProxies site.proxies.trusted
  isConfigured_iff : ∀ a, site.proxies.isConfigured a = true ↔
    ∃ entry ∈ c.proxies.cdnServers, ∃ network, parseProxy entry = .ok network ∧ network.contains a = true
  isTrusted_iff : ∀ a, site.proxies.isTrusted a = true ↔ ∃ entry ∈ c.proxies.cdnServers ++ c.proxies.trustedProxies,
    ∃ network, parseProxy entry = .ok network ∧ network.contains a = true
  legacyEncoding : site.legacyEncoding = Encoding.ofLabel? c.request.legacyEncoding

namespace Site

variable [MultiByteDecoders] {c : SiteConfig}

/-- Settings without problems make a site. -/
theorem exists_compile (h : c.problems = []) : ∃ site, compile c = .ok site := by
  have hrouter := SiteConfig.problems_eq_nil_iff.mp h .paths
  have htable := SiteConfig.problems_eq_nil_iff.mp h .entryPointPaths
  unfold compile
  rw [h, SiteConfig.entryPointTable]
  unfold SiteConfig.problemsOf at hrouter htable
  cases hr : siteRouter c.paths with
  | error e => rw [hr] at hrouter; cases hrouter
  | ok router =>
    cases ht : EntryPointTable.ofList c.entryPoints c.defaultEntryPoint with
    | error e => rw [ht] at htable; cases htable
    | ok entryPoints => exact ⟨_, rfl⟩

/-- Settings that make a site are without problems, and it is the site that they say. -/
theorem compiledFrom_of_compile {site : Site} (h : compile c = .ok site) : c.problems = [] ∧ site.CompiledFrom c := by
  unfold compile at h
  split at h
  next router entryPoints hproblems hrouter htable =>
    cases h
    have hsection := SiteConfig.problems_eq_nil_iff.mp hproblems
    have hconfigured := networksOf_filterMap (hsection .cdnServers)
    have htrusted := networksOf_filterMap (hsection .trustedProxies)
    refine ⟨hproblems, rfl, hrouter, htable, hconfigured, htrusted, hconfigured.any_contains_iff, fun a => ?_, rfl⟩
    rw [ProxyList.isTrusted, Bool.or_eq_true, ProxyList.isConfigured]
    simp only [SiteConfig.proxyList, hconfigured.any_contains_iff, htrusted.any_contains_iff, List.mem_append,
      or_and_right, exists_or]
  next => cases h

/-- What the router of the settings shows is what that of the site shows, -/
theorem CompiledFrom.of_map_router {α : Type} {site : Site} (h : site.CompiledFrom c) {view : Router → α} {seen : α}
    (hview : (siteRouter c.paths).map view = .ok seen) : view site.router = seen := by
  rw [h.router] at hview
  exact Except.ok.inj hview

/-- and so it is with the entry points. -/
theorem CompiledFrom.of_map_entryPoints {α : Type} {site : Site} (h : site.CompiledFrom c) {view : EntryPointTable → α}
    {seen : α} (hview : (EntryPointTable.ofList c.entryPoints c.defaultEntryPoint).map view = .ok seen) :
    view site.entryPoints = seen := by
  rw [h.entryPoints] at hview
  exact Except.ok.inj hview

/-- A site has the settings that it is made of. -/
theorem exists_compile_config (h : c.problems = []) : ∃ site, compile c = .ok site ∧ site.config = c := by
  obtain ⟨site, hsite⟩ := exists_compile h
  exact ⟨site, hsite, (compiledFrom_of_compile hsite).2.config⟩

theorem exists_compile_iff : (∃ site, compile c = .ok site) ↔ ∀ s, c.problemsOf s = [] := by
  rw [← SiteConfig.problems_eq_nil_iff]
  exact ⟨fun ⟨_, h⟩ => (compiledFrom_of_compile h).1, exists_compile⟩

end Site

namespace SiteConfig

/-- **Settings are checked section by section.** The problems of the settings are those of the sections in order; the
problems of a section depend on its own fields only, and with these they alone change. Just settings whose sections are
all without problems make a site, which is all that the settings say; of any others the problems are reported. -/
theorem problems_by_section [MultiByteDecoders] (c : SiteConfig) :
    c.problems = ConfigSection.all.flatMap c.problemsOf ∧
    (∀ d s, s.SameFields c d → d.problemsOf s = c.problemsOf s) ∧
    (∀ d s, (∀ t ≠ s, t.SameFields c d) → ∃ before after,
      c.problems = before ++ c.problemsOf s ++ after ∧ d.problems = before ++ d.problemsOf s ++ after) ∧
    ((∃ site, Site.compile c = .ok site) ↔ ∀ s, c.problemsOf s = []) ∧
    (∀ site, Site.compile c = .ok site → site.CompiledFrom c) ∧
    ∀ e, Site.compile c = .error e → e = .invalid c.problems := by
  refine ⟨problems_eq_flatMap c, fun _ _ => problemsOf_eq_of_sameFields, fun _ _ => problems_exchange,
    Site.exists_compile_iff, fun _ h => (Site.compiledFrom_of_compile h).2, fun e he => ?_⟩
  have hproblems : c.problems ≠ [] := by
    intro hnil
    obtain ⟨site, hsite⟩ := Site.exists_compile hnil
    rw [hsite] at he
    cases he
  rw [compile_eq_error hproblems] at he
  cases he
  rfl

/-- Settings with faults in four sections, of which the one in the fixed origin is mended; and settings without faults,
with a proxy in either list. -/
theorem problems_by_section_mended :
    let c : SiteConfig := {
      server := { requestTimeout := 0, canonicalServer := some "wiki.example.org" }
      entryPoints := [⟨"api", "/api"⟩, ⟨"api", ""⟩]
      proxies := { cdnServers := ["10.0.0.0/33", "192.0.2.0/24"] }
      request := { legacyEncoding := "" } }
    let d : SiteConfig := { c with server := { c.server with canonicalServer := none } }
    let good : SiteConfig := {
      proxies := { cdnServers := [" 10.0.0.0/8"], trustedProxies := ["2001:db8::1"] }
      request := { legacyEncoding := "" } }
    ((∀ t ≠ ConfigSection.canonicalServer, t.SameFields c d) ∧ ∃ before after,
      c.problems = before ++ c.problemsOf .canonicalServer ++ after ∧
      d.problems = before ++ d.problemsOf .canonicalServer ++ after) ∧
    (ConfigSection.cdnServers.SameFields c d ∧ d.problemsOf .cdnServers = c.problemsOf .cdnServers) ∧
    (∃ e, Site.compile c = .error e ∧ e = .invalid c.problems) ∧
    ∃ site, Site.compile good = .ok site ∧ site.CompiledFrom good := by
  intro c d good
  have hothers : ∀ t ≠ ConfigSection.canonicalServer, t.SameFields c d := by
    have hall : ∀ t ∈ ConfigSection.all, t ≠ .canonicalServer → t.SameFields c d := by
      unfold c d
      decide +kernel
    exact fun t ht => hall t t.mem_all ht
  have hnone : ∀ s ∈ ConfigSection.all, good.problemsOf s = [] := by
    unfold good
    decide +kernel
  have hsome : c.problems ≠ [] := by
    unfold c
    decide +kernel
  obtain ⟨-, hown, hexchange, -, -, herror⟩ := problems_by_section c
  obtain ⟨-, -, -, hcompile, hsite, -⟩ := problems_by_section good
  have hbad : Site.compile c = .error (.invalid c.problems) := compile_eq_error hsome
  obtain ⟨site, hgood⟩ := hcompile.mpr fun s => hnone s s.mem_all
  exact ⟨⟨hothers, hexchange d _ hothers⟩, ⟨rfl, hown d _ rfl⟩, ⟨_, hbad, herror _ hbad⟩, site, hgood, hsite site hgood⟩

end SiteConfig

end WikiGateway
