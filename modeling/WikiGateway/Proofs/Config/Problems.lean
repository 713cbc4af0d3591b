import Mathlib.Data.List.Basic
import WikiGateway.Config.Site

/-!
# Faults in paths and entry points

The settings for paths add templates to the router of a site one after the other (`PathSettings.settings`,
`siteRouter_eq_foldlM`), and whether one of them is at fault does not depend on the others
(`faultOf?_siteRouter_alone`). Building the router stops at the first fault, and so does building the table of the entry
points.

* `PathSettings.faults`, `SiteConfig.entryPointFaults`: the faults of the settings, each taken on its own.
* `PathSettings.faultOf?_siteRouter`, `SiteConfig.faultOf?_entryPointTable`: the first of them is that of the whole.
* `SiteConfig.route_problems`: the faults among the problems of the settings are the first ones.
* `SiteConfig.route_problems_two_of_each`: others are not among them.
-/

namespace WikiGateway

/-- The fault of a result. -/
def faultOf? {α : Type} : Except RouteError α → Option RouteError
  | .ok _ => none
  | .error e => some e

theorem route_mem_routeProblems_iff {α : Type} {result : Except RouteError α} {e : RouteError} :
    .route e ∈ routeProblems result ↔ faultOf? result = some e := by
  cases result with
  | ok a => simp [routeProblems, faultOf?]
  | error e' => simp [routeProblems, faultOf?, eq_comm]

/-! ## The settings for paths one by one -/

/-- A setting that adds a template to the router of a site. -/
inductive PathSetting
  /-- Articles with actions. -/
  | actionArticles (template : String)
  | articles (template : String)
  /-- The path of an action. -/
  | action (key template : String)
  | extra (route : ExtraRoute)
  /-- Articles in variants of the language. -/
  | variantArticles (template : String)

namespace PathSettings

/-- The settings that add templates, in the order in which they do so. -/
def settings (p : PathSettings) : List PathSetting :=
  (p.articlePathWithAction.filter (· != "")).toList.map .actionArticles ++
    (if p.articlePath = "" then [] else [.articles p.articlePath]) ++
    p.actionPaths.map (fun (key, template) => .action key template) ++ p.extraRoutes.map .extra ++
    (p.variantArticlePath.filter (· != "")).toList.map .variantArticles

/-- The settings with no template. -/
def bare (p : PathSettings) : PathSettings :=
  { p with
    articlePath := "", articlePathWithAction := none, actionPaths := [], variantArticlePath := none, extraRoutes := [] }

/-- The settings with one template alone. -/
def alone (p : PathSettings) : PathSetting → PathSettings
  | .actionArticles template => { p.bare with articlePathWithAction := some template }
  | .articles template => { p.bare with articlePath := template }
  | .action key template => { p.bare with actionPaths := [(key, template)] }
  | .extra route => { p.bare with extraRoutes := [route] }
  | .variantArticles template => { p.bare with variantArticlePath := some template }

/-- The faults of the settings for paths, each taken on its own. -/
def faults (p : PathSettings) : List RouteError := p.settings.filterMap fun s => faultOf? (siteRouter (p.alone s))

/-- The template of a setting. -/
def template (p : PathSettings) : PathSetting → Except RouteError PathTemplate
  | .actionArticles template =>
    PathTemplate.compile (numberedPlaceholders template) [("title", "$1"), ("action", "$2")]
      [("$2", .oneOf p.validActions)]
  | .articles template =>
    (checkTitlePath template "article_path").bind fun _ => PathTemplate.compile template [] []
  | .action key template => PathTemplate.compile template [("action", fillKey key "$key")] []
  | .extra route =>
    route.constraints.bind fun constraints => PathTemplate.compile route.template route.params constraints
  | .variantArticles template =>
    (checkTitlePath template "variant_article_path").bind fun _ =>
      PathTemplate.compile template [("variant", "$2")] [("$2", .oneOf p.variants)]

/-- Adds the template of a setting. -/
def addSetting (p : PathSettings) (r : Router) (s : PathSetting) : Except RouteError Router :=
  (p.template s).map fun t => ⟨r.templates ++ [t]⟩

/-! ### The router as a fold -/

section
variable (p : PathSettings) (r : Router)

theorem addActionArticles_eq_foldlM : p.addActionArticles r =
    ((p.articlePathWithAction.filter (· != "")).toList.map PathSetting.actionArticles).foldlM p.addSetting r := by
  unfold addActionArticles
  cases p.articlePathWithAction.filter (· != "") with
  | none => rfl
  | some template => exact (bind_pure _).symm

theorem addArticles_eq_foldlM : p.addArticles r =
    (if p.articlePath = "" then [] else [PathSetting.articles p.articlePath]).foldlM p.addSetting r := by
  unfold addArticles
  split
  next => rfl
  next =>
    show _ = p.addSetting r (.articles p.articlePath) >>= pure
    rw [bind_pure, addSetting, template]
    cases checkTitlePath p.articlePath "article_path" <;> rfl

theorem addActions_eq_foldlM : p.addActions r =
    (p.actionPaths.map fun (key, template) => PathSetting.action key template).foldlM p.addSetting r := by
  unfold addActions
  induction p.actionPaths generalizing r with
  | nil => rfl
  | cons entry rest ih =>
    obtain ⟨key, template⟩ := entry
    have hadd : r.add template ([("action", "$key")].map fun (name, value) => (name, fillKey key value)) [] =
        p.addSetting r (.action key template) := rfl
    rw [List.map_cons, List.foldlM_cons, Router.addKeyed, hadd]
    cases p.addSetting r (.action key template) with
    | error e => rfl
    | ok r => exact ih r

theorem addExtraRoutes_eq_foldlM :
    p.addExtraRoutes r = (p.extraRoutes.map PathSetting.extra).foldlM p.addSetting r := by
  rw [addExtraRoutes, List.foldlM_map]
  congr 1
  funext r route
  rw [addSetting, template, ExtraRoute.addTo]
  cases route.constraints <;> rfl

theorem addVariantArticles_eq_foldlM : p.addVariantArticles r =
    ((p.variantArticlePath.filter (· != "")).toList.map PathSetting.variantArticles).foldlM p.addSetting r := by
  unfold addVariantArticles
  cases p.variantArticlePath.filter (· != "") with
  | none => rfl
  | some template =>
    show _ = p.addSetting r (.variantArticles template) >>= pure
    rw [bind_pure, addSetting, PathSettings.template]
    dsimp only
    cases checkTitlePath template "variant_article_path" <;> rfl

end

/-- The router of a site adds the template of one setting after the other. -/
theorem siteRouter_eq_foldlM (p : PathSettings) : siteRouter p = p.settings.foldlM p.addSetting {} := by
  simp only [siteRouter, settings, List.foldlM_append, bind_assoc, addActionArticles_eq_foldlM, addArticles_eq_foldlM,
    addActions_eq_foldlM, addExtraRoutes_eq_foldlM, addVariantArticles_eq_foldlM]

/-- The first fault ends the run. -/
theorem faultOf?_foldlM_addSetting (p : PathSettings) : ∀ (ss : List PathSetting) (r : Router),
    faultOf? (ss.foldlM p.addSetting r) = (ss.filterMap fun s => faultOf? (p.template s)).head?
  | [], _ => rfl
  | s :: ss, r => by
    rw [List.foldlM_cons, List.filterMap_cons, addSetting]
    cases p.template s with
    | error e => rfl
    | ok t => exact faultOf?_foldlM_addSetting p ss _

/-! ### Settings on their own -/

theorem template_alone (p : PathSettings) (s other : PathSetting) : (p.alone s).template other = p.template other := by
  cases s <;> cases other <;> rfl

/-- Only templates that are not empty are settings. -/
theorem settings_alone {p : PathSettings} {s : PathSetting} (h : s ∈ p.settings) : (p.alone s).settings = [s] := by
  cases s with
  | actionArticles template =>
    have hset : p.articlePathWithAction = some template ∧ template ≠ "" := by simpa [settings] using h
    simp [settings, alone, bare, hset.2]
  | articles template =>
    obtain ⟨hset, rfl⟩ : p.articlePath ≠ "" ∧ template = p.articlePath := by simpa [settings] using h
    simp [settings, alone, bare, hset]
  | action key template => rfl
  | extra route => rfl
  | variantArticles template =>
    have hset : p.variantArticlePath = some template ∧ template ≠ "" := by simpa [settings] using h
    simp [settings, alone, bare, hset.2]

/-- A setting is at fault on its own if its template is. -/
theorem faultOf?_siteRouter_alone {p : PathSettings} {s : PathSetting} (h : s ∈ p.settings) :
    faultOf? (siteRouter (p.alone s)) = faultOf? (p.template s) := by
  rw [siteRouter_eq_foldlM, settings_alone h, List.foldlM_cons, addSetting, template_alone]
  cases p.template s <;> rfl

/-- The fault of the router is the first one of the settings on their own. -/
theorem faultOf?_siteRouter (p : PathSettings) : faultOf? (siteRouter p) = p.faults.head? := by
  rw [siteRouter_eq_foldlM, faultOf?_foldlM_addSetting, faults,
    List.filterMap_congr fun s hs => faultOf?_siteRouter_alone hs]

end PathSettings

/-! ## Entry points -/

/-- The faults of the entry points, each taken on its own. -/
def SiteConfig.entryPointFaults (c : SiteConfig) : List RouteError :=
  c.entryPoints.filterMap fun entry => faultOf? (EntryPointTable.ofList [entry] c.defaultEntryPoint)

theorem EntryPointTable.faultOf?_ofList (entries : List EntryPoint) (default : String) :
    faultOf? (ofList entries default) = (entries.find? fun entry => entry.path == "" && entry.name != default).map
      fun entry => .emptyEntryPointPath entry.name := by
  unfold ofList
  split
  next h => rw [h]; rfl
  next h => rw [h]; rfl

/-- The fault of the table is the first one of the entry points on their own. -/
theorem SiteConfig.faultOf?_entryPointTable (c : SiteConfig) :
    faultOf? c.entryPointTable = c.entryPointFaults.head? := by
  rw [entryPointTable, entryPointFaults, EntryPointTable.faultOf?_ofList]
  induction c.entryPoints with
  | nil => rfl
  | cons entry entries ih =>
    rw [List.filterMap_cons, List.find?_cons, EntryPointTable.faultOf?_ofList, List.find?_singleton]
    cases entry.path == "" && entry.name != c.defaultEntryPoint with
    | true => rfl
    | false => exact ih

/-! ## Problems -/

namespace SiteConfig

variable {c : SiteConfig}

/-- The faults among the problems are those of the router and of the table. -/
theorem route_mem_problems_iff {e : RouteError} :
    .route e ∈ c.problems ↔ faultOf? (siteRouter c.paths) = some e ∨ faultOf? c.entryPointTable = some e := by
  have haddress : ∀ setting value, .route e ∉ addressProblems setting value := by
    intro setting value
    unfold addressProblems
    split <;> simp
  have htimeout : .route e ∉ c.server.timeoutProblems := by
    unfold ServerSettings.timeoutProblems
    split <;> simp
  have hcanonical : .route e ∉ c.server.canonicalProblems := by
    unfold ServerSettings.canonicalProblems
    split
    next => simp
    next => split <;> simp
  have hmonitoring : .route e ∉ c.monitoring.problems := by
    unfold MonitoringSettings.problems
    split
    next => exact haddress _ _
    next => simp
  have hnames : .route e ∉ (repeatedNames [] (c.entryPoints.map (·.name))).map ConfigProblem.duplicateEntryPoint := by
    simp
  have hproxy : ∀ entries, .route e ∉ proxyProblems entries := by
    intro entries hmem
    obtain ⟨entry, -, hentry⟩ := List.mem_filterMap.mp hmem
    split at hentry <;> cases hentry
  have hrequest : .route e ∉ c.request.problems := by
    unfold RequestSettings.problems
    split <;> simp
  have hdefault : .route e ∉ if c.defaultEntryPoint = "" then [ConfigProblem.emptyDefaultEntryPoint] else [] := by
    split <;> simp
  simp only [problems, entryPointProblems, List.mem_append, haddress, htimeout, hcanonical, hmonitoring, hnames, hproxy,
    hrequest, hdefault, route_mem_routeProblems_iff, false_or, or_false]

/-- Settings with problems make no site, and all their problems are reported. -/
theorem compile_eq_error [MultiByteDecoders] (h : c.problems ≠ []) : Site.compile c = .error (.invalid c.problems) := by
  unfold Site.compile
  split
  next hnil _ _ => exact absurd hnil h
  next => rfl

/-- **The first faults are reported.** The faults that the problems of settings name are the first one of the settings
for paths and the first one of the entry points, where each setting is taken on its own; and settings with a fault make
no site. -/
theorem route_problems [MultiByteDecoders] (c : SiteConfig) :
    (∀ e, .route e ∈ c.problems ↔ c.paths.faults.head? = some e ∨ c.entryPointFaults.head? = some e) ∧
    (c.paths.faults ≠ [] ∨ c.entryPointFaults ≠ [] → Site.compile c = .error (.invalid c.problems)) := by
  have hreported : ∀ e, .route e ∈ c.problems ↔ c.paths.faults.head? = some e ∨ c.entryPointFaults.head? = some e := by
    intro e
    rw [route_mem_problems_iff, PathSettings.faultOf?_siteRouter, faultOf?_entryPointTable]
  refine ⟨hreported, fun hfaults => compile_eq_error ?_⟩
  rcases hfaults with h | h
  · exact List.ne_nil_of_mem ((hreported _).mpr (.inl (List.head?_eq_some_head h)))
  · exact List.ne_nil_of_mem ((hreported _).mpr (.inr (List.head?_eq_some_head h)))

/-- Of two faults in paths and two in entry points, the first ones alone are reported. -/
theorem route_problems_two_of_each :
    let c : SiteConfig := {
      paths := { articlePath := "/wiki/", variantArticlePath := some "/$2/x" }
      entryPoints := [⟨"api", ""⟩, ⟨"rest", ""⟩]
      request := { legacyEncoding := "" } }
    c.paths.faults = [.missingTitlePlaceholder "article_path" "/wiki/",
      .missingTitlePlaceholder "variant_article_path" "/$2/x"] ∧
    c.entryPointFaults = [.emptyEntryPointPath "api", .emptyEntryPointPath "rest"] ∧
    c.problems = [.route (.missingTitlePlaceholder "article_path" "/wiki/"), .route (.emptyEntryPointPath "api")] := by
  decide +kernel

end SiteConfig

end WikiGateway
