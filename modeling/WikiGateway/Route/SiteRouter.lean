import WikiGateway.Config.Settings
import WikiGateway.Route.Router
import WikiGateway.Route.Title

/-!
# The router of a site

The path templates of a site, in the order in which they are tried: articles with actions, articles, the paths of
actions, further routes, and articles in variants of the language.

* `siteRouter`: the router of the settings, or the first fault.
-/

namespace WikiGateway

namespace PathSettings

/-- The names of parts of a path in the place of which placeholders stand. -/
def numberedPlaceholders (template : String) : String :=
  let named := Text.replaceText "$title".toList "$1".toList template.toList
  String.ofList (Text.replaceText "$action".toList "$2".toList named)

/-- Adds the template of articles with actions, if there is one. -/
def addActionArticles (p : PathSettings) (r : Router) : Except RouteError Router :=
  match p.articlePathWithAction.filter (· != "") with
  | none => .ok r
  | some template =>
    r.add (numberedPlaceholders template) [("title", "$1"), ("action", "$2")] [("$2", .oneOf p.validActions)]

/-- Adds the template of articles, if there is one. -/
def addArticles (p : PathSettings) (r : Router) : Except RouteError Router :=
  if p.articlePath = "" then .ok r
  else (checkTitlePath p.articlePath "article_path").bind fun _ => r.add p.articlePath [] []

/-- Adds the templates of actions. -/
def addActions (p : PathSettings) (r : Router) : Except RouteError Router :=
  match r.addKeyed [("action", "$key")] p.actionPaths with
  | (r, none) => .ok r
  | (_, some e) => .error e

end PathSettings

namespace ExtraRoute

/-- The constraints of the lists of values. -/
def listConstraints (route : ExtraRoute) : List (String × Constraint) :=
  route.oneOf.map fun (name, values) => (name, .oneOf values)

/-- The constraint of a pattern, for the placeholder of some name. -/
def patternConstraint (entry : String × String) : Except RouteError (String × Constraint) :=
  (Constraint.ofPattern entry.1 entry.2).map fun constraint => (entry.1, constraint)

/-- The constraints of a route: the lists of values and then the patterns. -/
def constraints (route : ExtraRoute) : Except RouteError (List (String × Constraint)) :=
  (route.patterns.mapM patternConstraint).map fun patterns => route.listConstraints ++ patterns

/-- Adds a route. -/
def addTo (route : ExtraRoute) (r : Router) : Except RouteError Router :=
  route.constraints.bind fun constraints => r.add route.template route.params constraints

end ExtraRoute

namespace PathSettings

/-- Adds the further routes. -/
def addExtraRoutes (p : PathSettings) (r : Router) : Except RouteError Router :=
  p.extraRoutes.foldlM (fun r route => route.addTo r) r

/-- Adds the template of articles in variants, if there is one. -/
def addVariantArticles (p : PathSettings) (r : Router) : Except RouteError Router :=
  match p.variantArticlePath.filter (· != "") with
  | none => .ok r
  | some template =>
    (checkTitlePath template "variant_article_path").bind fun _ =>
      r.add template [("variant", "$2")] [("$2", .oneOf p.variants)]

end PathSettings

/-- The router of the settings for paths. -/
def siteRouter (p : PathSettings) : Except RouteError Router := do
  let r ← p.addActionArticles {}
  let r ← p.addArticles r
  let r ← p.addActions r
  let r ← p.addExtraRoutes r
  p.addVariantArticles r

end WikiGateway
