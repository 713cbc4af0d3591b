/-!
# Errors in routes

What can be wrong with the path templates and the entry points of a site.
-/

namespace WikiGateway

/-- A fault in a path template or in a table of entry points. -/
inductive RouteError
  /-- The template has no text. -/
  | emptyTemplate
  /-- The template does not start with a slash. -/
  | missingLeadingSlash (template : String)
  /-- A dollar sign, at some offset in bytes, has no name behind it. -/
  | danglingPlaceholder (template : String) (offset : Nat)
  /-- Two placeholders have no text between them. -/
  | adjacentPlaceholders (template : String)
  /-- A parameter or a constraint names a placeholder that the template lacks. -/
  | unknownPlaceholder (template name : String)
  /-- The pattern for the placeholder is no pattern. -/
  | invalidConstraint (name : String)
  /-- The template of an article has no placeholder for the title. -/
  | missingTitlePlaceholder (setting template : String)
  /-- An entry point other than the default one has an empty path. -/
  | emptyEntryPointPath (name : String)
deriving DecidableEq, Repr, Inhabited

namespace RouteError

/-- The text of the error; the reason why a pattern is none is left open. -/
def message : RouteError → String
  | emptyTemplate => "route template is empty"
  | missingLeadingSlash template => "route template '" ++ template ++ "' must begin with a slash"
  | danglingPlaceholder template offset =>
    "route template '" ++ template ++ "' has a '$' without a name at offset " ++ offset.repr
  | adjacentPlaceholders template => "route template '" ++ template ++ "' has adjacent placeholders"
  | unknownPlaceholder template name => "route template '" ++ template ++ "' has no placeholder '$" ++ name ++ "'"
  | invalidConstraint name => "invalid constraint for '$" ++ name ++ "': <reason>"
  | missingTitlePlaceholder setting template => setting ++ " must contain '$1' (got '" ++ template ++ "')"
  | emptyEntryPointPath name =>
    "entry point '" ++ name ++ "' has an empty path; only the default entry point's path can be empty"

end RouteError

end WikiGateway
