import WikiGateway.Route.Constraint
import WikiGateway.Route.Segment
import WikiGateway.Text.Percent
import WikiGateway.Text.Split

/-!
# Path templates

A template describes paths with placeholders, the parameters that a path of this form yields, and constraints on what
the placeholders stand for.

* `PathTemplate.compile`: a template from its text, which checks that every placeholder used is declared.
* `bindPath?`: what the placeholders stand for. One in front of a text takes the fewest characters, at least one and no
  slash; one at the end takes all that is left.
* `PathTemplate.match?`: the parameters of a path.
-/

namespace WikiGateway

/-- A path template. -/
structure PathTemplate where
  /-- The template as it was written. -/
  source : String
  segments : List Segment
  /-- The parameters with the templates of their values. -/
  params : List (String × List Segment)
  /-- The constraints with the names of their placeholders. -/
  constraints : List (String × Constraint)
deriving DecidableEq, Repr, Inhabited

/-! ## Compilation -/

namespace PathTemplate

/-- The template of a parameter's value, whose placeholders must be declared. -/
def compileValue (source : String) (declared : List String) (value : String) :
    Except RouteError (List Segment) :=
  match parseSegments value with
  | .error e => .error e
  | .ok segments =>
    match (placeholderNames segments).find? fun name => !declared.contains name with
    | some name => .error (.unknownPlaceholder source name)
    | none => .ok segments

/-- The templates of the parameters' values. -/
def compileParams (source : String) (declared : List String) (params : List (String × String)) :
    Except RouteError (List (String × List Segment)) :=
  params.mapM fun (name, value) => (compileValue source declared value).map (name, ·)

/-- A constraint by the name of its placeholder, which must be declared. -/
def compileConstraint (source : String) (declared : List String) (constraint : String × Constraint) :
    Except RouteError (String × Constraint) :=
  let name := placeholderName constraint.1
  if declared.contains name then .ok (name, constraint.2) else .error (.unknownPlaceholder source name)

/-- The parameter `title`, which the placeholder `$1` yields unless a parameter of this name is given. -/
def impliedParams (declared : List String) (params : List (String × String)) : List (String × List Segment) :=
  if declared.contains "1" && !params.any (·.1 == "title") then [("title", [.placeholder "1"])] else []

/-- A template from its text, the values of its parameters, and its constraints by placeholder. -/
def compile (source : String) (params : List (String × String)) (constraints : List (String × Constraint)) :
    Except RouteError PathTemplate :=
  if source.isEmpty then .error .emptyTemplate
  else if source.toList.head? != some '/' then .error (.missingLeadingSlash source)
  else do
    let segments ← parseSegments source
    let declared := placeholderNames segments
    let compiled ← compileParams source declared params
    let checked ← constraints.mapM (compileConstraint source declared)
    return ⟨source, segments, impliedParams declared params ++ compiled, checked⟩

end PathTemplate

/-! ## Matching -/

/-- What the placeholders of a template stand for in a path, in order. -/
def bindPath? : List Segment → List Char → Option (List (String × List Char))
  | [], path => if path.isEmpty then some [] else none
  | .literal text :: rest, path => (Text.dropPrefix? text.toList path).bind (bindPath? rest)
  | .placeholder name :: .literal text :: rest, path =>
    match path with
    | [] => none
    | first :: more =>
      match Text.cutText? text.toList more with
      | none => none
      | some (before, after) =>
        if (first :: before).contains '/' then none
        else (bindPath? rest after).map ((name, first :: before) :: ·)
  | .placeholder name :: rest, path =>
    if path.isEmpty then none else (bindPath? rest []).map ((name, path) :: ·)

/-- The decoded value of the first placeholder of a name. -/
def valueOf? (bindings : List (String × String)) (name : String) : Option String :=
  (bindings.find? (·.1 == name)).map Prod.snd

/-- A segment with the value of its placeholder. -/
def Segment.fill (bindings : List (String × String)) : Segment → String
  | literal text => text
  | placeholder name => (valueOf? bindings name).getD ""

/-- A template of a value with the values of its placeholders. -/
def fillSegments (bindings : List (String × String)) (segments : List Segment) : String :=
  String.join (segments.map (Segment.fill bindings))

namespace PathTemplate

/-- What the placeholders stand for in a path, decoded. -/
def bindings? (t : PathTemplate) (path : String) : Option (List (String × String)) :=
  (bindPath? t.segments path.toList).map fun raw =>
    raw.map fun (name, piece) => (name, Text.percentDecodeText (String.ofList piece))

/-- Whether the values of the placeholders meet the constraints. -/
def meetsConstraints (t : PathTemplate) (bindings : List (String × String)) : Bool :=
  t.constraints.all fun (name, constraint) => (valueOf? bindings name).any constraint.allows

/-- The parameters of a path of this form. -/
def match? (t : PathTemplate) (path : String) : Option (List (String × String)) :=
  ((t.bindings? path).filter t.meetsConstraints).map fun bindings =>
    t.params.map fun (name, value) => (name, fillSegments bindings value)

end PathTemplate

end WikiGateway
