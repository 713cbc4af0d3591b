import WikiGateway.Route.Template

/-!
# Routers

A router is a list of path templates, of which the first that matches a path decides.

* `Router.add`: one more template at the end; a fault leaves no new router.
* `Router.addKeyed`: a template for each key of a table, up to the first fault.
* `Router.register`: either of them as a call on a router that stays as it is where a fault ends the call.
* `Router.route`: the template of a path and its parameters; the empty path and the single slash are the home of a site.
* `Router.route_eq_nowhere_iff`: what no template matches leads nowhere.
-/

namespace WikiGateway

/-- Where a path leads. -/
inductive RouteMatch
  /-- To the home of the site. -/
  | home
  /-- Nowhere. -/
  | nowhere
  /-- To the template of an index, with parameters. -/
  | matched (index : Nat) (params : List (String × String))
deriving DecidableEq, Repr, Inhabited

namespace RouteMatch

/-- The parameters of the path. -/
def params : RouteMatch → List (String × String)
  | matched _ params => params
  | _ => []

/-- The value of the first parameter of a name. -/
def get? (m : RouteMatch) (name : String) : Option String := valueOf? m.params name

end RouteMatch

/-- An ordered list of path templates. -/
structure Router where
  templates : List PathTemplate := []
deriving DecidableEq, Repr, Inhabited

/-- A call that adds templates to a router. -/
inductive RouterCall
  /-- One template with its parameters and constraints. -/
  | add (template : String) (params : List (String × String)) (constraints : List (String × Constraint))
  /-- A template for each key of a table. -/
  | addKeyed (params : List (String × String)) (entries : List (String × String))
deriving DecidableEq, Repr, Inhabited

/-- The value of a parameter with the key of a table in the place of `$key`. -/
def fillKey (key value : String) : String := String.ofList (Text.replaceText "$key".toList key.toList value.toList)

namespace Router

/-- The number of templates. -/
def size (r : Router) : Nat := r.templates.length

/-- The router with one more template at the end. -/
def add (r : Router) (template : String) (params : List (String × String))
    (constraints : List (String × Constraint)) : Except RouteError Router :=
  (PathTemplate.compile template params constraints).map fun t => ⟨r.templates ++ [t]⟩

/-- The router with a template for each key, up to the first fault. -/
def addKeyed (r : Router) (params : List (String × String)) :
    List (String × String) → Router × Option RouteError
  | [] => (r, none)
  | (key, template) :: rest =>
    match r.add template (params.map fun (name, value) => (name, fillKey key value)) [] with
    | .error e => (r, some e)
    | .ok r => r.addKeyed params rest

/-- The router after a call, and the fault that ended it, if one did. -/
def register (r : Router) : RouterCall → Router × Option RouteError
  | .add template params constraints =>
    match r.add template params constraints with
    | .ok r => (r, none)
    | .error e => (r, some e)
  | .addKeyed params entries => r.addKeyed params entries

/-- The first template that matches a path, where `index` counts those before. -/
def firstMatch (path : String) (index : Nat) : List PathTemplate → RouteMatch
  | [] => .nowhere
  | t :: rest =>
    match t.match? path with
    | some params => .matched index params
    | none => firstMatch path (index + 1) rest

/-- Where a path leads. -/
def route (r : Router) (path : String) : RouteMatch :=
  if path = "" ∨ path = "/" then .home else firstMatch path 0 r.templates

theorem firstMatch_eq_nowhere_iff (path : String) : ∀ (templates : List PathTemplate) (index : Nat),
    firstMatch path index templates = .nowhere ↔ ∀ t ∈ templates, t.match? path = none
  | [], _ => by simp [firstMatch]
  | t :: rest, index => by
    rw [firstMatch]
    cases h : t.match? path with
    | none => simp [h, firstMatch_eq_nowhere_iff path rest (index + 1)]
    | some params => simp [h]

/-- A path leads nowhere if it is not the home and no template matches it. -/
theorem route_eq_nowhere_iff {r : Router} {path : String} :
    r.route path = .nowhere ↔ path ≠ "" ∧ path ≠ "/" ∧ ∀ t ∈ r.templates, t.match? path = none := by
  unfold route
  split
  next hhome =>
    refine iff_of_false RouteMatch.noConfusion ?_
    rintro ⟨hempty, hslash, -⟩
    exact hhome.elim hempty hslash
  next hother =>
    obtain ⟨hempty, hslash⟩ := not_or.mp hother
    simp [firstMatch_eq_nowhere_iff, hempty, hslash]

end Router

end WikiGateway
