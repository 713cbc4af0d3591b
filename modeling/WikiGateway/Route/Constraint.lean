import WikiGateway.Pattern.Parser
import WikiGateway.Route.Error

/-!
# Constraints on placeholders

A constraint says which values a placeholder may take: those of a list, or those that a pattern matches.

* `Constraint.allows`: the test of a value.
* `Constraint.ofPattern`: the constraint of a pattern's text. The text is set between anchors before it is read, so a
  text that closes a bracket of its surroundings reaches beyond them.
-/

namespace WikiGateway

/-- A condition on the value of a placeholder. -/
inductive Constraint
  /-- The value is one of a list. -/
  | oneOf (values : List String)
  /-- The pattern matches somewhere in the value. -/
  | matching (pattern : Pattern)
deriving DecidableEq, Repr, Inhabited

/-- The name of a placeholder without dollar signs in front. -/
def placeholderName (name : String) : String := String.ofList (name.toList.dropWhile (· == '$'))

namespace Constraint

/-- Whether a value is allowed. -/
def allows (value : String) : Constraint → Bool
  | oneOf values => values.contains value
  | matching pattern => pattern.isFoundIn value

/-- The text of a pattern between anchors. -/
def anchored (pattern : String) : String := "^(?:" ++ pattern ++ ")$"

/-- The constraint of a pattern's text, for the placeholder of some name. -/
def ofPattern (name pattern : String) : Except RouteError Constraint :=
  match Pattern.parse? (anchored pattern) with
  | some p => .ok (matching p)
  | none => .error (.invalidConstraint (placeholderName name))

end Constraint

end WikiGateway
