import WikiGateway.Route.Error
import WikiGateway.Text.Percent
import WikiGateway.Text.Split

/-!
# Titles in paths

Settings for the paths of articles, and the reading of titles below plain bases.

* `checkTitlePath`: a setting for the paths of articles starts with a slash and holds the title.
* `titleBelow`: the title of a path below the first of several bases.
-/

namespace WikiGateway

/-- The placeholder of the title. -/
def titleMark : List Char := "$1".toList

/-- Checks a template for the paths of articles, which stands in some setting. -/
def checkTitlePath (template setting : String) : Except RouteError Unit :=
  if template.toList.head? != some '/' then .error (.missingLeadingSlash template)
  else if !Text.containsText titleMark template.toList then .error (.missingTitlePlaceholder setting template)
  else .ok ()

/-- The title of a path below the first base that leaves one, and the key of that base under a name, if one is given.
The mark of the title in a base counts for nothing. -/
def titleBelow (path : String) (bases : List (String × String)) (keyName : Option String) :
    List (String × String) :=
  let found := bases.findSome? fun (key, base) =>
    match Text.dropPrefix? (Text.replaceText titleMark [] base.toList) path.toList with
    | none | some [] => none
    | some rest => some (key, Text.percentDecodeText (String.ofList rest))
  match found with
  | none => []
  | some (key, title) => ("title", title) :: (keyName.toList.map fun name => (name, key))

end WikiGateway
