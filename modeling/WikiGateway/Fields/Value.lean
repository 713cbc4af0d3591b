import WikiGateway.Text.Clean
import WikiGateway.Text.Json

/-!
# Values of request fields

A field of a request holds one text or a list of texts.
-/

namespace WikiGateway

/-- One text or a list of texts. -/
inductive FieldValue
  | scalar (text : String)
  | list (items : List String)
deriving DecidableEq, Repr, Inhabited

namespace FieldValue

/-- The text of a field that holds one. -/
def scalar? : FieldValue → Option String
  | scalar text => some text
  | list _ => none

/-- The value with every text cleaned. -/
def clean : FieldValue → FieldValue
  | scalar text => scalar (Text.clean text)
  | list items => list (Text.cleanAll items)

/-- The value with one more text at the end of its list; a single text gives way to the new one. -/
def push (text : String) : FieldValue → FieldValue
  | scalar _ => list [text]
  | list items => list (items ++ [text])

/-- The value as JSON. -/
def toJson : FieldValue → Json
  | scalar text => .string text
  | list items => .array (items.map .string)

end FieldValue

end WikiGateway
