import WikiGateway.Text.Chars

/-!
# JSON text

Values of the JSON data model, whose objects keep the order of their members, and their two written forms: `compact`
without blanks, and `pretty` with one member or item a line and two blanks of indentation.
-/

namespace WikiGateway

/-- A JSON value. -/
inductive Json
  | null
  | bool (b : Bool)
  /-- A number by its text. -/
  | number (text : String)
  | string (s : String)
  | array (items : List Json)
  | object (members : List (String × Json))
deriving Repr, Inhabited

namespace Json

/-- A control character as four digits in base sixteen. -/
def controlEscape (c : Char) : String :=
  "\\u00" ++ String.ofList [Text.hexDigit (c.toNat / 16), Text.hexDigit (c.toNat % 16)]

/-- A character inside quotes. -/
def escapeChar (c : Char) : String :=
  if c = '"' then "\\\""
  else if c = '\\' then "\\\\"
  else if c = '\n' then "\\n"
  else if c = '\r' then "\\r"
  else if c = '\t' then "\\t"
  else if c = '\x08' then "\\b"
  else if c = '\x0c' then "\\f"
  else if c.toNat < 0x20 then controlEscape c
  else String.ofList [c]

/-- A text in quotes. -/
def quote (s : String) : String := "\"" ++ s.toList.foldl (fun out c => out ++ escapeChar c) "" ++ "\""

/-- The opening and closing brackets of an object. -/
def braces : String × String := ("\x7b", "\x7d")

mutual

/-- The text without blanks. -/
def compact : Json → String
  | null => "null"
  | bool true => "true"
  | bool false => "false"
  | number text => text
  | string s => quote s
  | array items => "[" ++ String.intercalate "," (compactItems items) ++ "]"
  | object members => braces.1 ++ String.intercalate "," (compactMembers members) ++ braces.2

/-- The texts of items without blanks. -/
def compactItems : List Json → List String
  | [] => []
  | item :: rest => compact item :: compactItems rest

/-- The texts of members without blanks. -/
def compactMembers : List (String × Json) → List String
  | [] => []
  | (name, value) :: rest => (quote name ++ ":" ++ compact value) :: compactMembers rest

end

/-- A new line with `depth` steps of indentation. -/
def newline (depth : Nat) : String := "\n" ++ String.ofList (List.replicate (2 * depth) ' ')

/-- Lines between brackets, one step further in than the brackets. -/
def block (depth : Nat) (brackets : String × String) (lines : List String) : String :=
  if lines.isEmpty then brackets.1 ++ brackets.2
  else brackets.1 ++ newline (depth + 1) ++ String.intercalate ("," ++ newline (depth + 1)) lines ++
    newline depth ++ brackets.2

mutual

/-- The text with one member or item a line, at some depth of indentation. -/
def prettyAt (depth : Nat) : Json → String
  | array items => block depth ("[", "]") (prettyItems (depth + 1) items)
  | object members => block depth braces (prettyMembers (depth + 1) members)
  | null => "null"
  | bool true => "true"
  | bool false => "false"
  | number text => text
  | string s => quote s

/-- The texts of items, each at some depth. -/
def prettyItems (depth : Nat) : List Json → List String
  | [] => []
  | item :: rest => prettyAt depth item :: prettyItems depth rest

/-- The texts of members, each at some depth. -/
def prettyMembers (depth : Nat) : List (String × Json) → List String
  | [] => []
  | (name, value) :: rest => (quote name ++ ": " ++ prettyAt depth value) :: prettyMembers depth rest

end

/-- The text with one member or item a line. -/
def pretty (value : Json) : String := prettyAt 0 value

end Json

end WikiGateway
