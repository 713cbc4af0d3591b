import WikiGateway.Text.Chars
import WikiGateway.Text.Split
import WikiGateway.Text.Utf8

/-!
# Response messages

What goes over the wire: a status, header fields and a body. Names of fields are tokens in lower case, and values hold
no control characters other than tab.

* `fieldToken?`, `isFieldValue`: which fields can be sent.
* `Message.setField`, `Message.addField`: fields by name.
-/

namespace WikiGateway

/-- A character of a token. -/
def isTokenChar (c : Char) : Bool := c.isAlphanum || "!#$%&'*+-.^_|~\x60".toList.contains c

/-- The longest name of a header field. -/
def maxFieldName : Nat := 65535

/-- The name of a header field in lower case, if it can be sent. -/
def fieldToken? (name : String) : Option String :=
  if name ≠ "" ∧ name.toList.all isTokenChar ∧ name.length ≤ maxFieldName then some (Text.lowerAscii name) else none

/-- Whether a value of a header field can be sent. -/
def isFieldValue (value : String) : Bool :=
  value.toList.all fun c => c == '\t' || (0x20 ≤ c.toNat && c.toNat != 0x7F)

/-- Whether a value of a header field is printable ASCII or tabs. -/
def isPlainValue (value : String) : Bool :=
  value.toList.all fun c => c == '\t' || (0x20 ≤ c.toNat && c.toNat < 0x7F)

/-- A status code with three digits. -/
def isStatusCode (code : Nat) : Bool := 100 ≤ code && code ≤ 999

/-- A response as it goes over the wire. -/
structure Message where
  status : Nat := 200
  /-- Names in lower case and values, in order. -/
  fields : List (String × String) := []
  body : List UInt8 := []
deriving DecidableEq, Repr, Inhabited

namespace Message

/-- The values of a field in order. -/
def valuesOf (m : Message) (name : String) : List String :=
  (m.fields.filter (·.1 == name)).map Prod.snd

/-- The first value of a field. -/
def field? (m : Message) (name : String) : Option String := (m.fields.find? (·.1 == name)).map Prod.snd

/-- Adds a field behind the others. The capacity of a table of fields is not modelled: a server keeps at most 24576
names, and panics at one more. -/
def addField (m : Message) (name value : String) : Message := { m with fields := m.fields ++ [(name, value)] }

/-- Sets a field in the place of all of its name. As for `addField`, the capacity is not modelled. -/
def setField (m : Message) (name value : String) : Message :=
  { m with fields := m.fields.filter (·.1 != name) ++ [(name, value)] }

/-- Sets the status, if the code is one. -/
def setStatus (m : Message) (code : Nat) : Message := if isStatusCode code then { m with status := code } else m

end Message

/-! ## Header lines -/

/-- A line of a header. -/
inductive HeaderLine
  /-- A status line. -/
  | status (code : Nat)
  | field (name value : String)
deriving DecidableEq, Repr, Inhabited

/-- A number below 65536 with an optional plus in front. -/
def statusNumber? (cs : List Char) : Option Nat :=
  let digits := match cs with
    | '+' :: rest => rest
    | cs => cs
  if digits.isEmpty || !digits.all Char.isDigit then none
  else if Text.digitsValue digits < 65536 then some (Text.digitsValue digits) else none

/-- The words of a text between blanks. -/
def blankWords (cs : List Char) : List (List Char) := (Text.splitOn Text.isSpace cs).filter (!·.isEmpty)

/-- Reads a line of a header: a status line, or a name and a value around a colon. -/
def parseHeaderLine? (line : String) : Option HeaderLine :=
  if (Text.dropPrefix? "HTTP/".toList line.toList).isSome then
    ((blankWords line.toList)[1]?.bind statusNumber?).map .status
  else
    (Text.cut? (· == ':') line.toList).bind fun (name, value) =>
      let name := String.ofList (Text.trimBoth Text.isSpace name)
      if name = "" then none else some (.field name (String.ofList (Text.trimBoth Text.isSpace value)))

end WikiGateway
