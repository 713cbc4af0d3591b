import WikiGateway.Encoding.Catalogue
import WikiGateway.Fields.Map
import WikiGateway.Text.Percent

/-!
# Form-encoded input

A form is a list of pairs `name=value` between ampersands. In both parts `+` stands for a blank and other characters
may be percent-encoded. The rule for names: leading blanks are dropped, `[…]` makes the pair an item of a list and cuts
the name, an unclosed bracket is a plain character, and dots, blanks and unclosed brackets become underscores.

* `fieldName?`: the rule for names.
* `formItems`: the pairs of a form as named texts.
* `parseForm`: the map that the items build up; the last item of a name decides whether it is a list.
-/

namespace WikiGateway

/-! ## Names -/

/-- A dot or a blank becomes an underscore. -/
def plainNameChar (c : Char) : Char := if c = '.' ∨ c = ' ' then '_' else c

/-- The stored form of a name, and nothing for an empty one. -/
def storedName? (name : List Char) : Option String :=
  if name.isEmpty then none else some (String.ofList (name.map plainNameChar))

/-- The stored name of a key and whether it names the items of a list. -/
def fieldName? (key : List Char) : Option (String × Bool) :=
  let key := key.dropWhile (· == ' ')
  match Text.cut? (· == '[') key with
  | none => (storedName? key).map fun name => (name, false)
  | some (name, rest) =>
    if rest.contains ']' then (storedName? name).map fun name => (name, true)
    else (storedName? (name ++ '_' :: rest)).map fun name => (name, false)

/-- The name under which a field is looked up: dots become underscores. -/
def lookupName (name : String) : String :=
  String.ofList (name.toList.map fun c => if c = '.' then '_' else c)

/-! ## Items -/

/-- The bytes of one part of a pair. -/
def formDecode (bytes : List UInt8) : List UInt8 :=
  Text.percentDecode (Text.replaceEach (· == 0x2B) 0x20 bytes)

/-- The text of a value: UTF-8 where it is valid, otherwise the legacy encoding, otherwise what can be read of it. -/
def fieldText (legacy : Option Encoding) (bytes : List UInt8) : String :=
  match Text.decode? bytes, legacy with
  | some text, _ => text
  | none, some encoding => encoding.decode bytes
  | none, none => Text.decodeLossy bytes

/-- A named text of a form. -/
structure FormItem where
  /-- The stored name. -/
  name : String
  /-- Whether the text is an item of a list. -/
  isListItem : Bool
  /-- The text. -/
  text : String
deriving DecidableEq, Repr, Inhabited

/-- The item of a pair, unless the pair or its name is empty. -/
def formItem? (legacy : Option Encoding) (pair : List UInt8) : Option FormItem :=
  if pair.isEmpty then none
  else
    let (key, value) := (Text.cut? (· == 0x3D) pair).getD (pair, [])
    (fieldName? (Text.decodeLossy (formDecode key)).toList).map fun (name, isListItem) =>
      ⟨name, isListItem, fieldText legacy (formDecode value)⟩

/-- The items of a form in order. -/
def formItems (legacy : Option Encoding) (input : List UInt8) : List FormItem :=
  (Text.splitOn (· == 0x26) input).filterMap (formItem? legacy)

/-- The map with one more item. -/
def FieldMap.addItem (m : FieldMap) (item : FormItem) : FieldMap :=
  if item.isListItem then m.push item.name item.text else m.insert item.name (.scalar item.text)

/-- The fields of a form. -/
def parseForm (legacy : Option Encoding) (input : List UInt8) : FieldMap :=
  (formItems legacy input).foldl FieldMap.addItem .empty

end WikiGateway
