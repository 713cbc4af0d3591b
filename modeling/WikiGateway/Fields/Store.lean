import WikiGateway.Decimal.Numeral
import WikiGateway.Fields.Form

/-!
# The fields of a request

A `FieldStore` merges the fields of the body and of the query string, where the body wins, and later the fields that
routing finds in the path. It serves typed reads, which never fail: text that is no number reads as zero, and an absent
field as the caller's default. Beside the merged view it keeps the query, the query with the path's fields, and the
body.

* `FieldStore.ofMaps`: the merge.
* `get?`, `getList?`, `getInt`, `getBool` and others: reads of cleaned text.
* `set`, `unset`, `interpolate`: writes; the first two leave the query views alone.
* `limitOffset`: the page that a listing asks for.
-/

namespace WikiGateway

/-- The fields of one request. -/
structure FieldStore where
  /-- Every field, the body's before the query's. -/
  merged : FieldMap
  /-- The fields of the query string and of the path. -/
  queryAndPath : FieldMap
  /-- The fields of the query string. -/
  query : FieldMap
  /-- The fields of the body. -/
  body : FieldMap
deriving Inhabited

/-- The greatest number of entries on one page of a listing. -/
def maxLimit : Int := 5000

namespace FieldStore

/-- The fields of a query string and a body; the body wins. -/
def ofMaps (query body : FieldMap) : FieldStore := ⟨body.extendMissing query, query, query, body⟩

/-- The value of a field, where dots in the name count as underscores. -/
def lookup? (s : FieldStore) (name : String) : Option FieldValue := s.merged.get? (lookupName name)

/-! ## Reads -/

/-- The text of a field as it came, if it holds one text. -/
def getRaw? (s : FieldStore) (name : String) : Option String := (s.lookup? name).bind FieldValue.scalar?

/-- The cleaned text of a field, if it holds one text. -/
def get? (s : FieldStore) (name : String) : Option String := (s.getRaw? name).map Text.clean

/-- The cleaned texts of a field; one text is a list of one. -/
def getList? (s : FieldStore) (name : String) : Option (List String) :=
  (s.lookup? name).map fun
    | .scalar text => [Text.clean text]
    | .list items => Text.cleanAll items

/-- The integers that the texts of a field start with. -/
def getIntList? (s : FieldStore) (name : String) : Option (List Int) := (s.getList? name).map (·.map readInt)

/-- The integer that the text of a field starts with. -/
def getInt (s : FieldStore) (name : String) (default : Int) : Int := ((s.get? name).map readInt).getD default

/-- The integer of a field whose whole text is a number. -/
def getInt? (s : FieldStore) (name : String) : Option Int := ((s.get? name).filter isNumeric).map readInt

/-- The number that the text of a field starts with. -/
def getFloat (s : FieldStore) (name : String) (default : Binary64) : Binary64 :=
  ((s.get? name).map readFloat).getD default

/-- Whether a text counts as true: it is neither empty nor `0`. -/
def isTruthy (text : String) : Bool := !(text == "" || text == "0")

/-- Whether the text of a field counts as true. -/
def getBool (s : FieldStore) (name : String) (default : Bool) : Bool := ((s.get? name).map isTruthy).getD default

/-- The same, where the word `false` in any case does not count as true. -/
def getFuzzyBool (s : FieldStore) (name : String) (default : Bool) : Bool :=
  s.getBool name default && !((s.get? name).map (Text.eqIgnoreCase "false")).getD false

/-- Whether a field holds one text, for buttons and check boxes. -/
def hasText (s : FieldStore) (name : String) : Bool := (s.getRaw? name).isSome

/-- The text with each line end of two characters folded to one. -/
def foldLineEnds : List Char → List Char
  | '\r' :: '\n' :: rest => '\n' :: foldLineEnds rest
  | c :: rest => c :: foldLineEnds rest
  | [] => []

/-- The cleaned text of a field, or the default, with line ends folded. -/
def getText (s : FieldStore) (name : String) (default : String) : String :=
  String.ofList (foldLineEnds ((s.get? name).getD default).toList)

/-- The cleaned values of the named fields, or of all fields if no name is given, under the names as given. -/
def values (s : FieldStore) (names : List String) : FieldMap :=
  if names.isEmpty then .ofList (s.merged.toList.map fun (name, value) => (name, value.clean))
  else .ofList (names.filterMap fun name => (s.lookup? name).map fun value => (name, value.clean))

/-- The names of all fields but the excluded ones. -/
def names (s : FieldStore) (exclude : List String) : List String :=
  s.merged.keys.filter fun name => !exclude.contains name

/-- The number of entries and the first one that a listing asks for. -/
def limitOffset (s : FieldStore) (defaultLimit : Int) : Int × Int :=
  let asked := s.getInt "limit" 0
  let limit := if asked ≤ 0 then defaultLimit else asked
  (min limit maxLimit, max (s.getInt "offset" 0) 0)

/-! ## Writes -/

/-- Sets a field in the merged view. -/
def set (s : FieldStore) (name : String) (value : FieldValue) : FieldStore :=
  { s with merged := s.merged.insert (lookupName name) value }

/-- Removes a field from the merged view. -/
def unset (s : FieldStore) (name : String) : FieldStore :=
  { s with merged := s.merged.remove (lookupName name) }

/-- Records fields that routing found, in the merged view and beside the query. -/
def interpolate (s : FieldStore) (fields : List (String × String)) : FieldStore :=
  fields.foldl (fun s (name, text) =>
    { s with
      merged := s.merged.insert name (.scalar text)
      queryAndPath := s.queryAndPath.insert name (.scalar text) }) s

end FieldStore

end WikiGateway
