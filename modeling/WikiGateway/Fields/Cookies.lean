import WikiGateway.Fields.Form

/-!
# Cookie headers

A cookie header is a list of pairs `name=value` between semicolons. Names follow the rule for form fields, values are
decoded like form values, and the first cookie of a name wins.
-/

namespace WikiGateway

/-- The cookie of a pair, unless the pair or its name is empty. -/
def cookieItem? (pair : List Char) : Option (String × String) :=
  let pair := pair.dropWhile Text.isSpace
  if pair.isEmpty then none
  else
    let (key, value) := (Text.cut? (· == '=') pair).getD (pair, [])
    (fieldName? key).map fun (name, _) =>
      (name, Text.decodeLossy (formDecode (Text.encode (String.ofList value))))

/-- The cookies of a header. -/
def parseCookies (header : String) : FieldMap :=
  ((Text.splitOn (· == ';') header.toList).filterMap cookieItem?).foldl
    (fun m (name, value) => if m.contains name then m else m.insert name (.scalar value)) .empty

end WikiGateway
