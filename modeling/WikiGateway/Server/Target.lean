import WikiGateway.Text.Split

/-!
# Request targets

The target of a request on the wire is a path with an optional query, an absolute URL, a star, or an authority alone,
which has no path. A fragment is dropped.

* `Target.parse`: the path and query of a target.
-/

namespace WikiGateway

/-- The target of a request. -/
structure Target where
  /-- The path with the query. -/
  pathAndQuery : String
  /-- The query, if there is one. -/
  query : Option String
deriving DecidableEq, Repr, Inhabited

namespace Target

/-- The target of a path with an optional query and fragment; an empty one stands for the root. -/
def ofPath (cs : List Char) : Target :=
  let cs := cs.takeWhile (· != '#')
  ⟨if cs.isEmpty then "/" else String.ofList cs,
    (Text.cut? (· == '?') cs).map fun (_, query) => String.ofList query⟩

/-- Whether an authority ends at a character. -/
def endsAuthority (c : Char) : Bool := c == '/' || c == '?' || c == '#'

/-- The target of a text. -/
def parse (s : String) : Target :=
  match s.toList with
  | '/' :: _ => ofPath s.toList
  | ['*'] => ⟨"*", none⟩
  | cs =>
    match Text.cutText? "://".toList cs with
    | some (_, rest) => ofPath (rest.dropWhile fun c => !endsAuthority c)
    | none => ⟨"", none⟩

end Target

end WikiGateway
