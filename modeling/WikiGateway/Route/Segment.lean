import WikiGateway.Route.Error

/-!
# Segments of templates

A template such as `/wiki/$1` is a list of segments: texts that stand for themselves and placeholders, which are a
dollar sign and a name.

* `parseSegments`: the segments of a template. The leftmost dollar sign without a name, or right behind a placeholder,
  decides the error.
* `Segment.text`, `segmentsText`: the way back.
-/

namespace WikiGateway

/-- A piece of a template. -/
inductive Segment
  /-- A text that stands for itself. -/
  | literal (text : String)
  /-- A placeholder by its name. -/
  | placeholder (name : String)
deriving DecidableEq, Repr, Inhabited

namespace Segment

/-- The name of a placeholder. -/
def name? : Segment → Option String
  | literal _ => none
  | placeholder name => some name

/-- The piece as it is written in a template. -/
def text : Segment → String
  | literal text => text
  | placeholder name => "$" ++ name

end Segment

/-- The template of a list of segments. -/
def segmentsText (segments : List Segment) : String := String.join (segments.map Segment.text)

/-- The names of the placeholders of a template, in order. -/
def placeholderNames (segments : List Segment) : List String := segments.filterMap Segment.name?

/-- Whether a character may stand in the name of a placeholder: an ASCII letter or digit, or an underscore. -/
def isPlaceholderChar (c : Char) : Bool := c.isAlphanum || c == '_'

/-- The segments of the text from some offset of a template on, where `isBehind` says that a placeholder ends there. -/
def segmentsFrom (template : String) (offset : Nat) (isBehind : Bool) :
    List Char → Except RouteError (List Segment)
  | [] => .ok []
  | '$' :: rest =>
    let name := rest.takeWhile isPlaceholderChar
    if name.isEmpty then .error (.danglingPlaceholder template offset)
    else if isBehind then .error (.adjacentPlaceholders template)
    else
      (segmentsFrom template (offset + 1 + name.length) true (rest.dropWhile isPlaceholderChar)).map
        (.placeholder (String.ofList name) :: ·)
  | c :: rest =>
    let text := String.ofList (c :: rest.takeWhile (· != '$'))
    (segmentsFrom template (offset + text.utf8ByteSize) false (rest.dropWhile (· != '$'))).map
      (.literal text :: ·)
termination_by cs => cs.length
decreasing_by
  · have := (List.dropWhile_suffix (l := rest) isPlaceholderChar).length_le
    simp only [List.length_cons]
    omega
  · have := (List.dropWhile_suffix (l := rest) (fun c : Char => c != '$')).length_le
    simp only [List.length_cons]
    omega

/-- The segments of a template. -/
def parseSegments (template : String) : Except RouteError (List Segment) :=
  segmentsFrom template 0 false template.toList

end WikiGateway
