import WikiGateway.Http.Transport
import WikiGateway.Text.Percent
import WikiGateway.Text.Split

/-!
# URLs of requests

The URL of a request is a path with an optional query, whatever form the web server hands over.

* `normalizeUrl?`: a URL without fragment, host and repeated slashes in front.
* `requestUrl?`: the URL of a request, from the first of its sources that is set.
* `scriptPath`: the path of a URL without the script's own part.
* `pathBelow?`: the part of a URL's path below another path.
-/

namespace WikiGateway

/-- The path of a URL that starts at a slash, with one slash in front. -/
def collapseSlashes (cs : List Char) : List Char := '/' :: cs.dropWhile (· == '/')

/-- The URL without its fragment, its host and repeated slashes in front; nothing for an empty one. -/
def normalizeUrl? (cs : List Char) : Option (List Char) :=
  let cs := cs.takeWhile (· != '#')
  match cs with
  | [] => none
  | '/' :: _ => some (collapseSlashes cs)
  | _ =>
    match Text.cutText? [':', '/', '/'] cs with
    | some (scheme, rest) =>
      if scheme.isEmpty || scheme.contains '/' || !rest.contains '/' then some cs
      else some (collapseSlashes (rest.dropWhile (· != '/')))
    | none => some cs

/-- A text that is set and not empty. -/
def nonEmpty (s : Option String) : Option String := s.filter (· != "")

/-- The source of a request's URL: the target as sent, the header of a server that changes targets, or the name of the
script with the query. -/
def urlSource? (t : Transport) : Option String :=
  nonEmpty t.requestUri <|> nonEmpty (t.header? "X-Original-URL") <|>
    (nonEmpty t.scriptName).map fun script =>
      match nonEmpty t.queryString with
      | some query => script ++ "?" ++ query
      | none => script

/-- The URL of a request. -/
def requestUrl? (t : Transport) : Option String :=
  (urlSource? t).bind fun source => (normalizeUrl? source.toList).map String.ofList

/-- The path of a URL. -/
def urlPath (url : String) : List Char := url.toList.takeWhile (· != '?')

/-- What follows a text in front of a path, if it starts with a slash. -/
def stripFront? (path : List Char) (front : String) : Option (List Char) :=
  (Text.dropPrefix? front.toList path).filter fun rest => rest.head? == some '/'

/-- The path of a URL without the name of the script or the configured script in front, if a slash follows it. -/
def scriptPath (url : String) (scriptName script : Option String) : String :=
  let path := urlPath url
  let name := nonEmpty scriptName
  let configured := (nonEmpty script).filter fun s => name != some s
  String.ofList ((name.bind (stripFront? path) <|> configured.bind (stripFront? path)).getD path)

/-- The decoded part of a URL's path below another path. -/
def pathBelow? (url base : String) : Option String :=
  (Text.dropPrefix? (Text.trimEnd (· == '/') base.toList ++ ['/']) (urlPath url)).map fun rest =>
    Text.percentDecodeText (String.ofList rest)

end WikiGateway
