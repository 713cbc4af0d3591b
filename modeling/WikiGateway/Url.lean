import WikiGateway.Host.Name

/-!
# URLs

Absolute URLs as web browsers read them: blanks around a URL and line breaks inside it are dropped, a backslash counts
as a slash where the scheme is one of the web's, dot segments are resolved, and characters that may not stand in a part
are percent-encoded.

* `Url.parse?`: the parts of a URL.
-/

namespace WikiGateway

/-- The parts of a URL. -/
structure Url where
  /-- The scheme in lower case. -/
  scheme : String
  /-- The host, if there is one that is not empty. -/
  host : Option Host
  /-- The port, if it is not the usual one of the scheme. -/
  port : Option Nat
  /-- The path. -/
  path : String
  /-- What follows the question mark, without the fragment. -/
  query : Option String
deriving DecidableEq, Repr, Inhabited

namespace Url

/-! ## Schemes -/

/-- Schemes by the rules for what follows them. -/
inductive SchemeKind
  /-- A scheme of the web, whose URLs have a host. -/
  | web
  /-- The scheme of files. -/
  | file
  /-- Any other scheme. -/
  | other
deriving DecidableEq, Repr, Inhabited

/-- The kind of a scheme. -/
def schemeKind (scheme : String) : SchemeKind :=
  if ["http", "https", "ws", "wss", "ftp"].contains scheme then .web
  else if scheme = "file" then .file
  else .other

/-- The usual port of a scheme. -/
def usualPort? (scheme : String) : Option Nat :=
  if scheme = "http" ∨ scheme = "ws" then some 80
  else if scheme = "https" ∨ scheme = "wss" then some 443
  else if scheme = "ftp" then some 21
  else none

/-- Whether a character may stand in a scheme behind the first. -/
def isSchemeChar (c : Char) : Bool := c.isAlphanum || c == '+' || c == '-' || c == '.'

/-- The scheme of a URL and what follows its colon. -/
def takeScheme? (cs : List Char) : Option (String × List Char) :=
  match cs, cs.dropWhile isSchemeChar with
  | first :: _, ':' :: rest =>
    if first.isAlpha then some (String.ofList ((cs.takeWhile isSchemeChar).map Char.toLower), rest) else none
  | _, _ => none

/-! ## Parts of a URL -/

/-- Whether a character ends a segment of a path. -/
def isSlash (kind : SchemeKind) (c : Char) : Bool := c == '/' || (c == '\\' && kind != .other)

/-- Whether a character ends the part with the host. -/
def endsAuthority (kind : SchemeKind) (c : Char) : Bool := isSlash kind c || c == '?' || c == '#'

/-- A byte that stands for itself in a fragment, and may do so in other parts. -/
def isPlainByte (b : UInt8) : Bool :=
  Host.isPrintableByte b && b != 0x20 && b != 0x22 && b != 0x3C && b != 0x3E

/-- A byte that stands for itself in a path. -/
def isPathByte (b : UInt8) : Bool :=
  isPlainByte b && b != 0x23 && b != 0x3F && b != 0x60 && b != 0x7B && b != 0x7D

/-- A byte that stands for itself in a query. -/
def isQueryByte (kind : SchemeKind) (b : UInt8) : Bool :=
  isPlainByte b && b != 0x23 && (b != 0x27 || kind == .other)

/-- Whether an encoded segment stands for one step up. -/
def isDoubleDot (segment : String) : Bool :=
  ["..", "%2e%2e", "%2e.", ".%2e"].contains (Text.lowerAscii segment)

/-- Whether an encoded segment stands for no step. -/
def isSingleDot (segment : String) : Bool := [".", "%2e"].contains (Text.lowerAscii segment)

/-- Whether a segment is the letter of a drive. -/
def isDrive (segment : String) : Bool :=
  match segment.toList with
  | [letter, mark] => letter.isAlpha && (mark == ':' || mark == '|')
  | _ => false

/-- The segments without the last, where the letter of a drive stays. -/
def dropLastSegment (kind : SchemeKind) : List String → List String
  | [] => []
  | [segment] => if kind = .file ∧ isDrive segment = true then [segment] else []
  | _ :: segments => segments

/-- Resolves the dots of a path; `done` holds the segments so far, the last one first. -/
def resolveDots (kind : SchemeKind) (done : List String) : List String → List String
  | [] => done.reverse
  | segment :: rest =>
    let atEnd := if rest.isEmpty then [""] else []
    if isDoubleDot segment then resolveDots kind (atEnd ++ dropLastSegment kind done) rest
    else if isSingleDot segment then resolveDots kind (atEnd ++ done) rest
    else if kind = .file ∧ done.isEmpty = true ∧ isDrive segment = true then
      resolveDots kind (String.ofList (segment.toList.take 1 ++ [':']) :: done) rest
    else resolveDots kind (segment :: done) rest

/-- The path of a text that follows the first slash. -/
def pathOf (kind : SchemeKind) (cs : List Char) : String :=
  let segments := (Text.splitOn (isSlash kind) cs).map fun segment =>
    Text.percentEncode isPathByte (String.ofList segment)
  let path := String.intercalate "/" (resolveDots kind [] segments)
  "/" ++ if kind = .file then String.ofList (path.toList.dropWhile (· == '/')) else path

/-- The path part and the query of a text. -/
def cutQuery (kind : SchemeKind) (cs : List Char) : List Char × Option String :=
  let cs := cs.takeWhile (· != '#')
  match Text.cut? (· == '?') cs with
  | none => (cs, none)
  | some (path, query) => (path, some (Text.percentEncode (isQueryByte kind) (String.ofList query)))

/-- What follows the credentials in front of a host, and whether there are any; `atEnd` says that nothing follows. -/
def afterCredentials (authority : List Char) (atEnd : Bool) : List Char × Bool :=
  if authority.contains '@' then
    let host := (authority.reverse.takeWhile (· != '@')).reverse
    let credentials := authority.take (authority.length - host.length - 1)
    (host, if credentials.isEmpty then host.isEmpty && !atEnd else credentials != [':'])
  else (authority, false)

/-- The host's text and the text after it. -/
def cutHost (inBrackets : Bool) : List Char → List Char × List Char
  | [] => ([], [])
  | c :: cs =>
    if c == ':' && !inBrackets then ([], c :: cs)
    else
      let (host, rest) := cutHost (c == '[' || (c != ']' && inBrackets)) cs
      (c :: host, rest)

/-- The port of the text after a host; the usual port of the scheme is none. -/
def portOf? (scheme : String) : List Char → Option (Option Nat)
  | [] => some none
  | _ :: digits =>
    let port := Text.digitsValue digits
    if digits.isEmpty then some none
    else if digits.all Char.isDigit && port < 65536 then
      some (if usualPort? scheme = some port then none else some port)
    else none

/-- A host, unless it is an empty name. -/
def nonEmptyHost : Host → Option Host
  | .domain name => if name.isEmpty then none else some (.domain name)
  | host => some host

/-- The URL of a text after two slashes. -/
def ofAuthority? (scheme : String) (cs : List Char) : Option Url :=
  let kind := schemeKind scheme
  let authority := cs.takeWhile (fun c => !endsAuthority kind c)
  let rest := cs.dropWhile (fun c => !endsAuthority kind c)
  let (path, query) := cutQuery kind rest
  let (hostAndPort, hasCredentials) := afterCredentials authority rest.isEmpty
  let (hostText, afterHost) := cutHost false hostAndPort
  let host? := if kind = .web then Host.parse? (String.ofList hostText)
    else Host.parseOpaque? (String.ofList hostText)
  match host?, portOf? scheme afterHost with
  | some host, some port =>
    let host := nonEmptyHost host
    if host.isNone && (kind == .web || hasCredentials || !afterHost.isEmpty) then none
    else
      let path := match path with
        | [] => if kind = .web then "/" else ""
        | _ :: rest => pathOf kind rest
      some ⟨scheme, host, port, path, query⟩
  | _, _ => none

/-- The URL of a file, from the text after the colon. -/
def ofFile? (cs : List Char) : Option Url :=
  match cs with
  | a :: b :: rest =>
    if isSlash .file a && isSlash .file b then
      let hostText := String.ofList (rest.takeWhile (fun c => !endsAuthority .file c))
      if hostText.isEmpty || isDrive hostText then withPath none rest
      else
        match Host.parse? hostText with
        | none => none
        | some host =>
          withPath (if host = .domain "localhost" then none else some host)
            (rest.dropWhile (fun c => !endsAuthority .file c))
    else withPath none cs
  | _ => withPath none cs
where
  /-- The URL with a path. -/
  withPath (host : Option Host) (cs : List Char) : Option Url :=
    let (path, query) := cutQuery .file cs
    some ⟨"file", host, none, pathOf .file path, query⟩

/-- The URL of any other scheme, from the text after the colon. -/
def ofOther? (scheme : String) (cs : List Char) : Option Url :=
  match cs with
  | '/' :: '/' :: rest => ofAuthority? scheme rest
  | _ =>
    let (path, query) := cutQuery .other cs
    let path := match path with
      | '/' :: rest => pathOf .other rest
      | _ => Text.percentEncode Host.isPrintableByte (String.ofList path)
    some ⟨scheme, none, none, path, query⟩

/-- Whether a character around a URL is dropped. -/
def isOuterBlank (c : Char) : Bool := c.toNat ≤ 0x20

/-- Whether a character inside a URL is dropped. -/
def isLineBreak (c : Char) : Bool := c == '\t' || c == '\n' || c == '\r'

/-- The parts of a URL. -/
def parse? (s : String) : Option Url :=
  let cs := (Text.trimBoth isOuterBlank s.toList).filter fun c => !isLineBreak c
  match takeScheme? cs with
  | none => none
  | some (scheme, rest) =>
    match schemeKind scheme with
    | .web => ofAuthority? scheme (rest.dropWhile (isSlash .web))
    | .file => ofFile? rest
    | .other => ofOther? scheme rest

end Url

end WikiGateway
