import WikiGateway.Http.Cookie
import WikiGateway.Http.Message

/-!
# Responses

A handler writes status, header lines, cookies and body to a response. One kind goes over the wire and drops at once
what cannot be sent; the other records all and drops nothing before it is converted.

* `Response.header`, `setStatus`, `setCookie`, `clearCookie`, `write`: what a handler can do.
* `Response.status`, `header?`, `cookie?`, `body`: what was done.
* `Response.toMessage`: the message that is sent.
-/

namespace WikiGateway

/-- The field that sets cookies. -/
def setCookieField : String := "set-cookie"

/-! ## Responses that are sent -/

/-- A message in the making and the cookies set so far, by full name. -/
structure SentResponse where
  message : Message := {}
  cookies : List (String × String) := []
deriving DecidableEq, Repr, Inhabited

namespace SentResponse

/-- Sets the status, if the code is one. -/
def setStatus (r : SentResponse) (code : Nat) : SentResponse := { r with message := r.message.setStatus code }

/-- Adds a field or sets it, if its name and value can be sent. -/
def field (r : SentResponse) (name value : String) (replace : Bool) : SentResponse :=
  match fieldToken? name with
  | none => r
  | some name =>
    if !isFieldValue value then r
    else { r with message := if replace then r.message.setField name value else r.message.addField name value }

/-- Takes a header line, and then a status if one is given. -/
def header (r : SentResponse) (line : String) (replace : Bool) (status : Option Nat) : SentResponse :=
  let r := match parseHeaderLine? line with
    | some (.status code) => r.setStatus code
    | some (.field name value) => r.field name value replace
    | none => r
  match status with
  | some code => r.setStatus code
  | none => r

/-- The first value of a field by its name in any case, if it is printable. -/
def header? (r : SentResponse) (name : String) : Option String :=
  ((fieldToken? name).bind r.message.field?).filter isPlainValue

/-- Sets a cookie, if its field can be sent. -/
def setCookie (r : SentResponse) (name value : String) (options : CookieOptions) : SentResponse :=
  let text := options.fieldValue name value
  let fullName := options.fullName name
  if isFieldValue text then
    ⟨r.message.addField setCookieField text, r.cookies.filter (·.1 != fullName) ++ [(fullName, value)]⟩
  else r

/-- The value of a cookie by its full name. -/
def cookie? (r : SentResponse) (fullName : String) : Option String :=
  (r.cookies.find? (·.1 == fullName)).map Prod.snd

/-- Appends to the body. -/
def write (r : SentResponse) (chunk : List UInt8) : SentResponse :=
  { r with message := { r.message with body := r.message.body ++ chunk } }

end SentResponse

/-! ## Responses that are recorded -/

/-- A cookie as it was set. -/
structure RecordedCookie where
  fullName : String
  value : String
  options : CookieOptions
deriving DecidableEq, Repr, Inhabited

/-- The name of a cookie without what stands before it. -/
def RecordedCookie.name (c : RecordedCookie) : String :=
  match Text.dropPrefix? c.options.namePrefix.toList c.fullName.toList with
  | some rest => String.ofList rest
  | none => c.fullName

/-- What a handler did, as it did it. -/
structure RecordedResponse where
  code : Option Nat := none
  /-- Names in upper case and values, in order. -/
  fields : List (String × String) := []
  cookies : List RecordedCookie := []
  body : List UInt8 := []
deriving DecidableEq, Repr, Inhabited

namespace RecordedResponse

/-- The status. -/
def status (r : RecordedResponse) : Nat := r.code.getD 200

/-- Adds a field, in the place of all of its name if they are to be replaced. -/
def field (r : RecordedResponse) (name value : String) (replace : Bool) : RecordedResponse :=
  let key := Text.upperAscii name
  { r with fields := (if replace then r.fields.filter (·.1 != key) else r.fields) ++ [(key, value)] }

/-- Takes a header line, and then a status if one is given. -/
def header (r : RecordedResponse) (line : String) (replace : Bool) (status : Option Nat) : RecordedResponse :=
  let r := match parseHeaderLine? line with
    | some (.status code) => { r with code := some code }
    | some (.field name value) => r.field name value replace
    | none => r
  match status with
  | some code => { r with code := some code }
  | none => r

/-- The first value of a field by its name in any case. -/
def header? (r : RecordedResponse) (name : String) : Option String :=
  (r.fields.find? (·.1 == Text.upperAscii name)).map Prod.snd

/-- Sets a cookie. -/
def setCookie (r : RecordedResponse) (name value : String) (options : CookieOptions) : RecordedResponse :=
  let fullName := options.fullName name
  { r with cookies := r.cookies.filter (·.fullName != fullName) ++ [⟨fullName, value, options⟩] }

/-- A cookie by its full name. -/
def findCookie? (r : RecordedResponse) (fullName : String) : Option RecordedCookie :=
  r.cookies.find? (·.fullName == fullName)

/-- Appends to the body. -/
def write (r : RecordedResponse) (chunk : List UInt8) : RecordedResponse := { r with body := r.body ++ chunk }

/-- The same response for the wire: every field is read as a line once more, then the cookies are set. -/
def toSent (r : RecordedResponse) : SentResponse :=
  let sent := r.fields.foldl (fun (s : SentResponse) (name, value) => s.header (name ++ ": " ++ value) false none)
    (SentResponse.setStatus {} r.status)
  (r.cookies.foldl (fun (s : SentResponse) c => s.setCookie c.name c.value c.options) sent).write
    r.body

end RecordedResponse

/-! ## Both kinds -/

/-- A response of either kind. -/
inductive Response
  | sent (r : SentResponse)
  | recorded (r : RecordedResponse)
deriving DecidableEq, Repr, Inhabited

namespace Response

/-- Takes a header line, and then a status if one is given. -/
def header (line : String) (replace : Bool) (status : Option Nat) : Response → Response
  | sent r => sent (r.header line replace status)
  | recorded r => recorded (r.header line replace status)

/-- Sets the status. -/
def setStatus (code : Nat) : Response → Response
  | sent r => sent (r.setStatus code)
  | recorded r => recorded { r with code := some code }

/-- The status. -/
def status : Response → Nat
  | sent r => r.message.status
  | recorded r => r.status

/-- The first value of a field by its name in any case. -/
def header? (name : String) : Response → Option String
  | sent r => r.header? name
  | recorded r => r.header? name

/-- Sets a cookie. -/
def setCookie (name value : String) (options : CookieOptions) : Response → Response
  | sent r => sent (r.setCookie name value options)
  | recorded r => recorded (r.setCookie name value options)

/-- Makes a cookie expire. -/
def clearCookie (name : String) (options : CookieOptions) (r : Response) : Response :=
  r.setCookie name "" options.expired

/-- The value of a cookie that was set, by its full name. -/
def cookie? (fullName : String) : Response → Option String
  | sent r => r.cookie? fullName
  | recorded r => (r.findCookie? fullName).map RecordedCookie.value

/-- Appends to the body. -/
def write (chunk : List UInt8) : Response → Response
  | sent r => sent (r.write chunk)
  | recorded r => recorded (r.write chunk)

/-- The body. -/
def body : Response → List UInt8
  | sent r => r.message.body
  | recorded r => r.body

/-- The message that is sent. -/
def toMessage : Response → Message
  | sent r => r.message
  | recorded r => r.toSent.message

end Response

end WikiGateway
