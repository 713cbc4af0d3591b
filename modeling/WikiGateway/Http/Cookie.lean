import WikiGateway.Config.Settings
import WikiGateway.Fields.FormText

/-!
# Cookies that a site sets

* `CookieOptions.fieldValue`: the value of the header field that sets a cookie.
-/

namespace WikiGateway

/-- The attributes of a cookie. -/
structure CookieOptions where
  /-- What stands before the name. -/
  namePrefix : String := ""
  domain : String := ""
  path : String := ""
  secure : Bool := false
  httpOnly : Bool := false
  /-- Seconds until the cookie expires; without it, the cookie ends with the session. -/
  maxAge : Option Int := none
deriving DecidableEq, Repr, Inhabited

namespace CookieOptions

/-- The attributes of a site's cookies. -/
def ofSettings (c : CookieSettings) : CookieOptions :=
  ⟨c.namePrefix, c.domain, c.path, c.secure, c.httpOnly, none⟩

/-- The name of a cookie with what stands before it. -/
def fullName (options : CookieOptions) (name : String) : String := options.namePrefix ++ name

/-- The attributes of a cookie that expires at once. -/
def expired (options : CookieOptions) : CookieOptions := { options with maxAge := some 0 }

/-- The attributes as they follow the value; a negative age counts as none left. -/
def attributes (options : CookieOptions) : List String :=
  (options.maxAge.toList.map fun age => "Max-Age=" ++ (max age 0).toNat.repr) ++
    (if options.path = "" then [] else ["Path=" ++ options.path]) ++
    (if options.domain = "" then [] else ["Domain=" ++ options.domain]) ++
    (if options.secure then ["Secure"] else []) ++ (if options.httpOnly then ["HttpOnly"] else [])

/-- The value of the header field that sets a cookie. -/
def fieldValue (options : CookieOptions) (name value : String) : String :=
  String.intercalate "; " ((options.fullName name ++ "=" ++ formEncode value) :: options.attributes)

end CookieOptions

end WikiGateway
