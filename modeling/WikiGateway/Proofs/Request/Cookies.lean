import WikiGateway.Http.Cookie
import WikiGateway.Proofs.Fields.FormText
import WikiGateway.Proofs.Fields.Map
import WikiGateway.Request.Basic

/-!
# Cookies come back

A client keeps of the field that sets a cookie what stands before the first semicolon, and sends this back with that of
the other cookies. Names that the rule for names reads as they are looked up (`IsCookieName`) then come back with their
values.

* `SetCookie.field_eq_append`, `SetCookie.echo_eq`: the value of a cookie is all in what the client keeps.
* `cookieItems_echoHeader`: the pairs of the client's header, one after the other.
* `toList_parseCookies`: pairs of different names are the cookies.
* `cookies_read_back`: every cookie has the value that was set.
-/

namespace WikiGateway

/-! ## Cookies and their echo -/

/-- A cookie that a site sets. -/
structure SetCookie where
  options : CookieOptions
  name : String
  value : String
deriving DecidableEq, Repr, Inhabited

namespace SetCookie

/-- The name with what stands before it. -/
def fullName (c : SetCookie) : String := c.options.fullName c.name

/-- The value of the header field that sets the cookie. -/
def field (c : SetCookie) : String := c.options.fieldValue c.name c.value

/-- What a client keeps of the field: the text before the first semicolon. -/
def echo (c : SetCookie) : String := String.ofList (c.field.toList.takeWhile (· != ';'))

/-- The header in which a client sends its cookies back. -/
def echoHeader (cookies : List SetCookie) : String := String.intercalate "; " (cookies.map echo)

end SetCookie

/-- A name under which a cookie can be kept: no part of it ends it or is taken for something else. -/
@[mk_iff] structure IsCookieName (name : String) : Prop where
  ne_empty : name ≠ ""
  no_semicolon : ';' ∉ name.toList
  no_equals : '=' ∉ name.toList
  no_bracket : '[' ∉ name.toList
  no_blank : ' ' ∉ name.toList
  no_space_front : name.toList.head?.any Text.isSpace = false

instance (name : String) : Decidable (IsCookieName name) := decidable_of_iff' _ (isCookieName_iff name)

/-! ## What is set -/

/-- The attributes as they stand behind the value. -/
def CookieOptions.attributesText (options : CookieOptions) : String :=
  String.join (options.attributes.map ("; " ++ ·))

theorem intercalate_cons_eq_append_join (separator text : String) : ∀ texts : List String,
    String.intercalate separator (text :: texts) = text ++ String.join (texts.map (separator ++ ·))
  | [] => by simp
  | next :: texts => by
    rw [String.intercalate_cons_cons, intercalate_cons_eq_append_join separator next texts, List.map_cons,
      String.join_cons]
    simp only [String.append_assoc]

/-- What is written of a value does not end it. -/
theorem ne_semicolon_of_mem_formEncode (s : String) : ∀ c ∈ (formEncode s).toList, c ≠ ';' :=
  forall_mem_formEncode (by decide +kernel) s

namespace SetCookie

variable {c : SetCookie}

theorem field_eq (c : SetCookie) :
    c.field = c.fullName ++ "=" ++ formEncode c.value ++ c.options.attributesText :=
  intercalate_cons_eq_append_join "; " _ _

/-- The attributes begin with a semicolon, if there are any. -/
theorem takeWhile_attributesText (options : CookieOptions) :
    options.attributesText.toList.takeWhile (· != ';') = [] := by
  unfold CookieOptions.attributesText
  cases options.attributes with
  | nil => rfl
  | cons part parts =>
    rw [List.map_cons, String.join_cons, String.append_assoc, String.toList_append]
    rfl

/-- The client keeps the name and the value. -/
theorem echo_eq (h : IsCookieName c.fullName) : c.echo = c.fullName ++ "=" ++ formEncode c.value := by
  have hkept : ∀ x ∈ (c.fullName ++ "=" ++ formEncode c.value).toList, (x != ';') = true := by
    intro x hx
    rw [String.toList_append, String.toList_append, List.mem_append, List.mem_append] at hx
    rw [bne_iff_ne]
    rcases hx with (hx | hx) | hx
    · exact ne_of_mem_of_not_mem hx h.no_semicolon
    · obtain rfl := List.mem_singleton.mp hx
      decide
    · exact ne_semicolon_of_mem_formEncode c.value x hx
  rw [echo, field_eq, String.toList_append, List.takeWhile_append_of_pos hkept, takeWhile_attributesText,
    List.append_nil, String.ofList_toList]

/-- The value is all in what the client keeps, and changes nothing of the attributes. -/
theorem field_eq_append (h : IsCookieName c.fullName) : c.field = c.echo ++ c.options.attributesText := by
  rw [field_eq, echo_eq h]

end SetCookie

/-! ## What comes back -/

theorem IsCookieName.toList_ne_nil {name : String} (h : IsCookieName name) : name.toList ≠ [] := fun hnil =>
  h.ne_empty (String.toList_eq_nil_iff.mp hnil)

/-- The rule for names keeps a name under the one by which it is looked up. -/
theorem IsCookieName.fieldName?_eq {name : String} (h : IsCookieName name) :
    fieldName? name.toList = some (lookupName name, false) := by
  have hblank := Text.dropWhile_append_of_not_mem h.toList_ne_nil h.no_blank []
  rw [List.append_nil] at hblank
  refine fieldName?_eq_some_iff.mpr ⟨name.toList, hblank.symm ▸ .plain h.no_bracket, h.toList_ne_nil, ?_⟩
  rw [lookupName]
  congr 1
  refine List.map_congr_left fun c hc => ?_
  simp [ne_of_mem_of_not_mem hc h.no_blank]

/-- A blank in front of a pair is dropped. -/
theorem cookieItem?_blank (pair : List Char) : cookieItem? (' ' :: pair) = cookieItem? pair := by
  have hblank : (' ' :: pair).dropWhile Text.isSpace = pair.dropWhile Text.isSpace :=
    List.dropWhile_cons_of_pos (by decide)
  rw [cookieItem?, hblank]
  rfl

/-- A cookie is read back from what the client keeps. -/
theorem cookieItem?_echo {c : SetCookie} (h : IsCookieName c.fullName) :
    cookieItem? c.echo.toList = some (lookupName c.fullName, c.value) := by
  have hpair : c.echo.toList = c.fullName.toList ++ '=' :: (formEncode c.value).toList := by
    rw [SetCookie.echo_eq h, String.toList_append, String.toList_append, List.append_assoc]
    rfl
  have hname : ∀ x ∈ c.fullName.toList, (x == '=') = false := by
    intro x hx
    simpa using ne_of_mem_of_not_mem hx h.no_equals
  have hfront := Text.dropWhile_append_of_front h.toList_ne_nil h.no_space_front ('=' :: (formEncode c.value).toList)
  rw [hpair, cookieItem?, hfront, if_neg (by simp), Text.cut?_append_cons _ rfl _ hname, Option.getD_some]
  simp only [h.fieldName?_eq, Option.map_some, String.ofList_toList, formDecode_encode_formEncode,
    Text.decodeLossy_encode]

/-- The names and values of the pairs of a header. -/
def cookieItems (header : List Char) : List (String × String) :=
  (Text.splitOn (· == ';') header).filterMap cookieItem?

/-- The pairs before and behind a semicolon. -/
theorem cookieItems_append (before after : List Char) :
    cookieItems (before ++ ';' :: after) = cookieItems before ++ cookieItems after := by
  simp only [cookieItems, Text.splitOn_eq]
  rw [List.splitOn_append_cons_self, List.filterMap_append]

/-- A blank in front of a header is dropped. -/
theorem cookieItems_blank (header : List Char) : cookieItems (' ' :: header) = cookieItems header := by
  have hsplit := List.cons_head_tail (Text.splitOn_ne_nil (· == ';') header)
  rw [cookieItems, Text.splitOn_cons_other _ rfl, List.filterMap_cons, cookieItem?_blank, ← List.filterMap_cons, hsplit]
  rfl

/-- What the client keeps of a cookie is one pair. -/
theorem cookieItems_echo {c : SetCookie} (h : IsCookieName c.fullName) :
    cookieItems c.echo.toList = [(lookupName c.fullName, c.value)] := by
  have hone : ';' ∉ c.echo.toList := by
    rw [SetCookie.echo, String.toList_ofList]
    intro hmem
    simpa using List.mem_takeWhile_imp hmem
  rw [cookieItems, Text.splitOn_eq, List.splitOn_eq_singleton hone, List.filterMap_cons, cookieItem?_echo h]
  rfl

/-- The pairs of the client's header are the cookies. -/
theorem cookieItems_echoHeader : ∀ {cookies : List SetCookie}, (∀ c ∈ cookies, IsCookieName c.fullName) →
    cookieItems (SetCookie.echoHeader cookies).toList = cookies.map fun c => (lookupName c.fullName, c.value)
  | [], _ => rfl
  | [c], h => by
    have hone : SetCookie.echoHeader [c] = c.echo := String.intercalate_singleton
    rw [hone, cookieItems_echo (h c List.mem_cons_self)]
    rfl
  | c :: next :: cookies, h => by
    have hheader : (SetCookie.echoHeader (c :: next :: cookies)).toList =
        c.echo.toList ++ ';' :: ' ' :: (SetCookie.echoHeader (next :: cookies)).toList := by
      have hcons : SetCookie.echoHeader (c :: next :: cookies) =
          c.echo ++ "; " ++ SetCookie.echoHeader (next :: cookies) := String.intercalate_cons_cons
      rw [hcons, String.toList_append, String.toList_append, List.append_assoc]
      rfl
    rw [hheader, cookieItems_append, cookieItems_blank, cookieItems_echo (h c List.mem_cons_self),
      cookieItems_echoHeader fun other hother => h other (List.mem_cons_of_mem _ hother)]
    rfl

/-- Pairs of different names are the cookies of a header. -/
theorem toList_parseCookies {header : String} (h : ((cookieItems header.toList).map Prod.fst).Nodup) :
    (parseCookies header).toList = (cookieItems header.toList).map fun item => (item.1, .scalar item.2) := by
  have hfold := FieldMap.toList_foldl_insertMissing
    ((cookieItems header.toList).map fun item => (item.1, FieldValue.scalar item.2)) .empty (by rwa [List.map_map])
  rw [List.foldl_map] at hfold
  simp only [parseCookies, FieldMap.ite_insert_eq_insertMissing]
  exact hfold.trans (by simp)

/-- **Cookies are read back.** A client sends back the cookies that were set, under names that differ as they are looked
up. Then these are the cookies of its request, with the values that were set, whatever these are: a value is all in what
the client keeps, and leaves the attributes and the other cookies as they are. -/
theorem cookies_read_back (cookies : List SetCookie) (hnames : ∀ c ∈ cookies, IsCookieName c.fullName)
    (hdistinct : (cookies.map fun c => lookupName c.fullName).Nodup) (site : Site) (t : Transport)
    (hheader : t.header? "Cookie" = some (SetCookie.echoHeader cookies)) (response : Response) (freshId : String) :
    let r := Request.receive site t response freshId
    (∀ c ∈ cookies, r.cookie? c.name (some c.options.namePrefix) = some c.value) ∧
    r.cookies.toList = (cookies.map fun c => (lookupName c.fullName, .scalar c.value)) ∧
    ∀ c ∈ cookies, c.field = c.echo ++ c.options.attributesText := by
  intro r
  have hitems := cookieItems_echoHeader hnames
  have hcookies : r.cookies = parseCookies (SetCookie.echoHeader cookies) := by
    simp only [r, Request.receive, hheader]
  have hlist : r.cookies.toList = cookies.map fun c => (lookupName c.fullName, .scalar c.value) := by
    rw [hcookies, toList_parseCookies, hitems, List.map_map]
    · rfl
    · rw [hitems, List.map_map]
      exact hdistinct
  refine ⟨fun c hc => ?_, hlist, fun c hc => SetCookie.field_eq_append (hnames c hc)⟩
  have hget : r.cookies.get? (lookupName c.fullName) = some (.scalar c.value) := by
    rw [FieldMap.get?_eq_some_iff, hlist]
    exact List.mem_map_of_mem (f := fun c : SetCookie => (lookupName c.fullName, FieldValue.scalar c.value)) hc
  show (r.cookies.get? (lookupName c.fullName)).bind FieldValue.scalar? = some c.value
  rw [hget]
  rfl

/-- Two cookies, one with a dot in its name and separators in its value. -/
theorem cookies_read_back_separators :
    let r := Request.receive ⟨default, default, default, default, none⟩
      { headers := [("cookie", "wiki_a.b=x%3B+y%3D%2B%25; wiki_token=%C3%A9")] } default "0"
    r.cookie? "a.b" (some "wiki_") = some "x; y=+%" ∧ r.cookie? "token" (some "wiki_") = some "é" := by
  have h := cookies_read_back
    [⟨{ namePrefix := "wiki_", path := "/" }, "a.b", "x; y=+%"⟩,
      ⟨{ namePrefix := "wiki_", path := "/" }, "token", "é"⟩]
    (by decide +kernel) (by decide +kernel) ⟨default, default, default, default, none⟩
    { headers := [("cookie", "wiki_a.b=x%3B+y%3D%2B%25; wiki_token=%C3%A9")] } (by decide +kernel) default "0"
  simp only [List.forall_mem_cons] at h
  exact ⟨h.1.1, h.1.2.1⟩

end WikiGateway
