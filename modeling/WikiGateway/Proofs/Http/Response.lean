import WikiGateway.Http.Response
import WikiGateway.Proofs.Http.Cookie
import WikiGateway.Proofs.Http.HeaderLine

/-!
# A recorded response stands for one that is sent

The same calls on a response that is sent and on one that is recorded (`ResponseCall`) keep them in step: the fields
other than those that set cookies are the same up to the case of their names, and there is such a field for every
cookie (`Simulates`). What is recorded is read once more when it is converted, and then gives these fields again.

* `ResponseCall.Ordinary`: the calls of which this is said.
* `Simulates.setStatus`, `Simulates.field`, `Simulates.setCookie`, `Simulates.write`, `simulates_apply`: what each call
  keeps, and `simulates_run`: what a run keeps.
* `message_toSent`: what a recorded response is converted to.
* `recorded_agrees_with_sent`: the two show and send the same.
* `recorded_differs_at_long_name`: they do not where a name is too long to be sent.
-/

namespace WikiGateway

/-! ## Calls -/

/-- A call on a response. -/
inductive ResponseCall
  | header (line : String) (replace : Bool) (status : Option Nat)
  | setStatus (code : Nat)
  | setCookie (name value : String) (options : CookieOptions)
  | clearCookie (name : String) (options : CookieOptions)
  | write (chunk : List UInt8)

/-- What is read of an ordinary line: a status of three digits, or a field that sets no cookie and whose value is
printable ASCII or tabs. -/
def HeaderLine.Ordinary : HeaderLine → Prop
  | status code => 100 ≤ code ∧ code ≤ 999
  | field name value => IsToken name ∧ Text.lowerAscii name ≠ setCookieField ∧
      ∀ c ∈ value.toList, c = '\t' ∨ 0x20 ≤ c.toNat ∧ c.toNat ≤ 0x7E

/-- The name of a field is not too long to be sent. -/
def HeaderLine.Short : HeaderLine → Prop
  | status _ => True
  | field name _ => name.length ≤ maxFieldName

instance : DecidablePred HeaderLine.Ordinary
  | .status _ => inferInstanceAs (Decidable (_ ∧ _))
  | .field _ value =>
    have := List.decidableBAll (fun c : Char => c = '\t' ∨ 0x20 ≤ c.toNat ∧ c.toNat ≤ 0x7E) value.toList
    inferInstanceAs (Decidable (_ ∧ _ ∧ _))

instance : DecidablePred HeaderLine.Short
  | .status _ => inferInstanceAs (Decidable True)
  | .field _ _ => inferInstanceAs (Decidable (_ ≤ _))

/-- A cookie whose name and attributes are without control characters. -/
def OrdinaryCookie (name : String) (options : CookieOptions) : Prop :=
  NoControls options.namePrefix ∧ NoControls name ∧ NoControls options.path ∧ NoControls options.domain

instance (name : String) (options : CookieOptions) : Decidable (OrdinaryCookie name options) :=
  inferInstanceAs (Decidable (_ ∧ _ ∧ _ ∧ _))

namespace ResponseCall

/-- The response after a call. -/
def apply : ResponseCall → Response → Response
  | header line replace status => Response.header line replace status
  | setStatus code => Response.setStatus code
  | setCookie name value options => Response.setCookie name value options
  | clearCookie name options => Response.clearCookie name options
  | write chunk => Response.write chunk

/-- The full name of the cookie that a call writes. -/
def cookieName? : ResponseCall → Option String
  | setCookie name _ options => some (options.namePrefix ++ name)
  | clearCookie name options => some (options.namePrefix ++ name)
  | _ => none

/-- A call whose line is not read or is ordinary, and whose cookie and status, if any, are ordinary. -/
def Ordinary : ResponseCall → Prop
  | header line _ status =>
      (∀ read ∈ parseHeaderLine? line, read.Ordinary) ∧ ∀ code ∈ status, 100 ≤ code ∧ code ≤ 999
  | setStatus code => 100 ≤ code ∧ code ≤ 999
  | setCookie name _ options => OrdinaryCookie name options
  | clearCookie name options => OrdinaryCookie name options
  | write _ => True

/-- A call with no name of a field that is too long to be sent. -/
def Short : ResponseCall → Prop
  | header line _ _ => ∀ read ∈ parseHeaderLine? line, read.Short
  | _ => True

instance : DecidablePred Ordinary
  | header line _ status => inferInstanceAs (Decidable ((∀ read ∈ parseHeaderLine? line, _) ∧ ∀ code ∈ status, _))
  | setStatus _ => inferInstanceAs (Decidable (_ ∧ _))
  | setCookie _ _ _ | clearCookie _ _ => inferInstanceAs (Decidable (OrdinaryCookie _ _))
  | write _ => inferInstanceAs (Decidable True)

instance : DecidablePred Short
  | header line _ _ => inferInstanceAs (Decidable (∀ read ∈ parseHeaderLine? line, _))
  | setStatus _ | setCookie _ _ _ | clearCookie _ _ | write _ => inferInstanceAs (Decidable True)

end ResponseCall

/-- The response after calls. -/
def Response.run (r : Response) (calls : List ResponseCall) : Response := calls.foldl (fun r call => call.apply r) r

theorem Response.run_concat (r : Response) (calls : List ResponseCall) (call : ResponseCall) :
    r.run (calls ++ [call]) = call.apply (r.run calls) := by
  rw [run, List.foldl_append]
  rfl

/-- Two responses that show and send the same. -/
structure Response.Agrees (a b : Response) : Prop where
  status : a.status = b.status
  body : a.body = b.body
  cookie : ∀ fullName, a.cookie? fullName = b.cookie? fullName
  header : ∀ name, Text.lowerAscii name ≠ setCookieField → a.header? name = b.header? name
  sentStatus : a.toMessage.status = b.toMessage.status
  sentBody : a.toMessage.body = b.toMessage.body
  sentValues : ∀ name, a.toMessage.valuesOf name = b.toMessage.valuesOf name

/-! ## What is recorded -/

/-- A field as it is recorded of an ordinary line. -/
structure RecordedField (entry : String × String) : Prop where
  upper : Text.upperAscii entry.1 = entry.1
  token : fieldToken? entry.1 = some (Text.lowerAscii entry.1)
  other : Text.lowerAscii entry.1 ≠ setCookieField
  plain : isPlainValue entry.2 = true
  trimmed : Text.trimBoth Text.isSpace entry.2.toList = entry.2.toList

theorem fieldToken?_upperAscii (name : String) : fieldToken? (Text.upperAscii name) = fieldToken? name := by
  ext token
  rw [fieldToken?_eq_some_iff, fieldToken?_eq_some_iff, isToken_upperAscii, length_upperAscii,
    Text.lowerAscii_upperAscii]

/-- What can be read of an ordinary line can be sent. -/
theorem isFieldValue_of_isPlainValue {value : String} (h : isPlainValue value = true) : isFieldValue value = true := by
  rw [isPlainValue, List.all_eq_true] at h
  rw [isFieldValue, List.all_eq_true]
  intro c hc
  have hplain := h c hc
  simp only [Bool.or_eq_true, beq_iff_eq, Bool.and_eq_true, decide_eq_true_eq, bne_iff_ne] at hplain ⊢
  exact hplain.imp_right fun hascii => ⟨hascii.1, Nat.ne_of_lt hascii.2⟩

namespace RecordedField

variable {entry : String × String}

/-- The field of an ordinary line, as it is recorded. -/
theorem of_line {line name value : String} (hread : parseHeaderLine? line = some (.field name value))
    (hordinary : (HeaderLine.field name value).Ordinary) (hshort : (HeaderLine.field name value).Short) :
    RecordedField (Text.upperAscii name, value) := by
  obtain ⟨htoken, hother, hvalue⟩ := hordinary
  refine ⟨Text.upperAscii_upperAscii name, ?_, ?_, ?_, trimmed_of_parseHeaderLine? hread⟩
  · rw [fieldToken?_upperAscii, Text.lowerAscii_upperAscii, fieldToken?_eq_some_iff]
    exact ⟨⟨htoken, hshort⟩, rfl⟩
  · rw [Text.lowerAscii_upperAscii]
    exact hother
  · refine List.all_eq_true.mpr fun c hc => ?_
    simp only [Bool.or_eq_true, beq_iff_eq, Bool.and_eq_true, decide_eq_true_eq]
    exact (hvalue c hc).imp_right fun hascii => ⟨hascii.1, Nat.lt_succ_of_le hascii.2⟩

/-- Its line is read as the field again, and so it is added to what is sent. -/
theorem header_line (h : RecordedField entry) (s : SentResponse) :
    s.header (entry.1 ++ ": " ++ entry.2) false none =
      { s with message := s.message.addField (Text.lowerAscii entry.1) entry.2 } := by
  have htoken := (fieldToken?_eq_some_iff.mp h.token).1.1
  rw [SentResponse.header, parseHeaderLine?_field htoken h.trimmed]
  simp [SentResponse.field, h.token, isFieldValue_of_isPlainValue h.plain]

end RecordedField

/-! ## Fields by name -/

namespace Message

variable {m : Message} {name other value : String}

theorem fields_setStatus (m : Message) (code : Nat) : (m.setStatus code).fields = m.fields := by
  unfold setStatus
  split <;> rfl

theorem valuesOf_addField_self : (m.addField name value).valuesOf name = m.valuesOf name ++ [value] := by
  simp [valuesOf, addField]

theorem valuesOf_addField_of_ne (h : other ≠ name) : (m.addField name value).valuesOf other = m.valuesOf other := by
  simp [valuesOf, addField, h.symm]

theorem valuesOf_setField_of_ne (h : other ≠ name) : (m.setField name value).valuesOf other = m.valuesOf other := by
  have hkept : ∀ entry : String × String, (entry.1 == other && entry.1 != name) = (entry.1 == other) := by
    intro entry
    by_cases heq : entry.1 = other
    · simp [heq, h]
    · simp [heq]
  simp [valuesOf, setField, h.symm, List.filter_filter, hkept]

end Message

/-! ## Both in step -/

/-- The fields that are recorded, as they are sent. -/
def sentFields (fields : List (String × String)) : List (String × String) :=
  fields.map fun entry => (Text.lowerAscii entry.1, entry.2)

/-- The fields that set the cookies that are recorded. -/
def cookieTexts (cookies : List RecordedCookie) : List String :=
  cookies.map fun c => c.options.fieldValue c.name c.value

/-- A response that is sent and one that is recorded, after the same calls. -/
structure Simulates (s : SentResponse) (r : RecordedResponse) : Prop where
  status : s.message.status = r.status
  code : isStatusCode r.status = true
  body : s.message.body = r.body
  cookies : s.cookies = r.cookies.map fun c => (c.fullName, c.value)
  cookieFields : s.message.valuesOf setCookieField = cookieTexts r.cookies
  sendable : ∀ text ∈ cookieTexts r.cookies, isFieldValue text = true
  fields : s.message.fields.filter (·.1 ≠ setCookieField) = sentFields r.fields
  recorded : ∀ entry ∈ r.fields, RecordedField entry

/-- Fields of one name are told from the others in either case of their letters. -/
theorem filter_sentFields {fields : List (String × String)} (h : ∀ entry ∈ fields, RecordedField entry)
    (name : String) (is : Bool → Bool) :
    (sentFields fields).filter (fun entry => is (entry.1 == Text.lowerAscii name)) =
      sentFields (fields.filter fun entry => is (entry.1 == Text.upperAscii name)) := by
  rw [sentFields, sentFields, List.filter_map]
  congr 1
  refine List.filter_congr fun entry hentry => congrArg is ?_
  rw [Bool.eq_iff_iff, beq_iff_eq, beq_iff_eq, ← (h entry hentry).upper, Text.upperAscii_eq_iff]

namespace Simulates

variable {s : SentResponse} {r : RecordedResponse}

theorem empty : Simulates {} {} := by
  refine ⟨rfl, rfl, rfl, rfl, rfl, ?_, rfl, ?_⟩
  · intro text h
    cases h
  · intro entry h
    cases h

theorem setStatus (h : Simulates s r) {code : Nat} (hcode : 100 ≤ code ∧ code ≤ 999) :
    Simulates (s.setStatus code) { r with code := some code } := by
  have hvalid : isStatusCode code = true := by simp [isStatusCode, hcode.1, hcode.2]
  have hmessage : s.setStatus code = { s with message := { s.message with status := code } } := by
    rw [SentResponse.setStatus, Message.setStatus, if_pos hvalid]
  rw [hmessage]
  exact { h with status := rfl, code := hvalid }

theorem write (h : Simulates s r) (chunk : List UInt8) : Simulates (s.write chunk) (r.write chunk) :=
  { h with body := congrArg (· ++ chunk) h.body }

/-- A field behind the others. -/
theorem addField (h : Simulates s r) {name value : String} (hfield : RecordedField (Text.upperAscii name, value)) :
    Simulates { s with message := s.message.addField (Text.lowerAscii name) value }
      { r with fields := r.fields ++ [(Text.upperAscii name, value)] } := by
  have hother : Text.lowerAscii name ≠ setCookieField := Text.lowerAscii_upperAscii name ▸ hfield.other
  refine { h with cookieFields := ?_, fields := ?_, recorded := ?_ }
  · exact (Message.valuesOf_addField_of_ne hother.symm).trans h.cookieFields
  · show (s.message.fields ++ [(Text.lowerAscii name, value)]).filter _ =
      sentFields (r.fields ++ [(Text.upperAscii name, value)])
    rw [List.filter_append, h.fields, sentFields, sentFields, List.map_append, List.map_singleton,
      Text.lowerAscii_upperAscii, List.filter_cons_of_pos (by simpa using hother), List.filter_nil]
  · exact List.forall_mem_append.mpr ⟨h.recorded, List.forall_mem_singleton.mpr hfield⟩

/-- A field in the place of all of its name. -/
theorem setField (h : Simulates s r) {name value : String} (hfield : RecordedField (Text.upperAscii name, value)) :
    Simulates { s with message := s.message.setField (Text.lowerAscii name) value }
      { r with fields := r.fields.filter (·.1 != Text.upperAscii name) ++ [(Text.upperAscii name, value)] } := by
  have hother : Text.lowerAscii name ≠ setCookieField := Text.lowerAscii_upperAscii name ▸ hfield.other
  refine { h with cookieFields := ?_, fields := ?_, recorded := ?_ }
  · exact (Message.valuesOf_setField_of_ne hother.symm).trans h.cookieFields
  · show (s.message.fields.filter (·.1 != Text.lowerAscii name) ++ [(Text.lowerAscii name, value)]).filter _ =
      sentFields (r.fields.filter (·.1 != Text.upperAscii name) ++ [(Text.upperAscii name, value)])
    have hothers := filter_sentFields h.recorded name (!·)
    rw [List.filter_append, List.filter_comm, h.fields, List.filter_cons_of_pos (by simpa using hother),
      List.filter_nil]
    simp only [bne, hothers]
    rw [sentFields, sentFields, List.map_append, List.map_singleton, Text.lowerAscii_upperAscii]
  · refine List.forall_mem_append.mpr ⟨fun entry hentry => ?_, List.forall_mem_singleton.mpr hfield⟩
    exact h.recorded entry (List.mem_filter.mp hentry).1

/-- The field of an ordinary line. -/
theorem field (h : Simulates s r) {line name value : String}
    (hread : parseHeaderLine? line = some (.field name value)) (hordinary : (HeaderLine.field name value).Ordinary)
    (hshort : (HeaderLine.field name value).Short) (replace : Bool) :
    Simulates (s.field name value replace) (r.field name value replace) := by
  have hfield := RecordedField.of_line hread hordinary hshort
  have htoken : fieldToken? name = some (Text.lowerAscii name) := by
    rw [← fieldToken?_upperAscii, hfield.token, Text.lowerAscii_upperAscii]
  have hsendable : (!isFieldValue value) = false := by
    rw [isFieldValue_of_isPlainValue hfield.plain]
    rfl
  rw [SentResponse.field, htoken, RecordedResponse.field]
  dsimp only
  rw [hsendable]
  cases replace with
  | false => exact h.addField hfield
  | true => exact h.setField hfield

/-- A line and then a status. -/
theorem header (h : Simulates s r) {line : String} (hordinary : ∀ read ∈ parseHeaderLine? line, read.Ordinary)
    (hshort : ∀ read ∈ parseHeaderLine? line, read.Short) (replace : Bool) {status : Option Nat}
    (hstatus : ∀ code ∈ status, 100 ≤ code ∧ code ≤ 999) :
    Simulates (s.header line replace status) (r.header line replace status) := by
  have hline : Simulates (s.header line replace none) (r.header line replace none) := by
    rw [SentResponse.header, RecordedResponse.header]
    cases hread : parseHeaderLine? line with
    | none => exact h
    | some read =>
      cases read with
      | status code => exact h.setStatus (hordinary _ hread)
      | field name value => exact h.field hread (hordinary _ hread) (hshort _ hread) replace
  cases status with
  | none => exact hline
  | some code => exact hline.setStatus (hstatus code rfl)

/-- The name of a cookie is found behind what stands before it. -/
theorem name_recordedCookie (name value : String) (options : CookieOptions) :
    RecordedCookie.name ⟨options.fullName name, value, options⟩ = name := by
  have hfront : options.namePrefix.toList.isPrefixOf (options.fullName name).toList = true := by
    rw [List.isPrefixOf_iff_prefix, CookieOptions.fullName, String.toList_append]
    exact List.prefix_append _ _
  have hrest : (options.fullName name).toList.drop options.namePrefix.toList.length = name.toList := by
    rw [CookieOptions.fullName, String.toList_append, List.drop_left]
  simp only [RecordedCookie.name, Text.dropPrefix?, if_pos hfront, hrest, String.ofList_toList]

/-- A cookie that is new goes behind the others. -/
theorem setCookie_of_new {name : String} {options : CookieOptions}
    (hnew : ∀ c ∈ r.cookies, c.fullName ≠ options.fullName name) (value : String) : r.setCookie name value options =
      { r with cookies := r.cookies ++ [⟨options.fullName name, value, options⟩] } := by
  have hkept : r.cookies.filter (·.fullName != options.fullName name) = r.cookies :=
    List.filter_eq_self.mpr fun c hc => bne_iff_ne.mpr (hnew c hc)
  simp only [RecordedResponse.setCookie, hkept]

theorem setCookie (h : Simulates s r) {name : String} {options : CookieOptions}
    (hordinary : OrdinaryCookie name options) (hnew : ∀ c ∈ r.cookies, c.fullName ≠ options.fullName name)
    (value : String) : Simulates (s.setCookie name value options) (r.setCookie name value options) := by
  obtain ⟨hfront, hname, hpath, hdomain⟩ := hordinary
  have hsendable := CookieOptions.isFieldValue_fieldValue (hfront.append hname) hpath hdomain value
  have hkept : s.cookies.filter (·.1 != options.fullName name) = s.cookies := by
    rw [h.cookies, List.filter_eq_self, List.forall_mem_map]
    exact fun c hc => bne_iff_ne.mpr (hnew c hc)
  have hsent : s.setCookie name value options =
      ⟨s.message.addField setCookieField (options.fieldValue name value),
        s.cookies ++ [(options.fullName name, value)]⟩ := by
    simp only [SentResponse.setCookie, if_pos hsendable, hkept]
  have htexts : cookieTexts (r.cookies ++ [⟨options.fullName name, value, options⟩]) =
      cookieTexts r.cookies ++ [options.fieldValue name value] := by
    rw [cookieTexts, List.map_append, List.map_singleton, name_recordedCookie, cookieTexts]
  rw [hsent, setCookie_of_new hnew]
  refine { h with cookies := ?_, cookieFields := ?_, sendable := ?_, fields := ?_ }
  · rw [h.cookies, List.map_append, List.map_singleton]
  · rw [htexts, ← h.cookieFields]
    exact Message.valuesOf_addField_self
  · rw [htexts]
    exact List.forall_mem_append.mpr ⟨h.sendable, List.forall_mem_singleton.mpr hsendable⟩
  · rw [← h.fields]
    simp [Message.addField]

end Simulates

/-! ## Runs of calls -/

/-- What one more item gives comes last. -/
theorem filterMap_concat {α β : Type} (f : α → Option β) (items : List α) (item : α) :
    (items ++ [item]).filterMap f = items.filterMap f ++ (f item).toList := by
  rw [List.filterMap_append]
  cases h : f item <;> simp [h]

/-- A line has no part in the cookies. -/
theorem cookies_header (r : RecordedResponse) (line : String) (replace : Bool) (status : Option Nat) :
    (r.header line replace status).cookies = r.cookies := by
  unfold RecordedResponse.header
  split <;> cases status <;> rfl

theorem fullNames_setCookie {r : RecordedResponse} {name : String} {options : CookieOptions}
    (hnew : ∀ c ∈ r.cookies, c.fullName ≠ options.fullName name) (value : String) :
    (r.setCookie name value options).cookies.map RecordedCookie.fullName =
      r.cookies.map RecordedCookie.fullName ++ [options.fullName name] := by
  rw [Simulates.setCookie_of_new hnew, List.map_append, List.map_singleton]

/-- One call keeps both in step, if it writes no cookie for a second time. -/
theorem simulates_apply {s : SentResponse} {r : RecordedResponse} (h : Simulates s r) {call : ResponseCall}
    (hordinary : call.Ordinary) (hshort : call.Short)
    (hfresh : ∀ fullName ∈ call.cookieName?, fullName ∉ r.cookies.map RecordedCookie.fullName) :
    ∃ s' r', call.apply (.sent s) = .sent s' ∧ call.apply (.recorded r) = .recorded r' ∧ Simulates s' r' ∧
      r'.cookies.map RecordedCookie.fullName = r.cookies.map RecordedCookie.fullName ++ call.cookieName?.toList := by
  have hnew : ∀ fullName ∈ call.cookieName?, ∀ c ∈ r.cookies, c.fullName ≠ fullName := by
    rintro fullName hname c hc rfl
    exact hfresh _ hname (List.mem_map_of_mem hc)
  cases call with
  | header line replace status =>
    refine ⟨_, _, rfl, rfl, h.header hordinary.1 hshort replace hordinary.2, ?_⟩
    rw [cookies_header]
    exact (List.append_nil _).symm
  | setStatus code => exact ⟨_, _, rfl, rfl, h.setStatus hordinary, (List.append_nil _).symm⟩
  | setCookie name value options =>
    have hnew := hnew _ rfl
    exact ⟨_, _, rfl, rfl, h.setCookie hordinary hnew value, fullNames_setCookie hnew value⟩
  | clearCookie name options =>
    have hnew : ∀ c ∈ r.cookies, c.fullName ≠ options.expired.fullName name := hnew _ rfl
    have hordinary : OrdinaryCookie name options.expired := hordinary
    exact ⟨_, _, rfl, rfl, h.setCookie hordinary hnew "", fullNames_setCookie hnew ""⟩
  | write chunk => exact ⟨_, _, rfl, rfl, h.write chunk, (List.append_nil _).symm⟩

/-- A run of calls keeps both in step, if it writes no cookie twice. -/
theorem simulates_run {calls : List ResponseCall} (hcalls : ∀ call ∈ calls, call.Ordinary ∧ call.Short)
    (hcookies : (calls.filterMap ResponseCall.cookieName?).Nodup) :
    ∃ s r, (Response.sent {}).run calls = .sent s ∧ (Response.recorded {}).run calls = .recorded r ∧ Simulates s r ∧
      r.cookies.map RecordedCookie.fullName = calls.filterMap ResponseCall.cookieName? := by
  induction calls using List.reverseRecOn with
  | nil => exact ⟨_, _, rfl, rfl, .empty, rfl⟩
  | append_singleton calls call ih =>
    have hsplit := filterMap_concat ResponseCall.cookieName? calls call
    rw [hsplit, List.nodup_append] at hcookies
    obtain ⟨hbefore, -, hdisjoint⟩ := hcookies
    obtain ⟨hcalls, hcall⟩ := List.forall_mem_append.mp hcalls
    obtain ⟨hordinary, hshort⟩ := List.forall_mem_singleton.mp hcall
    obtain ⟨s, r, hs, hr, h, hnames⟩ := ih hcalls hbefore
    have hfresh : ∀ fullName ∈ call.cookieName?, fullName ∉ r.cookies.map RecordedCookie.fullName := by
      intro fullName hname hmem
      rw [hnames] at hmem
      exact hdisjoint _ hmem _ (Option.mem_toList.mpr hname) rfl
    obtain ⟨s', r', hs', hr', h', hnames'⟩ := simulates_apply h hordinary hshort hfresh
    refine ⟨s', r', ?_, ?_, h', ?_⟩
    · rw [Response.run_concat, hs, hs']
    · rw [Response.run_concat, hr, hr']
    · rw [hnames', hnames, hsplit]

/-! ## What a recorded response is converted to -/

/-- Reading what is recorded once more adds these fields. -/
theorem foldl_header : ∀ {fields : List (String × String)}, (∀ entry ∈ fields, RecordedField entry) →
    ∀ s : SentResponse, fields.foldl (fun s (name, value) => s.header (name ++ ": " ++ value) false none) s =
      { s with message := { s.message with fields := s.message.fields ++ sentFields fields } }
  | [], _, s => by rw [sentFields, List.map_nil, List.append_nil]; rfl
  | (name, value) :: fields, h, s => by
    have hfirst := (h (name, value) List.mem_cons_self).header_line s
    show fields.foldl _ (s.header (name ++ ": " ++ value) false none) = _
    rw [hfirst, foldl_header fun other hother => h other (List.mem_cons_of_mem _ hother)]
    simp only [Message.addField, sentFields, List.map_cons, List.append_assoc, List.singleton_append]

/-- Setting the cookies that are recorded adds their fields. -/
theorem message_foldl_setCookie : ∀ {cookies : List RecordedCookie},
    (∀ text ∈ cookieTexts cookies, isFieldValue text = true) → ∀ s : SentResponse,
      (cookies.foldl (fun s c => s.setCookie c.name c.value c.options) s).message =
        { s.message with fields := s.message.fields ++ (cookieTexts cookies).map fun text => (setCookieField, text) }
  | [], _, s => by simp [cookieTexts]
  | c :: cookies, h, s => by
    have hfirst : isFieldValue (c.options.fieldValue c.name c.value) = true := h _ List.mem_cons_self
    rw [List.foldl_cons, message_foldl_setCookie fun text htext => h text (List.mem_cons_of_mem _ htext)]
    simp only [SentResponse.setCookie, if_pos hfirst, Message.addField, cookieTexts, List.map_cons, List.append_assoc,
      List.singleton_append]

/-- The message of a recorded response: the fields, and behind them those that set the cookies. -/
theorem Simulates.message_toSent {s : SentResponse} {r : RecordedResponse} (h : Simulates s r) : r.toSent.message =
    ⟨r.status, sentFields r.fields ++ (cookieTexts r.cookies).map fun text => (setCookieField, text), r.body⟩ := by
  rw [RecordedResponse.toSent, foldl_header h.recorded, SentResponse.write, message_foldl_setCookie h.sendable]
  simp [SentResponse.setStatus, Message.setStatus, h.code]

/-! ## Both show and send the same -/

theorem Message.field?_eq_head? (m : Message) (name : String) : m.field? name = (m.valuesOf name).head? := by
  rw [field?, valuesOf, List.head?_map, List.head?_filter]

namespace Simulates

variable {s : SentResponse} {r : RecordedResponse}

/-- The values that are sent under a name, cookies apart. -/
theorem valuesOf_eq (h : Simulates s r) {name : String} (hother : name ≠ setCookieField) :
    s.message.valuesOf name = ((sentFields r.fields).filter (·.1 == name)).map Prod.snd := by
  rw [← h.fields, List.filter_filter, Message.valuesOf]
  congr 1
  refine List.filter_congr fun entry _ => ?_
  by_cases heq : entry.1 = name
  · simp [heq, hother]
  · simp [heq]

/-- What is seen of a field, by its name in any case. -/
theorem header?_eq (h : Simulates s r) {name : String} (hother : Text.lowerAscii name ≠ setCookieField) :
    s.header? name = r.header? name := by
  rw [SentResponse.header?, RecordedResponse.header?]
  cases htoken : fieldToken? name with
  | none =>
    -- nothing is recorded under a name that cannot be sent
    have hnone : r.fields.find? (·.1 == Text.upperAscii name) = none := by
      rw [List.find?_eq_none]
      intro entry hentry heq
      have htoken' := (h.recorded entry hentry).token
      rw [beq_iff_eq.mp heq, fieldToken?_upperAscii, htoken] at htoken'
      cases htoken'
    rw [hnone]
    rfl
  | some token =>
    obtain rfl := (fieldToken?_eq_some_iff.mp htoken).2
    have hvalues := filter_sentFields h.recorded name id
    simp only [id_eq] at hvalues
    rw [Option.bind_some, Message.field?_eq_head?, h.valuesOf_eq hother, hvalues, sentFields, List.map_map,
      List.head?_map, List.head?_filter]
    cases hfound : r.fields.find? (·.1 == Text.upperAscii name) with
    | none => rfl
    | some entry =>
      have hplain := (h.recorded entry (List.mem_of_find?_eq_some hfound)).plain
      simp [Option.filter, hplain]

/-- What is sent under a name, cookies included. -/
theorem valuesOf_toSent (h : Simulates s r) (name : String) :
    s.message.valuesOf name = r.toSent.message.valuesOf name := by
  rw [h.message_toSent, Message.valuesOf.eq_def ⟨r.status, _, r.body⟩]
  dsimp only
  rw [List.filter_append, List.map_append, List.filter_map, List.map_map]
  by_cases hname : name = setCookieField
  · subst hname
    have hfields : (sentFields r.fields).filter (·.1 == setCookieField) = [] := by
      rw [List.filter_eq_nil_iff, sentFields, List.forall_mem_map]
      intro entry hentry
      simpa using (h.recorded entry hentry).other
    have hcookies : (cookieTexts r.cookies).filter
        ((fun entry : String × String => entry.1 == setCookieField) ∘ fun text : String => (setCookieField, text)) =
          cookieTexts r.cookies :=
      List.filter_eq_self.mpr fun _ _ => beq_self_eq_true setCookieField
    rw [hfields, h.cookieFields, hcookies]
    exact (List.map_id _).symm
  · rw [h.valuesOf_eq hname]
    simp [Ne.symm hname]

/-- In step, both show and send the same. -/
theorem agrees (h : Simulates s r) : Response.Agrees (.sent s) (.recorded r) where
  status := h.status
  body := h.body
  cookie fullName := by
    rw [Response.cookie?, Response.cookie?, SentResponse.cookie?, RecordedResponse.findCookie?, h.cookies,
      List.find?_map, Option.map_map]
    rfl
  header _ hother := h.header?_eq hother
  sentStatus := by
    show s.message.status = r.toSent.message.status
    rw [h.message_toSent, h.status]
  sentBody := by
    show s.message.body = r.toSent.message.body
    rw [h.message_toSent, h.body]
  sentValues := h.valuesOf_toSent

end Simulates

/-- **A recorded response stands for one that is sent.** After each of a list of ordinary calls that write no cookie
twice, and whose names of fields are not too long to be sent, both show the same and send the same. -/
theorem recorded_agrees_with_sent (calls : List ResponseCall)
    (hcalls : ∀ call ∈ calls, call.Ordinary ∧ call.Short)
    (hcookies : (calls.filterMap ResponseCall.cookieName?).Nodup) :
    ∀ before, before <+: calls →
      Response.Agrees ((Response.sent {}).run before) ((Response.recorded {}).run before) := by
  rintro before ⟨after, rfl⟩
  have hbefore : (before.filterMap ResponseCall.cookieName?).Nodup := by
    rw [List.filterMap_append] at hcookies
    exact hcookies.of_append_left
  obtain ⟨s, r, hs, hr, h, -⟩ := simulates_run (List.forall_mem_append.mp hcalls).1 hbefore
  rw [hs, hr]
  exact h.agrees

/-- Calls that make a page: a status line, a line that is none, a field that is set and one added to it, a field and a
status, a cookie that is set, one that expires, and a body. -/
def pageCalls : List ResponseCall :=
  [.header "HTTP/1.1 404 Not Found" true none, .header "no field" true none,
    .header "Content-Language: en" true none, .header "content-language: de" false none,
    .header "CONTENT-TYPE: text/html; charset=utf-8" true (some 410),
    .setCookie "session" "a b; c" { namePrefix := "wiki", path := "/" }, .clearCookie "Token" {},
    .write [0x3C, 0x70, 0x3E]]

theorem recorded_agrees_with_sent_page :
    (∀ call ∈ pageCalls, call.Ordinary ∧ call.Short) ∧ (pageCalls.filterMap ResponseCall.cookieName?).Nodup ∧
      ∀ before, before <+: pageCalls →
        Response.Agrees ((Response.sent {}).run before) ((Response.recorded {}).run before) := by
  have hcalls : ∀ call ∈ pageCalls, call.Ordinary ∧ call.Short := by decide +kernel
  have hcookies : (pageCalls.filterMap ResponseCall.cookieName?).Nodup := by decide +kernel
  exact ⟨hcalls, hcookies, recorded_agrees_with_sent pageCalls hcalls hcookies⟩

/-! ## Names that are too long -/

/-- A name that is one character too long to be sent. -/
def longName : String := String.ofList (List.replicate (maxFieldName + 1) 'a')

theorem length_longName : longName.length = maxFieldName + 1 := by
  rw [longName, String.length_ofList, List.length_replicate]

theorem isToken_longName : IsToken longName := by
  refine ⟨?_, fun c hc => ?_⟩
  · rw [ne_eq, ← String.length_eq_zero_iff, length_longName]
    exact Nat.succ_ne_zero _
  · rw [longName, String.toList_ofList] at hc
    rw [List.eq_of_mem_replicate hc]
    rfl

theorem fieldToken?_longName : fieldToken? longName = none := by
  rw [Option.eq_none_iff_forall_ne_some]
  intro token h
  have hshort := (fieldToken?_eq_some_iff.mp h).1.2
  rw [length_longName] at hshort
  exact Nat.lt_irrefl _ hshort

theorem lowerAscii_longName_ne : Text.lowerAscii longName ≠ setCookieField := by
  intro h
  have hlength := congrArg String.length h
  rw [Text.lowerAscii, String.length_ofList, List.length_map, String.length_toList, length_longName] at hlength
  revert hlength
  decide

/-- **A field whose name is too long to be sent tells them apart.** It is recorded, and nothing of it is sent. -/
theorem recorded_differs_at_long_name :
    ¬ ∀ calls : List ResponseCall, (∀ call ∈ calls, call.Ordinary) →
      (calls.filterMap ResponseCall.cookieName?).Nodup → ∀ before, before <+: calls →
        Response.Agrees ((Response.sent {}).run before) ((Response.recorded {}).run before) := by
  intro hagrees
  have hread : parseHeaderLine? (longName ++ ": " ++ "x") = some (.field longName "x") :=
    parseHeaderLine?_field isToken_longName rfl
  have hordinary : (ResponseCall.header (longName ++ ": " ++ "x") false none).Ordinary := by
    refine ⟨?_, ?_⟩
    · rw [hread]
      rintro read ⟨⟩
      exact ⟨isToken_longName, lowerAscii_longName_ne, by simp⟩
    · rintro code ⟨⟩
  have hheader := (hagrees [.header (longName ++ ": " ++ "x") false none] (List.forall_mem_singleton.mpr hordinary)
    List.nodup_nil _ (List.prefix_refl _)).header longName lowerAscii_longName_ne
  have hsent : Response.header? longName
      ((Response.sent {}).run [.header (longName ++ ": " ++ "x") false none]) = none := by
    show SentResponse.header? _ longName = none
    rw [SentResponse.header?, fieldToken?_longName]
    rfl
  have hrecorded : Response.header? longName
      ((Response.recorded {}).run [.header (longName ++ ": " ++ "x") false none]) = some "x" := by
    show RecordedResponse.header? (RecordedResponse.header {} (longName ++ ": " ++ "x") false none) longName = some "x"
    rw [RecordedResponse.header, hread]
    simp [RecordedResponse.field, RecordedResponse.header?]
  rw [hsent, hrecorded] at hheader
  cases hheader

end WikiGateway
