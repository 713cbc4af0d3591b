import WikiGateway.Proofs.Config.Sections
import WikiGateway.Proofs.Http.Response
import WikiGateway.Proofs.Server.Answer

/-!
# The id of a request in its answer

The id of a request can be sent, whoever chose it: values that come with a request on the wire hold no control
characters (`Incoming.WellFormed`), and neither do they when they are joined or trimmed. A handler gets at the response
by its calls alone (`Response.Written`), none of which keeps the id from being the only value of its field. So each
answer carries the id once, be it that of a handler or one that tells what failed. Where the body of a request is not
read, no id is chosen, and none is sent.

* `Incoming.isFieldValue_requestId`: the id can be sent.
* `Response.Named.apply`, `Response.Written.named`: fields are recorded under names that are read, by each call and by
  all of them.
* `valuesOf_finish`, `valuesOf_rejection`: the id in an answer.
* `frontController_requestId`: the answers with an id, and those without.
* `frontController_unread_body`: two of the latter.
-/

namespace WikiGateway

/-! ## Values that can be sent -/

theorem isFieldValue_iff {value : String} :
    isFieldValue value = true ↔ ∀ c ∈ value.toList, c = '\t' ∨ 0x20 ≤ c.toNat ∧ c.toNat ≠ 0x7F := by
  rw [isFieldValue, List.all_eq_true]
  simp only [Bool.or_eq_true, beq_iff_eq, Bool.and_eq_true, decide_eq_true_eq, bne_iff_ne]

theorem isFieldValue_append {a b : String} :
    isFieldValue (a ++ b) = true ↔ isFieldValue a = true ∧ isFieldValue b = true := by
  rw [isFieldValue, String.toList_append, List.all_append, Bool.and_eq_true]
  rfl

theorem isFieldValue_trim {value : String} (h : isFieldValue value = true) : isFieldValue (Text.trim value) = true := by
  rw [isFieldValue_iff] at h ⊢
  rw [Text.trim, String.toList_ofList]
  exact fun c hc => h c (Text.trimBoth_subset _ _ hc)

/-- A byte of a value as the wire has it: no control character other than a tab. -/
def IsFieldByte (b : UInt8) : Prop := b = 0x09 ∨ 0x20 ≤ b ∧ b ≠ 0x7F

instance : DecidablePred IsFieldByte := fun _ => inferInstanceAs (Decidable (_ ∨ _ ∧ _))

/-- Such bytes are read as a value that can be sent, valid or not. -/
theorem isFieldValue_decodeLossy {bytes : List UInt8} (h : ∀ b ∈ bytes, IsFieldByte b) :
    isFieldValue (Text.decodeLossy bytes) = true := by
  rw [isFieldValue_iff]
  intro c hc
  by_cases hascii : c.toNat < 0x80
  · obtain ⟨b, hb, hbyte⟩ := Text.exists_byte_of_mem_decodeLossy hc hascii
    rw [← hbyte]
    refine (h b hb).imp ?_ fun hprintable => ⟨?_, fun heq => ?_⟩
    · rintro rfl
      exact Char.toNat_inj.mp hbyte.symm
    · exact UInt8.le_iff_toNat_le.mp hprintable.1
    · exact hprintable.2 (UInt8.toNat_inj.mp heq)
  · exact .inr (by omega)

/-! ## Header fields of a request -/

/-- A request whose header fields have values as the wire has them. -/
def Incoming.WellFormed (i : Incoming) : Prop := ∀ field ∈ i.fields, ∀ b ∈ field.2, IsFieldByte b

instance : DecidablePred Incoming.WellFormed := fun i =>
  inferInstanceAs (Decidable (∀ field ∈ i.fields, ∀ b ∈ field.2, IsFieldByte b))

/-- One more field keeps the values such that they can be sent. -/
theorem isFieldValue_addHeader {name value : String} (hvalue : isFieldValue value = true) :
    ∀ {headers : List (String × String)}, (∀ field ∈ headers, isFieldValue field.2 = true) →
      ∀ field ∈ addHeader name value headers, isFieldValue field.2 = true
  | [], _ => List.forall_mem_singleton.mpr hvalue
  | (n, v) :: headers, h => by
    obtain ⟨hv, hrest⟩ := List.forall_mem_cons.mp h
    rw [addHeader]
    split
    · have hjoined : isFieldValue (v ++ ", " ++ value) = true :=
        isFieldValue_append.mpr ⟨isFieldValue_append.mpr ⟨hv, by decide⟩, hvalue⟩
      exact List.forall_mem_cons.mpr ⟨hjoined, hrest⟩
    · exact List.forall_mem_cons.mpr ⟨hv, isFieldValue_addHeader hvalue hrest⟩

/-- So do all of them. -/
theorem isFieldValue_foldl_addHeader (fields : List (String × List UInt8)) (headers : List (String × String))
    (hfields : ∀ field ∈ fields, ∀ b ∈ field.2, IsFieldByte b)
    (hheaders : ∀ field ∈ headers, isFieldValue field.2 = true) :
    ∀ field ∈ fields.foldl (fun headers field =>
      addHeader (Text.lowerAscii field.1) (Text.decodeLossy field.2) headers) headers, isFieldValue field.2 = true := by
  induction fields generalizing headers with
  | nil => exact hheaders
  | cons field fields ih =>
    obtain ⟨hfield, hrest⟩ := List.forall_mem_cons.mp hfields
    exact ih _ hrest (isFieldValue_addHeader (isFieldValue_decodeLossy hfield) hheaders)

namespace Incoming

variable {i : Incoming}

/-- The header fields of a request have values that can be sent. -/
theorem isFieldValue_headers (h : i.WellFormed) (body : List UInt8) (https : Bool) :
    ∀ field ∈ (i.transport body https).headers, isFieldValue field.2 = true :=
  isFieldValue_foldl_addHeader i.fields [] h (by simp)

/-- **The id of a request can be sent**, if a fresh one can. -/
theorem isFieldValue_requestId (h : i.WellFormed) (body : List UInt8) (https allowExternal : Bool) {freshId : String}
    (hfresh : isFieldValue freshId = true) :
    isFieldValue (chooseRequestId (i.transport body https) allowExternal freshId) = true := by
  have hheader : ∀ id, (i.transport body https).header? requestIdHeader = some id → isFieldValue id = true := by
    intro id hid
    obtain ⟨field, hfield, rfl⟩ := Option.map_eq_some_iff.mp hid
    exact isFieldValue_headers h body https field (List.mem_of_find?_eq_some hfield)
  have hchosen : ∀ external : Option String, (∀ id, external = some id → isFieldValue id = true) →
      isFieldValue ((external.filter (· != "") <|> none).getD freshId) = true := by
    intro external hexternal
    cases hid : external.filter (· != "") with
    | none => exact hfresh
    | some id => exact hexternal id (Option.filter_eq_some_iff.mp hid).1
  -- the wire has no id of the web server
  refine hchosen (if allowExternal then (i.transport body https).header? requestIdHeader else none) fun id hid => ?_
  split at hid
  · exact hheader id hid
  · cases hid

end Incoming

/-! ## What handlers write -/

/-- The fields that are recorded have names that were read of lines, in upper case. -/
def RecordedResponse.Named (r : RecordedResponse) : Prop :=
  ∀ entry ∈ r.fields, IsReadName entry.1 ∧ Text.upperAscii entry.1 = entry.1

namespace RecordedResponse.Named

variable {r : RecordedResponse}

theorem empty : Named {} := nofun

theorem field (h : r.Named) {name : String} (hname : IsReadName name) (value : String) (replace : Bool) :
    (r.field name value replace).Named := by
  refine List.forall_mem_append.mpr ⟨fun entry hentry => ?_, ?_⟩
  · split at hentry
    · exact h entry (List.mem_filter.mp hentry).1
    · exact h entry hentry
  · exact List.forall_mem_singleton.mpr ⟨hname.upperAscii, Text.upperAscii_upperAscii name⟩

theorem header (h : r.Named) (line : String) (replace : Bool) (status : Option Nat) :
    (r.header line replace status).Named := by
  have hline : (r.header line replace none).Named := by
    unfold RecordedResponse.header
    cases hread : parseHeaderLine? line with
    | none => exact h
    | some read =>
      cases read with
      | status code => exact h
      | field name value => exact h.field (of_parseHeaderLine? hread).1 value replace
  cases status with
  | none => exact hline
  | some code => exact hline

end RecordedResponse.Named

namespace Response

/-- What is recorded is recorded under names that were read. -/
def Named : Response → Prop
  | sent _ => True
  | recorded r => r.Named

/-- A response that came about by calls on an empty one. -/
def Written (r : Response) : Prop := ∃ calls, r = run (.sent {}) calls ∨ r = run (.recorded {}) calls

variable {r : Response}

theorem Named.apply (h : r.Named) (call : ResponseCall) : (call.apply r).Named := by
  cases r with
  | sent s => cases call <;> trivial
  | recorded r =>
    cases call with
    | header line replace status => exact RecordedResponse.Named.header h line replace status
    | setStatus code => exact h
    | setCookie name value options => exact h
    | clearCookie name options => exact h
    | write chunk => exact h

theorem Named.run (h : r.Named) (calls : List ResponseCall) : (r.run calls).Named := by
  induction calls using List.reverseRecOn with
  | nil => exact h
  | append_singleton calls call ih =>
    rw [run_concat]
    exact ih.apply call

theorem Written.named (h : r.Written) : r.Named := by
  have hsent : Named (.sent {}) := trivial
  have hrecorded : Named (.recorded {}) := RecordedResponse.Named.empty
  obtain ⟨calls, rfl | rfl⟩ := h
  · exact hsent.run calls
  · exact hrecorded.run calls

theorem written_empty : Written (.sent {}) := ⟨[], .inl rfl⟩

theorem Written.apply (h : r.Written) (call : ResponseCall) : (call.apply r).Written := by
  obtain ⟨calls, h⟩ := h
  refine ⟨calls ++ [call], ?_⟩
  rw [run_concat, run_concat]
  exact h.imp (congrArg call.apply) (congrArg call.apply)

end Response

/-- A dispatcher whose handlers do nothing else with the response than to call it. -/
def Dispatcher.WritesByCalls (d : Dispatcher) : Prop :=
  ∀ name handler, d.handler? name = some handler →
    ∀ r : Request, r.response.Written → (handler r).1.response.Written

theorem Dispatcher.WritesByCalls.dispatch {d : Dispatcher} (h : d.WritesByCalls) {r : Request}
    (hr : r.response.Written) : (d.dispatch r).1.response.Written := by
  unfold Dispatcher.dispatch
  split
  · exact hr
  next handler hhandler => exact h _ handler hhandler r hr

/-- The description of a request is written by calls. -/
theorem writesByCalls_ofSite (site : Site) : (Dispatcher.ofSite site).WritesByCalls := by
  intro name handler hhandler r hr
  rw [Dispatcher.handler?_ofSite, Option.ite_none_right_eq_some] at hhandler
  obtain rfl := Option.some.inj hhandler.2
  unfold describeHandler
  split
  · exact hr
  next d hd =>
    have hbegun : (if r.isNotFound then r.response.setStatus 404 else r.response).Written := by
      split
      · exact hr.apply (.setStatus 404)
      · exact hr
    have htyped := hbegun.apply (.header "Content-Type: application/json; charset=utf-8" true none)
    unfold Request.writeDescription
    dsimp only
    split
    · exact (htyped.apply (.header "Access-Control-Allow-Origin: *" true none)).apply (.write _)
    · exact htyped.apply (.write _)

/-! ## Fields of one name -/

section
variable {name : String}

namespace SentResponse

variable {s : SentResponse}

/-- A field of another name. -/
theorem valuesOf_field_of_ne {other : String} (h : Text.lowerAscii other ≠ name) (value : String) (replace : Bool) :
    (s.field other value replace).message.valuesOf name = s.message.valuesOf name := by
  unfold field
  split
  · rfl
  next token htoken =>
    have hne : name ≠ token := (fieldToken?_eq_some_iff.mp htoken).2 ▸ h.symm
    split
    · rfl
    · cases replace with
      | false => exact Message.valuesOf_addField_of_ne hne
      | true => exact Message.valuesOf_setField_of_ne hne

theorem valuesOf_setStatus (code : Nat) : (s.setStatus code).message.valuesOf name = s.message.valuesOf name := by
  simp only [setStatus, Message.valuesOf, Message.fields_setStatus]

/-- A recorded field of another name, when its line is read once more. -/
theorem valuesOf_header_of_ne {entry : String × String} (hentry : IsReadName entry.1)
    (h : Text.lowerAscii entry.1 ≠ name) :
    (s.header (entry.1 ++ ": " ++ entry.2) false none).message.valuesOf name = s.message.valuesOf name := by
  unfold header
  cases hread : parseHeaderLine? (entry.1 ++ ": " ++ entry.2) with
  | none => rfl
  | some read =>
    cases read with
    | status code =>
      -- a name that starts as status lines do
      exact valuesOf_setStatus code
    | field other value =>
      obtain rfl := hentry.name_eq hread
      exact valuesOf_field_of_ne h value false

theorem valuesOf_setCookie (h : name ≠ setCookieField) (cookie value : String) (options : CookieOptions) :
    (s.setCookie cookie value options).message.valuesOf name = s.message.valuesOf name := by
  unfold setCookie
  dsimp only
  split
  · exact Message.valuesOf_addField_of_ne h
  · rfl

end SentResponse

/-- What was recorded under other names, and is read once more. -/
theorem valuesOf_foldl_header (fields : List (String × String)) (s : SentResponse)
    (h : ∀ entry ∈ fields, IsReadName entry.1 ∧ Text.lowerAscii entry.1 ≠ name) :
    (fields.foldl (fun (s : SentResponse) (name, value) => s.header (name ++ ": " ++ value) false none)
      s).message.valuesOf name = s.message.valuesOf name := by
  induction fields generalizing s with
  | nil => rfl
  | cons entry fields ih =>
    obtain ⟨hentry, hrest⟩ := List.forall_mem_cons.mp h
    rw [List.foldl_cons, ih _ hrest, SentResponse.valuesOf_header_of_ne hentry.1 hentry.2]

theorem valuesOf_foldl_setCookie (h : name ≠ setCookieField) (cookies : List RecordedCookie) (s : SentResponse) :
    (cookies.foldl (fun (s : SentResponse) c => s.setCookie c.name c.value c.options) s).message.valuesOf name =
      s.message.valuesOf name := by
  induction cookies generalizing s with
  | nil => rfl
  | cons c cookies ih => rw [List.foldl_cons, ih, SentResponse.valuesOf_setCookie h]

/-- What is sent of a recorded response is that of its fields, but for the cookies. -/
theorem RecordedResponse.valuesOf_toSent (h : name ≠ setCookieField) (r : RecordedResponse) :
    r.toSent.message.valuesOf name =
      (r.fields.foldl (fun (s : SentResponse) (name, value) => s.header (name ++ ": " ++ value) false none)
        (SentResponse.setStatus {} r.status)).message.valuesOf name :=
  valuesOf_foldl_setCookie h _ _

end

/-! ## The id in an answer -/

section
variable {id : String}

theorem isToken_requestIdHeader : IsToken requestIdHeader := by decide

theorem fieldToken?_requestIdHeader : fieldToken? requestIdHeader = some (Text.lowerAscii requestIdHeader) := by decide

/-- The line of an id sets the field of ids, to the id without blanks around it. -/
theorem SentResponse.valuesOf_header_requestId (hid : isFieldValue id = true) (s : SentResponse) :
    (s.header (requestIdHeader ++ ": " ++ id) true none).message.valuesOf (Text.lowerAscii requestIdHeader) =
      [Text.trim id] := by
  rw [header, parseHeaderLine?_of_isToken isToken_requestIdHeader]
  simp [field, fieldToken?_requestIdHeader, isFieldValue_trim hid, Message.valuesOf, Message.setField]

/-- The recorded line of an id, when it is read once more. -/
theorem SentResponse.header_recordedId (hid : isFieldValue id = true) (s : SentResponse) :
    s.header (Text.upperAscii requestIdHeader ++ ": " ++ Text.trim id) false none =
      { s with message := s.message.addField (Text.lowerAscii requestIdHeader) (Text.trim id) } := by
  have htoken : fieldToken? (Text.upperAscii requestIdHeader) = some (Text.lowerAscii requestIdHeader) := by
    rw [fieldToken?_upperAscii, fieldToken?_requestIdHeader]
  have htrimmed : Text.trimBoth Text.isSpace (Text.trim id).toList = (Text.trim id).toList := by
    rw [Text.trim, String.toList_ofList, Text.trimBoth_trimBoth]
  rw [header, parseHeaderLine?_field (isToken_upperAscii.mpr isToken_requestIdHeader) htrimmed]
  simp [field, htoken, isFieldValue_trim hid]

/-- The line of an id is recorded in the place of every other one of its name. -/
theorem RecordedResponse.valuesOf_header_requestId {r : RecordedResponse} (h : r.Named) (hid : isFieldValue id = true) :
    (r.header (requestIdHeader ++ ": " ++ id) true none).toSent.message.valuesOf (Text.lowerAscii requestIdHeader) =
      [Text.trim id] := by
  have hothers : ∀ entry ∈ r.fields.filter (·.1 != Text.upperAscii requestIdHeader),
      IsReadName entry.1 ∧ Text.lowerAscii entry.1 ≠ Text.lowerAscii requestIdHeader := by
    intro entry hentry
    obtain ⟨hmem, hne⟩ := List.mem_filter.mp hentry
    obtain ⟨hread, hcase⟩ := h entry hmem
    refine ⟨hread, fun hsame => ?_⟩
    -- it was recorded in upper case, so it would have been replaced
    rw [← Text.upperAscii_eq_iff, hcase] at hsame
    simp [hsame] at hne
  rw [valuesOf_toSent (by decide), header, parseHeaderLine?_of_isToken isToken_requestIdHeader]
  dsimp only [field]
  rw [if_pos rfl, List.foldl_append, List.foldl_cons, List.foldl_nil, SentResponse.header_recordedId hid,
    Message.valuesOf_addField_self, valuesOf_foldl_header _ _ hothers, SentResponse.valuesOf_setStatus]
  rfl

/-- The id is the only value of its field in the message of a request that was handled. -/
theorem valuesOf_finish {r : Request} (h : r.response.Named) (hid : isFieldValue id = true) :
    (r.finish id).valuesOf (Text.lowerAscii requestIdHeader) = [Text.trim id] := by
  unfold Request.finish
  cases hresponse : r.response with
  | sent s => exact SentResponse.valuesOf_header_requestId hid s
  | recorded recorded =>
    rw [hresponse] at h
    exact RecordedResponse.valuesOf_header_requestId h hid

/-- It is so in the message that tells what failed. -/
theorem valuesOf_rejection (hid : isFieldValue id = true) (status : Nat) (text : String) :
    (rejection id status text).valuesOf (Text.lowerAscii requestIdHeader) = [id] := by
  rw [rejection, if_pos hid]
  simp [Message.valuesOf, Message.setField]

end

/-- The method decides about the body and its length, and about no other field. -/
theorem valuesOf_inAnswerTo {name : String} (h : name ≠ "content-length") (m : Message) (method : String) :
    (m.inAnswerTo method).valuesOf name = m.valuesOf name := by
  have hlength : m.withLength.valuesOf name = m.valuesOf name := by
    unfold Message.withLength
    split
    · rfl
    · exact Message.valuesOf_addField_of_ne h
  unfold Message.inAnswerTo
  split
  · rfl
  · dsimp only
    split
    · exact hlength
    · exact hlength

/-! ## Answers -/

/-- A request that is routed keeps its response. -/
theorem Request.response_of_interpolateTitle {r routed : Request} (hentry : r.entry = none)
    (h : r.interpolateTitle = .ok routed) : routed.response = r.response := by
  cases hpath : r.path with
  | error e =>
    rw [interpolateTitle_of_error hentry hpath] at h
    cases h
  | ok path =>
    obtain ⟨routed', hrouted', hframe⟩ := routed_of_path hentry hpath
    rw [h] at hrouted'
    cases hrouted'
    exact hframe.response_eq

/-- Each of the ways in which a request is answered sends its id. -/
theorem exists_valuesOf_answer (site : Site) {dispatcher : Dispatcher} (hdispatcher : dispatcher.WritesByCalls)
    (t : Transport) (freshId : String)
    (hid : isFieldValue (chooseRequestId t site.config.request.allowExternalId freshId) = true) :
    ∃ value, (answer site dispatcher t freshId).valuesOf (Text.lowerAscii requestIdHeader) = [value] ∧
      (value = chooseRequestId t site.config.request.allowExternalId freshId ∨
        value = Text.trim (chooseRequestId t site.config.request.allowExternalId freshId)) := by
  unfold answer
  dsimp only
  split
  next => exact ⟨_, valuesOf_rejection hid _ _, .inl rfl⟩
  next routed hrouted =>
    have hwritten : routed.response.Written := by
      rw [Request.response_of_interpolateTitle rfl hrouted]
      exact Response.written_empty
    split
    next => exact ⟨_, valuesOf_rejection hid _ _, .inl rfl⟩
    next =>
      have hhandled := hdispatcher.dispatch hwritten
      split
      next => exact ⟨_, valuesOf_rejection hid _ _, .inl rfl⟩
      next handled hdispatch =>
        rw [hdispatch] at hhandled
        exact ⟨_, valuesOf_finish hhandled.named hid, .inr rfl⟩

/-- The answer to a request whose body was not read. -/
theorem frontController_of_error (site : Site) (dispatcher : Dispatcher) (i : Incoming) {chunks : List BodyChunk}
    (freshId : String) {e : BodyError} (h : readBody chunks = .error e) :
    frontController site dispatcher i chunks freshId = (plainMessage e.status e.message).inAnswerTo i.method := by
  rw [frontController, h]

/-- **An answer carries the id of its request once, unless the body was not read.** Whatever the site, the handlers and
the request, if a fresh id can be sent, the answer to a request whose body was read has exactly one value in the field
of ids: the id that was chosen, or this id without blanks around it. The answer that tells that the body was not read
has none. -/
theorem frontController_requestId (site : Site) {dispatcher : Dispatcher} (hdispatcher : dispatcher.WritesByCalls)
    {i : Incoming} (hi : i.WellFormed) (chunks : List BodyChunk) {freshId : String}
    (hfresh : isFieldValue freshId = true) :
    let values := (frontController site dispatcher i chunks freshId).valuesOf (Text.lowerAscii requestIdHeader)
    (∀ body, readBody chunks = .ok body →
      let id := chooseRequestId (i.transport body site.config.server.https) site.config.request.allowExternalId freshId
      ∃ value, values = [value] ∧ (value = id ∨ value = Text.trim id)) ∧
    ∀ e, readBody chunks = .error e → values = [] := by
  intro values
  have hother : Text.lowerAscii requestIdHeader ≠ "content-length" := by decide
  refine ⟨fun body hbody => ?_, fun e he => ?_⟩
  · have hvalues : values = _ := valuesOf_inAnswerTo hother _ _
    rw [hvalues, hbody]
    exact exists_valuesOf_answer site hdispatcher _ _ (Incoming.isFieldValue_requestId hi body _ _ hfresh)
  · show (frontController site dispatcher i chunks freshId).valuesOf _ = []
    rw [frontController_of_error site dispatcher i freshId he, valuesOf_inAnswerTo hother]
    rfl

/-- The settings of a site whose clients may choose ids. -/
def ownIds : SiteConfig := { request := { legacyEncoding := "", allowExternalId := true } }

theorem exists_compile_ownIds [MultiByteDecoders] : ∃ site, Site.compile ownIds = .ok site ∧ site.config = ownIds :=
  Site.exists_compile_config (by decide +kernel)

/-- A request that brings its id. -/
def broughtId : Incoming :=
  ⟨"POST", .parse "/wiki/A", .v4 0xC6336414#32, [("X-Request-Id", Text.encode "r1")]⟩

theorem wellFormed_broughtId : broughtId.WellFormed := by decide +kernel

theorem frontController_requestId_brought : ∃ site, Site.compile ownIds = .ok site ∧
    (Dispatcher.ofSite site).WritesByCalls ∧ broughtId.WellFormed ∧ isFieldValue "f00d" = true ∧
    (frontController site (.ofSite site) broughtId [.data (Text.encode "action=submit&")] "f00d").valuesOf
      (Text.lowerAscii requestIdHeader) = ["r1"] := by
  obtain ⟨site, hsite, hconfig⟩ := exists_compile_ownIds
  have hdispatcher := writesByCalls_ofSite site
  have hfresh : isFieldValue "f00d" = true := by decide
  have hread : readBody [.data (Text.encode "action=submit&")] = .ok (Text.encode "action=submit&") := by decide +kernel
  obtain ⟨value, hvalue, hid⟩ := (frontController_requestId site hdispatcher wellFormed_broughtId
    [.data (Text.encode "action=submit&")] hfresh).1 _ hread
  refine ⟨site, hsite, hdispatcher, wellFormed_broughtId, hfresh, ?_⟩
  rw [hvalue]
  have hchosen : chooseRequestId (broughtId.transport (Text.encode "action=submit&") ownIds.server.https) true "f00d" =
      "r1" := by decide +kernel
  rw [hconfig] at hid
  rcases hid with rfl | rfl
  · exact congrArg (fun id => [id]) hchosen
  · exact congrArg (fun id => [Text.trim id]) hchosen

/-- **An answer without an id.** A body that is one byte too long, and one whose connection fails, are told to the
client without the id that came with the request. -/
theorem frontController_unread_body : ∃ site, Site.compile ownIds = .ok site ∧
    let long := frontController site (.ofSite site) broughtId [.data (List.replicate (maxBody + 1) 0x61)] "f00d"
    let interrupted := frontController site (.ofSite site) broughtId
      [.data (Text.encode "action=submit&"), .failure "client went away"] "f00d"
    site.config.request.allowExternalId = true ∧ broughtId.WellFormed ∧
    (long.status = 413 ∧ long.valuesOf (Text.lowerAscii requestIdHeader) = []) ∧
    (interrupted.status = 400 ∧ interrupted.valuesOf (Text.lowerAscii requestIdHeader) = []) := by
  obtain ⟨site, hsite, hconfig⟩ := exists_compile_ownIds
  have hlong : readBody [.data (List.replicate (maxBody + 1) 0x61)] = .error .tooLong := by
    rw [readBody, readChunks, List.length_replicate, if_pos (Nat.lt_succ_self _)]
    rfl
  have hinterrupted : readBody [.data (Text.encode "action=submit&"), .failure "client went away"] =
      .error (.interrupted "client went away") := by decide +kernel
  refine ⟨site, hsite, by rw [hconfig]; rfl, wellFormed_broughtId, ?_⟩
  rw [frontController_of_error site _ _ _ hlong, frontController_of_error site _ _ _ hinterrupted]
  decide +kernel

end WikiGateway
