import Mathlib.Data.List.Pairwise
import WikiGateway.Proofs.Http.Response
import WikiGateway.Proofs.Request.Cookies

/-!
# The fields of cookies that are written more than once

A handler may set a cookie again, or clear it. What is read back is the last write of each name (`SetCookie.latest`),
and so is what a recorded response sends. A response that is sent at once keeps the field of every write.

* `latest_concat`, `filter_latest`, `latest_eq_self_iff`: the last writes of a list, one for each name.
* `Response.Wrote`: what either kind of response knows of the cookies that were written; `Wrote.apply` and `wrote_run`
  keep this up over one call and over a run of calls.
* `Wrote.cookie?_eq`, `Wrote.fields_recorded`: what is read back, and what a recorded response sends.
* `cookie_fields_of_run`: the fields that are sent after any calls that write cookies.
-/

namespace WikiGateway

/-! ## Last writes -/

namespace SetCookie

/-- The cookies whose name is not written again later. -/
def latest (cookies : List SetCookie) : List SetCookie := cookies.pwFilter fun c later => c.fullName ≠ later.fullName

/-- The last write of a name. -/
def latest? (cookies : List SetCookie) (name : String) : Option SetCookie :=
  cookies.reverse.find? (·.fullName == name)

/-- The header field that sets a cookie. -/
def headerField (c : SetCookie) : String × String := (setCookieField, c.field)

theorem latest_cons (first : SetCookie) (later : List SetCookie) :
    latest (first :: later) =
      if ∀ other ∈ latest later, first.fullName ≠ other.fullName then first :: latest later else latest later := rfl

/-- A cookie that is written takes the earlier ones of its name away. -/
theorem latest_concat (cookies : List SetCookie) (c : SetCookie) :
    latest (cookies ++ [c]) = (latest cookies).filter (·.fullName != c.fullName) ++ [c] := by
  induction cookies with
  | nil => rfl
  | cons first later ih =>
    have hnew : (∀ other ∈ (latest later).filter (·.fullName != c.fullName) ++ [c], first.fullName ≠ other.fullName) ↔
        (∀ other ∈ latest later, first.fullName ≠ other.fullName) ∧ first.fullName ≠ c.fullName := by
      simp only [List.forall_mem_append, List.forall_mem_singleton, List.forall_mem_filter]
      refine and_congr_left fun hne => forall₂_congr fun other _ => ⟨fun h hsame => ?_, fun h _ => h⟩
      exact h (bne_iff_ne.mpr (hsame ▸ hne)) hsame
    rw [List.cons_append, latest_cons, latest_cons, ih]
    simp only [hnew]
    by_cases hlater : ∀ other ∈ latest later, first.fullName ≠ other.fullName
    · by_cases hsame : first.fullName = c.fullName
      · rw [if_neg (fun h => h.2 hsame), if_pos hlater, List.filter_cons_of_neg (by simp [hsame])]
      · rw [if_pos ⟨hlater, hsame⟩, if_pos hlater, List.filter_cons_of_pos (by simp [hsame]), List.cons_append]
    · rw [if_neg (fun h => hlater h.1), if_neg hlater]

theorem latest?_concat (cookies : List SetCookie) (c : SetCookie) (name : String) :
    latest? (cookies ++ [c]) name = if c.fullName = name then some c else latest? cookies name := by
  rw [latest?, List.reverse_append, List.reverse_singleton, List.singleton_append, List.find?_cons, latest?]
  by_cases hname : c.fullName = name
  · simp [hname]
  · rw [beq_eq_false_iff_ne.mpr hname, if_neg hname]

/-- Of each name there is the last write, and nothing else. -/
theorem filter_latest (cookies : List SetCookie) (name : String) :
    (latest cookies).filter (·.fullName == name) = (latest? cookies name).toList := by
  induction cookies using List.reverseRecOn with
  | nil => rfl
  | append_singleton cookies c ih =>
    rw [latest_concat, List.filter_append, List.filter_filter, latest?_concat]
    by_cases hname : c.fullName = name
    · subst hname
      simp
    · have hkept : ∀ other : SetCookie,
          (other.fullName == name && other.fullName != c.fullName) = (other.fullName == name) := by
        grind
      simp only [hkept, ih, if_neg hname]
      simp [hname]

/-- All writes are last writes exactly if no name is written twice. -/
theorem latest_eq_self_iff (cookies : List SetCookie) : latest cookies = cookies ↔ (cookies.map fullName).Nodup :=
  List.pwFilter_eq_self.trans List.pairwise_map.symm

/-- The last writes are looked up as all of them are from the end. -/
theorem find?_latest (cookies : List SetCookie) (name : String) :
    (latest cookies).find? (·.fullName == name) = latest? cookies name := by
  rw [← List.head?_filter, filter_latest, Option.head?_toList]

theorem isSome_latest?_iff {cookies : List SetCookie} {name : String} :
    (latest? cookies name).isSome = true ↔ name ∈ cookies.map fullName := by
  simp [latest?, List.find?_isSome]

end SetCookie

/-! ## Calls that write cookies -/

namespace ResponseCall

/-- The cookie that a call writes. -/
def cookie? : ResponseCall → Option SetCookie
  | setCookie name value options => some ⟨options, name, value⟩
  | clearCookie name options => some ⟨options.expired, name, ""⟩
  | _ => none

/-- Whether a call takes a line of the header. -/
def isLine : ResponseCall → Bool
  | header _ _ _ => true
  | _ => false

/-- A call that takes no line, and whose cookie, if it writes one, can be sent. -/
def WithoutLine (call : ResponseCall) : Prop :=
  call.isLine = false ∧ ∀ c ∈ call.cookie?, isFieldValue c.field = true

instance : DecidablePred WithoutLine := fun call =>
  inferInstanceAs (Decidable (call.isLine = false ∧ ∀ c ∈ call.cookie?, isFieldValue c.field = true))

/-- What calls write can be sent. -/
theorem isFieldValue_of_withoutLine {calls : List ResponseCall} (hcalls : ∀ call ∈ calls, call.WithoutLine) :
    ∀ c ∈ calls.filterMap cookie?, isFieldValue c.field = true := by
  intro c hc
  obtain ⟨call, hcall, hcookie⟩ := List.mem_filterMap.mp hc
  exact (hcalls call hcall).2 c hcookie

end ResponseCall

/-! ## What a response knows -/

/-- What a response to which cookies were written and no lines has of them. -/
def Response.Wrote (cookies : List SetCookie) : Response → Prop
  | sent r => r.message.fields = cookies.map SetCookie.headerField ∧
      r.cookies = (SetCookie.latest cookies).map fun c => (c.fullName, c.value)
  | recorded r => r.fields = [] ∧
      r.cookies = (SetCookie.latest cookies).map fun c => ⟨c.fullName, c.value, c.options⟩

/-- Whether a response is recorded before it is sent. -/
def Response.isRecorded : Response → Bool
  | sent _ => false
  | recorded _ => true

/-- No call changes the kind of a response. -/
theorem Response.isRecorded_run (r : Response) (calls : List ResponseCall) :
    (r.run calls).isRecorded = r.isRecorded := by
  induction calls using List.reverseRecOn with
  | nil => rfl
  | append_singleton calls call ih =>
    rw [run_concat, ← ih]
    cases call <;> cases r.run calls <;> rfl

namespace Response.Wrote

variable {r : Response} {cookies : List SetCookie}

/-- A cookie that can be sent is added to the others. -/
theorem setCookie (h : r.Wrote cookies) {c : SetCookie} (hsendable : isFieldValue c.field = true) :
    (r.setCookie c.name c.value c.options).Wrote (cookies ++ [c]) := by
  have hlatest := SetCookie.latest_concat cookies c
  cases r with
  | sent r =>
    obtain ⟨hfields, hcookies⟩ := h
    have hafter : r.setCookie c.name c.value c.options =
        ⟨r.message.addField setCookieField c.field,
          r.cookies.filter (·.1 != c.fullName) ++ [(c.fullName, c.value)]⟩ := if_pos hsendable
    show (Response.sent (r.setCookie c.name c.value c.options)).Wrote _
    rw [hafter]
    refine ⟨?_, ?_⟩
    · show r.message.fields ++ [(setCookieField, c.field)] = _
      rw [hfields, List.map_append, List.map_singleton, SetCookie.headerField]
    · rw [hcookies, hlatest, List.map_append, List.filter_map, List.map_singleton]
      rfl
  | recorded r =>
    obtain ⟨hfields, hcookies⟩ := h
    refine ⟨hfields, ?_⟩
    show r.cookies.filter (·.fullName != c.fullName) ++ [⟨c.fullName, c.value, c.options⟩] = _
    rw [hcookies, hlatest, List.map_append, List.filter_map, List.map_singleton]
    rfl

/-- One call keeps this up. -/
theorem apply (h : r.Wrote cookies) {call : ResponseCall} (hcall : call.WithoutLine) :
    (call.apply r).Wrote (cookies ++ call.cookie?.toList) := by
  cases call with
  | header line replace status => cases hcall.1
  | setStatus code =>
    show (r.setStatus code).Wrote (cookies ++ [])
    rw [List.append_nil]
    cases r with
    | sent r => exact ⟨(r.message.fields_setStatus code).trans h.1, h.2⟩
    | recorded r => exact h
  | setCookie name value options => exact h.setCookie (hcall.2 _ rfl)
  | clearCookie name options => exact h.setCookie (hcall.2 _ rfl)
  | write chunk =>
    show (r.write chunk).Wrote (cookies ++ [])
    rw [List.append_nil]
    cases r <;> exact h

/-- The value that is read back is that of the last write. -/
theorem cookie?_eq (h : r.Wrote cookies) (name : String) :
    r.cookie? name = (SetCookie.latest? cookies name).map SetCookie.value := by
  rw [← SetCookie.find?_latest]
  cases r with
  | sent r =>
    rw [Response.cookie?, SentResponse.cookie?, h.2, List.find?_map, Option.map_map]
    rfl
  | recorded r =>
    rw [Response.cookie?, RecordedResponse.findCookie?, h.2, List.find?_map, Option.map_map]
    rfl

/-- A recorded response sends the last writes, and one that is sent at once sends all. -/
theorem fields_toMessage (h : r.Wrote cookies) (hsendable : ∀ c ∈ cookies, isFieldValue c.field = true) :
    r.toMessage.fields =
      (if r.isRecorded then SetCookie.latest cookies else cookies).map SetCookie.headerField := by
  cases r with
  | sent r => exact h.1
  | recorded r =>
    obtain ⟨hfields, hcookies⟩ := h
    have htexts : cookieTexts r.cookies = (SetCookie.latest cookies).map SetCookie.field := by
      rw [hcookies, cookieTexts, List.map_map]
      refine List.map_congr_left fun c _ => ?_
      exact congrArg (c.options.fieldValue · c.value) (Simulates.name_recordedCookie c.name c.value c.options)
    have hlatest : ∀ text ∈ cookieTexts r.cookies, isFieldValue text = true := by
      rw [htexts, List.forall_mem_map]
      exact fun c hc => hsendable c (List.pwFilter_subset cookies hc)
    have hempty : (SentResponse.setStatus {} r.status).message.fields = [] := Message.fields_setStatus _ _
    show r.toSent.message.fields = _
    rw [RecordedResponse.toSent, hfields, List.foldl_nil, SentResponse.write, message_foldl_setCookie hlatest, htexts,
      hempty, List.nil_append, List.map_map]
    rfl

end Response.Wrote

/-- A run of calls keeps this up. -/
theorem wrote_run {r : Response} (h : r.Wrote []) {calls : List ResponseCall}
    (hcalls : ∀ call ∈ calls, call.WithoutLine) : (r.run calls).Wrote (calls.filterMap ResponseCall.cookie?) := by
  induction calls using List.reverseRecOn with
  | nil => exact h
  | append_singleton calls call ih =>
    obtain ⟨hcalls, hcall⟩ := List.forall_mem_append.mp hcalls
    rw [Response.run_concat, filterMap_concat]
    exact (ih hcalls).apply (List.forall_mem_singleton.mp hcall)

/-- **The fields of cookies.** After calls that take no line and whose cookies can be sent, the last write of a name is
the value that both kinds of response read back. A recorded response sends the last writes, of which each name that was
written has one. A response that is sent at once sends the field of every write, which comes to the same exactly if no
name was written twice. -/
theorem cookie_fields_of_run (calls : List ResponseCall) (hcalls : ∀ call ∈ calls, call.WithoutLine) :
    let writes := calls.filterMap ResponseCall.cookie?
    let sent := (Response.sent {}).run calls
    let recorded := (Response.recorded {}).run calls
    recorded.toMessage.fields = (SetCookie.latest writes).map SetCookie.headerField ∧
    sent.toMessage.fields = writes.map SetCookie.headerField ∧
    (∀ name, (SetCookie.latest writes).filter (·.fullName == name) = (SetCookie.latest? writes name).toList ∧
      ((SetCookie.latest? writes name).isSome = true ↔ name ∈ writes.map SetCookie.fullName) ∧
      sent.cookie? name = (SetCookie.latest? writes name).map SetCookie.value ∧
      recorded.cookie? name = (SetCookie.latest? writes name).map SetCookie.value) ∧
    (sent.toMessage.fields = recorded.toMessage.fields ↔ (writes.map SetCookie.fullName).Nodup) := by
  intro writes sent recorded
  have hsent : sent.Wrote writes := wrote_run (r := .sent {}) ⟨rfl, rfl⟩ hcalls
  have hrecorded : recorded.Wrote writes := wrote_run (r := .recorded {}) ⟨rfl, rfl⟩ hcalls
  have hsendable := ResponseCall.isFieldValue_of_withoutLine hcalls
  have hlatest : recorded.toMessage.fields = (SetCookie.latest writes).map SetCookie.headerField := by
    rw [hrecorded.fields_toMessage hsendable, Response.isRecorded_run]
    rfl
  have hall : sent.toMessage.fields = writes.map SetCookie.headerField := by
    rw [hsent.fields_toMessage hsendable, Response.isRecorded_run]
    rfl
  refine ⟨hlatest, hall, fun name => ⟨SetCookie.filter_latest writes name, SetCookie.isSome_latest?_iff,
    hsent.cookie?_eq name, hrecorded.cookie?_eq name⟩, ?_⟩
  rw [hlatest, hall, ← SetCookie.latest_eq_self_iff]
  refine ⟨fun h => ?_, fun h => by rw [h]⟩
  -- the last writes are among all writes in their order, so there are as many only if they are the same
  have hlength := congrArg List.length h
  rw [List.length_map, List.length_map] at hlength
  exact (List.pwFilter_sublist writes).eq_of_length hlength.symm

/-- Calls that set a token, another cookie and a status, and then clear the token. -/
def tokenCalls : List ResponseCall :=
  [.setCookie "Token" "a" { namePrefix := "wiki", path := "/" }, .setCookie "lang" "de" {}, .setStatus 302,
    .clearCookie "Token" { namePrefix := "wiki", path := "/" }]

theorem cookie_fields_of_run_token :
    (∀ call ∈ tokenCalls, call.WithoutLine) ∧
      ((Response.recorded {}).run tokenCalls).toMessage.fields =
        [(setCookieField, "lang=de"), (setCookieField, "wikiToken=; Max-Age=0; Path=/")] ∧
      ((Response.sent {}).run tokenCalls).cookie? "wikiToken" = some "" ∧
      ((Response.recorded {}).run tokenCalls).cookie? "wikiToken" = some "" := by
  have hcalls : ∀ call ∈ tokenCalls, call.WithoutLine := by decide +kernel
  obtain ⟨hlatest, -, hread, -⟩ := cookie_fields_of_run tokenCalls hcalls
  refine ⟨hcalls, ?_, ?_, ?_⟩
  · rw [hlatest]
    decide +kernel
  · rw [(hread "wikiToken").2.2.1]
    decide +kernel
  · rw [(hread "wikiToken").2.2.2]
    decide +kernel

/-- The token that is cleared is set as well where the response is sent at once. -/
theorem cookie_fields_set_and_cleared :
    (∀ call ∈ tokenCalls, call.WithoutLine) ∧
      ((Response.sent {}).run tokenCalls).toMessage.fields =
        [(setCookieField, "wikiToken=a; Path=/"), (setCookieField, "lang=de"),
          (setCookieField, "wikiToken=; Max-Age=0; Path=/")] ∧
      ((Response.sent {}).run tokenCalls).cookie? "wikiToken" = some "" := by
  decide +kernel

end WikiGateway
