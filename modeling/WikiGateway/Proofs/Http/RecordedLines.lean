import WikiGateway.Proofs.Http.Response

/-!
# Recorded fields as they are sent

A recorded response keeps every field that it was given, with its name in upper case, and writes each as a line that is
read once more when the response is sent. The fields come out as those that can be sent (`sendable?`). A name that
starts as status lines do cannot be sent, but its line is then read as one and may set the status (`strayStatus?`).

* `FromLines`: what a response has recorded of lines and statuses; `FromLines.apply` and `fromLines_run` keep this up
  over one call and over a run of calls.
* `header_again`, `foldl_header_again`: what is added to a message when one recorded field is read once more, and when
  all are.
* `message_of_lines`: the message of a response to which only lines and statuses were given.
* `status_of_stray_line`: a line that changes the status.
-/

namespace WikiGateway

/-! ## Calls that give lines and statuses -/

/-- What is read of a line has three digits, if it is a status. -/
def HeaderLine.InRange : HeaderLine → Prop
  | status code => isStatusCode code = true
  | field _ _ => True

instance : DecidablePred HeaderLine.InRange
  | .status code => inferInstanceAs (Decidable (isStatusCode code = true))
  | .field _ _ => inferInstanceAs (Decidable True)

/-- A call that gives a line or a status, and no status but of three digits. -/
def ResponseCall.OfHead : ResponseCall → Prop
  | header line _ status => (∀ read ∈ parseHeaderLine? line, read.InRange) ∧ ∀ code ∈ status, isStatusCode code = true
  | setStatus code => isStatusCode code = true
  | _ => False

instance : DecidablePred ResponseCall.OfHead
  | .header line _ status =>
    inferInstanceAs (Decidable ((∀ read ∈ parseHeaderLine? line, read.InRange) ∧
      ∀ code ∈ status, isStatusCode code = true))
  | .setStatus code => inferInstanceAs (Decidable (isStatusCode code = true))
  | .setCookie _ _ _ | .clearCookie _ _ | .write _ => inferInstanceAs (Decidable False)

/-! ## What is recorded of them -/

/-- What a response has recorded of lines and statuses. -/
structure FromLines (r : RecordedResponse) : Prop where
  status : isStatusCode r.status = true
  fields : ∀ entry ∈ r.fields, IsReadName entry.1 ∧ Text.trim entry.2 = entry.2
  cookies : r.cookies = []
  body : r.body = []

namespace FromLines

variable {r : RecordedResponse}

theorem empty : FromLines {} := by
  refine ⟨rfl, ?_, rfl, rfl⟩
  intro entry h
  cases h

theorem setStatus (h : FromLines r) {code : Nat} (hcode : isStatusCode code = true) :
    FromLines { r with code := some code } :=
  ⟨hcode, h.fields, h.cookies, h.body⟩

/-- The field of a line. -/
theorem field (h : FromLines r) {line name value : String} (hread : parseHeaderLine? line = some (.field name value))
    (replace : Bool) : FromLines (r.field name value replace) := by
  obtain ⟨hname, hvalue⟩ := of_parseHeaderLine? hread
  refine ⟨h.status, List.forall_mem_append.mpr ⟨fun entry hentry => ?_, ?_⟩, h.cookies, h.body⟩
  · cases replace with
    | false => exact h.fields entry hentry
    | true => exact h.fields entry (List.mem_filter.mp hentry).1
  · rw [List.forall_mem_singleton, Text.trim, hvalue, String.ofList_toList]
    exact ⟨hname.upperAscii, rfl⟩

/-- A line and then a status. -/
theorem header (h : FromLines r) {line : String} (hread : ∀ read ∈ parseHeaderLine? line, read.InRange)
    (replace : Bool) {status : Option Nat} (hstatus : ∀ code ∈ status, isStatusCode code = true) :
    FromLines (r.header line replace status) := by
  have hline : FromLines (r.header line replace none) := by
    rw [RecordedResponse.header]
    cases hparse : parseHeaderLine? line with
    | none => exact h
    | some read =>
      cases read with
      | status code => exact h.setStatus (hread _ hparse)
      | field name value => exact h.field hparse replace
  cases status with
  | none => exact hline
  | some code => exact hline.setStatus (hstatus code rfl)

/-- One call keeps this up. -/
theorem apply (h : FromLines r) {call : ResponseCall} (hcall : call.OfHead) :
    ∃ r', call.apply (.recorded r) = .recorded r' ∧ FromLines r' := by
  cases call with
  | header line replace status => exact ⟨_, rfl, h.header hcall.1 replace hcall.2⟩
  | setStatus code => exact ⟨_, rfl, h.setStatus hcall⟩
  | setCookie name value options => cases hcall
  | clearCookie name options => cases hcall
  | write chunk => cases hcall

end FromLines

/-- A run of calls keeps this up. -/
theorem fromLines_run {calls : List ResponseCall} (hcalls : ∀ call ∈ calls, call.OfHead) :
    ∃ r, (Response.recorded {}).run calls = .recorded r ∧ FromLines r := by
  induction calls using List.reverseRecOn with
  | nil => exact ⟨_, rfl, .empty⟩
  | append_singleton calls call ih =>
    obtain ⟨hcalls, hcall⟩ := List.forall_mem_append.mp hcalls
    obtain ⟨r, hr, h⟩ := ih hcalls
    obtain ⟨r', hr', h'⟩ := h.apply (List.forall_mem_singleton.mp hcall)
    exact ⟨r', by rw [Response.run_concat, hr, hr'], h'⟩

/-! ## What is read once more -/

/-- The field that is sent for one that is recorded, if its name and its value can be sent. -/
def sendable? (entry : String × String) : Option (String × String) :=
  (fieldToken? entry.1).bind fun token => if isFieldValue entry.2 then some (token, entry.2) else none

/-- A recorded name that starts as status lines do. -/
def IsStray (entry : String × String) : Prop := "HTTP/".toList <+: entry.1.toList

instance : DecidablePred IsStray := fun entry => inferInstanceAs (Decidable (_ <+: entry.1.toList))

/-- The status that the line of a recorded field sets: its second word, if the name starts as status lines do. -/
def strayStatus? (entry : String × String) : Option Nat :=
  if IsStray entry then
    ((blankWords (entry.1 ++ ": " ++ entry.2).toList)[1]?.bind statusNumber?).filter isStatusCode
  else none

/-- No field is sent of a name that starts as status lines do. -/
theorem sendable?_of_isStray {entry : String × String} (h : IsStray entry) : sendable? entry = none := by
  have hnone : fieldToken? entry.1 = none := by
    rw [Option.eq_none_iff_forall_ne_some]
    intro token htoken
    exact not_prefix_of_isToken (fieldToken?_eq_some_iff.mp htoken).1.1 h
  rw [sendable?, hnone]
  rfl

/-- A recorded field is read once more. -/
theorem header_again {entry : String × String} (hname : IsReadName entry.1) (hvalue : Text.trim entry.2 = entry.2)
    (s : SentResponse) : s.header (entry.1 ++ ": " ++ entry.2) false none =
      { s with message := { s.message with
          status := (strayStatus? entry).getD s.message.status
          fields := s.message.fields ++ (sendable? entry).toList } } := by
  have hread : parseHeaderLine? (entry.1 ++ ": " ++ entry.2) = if IsStray entry then
      ((blankWords (entry.1 ++ ": " ++ entry.2).toList)[1]?.bind statusNumber?).map .status
    else some (.field entry.1 (Text.trim entry.2)) := hname.parseHeaderLine?_eq entry.2
  rw [SentResponse.header, hread, strayStatus?]
  by_cases hstray : IsStray entry
  · rw [if_pos hstray, if_pos hstray, sendable?_of_isStray hstray]
    cases (blankWords (entry.1 ++ ": " ++ entry.2).toList)[1]?.bind statusNumber? with
    | none => simp
    | some code => by_cases hcode : isStatusCode code = true <;>
        simp [SentResponse.setStatus, Message.setStatus, Option.filter, hcode]
  · rw [if_neg hstray, if_neg hstray, hvalue]
    cases htoken : fieldToken? entry.1 with
    | none => simp [SentResponse.field, sendable?, htoken]
    | some token => by_cases hsent : isFieldValue entry.2 = true <;>
        simp [SentResponse.field, sendable?, htoken, hsent, Message.addField]

/-- All recorded fields are read once more: those that can be sent are, and the last stray status counts. -/
theorem foldl_header_again : ∀ {fields : List (String × String)},
    (∀ entry ∈ fields, IsReadName entry.1 ∧ Text.trim entry.2 = entry.2) → ∀ s : SentResponse,
      fields.foldl (fun s (name, value) => s.header (name ++ ": " ++ value) false none) s =
        { s with message := { s.message with
            status := (fields.filterMap strayStatus?).getLast?.getD s.message.status
            fields := s.message.fields ++ fields.filterMap sendable? } }
  | [], _, s => by simp
  | entry :: fields, h, s => by
    obtain ⟨⟨hname, hvalue⟩, hrest⟩ := List.forall_mem_cons.mp h
    have hfirst := header_again hname hvalue s
    show fields.foldl _ (s.header (entry.1 ++ ": " ++ entry.2) false none) = _
    rw [hfirst, foldl_header_again hrest]
    cases hstray : strayStatus? entry <;> cases hsent : sendable? entry <;>
      simp [hstray, hsent, List.getLast?_cons]

/-- **Recorded lines as they are sent.** Lines and statuses of three digits are given to a response that records them.
Its message has the recorded fields whose name and value can be sent, in their order, and no others. Its status is the
one that the response shows, unless recorded names start as status lines do: then it is the last status of three digits
that their lines have for their second word. -/
theorem message_of_lines {calls : List ResponseCall} (hcalls : ∀ call ∈ calls, call.OfHead) :
    ∃ r, (Response.recorded {}).run calls = .recorded r ∧
      (Response.recorded r).toMessage =
        ⟨(r.fields.filterMap strayStatus?).getLast?.getD r.status, r.fields.filterMap sendable?, []⟩ ∧
      ((∀ entry ∈ r.fields, ¬ IsStray entry) →
        (Response.recorded r).toMessage.status = (Response.recorded r).status) := by
  obtain ⟨r, hr, h⟩ := fromLines_run hcalls
  have hstart : SentResponse.setStatus {} r.status = { message := { status := r.status } } := by
    rw [SentResponse.setStatus, Message.setStatus, if_pos h.status]
  have hmessage : (Response.recorded r).toMessage =
      ⟨(r.fields.filterMap strayStatus?).getLast?.getD r.status, r.fields.filterMap sendable?, []⟩ := by
    show r.toSent.message = _
    rw [RecordedResponse.toSent, foldl_header_again h.fields, h.cookies, h.body, hstart]
    rfl
  refine ⟨r, hr, hmessage, fun hnone => ?_⟩
  have hstatuses : r.fields.filterMap strayStatus? = [] :=
    List.filterMap_eq_nil_iff.mpr fun entry hentry => if_neg (hnone entry hentry)
  rw [hmessage, hstatuses]
  rfl

/-- A status line, fields of which some cannot be sent, and a status. -/
def headCalls : List ResponseCall :=
  [.header "HTTP/1.1 404 Not Found" true none, .header "Content-Language: en" true none,
    .header "two words: x" false none, .header "content-language: de" false none, .setStatus 410]

theorem message_of_lines_page : (∀ call ∈ headCalls, call.OfHead) ∧
    ∃ r, (Response.recorded {}).run headCalls = .recorded r ∧ (∀ entry ∈ r.fields, ¬ IsStray entry) ∧
      (Response.recorded r).toMessage = ⟨410, [("content-language", "en"), ("content-language", "de")], []⟩ ∧
      (Response.recorded r).toMessage.status = (Response.recorded r).status := by
  have hcalls : ∀ call ∈ headCalls, call.OfHead := by decide +kernel
  obtain ⟨r, hr, hmessage, hstatus⟩ := message_of_lines hcalls
  have hrecorded : r =
      ⟨some 410, [("CONTENT-LANGUAGE", "en"), ("TWO WORDS", "x"), ("CONTENT-LANGUAGE", "de")], [], []⟩ :=
    Response.recorded.inj (hr.symm.trans (by decide +kernel))
  have hnone : ∀ entry ∈ r.fields, ¬ IsStray entry := by
    rw [hrecorded]
    decide +kernel
  refine ⟨hcalls, r, hr, hnone, ?_, hstatus hnone⟩
  rw [hmessage, hrecorded]
  decide +kernel

/-- **A field that sets the status.** Its line is no status line as long as its letters are small. It is recorded in
capital letters, and then it is read as one. -/
theorem status_of_stray_line :
    let calls := [ResponseCall.header "http/1.1: 404" true none]
    (∀ call ∈ calls, call.OfHead) ∧ ((Response.recorded {}).run calls).status = 200 ∧
      ((Response.recorded {}).run calls).toMessage.status = 404 ∧
      ((Response.sent {}).run calls).toMessage.status = 200 := by
  decide +kernel

end WikiGateway
