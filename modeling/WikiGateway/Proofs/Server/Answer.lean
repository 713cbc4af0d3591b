import WikiGateway.Proofs.Net.Listed
import WikiGateway.Proofs.Request.Description
import WikiGateway.Proofs.Request.Origin
import WikiGateway.Proofs.Text.Utf8
import WikiGateway.Server.FrontController

/-!
# Answers to requests

A request on the wire is answered in one of four ways (`Answered`, `answered_answer`): it has no URL, its client is not
known, its entry point has no handler, or it is described. The first three are told in plain text. A dispatcher that is
made for a site knows the entry points of this site and no others (`Dispatcher.handler?_ofSite`); the request may be for
another site, which went live later.

* `Site.Refuses`, `Site.LeadsNowhere`: the requests that get the statuses 400 and 404.
* `Answered.unknown_iff`: the requests that are told that their entry point is unknown.
* `Site.Describes`: the messages whose body is the description of a request.
* `Answered.refused_or_described`: the status and the body of the others.
* `answer_status`: the status and the body for a site whose own dispatcher answers.
-/

namespace WikiGateway

/-! ## Handlers -/

namespace Dispatcher

theorem handler?_register (d : Dispatcher) (name other : String) (handler : Handler) :
    (d.register name handler).handler? other = if name = other then some handler else d.handler? other := by
  unfold handler? register
  rw [List.find?_cons]
  split
  next h => rw [if_pos (beq_iff_eq.mp h), Option.map_some]
  next h => rw [if_neg (beq_eq_false_iff_ne.mp h)]

theorem handler?_registerAll (handler : Handler) (other : String) : ∀ (names : List String) (d : Dispatcher),
    (d.registerAll names handler).handler? other = if other ∈ names then some handler else d.handler? other
  | [], d => by simp [registerAll]
  | name :: names, d => by
    show ((d.register name handler).registerAll names handler).handler? other = _
    rw [handler?_registerAll handler other names, handler?_register]
    grind

/-- The entry points of a site are described, and no others. -/
theorem handler?_ofSite (site : Site) (name : String) :
    (ofSite site).handler? name = if name ∈ site.entryPoints.names then some describeHandler else none := by
  have hempty : ({} : Dispatcher).handler? name = none := rfl
  rw [ofSite, handler?_register, handler?_registerAll, hempty, EntryPointTable.names]
  grind

/-- A request for one of these entry points is described, if its client is known. -/
theorem dispatch_of_mem {site : Site} {r : Request} {d : Description} (h : r.entryName ∈ site.entryPoints.names)
    (hd : r.describe = .ok d) : (ofSite site).dispatch r = ({ r with response := r.writeDescription d }, none) := by
  rw [dispatch, handler?_ofSite, if_pos h]
  simp only [describeHandler, hd, Option.map_none]

theorem dispatch_of_not_mem {site : Site} {r : Request} (h : r.entryName ∉ site.entryPoints.names) :
    (ofSite site).dispatch r = (r, some (.unknownEntryPoint r.entryName)) := by
  rw [dispatch, handler?_ofSite, if_neg h]

end Dispatcher

/-! ## Responses -/

/-- A header line that is no status line leaves the status and the body as they are. -/
theorem SentResponse.header_of_field {line : String} (h : Text.dropPrefix? "HTTP/".toList line.toList = none)
    (s : SentResponse) (replace : Bool) :
    (s.header line replace none).message.status = s.message.status ∧
      (s.header line replace none).message.body = s.message.body := by
  have hfield : ∀ name value, (s.field name value replace).message.status = s.message.status ∧
      (s.field name value replace).message.body = s.message.body := by
    intro name value
    unfold field
    split
    next => exact ⟨rfl, rfl⟩
    next =>
      split
      next => exact ⟨rfl, rfl⟩
      next => cases replace <;> exact ⟨rfl, rfl⟩
  unfold header
  cases hline : parseHeaderLine? line with
  | none => exact ⟨rfl, rfl⟩
  | some read =>
    cases read with
    | field name value => exact hfield name value
    | status code =>
      rw [parseHeaderLine?, h] at hline
      obtain ⟨_, -, hline⟩ := Option.bind_eq_some_iff.mp hline
      dsimp only at hline
      split at hline <;> cases hline

/-- A response for the wire that has some status and body so far. -/
def Response.Holds (status : Nat) (body : List UInt8) (r : Response) : Prop :=
  ∃ s : SentResponse, r = .sent s ∧ s.message.status = status ∧ s.message.body = body

namespace Response.Holds

variable {status : Nat} {body : List UInt8} {r : Response}

theorem header (h : Holds status body r) {line : String}
    (hline : Text.dropPrefix? "HTTP/".toList line.toList = none) (replace : Bool) :
    Holds status body (r.header line replace none) := by
  obtain ⟨s, rfl, hstatus, hbody⟩ := h
  obtain ⟨hsame, hsameBody⟩ := SentResponse.header_of_field hline s replace
  exact ⟨_, rfl, hsame.trans hstatus, hsameBody.trans hbody⟩

theorem setStatus (h : Holds status body r) {code : Nat} (hcode : isStatusCode code = true) :
    Holds code body (r.setStatus code) := by
  obtain ⟨s, rfl, -, hbody⟩ := h
  refine ⟨_, rfl, ?_, ?_⟩ <;> simp [SentResponse.setStatus, Message.setStatus, hcode, hbody]

theorem write (h : Holds status body r) (chunk : List UInt8) : Holds status (body ++ chunk) (r.write chunk) := by
  obtain ⟨s, rfl, hstatus, rfl⟩ := h
  exact ⟨_, rfl, hstatus, rfl⟩

theorem ite (c : Prop) [Decidable c] {r' : Response} (h : Holds status body r) (h' : Holds status body r') :
    Holds status body (if c then r else r') := by
  split
  · exact h
  · exact h'

theorem toMessage (h : Holds status body r) : r.toMessage.status = status ∧ r.toMessage.body = body := by
  obtain ⟨s, rfl, hs⟩ := h
  exact hs

end Response.Holds

/-- A description is sent with its status, and is the body. -/
theorem finish_writeDescription {r : Request} (hresponse : r.response = .sent {}) (d : Description)
    (requestId : String) :
    (Request.finish { r with response := r.writeDescription d } requestId).status =
        (if r.isNotFound then 404 else 200) ∧
      (Request.finish { r with response := r.writeDescription d } requestId).body = Text.encode d.toJson.pretty := by
  have hlines : Text.dropPrefix? "HTTP/".toList "Content-Type: application/json; charset=utf-8".toList = none ∧
      Text.dropPrefix? "HTTP/".toList "Access-Control-Allow-Origin: *".toList = none := ⟨rfl, rfl⟩
  have hid : Text.dropPrefix? "HTTP/".toList (requestIdHeader ++ ": " ++ requestId).toList = none := by
    rw [String.toList_append, String.toList_append]
    rfl
  have hreceived : Response.Holds 200 [] r.response := ⟨{}, hresponse, rfl, rfl⟩
  have hbegun : Response.Holds (if r.isNotFound then 404 else 200) []
      (if r.isNotFound then r.response.setStatus 404 else r.response) := by
    split
    · exact hreceived.setStatus rfl
    · exact hreceived
  have htyped := hbegun.header hlines.1 true
  have hopened := Response.Holds.ite (r.isCrossOrigin = true) (htyped.header hlines.2 true) htyped
  exact ((hopened.write (Text.encode d.toJson.pretty)).header hid true).toMessage

theorem status_rejection (requestId : String) (status : Nat) (text : String) :
    (rejection requestId status text).status = status := by
  unfold rejection
  dsimp only
  split <;> rfl

theorem body_rejection (requestId : String) (status : Nat) (text : String) :
    (rejection requestId status text).body = Text.encode text := by
  unfold rejection
  dsimp only
  split <;> rfl

/-- The method changes the body and its length, not the status. -/
theorem status_inAnswerTo (m : Message) (method : String) : (m.inAnswerTo method).status = m.status := by
  have hlength : m.withLength.status = m.status := by
    unfold Message.withLength
    split <;> rfl
  unfold Message.inAnswerTo
  split
  · rfl
  · dsimp only
    split
    · exact hlength
    · exact hlength

/-! ## Requests on the wire -/

namespace Site

/-- The address of the client of a request. -/
def clientOf (site : Site) (t : Transport) : Except ClientError IpAddress :=
  resolveClient site.proxies site.config.proxies.usePrivateAddresses t.remoteAddr (t.header? "X-Forwarded-For")

/-- The entry point of a URL and the path below it. -/
def entryOf (site : Site) (url : String) : EntryPointMatch :=
  site.entryPoints.detect (scriptPath url none (some site.config.paths.script))

/-- Whether a request has no URL, or its client is not known. -/
def Refuses (site : Site) (t : Transport) : Prop := requestUrl? t = none ∨ ∃ e, site.clientOf t = .error e

/-- Whether a request leads to no page: its entry point is the default one and takes parameters, its path is not the
home and matches no template, and no field of its body, or else of its query, is the title. -/
structure LeadsNowhere (site : Site) (t : Transport) (url : String) : Prop where
  default : (site.entryOf url).name = site.entryPoints.default
  takesParams : (site.entryOf url).name ≠ "api"
  away : (site.entryOf url).subpath ≠ "" ∧ (site.entryOf url).subpath ≠ "/"
  unmatched : ∀ template ∈ site.router.templates, template.match? (site.entryOf url).subpath = none
  untitled : ∀ text, ((FieldStore.ofTransport t site.legacyEncoding).body.get? "title").or
    ((FieldStore.ofTransport t site.legacyEncoding).query.get? "title") ≠ some (.scalar text)

/-- Whether the body of a message is the description of a request as it was routed, whose members are those of its entry
point and its client. -/
def Describes (site : Site) (t : Transport) (received : Request) (message : Message) : Prop :=
  ∃ url ip routed d, requestUrl? t = some url ∧ site.clientOf t = .ok ip ∧
    received.interpolateTitle = .ok routed ∧ routed.describe = .ok d ∧
    d.toJson = .object (site.membersOf t received.id (site.entryOf url) ip) ∧ message.body = Text.encode d.toJson.pretty

/-- The client of a request without a forwarded header is the other end of the connection. -/
theorem clientOf_of_peer (site : Site) {t : Transport} {entry : String} {a : IpAddress}
    (hremote : t.remoteAddr = some entry) (haddress : IpAddress.parse? (Text.trim entry) = some a)
    (hheader : t.header? "X-Forwarded-For" = none) : site.clientOf t = .ok a.unmapped := by
  rw [clientOf, hremote, hheader]
  exact resolveClient_of_address haddress none

end Site

section
variable {live : Site} {i : Incoming} {body : List UInt8} {https : Bool} {freshId : String}

/-- There is no path information on the wire. -/
theorem pathInfo?_receive : (Request.receive live (i.transport body https) (.sent {}) freshId).pathInfo? = none :=
  Request.pathInfo?_of_none rfl rfl

theorem interpolateTitle_receive_of_no_url (h : requestUrl? (i.transport body https) = none) :
    (Request.receive live (i.transport body https) (.sent {}) freshId).interpolateTitle = .error .noUrl :=
  Request.interpolateTitle_of_error rfl (Request.path_of_no_url pathInfo?_receive h)

/-- The address of the client, if none was chosen. -/
theorem clientIp_eq {r : Request} (h : r.chosenIp = none) :
    r.clientIp = (r.site.clientOf r.transport).mapError .client := by
  rw [Request.clientIp, h, Site.clientOf, Request.header?]
  cases resolveClient r.site.proxies r.site.config.proxies.usePrivateAddresses r.transport.remoteAddr
    (r.transport.header? "X-Forwarded-For") <;> rfl

/-- A request with a URL is routed by the entry point of this URL, and keeps its client. -/
theorem routed_receive_of_url (live : Site) (freshId : String) {url : String}
    (h : requestUrl? (i.transport body https) = some url) : ∃ routed,
      (Request.receive live (i.transport body https) (.sent {}) freshId).interpolateTitle = .ok routed ∧
      ((Request.receive live (i.transport body https) (.sent {}) freshId).enter (live.entryOf url)).Routed routed ∧
      routed.clientIp = (live.clientOf (i.transport body https)).mapError .client := by
  obtain ⟨routed, hinterpolate, hrouted⟩ := Request.routed_of_path rfl (Request.path_of_url pathInfo?_receive h)
  refine ⟨routed, hinterpolate, hrouted, ?_⟩
  rw [clientIp_eq hrouted.chosenIp_eq, hrouted.site_eq, hrouted.transport_eq]
  rfl

/-- No field is the title, in terms of those of the body and the query. -/
theorem hasText_title_ofTransport (t : Transport) (legacy : Option Encoding) :
    (FieldStore.ofTransport t legacy).hasText "title" = false ↔
      ∀ text, ((FieldStore.ofTransport t legacy).body.get? "title").or
        ((FieldStore.ofTransport t legacy).query.get? "title") ≠ some (.scalar text) := by
  have hlookup : (FieldStore.ofTransport t legacy).lookup? "title" =
      ((FieldStore.ofTransport t legacy).body.get? "title").or
        ((FieldStore.ofTransport t legacy).query.get? "title") :=
    lookup?_ofMaps _ _ (by decide)
  rw [FieldStore.hasText, FieldStore.getRaw?, hlookup]
  rcases ((FieldStore.ofTransport t legacy).body.get? "title").or
    ((FieldStore.ofTransport t legacy).query.get? "title") with _ | (text | items)
  · simp
  · simp [FieldValue.scalar?]
  · simp [FieldValue.scalar?]

/-- The requests that a handler finds to lead to no page. -/
theorem isNotFound_iff {url : String} {routed : Request}
    (h : ((Request.receive live (i.transport body https) (.sent {}) freshId).enter (live.entryOf url)).Routed routed) :
    routed.isNotFound = true ↔ live.LeadsNowhere (i.transport body https) url := by
  have hinfo := @pathInfo?_receive live i body https freshId
  have hbad : routed.badPath.isSome = true ↔ live.Loses (live.entryOf url) := by
    rw [Request.badPath_of_receive hinfo h]
    split <;> simp [*]
  have hname : routed.entryName = (live.entryOf url).name := h.entryName_eq
  have hfields : live.router.route (live.entryOf url).subpath = .nowhere →
      routed.fields = FieldStore.ofTransport (i.transport body https) live.legacyEncoding :=
    h.fields_of_nowhere hinfo
  have hsite : routed.site = live := h.site_eq
  simp only [Request.isNotFound, Bool.and_eq_true, Bool.not_eq_true', beq_iff_eq, hname, hsite, hbad]
  constructor
  · rintro ⟨⟨⟨hprogram, hempty, hslash, hunmatched⟩, hdefault⟩, htitle⟩
    rw [hfields (Router.route_eq_nowhere_iff.mpr ⟨hempty, hslash, hunmatched⟩), hasText_title_ofTransport] at htitle
    exact ⟨hdefault, hprogram, ⟨hempty, hslash⟩, hunmatched, htitle⟩
  · intro hlost
    have hnowhere := Router.route_eq_nowhere_iff.mpr ⟨hlost.away.1, hlost.away.2, hlost.unmatched⟩
    rw [hfields hnowhere, hasText_title_ofTransport]
    exact ⟨⟨⟨hlost.takesParams, hlost.away.1, hlost.away.2, hlost.unmatched⟩, hlost.default⟩, hlost.untitled⟩

/-- The ways in which a request for a live site is answered, if the dispatcher is that of a first site. -/
inductive Answered (first live : Site) (t : Transport) (received : Request) : Message → Prop
  | noUrl : requestUrl? t = none →
      Answered first live t received (rejection received.id 400 RequestError.noUrl.message)
  | noClient {url : String} {e : ClientError} : requestUrl? t = some url → live.clientOf t = .error e →
      Answered first live t received (rejection received.id 400 (RequestError.client e).message)
  | unknown {url : String} {ip : IpAddress} : requestUrl? t = some url → live.clientOf t = .ok ip →
      (live.entryOf url).name ∉ first.entryPoints.names →
      Answered first live t received
        (rejection received.id 404 (DispatchError.unknownEntryPoint (live.entryOf url).name).message)
  | described {url : String} {ip : IpAddress} {routed : Request} {d : Description} {message : Message} :
      requestUrl? t = some url → live.clientOf t = .ok ip → (live.entryOf url).name ∈ first.entryPoints.names →
      received.interpolateTitle = .ok routed → routed.describe = .ok d →
      (message.status = 404 ∧ live.LeadsNowhere t url ∨ message.status = 200 ∧ ¬ live.LeadsNowhere t url) →
      d.toJson = .object (live.membersOf t received.id (live.entryOf url) ip) →
      message.body = Text.encode d.toJson.pretty → Answered first live t received message

/-- Every request on the wire is answered in one of the four ways. -/
theorem answered_answer (first : Site) : Answered first live (i.transport body https)
    (Request.receive live (i.transport body https) (.sent {}) freshId)
    (answer live (.ofSite first) (i.transport body https) freshId) := by
  unfold answer
  dsimp only
  cases hurl : requestUrl? (i.transport body https) with
  | none =>
    rw [interpolateTitle_receive_of_no_url hurl]
    exact .noUrl hurl
  | some url =>
    obtain ⟨routed, hinterpolate, hrouted, hclient⟩ := routed_receive_of_url live freshId hurl
    have hname : routed.entryName = (live.entryOf url).name := hrouted.entryName_eq
    rw [hinterpolate]
    cases hip : live.clientOf (i.transport body https) with
    | error e =>
      rw [hip] at hclient
      simp only [hclient, Except.mapError]
      exact .noClient hurl hip
    | ok ip =>
      rw [hip] at hclient
      obtain ⟨d, hd⟩ : ∃ d, routed.describe = .ok d := by
        rw [Request.describe, hclient]
        exact ⟨_, rfl⟩
      obtain ⟨known, hknown, hmembers⟩ := Request.toJson_of_describe pathInfo?_receive hrouted hd
      obtain rfl : known = ip := Except.ok.inj (hknown.symm.trans hclient)
      by_cases hmem : (live.entryOf url).name ∈ first.entryPoints.names
      · have hresponse : routed.response = .sent {} := hrouted.response_eq
        simp only [hclient, Except.mapError, Dispatcher.dispatch_of_mem (hname ▸ hmem) hd]
        refine .described hurl hip hmem hinterpolate hd ?_ hmembers (finish_writeDescription hresponse d _).2
        rw [(finish_writeDescription hresponse d _).1, ← isNotFound_iff hrouted]
        cases routed.isNotFound <;> simp
      · simp only [hclient, Except.mapError, Dispatcher.dispatch_of_not_mem (hname ▸ hmem), hname]
        exact .unknown hurl hip hmem

end

/-! ## Bodies -/

/-- Texts that start differently are different bodies. -/
theorem encode_ne_of_head? {s t : String} (h : s.toList.head? ≠ t.toList.head?) : Text.encode s ≠ Text.encode t := by
  intro heq
  have hdecode := congrArg Text.decode? heq
  rw [Text.decode?_encode, Text.decode?_encode, Option.some.injEq] at hdecode
  exact h (hdecode ▸ rfl)

theorem head?_append {s : String} {c : Char} (h : s.toList.head? = some c) (t : String) :
    (s ++ t).toList.head? = some c := by
  rw [String.toList_append, List.head?_append, h, Option.some_or]

theorem head?_unknownEntryPoint (name : String) :
    (DispatchError.unknownEntryPoint name).message.toList.head? = some 'n' :=
  head?_append (head?_append rfl name) "'"

theorem head?_requestError (e : RequestError) : e.message.toList.head? ≠ some 'n' := by
  rcases e with _ | (_ | remote | header | _)
  · decide
  · decide
  · have hhead : (ClientError.severalAddresses remote).message.toList.head? = some 'c' :=
      head?_append (head?_append rfl remote) "'"
    exact ne_of_eq_of_ne hhead (by decide)
  · have hhead : (ClientError.invalidHeader header).message.toList.head? = some 'i' :=
      head?_append (head?_append rfl header) "'"
    exact ne_of_eq_of_ne hhead (by decide)
  · decide

theorem head?_description (d : Description) : d.toJson.pretty.toList.head? = some '\x7b' := by
  rw [Description.toJson, Json.pretty, Json.prettyAt, Json.block]
  split
  · exact head?_append rfl _
  · exact head?_append (head?_append (head?_append (head?_append rfl _) _) _) _

/-- The body for an unknown entry point is that of no other answer. -/
theorem encode_ne_unknown {s : String} (h : s.toList.head? ≠ some 'n') (name : String) :
    Text.encode s ≠ Text.encode (DispatchError.unknownEntryPoint name).message :=
  encode_ne_of_head? ((head?_unknownEntryPoint name).symm ▸ h)

/-! ## The answers -/

section
variable {first live : Site} {t : Transport}

theorem Site.not_refuses {url : String} {ip : IpAddress} (hurl : requestUrl? t = some url)
    (hip : live.clientOf t = .ok ip) : ¬ live.Refuses t := by
  rintro (hnone | ⟨e, he⟩)
  · rw [hurl] at hnone
    cases hnone
  · rw [hip] at he
    cases he

/-- Exactly the requests that are not refused and whose entry point the dispatcher does not know are told so. -/
theorem Answered.unknown_iff {received : Request} {message : Message} (h : Answered first live t received message) :
    (∃ name, message.body = Text.encode (DispatchError.unknownEntryPoint name).message) ↔
      ¬ live.Refuses t ∧ ∃ url, requestUrl? t = some url ∧ (live.entryOf url).name ∉ first.entryPoints.names := by
  cases h with
  | noUrl hurl =>
    refine iff_of_false ?_ fun hright => hright.1 (.inl hurl)
    rintro ⟨name, hbody⟩
    exact encode_ne_unknown (head?_requestError _) name ((body_rejection _ _ _).symm.trans hbody)
  | noClient _ hip =>
    refine iff_of_false ?_ fun hright => hright.1 (.inr ⟨_, hip⟩)
    rintro ⟨name, hbody⟩
    exact encode_ne_unknown (head?_requestError _) name ((body_rejection _ _ _).symm.trans hbody)
  | unknown hurl hip hmem => exact iff_of_true ⟨_, body_rejection _ _ _⟩ ⟨Site.not_refuses hurl hip, _, hurl, hmem⟩
  | @described url _ _ d _ hurl _ hmem _ _ _ _ hdescription =>
    refine iff_of_false ?_ ?_
    · rintro ⟨name, hbody⟩
      have hhead : d.toJson.pretty.toList.head? ≠ some 'n' := ne_of_eq_of_ne (head?_description d) (by decide)
      exact encode_ne_unknown hhead name (hdescription.symm.trans hbody)
    · rintro ⟨-, other, hother, hunknown⟩
      rw [hurl] at hother
      cases hother
      exact hunknown hmem

/-- If the dispatcher knows the entry point, the request is refused or described. -/
theorem Answered.refused_or_described {received : Request} {message : Message}
    (h : Answered first live t received message)
    (hknown : ∀ url, (live.entryOf url).name ∈ first.entryPoints.names) :
    live.Refuses t ∧ message.status = 400 ∨
    ¬ live.Refuses t ∧ ∃ url, (requestUrl? t = some url ∧
      (message.status = 404 ∧ live.LeadsNowhere t url ∨ message.status = 200 ∧ ¬ live.LeadsNowhere t url)) ∧
      live.Describes t received message := by
  cases h with
  | noUrl hurl => exact .inl ⟨.inl hurl, status_rejection _ _ _⟩
  | noClient _ hip => exact .inl ⟨.inr ⟨_, hip⟩, status_rejection _ _ _⟩
  | unknown _ _ hmem => exact absurd (hknown _) hmem
  | described hurl hip _ hinterpolate hd hstatus hmembers hbody =>
    exact .inr ⟨Site.not_refuses hurl hip, _, ⟨hurl, hstatus⟩, _, _, _, _, hurl, hip, hinterpolate, hd, hmembers,
      hbody⟩

end

/-- A request for a page, from a client without a proxy. -/
def pageRequest (target : String) : Incoming :=
  ⟨"GET", .parse target, .v4 0xC6336414#32,
    [("Host", Text.encode "[2001:db8::1]:8080"), ("Accept-Language", Text.encode "fr;q=0.5")]⟩

/-- The description of a request for an article with two fields in the query. -/
def articleBody : String := String.intercalate "\n" [
  "\x7b",
  "  \"request_id\": \"r1\",",
  "  \"method\": \"GET\",",
  "  \"entry_point\": \"index\",",
  "  \"subpath\": \"/wiki/Foo\",",
  "  \"params\": \x7b",
  "    \"x\": \"1\",",
  "    \"y\": [",
  "      \"a\"",
  "    ],",
  "    \"title\": \"Foo\"",
  "  \x7d,",
  "  \"query\": \x7b",
  "    \"x\": \"1\",",
  "    \"y\": [",
  "      \"a\"",
  "    ],",
  "    \"title\": \"Foo\"",
  "  \x7d,",
  "  \"ip\": \"198.51.100.20\",",
  "  \"protocol\": \"http\",",
  "  \"server\": \"http://[2001:db8::1]:8080\",",
  "  \"accept_language\": [",
  "    [",
  "      \"fr\",",
  "      0.5",
  "    ]",
  "  ]",
  "\x7d"]

/-- The description of a request that leads to no page. -/
def nowhereBody : String := String.intercalate "\n" [
  "\x7b",
  "  \"request_id\": \"r1\",",
  "  \"method\": \"GET\",",
  "  \"entry_point\": \"index\",",
  "  \"subpath\": \"/nowhere\",",
  "  \"bad_path\": \"/nowhere\",",
  "  \"params\": \x7b\x7d,",
  "  \"query\": \x7b\x7d,",
  "  \"ip\": \"198.51.100.20\",",
  "  \"protocol\": \"http\",",
  "  \"server\": \"http://[2001:db8::1]:8080\",",
  "  \"accept_language\": [",
  "    [",
  "      \"fr\",",
  "      0.5",
  "    ]",
  "  ]",
  "\x7d"]

end WikiGateway
