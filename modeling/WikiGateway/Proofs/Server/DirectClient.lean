import WikiGateway.Proofs.Server.HeaderFields

/-!
# Clients that connect without a proxy

The address of the other end of a connection is written as text and read back as that of the client. Without a
forwarded header (`Incoming.IsDirect`) the client keeps it, so that no request is refused because of its address: what
remains are bodies that do not arrive and requests without URL.

* `header?_transport_of_absent`: a header that no field brings is not set.
* `clientOf_transport`: the client of a direct request.
* `Answered.status_eq_iff`: if the client is known, just the requests without URL are refused.
* `direct_client_accepted`: the client and the status of a direct request, and the addresses of hops, which are read
  back as they are written.
-/

namespace WikiGateway

/-! ## Fields on the wire -/

/-- A header that no field brings is not set. -/
theorem header?_transport_of_absent {name : String} {i : Incoming}
    (h : ∀ field ∈ i.fields, Text.eqIgnoreCase field.1 name = false) (body : List UInt8) (https : Bool) :
    (i.transport body https).header? name = none := by
  rw [Transport.header?, headers_transport, headerOf?_collectedHeaders, if_pos]
  rw [valuesUnder_eq_nil_iff, List.forall_mem_map]
  intro field hfield
  rw [Text.eqIgnoreCase_lowerAscii, h field hfield]

/-- A request without a forwarded header, whatever the case of the names of its fields. -/
def Incoming.IsDirect (i : Incoming) : Prop := ∀ field ∈ i.fields, Text.eqIgnoreCase field.1 "X-Forwarded-For" = false

instance : DecidablePred Incoming.IsDirect := fun i =>
  inferInstanceAs (Decidable (∀ field ∈ i.fields, Text.eqIgnoreCase field.1 "X-Forwarded-For" = false))

/-- The client of a direct request is the other end of the connection. -/
theorem clientOf_transport (site : Site) {i : Incoming} (h : i.IsDirect) (body : List UInt8) (https : Bool) :
    site.clientOf (i.transport body https) = .ok i.peer.unmapped := by
  have hpeer : IpAddress.parse? (Text.trim i.peer.toString) = some i.peer := by
    rw [IpAddress.trim_toString, IpAddress.parse?_toString]
  exact site.clientOf_of_peer rfl hpeer (header?_transport_of_absent h body https)

/-! ## The answers -/

/-- If the client is known, just the requests without URL are refused. -/
theorem Answered.status_eq_iff {first live : Site} {t : Transport} {received : Request} {message : Message}
    {ip : IpAddress} (h : Answered first live t received message) (hip : live.clientOf t = .ok ip) :
    message.status = 400 ↔ requestUrl? t = none := by
  cases h with
  | noUrl hurl => exact iff_of_true (status_rejection _ _ _) hurl
  | noClient _ he =>
    rw [hip] at he
    cases he
  | unknown hurl => simp [status_rejection, hurl]
  | described hurl _ _ _ _ hstatus => rcases hstatus with ⟨hstatus, -⟩ | ⟨hstatus, -⟩ <;> simp [hstatus, hurl]

/-- The status of a body that does not arrive. -/
theorem BodyError.status_eq_iff (e : BodyError) : e.status = 400 ↔ ∃ reason, e = .interrupted reason := by
  cases e <;> simp [status]

namespace IpAddress

variable {a : IpAddress}

/-- An address that maps none of version 4 is kept. -/
theorem unmapped_of_forall_ne (h : ∀ b, a ≠ v6 (mapIpv4 b)) : a.unmapped = a := by
  cases a with
  | v4 bits => rfl
  | v6 bits =>
    cases hmapped : mappedIpv4? bits with
    | some b => exact absurd (congrArg v6 (mappedIpv4?_eq_some_iff.mp hmapped)) (h b)
    | none => rw [unmapped, hmapped]

/-- An address that is not renamed is neither mapped nor that of loopback. -/
theorem ne_of_not_isRenamed (h : a.isRenamed = false) : a ≠ v6 1 ∧ ∀ b, a ≠ v6 (mapIpv4 b) := by
  refine ⟨?_, fun b => ?_⟩
  · rintro rfl
    cases h
  · rintro rfl
    have hkept := unmapped_eq_self h
    rw [unmapped_mapIpv4] at hkept
    cases hkept

end IpAddress

/-- **A direct client is not refused for its address.** The client of a direct request is the other end of the
connection, which goes by its address of version 4 if it is mapped. So the status 400 is left to a body whose connection
fails and to a request without URL. An address that was read as that of a hop is neither mapped nor that of loopback in
version 6, and is read back as it is written. -/
theorem direct_client_accepted (site first : Site) {i : Incoming} (hdirect : i.IsDirect) (chunks : List BodyChunk)
    (freshId : String) :
    (∀ body, readBody chunks = .ok body →
      let received := Request.receive site (i.transport body site.config.server.https) (.sent {}) freshId
      ∀ routed, received.interpolateTitle = .ok routed →
        (∀ b, i.peer = .v6 (mapIpv4 b) → routed.clientIp = .ok (.v4 b)) ∧
        ((∀ b, i.peer ≠ .v6 (mapIpv4 b)) → routed.clientIp = .ok i.peer)) ∧
    ((frontController site (.ofSite first) i chunks freshId).status = 400 ↔
      (∃ reason, readBody chunks = .error (.interrupted reason)) ∨
      ∃ body, readBody chunks = .ok body ∧ requestUrl? (i.transport body site.config.server.https) = none) ∧
    ∀ raw ip, hopAddress? raw = some ip →
      ip ≠ .v6 1 ∧ (∀ b, ip ≠ .v6 (mapIpv4 b)) ∧ hopAddress? ip.toString = some ip := by
  refine ⟨?_, ?_, ?_⟩
  · intro body _ received routed hrouted
    obtain ⟨m, hm⟩ := Request.exists_routed hrouted
    have hclient : routed.clientIp = .ok i.peer.unmapped := by
      rw [clientIp_eq hm.chosenIp_eq, hm.site_eq, hm.transport_eq]
      exact congrArg (Except.mapError RequestError.client) (clientOf_transport site hdirect body _)
    refine ⟨fun b hb => ?_, fun hunmapped => ?_⟩
    · rw [hclient, hb, IpAddress.unmapped_mapIpv4]
    · rw [hclient, IpAddress.unmapped_of_forall_ne hunmapped]
  · rw [frontController, status_inAnswerTo]
    cases hread : readBody chunks with
    | error e =>
      show e.status = 400 ↔ _
      simpa using e.status_eq_iff
    | ok body => simpa using (answered_answer first).status_eq_iff (clientOf_transport site hdirect body _)
  · intro raw ip h
    obtain ⟨a, rfl⟩ := exists_asHop_of_hopAddress? h
    have hkept := a.isRenamed_asHop
    obtain ⟨hloopback, hmapped⟩ := IpAddress.ne_of_not_isRenamed hkept
    refine ⟨hloopback, hmapped, ?_⟩
    rw [IpAddress.hopAddress?_toString, (IpAddress.asHop_eq_self_iff _).mpr hkept]

/-- A request over a connection of version 6 from an address of version 4. -/
def mappedPeer : Incoming :=
  ⟨"GET", .parse "/wiki/A?action=raw", .v6 (mapIpv4 0xC6336414), [("Host", Text.encode "wiki.example.org")]⟩

theorem direct_client_accepted_mapped : mappedPeer.IsDirect ∧ hopAddress? "[::ffff:c633:6414]" = some (.v4 0xC6336414) ∧
    ∃ site, Site.compile Request.openOrigin = .ok site ∧
      (∃ routed, (Request.receive site (mappedPeer.transport [] false) (.sent {}) "r1").interpolateTitle = .ok routed ∧
        routed.clientIp = .ok (.v4 0xC6336414)) ∧
      (frontController site (.ofSite site) mappedPeer [] "r1").status ≠ 400 ∧
      hopAddress? "198.51.100.20" = some (.v4 0xC6336414) := by
  obtain ⟨site, hsite, hconfig⟩ := Request.exists_compile_openOrigin
  have hdirect : mappedPeer.IsDirect := by decide +kernel
  have hhop : hopAddress? "[::ffff:c633:6414]" = some (.v4 0xC6336414) := by decide +kernel
  have hurl : requestUrl? (mappedPeer.transport [] false) = some "/wiki/A?action=raw" := by decide +kernel
  have hplain : site.config.server.https = false := by rw [hconfig]; rfl
  obtain ⟨hclient, hstatus, hread⟩ := direct_client_accepted site site hdirect [] "r1"
  rw [hplain] at hclient hstatus
  obtain ⟨routed, hrouted, -, -⟩ := routed_receive_of_url site "r1" hurl
  refine ⟨hdirect, hhop, site, hsite, ⟨routed, hrouted, (hclient [] rfl routed hrouted).1 _ rfl⟩, ?_,
    (hread _ _ hhop).2.2⟩
  rw [ne_eq, hstatus]
  rintro (⟨reason, hreason⟩ | ⟨body, hbody, hnone⟩)
  · cases hreason
  · cases hbody
    cases hnone.symm.trans hurl

end WikiGateway
