import WikiGateway.Proofs.Config.Sections
import WikiGateway.Proofs.Http.RequestUrl
import WikiGateway.Request.Basic

/-!
# Absolute URLs and the origin

Without a fixed origin, the absolute URL of a request is the origin of the request with its URL behind it, and nothing
between the two. It stays on that origin if a path follows (`Request.StaysOnOrigin`, `staysOnOrigin_iff`), for which the
source of the URL has to lead to one.

* `Request.fullUrl_eq`: the absolute URL.
* `Request.fullUrl_by_source`: just the sources that lead to a path keep it on the origin; any other one is put behind
  the origin as it stands.
* `Request.fullUrl_leaves_origin`: so a client can make the host another one.
-/

namespace WikiGateway.Request

/-- The absolute URL is the origin of the request and a path behind it. -/
def StaysOnOrigin (r : Request) : Prop := ∃ path, r.fullUrl = .ok (r.server ++ ("/" ++ path))

section
variable {r : Request} {url : String}

theorem url_eq_ok_iff : r.url = .ok url ↔ requestUrl? r.transport = some url := by
  unfold Request.url
  cases requestUrl? r.transport with
  | none => simp
  | some found => simp

/-- Without a fixed origin, the URL stands behind the origin of the request. -/
theorem fullUrl_eq (hserver : r.site.config.server.canonicalServer = none) (hurl : r.url = .ok url) :
    r.fullUrl = .ok (r.server ++ url) := by
  rw [fullUrl, hurl, publicServer, hserver]
  rfl

/-- The first character of the URL decides. -/
theorem staysOnOrigin_iff (hserver : r.site.config.server.canonicalServer = none) (hurl : r.url = .ok url) :
    r.StaysOnOrigin ↔ url.toList.head? = some '/' := by
  simp only [StaysOnOrigin, fullUrl_eq hserver hurl, Except.ok.injEq, String.append_right_inj]
  constructor
  · rintro ⟨path, rfl⟩
    rw [String.toList_append]
    rfl
  · intro h
    obtain ⟨path, hpath⟩ := List.head?_eq_some_iff.mp h
    refine ⟨String.ofList path, ?_⟩
    rw [← String.toList_inj, hpath, String.toList_append, String.toList_ofList, String.toList_ofList]
    rfl

/-- A URL comes from a source. -/
theorem exists_source_of_url (hurl : r.url = .ok url) :
    ∃ source, urlSource? r.transport = some source ∧ normalizeUrl? source.toList = some url.toList := by
  obtain ⟨source, hsource, hnormal⟩ := Option.bind_eq_some_iff.mp (url_eq_ok_iff.mp hurl)
  obtain ⟨cs, hcs, rfl⟩ := Option.map_eq_some_iff.mp hnormal
  exact ⟨source, hsource, by rw [hcs, String.toList_ofList]⟩

end

/-- **Where the absolute URL stays on the origin.** Without a fixed origin, the absolute URL of a request with a URL is
its origin and this URL. If the source of the URL leads to a path, the URL is this path behind one slash; otherwise it
is the source as it stands, up to the fragment, and just then the absolute URL does not stay on the origin. -/
theorem fullUrl_by_source (r : Request) (hserver : r.site.config.server.canonicalServer = none) (url : String)
    (hurl : r.url = .ok url) : ∃ source, urlSource? r.transport = some source ∧ r.fullUrl = .ok (r.server ++ url) ∧
      (∀ rest, LeadsToPath (withoutFragment source.toList) rest →
        url = String.ofList ('/' :: rest.dropWhile (· == '/'))) ∧
      ((∀ rest, ¬ LeadsToPath (withoutFragment source.toList) rest) →
        url = String.ofList (withoutFragment source.toList)) ∧
      (r.StaysOnOrigin ↔ ∃ rest, LeadsToPath (withoutFragment source.toList) rest) := by
  obtain ⟨source, hsource, hnormal⟩ := exists_source_of_url hurl
  have hpath : ∀ rest, LeadsToPath (withoutFragment source.toList) rest →
      url.toList = '/' :: rest.dropWhile (· == '/') := by
    intro rest h
    rw [normalizeUrl?_of_leadsToPath h, Option.some.injEq] at hnormal
    exact hnormal.symm
  have hother : (∀ rest, ¬ LeadsToPath (withoutFragment source.toList) rest) →
      url.toList = withoutFragment source.toList := by
    intro h
    rw [normalizeUrl?_of_not_leadsToPath (withoutFragment_ne_nil hnormal) h, Option.some.injEq] at hnormal
    exact hnormal.symm
  refine ⟨source, hsource, fullUrl_eq hserver hurl, fun rest h => ?_, fun h => ?_, ?_⟩
  · rw [← hpath rest h, String.ofList_toList]
  · rw [← hother h, String.ofList_toList]
  · rw [staysOnOrigin_iff hserver hurl]
    constructor
    · intro hslash
      by_cases hleads : ∃ rest, LeadsToPath (withoutFragment source.toList) rest
      · exact hleads
      · -- the source as it stands starts with the slash
        rw [hother (not_exists.mp hleads)] at hslash
        obtain ⟨rest, hrest⟩ := List.head?_eq_some_iff.mp hslash
        exact ⟨rest, hrest ▸ .slash rest⟩
    · rintro ⟨rest, h⟩
      rw [hpath rest h]
      rfl

/-! ## On a site without a fixed origin -/

/-- The settings of a site without a fixed origin. -/
def openOrigin : SiteConfig := { request := { legacyEncoding := "" } }

theorem exists_compile_openOrigin [MultiByteDecoders] :
    ∃ site, Site.compile openOrigin = .ok site ∧ site.config = openOrigin :=
  Site.exists_compile_config (by decide +kernel)

/-- The URL and the origin of a request that the site receives. -/
theorem receive_of_openOrigin {site : Site} (hconfig : site.config = openOrigin) {t : Transport} {url origin : String}
    (hurl : requestUrl? t = some url) (horigin : detectServer t true = origin) (response : Response)
    (freshId : String) :
    let r := receive site t response freshId
    r.site.config.server.canonicalServer = none ∧ r.url = .ok url ∧ r.server = origin := by
  intro r
  have hsame : r.site.config = openOrigin := hconfig
  refine ⟨?_, url_eq_ok_iff.mpr hurl, ?_⟩
  · rw [hsame]
    rfl
  · rw [Request.server, hsame]
    exact horigin

/-- An absolute target, whose scheme and host give way to the origin of the request. -/
theorem fullUrl_by_source_absolute_target :
    let t : Transport := {
      requestUri := some "https://evil.example//wiki/Foo?x=1#top"
      headers := [("Host", "[2001:db8::1]:8080")] }
    ∃ site, Site.compile openOrigin = .ok site ∧
      let r := receive site t (.recorded {}) "r1"
      r.site.config.server.canonicalServer = none ∧ r.url = .ok "/wiki/Foo?x=1" ∧
      r.fullUrl = .ok "http://[2001:db8::1]:8080/wiki/Foo?x=1" ∧ r.StaysOnOrigin := by
  intro t
  obtain ⟨site, hsite, hconfig⟩ := exists_compile_openOrigin
  have hurl : requestUrl? t = some "/wiki/Foo?x=1" := by
    unfold t
    decide +kernel
  have horigin : detectServer t true = "http://[2001:db8::1]:8080" := by
    unfold t
    decide +kernel
  obtain ⟨hserver, hurl, horigin⟩ := receive_of_openOrigin hconfig hurl horigin (.recorded {}) "r1"
  obtain ⟨source, hsource, hfull, -, -, hstays⟩ := fullUrl_by_source _ hserver _ hurl
  have hleads : LeadsToPath (withoutFragment source.toList) "/wiki/Foo?x=1".toList := by
    cases hsource
    exact @LeadsToPath.host "https".toList "evil.example".toList "/wiki/Foo?x=1".toList (by decide) (by decide)
      (by decide)
  refine ⟨site, hsite, hserver, hurl, ?_, hstays.mpr ⟨_, hleads⟩⟩
  rw [hfull, horigin]
  decide +kernel

/-- **A client can leave the origin.** A header that stands in for the target starts with a dot, which makes the host
another one, and a target is a scheme and a host alone. -/
theorem fullUrl_leaves_origin : ∃ site, Site.compile openOrigin = .ok site ∧
    let dotted := receive site { headers := [("X-Original-URL", ".evil.example/")] } (.recorded {}) "r1"
    let bare := receive site { requestUri := some "http://evil.example" } (.recorded {}) "r1"
    site.config.server.canonicalServer = none ∧
    (dotted.url = .ok ".evil.example/" ∧ dotted.server = "http://localhost" ∧
      dotted.fullUrl = .ok "http://localhost.evil.example/" ∧ ¬ dotted.StaysOnOrigin) ∧
    (bare.url = .ok "http://evil.example" ∧ bare.server = "http://localhost" ∧
      bare.fullUrl = .ok "http://localhosthttp://evil.example" ∧ ¬ bare.StaysOnOrigin) := by
  obtain ⟨site, hsite, hconfig⟩ := exists_compile_openOrigin
  refine ⟨site, hsite, ?_⟩
  have hleaves : ∀ (t : Transport) (url full : String), requestUrl? t = some url →
      detectServer t true = "http://localhost" → "http://localhost" ++ url = full → url.toList.head? ≠ some '/' →
      let r := receive site t (.recorded {}) "r1"
      r.url = .ok url ∧ r.server = "http://localhost" ∧ r.fullUrl = .ok full ∧ ¬ r.StaysOnOrigin := by
    intro t url full hurl horigin hfull hhead r
    obtain ⟨hserver, hurl, horigin⟩ := receive_of_openOrigin hconfig hurl horigin (.recorded {}) "r1"
    refine ⟨hurl, horigin, ?_, ?_⟩
    · rw [fullUrl_eq hserver hurl, horigin, hfull]
    · rw [staysOnOrigin_iff hserver hurl]
      exact hhead
  refine ⟨by rw [hconfig]; rfl, ?_, ?_⟩
  · exact hleaves _ _ _ (by decide +kernel) (by decide +kernel) (by decide) (by decide)
  · exact hleaves _ _ _ (by decide +kernel) (by decide +kernel) (by decide) (by decide)

end WikiGateway.Request
