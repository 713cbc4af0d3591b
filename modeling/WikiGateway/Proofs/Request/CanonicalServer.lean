import WikiGateway.Proofs.Config.Sections
import WikiGateway.Proofs.Http.Authority
import WikiGateway.Proofs.Request.Origin

/-!
# Absolute URLs on a site with a fixed origin

The settings are checked by the parser of URLs, which forgives a lot. For an absolute URL the fixed origin is cut at the
first colon with two slashes behind it, as it is written, and what follows is put behind the protocol of the request.
The two readings agree on origins that are written in full (`IsPlainOrigin`), and on others only if they find the same
host by chance.

* `IsPlainOrigin.authorityHost?_eq`: in a plain origin both readings find the same host.
* `Site.isPublicAt_iff`: just the origins in which the second reading finds a host keep absolute URLs on it.
* `Site.isPublicAt_canonical`: so the host of the check is kept exactly if the readings agree.
* `Site.not_isPublicAt_canonical`: accepted origins whose host is lost.
-/

namespace WikiGateway

open Url

variable {c : String} {front x : List Char}

/-! ## How an origin is read -/

/-- An origin whose first colon has two slashes behind it, and whose part with the host does not end in a blank. -/
def IsPlainOrigin (c : String) : Prop :=
  ∃ front rest, c.toList = front ++ ':' :: '/' :: '/' :: rest ∧ ':' ∉ front ∧
    ∀ last ∈ (authorityIn rest).getLast?, isOuterBlank last = false

/-- The check of the settings finds a host. -/
theorem exists_host_of_isWebUrl (h : isWebUrl c = true) :
    ∃ own host, Url.parse? c = some own ∧ own.host = some host ∧ schemeKind own.scheme = .web := by
  obtain ⟨own, hown, hweb⟩ := (Option.any_eq_true ..).mp h
  obtain ⟨hscheme, hhost⟩ := Bool.and_eq_true_iff.mp hweb
  obtain ⟨host, hhost⟩ := Option.isSome_iff_exists.mp hhost
  refine ⟨own, host, hown, hhost, ?_⟩
  rw [List.contains_iff_mem, List.mem_pair] at hscheme
  rcases hscheme with hscheme | hscheme <;> rw [hscheme] <;> rfl

/-- The origin is cut at the first colon, if two slashes are behind it. -/
theorem originHost_of_colon (hc : c.toList = front ++ ':' :: '/' :: '/' :: x) (hfront : ':' ∉ front) :
    Request.originHost c = String.ofList (Text.trimEnd (· == '/') x) := by
  have hcut : Text.cutText? "://".toList c.toList = some (front, x) := by
    refine Text.cutText?_eq_some_iff.mpr ⟨by rw [hc, List.append_assoc]; rfl, fun i hi hprefix => hfront ?_⟩
    have hdrop : c.toList.drop i = front.drop i ++ ':' :: '/' :: '/' :: x := by
      rw [hc, List.drop_append_of_le_length hi.le]
    rw [hdrop, List.drop_eq_getElem_cons hi] at hprefix
    have hcolon : ':' = front[i] := (List.cons_prefix_cons.mp hprefix).1
    exact hcolon ▸ List.getElem_mem hi
  rw [Request.originHost, hcut]

/-- In what is left of a plain origin there is the same host. -/
theorem IsPlainOrigin.authorityHost?_eq (h : IsPlainOrigin c) {own : Url} {host : Host} (hown : Url.parse? c = some own)
    (hkind : schemeKind own.scheme = .web) (hhost : own.host = some host) :
    authorityHost? (authorityIn (Request.originHost c).toList) = some host := by
  obtain ⟨front, rest, hc, hfront, hend⟩ := h
  have hread := authorityHost?_of_parse? hown hkind hhost hc hfront
  rw [authorityIn_trimEnd_cons_slash, authorityIn_trimEnd_cons_slash, authorityIn_trimEnd_blank hend] at hread
  rw [originHost_of_colon hc hfront, String.toList_ofList, authorityIn_trimEnd_slash, hread]

/-! ## Absolute URLs -/

/-- The absolute URL of a request, with the fixed origin under its protocol. -/
theorem fullUrl_of_canonical {r : Request} {url : String} (hc : r.site.config.server.canonicalServer = some c)
    (hurl : r.url = .ok url) : r.fullUrl = .ok (r.protocol.scheme ++ "://" ++ Request.originHost c ++ url) := by
  rw [Request.fullUrl, hurl, Request.publicServer, hc]
  rfl

/-- The host of a path behind an origin, under a protocol. -/
theorem exists_parse?_path_iff (protocol : Protocol) (origin : String) {url : String} {path : List Char} {host : Host}
    (hurl : url.toList = '/' :: path) :
    (∃ parsed, Url.parse? (protocol.scheme ++ "://" ++ origin ++ url) = some parsed ∧
        parsed.scheme = protocol.scheme ∧ parsed.host = some host) ↔
      authorityHost? (authorityIn (origin.toList ++ '/' :: Text.trimEnd isOuterBlank path)) = some host := by
  have hscheme : ':' ∉ protocol.scheme.toList ∧ schemeKind protocol.scheme = .web ∧
      schemeOf? (visibleFront protocol.scheme.toList) = some protocol.scheme := by
    cases protocol <;> decide +kernel
  have hs : (protocol.scheme ++ "://" ++ origin ++ url).toList =
      protocol.scheme.toList ++ ':' :: '/' :: '/' :: (origin.toList ++ '/' :: path) := by
    rw [String.toList_append, String.toList_append, String.toList_append, hurl, List.append_assoc, List.append_assoc]
    rfl
  rw [exists_parse?_iff hs hscheme.1 hscheme.2.2 hscheme.2.1, authorityIn_trimEnd_cons_slash,
    authorityIn_trimEnd_cons_slash, Text.trimEnd_append_cons (by decide)]

/-- The absolute URLs of a site lead to one host, under the protocol of the request: those of all requests whose URL is
a path. -/
def Site.IsPublicAt (site : Site) (host : Host) : Prop :=
  ∀ r : Request, r.site = site → ∀ url, r.url = .ok url → url.toList.head? = some '/' →
    ∃ full parsed, r.fullUrl = .ok full ∧ Url.parse? full = some parsed ∧ parsed.scheme = r.protocol.scheme ∧
      parsed.host = some host

section
variable {site : Site} {host : Host}

/-- Just the origins in which the host is found keep absolute URLs on it. -/
theorem Site.isPublicAt_iff (hc : site.config.server.canonicalServer = some c) :
    site.IsPublicAt host ↔ authorityHost? (authorityIn (Request.originHost c).toList) = some host := by
  constructor
  · intro hpublic
    -- the request for the root, whose absolute URL is the origin with a slash
    let r := Request.receive site { requestUri := some "/" } (.recorded {}) ""
    have hurl : r.url = .ok "/" := Request.url_eq_ok_iff.mpr rfl
    obtain ⟨full, parsed, hfull, hparsed⟩ := hpublic r rfl "/" hurl rfl
    have hown : r.fullUrl = _ := fullUrl_of_canonical hc hurl
    obtain rfl := Except.ok.inj (hfull.symm.trans hown)
    have hroot : "/".toList = '/' :: [] := rfl
    have hread := (exists_parse?_path_iff r.protocol (Request.originHost c) hroot).mp ⟨parsed, hparsed⟩
    have hslash : authorityIn ((Request.originHost c).toList ++ ['/']) = authorityIn (Request.originHost c).toList :=
      authorityIn_append_slashes _ (by simp)
    exact hslash ▸ hread
  · intro hread r hsite url hurl hhead
    obtain ⟨path, hpath⟩ := List.head?_eq_some_iff.mp hhead
    have hmore : afterSlashes (Request.originHost c).toList ≠ [] := by
      intro hnil
      rw [authorityIn, hnil, List.takeWhile_nil, authorityHost?_nil] at hread
      cases hread
    obtain ⟨parsed, hparsed⟩ := (exists_parse?_path_iff r.protocol (Request.originHost c) hpath).mpr
      ((authorityIn_append_slash hmore _).symm ▸ hread)
    exact ⟨_, parsed, fullUrl_of_canonical (hsite ▸ hc) hurl, hparsed⟩

end

/-- **Where a fixed origin is used as it is checked.** The settings of a site name a fixed origin only if the parser of
URLs finds a host in it. The absolute URLs of requests for paths lead to this host, under the protocol of the request,
exactly if the host is also found in what is left of the origin behind the first colon with two slashes; and so it is
for origins that are written in full. -/
theorem Site.isPublicAt_canonical [MultiByteDecoders] {config : SiteConfig} {site : Site}
    (hsite : Site.compile config = .ok site) (hc : config.server.canonicalServer = some c) : ∃ own host, Url.parse? c = some own ∧ own.host = some host ∧
      (site.IsPublicAt host ↔ authorityHost? (authorityIn (Request.originHost c).toList) = some host) ∧
      (IsPlainOrigin c → site.IsPublicAt host) := by
  obtain ⟨hproblems, hcompiled⟩ := Site.compiledFrom_of_compile hsite
  have hweb : isWebUrl c = true := by
    have hsection := SiteConfig.problems_eq_nil_iff.mp hproblems .canonicalServer
    rw [SiteConfig.problemsOf, hc] at hsection
    simpa using hsection
  have hc' : site.config.server.canonicalServer = some c := by rw [hcompiled.config, hc]
  obtain ⟨own, host, hown, hhost, hkind⟩ := exists_host_of_isWebUrl hweb
  exact ⟨own, host, hown, hhost, Site.isPublicAt_iff hc', fun hplain =>
    (Site.isPublicAt_iff hc').mpr (hplain.authorityHost?_eq hown hkind hhost)⟩

/-! ## On a site with a fixed origin -/

/-- The settings of a site with a fixed origin. -/
def fixedOrigin (c : String) : SiteConfig := { Request.openOrigin with server := { canonicalServer := some c } }

/-- A fixed origin with a host makes a site. -/
theorem exists_compile_fixedOrigin [MultiByteDecoders] (h : isWebUrl c = true) :
    ∃ site, Site.compile (fixedOrigin c) = .ok site ∧ site.config = fixedOrigin c := by
  refine Site.exists_compile_config (SiteConfig.problems_eq_nil_iff.mpr fun s => ?_)
  obtain ⟨site, hsite, -⟩ := Request.exists_compile_openOrigin
  have hopen := SiteConfig.problems_eq_nil_iff.mp (Site.compiledFrom_of_compile hsite).1 s
  by_cases hs : s = .canonicalServer
  · rw [hs, SiteConfig.problemsOf]
    simp [fixedOrigin, h]
  · have hsame : s.SameFields Request.openOrigin (fixedOrigin c) := by
      cases s <;> first | exact absurd rfl hs | exact ⟨rfl, fun _ => rfl⟩ | exact ⟨rfl, rfl⟩ | rfl
    rw [SiteConfig.problemsOf_eq_of_sameFields hsame, hopen]

/-- The request for a path on a site with a fixed origin. -/
def requestFor (site : Site) (path : String) : Request := .receive site { requestUri := some path } (.recorded {}) "r1"

theorem fullUrl_requestFor {site : Site} (hsite : site.config = fixedOrigin c) {path : String}
    (hpath : requestUrl? { requestUri := some path } = some path) :
    (requestFor site path).fullUrl = .ok ("http://" ++ Request.originHost c ++ path) :=
  fullUrl_of_canonical (by rw [requestFor, Request.receive, hsite]; rfl) (Request.url_eq_ok_iff.mpr hpath)

/-- An origin with credentials, a port, a path and blanks around it. -/
theorem Site.isPublicAt_canonical_port : ∃ site,
    Site.compile (fixedOrigin " HTTPS://admin@[2001:db8::1]:8443/base/ ") = .ok site ∧
      IsPlainOrigin " HTTPS://admin@[2001:db8::1]:8443/base/ " ∧ ∃ own,
      Url.parse? " HTTPS://admin@[2001:db8::1]:8443/base/ " = some own ∧
      own.host = some (.ipv6 0x20010DB8000000000000000000000001) ∧
      site.IsPublicAt (.ipv6 0x20010DB8000000000000000000000001) := by
  have hweb : isWebUrl " HTTPS://admin@[2001:db8::1]:8443/base/ " = true := by decide +kernel
  obtain ⟨site, hsite, -⟩ := exists_compile_fixedOrigin hweb
  have hplain : IsPlainOrigin " HTTPS://admin@[2001:db8::1]:8443/base/ " := by
    have hlast : (authorityIn "admin@[2001:db8::1]:8443/base/ ".toList).getLast? = some '3' := by decide +kernel
    refine ⟨" HTTPS".toList, "admin@[2001:db8::1]:8443/base/ ".toList, rfl, by decide, ?_⟩
    rw [hlast]
    rintro _ ⟨⟩
    rfl
  obtain ⟨own, host, hown, hhost, -, hpublic⟩ := Site.isPublicAt_canonical hsite rfl
  have hsame : (Url.parse? " HTTPS://admin@[2001:db8::1]:8443/base/ ").bind Url.host =
      some (.ipv6 0x20010DB8000000000000000000000001) := by decide +kernel
  rw [hown, Option.bind_some, hhost] at hsame
  cases hsame
  exact ⟨site, hsite, hplain, own, hown, hhost, hpublic hplain⟩

/-- On the site with the fixed origin `c`, the absolute URL of the request for a path leads away from the host that the
check finds. -/
structure LeadsAway [MultiByteDecoders] (c path full : String) (host : Host) (site : Site) : Prop where
  compiled : Site.compile (fixedOrigin c) = .ok site
  checked : ∃ own, Url.parse? c = some own ∧ own.host = some host
  isPath : (requestFor site path).url = .ok path ∧ path.toList.head? = some '/'
  fullUrl : (requestFor site path).fullUrl = .ok full
  away : ∀ parsed, Url.parse? full = some parsed → parsed.host ≠ some host

/-- Such a site is not public at the host. -/
theorem LeadsAway.not_isPublicAt [MultiByteDecoders] {path full : String} {host : Host} {site : Site}
    (h : LeadsAway c path full host site) : ¬ site.IsPublicAt host := by
  intro hpublic
  obtain ⟨found, parsed, hfound, hparsed, -, hhost⟩ := hpublic (requestFor site path) rfl path h.isPath.1 h.isPath.2
  obtain rfl := Except.ok.inj (hfound.symm.trans h.fullUrl)
  exact h.away parsed hparsed hhost

theorem exists_leadsAway [MultiByteDecoders] {path full : String} {host : Host} (hweb : isWebUrl c = true)
    (hhost : (Url.parse? c).bind Url.host = some host) (hpath : requestUrl? { requestUri := some path } = some path)
    (hslash : path.toList.head? = some '/') (hfull : "http://" ++ Request.originHost c ++ path = full)
    (haway : ∀ parsed, Url.parse? full = some parsed → parsed.host ≠ some host) :
    ∃ site, LeadsAway c path full host site ∧ ¬ site.IsPublicAt host := by
  obtain ⟨site, hsite, hconfig⟩ := exists_compile_fixedOrigin hweb
  have hurl : (requestFor site path).url = .ok path := Request.url_eq_ok_iff.mpr hpath
  have haway : LeadsAway c path full host site :=
    ⟨hsite, Option.bind_eq_some_iff.mp hhost, ⟨hurl, hslash⟩, hfull ▸ fullUrl_requestFor hconfig hpath, haway⟩
  exact ⟨site, haway, haway.not_isPublicAt⟩

/-- No name is an address of version 6. -/
theorem Host.ofName?_ne_ipv6 (name : List Char) (a : Ipv6) : Host.ofName? name ≠ some (.ipv6 a) := by
  unfold Host.ofName?
  split
  next => nofun
  next =>
    split
    next => nofun
    next =>
      split
      next => cases Host.addressOfName? _ <;> simp
      next => simp

/-- The scheme in the place of a host names no address of version 6. -/
theorem authorityHost?_scheme_ne_ipv6 (a : Ipv6) : authorityHost? "http:".toList ≠ some (.ipv6 a) := by
  have hcut : cutHost false (afterCredentials "http:".toList true).1 = ("http".toList, ":".toList) := by decide +kernel
  unfold authorityHost?
  rw [hcut]
  dsimp only
  split
  next host _ hhost _ =>
    intro hsame
    have hipv6 : host = .ipv6 a := by
      unfold nonEmptyHost at hsame
      split at hsame
      next => split at hsame <;> cases hsame
      next => exact Option.some.inj hsame
    rw [hipv6, Host.parse?, String.toList_ofList] at hhost
    exact Host.ofName?_ne_ipv6 _ a hhost
  next => nofun

/-- **Accepted origins whose host is lost.** With one slash behind the scheme, the scheme becomes the host. With a blank
at the end, the absolute URLs are none. With two slashes behind a later colon, the client chooses the host. -/
theorem Site.not_isPublicAt_canonical :
    let host : Host := .ipv6 0x20010DB8000000000000000000000001
    (∃ site, LeadsAway "http:/[2001:db8::1]" "/wiki/Foo" "http://http:/[2001:db8::1]/wiki/Foo" host site ∧
      ¬ site.IsPublicAt host) ∧
    (∃ site, LeadsAway "http://[2001:db8::1] " "/wiki/Foo" "http://[2001:db8::1] /wiki/Foo" host site ∧
      ¬ site.IsPublicAt host) ∧
    (∃ site, LeadsAway "http:[2001:db8::1]/x://" "/[2001:db8::bad]/" "http:///[2001:db8::bad]/" host site ∧
      ¬ site.IsPublicAt host) ∧
    (Url.parse? "http:///[2001:db8::bad]/").bind Url.host = some (.ipv6 0x20010DB8000000000000000000000BAD) := by
  intro host
  have hchosen : (Url.parse? "http:///[2001:db8::bad]/").bind Url.host =
      some (.ipv6 0x20010DB8000000000000000000000BAD) := by decide +kernel
  refine ⟨?_, ?_, ?_, hchosen⟩
  · refine exists_leadsAway (by decide +kernel) (by decide +kernel) (by decide +kernel) rfl (by decide +kernel) ?_
    intro parsed hparsed hhost
    have hs : "http://http:/[2001:db8::1]/wiki/Foo".toList =
        "http".toList ++ ':' :: "//http:/[2001:db8::1]/wiki/Foo".toList := rfl
    have hscheme : some "http" = some parsed.scheme := schemeOf?_of_parse? hparsed hs (by decide)
    have hkind : schemeKind parsed.scheme = .web := by
      rw [← Option.some.inj hscheme]
      rfl
    have hread := authorityHost?_of_parse? hparsed hkind hhost hs (by decide)
    have hauthority : authorityIn (Text.trimEnd isOuterBlank "//http:/[2001:db8::1]/wiki/Foo".toList) =
        "http:".toList := by decide +kernel
    rw [hauthority] at hread
    exact authorityHost?_scheme_ne_ipv6 _ hread
  · have hnone : Url.parse? "http://[2001:db8::1] /wiki/Foo" = none := by decide +kernel
    refine exists_leadsAway (by decide +kernel) (by decide +kernel) (by decide +kernel) rfl (by decide +kernel) ?_
    rw [hnone]
    nofun
  · refine exists_leadsAway (by decide +kernel) (by decide +kernel) (by decide +kernel) rfl (by decide +kernel) ?_
    intro parsed hparsed hhost
    rw [hparsed, Option.bind_some, hhost] at hchosen
    exact absurd hchosen (by decide)

end WikiGateway
