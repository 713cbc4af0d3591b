import WikiGateway.Proofs.Http.UrlNormalForm
import WikiGateway.Proofs.Request.Interpolation
import WikiGateway.Proofs.Request.Origin

/-!
# Targets with and without a query

The host of a target is taken off before its query. A target that leads to a path keeps it whatever the query is, and
its URL with a query is the one without, a question mark and the query up to a fragment (`normalizeUrl?_query`). Any
other target may be made to lead to a path by its query, and then this path is text of the query
(`normalizeUrl?_of_not_keepsPath`).

* `KeepsPath`: the targets and queries for which this cannot be.
* `Request.path_congr`, `Request.routed_alike`: requests of one path are routed alike.
* `Request.path_apart_from_query`: the path, the entry point and the parameters with and without a query.
-/

namespace WikiGateway

/-- A query does not reach the path of a target: the target leads to a path by itself, or does not even with the
query. -/
def KeepsPath (target query : List Char) : Prop :=
  (∃ rest, LeadsToPath target rest) ∨ ∀ rest, ¬ LeadsToPath (target ++ '?' :: withoutFragment query) rest

variable {cs rest more target query : List Char}

/-! ## Texts with a query behind them -/

/-- What stands behind a path belongs to it. -/
theorem LeadsToPath.append (h : LeadsToPath cs rest) (more : List Char) : LeadsToPath (cs ++ more) (rest ++ more) := by
  cases h with
  | slash => exact .slash (rest ++ more)
  | @host scheme host _ hscheme hslash hhost =>
    have hleads := LeadsToPath.host (rest ++ more) hscheme hslash hhost
    simpa using hleads

/-- A path that a text leads to only with more behind it starts in what stands behind. -/
theorem LeadsToPath.suffix_of_not (h : LeadsToPath (cs ++ '?' :: more) rest) (hne : cs ≠ [])
    (hno : ∀ rest, ¬ LeadsToPath cs rest) : rest <:+ more := by
  generalize htext : cs ++ '?' :: more = text at h
  cases h with
  | slash =>
    -- the slash in front would be that of the text itself
    obtain ⟨c, cs, rfl⟩ := List.exists_cons_of_ne_nil hne
    obtain rfl := (List.cons.inj htext).1
    exact absurd (.slash cs) (hno cs)
  | @host scheme host _ hscheme hslash hhost =>
    have hsplit : cs ++ '?' :: more = (scheme ++ ':' :: '/' :: '/' :: host) ++ '/' :: rest := by
      rw [htext]
      simp
    rcases List.append_eq_append_iff.mp hsplit with ⟨between, -, hmore⟩ | ⟨between, hcs, hrest⟩
    · cases between with
      | nil => exact absurd (List.cons.inj hmore).1 (by decide)
      | cons c between =>
        obtain ⟨-, rfl⟩ := List.cons.inj hmore
        exact ⟨between ++ ['/'], by simp⟩
    · cases between with
      | nil => exact absurd (List.cons.inj hrest).1 (by decide)
      | cons c between =>
        -- the slash behind the host is in the text, which then leads to a path
        obtain ⟨rfl, -⟩ := List.cons.inj hrest
        have hleads : LeadsToPath cs between := by
          rw [hcs]
          simpa using LeadsToPath.host between hscheme hslash hhost
        exact absurd hleads (hno between)

theorem withoutFragment_query (h : '#' ∉ target) (query : List Char) :
    withoutFragment (target ++ '?' :: query) = target ++ '?' :: withoutFragment query := by
  unfold withoutFragment
  rw [List.takeWhile_append_of_pos fun c hc => bne_iff_ne.mpr (ne_of_mem_of_not_mem hc h),
    List.takeWhile_cons_of_pos (by decide)]

/-- A question mark ends a run of slashes. -/
theorem dropWhile_slash_query (rest query : List Char) :
    (rest ++ '?' :: query).dropWhile (· == '/') = rest.dropWhile (· == '/') ++ '?' :: query := by
  rw [List.dropWhile_append]
  split
  next hempty =>
    rw [List.isEmpty_iff.mp hempty]
    rfl
  next => rfl

/-! ## URLs with a query -/

section
variable (hne : target ≠ []) (hhash : '#' ∉ target)
include hne hhash

/-- If the query does not reach the path, the URL is that of the target with the query behind it. -/
theorem normalizeUrl?_query (hquestion : '?' ∉ target) (h : KeepsPath target query) :
    ∃ url, normalizeUrl? target = some url ∧ '?' ∉ url ∧
      normalizeUrl? (target ++ '?' :: query) = some (url ++ '?' :: withoutFragment query) := by
  have hself := withoutFragment_eq_self hhash
  have hwith := withoutFragment_query hhash query
  by_cases hleads : ∃ rest, LeadsToPath target rest
  · obtain ⟨rest, hleads⟩ := hleads
    refine ⟨_, normalizeUrl?_of_leadsToPath (hself.symm ▸ hleads), fun hmem => ?_, ?_⟩
    · rcases List.mem_cons.mp hmem with hslash | hmem
      · simp at hslash
      · exact hquestion (hleads.suffix.subset (List.dropWhile_subset _ hmem))
    · rw [normalizeUrl?_of_leadsToPath (hwith.symm ▸ hleads.append ('?' :: withoutFragment query)),
        dropWhile_slash_query]
      rfl
  · have hnever := h.resolve_left hleads
    refine ⟨target, ?_, hquestion, ?_⟩
    · rw [normalizeUrl?_of_not_leadsToPath (hself.symm ▸ hne) (hself.symm ▸ not_exists.mp hleads), hself]
    · have hsome : withoutFragment (target ++ '?' :: query) ≠ [] := by simp [hwith]
      rw [normalizeUrl?_of_not_leadsToPath hsome (hwith.symm ▸ hnever), hwith]

/-- If it does, the URL of the target is the target, and with the query it is a path out of the query. -/
theorem normalizeUrl?_of_not_keepsPath (h : ¬ KeepsPath target query) : normalizeUrl? target = some target ∧
    ∃ rest, rest <:+ withoutFragment query ∧
      normalizeUrl? (target ++ '?' :: query) = some ('/' :: rest.dropWhile (· == '/')) := by
  have hself := withoutFragment_eq_self hhash
  have hwith := withoutFragment_query hhash query
  obtain ⟨hno, hreached⟩ := not_or.mp h
  have hno := not_exists.mp hno
  obtain ⟨rest, hleads⟩ := not_forall_not.mp hreached
  constructor
  · rw [normalizeUrl?_of_not_leadsToPath (hself.symm ▸ hne) (hself.symm ▸ hno), hself]
  · exact ⟨rest, hleads.suffix_of_not hne hno, normalizeUrl?_of_leadsToPath (hwith.symm ▸ hleads)⟩

end

/-! ## Targets of requests -/

theorem urlPath_of_no_query {url : String} (h : '?' ∉ url.toList) : urlPath url = url.toList :=
  List.takeWhile_eq_self_iff.mpr fun _ hc => bne_iff_ne.mpr (ne_of_mem_of_not_mem hc h)

/-- The path of a URL ends at its query. -/
theorem urlPath_query {url : String} (h : '?' ∉ url.toList) (query : String) :
    urlPath (url ++ "?" ++ query) = url.toList := by
  have hwith : (url ++ "?" ++ query).toList = url.toList ++ '?' :: query.toList := by simp
  have hpath : ∀ c ∈ url.toList, (c != '?') = true := fun c hc => bne_iff_ne.mpr (ne_of_mem_of_not_mem hc h)
  rw [urlPath, hwith, (takeWhile_append_of_head? hpath (by simp)).1]

/-- The path below a script hangs on the URL before its query only. -/
theorem scriptPath_congr {url url' : String} (h : urlPath url' = urlPath url) (scriptName script : Option String) :
    scriptPath url' scriptName script = scriptPath url scriptName script := by
  rw [scriptPath, scriptPath, h]

theorem scriptPath_none (url : String) : scriptPath url none none = String.ofList (urlPath url) := rfl

section
variable {target query : String} {t t' : Transport} (hne : target ≠ "") (hhash : '#' ∉ target.toList)
  (ht : t.requestUri = some target) (ht' : t'.requestUri = some (target ++ "?" ++ query))
include hne hhash ht ht'

omit hhash in
/-- The URLs of both requests come from their targets. -/
theorem requestUrl?_of_targets : requestUrl? t = (normalizeUrl? target.toList).map String.ofList ∧
    requestUrl? t' = (normalizeUrl? (target.toList ++ '?' :: query.toList)).map String.ofList := by
  have hwith : (target ++ "?" ++ query).toList = target.toList ++ '?' :: query.toList := by simp
  have hsome : target ++ "?" ++ query ≠ "" := by
    intro hempty
    rw [hempty] at hwith
    simp at hwith
  refine ⟨requestUrl?_of_target ht hne, ?_⟩
  rw [requestUrl?_of_target ht' hsome, hwith]

theorem requestUrl?_query (hquestion : '?' ∉ target.toList) (h : KeepsPath target.toList query.toList) :
    ∃ url, requestUrl? t = some url ∧ '?' ∉ url.toList ∧
      requestUrl? t' = some (url ++ "?" ++ String.ofList (withoutFragment query.toList)) := by
  obtain ⟨hurl, hurl'⟩ := requestUrl?_of_targets hne ht ht'
  have hnil : target.toList ≠ [] := fun h => hne (String.toList_eq_nil_iff.mp h)
  obtain ⟨url, hnormal, hnone, hnormal'⟩ := normalizeUrl?_query hnil hhash hquestion h
  refine ⟨String.ofList url, ?_, ?_, ?_⟩
  · rw [hurl, hnormal, Option.map_some]
  · rwa [String.toList_ofList]
  · have htext : String.ofList (url ++ '?' :: withoutFragment query.toList) =
        String.ofList url ++ "?" ++ String.ofList (withoutFragment query.toList) := by
      rw [← String.toList_inj]
      simp
    rw [hurl', hnormal', Option.map_some, htext]

theorem requestUrl?_of_not_keepsPath (h : ¬ KeepsPath target.toList query.toList) : requestUrl? t = some target ∧
    ∃ rest, rest <:+ withoutFragment query.toList ∧
      requestUrl? t' = some (String.ofList ('/' :: rest.dropWhile (· == '/'))) := by
  obtain ⟨hurl, hurl'⟩ := requestUrl?_of_targets hne ht ht'
  have hnil : target.toList ≠ [] := fun h => hne (String.toList_eq_nil_iff.mp h)
  obtain ⟨hnormal, rest, hrest, hnormal'⟩ := normalizeUrl?_of_not_keepsPath hnil hhash h
  refine ⟨?_, rest, hrest, ?_⟩
  · rw [hurl, hnormal, Option.map_some, String.ofList_toList]
  · rw [hurl', hnormal', Option.map_some]

end

namespace Request

variable {r r' : Request} {path : String}

/-- Requests of one site have one path if they have the same path information and URLs that differ in the query only. -/
theorem path_congr (hsite : r'.site = r.site) (hinfo : r'.pathInfo? = r.pathInfo?)
    (hscript : r'.transport.scriptName = r.transport.scriptName) {url url' : String}
    (hurl : requestUrl? r.transport = some url) (hurl' : requestUrl? r'.transport = some url')
    (hsame : urlPath url' = urlPath url) : r'.path = r.path := by
  cases hsome : r.pathInfo? with
  | some info => rw [Request.path, Request.path, hinfo, hsome]
  | none =>
    rw [path_of_url hsome hurl, path_of_url (hinfo.trans hsome) hurl', hsite, hscript, scriptPath_congr hsame]

/-- Requests of one site and one path get the same entry point, fields and bad path. -/
theorem routed_alike (hsite : r'.site = r.site) (hinfo : r'.pathInfo? = r.pathInfo?) (hbad : r'.badPath = r.badPath)
    (hentry : r.entry = none) (hentry' : r'.entry = none) (hpath : r.path = .ok path) (hpath' : r'.path = .ok path) :
    ∃ m fields badPath, r.detectEntry = .ok (r.enter m) ∧ r'.detectEntry = .ok (r'.enter m) ∧
      r.interpolateTitle = .ok { r.enter m with fields := r.fields.interpolate fields, badPath := badPath } ∧
      r'.interpolateTitle = .ok { r'.enter m with fields := r'.fields.interpolate fields, badPath := badPath } := by
  let m := r.site.entryPoints.detect path
  have hdetect : r.detectEntry = .ok (r.enter m) := detectEntry_of_path hpath
  have hdetect' : r'.detectEntry = .ok (r'.enter m) := by rw [detectEntry_of_path hpath', hsite]
  have hbrought : (r'.enter m).broughtFields = (r.enter m).broughtFields := broughtFields_congr hsite rfl hinfo
  have hlost : (r'.enter m).IsLost ↔ (r.enter m).IsLost := isLost_congr hsite rfl hinfo
  refine ⟨m, (r.enter m).broughtFields, if (r.enter m).IsLost then some m.subpath else r.badPath, hdetect, hdetect',
    ?_, ?_⟩
  · rw [interpolateTitle, hentry, hdetect]
    exact congrArg Except.ok (takeParams_eq (r.enter m))
  · rw [interpolateTitle, hentry', hdetect', ← hbrought, ← hbad]
    simp only [← hlost]
    exact congrArg Except.ok (takeParams_eq (r'.enter m))

/-- **The path and the query of a target.** Take a target without a query and a fragment, and the same with a query
behind it. If the query does not reach the path, the URL with the query is that without it, a question mark and the
query up to a fragment. Just then the paths below any script are the same; and requests without path information, on
the same site and with the same script, get the same entry point, the same fields of a path and the same bad path. All
targets that start with a slash, or go on with one behind a scheme and `://`, are such, whatever the query. Of any other
target that the query does reach, the URL is the target, and with the query it is a path out of the query. -/
theorem path_apart_from_query {target query : String} (hne : target ≠ "") (hquestion : '?' ∉ target.toList)
    (hhash : '#' ∉ target.toList) {t t' : Transport} (ht : t.requestUri = some target)
    (ht' : t'.requestUri = some (target ++ "?" ++ query)) :
    ∃ url url', requestUrl? t = some url ∧ requestUrl? t' = some url' ∧
      (KeepsPath target.toList query.toList →
        url' = url ++ "?" ++ String.ofList (withoutFragment query.toList)) ∧
      (KeepsPath target.toList query.toList ↔
        ∀ scriptName script, scriptPath url' scriptName script = scriptPath url scriptName script) ∧
      (KeepsPath target.toList query.toList → t'.scriptName = t.scriptName →
        ∀ site response freshId response' freshId',
          let r := receive site t response freshId
          let r' := receive site t' response' freshId'
          r.pathInfo? = none → r'.pathInfo? = none → ∃ m fields badPath,
            r.detectEntry = .ok (r.enter m) ∧ r'.detectEntry = .ok (r'.enter m) ∧
            r.interpolateTitle = .ok { r.enter m with fields := r.fields.interpolate fields, badPath := badPath } ∧
            r'.interpolateTitle =
              .ok { r'.enter m with fields := r'.fields.interpolate fields, badPath := badPath }) ∧
      ((target.toList.head? = some '/' ∨ ∃ scheme authority rest,
          target.toList = scheme ++ "://".toList ++ authority ++ '/' :: rest ∧ scheme ≠ [] ∧ '/' ∉ scheme) →
        KeepsPath target.toList query.toList) ∧
      (¬ KeepsPath target.toList query.toList → url = target ∧ ∃ rest,
        rest <:+ withoutFragment query.toList ∧ url' = String.ofList ('/' :: rest.dropWhile (· == '/'))) := by
  by_cases hkeeps : KeepsPath target.toList query.toList
  · obtain ⟨url, hurl, hnone, hurl'⟩ := requestUrl?_query hne hhash ht ht' hquestion hkeeps
    have hsame := (urlPath_query hnone (String.ofList (withoutFragment query.toList))).trans
      (urlPath_of_no_query hnone).symm
    refine ⟨url, _, hurl, hurl', fun _ => rfl, iff_of_true hkeeps (scriptPath_congr hsame), ?_, fun _ => hkeeps,
      fun h => absurd hkeeps h⟩
    intro _ hscript site response freshId response' freshId' r r' hinfo hinfo'
    have hpath := path_of_url hinfo hurl
    have hpath' := path_of_url hinfo' hurl'
    rw [scriptPath_congr hsame] at hpath'
    refine routed_alike rfl (hinfo'.trans hinfo.symm) rfl rfl rfl hpath ?_
    rw [hpath']
    exact congrArg (fun name => Except.ok (scriptPath url name (some site.config.paths.script))) hscript
  · obtain ⟨hurl, rest, hrest, hurl'⟩ := requestUrl?_of_not_keepsPath hne hhash ht ht' hkeeps
    have hno : ¬ ∃ rest, LeadsToPath target.toList rest := fun hleads => hkeeps (.inl hleads)
    refine ⟨target, _, hurl, hurl', fun h => absurd h hkeeps, iff_of_false hkeeps fun hsame => ?_,
      fun h => absurd h hkeeps, fun hlook => absurd (exists_leadsToPath_iff.mpr hlook) hno,
      fun _ => ⟨rfl, rest, hrest, rfl⟩⟩
    -- the path out of the query starts with a slash, and the target does not
    have hpaths := hsame none none
    rw [scriptPath_none, scriptPath_none, String.ofList_inj, urlPath_of_no_query hquestion] at hpaths
    refine hno ⟨target.toList.tail, ?_⟩
    have hslash : target.toList.head? = some '/' := by
      rw [← hpaths, urlPath, String.toList_ofList, List.takeWhile_cons_of_pos (by decide)]
      rfl
    obtain ⟨tail, htail⟩ := List.head?_eq_some_iff.mp hslash
    rw [htail]
    exact .slash tail

/-! ## Hosts without a path -/

/-- A target that is a host alone does not keep its path from a query with a slash. -/
theorem not_keepsPath_host : ¬ KeepsPath "http://wiki.example.org".toList "/w/api.php".toList := by
  intro h
  obtain ⟨url, hurl, -, hurl'⟩ := normalizeUrl?_query (by decide) (by decide) (by decide) h
  have hself : normalizeUrl? "http://wiki.example.org".toList = some "http://wiki.example.org".toList := by
    decide +kernel
  have hquery : normalizeUrl? ("http://wiki.example.org".toList ++ '?' :: "/w/api.php".toList) =
      some "/w/api.php".toList := by
    decide +kernel
  obtain rfl := Option.some.inj (hself.symm.trans hurl)
  exact absurd (hquery.symm.trans hurl') (by decide)

/-- A query that looks like a URL behind the path of an article, and one that is a path behind a host. -/
theorem path_apart_from_query_hostile :
    let query := "x://evil.example/w/api.php#top"
    let plain : Transport := { requestUri := some "/wiki/Foo" }
    let hostile : Transport := { requestUri := some ("/wiki/Foo" ++ "?" ++ query) }
    (∃ url url', requestUrl? plain = some url ∧ requestUrl? hostile = some url' ∧
      url' = url ++ "?" ++ String.ofList (withoutFragment query.toList) ∧
      (∀ scriptName script, scriptPath url' scriptName script = scriptPath url scriptName script) ∧
      ∃ site, Site.compile openOrigin = .ok site ∧ ∃ m,
        (receive site plain (.recorded {}) "r1").detectEntry = .ok ((receive site plain (.recorded {}) "r1").enter m) ∧
        (receive site hostile (.recorded {}) "r2").detectEntry =
          .ok ((receive site hostile (.recorded {}) "r2").enter m)) ∧
    ∃ url rest, requestUrl? { requestUri := some "http://wiki.example.org" } = some url ∧
      url = "http://wiki.example.org" ∧ rest <:+ withoutFragment "/w/api.php".toList := by
  intro query plain hostile
  constructor
  · obtain ⟨url, url', hurl, hurl', happend, hpaths, hrouted, hslash, -⟩ :=
      @path_apart_from_query "/wiki/Foo" query (by decide) (by decide) (by decide) plain hostile rfl rfl
    have hkeeps := hslash (.inl rfl)
    obtain ⟨site, hsite, -⟩ := exists_compile_openOrigin
    obtain ⟨m, -, -, hdetect, hdetect', -⟩ := hrouted hkeeps rfl site (.recorded {}) "r1" (.recorded {}) "r2"
      (pathInfo?_of_none rfl rfl) (pathInfo?_of_none rfl rfl)
    exact ⟨url, url', hurl, hurl', happend hkeeps, hpaths.mp hkeeps, site, hsite, m, hdetect, hdetect'⟩
  · obtain ⟨url, url', hurl, -, -, -, -, -, hout⟩ :=
      @path_apart_from_query "http://wiki.example.org" "/w/api.php" (by decide) (by decide) (by decide)
        { requestUri := some "http://wiki.example.org" }
        { requestUri := some ("http://wiki.example.org" ++ "?" ++ "/w/api.php") } rfl rfl
    obtain ⟨hself, rest, hrest, -⟩ := hout not_keepsPath_host
    exact ⟨url, rest, hurl, hself, hrest⟩

/-- **A path out of the query.** A target that is a host alone selects the entry point for pages; with a query that
starts with a slash, the query is the path and selects the entry point of programs. -/
theorem path_out_of_query :
    let plain : Transport := { requestUri := some "http://wiki.example.org" }
    let queried : Transport := { requestUri := some ("http://wiki.example.org" ++ "?" ++ "/w/api.php") }
    requestUrl? plain = some "http://wiki.example.org" ∧ requestUrl? queried = some "/w/api.php" ∧
    scriptPath "/w/api.php" none none ≠ scriptPath "http://wiki.example.org" none none ∧
    ∃ site, Site.compile openOrigin = .ok site ∧
      (site.entryPoints.detect (scriptPath "http://wiki.example.org" none (some site.config.paths.script))).name =
        "index" ∧
      (site.entryPoints.detect (scriptPath "/w/api.php" none (some site.config.paths.script))).name = programEntry := by
  intro plain queried
  have hurl : requestUrl? plain = some "http://wiki.example.org" := by
    unfold plain
    decide +kernel
  have hurl' : requestUrl? queried = some "/w/api.php" := by
    unfold queried
    decide +kernel
  obtain ⟨site, hsite, hconfig⟩ := exists_compile_openOrigin
  have hfound : (EntryPointTable.ofList usualEntryPoints "index").map (fun table =>
      ((table.detect (scriptPath "http://wiki.example.org" none (some openOrigin.paths.script))).name,
        (table.detect (scriptPath "/w/api.php" none (some openOrigin.paths.script))).name)) =
      .ok ("index", programEntry) := by decide +kernel
  have hnames := (Site.compiledFrom_of_compile hsite).2.of_map_entryPoints hfound
  obtain ⟨hindex, hprogram⟩ := Prod.mk.inj hnames
  refine ⟨hurl, hurl', by decide +kernel, site, hsite, ?_, ?_⟩
  · rw [hconfig]
    exact hindex
  · rw [hconfig]
    exact hprogram

end Request

end WikiGateway
