import WikiGateway.Inspect.Report
import WikiGateway.Proofs.Fields.Form
import WikiGateway.Proofs.Fields.WrittenOut
import WikiGateway.Proofs.Request.Queries
import WikiGateway.Proofs.Server.Answer
import WikiGateway.Proofs.Text.Trim
import WikiGateway.Proofs.Text.Utf8

/-!
# Fragments of targets by hand

The inspection tool describes a target that starts with a slash without looking for its parts first. The path ends at
the first question mark or number sign, but the query is all that follows the first question mark, a number sign before
or behind it notwithstanding. Of two targets with one path, the descriptions differ in the fields alone, and those hang
on the query alone (`describe?_alike`).

* `transport?_of_slash`: such a target is handed over as it stands.
* `urlPath_of_slash`: where its path ends.
* `RequestArguments.describe?_fragment`: what becomes of a fragment.
* `RequestArguments.describe?_reads_fragment`: a fragment that is read as part of a query.
-/

namespace WikiGateway

/-! ## Targets that start with a slash -/

/-- A text that starts with a slash is no absolute URL. -/
theorem Url.parse?_of_slash {target : String} {rest : List Char} (h : target.toList = '/' :: rest) :
    Url.parse? target = none := by
  have htrim : Text.trimBoth Url.isOuterBlank ('/' :: rest) = '/' :: Text.trimEnd Url.isOuterBlank rest := by
    rw [Text.trimBoth, List.dropWhile_cons_of_neg (by decide)]
    exact Text.trimEnd_append_cons (by decide) [] rest
  have hscheme : ∀ cs, takeScheme? ('/' :: cs) = none := fun cs => rfl
  rw [Url.parse?, h, htrim, List.filter_cons_of_pos (by decide)]
  simp only [hscheme]

/-- The characters that go on with the path of a target. -/
def isTargetPathChar (c : Char) : Bool := c != '#' && c != '?'

/-- Slashes in front may be dropped after a run that takes them. -/
theorem takeWhile_dropWhile_slash {p : Char → Bool} (hp : p '/' = true) (cs : List Char) :
    (cs.dropWhile (· == '/')).takeWhile p = (cs.takeWhile p).dropWhile (· == '/') := by
  induction cs with
  | nil => rfl
  | cons c cs ih =>
    by_cases hslash : c = '/'
    · subst hslash
      rw [List.dropWhile_cons_of_pos (by decide), List.takeWhile_cons_of_pos hp, List.dropWhile_cons_of_pos (by decide),
        ih]
    · rw [List.dropWhile_cons_of_neg (by simpa using hslash)]
      by_cases hc : p c = true
      · rw [List.takeWhile_cons_of_pos hc, List.dropWhile_cons_of_neg (by simpa using hslash)]
      · rw [List.takeWhile_cons_of_neg hc]
        rfl

/-- The path of such a target ends at the first question mark or number sign. -/
theorem urlPath_of_slash {t : Transport} {target : String} {rest : List Char} (ht : t.requestUri = some target)
    (h : target.toList = '/' :: rest) : ∃ url, requestUrl? t = some url ∧
      urlPath url = '/' :: (rest.takeWhile isTargetPathChar).dropWhile (· == '/') := by
  have hne : target ≠ "" := fun hempty => by simp [hempty] at h
  have hleads : LeadsToPath (withoutFragment target.toList) (withoutFragment rest) := h ▸ .slash _
  have hpath : (withoutFragment rest).takeWhile (· != '?') = rest.takeWhile isTargetPathChar := by
    rw [withoutFragment, List.takeWhile_takeWhile]
    refine congrArg (rest.takeWhile ·) (funext fun c => ?_)
    rw [Bool.eq_iff_iff]
    simp [isTargetPathChar, and_comm]
  refine ⟨String.ofList ('/' :: (withoutFragment rest).dropWhile (· == '/')), ?_, ?_⟩
  · rw [requestUrl?_of_target ht hne, normalizeUrl?_of_leadsToPath hleads, Option.map_some]
  · rw [urlPath, String.toList_ofList, List.takeWhile_cons_of_pos (by decide), takeWhile_dropWhile_slash (by decide),
      hpath]

/-! ## Transports with another target -/

/-- The transport with another target and query. -/
def Transport.retarget (t : Transport) (target : String) (query : Option String) : Transport :=
  { t with queryString := query, requestUri := some target }

namespace Inspect.RequestArguments

open Request

variable {r : RequestArguments}

theorem placeHeaders?_retarget (target : String) (query : Option String) (texts : List String) (t : Transport) :
    placeHeaders? texts (t.retarget target query) = (placeHeaders? texts t).map (·.retarget target query) := by
  induction texts generalizing t with
  | nil => rfl
  | cons text texts ih =>
    rw [placeHeaders?, placeHeaders?, Option.map_bind]
    exact congrArg _ (funext fun field => ih (t.addHeader field.1 field.2))

theorem placeBody_retarget (target : String) (query : Option String) (t : Transport) :
    r.placeBody (t.retarget target query) = (r.placeBody t).retarget target query := by
  unfold placeBody
  split
  · rfl
  · split <;> rfl

/-- The request without a target. -/
def bare? (r : RequestArguments) : Option Transport :=
  (placeHeaders? r.headers { method := some (Text.upperAscii r.method), remoteAddr := some r.remoteAddr }).map
    r.placeBody

/-- What follows the first question mark of a target. -/
def targetQuery? (target : String) : Option String :=
  (Text.cut? (· == '?') target.toList).map fun (_, query) => String.ofList query

/-- A target that starts with a slash is handed over as it stands, and so is what follows its first question mark. -/
theorem transport?_of_slash {target : String} {rest : List Char} (h : target.toList = '/' :: rest) :
    { r with url := target }.transport? = r.bare?.map (·.retarget target (targetQuery? target)) := by
  have hplace : ∀ t, placeUrl target t = (t, target) := fun t => by rw [placeUrl, Url.parse?_of_slash h]
  have hbody : r.placeBody ∘ (·.retarget target (targetQuery? target)) =
      (·.retarget target (targetQuery? target)) ∘ r.placeBody := funext fun t => placeBody_retarget _ _ t
  simp only [transport?, hplace]
  rw [bare?, Option.map_map, ← hbody, ← Option.map_map, ← placeHeaders?_retarget]
  rfl

end Inspect.RequestArguments

/-! ## Descriptions -/

/-- The description with the fields of a store. -/
def Description.withFields (d : Description) (fields : FieldStore) : Description :=
  { d with params := fields.values [], query := fields.queryAndPath }

/-- The description without its fields. -/
def Description.fieldless (d : Description) : Description := { d with params := .empty, query := .empty }

namespace Inspect.RequestArguments

open Request

variable {r : RequestArguments}

/-- Other fields change the description in the fields only. -/
theorem describe_withFields (s : Request) (fields : FieldStore) :
    { s with fields := fields }.describe.toOption = s.describe.toOption.map (·.withFields fields) := by
  rw [describe, describe]
  show (s.clientIp.map _).toOption = _
  cases s.clientIp <;> rfl

/-- The fields of the query of a target. -/
def queryFields (site : Site) (target : String) : FieldMap :=
  ((targetQuery? target).map fun query => parseForm site.legacyEncoding (Text.encode query)).getD .empty

theorem ofTransport_retarget (t : Transport) (site : Site) (target : String) :
    FieldStore.ofTransport (t.retarget target (targetQuery? target)) site.legacyEncoding =
      .ofMaps (queryFields site target) (if t.hasForm then parseForm none t.body else .empty) := by
  unfold queryFields
  cases targetQuery? target <;> rfl

/-- A target that starts with a slash is described as the request that is handed over is. -/
theorem describe?_of_slash {target : String} {rest : List Char} (h : target.toList = '/' :: rest) (site : Site)
    (freshId : String) : { r with url := target }.describe? site freshId = r.bare?.bind fun t =>
      (receive site (t.retarget target (targetQuery? target)) (.recorded {}) freshId).interpolateTitle.toOption.bind
        fun routed => routed.describe.toOption := by
  rw [describe?, transport?_of_slash h]
  cases r.bare? <;> rfl

/-- Targets with one path are described alike but for the fields, which hang on the query alone. -/
theorem describe?_alike {target target' : String} {rest rest' : List Char} (h : target.toList = '/' :: rest)
    (h' : target'.toList = '/' :: rest') (hpath : rest'.takeWhile isTargetPathChar = rest.takeWhile isTargetPathChar)
    (site : Site) (freshId : String) : ∃ described : FieldMap → Option Description,
      { r with url := target }.describe? site freshId = described (queryFields site target) ∧
      { r with url := target' }.describe? site freshId = described (queryFields site target') ∧
      ∀ query query', (described query).map Description.fieldless = (described query').map Description.fieldless := by
  rw [describe?_of_slash h, describe?_of_slash h']
  cases r.bare? with
  | none => exact ⟨fun _ => none, rfl, rfl, fun _ _ => rfl⟩
  | some t =>
    let s := receive site (t.retarget target (targetQuery? target)) (.recorded {}) freshId
    let s' := receive site (t.retarget target' (targetQuery? target')) (.recorded {}) freshId
    obtain ⟨url, hurl, hpart⟩ := urlPath_of_slash (t := s.transport) rfl h
    obtain ⟨url', hurl', hpart'⟩ := urlPath_of_slash (t := s'.transport) rfl h'
    have hsame : urlPath url' = urlPath url := by rw [hpart, hpart', hpath]
    obtain ⟨path, hpath⟩ := exists_path_iff.mpr (.inr (hurl.symm ▸ Option.some_ne_none url))
    have hpath' : s'.path = .ok path := (@path_congr s s' rfl rfl rfl _ _ hurl hurl' hsame).trans hpath
    obtain ⟨m, brought, badPath, -, -, hrouted, hrouted'⟩ := @routed_alike s s' path rfl rfl rfl rfl rfl hpath hpath'
    let routed : Request := { s.enter m with badPath := badPath }
    let store (query : FieldMap) : FieldStore :=
      (FieldStore.ofMaps query (if t.hasForm then parseForm none t.body else .empty)).interpolate brought
    have hfields : s.fields.interpolate brought = store (queryFields site target) :=
      congrArg (FieldStore.interpolate · brought) (ofTransport_retarget t site target)
    have hfields' : s'.fields.interpolate brought = store (queryFields site target') :=
      congrArg (FieldStore.interpolate · brought) (ofTransport_retarget t site target')
    rw [hfields] at hrouted
    rw [hfields'] at hrouted'
    refine ⟨fun query => routed.describe.toOption.map (·.withFields (store query)), ?_, ?_, fun query query' => ?_⟩
    · rw [Option.bind_some, hrouted]
      exact describe_withFields routed _
    · -- the transport differs, but in nothing that is described
      have halike : { s'.enter m with fields := s.fields, badPath := badPath }.describe = routed.describe := rfl
      rw [Option.bind_some, hrouted', ← halike]
      exact describe_withFields { s'.enter m with fields := s.fields, badPath := badPath } _
    · rw [Option.map_map, Option.map_map]
      rfl

/-- So targets with one path and one query are described alike. -/
theorem describe?_congr {target target' : String} {rest rest' : List Char} (h : target.toList = '/' :: rest)
    (h' : target'.toList = '/' :: rest') (hpath : rest'.takeWhile isTargetPathChar = rest.takeWhile isTargetPathChar)
    {site : Site} (hquery : queryFields site target' = queryFields site target) (freshId : String) :
    { r with url := target' }.describe? site freshId = { r with url := target }.describe? site freshId := by
  obtain ⟨described, htarget, htarget', -⟩ := describe?_alike (r := r) h h' hpath site freshId
  rw [htarget, htarget', hquery]

/-! ## Fragments -/

theorem targetQuery?_of_not_mem {target : String} (h : '?' ∉ target.toList) : targetQuery? target = none := by
  rw [targetQuery?, Text.cut?_eq_none_of_not_mem h, Option.map_none]

/-- The query is what follows the first question mark. -/
theorem targetQuery?_of_append {target query : String} {front : List Char}
    (h : target.toList = front ++ '?' :: query.toList) (hfront : '?' ∉ front) : targetQuery? target = some query := by
  rw [targetQuery?, h, Text.cut?_append_cons_self hfront]
  exact congrArg some String.ofList_toList

/-- A fragment behind a query is read as part of it, and its mark as though it were written out. -/
theorem queryFields_fragment (site : Site) {target : String} (h : '?' ∈ target.toList) (fragment : String) :
    queryFields site (target ++ "#" ++ fragment) = queryFields site (target ++ "%23" ++ fragment) := by
  obtain ⟨front, query, htarget, hfront⟩ := List.eq_append_cons_of_mem h
  have hquery : ∀ mark : String, targetQuery? (target ++ mark ++ fragment) =
      some (String.ofList query ++ mark ++ fragment) := fun mark =>
    targetQuery?_of_append (by simp [htarget]) hfront
  have hout : Text.encode "%23" = Text.writtenOut 0x23 := rfl
  have hself : Text.encode "#" = [0x23] := rfl
  have halike : DecodesAlike (Text.writtenOut 0x23) [0x23] := decodesAlike_writtenOut (by decide) (by decide)
  rw [queryFields, queryFields, hquery, hquery, Option.map_some, Option.map_some, Text.encode_append,
    Text.encode_append, Text.encode_append, Text.encode_append, hout, hself, List.append_assoc, List.append_assoc,
    halike.parseForm_eq]

/-- The usual encoding has a label among those of the catalogue. -/
theorem lookup?_usual : Encoding.lookup? "windows-1252" ≠ none := by
  rw [← Option.isSome_iff_ne_none, Encoding.lookup?, List.find?_isSome]
  refine ⟨Encoding.all[21], List.getElem_mem _, ?_⟩
  have hlabels : Encoding.all[21].labels.toList = _ ++ _ := String.toList_append
  rw [hlabels, String.toList_ofList, String.toList_ofList, String.toList_ofList]
  decide +kernel

/-- The settings that stand where no file is named make a site. -/
theorem exists_compile_default [MultiByteDecoders] : ∃ site, Site.compile {} = .ok site ∧ site.config = {} := by
  refine Site.exists_compile_config (SiteConfig.problems_eq_nil_iff.mpr fun s => ?_)
  cases s with
  | legacyEncoding =>
    -- the catalogue is not searched from its start
    rw [SiteConfig.problemsOf, problemIf, if_neg]
    exact fun h => lookup?_usual h.2
  | _ => decide +kernel

/-- **Fragments of targets by hand.** The path of a target that starts with a slash never sees a fragment behind it:
with the fragment, the request is described as without, but for its fields. The query does see the fragment. If there
is no question mark, neither before nor in the fragment, nothing changes. If the first one is in the fragment, what
follows it is the query, as though nothing stood between the target and it. And if it is before the fragment, the
fragment belongs to the query as though its mark were percent-encoded. -/
theorem describe?_fragment {r : RequestArguments} (hslash : r.url.toList.head? = some '/') (fragment : String)
    (site : Site) (freshId : String) :
    let described (url : String) := { r with url := url }.describe? site freshId
    (described (r.url ++ "#" ++ fragment)).map Description.fieldless = (described r.url).map Description.fieldless ∧
    ('?' ∉ r.url.toList → '?' ∉ fragment.toList → described (r.url ++ "#" ++ fragment) = described r.url) ∧
    ('?' ∉ r.url.toList → ∀ anchor query, fragment = anchor ++ "?" ++ query → '?' ∉ anchor.toList →
      described (r.url ++ "#" ++ fragment) = described (r.url ++ "?" ++ query)) ∧
    ('?' ∈ r.url.toList → described (r.url ++ "#" ++ fragment) = described (r.url ++ "%23" ++ fragment)) := by
  intro described
  obtain ⟨rest, hrest⟩ := List.head?_eq_some_iff.mp hslash
  have htext : ∀ mark more : String, (r.url ++ mark ++ more).toList = '/' :: (rest ++ (mark.toList ++ more.toList)) :=
    fun mark more => by simp [hrest]
  have hfragment : (rest ++ ("#".toList ++ fragment.toList)).takeWhile isTargetPathChar =
      rest.takeWhile isTargetPathChar := Text.takeWhile_append_cons (by decide) rest fragment.toList
  refine ⟨?_, fun hurl hfragment' => ?_, fun hurl anchor query hquery hanchor => ?_, fun hurl => ?_⟩
  · obtain ⟨_, hplain, hwith, hfieldless⟩ := describe?_alike (r := r) hrest (htext "#" fragment) hfragment site freshId
    unfold described
    rw [hplain, hwith]
    exact hfieldless _ _
  · refine describe?_congr hrest (htext "#" fragment) hfragment ?_ freshId
    rw [queryFields, queryFields, targetQuery?_of_not_mem hurl, targetQuery?_of_not_mem (by simp [hurl, hfragment'])]
  · subst hquery
    refine describe?_congr (htext "?" query) (htext "#" _) (hfragment.trans ?_) ?_ freshId
    · exact (Text.takeWhile_append_cons (by decide) rest query.toList).symm
    · have hwith : targetQuery? (r.url ++ "?" ++ query) = some query := targetQuery?_of_append (by simp) hurl
      have hbehind : targetQuery? (r.url ++ "#" ++ (anchor ++ "?" ++ query)) = some query :=
        @targetQuery?_of_append _ _ (r.url.toList ++ '#' :: anchor.toList) (by simp) (by simp [hurl, hanchor])
      rw [queryFields, queryFields, hwith, hbehind]
  · refine describe?_congr (htext "%23" fragment) (htext "#" fragment) (hfragment.trans ?_)
      (queryFields_fragment site hurl fragment) freshId
    -- the path ends before both marks
    obtain ⟨path, query, rfl, -⟩ : ∃ path query, rest = path ++ '?' :: query ∧ '?' ∉ path :=
      List.eq_append_cons_of_mem (by simpa [hrest] using hurl)
    rw [List.append_assoc, List.cons_append, Text.takeWhile_append_cons (by decide),
      Text.takeWhile_append_cons (by decide)]

/-- An article with a fragment, one with a question mark in it, and one behind a query. -/
theorem describe?_fragment_article : ∃ site, Site.compile {} = .ok site ∧
    let described (url : String) := RequestArguments.describe? { url := url } site "r1"
    described ("/wiki/Foo" ++ "#" ++ "History") = described "/wiki/Foo" ∧
    described ("/wiki/Foo" ++ "#" ++ "a?action=edit") = described ("/wiki/Foo" ++ "?" ++ "action=edit") ∧
    described ("/wiki/Foo?oldid=1" ++ "#" ++ "History") = described ("/wiki/Foo?oldid=1" ++ "%23" ++ "History") := by
  obtain ⟨site, hsite, -⟩ := exists_compile_default
  refine ⟨site, hsite, ?_, ?_, ?_⟩
  · exact (@describe?_fragment { url := "/wiki/Foo" } rfl "History" site "r1").2.1 (by decide) (by decide)
  · exact (@describe?_fragment { url := "/wiki/Foo" } rfl "a?action=edit" site "r1").2.2.1 (by decide) "a" "action=edit"
      (by decide) (by decide)
  · exact (@describe?_fragment { url := "/wiki/Foo?oldid=1" } rfl "History" site "r1").2.2.2 (by decide)

/-- The query of a request for programs is described as it is read. -/
theorem describe?_program [MultiByteDecoders] {site : Site} (hsite : Site.compile {} = .ok site) {target : String}
    {rest : List Char} (h : target.toList = '/' :: rest) (hpath : rest.takeWhile isTargetPathChar = "w/api.php".toList)
    (freshId : String) : (RequestArguments.describe? { url := target } site freshId).map (·.query.toList) =
      some (queryFields site target).toList := by
  have hfrom := (Site.compiledFrom_of_compile hsite).2
  let t : Transport := { method := some (Text.upperAscii "GET"), remoteAddr := some "127.0.0.1" }
  let s := receive site (t.retarget target (targetQuery? target)) (.recorded {}) freshId
  let path := scriptPath "/w/api.php" none (some ({} : SiteConfig).paths.script)
  have hspath : s.path = .ok path := by
    obtain ⟨url, hurl, hpart⟩ := @urlPath_of_slash s.transport target rest rfl h
    have hsame : urlPath url = urlPath "/w/api.php" := by
      rw [hpart, hpath]
      decide +kernel
    rw [path_of_url (r := s) (pathInfo?_of_none rfl rfl) hurl, scriptPath_congr hsame]
    exact congrArg (fun c : SiteConfig => Except.ok (scriptPath "/w/api.php" none (some c.paths.script))) hfrom.config
  have hfound : (EntryPointTable.ofList usualEntryPoints "index").map (fun table => (table.detect path).name) =
      .ok programEntry := by decide +kernel
  have hname : (s.enter (site.entryPoints.detect path)).entryName = programEntry := hfrom.of_map_entryPoints hfound
  have hrouted : s.interpolateTitle = .ok (s.enter (site.entryPoints.detect path)) := by
    rw [interpolateTitle, show s.entry = none from rfl, detectEntry_of_path hspath]
    show Except.ok (takeParams (s.enter (site.entryPoints.detect path))) = _
    rw [takeParams, if_pos hname]
  have hip : (s.enter (site.entryPoints.detect path)).clientIp = .ok (.v4 0x7F000001) := by
    have hremote : ((some "127.0.0.1").map Text.trim).filter (· != "") = some "127.0.0.1" := by decide +kernel
    have haddress : clientAddress? "127.0.0.1" = some (.v4 0x7F000001) := by decide +kernel
    have hclient : ∀ proxies allowPrivate,
        resolveClient proxies allowPrivate (some "127.0.0.1") none = .ok (.v4 0x7F000001) := by
      intro proxies allowPrivate
      rw [resolveClient, hremote]
      simp only [haddress]
      rfl
    exact (clientIp_eq rfl).trans (congrArg (Except.mapError RequestError.client) (hclient _ _))
  rw [@describe?_of_slash { url := target } target rest h, show bare? { url := target } = some t from rfl]
  show (s.interpolateTitle.toOption.bind fun routed => routed.describe.toOption).map (·.query.toList) = _
  rw [hrouted]
  show (describe _).toOption.map _ = _
  rw [describe, hip]
  show some (FieldStore.ofTransport _ _).queryAndPath.toList = _
  rw [ofTransport_retarget]
  rfl

/-- **Fragments that are read.** A fragment behind a query changes the field in front of it. -/
theorem describe?_reads_fragment : ∃ site, Site.compile {} = .ok site ∧
    let described (url : String) := RequestArguments.describe? { url := url } site "r1"
    (described "/w/api.php?x=1").map (·.query.toList) = some [("x", .scalar "1")] ∧
    (described ("/w/api.php?x=1" ++ "#" ++ "top")).map (·.query.toList) = some [("x", .scalar "1#top")] ∧
    described ("/w/api.php?x=1" ++ "#" ++ "top") ≠ described "/w/api.php?x=1" := by
  obtain ⟨site, hsite, -⟩ := exists_compile_default
  have hlegacy := (Site.compiledFrom_of_compile hsite).2.legacyEncoding
  have hquery : ∀ query, (parseForm site.legacyEncoding (Text.encode query)).toList =
      fieldsOf (formOccurrences (Encoding.ofLabel? "windows-1252") (Text.encode query)) := fun query => by
    rw [hlegacy]
    exact (parseForm_meaning _ _).2.1
  have hplain : (queryFields site "/w/api.php?x=1").toList = [("x", .scalar "1")] := by
    refine (hquery "x=1").trans ?_
    decide +kernel
  have hread : (queryFields site ("/w/api.php?x=1" ++ "#" ++ "top")).toList = [("x", .scalar "1#top")] := by
    refine (hquery "x=1#top").trans ?_
    decide +kernel
  have hdescribed := @describe?_program _ site hsite "/w/api.php?x=1" _ rfl (by decide) "r1"
  have hdescribed' := @describe?_program _ site hsite ("/w/api.php?x=1" ++ "#" ++ "top") _ rfl (by decide) "r1"
  rw [hplain] at hdescribed
  rw [hread] at hdescribed'
  refine ⟨site, hsite, hdescribed, hdescribed', fun hsame => ?_⟩
  have hfields := congrArg (Option.map fun d : Description => d.query.toList) hsame
  exact absurd (hdescribed'.symm.trans (hfields.trans hdescribed)) (by decide)

end Inspect.RequestArguments

end WikiGateway
