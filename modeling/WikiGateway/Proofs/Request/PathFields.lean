import WikiGateway.Proofs.Config.Sections
import WikiGateway.Proofs.Config.Tables
import WikiGateway.Proofs.Fields.Form
import WikiGateway.Proofs.Fields.StoreRuns
import WikiGateway.Proofs.Request.Routing

/-!
# The fields that a path brings

A path that leads to a template brings its parameters into the fields of a request, each under its name as it is written
(`FieldStore.get?_interpolate`). Reads and removals take a dot in a name for an underscore, so that a parameter with a
dot in its name is there and cannot be reached.

* `FieldStore.getRaw?_interpolate`: what a read finds.
* `FieldStore.get?_unset`: what a removal takes away.
* `Request.path_fields`: the parameters of a path, as they are read and removed.
-/

namespace WikiGateway

namespace FieldStore

variable {s : FieldStore} {name : String}

/-- Fields of a path, no two of one name, come before those that were there. -/
theorem get?_interpolate : ∀ {fields : List (String × String)} {s : FieldStore}, (fields.map Prod.fst).Nodup →
    (s.interpolate fields).merged.get? name = ((valueOf? fields name).map .scalar).or (s.merged.get? name)
  | [], _, _ => rfl
  | (first, text) :: fields, s, h => by
    obtain ⟨hfirst, hrest⟩ := List.nodup_cons.mp h
    show (FieldStore.interpolate _ fields).merged.get? name = _
    rw [get?_interpolate hrest, valueOf?_cons]
    split
    next hname =>
      subst hname
      rw [valueOf?_eq_none_iff.mpr hfirst]
      exact FieldMap.get?_write_self s.merged (first, some (.scalar text))
    next hname =>
      have hkept := FieldMap.get?_write_of_ne s.merged (w := (first, some (.scalar text))) (Ne.symm hname)
      exact congrArg (Option.or _) hkept

/-- A read finds what the path has for the name with underscores for its dots, and otherwise what was there. -/
theorem getRaw?_interpolate {fields : List (String × String)} (h : (fields.map Prod.fst).Nodup) :
    (s.interpolate fields).getRaw? name = (valueOf? fields (lookupName name)).or (s.getRaw? name) := by
  rw [getRaw?, lookup?, get?_interpolate h, getRaw?, lookup?]
  cases valueOf? fields (lookupName name) <;> rfl

/-- A name without dots is removed, and a name with dots stays. -/
theorem get?_unset : (s.unset name).merged.get? name = if '.' ∈ name.toList then s.merged.get? name else none := by
  split
  next hdot =>
    refine FieldMap.get?_remove_of_ne fun hsame => ?_
    exact dot_not_mem_lookupName name (hsame ▸ hdot)
  next hdot =>
    rw [unset, lookupName_eq_self hdot]
    exact FieldMap.get?_remove_self

end FieldStore

namespace Request

/-- **The fields that a path brings.** Below any entry point but that of programs, a path that leads to a template
brings its parameters into the fields, each under its own name. A read puts underscores for the dots of a name, and
finds what the path has for this, or else what it found before. So a parameter without dots in its name is read as the
path has it, whatever the query and the body say, and can be removed; one with dots in its name cannot. -/
theorem path_fields [MultiByteDecoders] {c : SiteConfig} {r s : Request} (hsite : Site.compile c = .ok r.site)
    (htables : c.paths.HasParamTables) (h : r.interpolateTitle = .ok s) :
    (s.entryName = programEntry → s.fields = r.fields) ∧
    (s.entryName ≠ programEntry → ∀ index params, s.site.router.route s.subpath = .matched index params →
      (∀ name, s.fields.getRaw? name = (valueOf? params (lookupName name)).or (r.fields.getRaw? name)) ∧
      ∀ name value, (name, value) ∈ params →
        s.fields.merged.get? name = some (.scalar value) ∧
        ('.' ∉ name.toList → s.fields.getRaw? name = some value ∧ (s.fields.unset name).merged.get? name = none) ∧
        ('.' ∈ name.toList → (s.fields.unset name).merged.get? name = some (.scalar value))) := by
  obtain ⟨m, hrouted⟩ := exists_routed h
  refine ⟨hrouted.fields_of_program, fun hother index params hroute => ?_⟩
  have hfields : s.fields = r.fields.interpolate params := hrouted.fields_of_matched hother hroute
  have hrouter : siteRouter c.paths = .ok s.site.router := by
    rw [hrouted.site_eq]
    exact (Site.compiledFrom_of_compile hsite).2.router
  have hnames := PathSettings.nodup_of_route htables hrouter hroute
  rw [hfields]
  refine ⟨fun name => FieldStore.getRaw?_interpolate hnames, fun name value hmem => ?_⟩
  have hvalue : valueOf? params name = some value := (valueOf?_eq_some_iff_mem hnames).mpr hmem
  have hthere : (r.fields.interpolate params).merged.get? name = some (.scalar value) := by
    rw [FieldStore.get?_interpolate hnames, hvalue]
    rfl
  refine ⟨hthere, fun hdot => ⟨?_, ?_⟩, fun hdot => ?_⟩
  · rw [FieldStore.getRaw?_interpolate hnames, lookupName_eq_self hdot, hvalue]
    rfl
  · rw [FieldStore.get?_unset, if_neg hdot]
  · rw [FieldStore.get?_unset, if_pos hdot, hthere]

/-! ## A route for revisions -/

/-- The settings of a site with a route for revisions, whose number has some name. -/
def revisionRoute (name : String) : SiteConfig := {
  paths := { extraRoutes := [{ template := "/rev/$1", params := [(name, "$1")] }] }
  request := { legacyEncoding := "" } }

/-- The document of these settings. -/
def revisionDocument (name : String) : String :=
  "[request]\nlegacy_encoding = \"\"\n[[paths.extra_router_paths]]\ntemplate = \"/rev/$1\"\n" ++
    "[paths.extra_router_paths.params]\n\"" ++ name ++ "\" = \"$1\"\n"

/-- A request for a revision. -/
def revisionTarget : Transport := { requestUri := some "/rev/42" }

/-- The parameters of its path. -/
def revisionParams (name : String) : List (String × String) := [("title", "42"), (name, "42")]

/-- On such a site, a request for a revision is one for pages. -/
theorem exists_routed_revision [MultiByteDecoders] {name : String} {site : Site}
    (hsite : Site.compile (revisionRoute name) = .ok site) :
    let r := receive site revisionTarget (.recorded {}) "r1"
    ∃ s, r.interpolateTitle = .ok s ∧ (r.enter ⟨"index", "/rev/42"⟩).Routed s := by
  intro r
  have hfrom := (Site.compiledFrom_of_compile hsite).2
  have hinfo : r.pathInfo? = none := pathInfo?_of_none rfl rfl
  have hurl : requestUrl? r.transport = some "/rev/42" := by
    show requestUrl? revisionTarget = _
    decide +kernel
  have hpath : r.path = .ok "/rev/42" := by
    rw [path_of_url hinfo hurl]
    show Except.ok (scriptPath "/rev/42" none (some site.config.paths.script)) = _
    rw [hfrom.config]
    show Except.ok (scriptPath "/rev/42" none (some "/w/index.php")) = _
    decide +kernel
  have hfound : (EntryPointTable.ofList usualEntryPoints "index").map (·.detect "/rev/42") =
      .ok ⟨"index", "/rev/42"⟩ := by decide +kernel
  have hdetect : site.entryPoints.detect "/rev/42" = ⟨"index", "/rev/42"⟩ := hfrom.of_map_entryPoints hfound
  obtain ⟨s, hs, hrouted⟩ := routed_of_path rfl hpath
  exact ⟨s, hs, by rw [← hdetect]; exact hrouted⟩

/-- If the settings are without problems and their router has the revision, so has the request. -/
theorem exists_matched_revision [MultiByteDecoders] {name : String} (hproblems : (revisionRoute name).problems = [])
    (hroute : (siteRouter (revisionRoute name).paths).map (·.route "/rev/42") =
      .ok (.matched 1 (revisionParams name))) :
    ∃ site, Site.compile (revisionRoute name) = .ok site ∧
      let r := receive site revisionTarget (.recorded {}) "r1"
      ∃ s, r.interpolateTitle = .ok s ∧ (r.enter ⟨"index", "/rev/42"⟩).Routed s ∧ s.entryName ≠ programEntry ∧
        s.site.router.route s.subpath = .matched 1 (revisionParams name) := by
  obtain ⟨site, hsite, -⟩ := Site.exists_compile_config hproblems
  obtain ⟨s, hs, hrouted⟩ := exists_routed_revision hsite
  have hmatched := (Site.compiledFrom_of_compile hsite).2.of_map_router hroute
  refine ⟨site, hsite, s, hs, hrouted, ?_, ?_⟩
  · rw [hrouted.entryName_eq]
    decide
  · rw [subpath, hrouted.entry_eq, hrouted.site_eq]
    exact hmatched

theorem path_fields_revision : ∃ site, Site.compile (revisionRoute "oldid") = .ok site ∧
    SiteConfig.parse? (revisionDocument "oldid") = some (revisionRoute "oldid") ∧
    (revisionRoute "oldid").paths.HasParamTables ∧
    ∃ s, (receive site revisionTarget (.recorded {}) "r1").interpolateTitle = .ok s ∧ s.entryName ≠ programEntry ∧
      s.site.router.route s.subpath = .matched 1 (revisionParams "oldid") ∧
      s.fields.getRaw? "oldid" = some "42" ∧ (s.fields.unset "oldid").merged.get? "oldid" = none := by
  obtain ⟨site, hsite, s, hs, -, hother, hroute⟩ :=
    @exists_matched_revision _ "oldid" (by decide +kernel) (by decide +kernel)
  have hparse : SiteConfig.parse? (revisionDocument "oldid") = some (revisionRoute "oldid") := by decide +kernel
  have htables := SiteConfig.hasParamTables_of_parse? hparse
  obtain ⟨-, hparams⟩ := (path_fields hsite htables hs).2 hother 1 _ hroute
  obtain ⟨-, hplain, -⟩ := hparams "oldid" "42" (by decide)
  exact ⟨site, hsite, hparse, htables, s, hs, hother, hroute, hplain (by decide)⟩

/-- The number of the revision is in the fields under a name with a dot, where no read finds it and no removal takes it
away. -/
theorem path_fields_dotted : ∃ site, Site.compile (revisionRoute "rev.id") = .ok site ∧
    SiteConfig.parse? (revisionDocument "rev.id") = some (revisionRoute "rev.id") ∧
    (revisionRoute "rev.id").paths.HasParamTables ∧
    ∃ s, (receive site revisionTarget (.recorded {}) "r1").interpolateTitle = .ok s ∧ s.entryName ≠ programEntry ∧
      s.site.router.route s.subpath = .matched 1 (revisionParams "rev.id") ∧
      s.fields.getRaw? "rev.id" = none ∧ (s.fields.unset "rev.id").merged.get? "rev.id" = some (.scalar "42") := by
  obtain ⟨site, hsite, s, hs, hrouted, hother, hroute⟩ :=
    @exists_matched_revision _ "rev.id" (by decide +kernel) (by decide +kernel)
  have hparse : SiteConfig.parse? (revisionDocument "rev.id") = some (revisionRoute "rev.id") := by decide +kernel
  have hfields := hrouted.fields_of_matched hother hroute
  have hnames : ((revisionParams "rev.id").map Prod.fst).Nodup := by decide
  refine ⟨site, hsite, hparse, SiteConfig.hasParamTables_of_parse? hparse, s, hs, hother, hroute, ?_, ?_⟩
  · rw [hfields, FieldStore.getRaw?_interpolate hnames]
    -- the request has no fields of its own
    show (none : Option String).or ((FieldStore.ofMaps .empty .empty).getRaw? "rev.id") = none
    rw [FieldStore.getRaw?, FieldStore.lookup?, FieldStore.ofMaps, FieldMap.get?_extendMissing, FieldMap.get?_empty]
    rfl
  · rw [hfields, FieldStore.get?_unset, if_pos (by decide), FieldStore.get?_interpolate hnames]
    rfl

end Request

end WikiGateway
