import WikiGateway.Proofs.Request.Interpolation
import WikiGateway.Request.Dispatch

/-!
# The path that is remembered as bad

Taking the parameters of a lost path remembers this path (`Request.badPath_of_interpolateTitle`), and no call forgets
one. So after any calls the bad path of a request is the last one that a call lost (`Request.badPath_run`), whatever
became of the entry point since.

* `RoutingCall.lostPath?`, `Request.lostPaths`: the path that a call loses, and those that a run of calls loses.
* `Request.badPath_of_run`: the bad path after the parameters are taken.
* `Request.badPath_outlives_entry`: it may be that of an entry point that the request has left.
-/

namespace WikiGateway

/-- The path that a call loses, if it does. -/
def RoutingCall.lostPath? (r : Request) : RoutingCall → Option String
  | interpolateTitle =>
    match interpolateTitle.apply r with
    | (s, none) => if s.IsLost then some s.subpath else none
    | (_, some _) => none
  | _ => none

namespace Request

/-- The request after calls, where one that fails does not keep the next from being made. -/
def run (r : Request) (calls : List RoutingCall) : Request := calls.foldl (fun r call => (call.apply r).1) r

/-- The paths that calls lose, in their order. -/
def lostPaths (r : Request) : List RoutingCall → List String
  | [] => []
  | call :: calls => (call.lostPath? r).toList ++ (call.apply r).1.lostPaths calls

variable {r s : Request} {p : String}

/-! ## One call -/

/-- A lost path is one that is no home and that no template matches, without path information and below another entry
point than that of programs. -/
theorem isLost_iff : r.IsLost ↔ r.entryName ≠ programEntry ∧ r.subpath ≠ "" ∧ r.subpath ≠ "/" ∧
    (∀ template ∈ r.site.router.templates, template.match? r.subpath = none) ∧ r.pathInfo? = none := by
  rw [IsLost, Router.route_eq_nowhere_iff]
  simp only [and_assoc]

/-- Taking the parameters remembers a lost path and leaves what was remembered before otherwise. -/
theorem badPath_of_interpolateTitle (h : r.interpolateTitle = .ok s) :
    s.badPath = if s.IsLost then some s.subpath else r.badPath := by
  obtain ⟨m, hrouted⟩ := exists_routed h
  have hbad : s.badPath = if (r.enter m).IsLost then some (r.enter m).subpath else r.badPath := by
    rw [hrouted.eq]
    rfl
  by_cases hlost : s.IsLost
  · rw [if_pos hlost, hbad, if_pos (hrouted.isLost_iff.mp hlost), hrouted.subpath_eq]
  · rw [if_neg hlost, hbad, if_neg fun hbefore => hlost (hrouted.isLost_iff.mpr hbefore)]

/-- At the home there is nothing to take. -/
theorem takeParams_of_home (h : r.site.router.route r.subpath = .home) : r.takeParams = r := by
  rw [takeParams]
  split
  next => rfl
  next => rw [h]

/-- Only taking the parameters loses a path. -/
theorem lostPath?_eq_some_iff {call : RoutingCall} : call.lostPath? r = some p ↔
    call = .interpolateTitle ∧ ∃ s, r.interpolateTitle = .ok s ∧ s.IsLost ∧ s.subpath = p := by
  cases call with
  | interpolateTitle =>
    rw [RoutingCall.lostPath?, apply_interpolateTitle]
    cases r.interpolateTitle <;> simp [settle]
  | detectEntry | setEntry | changeFields => simp [RoutingCall.lostPath?]

/-- A change of the entry point leaves what is remembered. -/
theorem badPath_settle_map {path : Except RequestError String} {entry : String → EntryPointMatch} :
    (r.settle (path.map fun path => { r with entry := some (entry path) })).1.badPath = r.badPath := by
  cases path <;> rfl

/-- What a call loses is remembered in the place of what was remembered before. -/
theorem badPath_apply (r : Request) (call : RoutingCall) :
    (call.apply r).1.badPath = (call.lostPath? r).or r.badPath := by
  cases call with
  | detectEntry => exact badPath_settle_map
  | setEntry name => exact badPath_settle_map
  | changeFields call => rfl
  | interpolateTitle =>
    rw [RoutingCall.lostPath?, apply_interpolateTitle]
    cases htitle : r.interpolateTitle with
    | error e => rfl
    | ok s =>
      show s.badPath = (if s.IsLost then some s.subpath else none).or r.badPath
      rw [badPath_of_interpolateTitle htitle]
      split <;> rfl

/-! ## Runs of calls -/

/-- After calls, the last path that was lost is remembered. -/
theorem badPath_run : ∀ (calls : List RoutingCall) (r : Request),
    (r.run calls).badPath = (r.lostPaths calls).getLast?.or r.badPath
  | [], _ => rfl
  | call :: calls, r => by
    show ((call.apply r).1.run calls).badPath = _
    rw [badPath_run calls, badPath_apply, lostPaths, List.getLast?_append]
    cases ((call.apply r).1.lostPaths calls).getLast? <;> cases call.lostPath? r <;> rfl

/-- The lost paths of a run are those that its calls lose where they are made. -/
theorem mem_lostPaths_iff : ∀ {calls : List RoutingCall} {r : Request}, p ∈ r.lostPaths calls ↔
    ∃ before call after, calls = before ++ call :: after ∧ call.lostPath? (r.run before) = some p
  | [], r => by simp [lostPaths]
  | call :: calls, r => by
    rw [lostPaths, List.mem_append, Option.mem_toList, mem_lostPaths_iff]
    constructor
    · rintro (hfirst | ⟨before, later, after, rfl, hlost⟩)
      · exact ⟨[], call, calls, rfl, hfirst⟩
      · exact ⟨call :: before, later, after, rfl, hlost⟩
    · rintro ⟨before, later, after, hcalls, hlost⟩
      cases before with
      | nil =>
        obtain ⟨rfl, rfl⟩ := List.cons.inj hcalls
        exact .inl hlost
      | cons first before =>
        obtain ⟨rfl, rfl⟩ := List.cons.inj hcalls
        exact .inr ⟨before, later, after, rfl, hlost⟩

/-- **The bad path of a request.** After any calls, taking the parameters of a path makes a lost path the bad one. Any
other path leaves the bad path as it was: the last that was lost by then, at a call for the parameters that found some
path below some entry point lost. So only if none was lost before, the request has a bad path just where its own path
is lost. -/
theorem badPath_of_run (site : Site) (t : Transport) (response : Response) (freshId : String)
    (calls : List RoutingCall)
    (h : RoutingCall.interpolateTitle.apply ((receive site t response freshId).run calls) = (s, none)) :
    let received := receive site t response freshId
    let earlier := received.lostPaths calls
    (s.IsLost ↔ s.entryName ≠ programEntry ∧ s.subpath ≠ "" ∧ s.subpath ≠ "/" ∧
      (∀ template ∈ s.site.router.templates, template.match? s.subpath = none) ∧ s.pathInfo? = none) ∧
    (s.IsLost → s.badPath = some s.subpath) ∧
    (¬ s.IsLost → s.badPath = earlier.getLast?) ∧
    (∀ p, p ∈ earlier ↔ ∃ before after lost, calls = before ++ .interpolateTitle :: after ∧
      RoutingCall.interpolateTitle.apply (received.run before) = (lost, none) ∧ lost.IsLost ∧ lost.subpath = p) ∧
    (earlier = [] → ∀ p, s.badPath = some p ↔ s.IsLost ∧ s.subpath = p) := by
  intro received earlier
  have hbad := badPath_of_interpolateTitle (apply_interpolateTitle_eq_none_iff.mp h)
  have hbefore : (received.run calls).badPath = earlier.getLast? :=
    (badPath_run calls received).trans (Option.or_none)
  rw [hbefore] at hbad
  refine ⟨isLost_iff, fun hlost => by rw [hbad, if_pos hlost], fun hother => by rw [hbad, if_neg hother], fun p => ?_,
    fun hnone p => ?_⟩
  · rw [mem_lostPaths_iff]
    constructor
    · rintro ⟨before, call, after, hcalls, hlost⟩
      obtain ⟨rfl, lost, htitle, hlost⟩ := lostPath?_eq_some_iff.mp hlost
      exact ⟨before, after, lost, hcalls, apply_interpolateTitle_eq_none_iff.mpr htitle, hlost⟩
    · rintro ⟨before, after, lost, hcalls, htitle, hlost⟩
      have hlost := lostPath?_eq_some_iff.mpr ⟨rfl, lost, apply_interpolateTitle_eq_none_iff.mp htitle, hlost⟩
      exact ⟨before, .interpolateTitle, after, hcalls, hlost⟩
  · rw [hbad, hnone]
    by_cases hlost : s.IsLost <;> simp [hlost]

/-! ## A home behind a script -/

/-- The settings of a site whose script for pages has another path than requests for it. -/
def movedScript : SiteConfig := { paths := { script := "/index.php" }, request := { legacyEncoding := "" } }

/-- A request for the home behind the script. -/
def scriptHome : Transport := { requestUri := some "/w/index.php/" }

/-- On this site, the path of the request leads nowhere below the entry point for pages. -/
theorem exists_site_movedScript [MultiByteDecoders] : ∃ site, Site.compile movedScript = .ok site ∧
    let r := receive site scriptHome (.recorded {}) "r1"
    r.path = .ok "/w/index.php/" ∧ r.site.config = movedScript ∧ r.site.entryPoints.default = "index" ∧
      r.pathInfo? = none ∧ r.detectEntry = .ok (r.enter ⟨"index", "/w/index.php/"⟩) ∧
      (r.enter ⟨"index", "/w/index.php/"⟩).IsLost := by
  obtain ⟨site, hsite, hconfig⟩ := Site.exists_compile_config (c := movedScript) (by decide +kernel)
  refine ⟨site, hsite, ?_⟩
  intro r
  have hfrom := (Site.compiledFrom_of_compile hsite).2
  have hinfo : r.pathInfo? = none := pathInfo?_of_none rfl rfl
  have hurl : requestUrl? r.transport = some "/w/index.php/" := by
    show requestUrl? scriptHome = _
    decide +kernel
  have hpath : r.path = .ok "/w/index.php/" := by
    rw [path_of_url hinfo hurl]
    show Except.ok (scriptPath "/w/index.php/" none (some site.config.paths.script)) = _
    rw [hconfig]
    decide +kernel
  have htable : (EntryPointTable.ofList usualEntryPoints "index").map
      (fun table => (table.default, table.detect "/w/index.php/")) = .ok ("index", ⟨"index", "/w/index.php/"⟩) := by
    decide +kernel
  have hfound := hfrom.of_map_entryPoints htable
  obtain ⟨hdefault, hdetect⟩ := Prod.mk.inj hfound
  have hnowhere : (siteRouter movedScript.paths).map (·.route "/w/index.php/") = .ok .nowhere := by decide +kernel
  refine ⟨hpath, hconfig, hdefault, hinfo, ?_, ?_, hfrom.of_map_router hnowhere, hinfo⟩
  · rw [detectEntry_of_path hpath]
    exact congrArg (fun m => Except.ok (r.enter m)) hdetect
  · show "index" ≠ programEntry
    decide

/-- The home is lost at first, and found once the entry point is forced. -/
theorem exists_runs_movedScript [MultiByteDecoders] : ∃ site, Site.compile movedScript = .ok site ∧
    let r := receive site scriptHome (.recorded {}) "r1"
    ∃ lost home, RoutingCall.interpolateTitle.apply r = (lost, none) ∧ lost.IsLost ∧ lost.subpath = "/w/index.php/" ∧
      RoutingCall.interpolateTitle.apply (r.run [.interpolateTitle, .setEntry "index"]) = (home, none) ∧
      home.site.router.route home.subpath = .home ∧ home.badPath = lost.badPath ∧
      home.entryName = home.site.entryPoints.default ∧ home.fields = r.fields := by
  obtain ⟨site, hsite, hpath, hconfig, hdefault, hinfo, hdetect, hislost⟩ := exists_site_movedScript
  refine ⟨site, hsite, ?_⟩
  intro r
  have hrouted := routed_takeParams (r.enter ⟨"index", "/w/index.php/"⟩)
  generalize hlost : (r.enter ⟨"index", "/w/index.php/"⟩).takeParams = lost at hrouted
  have hfirst : RoutingCall.interpolateTitle.apply r = (lost, none) := by
    rw [apply_interpolateTitle, interpolateTitle, hdetect, ← hlost]
    rfl
  have hforced : lost.setEntry "index" = .ok (lost.enter ⟨"index", "/"⟩) := by
    have hsame : lost.path = .ok "/w/index.php/" := hrouted.path_eq.trans hpath
    have hsettings : lost.site.config = movedScript := by rw [hrouted.site_eq]; exact hconfig
    rw [setEntry, hsame, hsettings]
    rfl
  have hrun : r.run [.interpolateTitle, .setEntry "index"] = lost.enter ⟨"index", "/"⟩ := by
    show (RoutingCall.apply (RoutingCall.interpolateTitle.apply r).1 (.setEntry "index")).1 = _
    rw [hfirst, RoutingCall.apply, hforced]
    rfl
  have hhome : lost.site.router.route "/" = .home := if_pos (.inr rfl)
  have hagain : RoutingCall.interpolateTitle.apply (lost.enter ⟨"index", "/"⟩) =
      (lost.enter ⟨"index", "/"⟩, none) :=
    apply_interpolateTitle_eq_none_iff.mpr (congrArg Except.ok (takeParams_of_home hhome))
  refine ⟨lost, lost.enter ⟨"index", "/"⟩, hfirst, hrouted.isLost_iff.mpr hislost, hrouted.subpath_eq, ?_, hhome, rfl,
    ?_, hrouted.fields_of_nowhere hinfo hislost.2.1⟩
  · rw [hrun, hagain]
  · show "index" = lost.site.entryPoints.default
    rw [hrouted.site_eq]
    exact hdefault.symm

/-- The first time, the path is lost and remembered; at the home, it is still remembered. -/
theorem badPath_of_run_home : ∃ site, Site.compile movedScript = .ok site ∧
    let r := receive site scriptHome (.recorded {}) "r1"
    ∃ lost home, RoutingCall.interpolateTitle.apply (r.run []) = (lost, none) ∧
      lost.IsLost ∧ lost.badPath = some "/w/index.php/" ∧ r.lostPaths [] = [] ∧
      (∀ p, lost.badPath = some p ↔ lost.IsLost ∧ lost.subpath = p) ∧
      RoutingCall.interpolateTitle.apply (r.run [.interpolateTitle, .setEntry "index"]) = (home, none) ∧
      ¬ home.IsLost ∧ home.badPath = (r.lostPaths [.interpolateTitle, .setEntry "index"]).getLast? := by
  obtain ⟨site, hsite, lost, home, hfirst, hlost, hsubpath, hagain, hhome, -⟩ := exists_runs_movedScript
  have hfound : ¬ home.IsLost := fun h => by simp [h.2.1] at hhome
  obtain ⟨-, hbad, -, -, hbefore⟩ := badPath_of_run site scriptHome (.recorded {}) "r1" [] hfirst
  obtain ⟨-, -, hstill, -⟩ := badPath_of_run site scriptHome (.recorded {}) "r1" _ hagain
  exact ⟨site, hsite, lost, home, hfirst, hlost, hsubpath ▸ hbad hlost, rfl, hbefore rfl, hagain, hfound, hstill hfound⟩

/-- **A bad path outlives its entry point.** The request is at the home of the site below the entry point for pages,
and the path that was lost before is still the bad one, so that the home counts as not found. -/
theorem badPath_outlives_entry : ∃ site, Site.compile movedScript = .ok site ∧
    let r := receive site scriptHome (.recorded {}) "r1"
    ∃ home, RoutingCall.interpolateTitle.apply (r.run [.interpolateTitle, .setEntry "index"]) = (home, none) ∧
      home.site.router.route home.subpath = .home ∧ ¬ home.IsLost ∧ home.badPath = some "/w/index.php/" ∧
      home.isNotFound = true := by
  obtain ⟨site, hsite, lost, home, hfirst, hlost, hsubpath, hagain, hhome, hbad, hdefault, hfields⟩ :=
    exists_runs_movedScript
  have hremembered : home.badPath = some "/w/index.php/" := by
    rw [hbad, badPath_of_interpolateTitle (apply_interpolateTitle_eq_none_iff.mp hfirst), if_pos hlost, hsubpath]
  refine ⟨site, hsite, home, hagain, hhome, fun h => by simp [h.2.1] at hhome, hremembered, ?_⟩
  have hnone : home.fields.hasText "title" = false := by
    rw [hfields, FieldStore.hasText]
    -- the request has no fields of its own
    show ((FieldStore.ofMaps .empty .empty).getRaw? "title").isSome = false
    rw [FieldStore.getRaw?, FieldStore.lookup?, FieldStore.ofMaps, FieldMap.get?_extendMissing, FieldMap.get?_empty]
    rfl
  rw [isNotFound, hremembered, hdefault, hnone]
  simp

end Request

end WikiGateway
