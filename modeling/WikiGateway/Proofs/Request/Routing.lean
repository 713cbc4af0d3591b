import WikiGateway.Request.Routing

/-!
# What routing does to a request

Once its entry point is known, a request takes its parameters from the path in one of six ways (`Routed`,
`routed_takeParams`), and only its fields and its bad path change (`Routed.frame`). A request that has just been
received is routed by its path alone (`routed_of_path`, `interpolateTitle_of_error`), which is that of its URL
(`path_of_url`, `path_of_no_url`).

* `Routed.fields_of_nowhere`: a path that leads nowhere brings no fields, unless there is path information.
-/

namespace WikiGateway.Request

/-- The title that path information stands for. -/
def infoTitle (info : String) : String :=
  match info.toList with
  | '/' :: rest => String.ofList rest
  | _ => info

/-- The ways in which a request whose entry point is known takes its parameters from the path. -/
inductive Routed (r : Request) : Request → Prop
  | program : r.entryName = programEntry → Routed r r
  | home : r.entryName ≠ programEntry → r.site.router.route r.subpath = .home → Routed r r
  | matched {index : Nat} {params : List (String × String)} : r.entryName ≠ programEntry →
      r.site.router.route r.subpath = .matched index params → Routed r { r with fields := r.fields.interpolate params }
  | titled {info : String} : r.entryName ≠ programEntry → r.site.router.route r.subpath = .nowhere →
      r.pathInfo? = some info → infoTitle info ≠ "" →
      Routed r { r with fields := r.fields.interpolate [("title", infoTitle info)] }
  | untitled {info : String} : r.entryName ≠ programEntry → r.site.router.route r.subpath = .nowhere →
      r.pathInfo? = some info → infoTitle info = "" → Routed r r
  | lost : r.entryName ≠ programEntry → r.site.router.route r.subpath = .nowhere → r.pathInfo? = none →
      Routed r { r with badPath := some r.subpath }

theorem routed_takeParams (r : Request) : Routed r r.takeParams := by
  unfold takeParams
  split
  next hprogram => exact .program hprogram
  next hother =>
    split
    next hhome => exact .home hother hhome
    next hmatched => exact .matched hother hmatched
    next hnowhere =>
      unfold takePathInfo
      split
      next hnone => exact .lost hother hnowhere hnone
      next info hinfo =>
        show Routed r (if infoTitle info = "" then r else _)
        split
        next hempty => exact .untitled hother hnowhere hinfo hempty
        next htitle => exact .titled hother hnowhere hinfo htitle

namespace Routed

variable {r s : Request}

/-- Routing changes the fields and the bad path, and nothing else. -/
theorem frame (h : Routed r s) : s = { r with fields := s.fields, badPath := s.badPath } := by
  cases h <;> rfl

theorem site_eq (h : Routed r s) : s.site = r.site := by rw [h.frame]

theorem transport_eq (h : Routed r s) : s.transport = r.transport := by rw [h.frame]

theorem response_eq (h : Routed r s) : s.response = r.response := by rw [h.frame]

theorem entry_eq (h : Routed r s) : s.entry = r.entry := by rw [h.frame]

theorem chosenIp_eq (h : Routed r s) : s.chosenIp = r.chosenIp := by rw [h.frame]

/-- The entry point of programs takes no fields from the path. -/
theorem fields_of_program (h : Routed r s) (hprogram : s.entryName = programEntry) : s.fields = r.fields := by
  cases h with
  | program | home | untitled | lost => rfl
  | matched hother => exact absurd hprogram hother
  | titled hother => exact absurd hprogram hother

/-- Below any other entry point, a path that leads to a template brings its parameters. -/
theorem fields_of_matched (h : Routed r s) (hother : s.entryName ≠ programEntry) {index : Nat}
    {params : List (String × String)} (hroute : s.site.router.route s.subpath = .matched index params) :
    s.fields = r.fields.interpolate params := by
  cases h with
  | program hprogram => exact absurd hprogram hother
  | matched _ hmatched =>
    obtain ⟨-, rfl⟩ := RouteMatch.matched.inj (hmatched.symm.trans hroute)
    rfl
  | home _ hhome => cases hhome.symm.trans hroute
  | titled _ hnowhere | untitled _ hnowhere | lost _ hnowhere => cases hnowhere.symm.trans hroute

/-- Without path information, a path that leads nowhere brings no fields. -/
theorem fields_of_nowhere (h : Routed r s) (hinfo : r.pathInfo? = none)
    (hnowhere : r.site.router.route r.subpath = .nowhere) : s.fields = r.fields := by
  cases h with
  | matched _ hmatched => simp [hnowhere] at hmatched
  | titled _ _ hsome => simp [hinfo] at hsome
  | _ => rfl

end Routed

variable {r : Request}

/-- There is no path information if the web server hands over none. -/
theorem pathInfo?_of_none (horig : r.transport.origPathInfo = none) (hinfo : r.transport.pathInfo = none) :
    r.pathInfo? = none := by
  rw [pathInfo?, horig, hinfo]
  split <;> rfl

/-- Without path information, the path is that of the URL. -/
theorem path_of_url (hinfo : r.pathInfo? = none) {url : String} (hurl : requestUrl? r.transport = some url) :
    r.path = .ok (scriptPath url r.transport.scriptName (some r.site.config.paths.script)) := by
  rw [path, hinfo, Request.url, hurl]
  rfl

theorem path_of_no_url (hinfo : r.pathInfo? = none) (hurl : requestUrl? r.transport = none) :
    r.path = .error .noUrl := by
  rw [path, hinfo, Request.url, hurl]
  rfl

/-- The request with an entry point. -/
def enter (r : Request) (m : EntryPointMatch) : Request := { r with entry := some m }

theorem Routed.entryName_eq {m : EntryPointMatch} {s : Request} (h : (r.enter m).Routed s) : s.entryName = m.name := by
  rw [entryName, h.entry_eq]
  rfl

/-- A path selects an entry point. -/
theorem detectEntry_of_path {path : String} (hpath : r.path = .ok path) :
    r.detectEntry = .ok (r.enter (r.site.entryPoints.detect path)) := by
  rw [detectEntry, hpath]
  rfl

/-- A request that is not routed yet gets the entry point of its path, and then its parameters. -/
theorem routed_of_path {path : String} (hentry : r.entry = none) (hpath : r.path = .ok path) :
    ∃ routed, r.interpolateTitle = .ok routed ∧ Routed (r.enter (r.site.entryPoints.detect path)) routed := by
  refine ⟨_, ?_, routed_takeParams _⟩
  rw [interpolateTitle, hentry, detectEntry_of_path hpath]
  rfl

/-- A request that took its parameters did so below some entry point. -/
theorem exists_routed {s : Request} (h : r.interpolateTitle = .ok s) : ∃ m, (r.enter m).Routed s := by
  unfold interpolateTitle at h
  split at h
  next m hentry =>
    cases h
    have hsame : r.enter m = r := by rw [enter, ← hentry]
    exact ⟨m, hsame.symm ▸ routed_takeParams r⟩
  next hentry =>
    rw [detectEntry] at h
    cases hpath : r.path with
    | error e =>
      rw [hpath] at h
      cases h
    | ok path =>
      rw [hpath] at h
      cases h
      exact ⟨_, routed_takeParams _⟩

/-- Without a path there is no entry point. -/
theorem interpolateTitle_of_error {e : RequestError} (hentry : r.entry = none) (hpath : r.path = .error e) :
    r.interpolateTitle = .error e := by
  rw [interpolateTitle, hentry, detectEntry, hpath]
  rfl

end WikiGateway.Request
