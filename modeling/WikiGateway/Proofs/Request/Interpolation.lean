import WikiGateway.Proofs.Fields.Interpolation
import WikiGateway.Proofs.Request.PathFields

/-!
# Taking the parameters of a path

A request whose entry point is known takes the fields that its path brings (`Request.broughtFields`), and remembers a
path that is lost (`Request.IsLost`); `takeParams_eq` says all of it in one equation. Both depend on the site, the entry
point and the path information alone, none of which changes, so that a second time nothing changes any more
(`takeParams_takeParams`).

A handler may call for the entry point, force it, take the parameters or change the fields (`RoutingCall`). A call that
fails may have changed the request by then; `apply_interpolateTitle` says that taking the parameters has not.

* `Request.interpolateTitle_laws`: taking the parameters is all or nothing, is done once for all, and changes no other
  fields than those of the path.
-/

namespace WikiGateway

namespace Request

/-! ## What a path brings -/

/-- Whether the path below the entry point leads nowhere and no path information stands in for it. Below the entry
point of programs no path is looked at. -/
def IsLost (r : Request) : Prop :=
  r.entryName ≠ programEntry ∧ r.site.router.route r.subpath = .nowhere ∧ r.pathInfo? = none

instance (r : Request) : Decidable r.IsLost := inferInstanceAs (Decidable (_ ∧ _ ∧ _))

/-- The fields that the path below the entry point brings: the parameters of its template, or else the path information
as the title. -/
def broughtFields (r : Request) : List (String × String) :=
  if r.entryName = programEntry then []
  else
    match r.site.router.route r.subpath with
    | .home => []
    | .matched _ params => params
    | .nowhere =>
      match r.pathInfo? with
      | some info => if infoTitle info = "" then [] else [("title", infoTitle info)]
      | none => []

variable {r s : Request}

/-- Paths below the same entry point of the same site bring the same, -/
theorem broughtFields_congr (hsite : s.site = r.site) (hentry : s.entry = r.entry) (hinfo : s.pathInfo? = r.pathInfo?) :
    s.broughtFields = r.broughtFields := by
  unfold broughtFields entryName subpath
  rw [hsite, hentry, hinfo]

/-- and are lost alike. -/
theorem isLost_congr (hsite : s.site = r.site) (hentry : s.entry = r.entry) (hinfo : s.pathInfo? = r.pathInfo?) :
    s.IsLost ↔ r.IsLost := by
  unfold IsLost entryName subpath
  rw [hsite, hentry, hinfo]

/-- However a request is routed, it takes the fields of its path and remembers a lost one. -/
theorem Routed.eq (h : Routed r s) : s = { r with
    fields := r.fields.interpolate r.broughtFields
    badPath := if r.IsLost then some r.subpath else r.badPath } := by
  have hnothing : r.fields = r.fields.interpolate [] := rfl
  cases h with
  | program hprogram => simp [broughtFields, IsLost, hprogram, ← hnothing]
  | home hother hroute => simp [broughtFields, IsLost, hother, hroute, ← hnothing]
  | matched hother hroute => simp [broughtFields, IsLost, hother, hroute]
  | titled hother hroute hinfo htitle => simp [broughtFields, IsLost, hother, hroute, hinfo, htitle]
  | untitled hother hroute hinfo htitle => simp [broughtFields, IsLost, hother, hroute, hinfo, htitle, ← hnothing]
  | lost hother hroute hinfo => simp [broughtFields, IsLost, hother, hroute, hinfo, ← hnothing]

theorem takeParams_eq (r : Request) : r.takeParams = { r with
    fields := r.fields.interpolate r.broughtFields
    badPath := if r.IsLost then some r.subpath else r.badPath } :=
  (routed_takeParams r).eq

theorem Routed.pathInfo?_eq (h : Routed r s) : s.pathInfo? = r.pathInfo? := by
  rw [pathInfo?, h.site_eq, h.transport_eq, ← pathInfo?]

/-- Routing leaves the path, -/
theorem Routed.path_eq (h : Routed r s) : s.path = r.path := by
  rw [path, h.pathInfo?_eq, Request.url, h.site_eq, h.transport_eq]
  rfl

/-- what the fields of a path depend on, -/
theorem Routed.broughtFields_eq (h : Routed r s) : s.broughtFields = r.broughtFields :=
  broughtFields_congr h.site_eq h.entry_eq h.pathInfo?_eq

/-- and what makes a path a lost one. -/
theorem Routed.isLost_iff (h : Routed r s) : s.IsLost ↔ r.IsLost :=
  isLost_congr h.site_eq h.entry_eq h.pathInfo?_eq

theorem Routed.subpath_eq (h : Routed r s) : s.subpath = r.subpath := by rw [subpath, h.entry_eq, ← subpath]

/-- What is taken twice is taken once. -/
theorem takeParams_takeParams (r : Request) : r.takeParams.takeParams = r.takeParams := by
  have hrouted := routed_takeParams r
  have hfields : r.takeParams.fields.interpolate r.takeParams.broughtFields = r.takeParams.fields := by
    rw [hrouted.broughtFields_eq, takeParams_eq]
    exact FieldStore.interpolate_interpolate r.fields r.broughtFields
  have hbad : (if r.takeParams.IsLost then some r.takeParams.subpath else r.takeParams.badPath) =
      r.takeParams.badPath := by
    have hbadPath : r.takeParams.badPath = if r.IsLost then some r.subpath else r.badPath := by rw [takeParams_eq]
    by_cases h : r.IsLost
    · rw [if_pos (hrouted.isLost_iff.mpr h), hbadPath, if_pos h, hrouted.subpath_eq]
    · rw [if_neg fun hafter => h (hrouted.isLost_iff.mp hafter)]
  rw [takeParams_eq r.takeParams, hfields, hbad]

/-- The names that a path can write to. -/
theorem broughtFields_cases (r : Request) : r.broughtFields = [] ∨
    (r.entryName ≠ programEntry ∧ ∃ index, r.site.router.route r.subpath = .matched index r.broughtFields) ∨
    (r.entryName ≠ programEntry ∧ r.site.router.route r.subpath = .nowhere ∧
      ∃ info, r.pathInfo? = some info ∧ r.broughtFields = [("title", infoTitle info)]) := by
  unfold broughtFields
  split
  next => exact .inl rfl
  next hother =>
    split
    next => exact .inl rfl
    next index params hroute => exact .inr (.inl ⟨hother, index, hroute⟩)
    next hroute =>
      split
      next info hinfo =>
        split
        next => exact .inl rfl
        next => exact .inr (.inr ⟨hother, hroute, info, hinfo, rfl⟩)
      next => exact .inl rfl

end Request

/-! ## Calls -/

/-- A call that routes a request or changes its fields. -/
inductive RoutingCall
  | detectEntry
  | setEntry (name : String)
  | interpolateTitle
  | changeFields (call : StoreCall)

namespace Request

/-- The request after an attempt to change it, and the error that ended the attempt, if one did. -/
def settle (r : Request) : Except RequestError Request → Request × Option RequestError
  | .ok s => (s, none)
  | .error e => (r, some e)

end Request

/-- The request as a call leaves it, and the error that ended the call, if one did. -/
def RoutingCall.apply (r : Request) : RoutingCall → Request × Option RequestError
  | detectEntry => r.settle r.detectEntry
  | setEntry name => r.settle (r.setEntry name)
  | interpolateTitle =>
    -- two changes one after the other: a fault behind the first would leave an entry point without its parameters
    match if r.entry.isNone then r.settle r.detectEntry else (r, none) with
    | (s, none) => (s.takeParams, none)
    | (s, some e) => (s, some e)
  | changeFields call => ({ r with fields := call.apply r.fields }, none)

namespace Request

variable {r s : Request} {error : Option RequestError}

/-- Taking the parameters changes the request as a whole or not at all. -/
theorem apply_interpolateTitle (r : Request) :
    RoutingCall.interpolateTitle.apply r = r.settle r.interpolateTitle := by
  unfold RoutingCall.apply interpolateTitle
  cases r.entry with
  | some m => rfl
  | none => cases r.detectEntry <;> rfl

theorem apply_interpolateTitle_eq_none_iff :
    RoutingCall.interpolateTitle.apply r = (s, none) ↔ r.interpolateTitle = .ok s := by
  rw [apply_interpolateTitle]
  cases r.interpolateTitle <;> simp [settle]

/-- There is a path if there is path information or a URL. -/
theorem exists_path_iff : (∃ path, r.path = .ok path) ↔ r.pathInfo? ≠ none ∨ requestUrl? r.transport ≠ none := by
  cases hinfo : r.pathInfo? with
  | some info => simp [path, hinfo]
  | none =>
    cases hurl : requestUrl? r.transport with
    | some url => simp [path_of_url hinfo hurl]
    | none => simp [path_of_no_url hinfo hurl]

/-- The parameters are taken if there is an entry point or a path that leads to one. -/
theorem exists_interpolateTitle_iff : (∃ s, r.interpolateTitle = .ok s) ↔
    r.entry ≠ none ∨ r.pathInfo? ≠ none ∨ requestUrl? r.transport ≠ none := by
  rw [← exists_path_iff]
  cases hentry : r.entry with
  | some m => simp [interpolateTitle, hentry]
  | none =>
    cases hpath : r.path with
    | ok path =>
      obtain ⟨s, hs, -⟩ := routed_of_path hentry hpath
      simp [hs]
    | error e => simp [interpolateTitle_of_error hentry hpath]

/-- Below the entry point of programs, only the entry point may be new. -/
theorem Routed.eq_enter {m : EntryPointMatch} (h : (r.enter m).Routed s) (hprogram : s.entryName = programEntry) :
    s = r.enter m := by
  have hname : (r.enter m).entryName = programEntry := h.entryName_eq.symm.trans hprogram
  rw [h.eq, broughtFields, if_pos hname, if_neg fun hlost : (r.enter m).IsLost => hlost.1 hname]
  rfl

/-- A request that has taken its parameters takes the same ones again. -/
theorem interpolateTitle_again (h : r.interpolateTitle = .ok s) : s.interpolateTitle = .ok s := by
  obtain ⟨m, hrouted⟩ := exists_routed h
  have hentry : s.entry = some m := hrouted.entry_eq
  have htaken : s = (r.enter m).takeParams := hrouted.eq.trans (takeParams_eq _).symm
  rw [interpolateTitle, hentry]
  dsimp only
  rw [htaken, takeParams_takeParams]

/-- The fields of the path are set in two views. -/
theorem fields_of_interpolateTitle (h : r.interpolateTitle = .ok s) : s.fields = { r.fields with
    merged := r.fields.merged.setAll s.broughtFields
    queryAndPath := r.fields.queryAndPath.setAll s.broughtFields } := by
  obtain ⟨m, hrouted⟩ := exists_routed h
  rw [← FieldStore.interpolate_eq_setAll, hrouted.broughtFields_eq, hrouted.eq]
  rfl

/-- **Taking the parameters of a path.** A call for it ends in an error just where neither an entry point nor a path is
known, and then the request is as before. Otherwise the same call changes nothing any more. Below the entry point of
programs nothing but the entry point is new; anywhere else nothing but entry point, fields and bad path. The fields of
the body and of the query stay, and in the two other views the only entries that differ are those of the parameters of
the path, or of the title where path information stands in for a path that leads nowhere. -/
theorem interpolateTitle_laws (h : RoutingCall.interpolateTitle.apply r = (s, error)) :
    (error = none ↔ r.entry ≠ none ∨ r.pathInfo? ≠ none ∨ requestUrl? r.transport ≠ none) ∧
    (error ≠ none → s = r) ∧
    (error = none → RoutingCall.interpolateTitle.apply s = (s, none)) ∧
    (s.entryName = programEntry → s = { r with entry := s.entry }) ∧
    s = { r with entry := s.entry, fields := s.fields, badPath := s.badPath } ∧
    s.fields.body = r.fields.body ∧ s.fields.query = r.fields.query ∧
    ∃ fields : List (String × String),
      (fields = [] ∨
        (s.entryName ≠ programEntry ∧ ∃ index, s.site.router.route s.subpath = .matched index fields) ∨
        (s.entryName ≠ programEntry ∧ s.site.router.route s.subpath = .nowhere ∧
          ∃ info, s.pathInfo? = some info ∧ fields = [("title", infoTitle info)])) ∧
      FieldMap.AgreeOutside (fields.map Prod.fst) r.fields.merged s.fields.merged ∧
      FieldMap.AgreeOutside (fields.map Prod.fst) r.fields.queryAndPath s.fields.queryAndPath := by
  have hsettled := h
  rw [apply_interpolateTitle] at hsettled
  rw [← exists_interpolateTitle_iff]
  cases htitle : r.interpolateTitle with
  | error e =>
    rw [htitle] at hsettled
    obtain ⟨rfl, rfl⟩ := Prod.mk.inj hsettled
    have hnone : ¬ (some e : Option RequestError) = none := Option.some_ne_none e
    exact ⟨by simp, fun _ => rfl, fun h => absurd h hnone, fun _ => rfl, rfl, rfl, rfl, [], .inl rfl, rfl, rfl⟩
  | ok taken =>
    rw [htitle] at hsettled
    obtain ⟨rfl, rfl⟩ := Prod.mk.inj hsettled
    obtain ⟨m, hrouted⟩ := exists_routed htitle
    have hagain := apply_interpolateTitle_eq_none_iff.mpr (interpolateTitle_again htitle)
    have hfields := fields_of_interpolateTitle htitle
    have hnames : ∀ field ∈ taken.broughtFields, field.1 ∈ taken.broughtFields.map Prod.fst :=
      fun field hfield => List.mem_map_of_mem hfield
    refine ⟨by simp, fun hsome => absurd rfl hsome, fun _ => hagain, fun hprogram => ?_, ?_, by rw [hfields],
      by rw [hfields], taken.broughtFields, taken.broughtFields_cases, ?_, ?_⟩
    · rw [hrouted.eq_enter hprogram]
      rfl
    · rw [hrouted.eq]
      rfl
    · rw [hfields]
      exact FieldMap.agreeOutside_setAll hnames r.fields.merged
    · rw [hfields]
      exact FieldMap.agreeOutside_setAll hnames r.fields.queryAndPath

/-- On a site with a route for revisions: a request for a revision takes its number once for all, one without a URL
fails and stays as it is, and one that is sent to the entry point of programs takes nothing. -/
theorem interpolateTitle_laws_revision : ∃ site, Site.compile (revisionRoute "oldid") = .ok site ∧
    let r := receive site revisionTarget (.recorded {}) "r1"
    let unknown := receive site {} (.recorded {}) "r2"
    let program := r.enter ⟨programEntry, "/rev/42"⟩
    (∃ s, RoutingCall.interpolateTitle.apply r = (s, none) ∧ RoutingCall.interpolateTitle.apply s = (s, none) ∧
      s.site.router.route s.subpath = .matched 1 (revisionParams "oldid")) ∧
    (∃ s, RoutingCall.interpolateTitle.apply unknown = (s, some .noUrl) ∧ s = unknown) ∧
    ∃ s, RoutingCall.interpolateTitle.apply program = (s, none) ∧ s.entryName = programEntry ∧
      s = { program with entry := s.entry } := by
  obtain ⟨site, hsite, s, hs, -, -, hroute⟩ :=
    @exists_matched_revision _ "oldid" (by decide +kernel) (by decide +kernel)
  refine ⟨site, hsite, ?_⟩
  intro r unknown program
  refine ⟨⟨s, ?_⟩, ⟨unknown, ?_⟩, ⟨program.takeParams, ?_⟩⟩
  · have htaken := apply_interpolateTitle_eq_none_iff.mpr hs
    obtain ⟨-, -, hagain, -⟩ := interpolateTitle_laws htaken
    exact ⟨htaken, hagain rfl, hroute⟩
  · have hinfo : unknown.pathInfo? = none := pathInfo?_of_none rfl rfl
    have hfails : unknown.interpolateTitle = .error .noUrl := interpolateTitle_of_error rfl (path_of_no_url hinfo rfl)
    have hfailed : RoutingCall.interpolateTitle.apply unknown = (unknown, some .noUrl) := by
      rw [apply_interpolateTitle, hfails]
      rfl
    obtain ⟨-, hsame, -⟩ := interpolateTitle_laws hfailed
    exact ⟨hfailed, hsame (Option.some_ne_none _)⟩
  · have htaken : RoutingCall.interpolateTitle.apply program = (program.takeParams, none) :=
      apply_interpolateTitle_eq_none_iff.mpr rfl
    have hprogram : program.takeParams.entryName = programEntry := (routed_takeParams program).entryName_eq
    obtain ⟨-, -, -, honly, -⟩ := interpolateTitle_laws htaken
    exact ⟨htaken, hprogram, honly hprogram⟩

end Request

end WikiGateway
