import WikiGateway.Proofs.Fields.Refinement
import WikiGateway.Proofs.Request.BadPath

/-!
# What the description of a request says

A request that was routed by its path alone is described by members (`Site.membersOf`) that depend on the site, on what
the server handed over, on the entry point and on the address of the client: the fields are those of the forms in the
query and the body, read as plain lists, and the parameters of the path set over them.

* `toList_query_ofTransport`, `toList_body_ofTransport`: the fields of the two forms.
* `FieldStore.toList_values_nil`: all fields, cleaned.
* `Request.toJson_of_describe`: the members of a description.
-/

namespace WikiGateway

/-! ## Fields as plain lists -/

namespace PlainFields

/-- Sets texts under names, one after the other. -/
def setAll (fields : List (String × FieldValue)) (texts : List (String × String)) : List (String × FieldValue) :=
  texts.foldl (fun fields (name, text) => insert name (.scalar text) fields) fields

/-- Fields whose names are new are added one after the other, -/
theorem foldl_insert_of_nodup : ∀ (fields front : List (String × FieldValue)),
    ((front ++ fields).map Prod.fst).Nodup →
      fields.foldl (fun acc entry => insert entry.1 entry.2 acc) front = front ++ fields
  | [], front, _ => (List.append_nil front).symm
  | (name, value) :: fields, front, h => by
    have hnew : name ∉ front.map Prod.fst := by
      intro hmem
      rw [List.map_append, List.nodup_append] at h
      exact h.2.2 name hmem name List.mem_cons_self rfl
    rw [List.append_cons] at h
    rw [List.foldl_cons, insert, alter_of_not_mem hnew, foldl_insert_of_nodup fields _ h, ← List.append_cons]

/-- so that a list in which no name comes twice is a map as it stands. -/
theorem ofList_of_nodup {fields : List (String × FieldValue)} (h : (fields.map Prod.fst).Nodup) :
    ofList fields = fields :=
  foldl_insert_of_nodup fields [] h

end PlainFields

theorem FieldMap.toList_setAll : ∀ (texts : List (String × String)) (m : FieldMap),
    (m.setAll texts).toList = PlainFields.setAll m.toList texts
  | [], _ => rfl
  | (name, text) :: texts, m => by
    show ((m.insert name (.scalar text)).setAll texts).toList = _
    rw [toList_setAll texts, toList_insert_eq_insert]
    rfl

/-- All fields with their texts cleaned. -/
theorem FieldStore.toList_values_nil (s : FieldStore) :
    (s.values []).toList = s.merged.toList.map fun (name, value) => (name, value.clean) := by
  have hnames : ((s.merged.toList.map fun (name, value) => (name, value.clean)).map Prod.fst).Nodup := by
    rw [List.map_map]
    exact s.merged.nodup_keys
  rw [values, List.isEmpty_nil, if_pos rfl, FieldMap.toList_ofList, PlainFields.ofList_of_nodup hnames]

/-- The fields of the query string. -/
def Transport.queryFields (t : Transport) (legacy : Option Encoding) : List (String × FieldValue) :=
  match t.queryString with
  | some query => fieldsOf (formOccurrences legacy (Text.encode query))
  | none => []

/-- The fields of the body, if it is a form. -/
def Transport.bodyFields (t : Transport) : List (String × FieldValue) :=
  if t.hasForm then fieldsOf (formOccurrences none t.body) else []

section
variable (t : Transport) (legacy : Option Encoding)

theorem toList_query_ofTransport : (FieldStore.ofTransport t legacy).query.toList = t.queryFields legacy := by
  unfold FieldStore.ofTransport FieldStore.ofMaps Transport.queryFields
  cases t.queryString with
  | none => rfl
  | some query => exact toList_parseForm legacy _

theorem toList_body_ofTransport : (FieldStore.ofTransport t legacy).body.toList = t.bodyFields := by
  unfold FieldStore.ofTransport FieldStore.ofMaps Transport.bodyFields
  dsimp only
  split
  · exact toList_parseForm none _
  · rfl

theorem toList_merged_ofTransport : (FieldStore.ofTransport t legacy).merged.toList =
    PlainFields.extendMissing t.bodyFields (t.queryFields legacy) := by
  rw [← toList_body_ofTransport t legacy, ← toList_query_ofTransport]
  exact FieldMap.toList_extendMissing _

end

/-! ## Members -/

namespace Site

/-- The parameters that the path below an entry point brings. -/
def paramsOf (site : Site) (m : EntryPointMatch) : List (String × String) :=
  if m.name = "api" then []
  else
    match site.router.route m.subpath with
    | .matched _ params => params
    | _ => []

/-- Whether the path below an entry point that takes parameters is neither the home nor one of the site's. -/
def Loses (site : Site) (m : EntryPointMatch) : Prop :=
  m.name ≠ "api" ∧ m.subpath ≠ "" ∧ m.subpath ≠ "/" ∧
    ∀ template ∈ site.router.templates, template.match? m.subpath = none

instance (site : Site) (m : EntryPointMatch) : Decidable (site.Loses m) :=
  inferInstanceAs (Decidable (_ ∧ _ ∧ _ ∧ _))

/-- The members of the description of a request below an entry point. The fields of the body come before those of the
query, and the parameters of the path take the place of both. -/
def membersOf (site : Site) (t : Transport) (id : String) (m : EntryPointMatch) (ip : IpAddress) :
    List (String × Json) :=
  let query := t.queryFields site.legacyEncoding
  let params := PlainFields.setAll (PlainFields.extendMissing t.bodyFields query) (site.paramsOf m)
  let languages := (t.header? "Accept-Language").elim [] parseAcceptLanguage
  let front : List (String × Json) := [("request_id", .string id), ("method", .string (t.method.getD "GET")),
    ("entry_point", .string m.name), ("subpath", .string m.subpath)]
  let lost : List (String × Json) := if site.Loses m then [("bad_path", .string m.subpath)] else []
  let rest : List (String × Json) := [
    ("params", .object (params.map fun (name, value) => (name, value.clean.toJson))),
    ("query", .object ((PlainFields.setAll query (site.paramsOf m)).map fun (name, value) => (name, value.toJson))),
    ("ip", .string ip.toString), ("protocol", .string (detectProtocol t).scheme),
    ("server", .string (detectServer t site.config.proxies.assumeDefaultPorts)),
    ("accept_language", .array (languages.map fun range => .array [.string range.code, .number range.weightText]))]
  front ++ lost ++ rest

end Site

namespace Request

section
variable {m : EntryPointMatch} {r : Request}

/-- Without path information, only a template brings fields, -/
theorem broughtFields_enter (hinfo : r.pathInfo? = none) : (r.enter m).broughtFields = r.site.paramsOf m := by
  have hsame : (r.enter m).pathInfo? = none := hinfo
  have hname : (r.enter m).entryName = m.name := rfl
  have hroute : (r.enter m).site.router.route (r.enter m).subpath = r.site.router.route m.subpath := rfl
  unfold broughtFields Site.paramsOf
  rw [hsame, hname, hroute]
  cases r.site.router.route m.subpath <;> rfl

/-- and every path but the home is lost otherwise. -/
theorem isLost_enter (hinfo : r.pathInfo? = none) : (r.enter m).IsLost ↔ r.site.Loses m := by
  have hsame : (r.enter m).pathInfo? = none := hinfo
  rw [isLost_iff, hsame, Site.Loses]
  simp only [and_true]
  rfl

end

section
variable {site : Site} {t : Transport} {response : Response} {freshId : String} {m : EntryPointMatch} {r : Request}
  (hinfo : (receive site t response freshId).pathInfo? = none)
  (hrouted : ((receive site t response freshId).enter m).Routed r)
include hinfo hrouted

/-- The fields of a request that was routed, -/
theorem fields_of_receive :
    r.fields = (FieldStore.ofTransport t site.legacyEncoding).interpolate (site.paramsOf m) := by
  rw [hrouted.eq, broughtFields_enter hinfo]
  rfl

theorem toList_queryAndPath_of_receive : r.fields.queryAndPath.toList =
    PlainFields.setAll (t.queryFields site.legacyEncoding) (site.paramsOf m) := by
  rw [fields_of_receive hinfo hrouted, FieldStore.interpolate_eq_setAll, FieldMap.toList_setAll,
    ← toList_query_ofTransport]
  rfl

theorem toList_merged_of_receive : r.fields.merged.toList = PlainFields.setAll
    (PlainFields.extendMissing t.bodyFields (t.queryFields site.legacyEncoding)) (site.paramsOf m) := by
  rw [fields_of_receive hinfo hrouted, FieldStore.interpolate_eq_setAll, FieldMap.toList_setAll,
    toList_merged_ofTransport]

/-- and the path that it lost. -/
theorem badPath_of_receive : r.badPath = if site.Loses m then some m.subpath else none := by
  rw [hrouted.eq]
  show (if ((receive site t response freshId).enter m).IsLost then some m.subpath else none) = _
  simp only [isLost_enter hinfo]
  rfl

/-- **What a description says.** The members of the description of a request that was routed below an entry point,
without path information. -/
theorem toJson_of_describe {d : Description} (hd : r.describe = .ok d) : ∃ ip, r.clientIp = .ok ip ∧
    d.toJson = .object (site.membersOf t (receive site t response freshId).id m ip) := by
  have htransport : r.transport = t := hrouted.transport_eq
  have hsite : r.site = site := hrouted.site_eq
  have hid : r.id = (receive site t response freshId).id := by rw [hrouted.frame]; rfl
  have hsubpath : r.subpath = m.subpath := hrouted.subpath_eq
  have hlanguages : r.languages = (t.header? "Accept-Language").elim [] parseAcceptLanguage := by
    rw [languages, header?, htransport]
    cases t.header? "Accept-Language" <;> rfl
  rw [describe] at hd
  cases hclient : r.clientIp with
  | error e =>
    rw [hclient] at hd
    cases hd
  | ok ip =>
    rw [hclient] at hd
    cases hd
    refine ⟨ip, rfl, ?_⟩
    rw [Description.toJson, FieldMap.toJson, FieldMap.toJson, FieldStore.toList_values_nil,
      toList_merged_of_receive hinfo hrouted, toList_queryAndPath_of_receive hinfo hrouted, List.map_map]
    dsimp only
    rw [hid, method, protocol, server, htransport, hsite, hrouted.entryName_eq, hsubpath, hlanguages,
      badPath_of_receive hinfo hrouted, Site.membersOf]
    split <;> rfl

end

end Request

end WikiGateway
