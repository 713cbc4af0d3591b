import WikiGateway.Proofs.Fields.FormText
import WikiGateway.Request.Basic

/-!
# Links read back

The query of a link holds the fields of query and path without the title, and other values in the place of some.
Taking fields away and setting texts under plain names leaves a map plain (`isPlain_remove`, `isPlain_insert`), and so
the query is read back as just these fields.

* `Request.isPlain_linkFields`: the fields of a link are plain.
* `Request.parseForm_queryWith`: they are read back from its query.
-/

namespace WikiGateway

/-! ## Plain maps -/

namespace FieldMap

variable {m : FieldMap}

/-- Fewer fields are plain. -/
theorem isPlain_remove (h : m.IsPlain) (name : String) : (m.remove name).IsPlain := by
  intro entry hentry
  rw [toList_remove] at hentry
  exact h entry (List.mem_filter.mp hentry).1

/-- A field that is set, or one of before. -/
theorem of_mem_toList_insert {name : String} {value : FieldValue} {entry : String × FieldValue}
    (h : entry ∈ (m.insert name value).toList) : entry = (name, value) ∨ entry ∈ m.toList := by
  rw [toList_insert] at h
  split at h
  next =>
    obtain ⟨old, hold, rfl⟩ := List.mem_map.mp h
    split
    next hname => exact .inl (hname ▸ rfl)
    next => exact .inr hold
  next => exact (List.mem_append.mp h).symm.imp_left List.mem_singleton.mp

/-- A text under a plain name is plain. -/
theorem isPlain_insert (h : m.IsPlain) {name : String} (hname : PlainName name) (text : String) :
    (m.insert name (.scalar text)).IsPlain := by
  intro entry hentry
  rcases of_mem_toList_insert hentry with rfl | hentry
  · exact ⟨hname, FieldValue.noConfusion⟩
  · exact h entry hentry

/-- Texts under plain names are plain. -/
theorem isPlain_foldl_insert : ∀ (values : List (String × String)) (m : FieldMap), m.IsPlain →
    (∀ pair ∈ values, PlainName pair.1) →
      (values.foldl (fun m (name, value) => m.insert name (.scalar value)) m).IsPlain
  | [], _, h, _ => h
  | (name, value) :: values, m, h, hvalues => by
    have hfirst := isPlain_insert h (hvalues _ List.mem_cons_self) value
    exact isPlain_foldl_insert values _ hfirst fun pair hpair => hvalues pair (List.mem_cons_of_mem _ hpair)

end FieldMap

/-! ## Links -/

namespace Request

/-- The fields of a link are plain if those of the request are and the other names too. -/
theorem isPlain_linkFields {r : Request} (h : r.fields.queryAndPath.IsPlain) {values : List (String × String)}
    (hvalues : ∀ pair ∈ values, PlainName pair.1) : (r.linkFields values).IsPlain :=
  FieldMap.isPlain_foldl_insert values _ (FieldMap.isPlain_remove h "title") hvalues

/-- The query of a link is read, in whatever legacy encoding, as the fields of query and path without the title, in
which the other values are set one after the other. -/
theorem parseForm_queryWith (r : Request) (h : r.fields.queryAndPath.IsPlain) (values : List (String × String))
    (hvalues : ∀ pair ∈ values, PlainName pair.1) (legacy : Option Encoding) :
    (parseForm legacy (Text.encode (r.queryWith values))).toList =
      (values.foldl (fun m (name, value) => m.insert name (.scalar value))
        (r.fields.queryAndPath.remove "title")).toList ∧
    ∀ name, (parseForm legacy (Text.encode (r.queryWith values))).get? name =
      (values.foldl (fun m (name, value) => m.insert name (.scalar value))
        (r.fields.queryAndPath.remove "title")).get? name := by
  have hlist := toList_parseForm_formText legacy (isPlain_linkFields h hvalues)
  exact ⟨hlist, FieldMap.get?_congr hlist⟩

/-- A link that changes the action and adds a text with separators; the title goes and the list stays. -/
theorem parseForm_queryWith_edit :
    (parseForm none (Text.encode ((Request.receive ⟨default, default, default, default, none⟩
        { queryString := some "title=A&action=view&t%5B%5D=x&t%5B%5D=y" } default "0").queryWith
          [("action", "edit"), ("q", "a b&c=d")]))).toList =
      [("action", .scalar "edit"), ("t", .list ["x", "y"]), ("q", .scalar "a b&c=d")] := by
  have hfields : (Request.receive ⟨default, default, default, default, none⟩
      { queryString := some "title=A&action=view&t%5B%5D=x&t%5B%5D=y" } default "0").fields.queryAndPath.toList =
        [("title", .scalar "A"), ("action", .scalar "view"), ("t", .list ["x", "y"])] := by
    show (parseForm none _).toList = _
    rw [parseForm, toList_foldl_addItem, formItems_eq_formOccurrences]
    decide +kernel
  have hplain : (Request.receive ⟨default, default, default, default, none⟩
      { queryString := some "title=A&action=view&t%5B%5D=x&t%5B%5D=y" } default "0").fields.queryAndPath.IsPlain := by
    unfold FieldMap.IsPlain
    rw [hfields]
    decide
  rw [(parseForm_queryWith _ hplain _ (by decide) none).1]
  simp [FieldMap.toList_insert, FieldMap.toList_remove, FieldMap.keys, hfields]

end Request

end WikiGateway
