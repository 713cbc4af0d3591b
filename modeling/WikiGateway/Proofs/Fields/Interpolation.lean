import WikiGateway.Proofs.Fields.StoreRuns

/-!
# Fields that are taken from a path

Interpolation sets texts under names in two views of the fields (`FieldMap.setAll`, `FieldStore.interpolate_eq_setAll`).
The entries of other names stay as they are (`FieldMap.AgreeOutside`, `agreeOutside_setAll`), and setting the same texts
once more changes nothing (`FieldMap.setAll_setAll`, `FieldStore.interpolate_interpolate`): every name is there by now,
so that it keeps its place, and ends up with the same text again, even if a name comes twice among the fields.
-/

namespace WikiGateway

namespace FieldMap

/-- Two maps have the same entries under all names but some, in the same order. -/
def AgreeOutside (names : List String) (m m' : FieldMap) : Prop :=
  (m.toList.filter fun entry => entry.1 ∉ names) = m'.toList.filter fun entry => entry.1 ∉ names

/-- The map with texts under names, one after the other. -/
def setAll (m : FieldMap) (fields : List (String × String)) : FieldMap :=
  fields.foldl (fun m (name, text) => m.insert name (.scalar text)) m

variable {m m' : FieldMap} {names : List String} {fields : List (String × String)}

/-- Setting texts is a run of writes. -/
theorem setAll_eq (m : FieldMap) (fields : List (String × String)) :
    m.setAll fields = (fields.map fun (name, text) => (name, some (FieldValue.scalar text))).foldl write m := by
  rw [List.foldl_map]
  rfl

/-! ## Other names -/

/-- An entry that is set leaves those of other names alone. -/
theorem agreeOutside_insert {name : String} (h : name ∈ names) (m : FieldMap) (value : FieldValue) :
    m.AgreeOutside names (m.insert name value) := by
  unfold AgreeOutside
  rw [toList_insert]
  split
  next hold =>
    rw [List.filter_map]
    -- the entry that changes is not among those that are compared
    have hsame : ∀ entry ∈ m.toList.filter fun entry => entry.1 ∉ names,
        (if entry.1 = name then (entry.1, value) else entry) = entry := by
      intro entry hentry
      have hother := (List.mem_filter.mp hentry).2
      rw [if_neg fun hname => by simp [hname, h] at hother]
    have hfilter : ((fun entry => decide (entry.1 ∉ names)) ∘ fun entry : String × FieldValue =>
        if entry.1 = name then (entry.1, value) else entry) = fun entry => decide (entry.1 ∉ names) := by
      funext entry
      simp only [Function.comp_apply]
      split <;> rfl
    rw [hfilter, List.map_congr_left hsame, List.map_id']
  next hnew =>
    rw [List.filter_append, List.filter_cons_of_neg (by simpa using h), List.filter_nil, List.append_nil]

/-- Texts under some names leave the entries of all others alone. -/
theorem agreeOutside_setAll : ∀ {fields : List (String × String)}, (∀ field ∈ fields, field.1 ∈ names) →
    ∀ m : FieldMap, m.AgreeOutside names (m.setAll fields)
  | [], _, _ => rfl
  | (name, text) :: fields, h, m => by
    have hfirst := agreeOutside_insert (h _ List.mem_cons_self) m (.scalar text)
    have hrest := agreeOutside_setAll (fun field hfield => h field (List.mem_cons_of_mem _ hfield))
      (m.insert name (.scalar text))
    exact hfirst.trans hrest

/-! ## The same texts once more -/

/-- Maps of the same entries and the same index are the same. -/
theorem eq_of_toList_of_index (hentries : m.toList = m'.toList) (hindex : m.index = m'.index) : m = m' := by
  obtain ⟨entries, index, fits⟩ := m
  obtain ⟨entries', index', fits'⟩ := m'
  obtain rfl : entries = entries' := Array.toList_inj.mp hentries
  obtain rfl : index = index' := hindex
  rfl

/-- The names in order and what each of them has are all that a map shows. -/
theorem toList_congr (hkeys : m.keys = m'.keys) (hget : ∀ name, m.get? name = m'.get? name) : m.toList = m'.toList := by
  have hvalue : ∀ name ∈ m.keys, m.get? name = some ((m.get? name).getD default) := by
    intro name hname
    cases h : m.get? name with
    | none => exact absurd hname (get?_eq_none_iff.mp h)
    | some value => rfl
  have hvalue' : ∀ name ∈ m'.keys, m'.get? name = some ((m.get? name).getD default) := by
    intro name hname
    rw [← hget]
    exact hvalue name (hkeys ▸ hname)
  rw [toList_eq_map_keys hvalue, toList_eq_map_keys hvalue', hkeys]

/-- A name that is there keeps its place. -/
theorem insert_of_mem {name : String} (h : name ∈ m.keys) (value : FieldValue) :
    (m.insert name value).index = m.index ∧ (m.insert name value).keys = m.keys := by
  constructor
  · unfold insert alter
    split
    next => rfl
    next hnone => exact absurd h (index_eq_none_iff.mp hnone)
  · rw [insert, keys_alter, if_pos h]

/-- So do all names, if they are there. -/
theorem setAll_of_subset : ∀ {fields : List (String × String)} {m : FieldMap}, (∀ field ∈ fields, field.1 ∈ m.keys) →
    (m.setAll fields).index = m.index ∧ (m.setAll fields).keys = m.keys
  | [], _, _ => ⟨rfl, rfl⟩
  | (name, text) :: fields, m, h => by
    obtain ⟨hindex, hkeys⟩ := insert_of_mem (h _ List.mem_cons_self) (.scalar text)
    have hrest : ∀ field ∈ fields, field.1 ∈ (m.insert name (.scalar text)).keys := by
      intro field hfield
      rw [hkeys]
      exact h field (List.mem_cons_of_mem _ hfield)
    obtain ⟨hindex', hkeys'⟩ := setAll_of_subset hrest
    exact ⟨hindex'.trans hindex, hkeys'.trans hkeys⟩

/-- Names stay while texts are set, -/
theorem keys_subset_setAll : ∀ (fields : List (String × String)) (m : FieldMap), m.keys ⊆ (m.setAll fields).keys
  | [], _ => fun _ h => h
  | (name, text) :: fields, m => by
    intro other hother
    apply keys_subset_setAll fields (m.insert name (.scalar text))
    rw [insert, keys_alter]
    split
    · exact hother
    · exact List.mem_append_left _ hother

/-- and the names of the texts are there afterwards. -/
theorem mem_keys_setAll : ∀ {fields : List (String × String)} (m : FieldMap) (field : String × String),
    field ∈ fields → field.1 ∈ (m.setAll fields).keys
  | (name, text) :: fields, m, field, h => by
    rcases List.mem_cons.mp h with rfl | h
    · apply keys_subset_setAll fields (m.insert name (.scalar text))
      by_contra hnone
      have hget := get?_write_self m (name, some (.scalar text))
      rw [write, get?_eq_none_iff.mpr hnone] at hget
      cases hget
    · exact mem_keys_setAll (m.insert name (.scalar text)) field h

/-- Setting the same texts twice is setting them once. -/
theorem setAll_setAll (m : FieldMap) (fields : List (String × String)) :
    (m.setAll fields).setAll fields = m.setAll fields := by
  obtain ⟨hindex, hkeys⟩ := setAll_of_subset (mem_keys_setAll m)
  refine eq_of_toList_of_index (toList_congr hkeys fun name => ?_) hindex
  -- the last write to a name decides both times
  rw [setAll_eq (m.setAll fields), get?_foldl_write, setAll_eq m, get?_foldl_write]
  cases lastWrite? (fields.map fun (name, text) => (name, some (FieldValue.scalar text))) name <;> rfl

end FieldMap

namespace FieldStore

/-- The merged view and that of query and path take over the fields of a path. -/
theorem interpolate_eq_setAll (s : FieldStore) (fields : List (String × String)) : s.interpolate fields =
    { s with merged := s.merged.setAll fields, queryAndPath := s.queryAndPath.setAll fields } := by
  rw [interpolate_eq, FieldMap.setAll_eq s.merged]
  rfl

/-- Taking the same fields twice is taking them once. -/
theorem interpolate_interpolate (s : FieldStore) (fields : List (String × String)) :
    (s.interpolate fields).interpolate fields = s.interpolate fields := by
  simp only [interpolate_eq_setAll, FieldMap.setAll_setAll]

end FieldStore

end WikiGateway
