import Mathlib.Data.List.Induction
import WikiGateway.Fields.Store
import WikiGateway.Proofs.Fields.Map

/-!
# The fields of a request after any calls

A handler sets and removes fields, and routing records what it finds in the path (`StoreCall`). Every call writes to
single fields of the merged view (`StoreCall.writes`), so that a run of calls is a run of writes, and what counts for a
name is the last of them.

* `FieldMap.write`, `get?_foldl_write`, `keys_foldl_write`: writes on one map.
* `FieldStore.interpolate_eq`, `apply_eq`, `run_eq`: what one call, and a run of calls, does to the four maps.
* `FieldStore.run_views`: what every view shows.
-/

namespace WikiGateway

/-! ## Writes -/

/-- A write: the name of a field and its value, or none if it is removed. -/
abbrev FieldWrite := String × Option FieldValue

/-- The last write to a name. -/
def lastWrite? (writes : List FieldWrite) (name : String) : Option FieldWrite := writes.reverse.find? (·.1 = name)

/-- The names after a write: one that is there keeps its place, a new one goes to the end, a removed one leaves. -/
def namesAfter (names : List String) : FieldWrite → List String
  | (name, some _) => if name ∈ names then names else names ++ [name]
  | (name, none) => names.filter (· ≠ name)

namespace FieldMap

/-- The map after a write. -/
def write (m : FieldMap) : FieldWrite → FieldMap
  | (name, some value) => m.insert name value
  | (name, none) => m.remove name

variable {m : FieldMap} {name : String}

theorem get?_remove_self : (m.remove name).get? name = none := by
  rw [get?_eq_none_iff, keys, toList_remove, List.mem_map]
  rintro ⟨entry, hentry, hname⟩
  simpa [hname] using (List.mem_filter.mp hentry).2

theorem get?_remove_of_ne {other : String} (h : other ≠ name) : (m.remove name).get? other = m.get? other := by
  ext value
  rw [get?_eq_some_iff, get?_eq_some_iff, toList_remove, List.mem_filter, decide_eq_true_iff]
  exact and_iff_left h

theorem keys_remove : (m.remove name).keys = m.keys.filter (· ≠ name) := by
  rw [keys, toList_remove, keys, List.filter_map]
  rfl

/-- A write is seen under its name, -/
theorem get?_write_self (m : FieldMap) (w : FieldWrite) : (m.write w).get? w.1 = w.2 := by
  obtain ⟨name, _ | value⟩ := w
  · exact get?_remove_self
  · rw [write, insert, get?_alter_self]
    cases m.get? name <;> rfl

/-- and under no other. -/
theorem get?_write_of_ne (m : FieldMap) {w : FieldWrite} (h : name ≠ w.1) : (m.write w).get? name = m.get? name := by
  obtain ⟨written, _ | value⟩ := w
  · exact get?_remove_of_ne h
  · exact get?_alter_of_ne h

theorem keys_write (m : FieldMap) (w : FieldWrite) : (m.write w).keys = namesAfter m.keys w := by
  obtain ⟨name, _ | value⟩ := w
  · exact keys_remove
  · exact keys_alter

/-- After a run of writes, a name has what its last write gave it. -/
theorem get?_foldl_write (writes : List FieldWrite) (m : FieldMap) (name : String) :
    (writes.foldl write m).get? name = ((lastWrite? writes name).map Prod.snd).getD (m.get? name) := by
  induction writes using List.reverseRecOn with
  | nil => rfl
  | append_singleton writes w ih =>
    rw [List.foldl_append, List.foldl_cons, List.foldl_nil, lastWrite?, List.reverse_append, List.reverse_singleton,
      List.singleton_append, List.find?_cons]
    by_cases hname : w.1 = name
    · subst hname
      simp [get?_write_self]
    · rw [get?_write_of_ne _ (Ne.symm hname), ih]
      simp [hname, lastWrite?]

/-- After a run of writes, the names are those that the writes leave, in their order. -/
theorem keys_foldl_write : ∀ (writes : List FieldWrite) (m : FieldMap),
    (writes.foldl write m).keys = writes.foldl namesAfter m.keys
  | [], _ => rfl
  | w :: writes, m => by rw [List.foldl_cons, keys_foldl_write writes, keys_write, List.foldl_cons]

end FieldMap

/-! ## Calls -/

/-- A call that changes the fields of a request. -/
inductive StoreCall
  | set (name : String) (value : FieldValue)
  | unset (name : String)
  | interpolate (fields : List (String × String))

namespace StoreCall

/-- The fields after a call. -/
def apply (s : FieldStore) : StoreCall → FieldStore
  | set name value => s.set name value
  | unset name => s.unset name
  | interpolate fields => s.interpolate fields

/-- What a call writes to the merged view; only the first two kinds put underscores for the dots of a name. -/
def writes : StoreCall → List FieldWrite
  | set name value => [(String.ofList (name.toList.map fun c => if c = '.' then '_' else c), some value)]
  | unset name => [(String.ofList (name.toList.map fun c => if c = '.' then '_' else c), none)]
  | interpolate fields => fields.map fun (name, text) => (name, some (.scalar text))

/-- What a call has from the path. -/
def found : StoreCall → List (String × String)
  | interpolate fields => fields
  | _ => []

end StoreCall

namespace FieldStore

/-- The fields after calls. -/
def run (s : FieldStore) (calls : List StoreCall) : FieldStore := calls.foldl StoreCall.apply s

/-- The merged view and the view of query and path take over what the path has, one field after the other. -/
theorem interpolate_eq : ∀ (fields : List (String × String)) (s : FieldStore), s.interpolate fields =
    { s with
      merged := (StoreCall.interpolate fields).writes.foldl FieldMap.write s.merged
      queryAndPath := fields.foldl (fun m (name, text) => m.insert name (.scalar text)) s.queryAndPath }
  | [], _ => rfl
  | (name, text) :: fields, s => interpolate_eq fields
      { s with
        merged := s.merged.insert name (.scalar text)
        queryAndPath := s.queryAndPath.insert name (.scalar text) }

/-- What one call does to the four views. -/
theorem apply_eq (s : FieldStore) (call : StoreCall) : call.apply s =
    { s with
      merged := call.writes.foldl FieldMap.write s.merged
      queryAndPath := call.found.foldl (fun m (name, text) => m.insert name (.scalar text)) s.queryAndPath } := by
  cases call with
  | set name value => rfl
  | unset name => rfl
  | interpolate fields => exact interpolate_eq fields s

/-- What a run of calls does to the four views. -/
theorem run_eq : ∀ (calls : List StoreCall) (s : FieldStore), s.run calls =
    { s with
      merged := (calls.flatMap StoreCall.writes).foldl FieldMap.write s.merged
      queryAndPath := (calls.flatMap StoreCall.found).foldl (fun m (name, text) => m.insert name (.scalar text))
        s.queryAndPath }
  | [], _ => rfl
  | call :: calls, s => by
    show (call.apply s).run calls = _
    rw [run_eq calls, apply_eq, List.flatMap_cons, List.flatMap_cons, List.foldl_append, List.foldl_append]

/-- **The views of a request's fields.** Whatever is called, the body and the query stay as they came, and beside the
query stand the fields that were found in the path, in the order of the calls. In the merged view a name has what its
last write gave it, and without one the body's value, or else the query's; the names start with the body's and those
that only the query has, and every write keeps or changes them as a single write does. -/
theorem run_views (query body : FieldMap) (calls : List StoreCall) :
    let s := (ofMaps query body).run calls
    let writes := calls.flatMap StoreCall.writes
    s.body = body ∧ s.query = query ∧
    s.queryAndPath =
      (calls.flatMap StoreCall.found).foldl (fun m (name, text) => m.insert name (.scalar text)) query ∧
    (∀ name, s.merged.get? name =
      match lastWrite? writes name with
      | some (_, value) => value
      | none => if name ∈ body.keys then body.get? name else query.get? name) ∧
    s.merged.keys = writes.foldl namesAfter (body.keys ++ query.keys.filter (· ∉ body.keys)) := by
  rw [run_eq]
  refine ⟨rfl, rfl, rfl, fun name => ?_, ?_⟩
  · show (List.foldl FieldMap.write (body.extendMissing query) _).get? name = _
    rw [FieldMap.get?_foldl_write, FieldMap.get?_extendMissing]
    cases lastWrite? (calls.flatMap StoreCall.writes) name with
    | some w => rfl
    | none =>
      show (body.get? name).or (query.get? name) = if name ∈ body.keys then body.get? name else query.get? name
      split
      next hmem =>
        cases hvalue : body.get? name with
        | none => exact absurd hmem (FieldMap.get?_eq_none_iff.mp hvalue)
        | some value => rfl
      next hmem => rw [FieldMap.get?_eq_none_iff.mpr hmem, Option.none_or]
  · show (List.foldl FieldMap.write (body.extendMissing query) _).keys = _
    rw [FieldMap.keys_foldl_write, FieldMap.keys, FieldMap.toList_extendMissing, List.map_append, FieldMap.keys,
      FieldMap.keys, List.filter_map]
    rfl

end FieldStore

end WikiGateway
