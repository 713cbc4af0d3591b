import Mathlib.Logic.Function.Basic
import WikiGateway.Proofs.Fields.Map
import WikiGateway.Text.Split

/-!
# Field maps stand for plain lists

A plain list of entries needs no index: a name is searched from the front (`PlainFields`). Calls on several field maps
(`MapCall`, `MapOps.run`) are answered as the same calls on plain lists, whatever went before, since each call keeps
every map at the entries of its list.

* `toList_alter`, `toList_remove_eq_erase`, `get?_eq_find?`, `toList_ofList`: single operations on both sides.
* `getElem?_index_remove`: a removal moves the names behind the gap up, one after the other, and no others.
* `step_simulates`, `run_simulates`: one call, and a run of calls.
* `fieldMaps_answer_as_plain_lists`: the answers agree, and every map has an index that fits.
-/

namespace WikiGateway

/-! ## Plain lists -/

namespace PlainFields

/-- The value of the first entry of a name. -/
def find? (name : String) : List (String × FieldValue) → Option FieldValue
  | [] => none
  | entry :: rest => if entry.1 = name then some entry.2 else find? name rest

/-- Changes the value of the first entry of a name in its place, or adds an entry at the end. -/
def alter (name : String) (change : FieldValue → FieldValue) (new : FieldValue) :
    List (String × FieldValue) → List (String × FieldValue)
  | [] => [(name, new)]
  | entry :: rest => if entry.1 = name then (name, change entry.2) :: rest else entry :: alter name change new rest

/-- Sets a field. -/
def insert (name : String) (value : FieldValue) : List (String × FieldValue) → List (String × FieldValue) :=
  alter name (fun _ => value) value

/-- Appends a text to a list that is there, and otherwise sets a list of one text. -/
def push (name text : String) : List (String × FieldValue) → List (String × FieldValue) :=
  alter name
    (fun
      | .list items => .list (items ++ [text])
      | .scalar _ => .list [text])
    (.list [text])

/-- Removes the first entry of a name. -/
def erase (name : String) : List (String × FieldValue) → List (String × FieldValue)
  | [] => []
  | entry :: rest => if entry.1 = name then rest else entry :: erase name rest

/-- Adds the entries of `other` whose names are missing, in their order. -/
def extendMissing (fields other : List (String × FieldValue)) : List (String × FieldValue) :=
  fields ++ other.filter fun entry => entry.1 ∉ fields.map Prod.fst

/-- Sets one field after the other. -/
def ofList (fields : List (String × FieldValue)) : List (String × FieldValue) :=
  fields.foldl (fun acc entry => insert entry.1 entry.2 acc) []

variable {name : String} {change : FieldValue → FieldValue} {new : FieldValue}

theorem alter_of_not_mem : ∀ {fields : List (String × FieldValue)}, name ∉ fields.map Prod.fst →
    alter name change new fields = fields ++ [(name, new)]
  | [], _ => rfl
  | entry :: rest, h => by
    rw [List.map_cons, List.mem_cons, not_or] at h
    rw [alter, if_neg fun heq => h.1 heq.symm, alter_of_not_mem h.2, List.cons_append]

/-- Where no name comes twice, the first entry of a name is the only one. -/
theorem alter_of_mem : ∀ {fields : List (String × FieldValue)}, (fields.map Prod.fst).Nodup →
    name ∈ fields.map Prod.fst → alter name change new fields =
      fields.map fun entry => if entry.1 = name then (entry.1, change entry.2) else entry
  | [], _, h => by cases h
  | entry :: rest, hnodup, h => by
    rw [List.map_cons, List.nodup_cons] at hnodup
    rw [alter, List.map_cons]
    by_cases heq : entry.1 = name
    · have hrest : ∀ other ∈ rest, ¬ other.1 = name := by
        intro other hother hname
        exact hnodup.1 (heq ▸ hname ▸ List.mem_map_of_mem hother)
      rw [if_pos heq, if_pos heq, heq, Text.map_ite_eq_self _ hrest]
    · have hmem : name ∈ rest.map Prod.fst := (List.mem_cons.mp h).resolve_left fun hname => heq hname.symm
      rw [if_neg heq, if_neg heq, alter_of_mem hnodup.2 hmem]

/-- Where no name comes twice, no entry of a removed name is left. -/
theorem erase_eq_filter : ∀ {fields : List (String × FieldValue)}, (fields.map Prod.fst).Nodup →
    erase name fields = fields.filter fun entry => entry.1 ≠ name
  | [], _ => rfl
  | entry :: rest, hnodup => by
    rw [List.map_cons, List.nodup_cons] at hnodup
    rw [erase]
    by_cases heq : entry.1 = name
    · have hrest : ∀ other ∈ rest, decide (other.1 ≠ name) = true := by
        intro other hother
        rw [decide_eq_true_iff]
        intro hname
        exact hnodup.1 (heq ▸ hname ▸ List.mem_map_of_mem hother)
      rw [if_pos heq, List.filter_cons_of_neg (by simpa using heq), List.filter_eq_self.mpr hrest]
    · rw [if_neg heq, List.filter_cons_of_pos (by simpa using heq), erase_eq_filter hnodup.2]

/-- Where no name comes twice, every entry is found. -/
theorem find?_eq_some_iff {value : FieldValue} : ∀ {fields : List (String × FieldValue)},
    (fields.map Prod.fst).Nodup → (find? name fields = some value ↔ (name, value) ∈ fields)
  | [], _ => by simp [find?]
  | entry :: rest, hnodup => by
    rw [List.map_cons, List.nodup_cons] at hnodup
    rw [find?, List.mem_cons]
    by_cases heq : entry.1 = name
    · have hrest : (name, value) ∉ rest := fun hmem => hnodup.1 (heq ▸ List.mem_map_of_mem hmem)
      rw [if_pos heq, Option.some.injEq, or_iff_left hrest, Prod.ext_iff]
      exact ⟨fun hvalue => ⟨heq.symm, hvalue.symm⟩, fun hentry => hentry.2.symm⟩
    · have hne : (name, value) ≠ entry := fun hentry => heq (hentry ▸ rfl)
      rw [if_neg heq, find?_eq_some_iff hnodup.2, or_iff_right hne]

end PlainFields

/-! ## Single operations -/

namespace FieldMap

variable {m : FieldMap} {name : String}

theorem get?_eq_find? : m.get? name = PlainFields.find? name m.toList := by
  ext value
  rw [get?_eq_some_iff, PlainFields.find?_eq_some_iff m.nodup_keys]

theorem contains_eq_isSome : m.contains name = (m.get? name).isSome := by
  rw [Bool.eq_iff_iff, contains_iff, Option.isSome_iff_ne_none, ne_eq, get?_eq_none_iff, not_not]

/-- A change on the map is the change on its list. -/
theorem toList_alter {change : FieldValue → FieldValue} {new : FieldValue} :
    (m.alter name change new).toList = PlainFields.alter name change new m.toList := by
  by_cases h : name ∈ m.keys
  · rw [toList_alter_of_mem h, PlainFields.alter_of_mem m.nodup_keys h]
  · rw [toList_alter_of_not_mem h, PlainFields.alter_of_not_mem h]

theorem toList_insert_eq_insert (value : FieldValue) :
    (m.insert name value).toList = PlainFields.insert name value m.toList := toList_alter

theorem toList_push_eq_push (text : String) : (m.push name text).toList = PlainFields.push name text m.toList := by
  rw [push, toList_alter, PlainFields.push]
  congr 1
  funext value
  cases value <;> rfl

theorem toList_remove_eq_erase : (m.remove name).toList = PlainFields.erase name m.toList := by
  rw [toList_remove, PlainFields.erase_eq_filter m.nodup_keys]

/-- Setting one field after the other, on both sides. -/
theorem toList_foldl_insert : ∀ (fields : List (String × FieldValue)) (m : FieldMap),
    (fields.foldl (fun m (name, value) => m.insert name value) m).toList =
      fields.foldl (fun acc entry => PlainFields.insert entry.1 entry.2 acc) m.toList
  | [], _ => rfl
  | (name, value) :: fields, m => by
    rw [List.foldl_cons, List.foldl_cons, toList_foldl_insert fields, toList_insert_eq_insert]

theorem toList_ofList (fields : List (String × FieldValue)) : (ofList fields).toList = PlainFields.ofList fields :=
  toList_foldl_insert fields empty

/-! ## The index behind a gap -/

/-- Moves the names of entries up by one position, one after the other. -/
def moveUp (entries : List (String × FieldValue)) (index : Std.HashMap String Nat) : Std.HashMap String Nat :=
  entries.foldl (fun index entry => index.modify entry.1 (· - 1)) index

/-- Where no name comes twice, each of them moves once. -/
theorem getElem?_moveUp : ∀ {entries : List (String × FieldValue)} {index : Std.HashMap String Nat},
    (entries.map Prod.fst).Nodup → ∀ name, (moveUp entries index)[name]? =
      if name ∈ entries.map Prod.fst then (index[name]?).map (· - 1) else index[name]?
  | [], _, _, _ => rfl
  | entry :: rest, index, hnodup, name => by
    rw [List.map_cons, List.nodup_cons] at hnodup
    show (moveUp rest (index.modify entry.1 (· - 1)))[name]? = _
    rw [getElem?_moveUp hnodup.2, Std.HashMap.getElem?_modify, List.map_cons]
    by_cases heq : entry.1 = name
    · subst heq
      simp [hnodup.1]
    · have hother : name ∈ entry.1 :: rest.map Prod.fst ↔ name ∈ rest.map Prod.fst :=
        ⟨fun h => (List.mem_cons.mp h).resolve_left (Ne.symm heq), List.mem_cons_of_mem _⟩
      simp only [hother, beq_iff_eq, if_neg heq]

/-- A removal moves the names behind the gap up, one after the other, and no others. -/
theorem getElem?_index_remove {i : Nat} (found : m.index[name]? = some i) (other : String) :
    (m.remove name).index[other]? = (moveUp (m.toList.drop (i + 1)) (m.index.erase name))[other]? := by
  have hindex : (m.remove name).index = (m.index.erase name).map fun _ j => if i < j then j - 1 else j := by
    unfold remove
    split
    next j hj =>
      obtain rfl : j = i := Option.some.inj (hj.symm.trans found)
      rfl
    next hnone => rw [found] at hnone; cases hnone
  have hnodup : ((m.toList.drop (i + 1)).map Prod.fst).Nodup := by
    rw [List.map_drop]
    exact m.nodup_keys.sublist (List.drop_sublist _ _)
  rw [hindex, getElem?_moveUp hnodup, Std.HashMap.getElem?_map, Std.HashMap.getElem?_erase]
  by_cases hname : (name == other) = true
  · simp [hname]
  rw [if_neg hname]
  cases hother : m.index[other]? with
  | none => simp
  | some j =>
    -- a name stands behind the gap just if its position does
    have hplace := index_eq_some_iff.mp hother
    have hbehind : other ∈ (m.toList.drop (i + 1)).map Prod.fst ↔ i < j := by
      rw [List.map_drop, List.mem_iff_getElem?]
      constructor
      · rintro ⟨k, hk⟩
        rw [List.getElem?_drop] at hk
        have heq := index_eq_some_iff.mpr (show m.keys[i + 1 + k]? = some other from hk)
        rw [hother, Option.some.injEq] at heq
        omega
      · intro hlt
        refine ⟨j - (i + 1), ?_⟩
        rw [List.getElem?_drop, Nat.add_sub_cancel' hlt]
        exact hplace
    simp only [hbehind, Option.map_some]
    split <;> rfl

end FieldMap

/-! ## Runs of calls -/

/-- What is seen of a map when it is asked for a name. -/
structure MapView where
  value : Option FieldValue
  contains : Bool
  size : Nat
  isEmpty : Bool
  names : List String
  entries : List (String × FieldValue)
  json : Json

/-- The operations of ordered maps of some kind. -/
structure MapOps (M : Type) where
  empty : M
  /-- Sets a field, and gives back the value that it had. -/
  exchange : M → String → FieldValue → Option FieldValue × M
  /-- Removes a field, and gives back the value that it had. -/
  take : M → String → Option FieldValue × M
  push : M → String → String → M
  extendMissing : M → M → M
  ofList : List (String × FieldValue) → M
  view : M → String → MapView

/-- The operations of field maps. -/
def fieldMapOps : MapOps FieldMap where
  empty := .empty
  exchange := FieldMap.exchange
  take := FieldMap.take
  push := FieldMap.push
  extendMissing := FieldMap.extendMissing
  ofList := FieldMap.ofList
  view m name := ⟨m.get? name, m.contains name, m.size, m.isEmpty, m.keys, m.toList, m.toJson⟩

/-- The operations of plain lists. -/
def plainOps : MapOps (List (String × FieldValue)) where
  empty := []
  exchange l name value := (PlainFields.find? name l, PlainFields.insert name value l)
  take l name := (PlainFields.find? name l, PlainFields.erase name l)
  push l name text := PlainFields.push name text l
  extendMissing := PlainFields.extendMissing
  ofList := PlainFields.ofList
  view l name := ⟨PlainFields.find? name l, (PlainFields.find? name l).isSome, l.length, l.length == 0,
    l.map Prod.fst, l, .object (l.map fun (name, value) => (name, value.toJson))⟩

/-- A call on one of several maps, which are numbered. -/
inductive MapCall
  | insert (map : Nat) (name : String) (value : FieldValue)
  | remove (map : Nat) (name : String)
  | push (map : Nat) (name text : String)
  | extendMissing (map other : Nat)
  | ofList (map : Nat) (fields : List (String × FieldValue))
  | look (map : Nat) (name : String)

/-- What a call answers. -/
inductive MapAnswer
  | done
  /-- The value that was there before. -/
  | old (value : Option FieldValue)
  | seen (view : MapView)

namespace MapOps

variable {M : Type} (ops : MapOps M)

/-- One call: the maps after it, and its answer. -/
def step (maps : Nat → M) : MapCall → (Nat → M) × MapAnswer
  | .insert i name value =>
    let (old, m) := ops.exchange (maps i) name value
    (Function.update maps i m, .old old)
  | .remove i name =>
    let (old, m) := ops.take (maps i) name
    (Function.update maps i m, .old old)
  | .push i name text => (Function.update maps i (ops.push (maps i) name text), .done)
  | .extendMissing i j => (Function.update maps i (ops.extendMissing (maps i) (maps j)), .done)
  | .ofList i fields => (Function.update maps i (ops.ofList fields), .done)
  | .look i name => (maps, .seen (ops.view (maps i) name))

/-- The calls one after the other: the maps at the end, and all answers. -/
def run (maps : Nat → M) : List MapCall → (Nat → M) × List MapAnswer
  | [] => (maps, [])
  | call :: calls =>
    let (next, answer) := ops.step maps call
    let (last, answers) := run next calls
    (last, answer :: answers)

end MapOps

/-- A map and its list that change together still have the same entries. -/
theorem toList_update (maps : Nat → FieldMap) {m : FieldMap} {l : List (String × FieldValue)} (h : m.toList = l)
    (i j : Nat) : (Function.update maps i m j).toList = Function.update (fun i => (maps i).toList) i l j := by
  rw [Function.update_apply, Function.update_apply]
  split
  · exact h
  · rfl

/-- What is seen of a map is what is seen of its list. -/
theorem view_eq (m : FieldMap) (name : String) : fieldMapOps.view m name = plainOps.view m.toList name := by
  have hsize : m.size = m.toList.length := Array.length_toList.symm
  have hempty : m.isEmpty = (m.toList.length == 0) := by rw [← hsize]; rfl
  show MapView.mk _ _ _ _ _ _ _ = MapView.mk _ _ _ _ _ _ _
  rw [MapView.mk.injEq]
  refine ⟨FieldMap.get?_eq_find?, ?_, hsize, hempty, rfl, rfl, rfl⟩
  rw [FieldMap.contains_eq_isSome, FieldMap.get?_eq_find?]

/-- One call: the same answer, and the same entries afterwards. -/
theorem step_simulates {maps : Nat → FieldMap} {lists : Nat → List (String × FieldValue)}
    (h : ∀ i, (maps i).toList = lists i) (call : MapCall) :
    (fieldMapOps.step maps call).2 = (plainOps.step lists call).2 ∧
      ∀ i, ((fieldMapOps.step maps call).1 i).toList = (plainOps.step lists call).1 i := by
  obtain rfl : (fun i => (maps i).toList) = lists := funext h
  cases call with
  | insert i name value =>
    exact ⟨congrArg MapAnswer.old FieldMap.get?_eq_find?,
      toList_update maps (FieldMap.toList_insert_eq_insert value) i⟩
  | remove i name =>
    exact ⟨congrArg MapAnswer.old FieldMap.get?_eq_find?, toList_update maps FieldMap.toList_remove_eq_erase i⟩
  | push i name text => exact ⟨rfl, toList_update maps (FieldMap.toList_push_eq_push text) i⟩
  | extendMissing i j => exact ⟨rfl, toList_update maps (FieldMap.toList_extendMissing (maps j)) i⟩
  | ofList i fields => exact ⟨rfl, toList_update maps (FieldMap.toList_ofList fields) i⟩
  | look i name => exact ⟨congrArg MapAnswer.seen (view_eq (maps i) name), h⟩

/-- A run of calls: the same answers, and the same entries at the end. -/
theorem run_simulates : ∀ (calls : List MapCall) {maps : Nat → FieldMap} {lists : Nat → List (String × FieldValue)},
    (∀ i, (maps i).toList = lists i) →
      (fieldMapOps.run maps calls).2 = (plainOps.run lists calls).2 ∧
        ∀ i, ((fieldMapOps.run maps calls).1 i).toList = (plainOps.run lists calls).1 i
  | [], _, _, h => ⟨rfl, h⟩
  | call :: calls, _, _, h => by
    obtain ⟨hanswer, hnext⟩ := step_simulates h call
    obtain ⟨hanswers, hlast⟩ := run_simulates calls hnext
    exact ⟨congrArg₂ List.cons hanswer hanswers, hlast⟩

/-- **Field maps stand for plain lists.** From empty maps, every sequence of calls is answered as on plain lists. At
its end every map has the entries of its list, no name comes twice, and the index has just the names of the entries and
leads from each to its position, which a removal keeps so by moving up the names behind the gap. -/
theorem fieldMaps_answer_as_plain_lists (calls : List MapCall) :
    (fieldMapOps.run (fun _ => fieldMapOps.empty) calls).2 = (plainOps.run (fun _ => plainOps.empty) calls).2 ∧
    ∀ i, let m := (fieldMapOps.run (fun _ => fieldMapOps.empty) calls).1 i
      m.toList = (plainOps.run (fun _ => plainOps.empty) calls).1 i ∧
      (m.entries.toList.map Prod.fst).Nodup ∧
      (∀ name, m.index.contains name = true ↔ name ∈ m.entries.toList.map Prod.fst) ∧
      (∀ (name : String) (j : Nat), m.index[name]? = some j ↔ (m.entries[j]?).map Prod.fst = some name) ∧
      (∀ (name : String) (j : Nat), m.index[name]? = some j → j < m.entries.size ∧ ∀ other : String,
        (m.remove name).index[other]? =
          (FieldMap.moveUp (m.entries.toList.drop (j + 1)) (m.index.erase name))[other]?) := by
  have hempty : ∀ _ : Nat, fieldMapOps.empty.toList = plainOps.empty := fun _ => rfl
  obtain ⟨hanswers, hentries⟩ := run_simulates calls hempty
  refine ⟨hanswers, fun i => ?_⟩
  intro m
  refine ⟨hentries i, m.nodup_keys, fun _ => FieldMap.contains_iff, m.index_fits, fun name j found => ?_⟩
  have hplace := (m.index_fits name j).mp found
  obtain ⟨entry, hentry, -⟩ := Option.map_eq_some_iff.mp hplace
  exact ⟨(Array.getElem?_eq_some_iff.mp hentry).1, FieldMap.getElem?_index_remove found⟩

end WikiGateway
