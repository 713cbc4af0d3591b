import Mathlib.Data.List.Nodup
import WikiGateway.Fields.Map

/-!
# Field maps as lists

A field map is understood through the list of its entries, in which no name comes twice (`nodup_keys`) and whose members
are what look-ups find (`get?_eq_some_iff`).

* `toList_alter_of_mem`, `toList_alter_of_not_mem`, `toList_insert`, `toList_remove`, `toList_extendMissing`: each
  operation on the list.
* `keys_alter`, `get?_alter_self`, `get?_alter_of_ne`, `get?_extendMissing`: the names and the look-ups afterwards.
* `toList_eq_map_keys`: a map is what its names and its look-ups say.
-/

namespace WikiGateway
namespace FieldMap

variable {m : FieldMap} {name : String}

/-! ## Look-ups -/

/-- The index leads to the place of a name among the names. -/
theorem index_eq_some_iff {i : Nat} : m.index[name]? = some i ↔ m.keys[i]? = some name := by
  rw [m.index_fits name i, keys, toList, List.getElem?_map, Array.getElem?_toList]

theorem index_eq_none_iff : m.index[name]? = none ↔ name ∉ m.keys := by
  rw [List.mem_iff_getElem?, Option.eq_none_iff_forall_ne_some, not_exists]
  exact forall_congr' fun i => not_congr index_eq_some_iff

/-- No name comes twice. -/
theorem nodup_keys (m : FieldMap) : m.keys.Nodup := by
  rw [List.nodup_iff_getElem?_ne_getElem?]
  intro i j hij hj heq
  obtain ⟨name, hname⟩ : ∃ name, m.keys[j]? = some name := ⟨_, List.getElem?_eq_getElem hj⟩
  have hi := index_eq_some_iff.mpr (heq.trans hname)
  rw [index_eq_some_iff.mpr hname, Option.some.injEq] at hi
  omega

theorem contains_iff : m.contains name = true ↔ name ∈ m.keys := by
  rw [contains, Std.HashMap.contains_eq_isSome_getElem?, ← not_iff_not, ← index_eq_none_iff]
  simp

/-- What a look-up finds is an entry. -/
theorem get?_eq_some_iff {value : FieldValue} : m.get? name = some value ↔ (name, value) ∈ m.toList := by
  constructor
  · intro h
    obtain ⟨i, hi, h⟩ := Option.bind_eq_some_iff.mp h
    obtain ⟨entry, hentry, rfl⟩ := Option.map_eq_some_iff.mp h
    have hname := (m.index_fits name i).mp hi
    rw [hentry, Option.map_some, Option.some.injEq] at hname
    subst hname
    exact List.mem_of_getElem? (Array.getElem?_toList ▸ hentry)
  · intro h
    obtain ⟨i, hi⟩ := List.mem_iff_getElem?.mp h
    have hentry : m.entries[i]? = some (name, value) := by rw [← hi, toList, Array.getElem?_toList]
    have hindex := (m.index_fits name i).mpr (by rw [hentry]; rfl)
    rw [get?, hindex, Option.bind_some, hentry, Option.map_some]

theorem get?_eq_none_iff : m.get? name = none ↔ name ∉ m.keys := by
  rw [Option.eq_none_iff_forall_ne_some, keys, List.mem_map]
  constructor
  · rintro h ⟨⟨_, value⟩, hmem, rfl⟩
    exact h value (get?_eq_some_iff.mpr hmem)
  · intro h value hvalue
    exact h ⟨_, get?_eq_some_iff.mp hvalue, rfl⟩

/-- A map is what its names and its look-ups say. -/
theorem toList_eq_map_keys {value : String → FieldValue} (h : ∀ name ∈ m.keys, m.get? name = some (value name)) :
    m.toList = m.keys.map fun name => (name, value name) := by
  rw [keys, List.map_map]
  symm
  refine (List.map_congr_left fun entry hentry => ?_).trans (List.map_id _)
  have hvalue := h entry.1 (List.mem_map_of_mem hentry)
  rw [get?_eq_some_iff.mpr (show (entry.1, entry.2) ∈ m.toList from hentry), Option.some.injEq] at hvalue
  exact Prod.ext rfl hvalue.symm

@[simp] theorem toList_empty : empty.toList = [] := rfl

@[simp] theorem keys_empty : empty.keys = [] := rfl

@[simp] theorem get?_empty : empty.get? name = none := get?_eq_none_iff.mpr List.not_mem_nil

/-- Maps of the same entries show the same. -/
theorem get?_congr {m' : FieldMap} (h : m.toList = m'.toList) (name : String) : m.get? name = m'.get? name := by
  ext value
  rw [get?_eq_some_iff, get?_eq_some_iff, h]

/-! ## Changing one field -/

section
variable {change : FieldValue → FieldValue} {new : FieldValue}

/-- A name that is new goes to the end. -/
theorem toList_alter_of_not_mem (h : name ∉ m.keys) : (m.alter name change new).toList = m.toList ++ [(name, new)] := by
  have hindex := index_eq_none_iff.mpr h
  unfold alter
  split
  next i hi => rw [hindex] at hi; cases hi
  next => exact Array.toList_push

/-- A name that is there keeps its place. -/
theorem toList_alter_of_mem (h : name ∈ m.keys) : (m.alter name change new).toList =
    m.toList.map fun entry => if entry.1 = name then (entry.1, change entry.2) else entry := by
  unfold alter
  split
  next i hi =>
    apply List.ext_getElem?
    intro j
    rw [toList, Array.toList_modify, List.getElem?_modify, List.getElem?_map, ← toList]
    cases hj : m.toList[j]? with
    | none => rfl
    | some entry =>
      have hplace : entry.1 = name ↔ i = j := by
        have := m.index_fits name j
        rw [hi, ← Array.getElem?_toList, ← toList, hj, Option.map_some, Option.some.injEq, Option.some.injEq] at this
        exact this.symm
      simp [hplace]
  next hi => exact absurd h (index_eq_none_iff.mp hi)

/-- A field that is set keeps its place or goes to the end. -/
theorem toList_insert (value : FieldValue) : (m.insert name value).toList =
    if name ∈ m.keys then m.toList.map fun entry => if entry.1 = name then (entry.1, value) else entry
    else m.toList ++ [(name, value)] := by
  split
  next h => exact toList_alter_of_mem h
  next h => exact toList_alter_of_not_mem h

/-- A change leaves the names, up to a new one at the end. -/
theorem keys_alter : (m.alter name change new).keys = if name ∈ m.keys then m.keys else m.keys ++ [name] := by
  split
  next h =>
    rw [keys, toList_alter_of_mem h, List.map_map]
    exact List.map_congr_left fun entry _ => by simp only [Function.comp_apply]; split <;> rfl
  next h => rw [keys, toList_alter_of_not_mem h, List.map_append]; rfl

/-- A change is seen under its name. -/
theorem get?_alter_self : (m.alter name change new).get? name = some ((m.get? name).elim new change) := by
  rw [get?_eq_some_iff]
  cases hvalue : m.get? name with
  | none =>
    rw [toList_alter_of_not_mem (get?_eq_none_iff.mp hvalue)]
    exact List.mem_append_right _ List.mem_cons_self
  | some value =>
    have hentry := get?_eq_some_iff.mp hvalue
    rw [toList_alter_of_mem (List.mem_map_of_mem hentry)]
    exact List.mem_map.mpr ⟨_, hentry, if_pos rfl⟩

/-- A change is seen under no other name. -/
theorem get?_alter_of_ne {other : String} (h : other ≠ name) :
    (m.alter name change new).get? other = m.get? other := by
  ext value
  rw [get?_eq_some_iff, get?_eq_some_iff]
  by_cases hmem : name ∈ m.keys
  · rw [toList_alter_of_mem hmem, List.mem_map]
    constructor
    · rintro ⟨entry, hentry, heq⟩
      split at heq
      next hname => cases heq; exact absurd hname h
      next => rw [← heq]; exact hentry
    · exact fun hentry => ⟨_, hentry, if_neg h⟩
  · rw [toList_alter_of_not_mem hmem, List.mem_append, List.mem_singleton, Prod.mk.injEq]
    exact ⟨fun hentry => hentry.resolve_right fun heq => h heq.1, Or.inl⟩

end

/-! ## Removing a field -/

/-- Two entries of one name are the same. -/
theorem eq_of_mem_toList {value value' : FieldValue} (h : (name, value) ∈ m.toList) (h' : (name, value') ∈ m.toList) :
    value = value' := by
  rw [← get?_eq_some_iff] at h h'
  exact Option.some.inj (h.symm.trans h')

/-- Removing a field closes the gap. -/
theorem toList_remove : (m.remove name).toList = m.toList.filter fun entry => entry.1 ≠ name := by
  unfold remove
  split
  next i hi =>
    obtain ⟨entry, hentry, hname⟩ := Option.map_eq_some_iff.mp ((m.index_fits name i).mp hi)
    rw [← Array.getElem?_toList, ← toList] at hentry
    obtain ⟨hlt, hget⟩ := List.getElem?_eq_some_iff.mp hentry
    have hnodup : m.toList.Nodup := List.Nodup.of_map _ m.nodup_keys
    show (m.entries.eraseIdxIfInBounds i).toList = _
    rw [Array.toList_eraseIdxIfInBounds, ← toList, ← hnodup.erase_getElem i hlt, hget, hnodup.erase_eq_filter]
    refine List.filter_congr fun other hother => ?_
    have hsame : other = entry ↔ other.1 = name := by
      refine ⟨fun h => h ▸ hname, fun h => ?_⟩
      have heq : other.1 = entry.1 := h.trans hname.symm
      exact Prod.ext heq (eq_of_mem_toList hother (heq ▸ hget ▸ List.getElem_mem hlt))
    rw [Bool.eq_iff_iff]
    simp [hsame]
  next hi =>
    symm
    rw [List.filter_eq_self]
    intro entry hentry
    have hne : entry.1 ≠ name := fun h => index_eq_none_iff.mp hi (h ▸ List.mem_map_of_mem hentry)
    simpa using hne

/-! ## Joining maps -/

theorem insertMissing_of_mem (h : name ∈ m.keys) (value : FieldValue) : m.insertMissing name value = m :=
  dif_pos (contains_iff.mpr h)

theorem toList_insertMissing_of_not_mem (h : name ∉ m.keys) (value : FieldValue) :
    (m.insertMissing name value).toList = m.toList ++ [(name, value)] := by
  rw [insertMissing, dif_neg fun hmem => h (contains_iff.mp hmem)]
  exact Array.toList_push

/-- A field that is set only if it is missing. -/
theorem ite_insert_eq_insertMissing (value : FieldValue) :
    (if m.contains name then m else m.insert name value) = m.insertMissing name value := by
  unfold insertMissing
  split
  next h => rfl
  next h =>
    have hindex := index_eq_none_iff.mpr fun hmem => h (contains_iff.mpr hmem)
    unfold insert alter
    split
    next i hi => rw [hindex] at hi; cases hi
    next => rfl

/-- Taking over one field after the other, where no name comes twice among them. -/
theorem toList_foldl_insertMissing : ∀ (fields : List (String × FieldValue)) (m : FieldMap),
    (fields.map Prod.fst).Nodup → (fields.foldl (fun m (name, value) => m.insertMissing name value) m).toList =
      m.toList ++ fields.filter fun entry => entry.1 ∉ m.keys
  | [], _, _ => by simp
  | (name, value) :: fields, m, hnodup => by
    rw [List.map_cons, List.nodup_cons] at hnodup
    rw [List.foldl_cons, toList_foldl_insertMissing fields _ hnodup.2]
    dsimp only
    by_cases h : name ∈ m.keys
    · simp only [insertMissing_of_mem h]
      rw [List.filter_cons_of_neg (by simpa using h)]
    · have hkeys : (m.insertMissing name value).keys = m.keys ++ [name] := by
        rw [keys, toList_insertMissing_of_not_mem h, List.map_append]
        rfl
      have hrest : (fields.filter fun entry => entry.1 ∉ (m.insertMissing name value).keys) =
          fields.filter fun entry => entry.1 ∉ m.keys := by
        refine List.filter_congr fun entry hentry => ?_
        have hne : entry.1 ≠ name := fun heq => hnodup.1 (List.mem_map.mpr ⟨entry, hentry, heq⟩)
        simp [hkeys, hne]
      rw [toList_insertMissing_of_not_mem h, hrest, List.filter_cons_of_pos (by simpa using h), List.append_assoc,
        List.singleton_append]

/-- Only the names that are missing are taken over, in their order. -/
theorem toList_extendMissing (other : FieldMap) :
    (m.extendMissing other).toList = m.toList ++ other.toList.filter fun entry => entry.1 ∉ m.keys :=
  toList_foldl_insertMissing other.toList m other.nodup_keys

/-- What a map has goes before what it takes over. -/
theorem get?_extendMissing (other : FieldMap) :
    (m.extendMissing other).get? name = (m.get? name).or (other.get? name) := by
  ext value
  rw [get?_eq_some_iff, toList_extendMissing, List.mem_append, List.mem_filter, ← get?_eq_some_iff,
    ← get?_eq_some_iff, Option.or_eq_some_iff, get?_eq_none_iff, decide_eq_true_iff, and_comm]

end FieldMap
end WikiGateway
