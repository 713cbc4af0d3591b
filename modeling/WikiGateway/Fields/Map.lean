import Std.Data.HashMap
import WikiGateway.Fields.Value

/-!
# Ordered maps of request fields

A `FieldMap` holds its entries in the order in which their names first came, and beside them an index from each name
to its position, so that look-ups and insertions take constant time on large forms. Every map carries the proof that
its index fits its entries (`IndexFits`), which each operation keeps.

* `insert` keeps the position of a name that is there and appends one that is not.
* `remove` closes the gap and moves the positions behind it.
* `exchange`, `take`: the same, and the value that was there before.
* `push` appends to a list, `extendMissing` takes over what another map has and this one lacks.
* `toList` is the view through which the operations are understood.
-/

namespace WikiGateway

/-! ## The index -/

/-- An index that leads from each name to its position, and from no other name anywhere. -/
def IndexFits (entries : Array (String × FieldValue)) (index : Std.HashMap String Nat) : Prop :=
  ∀ (name : String) (i : Nat), index[name]? = some i ↔ (entries[i]?).map Prod.fst = some name

namespace IndexFits

variable {entries : Array (String × FieldValue)} {index : Std.HashMap String Nat}

theorem empty : IndexFits #[] ∅ := by simp [IndexFits]

/-- A new name goes to the end. -/
theorem push (fits : IndexFits entries index) {name : String} (fresh : index[name]? = none) (value : FieldValue) :
    IndexFits (entries.push (name, value)) (index.insert name entries.size) := by
  intro other i
  rw [Std.HashMap.getElem?_insert, Array.getElem?_push]
  have there := fits other i
  grind

/-- Other values under the same names leave the positions as they are. -/
theorem modify (fits : IndexFits entries index) (i : Nat) (change : FieldValue → FieldValue) :
    IndexFits (entries.modify i fun entry => (entry.1, change entry.2)) index := by
  intro name j
  rw [fits name j, Array.getElem?_modify]
  split <;> cases entries[j]? <;> simp

/-- The positions behind a gap move up. -/
theorem erase (fits : IndexFits entries index) {name : String} {i : Nat} (found : index[name]? = some i) :
    IndexFits (entries.eraseIdxIfInBounds i)
      ((index.erase name).map fun _ j => if i < j then j - 1 else j) := by
  intro other j
  have gap := (fits name i).mp found
  rw [Std.HashMap.getElem?_map, Std.HashMap.getElem?_erase, ← Array.getElem?_toList,
    Array.toList_eraseIdxIfInBounds, List.getElem?_eraseIdx, Array.getElem?_toList, Array.getElem?_toList]
  have before := fits other j
  have behind := fits other (j + 1)
  have there := fits other i
  grind

end IndexFits

/-! ## Maps -/

/-- Fields in the order of their first appearance. -/
structure FieldMap where
  /-- The names and values in order. -/
  entries : Array (String × FieldValue)
  /-- The position of each name. -/
  index : Std.HashMap String Nat
  /-- The positions are those of the entries. -/
  index_fits : IndexFits entries index

namespace FieldMap

/-- The map without fields. -/
def empty : FieldMap := ⟨#[], ∅, .empty⟩

instance : Inhabited FieldMap := ⟨empty⟩

/-- The names and values in order. -/
def toList (m : FieldMap) : List (String × FieldValue) := m.entries.toList

/-- The number of fields. -/
def size (m : FieldMap) : Nat := m.entries.size

/-- Whether there is no field. -/
def isEmpty (m : FieldMap) : Bool := m.entries.isEmpty

/-- The names in order. -/
def keys (m : FieldMap) : List String := m.toList.map Prod.fst

/-- The value of a field. -/
def get? (m : FieldMap) (name : String) : Option FieldValue :=
  (m.index[name]?).bind fun i => (m.entries[i]?).map Prod.snd

/-- Whether there is a field of this name. -/
def contains (m : FieldMap) (name : String) : Bool := m.index.contains name

/-- Adds a field at the end. -/
def append (m : FieldMap) (name : String) (value : FieldValue) (fresh : m.index[name]? = none) : FieldMap :=
  ⟨m.entries.push (name, value), m.index.insert name m.entries.size, m.index_fits.push fresh value⟩

/-- Changes the value of a field in place, or adds the field at the end. -/
def alter (m : FieldMap) (name : String) (change : FieldValue → FieldValue) (new : FieldValue) : FieldMap :=
  match found : m.index[name]? with
  | some i => ⟨m.entries.modify i fun entry => (entry.1, change entry.2), m.index, m.index_fits.modify i change⟩
  | none => m.append name new found

/-- Sets a field; one that is there keeps its place. -/
def insert (m : FieldMap) (name : String) (value : FieldValue) : FieldMap :=
  m.alter name (fun _ => value) value

/-- Appends a text to the list of a field; a single text gives way to a list of the new one. -/
def push (m : FieldMap) (name : String) (text : String) : FieldMap :=
  m.alter name (FieldValue.push text) (.list [text])

/-- Removes a field and closes the gap. -/
def remove (m : FieldMap) (name : String) : FieldMap :=
  match found : m.index[name]? with
  | some i =>
    ⟨m.entries.eraseIdxIfInBounds i, (m.index.erase name).map fun _ j => if i < j then j - 1 else j,
      m.index_fits.erase found⟩
  | none => m

/-- Sets a field, and gives back the value that it had. -/
def exchange (m : FieldMap) (name : String) (value : FieldValue) : Option FieldValue × FieldMap :=
  (m.get? name, m.insert name value)

/-- Removes a field, and gives back the value that it had. -/
def take (m : FieldMap) (name : String) : Option FieldValue × FieldMap := (m.get? name, m.remove name)

/-- Adds a field at the end, unless there is one of its name. -/
def insertMissing (m : FieldMap) (name : String) (value : FieldValue) : FieldMap :=
  if there : m.contains name then m else m.append name value (by simpa [contains] using there)

/-- Adds the fields of `other` whose names are not there yet, in their order. -/
def extendMissing (m other : FieldMap) : FieldMap :=
  other.toList.foldl (fun m (name, value) => m.insertMissing name value) m

/-- The map of names and values, where a repeated name keeps its first place and takes its last value. -/
def ofList (fields : List (String × FieldValue)) : FieldMap :=
  fields.foldl (fun m (name, value) => m.insert name value) empty

/-- The map as JSON. -/
def toJson (m : FieldMap) : Json := .object (m.toList.map fun (name, value) => (name, value.toJson))

end FieldMap

end WikiGateway
