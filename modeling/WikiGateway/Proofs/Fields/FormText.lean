import Mathlib.Tactic.MkIffOfInductiveProp
import WikiGateway.Fields.FormText
import WikiGateway.Proofs.Fields.Form
import WikiGateway.Proofs.Text.Percent
import WikiGateway.Proofs.Text.Trim

/-!
# Forms read back

What is written of a map is read as the same map, whatever the legacy encoding, as long as the map is plain: its names
are (`PlainName`), and its lists are not empty (`FieldMap.IsPlain`, `toList_parseForm_formText`).

* `formDecode_encode_formEncode`, `of_mem_encode_formEncode`: a name or a value is read back, and has no separators.
* `formItem?_encode_formPair`: so is a pair.
* `formItems_encode_formText`: the named texts of what is written are those of the fields.
* `toList_foldl_formItems`: they build the fields up again, one field at the end of the map after the other.
-/

namespace WikiGateway

/-! ## Names and values -/

theorem isFormByte_lt {b : UInt8} (h : isFormByte b = true) : b < 0x80 := by
  simp only [isFormByte, Bool.or_eq_true, beq_iff_eq] at h
  rcases h with (((h | rfl) | rfl) | rfl) | rfl
  · exact Text.isAlphanumericByte_lt h
  all_goals decide

/-- The bytes that stand for something else in a form are not written. -/
theorem of_mem_encode_formByte {b x : UInt8}
    (h : x ∈ Text.encode (String.ofList (Text.percentEncodeByte isFormByte b))) :
    x ≠ 0x26 ∧ x ≠ 0x3D ∧ x ≠ 0x2B := by
  rcases Text.of_mem_encode_percentEncodeByte (fun _ => isFormByte_lt) h with hx | hx | rfl
  · refine ⟨?_, ?_, ?_⟩ <;> rintro rfl <;> revert hx <;> decide
  · refine ⟨?_, ?_, ?_⟩ <;> rintro rfl <;> revert hx <;> decide
  · decide

theorem encode_plus : Text.encode (String.ofList ['+']) = [0x2B] := by decide +kernel

/-- The separators are not written within a name or a value. -/
theorem of_mem_encode_formEncode {s : String} {x : UInt8} (h : x ∈ Text.encode (formEncode s)) :
    x ≠ 0x26 ∧ x ≠ 0x3D := by
  rw [formEncode, Text.encode_ofList_flatMap, List.mem_flatMap] at h
  obtain ⟨b, -, h⟩ := h
  unfold formEncodeByte at h
  split at h
  next hb =>
    rw [encode_plus] at h
    obtain rfl := List.mem_singleton.mp h
    decide
  next hb => exact (of_mem_encode_formByte h).imp_right And.left

/-- A byte is read back from what is written for it. -/
theorem formDecode_encode_formEncodeByte_append (b : UInt8) (rest : List UInt8) :
    formDecode (Text.encode (String.ofList (formEncodeByte b)) ++ rest) = b :: formDecode rest := by
  unfold formDecode formEncodeByte Text.replaceEach
  rw [List.map_append]
  split
  next hb =>
    subst hb
    rw [encode_plus]
    exact Text.percentDecode_cons_other (by decide) _
  next hb =>
    have hplus : ∀ x ∈ Text.encode (String.ofList (Text.percentEncodeByte isFormByte b)), ¬ (x == 0x2B) = true := by
      intro x hx
      simpa using (of_mem_encode_formByte hx).2.2
    rw [Text.map_ite_eq_self _ hplus,
      Text.percentDecode_encode_percentEncodeByte_append (fun _ => isFormByte_lt) (by decide)]

/-- A name or a value is read back. -/
theorem formDecode_encode_formEncode (s : String) : formDecode (Text.encode (formEncode s)) = Text.encode s := by
  rw [formEncode, Text.encode_ofList_flatMap]
  induction Text.encode s with
  | nil => exact Text.percentDecode_nil
  | cons b bytes ih => rw [List.flatMap_cons, formDecode_encode_formEncodeByte_append, ih]

/-! ## Pairs -/

theorem encode_formPair (name value : String) : Text.encode (formPair name value) =
    Text.encode (formEncode name) ++ 0x3D :: Text.encode (formEncode value) := by
  have hequals : Text.encode "=" = [0x3D] := by decide +kernel
  rw [formPair, Text.encode_append, Text.encode_append, hequals, List.append_assoc, List.singleton_append]

/-- A pair has no ampersand. -/
theorem not_mem_encode_formPair (name value : String) : 0x26 ∉ Text.encode (formPair name value) := by
  rw [encode_formPair]
  intro h
  rcases List.mem_append.mp h with h | h
  · exact (of_mem_encode_formEncode h).1 rfl
  · rcases List.mem_cons.mp h with h | h
    · revert h
      decide
    · exact (of_mem_encode_formEncode h).1 rfl

/-- A pair is read as its value under the name that the rule for names gives. -/
theorem formItem?_encode_formPair (legacy : Option Encoding) (name value : String) :
    formItem? legacy (Text.encode (formPair name value)) =
      (fieldName? name.toList).map fun (stored, isListItem) => ⟨stored, isListItem, value⟩ := by
  have hname : ∀ x ∈ Text.encode (formEncode name), (x == 0x3D) = false := by
    intro x hx
    simpa using (of_mem_encode_formEncode hx).2
  have hvalue : fieldText legacy (Text.encode value) = value := by
    rw [fieldText_eq, Text.decode?_encode, Option.getD_some]
  rw [encode_formPair, formItem?, if_neg (by simp), Text.cut?_append_cons _ rfl _ hname, Option.getD_some]
  simp only [formDecode_encode_formEncode, Text.decodeLossy_encode, hvalue]

/-! ## Plain names -/

/-- A name that the rule for names leaves as it is, also in front of a bracket. -/
@[mk_iff] structure PlainName (name : String) : Prop where
  ne_empty : name ≠ ""
  no_bracket : '[' ∉ name.toList
  no_dot : '.' ∉ name.toList
  no_blank : ' ' ∉ name.toList

instance (name : String) : Decidable (PlainName name) := decidable_of_iff' _ (plainName_iff name)

namespace PlainName

variable {name : String}

theorem toList_ne_nil (h : PlainName name) : name.toList ≠ [] := fun hnil =>
  h.ne_empty (String.toList_eq_nil_iff.mp hnil)

/-- No character of a plain name is replaced. -/
theorem map_plain (h : PlainName name) :
    name = String.ofList (name.toList.map fun c => if c = '.' ∨ c = ' ' then '_' else c) := by
  have hmap : (name.toList.map fun c => if c = '.' ∨ c = ' ' then '_' else c) = name.toList := by
    refine Text.map_ite_eq_self _ fun c hc => ?_
    rintro (rfl | rfl)
    · exact h.no_dot hc
    · exact h.no_blank hc
  rw [hmap, String.ofList_toList]

/-- A plain name has no blanks in front, whatever follows. -/
theorem dropWhile_append (h : PlainName name) (rest : List Char) :
    (name.toList ++ rest).dropWhile (· == ' ') = name.toList ++ rest :=
  Text.dropWhile_append_of_not_mem h.toList_ne_nil h.no_blank rest

/-- A plain name alone is a name. -/
theorem fieldName?_eq (h : PlainName name) : fieldName? name.toList = some (name, false) := by
  have hblank := h.dropWhile_append []
  rw [List.append_nil] at hblank
  exact fieldName?_eq_some_iff.mpr ⟨name.toList, hblank.symm ▸ .plain h.no_bracket, h.toList_ne_nil, h.map_plain⟩

/-- A plain name with something in brackets behind it names an item of a list. -/
theorem fieldName?_item (h : PlainName name) (number : String) :
    fieldName? (name ++ "[" ++ number ++ "]").toList = some (name, true) := by
  have hkey : (name ++ "[" ++ number ++ "]").toList = name.toList ++ '[' :: (number.toList ++ [']']) := by
    simp
  have hcut : KeyCut (name.toList ++ '[' :: (number.toList ++ [']'])) name.toList true :=
    .item h.no_bracket (by simp)
  rw [fieldName?_eq_some_iff, hkey]
  exact ⟨name.toList, (h.dropWhile_append _).symm ▸ hcut, h.toList_ne_nil, h.map_plain⟩

end PlainName

/-! ## Fields -/

/-- The named texts that a field is written as. -/
def FieldValue.formItems (name : String) : FieldValue → List FormItem
  | scalar text => [⟨name, false, text⟩]
  | list items => items.map fun item => ⟨name, true, item⟩

/-- The items of a list are read back, from whatever number on they are written. -/
theorem filterMap_numberedPairs (legacy : Option Encoding) {name : String} (h : PlainName name) :
    ∀ (items : List String) (number : Nat),
      (numberedPairs name number items).filterMap (fun text => formItem? legacy (Text.encode text)) =
        items.map fun item => ⟨name, true, item⟩
  | [], _ => rfl
  | item :: items, number => by
    have hitem : formItem? legacy (Text.encode (formPair (name ++ "[" ++ number.repr ++ "]") item)) =
        some ⟨name, true, item⟩ := by
      rw [formItem?_encode_formPair, h.fieldName?_item]
      rfl
    simp only [numberedPairs, List.filterMap_cons, hitem, filterMap_numberedPairs legacy h items, List.map_cons]

/-- A field is read back as its named texts. -/
theorem filterMap_formPairs (legacy : Option Encoding) {name : String} (h : PlainName name) (value : FieldValue) :
    (value.formPairs name).filterMap (fun text => formItem? legacy (Text.encode text)) = value.formItems name := by
  cases value with
  | scalar text =>
    have hitem : formItem? legacy (Text.encode (formPair name text)) = some ⟨name, false, text⟩ := by
      rw [formItem?_encode_formPair, h.fieldName?_eq]
      rfl
    simp only [FieldValue.formPairs, FieldValue.formItems, List.filterMap_cons, List.filterMap_nil, hitem]
  | list items => exact filterMap_numberedPairs legacy h items 0

theorem not_mem_encode_numberedPairs {name : String} :
    ∀ (items : List String) (number : Nat), ∀ text ∈ numberedPairs name number items, 0x26 ∉ Text.encode text
  | [], _, _, h => by cases h
  | item :: items, number, text, h => by
    rcases List.mem_cons.mp h with rfl | h
    · exact not_mem_encode_formPair _ _
    · exact not_mem_encode_numberedPairs items _ text h

/-- What is written of a field has no ampersand within a pair. -/
theorem not_mem_encode_formPairs {name : String} {value : FieldValue} {text : String}
    (h : text ∈ value.formPairs name) : 0x26 ∉ Text.encode text := by
  cases value with
  | scalar =>
    obtain rfl := List.mem_singleton.mp h
    exact not_mem_encode_formPair _ _
  | list items => exact not_mem_encode_numberedPairs items 0 text h

/-! ## Maps -/

theorem encode_intercalate : ∀ texts : List String,
    Text.encode (String.intercalate "&" texts) = [0x26].intercalate (texts.map Text.encode)
  | [] => rfl
  | [text] => by simp
  | text :: next :: texts => by
    have hampersand : Text.encode "&" = [0x26] := by decide +kernel
    rw [String.intercalate_cons_cons, Text.encode_append, Text.encode_append, hampersand,
      encode_intercalate (next :: texts)]
    simp only [List.map_cons, List.intercalate_cons_cons]

/-- Pairs without ampersands are read one by one. -/
theorem formItems_encode_intercalate (legacy : Option Encoding) {texts : List String}
    (h : ∀ text ∈ texts, 0x26 ∉ Text.encode text) :
    formItems legacy (Text.encode (String.intercalate "&" texts)) =
      texts.filterMap fun text => formItem? legacy (Text.encode text) := by
  rw [formItems, Text.splitOn_eq, encode_intercalate]
  rcases eq_or_ne texts [] with rfl | hne
  · rfl
  · rw [List.splitOn_intercalate, List.filterMap_map]
    · rfl
    · simpa using h
    · simpa using hne

/-- The named texts of what is written of a map are those of its fields. -/
theorem formItems_encode_formText (legacy : Option Encoding) {m : FieldMap}
    (h : ∀ entry ∈ m.toList, PlainName entry.1) :
    formItems legacy (Text.encode m.formText) = m.toList.flatMap fun (name, value) => value.formItems name := by
  rw [FieldMap.formText, formItems_encode_intercalate, List.filterMap_flatMap]
  · exact List.flatMap_congr fun entry hentry => filterMap_formPairs legacy (h entry hentry) entry.2
  · intro text htext
    obtain ⟨entry, -, htext⟩ := List.mem_flatMap.mp htext
    exact not_mem_encode_formPairs htext

/-! ## Building the fields up again -/

/-- More items go to the end of the list at the end of the map. -/
theorem toList_foldl_items {name : String} {front : List (String × FieldValue)} (hfront : name ∉ front.map Prod.fst) :
    ∀ (items seen : List String) (m : FieldMap), m.toList = front ++ [(name, .list seen)] →
      ((items.map fun item => FormItem.mk name true item).foldl FieldMap.addItem m).toList =
        front ++ [(name, .list (seen ++ items))]
  | [], seen, m, h => by simpa using h
  | item :: items, seen, m, h => by
    have hmem : name ∈ m.keys := by simp [FieldMap.keys, h]
    have hother : ∀ entry ∈ front, entry.1 ≠ name := by
      rintro entry hentry rfl
      exact hfront (List.mem_map_of_mem hentry)
    have hpush : (m.addItem ⟨name, true, item⟩).toList = front ++ [(name, .list (seen ++ [item]))] := by
      show (m.push name item).toList = _
      rw [FieldMap.push, FieldMap.toList_alter_of_mem hmem, h, List.map_append, List.map_singleton, if_pos rfl,
        Text.map_ite_eq_self _ hother]
      rfl
    rw [List.map_cons, List.foldl_cons, toList_foldl_items hfront items _ _ hpush, List.append_assoc,
      List.singleton_append]

/-- The items of a field that the map lacks add the field at its end. -/
theorem toList_foldl_formItems {m : FieldMap} {name : String} {value : FieldValue} (hname : name ∉ m.keys)
    (hvalue : value ≠ .list []) :
    ((value.formItems name).foldl FieldMap.addItem m).toList = m.toList ++ [(name, value)] := by
  cases value with
  | scalar text =>
    show (m.insert name (.scalar text)).toList = _
    exact FieldMap.toList_alter_of_not_mem hname
  | list items =>
    cases items with
    | nil => exact absurd rfl hvalue
    | cons item items =>
      exact toList_foldl_items hname items [item] _ (FieldMap.toList_alter_of_not_mem hname)

/-- The items of fields of different names that the map lacks add the fields at its end. -/
theorem toList_foldl_flatMap_formItems : ∀ (fields : List (String × FieldValue)) (m : FieldMap),
    (m.keys ++ fields.map Prod.fst).Nodup → (∀ field ∈ fields, field.2 ≠ .list []) →
      ((fields.flatMap fun (name, value) => value.formItems name).foldl FieldMap.addItem m).toList =
        m.toList ++ fields
  | [], m, _, _ => by simp
  | (name, value) :: fields, m, hnodup, hvalues => by
    have hname : name ∉ m.keys := fun hmem =>
      (List.nodup_append.mp hnodup).2.2 name hmem name List.mem_cons_self rfl
    have hfield := toList_foldl_formItems hname (hvalues _ List.mem_cons_self)
    rw [List.flatMap_cons, List.foldl_append, toList_foldl_flatMap_formItems fields]
    · rw [hfield, List.append_assoc, List.singleton_append]
    · rw [FieldMap.keys, hfield, List.map_append, List.append_assoc]
      exact hnodup
    · exact fun field hfield => hvalues field (List.mem_cons_of_mem _ hfield)

/-- The names of the map are plain and its lists are not empty. -/
def FieldMap.IsPlain (m : FieldMap) : Prop := ∀ entry ∈ m.toList, PlainName entry.1 ∧ entry.2 ≠ .list []

/-- A plain map is read back from what is written of it. -/
theorem toList_parseForm_formText (legacy : Option Encoding) {m : FieldMap} (h : m.IsPlain) :
    (parseForm legacy (Text.encode m.formText)).toList = m.toList := by
  rw [parseForm, formItems_encode_formText legacy fun entry hentry => (h entry hentry).1,
    toList_foldl_flatMap_formItems]
  · rfl
  · exact m.nodup_keys
  · exact fun entry hentry => (h entry hentry).2

end WikiGateway
