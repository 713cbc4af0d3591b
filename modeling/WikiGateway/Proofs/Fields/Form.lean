import Mathlib.Data.List.DropRight
import WikiGateway.Fields.Store
import WikiGateway.Proofs.Fields.Map
import WikiGateway.Proofs.Text.Distinct

/-!
# What a form means

A form is a list of named texts. Its map has their names in the order in which they first come, and under each name what
its last text says: that text alone, or the run of list items that ends with it.

* `Names`, `fieldName?_eq_some_iff`: the rule for names as a relation.
* `formOccurrences`: the named texts of the bytes of a form.
* `fieldsOf`: the fields that named texts make.
* `toList_foldl_addItem`: the run over the items builds up just these.
* `parseForm_meaning`: so does `parseForm`, and a store finds every field under its name.
-/

namespace WikiGateway

/-! ## The rule for names -/

/-- How a key is cut: at its first bracket if one closes it; an unclosed one becomes an underscore. -/
inductive KeyCut : List Char → List Char → Bool → Prop
  | plain {key : List Char} : '[' ∉ key → KeyCut key key false
  | item {name rest : List Char} : '[' ∉ name → ']' ∈ rest → KeyCut (name ++ '[' :: rest) name true
  | unclosed {front rest : List Char} : '[' ∉ front → ']' ∉ rest →
      KeyCut (front ++ '[' :: rest) (front ++ '_' :: rest) false

/-- The name that a key gives, and whether it gives it to an item of a list. -/
def Names (key : List Char) (name : String) (isListItem : Bool) : Prop :=
  ∃ cut, KeyCut (key.dropWhile (· == ' ')) cut isListItem ∧ cut ≠ [] ∧
    name = String.ofList (cut.map fun c => if c = '.' ∨ c = ' ' then '_' else c)

theorem storedName?_eq_some_iff {base : List Char} {name : String} : storedName? base = some name ↔
    base ≠ [] ∧ name = String.ofList (base.map fun c => if c = '.' ∨ c = ' ' then '_' else c) := by
  cases base with
  | nil => simp [storedName?]
  | cons c base =>
    simp only [storedName?, List.isEmpty_cons, Bool.false_eq_true, if_false, Option.some.injEq, ne_eq, reduceCtorEq,
      not_false_eq_true, true_and]
    exact eq_comm

/-- The cut of a key and whether it belongs to an item of a list. -/
def keyCut (key : List Char) : List Char × Bool :=
  match Text.cut? (· == '[') key with
  | none => (key, false)
  | some (name, rest) => if rest.contains ']' then (name, true) else (name ++ '_' :: rest, false)

theorem keyCut_spec (key : List Char) : KeyCut key (keyCut key).1 (keyCut key).2 := by
  unfold keyCut
  cases hcut : Text.cut? (· == '[') key with
  | none =>
    have hkey := (Text.cut?_eq_none_iff _).mp hcut
    exact .plain fun h => by simpa using hkey '[' h
  | some sides =>
    obtain ⟨name, rest⟩ := sides
    obtain ⟨hname, c, hc, rfl⟩ := Text.of_cut?_eq_some _ hcut
    obtain rfl : c = '[' := by simpa using hc
    have hname' : '[' ∉ name := fun h => by simpa using hname '[' h
    dsimp only
    split
    next hrest => exact .item hname' (by simpa using hrest)
    next hrest => exact .unclosed hname' (by simpa using hrest)

/-- A key is cut in one way only. -/
theorem KeyCut.eq {key cut : List Char} {isListItem : Bool} (h : KeyCut key cut isListItem) :
    keyCut key = (cut, isListItem) := by
  have hplain : ∀ {cs : List Char}, '[' ∉ cs → ∀ c ∈ cs, (c == '[') = false := by
    intro cs hcs c hc
    rw [beq_eq_false_iff_ne]
    rintro rfl
    exact hcs hc
  cases h with
  | plain hkey => rw [keyCut, (Text.cut?_eq_none_iff _).mpr (hplain hkey)]
  | item hname hrest =>
    rw [keyCut, Text.cut?_append_cons _ rfl _ (hplain hname)]
    simp [hrest]
  | unclosed hfront hrest =>
    rw [keyCut, Text.cut?_append_cons _ rfl _ (hplain hfront)]
    simp [hrest]

theorem fieldName?_eq_map (key : List Char) : fieldName? key =
    (storedName? (keyCut (key.dropWhile (· == ' '))).1).map fun name =>
      (name, (keyCut (key.dropWhile (· == ' '))).2) := by
  simp only [fieldName?, keyCut]
  generalize key.dropWhile (· == ' ') = key
  cases Text.cut? (· == '[') key with
  | none => rfl
  | some sides =>
    dsimp only
    split <;> rfl

/-- The rule for names is the relation. -/
theorem fieldName?_eq_some_iff {key : List Char} {name : String} {isListItem : Bool} :
    fieldName? key = some (name, isListItem) ↔ Names key name isListItem := by
  rw [fieldName?_eq_map, Option.map_eq_some_iff]
  constructor
  · rintro ⟨stored, hstored, heq⟩
    cases heq
    exact ⟨_, keyCut_spec _, storedName?_eq_some_iff.mp hstored⟩
  · rintro ⟨cut, hkey, hname⟩
    rw [hkey.eq]
    exact ⟨name, storedName?_eq_some_iff.mpr hname, rfl⟩

/-- What every name is like: it is not empty, and has neither dots nor blanks. -/
theorem Names.clean {key : List Char} {name : String} {isListItem : Bool} (h : Names key name isListItem) :
    name ≠ "" ∧ '.' ∉ name.toList ∧ ' ' ∉ name.toList := by
  obtain ⟨cut, -, hne, rfl⟩ := h
  rw [String.toList_ofList]
  refine ⟨fun h => hne ?_, ?_, ?_⟩
  · simpa using congrArg String.toList h
  · grind
  · grind

/-! ## Named texts -/

/-- The named text of a pair: the key ends at the first equals sign. A key is read as well as it can be; a value is
UTF-8 where that is valid, otherwise in the legacy encoding if there is one. -/
def formOccurrence? (legacy : Option Encoding) (pair : List UInt8) : Option FormItem :=
  let key := unescape (pair.takeWhile (· ≠ 0x3D))
  let value := unescape ((pair.dropWhile (· ≠ 0x3D)).drop 1)
  (fieldName? (Text.decodeLossy key).toList).map fun (name, isListItem) =>
    ⟨name, isListItem, (Text.decode? value).getD (legacy.elim (Text.decodeLossy value) (·.decode value))⟩
where
  /-- In a part of a pair a plus is a blank, and the rest is percent-encoded. -/
  unescape (bytes : List UInt8) : List UInt8 := Text.percentDecode (bytes.map fun b => if b = 0x2B then 0x20 else b)

/-- The named texts of a form: those of the pairs between ampersands that are not empty. -/
def formOccurrences (legacy : Option Encoding) (input : List UInt8) : List FormItem :=
  ((input.splitOn 0x26).filter (· ≠ [])).filterMap (formOccurrence? legacy)

theorem unescape_eq_formDecode (bytes : List UInt8) : formOccurrence?.unescape bytes = formDecode bytes := by
  simp [formOccurrence?.unescape, formDecode, Text.replaceEach]

theorem fieldText_eq (legacy : Option Encoding) (bytes : List UInt8) : fieldText legacy bytes =
    (Text.decode? bytes).getD (legacy.elim (Text.decodeLossy bytes) (·.decode bytes)) := by
  unfold fieldText
  cases Text.decode? bytes <;> cases legacy <;> rfl

theorem formItem?_eq_formOccurrence? (legacy : Option Encoding) {pair : List UInt8} (h : pair ≠ []) :
    formItem? legacy pair = formOccurrence? legacy pair := by
  have hnot : ∀ b : UInt8, (!(b == 0x3D)) = decide (b ≠ 0x3D) := fun b => by rw [beq_eq_decide, decide_not]
  rw [formItem?, if_neg (by simpa using h), Text.getD_cut?]
  simp only [formOccurrence?, unescape_eq_formDecode, fieldText_eq, hnot]

/-- The items of a form are its named texts. -/
theorem formItems_eq_formOccurrences (legacy : Option Encoding) (input : List UInt8) :
    formItems legacy input = formOccurrences legacy input := by
  rw [formItems, formOccurrences, Text.splitOn_eq, List.filterMap_filter]
  refine List.filterMap_congr fun pair _ => ?_
  by_cases h : pair = []
  · simp [h, formItem?]
  · simp [h, formItem?_eq_formOccurrence?]

/-! ## Fields of named texts -/

/-- The value of the texts of one name: the last text if it stands alone, and otherwise the run of list items that ends
with it. -/
def valueOf (occurrences : List FormItem) : FieldValue :=
  match occurrences.getLast? with
  | some ⟨_, false, text⟩ => .scalar text
  | _ => .list ((occurrences.rtakeWhile FormItem.isListItem).map FormItem.text)

/-- The fields of named texts, in the order in which their names first come. -/
def fieldsOf (occurrences : List FormItem) : List (String × FieldValue) :=
  (occurrences.map FormItem.name).eraseDups.map fun name => (name, valueOf (occurrences.filter (·.name = name)))

/-- One more text replaces the value or goes to the end of its list. -/
theorem valueOf_concat (occurrences : List FormItem) (item : FormItem) : valueOf (occurrences ++ [item]) =
    if item.isListItem then (valueOf occurrences).push item.text else .scalar item.text := by
  obtain ⟨name, isListItem, text⟩ := item
  cases isListItem with
  | false => simp [valueOf]
  | true =>
    have hrun : valueOf (occurrences ++ [⟨name, true, text⟩]) =
        .list ((occurrences.rtakeWhile FormItem.isListItem).map FormItem.text ++ [text]) := by
      simp [valueOf]
    rw [hrun, if_pos rfl]
    rcases List.eq_nil_or_concat occurrences with rfl | ⟨front, ⟨lastName, lastIsListItem, lastText⟩, rfl⟩
    · rfl
    · cases lastIsListItem <;> simp [valueOf, FieldValue.push]

/-- What the map shows after one more item. -/
theorem get?_addItem_self (m : FieldMap) (item : FormItem) : (m.addItem item).get? item.name =
    some (if item.isListItem then ((m.get? item.name).getD (.list [])).push item.text else .scalar item.text) := by
  unfold FieldMap.addItem
  split
  · rw [FieldMap.push, FieldMap.get?_alter_self]
    cases m.get? item.name <;> rfl
  · rw [FieldMap.insert, FieldMap.get?_alter_self]
    cases m.get? item.name <;> rfl

theorem get?_addItem_of_ne {m : FieldMap} {item : FormItem} {name : String} (h : name ≠ item.name) :
    (m.addItem item).get? name = m.get? name := by
  unfold FieldMap.addItem
  split <;> exact FieldMap.get?_alter_of_ne h

theorem keys_addItem (m : FieldMap) (item : FormItem) :
    (m.addItem item).keys = if item.name ∈ m.keys then m.keys else m.keys ++ [item.name] := by
  unfold FieldMap.addItem
  split <;> exact FieldMap.keys_alter

/-! ## The run over the items -/

/-- A run over items names the map as the items are named, each name in its first place. -/
theorem keys_foldl_addItem (items : List FormItem) :
    (items.foldl FieldMap.addItem .empty).keys = (items.map FormItem.name).eraseDups := by
  induction items using List.reverseRecOn with
  | nil => rfl
  | append_singleton items item ih =>
    rw [List.foldl_append, List.foldl_cons, List.foldl_nil, keys_addItem, ih, List.map_append, List.map_cons,
      List.map_nil, eraseDups_concat]

/-- A run over items leaves under each name the value of the texts of that name; no text is the empty list. -/
theorem getD_get?_foldl_addItem (items : List FormItem) (name : String) :
    ((items.foldl FieldMap.addItem .empty).get? name).getD (.list []) = valueOf (items.filter (·.name = name)) := by
  induction items using List.reverseRecOn with
  | nil =>
    rw [List.foldl_nil, FieldMap.get?_empty]
    rfl
  | append_singleton items item ih =>
    rw [List.foldl_append, List.foldl_cons, List.foldl_nil, List.filter_append]
    by_cases hname : name = item.name
    · subst hname
      rw [get?_addItem_self, ih, List.filter_singleton, Option.getD_some]
      simp only [decide_true, cond_true]
      rw [valueOf_concat]
    · have hother : [item].filter (·.name = name) = [] := by simpa using fun h => hname h.symm
      rw [get?_addItem_of_ne hname, ih, hother, List.append_nil]

/-- The map of items has a name just if an item has it, and then with the value of the texts of that name. -/
theorem get?_foldl_addItem {items : List FormItem} {name : String}
    (h : name ∈ (items.foldl FieldMap.addItem .empty).keys) :
    (items.foldl FieldMap.addItem .empty).get? name = some (valueOf (items.filter (·.name = name))) := by
  obtain ⟨value, hvalue⟩ := Option.ne_none_iff_exists'.mp fun hnone => FieldMap.get?_eq_none_iff.mp hnone h
  rw [← getD_get?_foldl_addItem, hvalue, Option.getD_some]

/-- The run over items makes the fields of their texts. -/
theorem toList_foldl_addItem (items : List FormItem) :
    (items.foldl FieldMap.addItem .empty).toList = fieldsOf items := by
  rw [FieldMap.toList_eq_map_keys fun _ => get?_foldl_addItem, keys_foldl_addItem, fieldsOf]

theorem toList_parseForm (legacy : Option Encoding) (input : List UInt8) :
    (parseForm legacy input).toList = fieldsOf (formOccurrences legacy input) := by
  rw [parseForm, formItems_eq_formOccurrences, toList_foldl_addItem]

/-! ## Finding the fields of a form -/

/-- A name without dots is looked up as it is. -/
theorem lookupName_eq_self {name : String} (h : '.' ∉ name.toList) : lookupName name = name := by
  have hmap : (name.toList.map fun c => if c = '.' then '_' else c) = name.toList := by
    refine Text.map_ite_eq_self _ fun c hc => ?_
    rintro rfl
    exact h hc
  rw [lookupName, hmap, String.ofList_toList]

theorem dot_not_mem_lookupName (name : String) : '.' ∉ (lookupName name).toList := by
  rw [lookupName, String.toList_ofList, List.mem_map]
  rintro ⟨c, -, hc⟩
  split at hc
  next => exact absurd hc (by decide)
  next hother => exact hother hc

/-- A store shows the body's field, and the query's if the body has none of the name. -/
theorem lookup?_ofMaps (query body : FieldMap) {name : String} (h : '.' ∉ name.toList) :
    (FieldStore.ofMaps query body).lookup? name = (body.get? name).or (query.get? name) := by
  rw [FieldStore.lookup?, lookupName_eq_self h, FieldStore.ofMaps, FieldMap.get?_extendMissing]

/-- The names of a form come from the rule for names. -/
theorem clean_of_mem_formOccurrences {legacy : Option Encoding} {input : List UInt8} {item : FormItem}
    (h : item ∈ formOccurrences legacy input) :
    item.name ≠ "" ∧ '.' ∉ item.name.toList ∧ ' ' ∉ item.name.toList := by
  obtain ⟨pair, -, hpair⟩ := List.mem_filterMap.mp h
  obtain ⟨⟨name, isListItem⟩, hname, rfl⟩ := Option.map_eq_some_iff.mp hpair
  exact (fieldName?_eq_some_iff.mp hname).clean

/-- What a form means, whatever the legacy encoding reads its bytes as: the keys give names by the rule for names, the
map has the fields of the named texts, and a store finds each of them under its own name, from the body as from the
query. -/
theorem parseForm_meaning (legacy : Option Encoding) (input : List UInt8) :
    (∀ key name isListItem, fieldName? key = some (name, isListItem) ↔ Names key name isListItem) ∧
    (parseForm legacy input).toList = fieldsOf (formOccurrences legacy input) ∧
    ∀ name ∈ (parseForm legacy input).keys,
      (name ≠ "" ∧ '.' ∉ name.toList ∧ ' ' ∉ name.toList) ∧
      (∀ query, (FieldStore.ofMaps query (parseForm legacy input)).lookup? name =
        some (valueOf ((formOccurrences legacy input).filter (·.name = name)))) ∧
      ∀ body, name ∉ body.keys → (FieldStore.ofMaps (parseForm legacy input) body).lookup? name =
        some (valueOf ((formOccurrences legacy input).filter (·.name = name))) := by
  have hform : parseForm legacy input = (formOccurrences legacy input).foldl FieldMap.addItem .empty := by
    rw [parseForm, formItems_eq_formOccurrences]
  refine ⟨fun _ _ _ => fieldName?_eq_some_iff, toList_parseForm legacy input, fun name hname => ?_⟩
  rw [hform] at hname ⊢
  have hvalue := get?_foldl_addItem hname
  rw [keys_foldl_addItem, List.mem_eraseDups] at hname
  obtain ⟨item, hitem, rfl⟩ := List.mem_map.mp hname
  have hclean := clean_of_mem_formOccurrences hitem
  refine ⟨hclean, fun query => ?_, fun body hbody => ?_⟩
  · rw [lookup?_ofMaps _ _ hclean.2.1, hvalue]
    rfl
  · rw [lookup?_ofMaps _ _ hclean.2.1, FieldMap.get?_eq_none_iff.mpr hbody, hvalue]
    rfl

/-- A repeated text and a list whose brackets are encoded; the dot of the name is looked up as an underscore. And a
character of two bytes that are no UTF-8, as an encoding reads them. -/
theorem parseForm_meaning_repeated :
    let gbk : Encoding := ⟨"GBK", fun bytes => if bytes = [0xC4, 0xE3] then "你" else Text.decodeLossy bytes⟩
    ("a_b" ∈ (parseForm none (Text.encode "a.b=1&t%5B%5D=x&a+b=2&t%5B%5D=y")).keys ∧
    (FieldStore.ofMaps .empty (parseForm none (Text.encode "a.b=1&t%5B%5D=x&a+b=2&t%5B%5D=y"))).lookup? "a_b" =
      some (.scalar "2")) ∧
    (parseForm (some gbk) (Text.encode "title=%C4%E3&x=1")).toList = [("title", .scalar "你"), ("x", .scalar "1")] := by
  intro gbk
  have hmeaning := parseForm_meaning none (Text.encode "a.b=1&t%5B%5D=x&a+b=2&t%5B%5D=y")
  have hname : "a_b" ∈ (parseForm none (Text.encode "a.b=1&t%5B%5D=x&a+b=2&t%5B%5D=y")).keys := by
    rw [FieldMap.keys, hmeaning.2.1]
    decide +kernel
  have hvalue : valueOf ((formOccurrences none (Text.encode "a.b=1&t%5B%5D=x&a+b=2&t%5B%5D=y")).filter
      (·.name = "a_b")) = .scalar "2" := by
    decide +kernel
  refine ⟨⟨hname, hvalue ▸ (hmeaning.2.2 "a_b" hname).2.1 .empty⟩, ?_⟩
  rw [(parseForm_meaning (some gbk) _).2.1]
  decide +kernel

end WikiGateway
