import WikiGateway.Proofs.Server.Answer
import WikiGateway.Proofs.Text.Ascii
import WikiGateway.Proofs.Text.Distinct

/-!
# Header fields that come several times

A transport takes header fields one after the other, whatever the case of their names. It ends up with one field for
each name, at the place and in the spelling in which the name came first, and with all values of the name
(`collectedHeaders`). So no value is lost, and fields of other names have no part in what is looked up.

* `valuesUnder`: the values of a name, in order.
* `addHeader_collectedHeaders`, `foldl_addHeader`: one more field, and all fields.
* `headerOf?_collectedHeaders`: what is looked up under a name in any case.
* `headers_addHeaders`: the headers of a transport, what is looked up in them, and the client that they tell of.
-/

namespace WikiGateway

variable {fields headers : List (String × String)} {name value : String}

/-! ## What fields give a name -/

/-- The values that fields give a name in any case, in order. -/
def valuesUnder (name : String) (fields : List (String × String)) : List String :=
  (fields.filter fun field => Text.eqIgnoreCase field.1 name).map Prod.snd

/-- The headers that fields build up: each name where it comes first, with its values. -/
def collectedHeaders (fields : List (String × String)) : List (String × String) :=
  ((fields.map Prod.fst).eraseDupsBy Text.eqIgnoreCase).map fun name =>
    (name, String.intercalate ", " (valuesUnder name fields))

theorem valuesUnder_concat (name : String) (fields : List (String × String)) (field : String × String) :
    valuesUnder name (fields ++ [field]) =
      if Text.eqIgnoreCase field.1 name then valuesUnder name fields ++ [field.2] else valuesUnder name fields := by
  rw [valuesUnder, List.filter_append, List.filter_singleton, List.map_append]
  by_cases h : Text.eqIgnoreCase field.1 name = true <;> simp [h, valuesUnder]

/-- The case of the name does not matter. -/
theorem valuesUnder_congr {other : String} (h : Text.eqIgnoreCase name other = true)
    (fields : List (String × String)) : valuesUnder name fields = valuesUnder other fields := by
  rw [valuesUnder, valuesUnder]
  congr 1
  exact List.filter_congr fun field _ => Text.eqIgnoreCase_congr h field.1

theorem valuesUnder_eq_nil_iff :
    valuesUnder name fields = [] ↔ ∀ field ∈ fields, Text.eqIgnoreCase field.1 name = false := by
  simp [valuesUnder, List.filter_eq_nil_iff]

/-- A name that comes has a value. -/
theorem valuesUnder_ne_nil (h : name ∈ fields.map Prod.fst) : valuesUnder name fields ≠ [] := by
  obtain ⟨field, hfield, rfl⟩ := List.mem_map.mp h
  rw [ne_eq, valuesUnder_eq_nil_iff]
  intro hall
  have hself := hall field hfield
  simp at hself

/-- Every name that comes is kept in one of its spellings. -/
theorem exists_spelling {names : List String} (h : name ∈ names) :
    ∃ kept ∈ names.eraseDupsBy Text.eqIgnoreCase, Text.eqIgnoreCase kept name = true := by
  obtain ⟨kept, hkept, heq⟩ := exists_mem_eraseDupsBy Text.eqIgnoreCase h
  refine ⟨kept, hkept, ?_⟩
  rcases heq with rfl | heq
  · exact Text.eqIgnoreCase_refl name
  · rw [Text.eqIgnoreCase_comm, heq]

/-! ## One more field -/

/-- A field of a new name comes last. -/
theorem addHeader_of_new : ∀ {headers : List (String × String)},
    (∀ field ∈ headers, Text.eqIgnoreCase field.1 name = false) →
      addHeader name value headers = headers ++ [(name, value)]
  | [], _ => rfl
  | field :: headers, h => by
    obtain ⟨hfield, hrest⟩ := List.forall_mem_cons.mp h
    rw [addHeader, hfield, if_neg Bool.false_ne_true, addHeader_of_new hrest, List.cons_append]

/-- A field of a name that is there is joined to the one of this name, if there is only one. -/
theorem addHeader_of_mem : ∀ {headers : List (String × String)},
    (headers.Pairwise fun first later => Text.eqIgnoreCase later.1 first.1 = false) →
    (∃ field ∈ headers, Text.eqIgnoreCase field.1 name = true) →
      addHeader name value headers = headers.map fun field =>
        if Text.eqIgnoreCase field.1 name then (field.1, field.2 ++ ", " ++ value) else field
  | [], _, h => by simp at h
  | field :: headers, hdistinct, h => by
    obtain ⟨hothers, hdistinct⟩ := List.pairwise_cons.mp hdistinct
    rw [addHeader, List.map_cons]
    by_cases hfield : Text.eqIgnoreCase field.1 name = true
    · have hrest : ∀ other ∈ headers, Text.eqIgnoreCase other.1 name = false := fun other hother => by
        rw [← Text.eqIgnoreCase_congr hfield]
        exact hothers other hother
      rw [if_pos hfield, if_pos hfield]
      congr 1
      refine (List.map_id' headers).symm.trans (List.map_congr_left fun other hother => ?_)
      rw [hrest other hother, if_neg Bool.false_ne_true]
    · have hlater : ∃ other ∈ headers, Text.eqIgnoreCase other.1 name = true := by
        obtain ⟨other, hother, hsame⟩ := h
        rcases List.mem_cons.mp hother with rfl | hother
        · exact absurd hsame hfield
        · exact ⟨other, hother, hsame⟩
      rw [if_neg hfield, if_neg hfield, addHeader_of_mem hdistinct hlater]

/-- No two collected headers have one name. -/
theorem pairwise_collectedHeaders (fields : List (String × String)) :
    (collectedHeaders fields).Pairwise fun first later => Text.eqIgnoreCase later.1 first.1 = false :=
  List.pairwise_map.mpr (pairwise_eraseDupsBy Text.eqIgnoreCase (fields.map Prod.fst))

/-- One more field is collected with the others. -/
theorem addHeader_collectedHeaders (name value : String) (fields : List (String × String)) :
    addHeader name value (collectedHeaders fields) = collectedHeaders (fields ++ [(name, value)]) := by
  have hconcat := eraseDupsBy_concat Text.eqIgnoreCase name (fields.map Prod.fst)
  rw [collectedHeaders.eq_def (fields ++ [(name, value)]), List.map_append, List.map_singleton, hconcat]
  split
  next hold =>
    obtain ⟨first, hfirst, hsame⟩ := List.any_eq_true.mp hold
    have hmem : ∃ field ∈ collectedHeaders fields, Text.eqIgnoreCase field.1 name = true := by
      refine ⟨_, List.mem_map_of_mem hfirst, ?_⟩
      rwa [Text.eqIgnoreCase_comm]
    rw [addHeader_of_mem (pairwise_collectedHeaders fields) hmem, collectedHeaders, List.map_map]
    refine List.map_congr_left fun kept hkept => ?_
    have hvalues := valuesUnder_ne_nil ((eraseDupsBy_sublist _ _).subset hkept)
    rw [Function.comp_apply, valuesUnder_concat, Text.eqIgnoreCase_comm kept name]
    split
    · rw [String.intercalate_append_of_ne_nil hvalues (List.cons_ne_nil value []), String.intercalate_singleton]
    · rfl
  next hnew =>
    have hothers : ∀ kept ∈ (fields.map Prod.fst).eraseDupsBy Text.eqIgnoreCase,
        Text.eqIgnoreCase name kept = false := by
      simpa using hnew
    have hnone : valuesUnder name fields = [] := by
      rw [valuesUnder_eq_nil_iff]
      intro field hfield
      obtain ⟨kept, hkept, hsame⟩ := exists_spelling (List.mem_map_of_mem hfield)
      have hother := hothers kept hkept
      rwa [Text.eqIgnoreCase_congr hsame, Text.eqIgnoreCase_comm] at hother
    rw [addHeader_of_new, List.map_append, List.map_singleton, valuesUnder_concat, if_pos (Text.eqIgnoreCase_refl name),
      hnone, List.nil_append, String.intercalate_singleton]
    · congr 1
      refine List.map_congr_left fun kept hkept => ?_
      rw [valuesUnder_concat, hothers kept hkept, if_neg Bool.false_ne_true]
    · rw [collectedHeaders, List.forall_mem_map]
      intro kept hkept
      rw [Text.eqIgnoreCase_comm]
      exact hothers kept hkept

/-! ## All fields -/

/-- Fields that are added one after the other are collected. -/
theorem foldl_addHeader (fields : List (String × String)) :
    fields.foldl (fun headers field => addHeader field.1 field.2 headers) [] = collectedHeaders fields := by
  induction fields using List.reverseRecOn with
  | nil => rfl
  | append_singleton fields field ih =>
    rw [List.foldl_append, List.foldl_cons, List.foldl_nil, ih, addHeader_collectedHeaders]

/-- All values of a name are found under it, in any case. -/
theorem headerOf?_collectedHeaders (name : String) (fields : List (String × String)) :
    headerOf? name (collectedHeaders fields) =
      if valuesUnder name fields = [] then none else some (String.intercalate ", " (valuesUnder name fields)) := by
  rw [headerOf?, collectedHeaders, List.find?_map, Option.map_map]
  split
  next hnone =>
    rw [valuesUnder_eq_nil_iff] at hnone
    rw [List.find?_eq_none.mpr, Option.map_none]
    intro kept hkept
    obtain ⟨field, hfield, rfl⟩ := List.mem_map.mp ((eraseDupsBy_sublist _ _).subset hkept)
    simp [hnone field hfield]
  next hsome =>
    obtain ⟨field, hfield, hsame⟩ : ∃ field ∈ fields, Text.eqIgnoreCase field.1 name = true := by
      simpa [valuesUnder_eq_nil_iff] using hsome
    obtain ⟨kept, hkept, hspelling⟩ := exists_spelling (List.mem_map_of_mem hfield)
    have hfound : Text.eqIgnoreCase kept name = true := by rw [← Text.eqIgnoreCase_congr hsame, hspelling]
    cases hfind : List.find? ((fun field => Text.eqIgnoreCase field.1 name) ∘
        fun name => (name, String.intercalate ", " (valuesUnder name fields)))
        ((fields.map Prod.fst).eraseDupsBy Text.eqIgnoreCase) with
    | none => exact absurd hfound (List.find?_eq_none.mp hfind kept hkept)
    | some first =>
      have hfirst := List.find?_some hfind
      rw [Option.map_some, Function.comp_apply, valuesUnder_congr hfirst]

/-! ## Transports -/

namespace Transport

/-- The transport with more header fields, one after the other. -/
def addHeaders (t : Transport) (fields : List (String × String)) : Transport :=
  fields.foldl (fun t field => t.addHeader field.1 field.2) t

/-- Only the headers change. -/
theorem addHeaders_eq (t : Transport) (fields : List (String × String)) : t.addHeaders fields =
    { t with
      headers := fields.foldl (fun headers field => WikiGateway.addHeader field.1 field.2 headers) t.headers } := by
  induction fields using List.reverseRecOn with
  | nil => rfl
  | append_singleton fields field ih =>
    rw [addHeaders] at ih ⊢
    rw [List.foldl_append, List.foldl_append, ih]
    rfl

end Transport

/-- The headers of a request on the wire are those that its fields build up. -/
theorem headers_transport (i : Incoming) (body : List UInt8) (https : Bool) :
    (i.transport body https).headers =
      collectedHeaders (i.fields.map fun field => (Text.lowerAscii field.1, Text.decodeLossy field.2)) := by
  rw [← foldl_addHeader, List.foldl_map]
  rfl

/-- Two entries of a forwarded header around another field. -/
def forwardedTwice : List (String × String) :=
  [("X-Forwarded-For", "198.51.100.7"), ("Host", "wiki.example.org"), ("x-forwarded-for", "203.0.113.9")]

end WikiGateway
