import Mathlib
import WikiGateway.Http.Message
import WikiGateway.Proofs.Text.Ascii
import WikiGateway.Proofs.Text.Trim

/-!
# Lines of header fields

A line that is written of the name and the value of a field is read as that field, if the name is a token and the
value is trimmed.

* `IsToken`, `fieldToken?_eq_some_iff`: the names that can be sent, in either case of their letters.
* `IsReadName`, `of_parseHeaderLine?`: the names that are read of lines; what is read is trimmed.
* `IsReadName.parseHeaderLine?_eq`: what is read of the line of such a name and a value.
* `parseHeaderLine?_of_isToken`, `parseHeaderLine?_field`: a field is read back.
* `IsReadName.name_eq`: the line of a name that was read is that of no other field.
-/

namespace WikiGateway

/-! ## Tokens -/

/-- A name of a field, of any length. -/
def IsToken (name : String) : Prop := name ≠ "" ∧ ∀ c ∈ name.toList, isTokenChar c = true

instance : DecidablePred IsToken := fun name =>
  decidable_of_iff (name ≠ "" ∧ name.toList.all isTokenChar = true) (and_congr_right' List.all_eq_true)

/-- The marks that stand beside letters and digits in a token. -/
theorem isTokenChar_iff {c : Char} :
    isTokenChar c = true ↔ c.isAlphanum = true ∨ c ∈ "!#$%&'*+-.^_|~\x60".toList := by
  rw [isTokenChar, Bool.or_eq_true, List.contains_iff_mem]

@[simp] theorem isTokenChar_toUpper (c : Char) : isTokenChar c.toUpper = isTokenChar c := by
  by_cases h : c.isLower = true
  · have halpha : c.isAlpha = true := by simp [Char.isAlpha, h]
    simp [isTokenChar, Char.isAlphanum, halpha]
  · rw [Char.toUpper_eq_of_not_isLower h]

/-- Tokens are ASCII. -/
theorem toNat_lt_of_isTokenChar {c : Char} (h : isTokenChar c = true) : c.toNat < 128 := by
  have hmarks : ∀ c ∈ "!#$%&'*+-.^_|~\x60".toList, c.toNat < 128 := by simp
  rcases isTokenChar_iff.mp h with h | h
  · exact Text.toNat_lt_of_isAlphanum h
  · exact hmarks c h

/-- Neither blanks nor colons nor slashes stand in a token. -/
theorem of_isTokenChar {c : Char} (h : isTokenChar c = true) : Text.isSpace c = false ∧ c ≠ ':' ∧ c ≠ '/' := by
  have hascii : ∀ n < 128, isTokenChar (Char.ofNat n) = true →
      Text.isSpace (Char.ofNat n) = false ∧ Char.ofNat n ≠ ':' ∧ Char.ofNat n ≠ '/' := by decide
  have hchar := hascii c.toNat (toNat_lt_of_isTokenChar h)
  rw [Char.ofNat_toNat] at hchar
  exact hchar h

theorem isTokenChar_of_isLower {c : Char} (h : c.isLower = true) : isTokenChar c = true :=
  isTokenChar_iff.mpr (.inl (by simp [Char.isAlphanum, Char.isAlpha, h]))

/-- The blanks are the same in upper case. -/
theorem isSpace_toUpper (c : Char) : Text.isSpace c.toUpper = Text.isSpace c := by
  by_cases h : c.isLower = true
  · have htoken := isTokenChar_of_isLower h
    rw [(of_isTokenChar htoken).1, (of_isTokenChar ((isTokenChar_toUpper c).trans htoken)).1]
  · rw [Char.toUpper_eq_of_not_isLower h]

/-- So are the colons. -/
theorem eq_colon_of_toUpper {c : Char} (h : c.toUpper = ':') : c = ':' := by
  by_cases hlower : c.isLower = true
  · have htoken := (isTokenChar_toUpper c).trans (isTokenChar_of_isLower hlower)
    exact absurd h (of_isTokenChar htoken).2.1
  · rwa [Char.toUpper_eq_of_not_isLower hlower] at h

theorem length_upperAscii (name : String) : (Text.upperAscii name).length = name.length := by
  rw [Text.upperAscii, String.length_ofList, List.length_map, String.length_toList]

theorem upperAscii_eq_empty_iff {name : String} : Text.upperAscii name = "" ↔ name = "" := by
  rw [← String.length_eq_zero_iff, length_upperAscii, String.length_eq_zero_iff]

/-- A name and the same name in upper case are both tokens or neither. -/
theorem isToken_upperAscii {name : String} : IsToken (Text.upperAscii name) ↔ IsToken name := by
  rw [IsToken, IsToken, ne_eq, upperAscii_eq_empty_iff, Text.upperAscii, String.toList_ofList, List.forall_mem_map]
  simp

/-- The tokens that can be sent are those that are not too long. -/
theorem fieldToken?_eq_some_iff {name token : String} : fieldToken? name = some token ↔
    (IsToken name ∧ name.length ≤ maxFieldName) ∧ Text.lowerAscii name = token := by
  rw [fieldToken?, Option.ite_none_right_eq_some, Option.some.injEq, List.all_eq_true, ← and_assoc]
  rfl

/-! ## Names that are read -/

/-- A name as it is read of a line: not empty, trimmed and without colons. -/
structure IsReadName (name : String) : Prop where
  nonempty : name ≠ ""
  noColon : ':' ∉ name.toList
  trimmed : Text.trimBoth Text.isSpace name.toList = name.toList

section
variable {name value : String}

theorem toList_fieldLine : (name ++ ": " ++ value).toList = name.toList ++ ':' :: ' ' :: value.toList := by
  rw [String.toList_append, String.toList_append, List.append_assoc]
  rfl

namespace IsReadName

/-- The same name in upper case. -/
protected theorem upperAscii (h : IsReadName name) : IsReadName (Text.upperAscii name) := by
  have hspace : Text.isSpace ∘ Char.toUpper = Text.isSpace := funext isSpace_toUpper
  refine ⟨?_, ?_, ?_⟩
  · rw [ne_eq, upperAscii_eq_empty_iff]
    exact h.nonempty
  · rw [Text.upperAscii, String.toList_ofList, List.mem_map]
    rintro ⟨c, hc, hcolon⟩
    exact h.noColon (eq_colon_of_toUpper hcolon ▸ hc)
  · rw [Text.upperAscii, String.toList_ofList, Text.trimBoth_map, hspace, h.trimmed]

/-- Its line is cut at the colon behind it. -/
theorem cut?_line (h : IsReadName name) (rest : List Char) :
    Text.cut? (· == ':') (name.toList ++ ':' :: rest) = some (name.toList, rest) := by
  refine Text.cut?_append_cons _ rfl _ fun c hc => ?_
  rw [beq_eq_false_iff_ne]
  exact ne_of_mem_of_not_mem hc h.noColon

end IsReadName

/-- A token is read as it stands. -/
theorem IsToken.isReadName (h : IsToken name) : IsReadName name where
  nonempty := h.1
  noColon hcolon := (of_isTokenChar (h.2 ':' hcolon)).2.1 rfl
  trimmed := Text.trimBoth_eq_self fun c hc => (of_isTokenChar (h.2 c hc)).1

/-! ## Lines -/

/-- A name and a value are read of a line. -/
theorem of_parseHeaderLine? {line : String} (h : parseHeaderLine? line = some (.field name value)) :
    IsReadName name ∧ Text.trimBoth Text.isSpace value.toList = value.toList := by
  unfold parseHeaderLine? at h
  split at h
  next =>
    obtain ⟨code, -, hcode⟩ := Option.map_eq_some_iff.mp h
    cases hcode
  next =>
    obtain ⟨⟨front, back⟩, hcut, hfield⟩ := Option.bind_eq_some_iff.mp h
    dsimp only at hfield
    split at hfield
    next => cases hfield
    next hnonempty =>
      cases hfield
      refine ⟨⟨hnonempty, fun hcolon => ?_, ?_⟩, ?_⟩
      · rw [String.toList_ofList] at hcolon
        have hfree := (Text.of_cut?_eq_some _ hcut).1 ':' (Text.trimBoth_subset _ _ hcolon)
        exact absurd hfree (by decide)
      · rw [String.toList_ofList, Text.trimBoth_trimBoth]
      · rw [String.toList_ofList, Text.trimBoth_trimBoth]

/-- What is read of a line is trimmed. -/
theorem trimmed_of_parseHeaderLine? {line : String} (h : parseHeaderLine? line = some (.field name value)) :
    Text.trimBoth Text.isSpace value.toList = value.toList := (of_parseHeaderLine? h).2

/-- A token does not start as a status line does. -/
theorem not_prefix_of_isToken (hname : IsToken name) : ¬ "HTTP/".toList <+: name.toList := fun h =>
  (of_isTokenChar (hname.2 '/' (h.subset (by decide)))).2.2 rfl

/-- A line of a name and a value is a status line if its name starts as one does, or else their field. -/
theorem IsReadName.parseHeaderLine?_eq (h : IsReadName name) (value : String) :
    parseHeaderLine? (name ++ ": " ++ value) =
      if "HTTP/".toList <+: name.toList then
        ((blankWords (name ++ ": " ++ value).toList)[1]?.bind statusNumber?).map .status
      else some (.field name (Text.trim value)) := by
  have hback : Text.trimBoth Text.isSpace (' ' :: value.toList) = Text.trimBoth Text.isSpace value.toList := by
    rw [Text.trimBoth, List.dropWhile_cons_of_pos rfl]
    rfl
  have hfront : (Text.dropPrefix? "HTTP/".toList (name ++ ": " ++ value).toList).isSome = true ↔
      "HTTP/".toList <+: name.toList := by
    rw [Text.dropPrefix?, toList_fieldLine, Option.isSome_ite, List.isPrefixOf_iff_prefix,
      Text.prefix_append_cons_iff (by decide)]
  rw [parseHeaderLine?]
  simp only [hfront]
  split
  next => rfl
  next => simp [h.cut?_line, h.trimmed, h.nonempty, hback, Text.trim]

/-- A field is read back from its line, with its value trimmed. -/
theorem parseHeaderLine?_of_isToken (hname : IsToken name) (value : String) :
    parseHeaderLine? (name ++ ": " ++ value) = some (.field name (Text.trim value)) := by
  rw [hname.isReadName.parseHeaderLine?_eq, if_neg (not_prefix_of_isToken hname)]

/-- A field with a trimmed value is read back from its line. -/
theorem parseHeaderLine?_field (hname : IsToken name)
    (hvalue : Text.trimBoth Text.isSpace value.toList = value.toList) :
    parseHeaderLine? (name ++ ": " ++ value) = some (.field name value) := by
  rw [parseHeaderLine?_of_isToken hname, Text.trim, hvalue, String.ofList_toList]

/-- A field that is read of a line that is written of a read name has this name. -/
theorem IsReadName.name_eq (h : IsReadName name) {name' value' : String}
    (hfield : parseHeaderLine? (name ++ ": " ++ value) = some (.field name' value')) : name' = name := by
  rw [h.parseHeaderLine?_eq] at hfield
  split at hfield
  next =>
    obtain ⟨code, -, hcode⟩ := Option.map_eq_some_iff.mp hfield
    cases hcode
  next =>
    cases hfield
    rfl

end

end WikiGateway
