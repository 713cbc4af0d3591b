import WikiGateway.Proofs.Decimal.Saturation
import WikiGateway.Proofs.Fields.Form
import WikiGateway.Proofs.Text.Clean

/-!
# Numbers in fields

A field is read as a number after its text was cleaned. Cleaning leaves a numeric text as it is, unless there is a
vertical tab or a form feed among its blanks (`clean_of_isNumeric`); with one of these it is numeric no more
(`isNumeric_clean_eq_false`).

* `numeric_texts`: the longest numeral in front of a text, the numeric texts, and what typed reads make of them.
* `readInt_saturates`: the integers that are read, and the page of a listing.
-/

namespace WikiGateway

open Computability Text

/-! ## Cleaning numeric texts -/

section
variable {s : String} {c : Char}

/-- The blanks that no XML document may hold. -/
def isIllegalBlank (c : Char) : Bool := c == '\x0B' || c == '\x0C'

theorem toNat_of_isNumeralChar (h : Numeral.isNumeralChar c = true) : 0x20 < c.toNat ∧ c.toNat < 0x80 := by
  simp only [Numeral.isNumeralChar, isSignChar, isExponentLetter, Bool.or_eq_true, beq_iff_eq] at h
  rcases h with ((hdigit | rfl | rfl) | rfl) | rfl | rfl
  · simp only [Char.isDigit, ge_iff_le, Bool.and_eq_true, decide_eq_true_eq, UInt32.le_iff_toNat_le] at hdigit
    have hval : c.toNat = c.val.toNat := rfl
    have hzero : '0'.val.toNat = 48 := rfl
    have hnine : '9'.val.toNat = 57 := rfl
    omega
  all_goals decide

/-- Of the characters of numeric texts, the two blanks alone are illegal. -/
theorem of_mem_numeric (h : isNumeric s = true) (hc : c ∈ s.toList) :
    c.toNat < 0x300 ∧ (IsXmlIllegal c ↔ isIllegalBlank c = true) := by
  rcases of_mem_of_isNumeric h hc with hnumeral | hblank
  · obtain ⟨hlow, hhigh⟩ := toNat_of_isNumeralChar hnumeral
    refine ⟨by omega, iff_of_false ?_ ?_⟩
    · rintro (⟨hcontrol, -⟩ | rfl | rfl)
      · omega
      · revert hhigh
        decide
      · revert hhigh
        decide
    · rw [isIllegalBlank, Bool.or_eq_true, beq_iff_eq, beq_iff_eq]
      rintro (rfl | rfl)
      · revert hlow
        decide
      · revert hlow
        decide
  · have hall : (asciiBlanks.all fun d => d.toNat < 0x300 ∧ (IsXmlIllegal d ↔ isIllegalBlank d = true)) = true := by
      decide
    exact of_decide_eq_true (List.all_eq_true.mp hall c (isAsciiBlank_iff.mp hblank))

/-- Cleaning leaves a numeric text without these blanks as it is. -/
theorem clean_of_isNumeric (h : isNumeric s = true) (hlegal : ∀ c ∈ s.toList, isIllegalBlank c = false) :
    clean s = s := by
  have hkept : withoutIllegal s.toList = s.toList := by
    refine withoutIllegal_eq_self fun c hc hillegal => ?_
    rw [(of_mem_numeric h hc).2, hlegal c hc] at hillegal
    cases hillegal
  rw [clean_of_low fun c hc => (of_mem_numeric h hc).1, hkept, String.ofList_toList]

/-- With one of these blanks, a numeric text is cleaned to one that is not numeric. -/
theorem isNumeric_clean_eq_false (h : isNumeric s = true) (hc : c ∈ s.toList) (hillegal : isIllegalBlank c = true) :
    isNumeric (clean s) = false := by
  have hmem : '\uFFFD' ∈ (clean s).toList := by
    rw [clean_of_low fun c hc => (of_mem_numeric h hc).1, String.toList_ofList, withoutIllegal, List.mem_map]
    exact ⟨c, hc, if_pos ((of_mem_numeric h hc).2.mpr hillegal)⟩
  rw [Bool.eq_false_iff]
  intro hnumeric
  have hbad := (of_mem_numeric hnumeric hmem).1
  revert hbad
  decide

end

/-! ## Typed reads -/

namespace FieldStore

variable {store : FieldStore} {name s : String}

/-- From a numeric text both reads of integers take the same. -/
theorem getInt?_of_isNumeric (h : store.get? name = some s) (hs : isNumeric s = true) (default : Int) :
    store.getInt? name = some (readInt s) ∧ store.getInt name default = readInt s := by
  constructor
  · rw [getInt?, h, Option.filter_some, if_pos hs, Option.map_some]
  · rw [getInt, h, Option.map_some, Option.getD_some]

theorem getInt?_of_not_isNumeric (h : store.get? name = some s) (hs : isNumeric s = false) :
    store.getInt? name = none := by
  rw [getInt?, h, Option.filter_some, if_neg (by simp [hs]), Option.map_none]

theorem get?_of_getRaw? (h : store.getRaw? name = some s) : store.get? name = some (clean s) := by
  rw [get?, h, Option.map_some]

/-- The fields of a query that has one field. -/
def ofField (name text : String) : FieldStore := ofMaps (FieldMap.empty.insert name (.scalar text)) .empty

theorem getRaw?_ofField {text : String} (h : '.' ∉ name.toList) : (ofField name text).getRaw? name = some text := by
  rw [getRaw?, ofField, lookup?_ofMaps _ _ h, FieldMap.get?_empty, Option.none_or, FieldMap.insert,
    FieldMap.get?_alter_self, FieldMap.get?_empty]
  rfl

/-- The number of entries on a page is at least one and at most five thousand, and the first of them is no negative one,
whatever the fields hold. -/
theorem limitOffset_bounds {defaultLimit : Int} (h : 1 ≤ defaultLimit) :
    (1 ≤ (store.limitOffset defaultLimit).1 ∧ (store.limitOffset defaultLimit).1 ≤ 5000) ∧
      0 ≤ (store.limitOffset defaultLimit).2 ∧ (store.limitOffset defaultLimit).2 ≤ maxInt64 := by
  have hoffset : store.getInt "offset" 0 ≤ maxInt64 := by
    rw [getInt]
    cases store.get? "offset" with
    | none => decide
    | some text => exact (readInt_bounds text).2
  have hmax : (0 : Int) ≤ maxInt64 := by decide
  simp only [limitOffset, maxLimit]
  split <;> omega

end FieldStore

/-! ## The grammar of numbers -/

/-- Blanks, or none. -/
def blankRuns : Language Char := (oneOf fun c => decide (c ∈ asciiBlanks))∗

theorem isAsciiBlank_eq : isAsciiBlank = fun c => decide (c ∈ asciiBlanks) := by
  funext c
  rw [Bool.eq_iff_iff, isAsciiBlank_iff, decide_eq_true_eq]

/-- The text behind the blanks at its front. -/
def behindBlanks (s : String) : List Char := s.toList.dropWhile fun c => decide (c ∈ asciiBlanks)

/-- What a text starts with behind its blanks is the longest numeral that stands there, or nothing if none does, and it
counts as an integer if it has neither a point nor an exponent. A text is numeric if it is a numeral between blanks.
From a field whose cleaned text is numeric both reads of integers take the same. So they do from one that holds a
numeric text, unless there is a vertical tab or a form feed in it. -/
theorem numeric_texts :
    (∀ s : String,
      (IsLongestPrefix numerals (behindBlanks s) (numericPrefix s).1 ∨
        (numericPrefix s).1 = [] ∧ ∀ other ∈ numerals, ¬ other <+: behindBlanks s) ∧
      ((numericPrefix s).2 = true ↔
        '.' ∉ (numericPrefix s).1 ∧ 'e' ∉ (numericPrefix s).1 ∧ 'E' ∉ (numericPrefix s).1)) ∧
    (∀ s : String, isNumeric s = true ↔ s.toList ∈ blankRuns * numerals * blankRuns) ∧
    (∀ (store : FieldStore) (name s : String) (default : Int), store.get? name = some s → isNumeric s = true →
      store.getInt? name = some (readInt s) ∧ store.getInt name default = readInt s) ∧
    ∀ (store : FieldStore) (name s : String) (default : Int), store.getRaw? name = some s → isNumeric s = true →
      if '\x0B' ∈ s.toList ∨ '\x0C' ∈ s.toList then store.getInt? name = none
      else store.getInt? name = some (readInt s) ∧ store.getInt name default = readInt s := by
  refine ⟨fun s => ?_, fun s => ?_, ?_, ?_⟩
  · rw [behindBlanks, ← isAsciiBlank_eq, numericPrefix]
    cases hscan : Numeral.scan s.toList with
    | none => exact ⟨.inr ⟨rfl, not_isPrefix_of_scan hscan⟩, by simp⟩
    | some n => exact ⟨.inl (isLongestPrefix_of_scan hscan), (Numeral.of_take? hscan).1.isIntegral_iff⟩
  · rw [blankRuns, ← isAsciiBlank_eq]
    exact isNumeric_iff
  · intro store name s default hget hs
    exact FieldStore.getInt?_of_isNumeric hget hs default
  · intro store name s default hraw hs
    have hget := FieldStore.get?_of_getRaw? hraw
    split
    · rename_i hmem
      have hex : ∃ c ∈ s.toList, isIllegalBlank c = true := by
        rcases hmem with htab | hfeed
        · exact ⟨_, htab, rfl⟩
        · exact ⟨_, hfeed, rfl⟩
      obtain ⟨c, hc, hillegal⟩ := hex
      exact FieldStore.getInt?_of_not_isNumeric hget (isNumeric_clean_eq_false hs hc hillegal)
    · rename_i hnone
      have hclean : clean s = s := by
        refine clean_of_isNumeric hs fun c hc => ?_
        rw [Bool.eq_false_iff, isIllegalBlank, ne_eq, Bool.or_eq_true, beq_iff_eq, beq_iff_eq]
        rintro (rfl | rfl)
        · exact hnone (.inl hc)
        · exact hnone (.inr hc)
      exact FieldStore.getInt?_of_isNumeric (hclean ▸ hget) hs default

/-- A number between blanks is read from its field by both. -/
theorem numeric_texts_between_blanks :
    (FieldStore.ofField "n" "\t+42 ").getRaw? "n" = some "\t+42 " ∧
      (FieldStore.ofField "n" "\t+42 ").get? "n" = some "\t+42 " ∧ isNumeric "\t+42 " = true ∧
      (FieldStore.ofField "n" "\t+42 ").getInt? "n" = some 42 ∧
      (FieldStore.ofField "n" "\t+42 ").getInt "n" 7 = 42 := by
  have hraw : (FieldStore.ofField "n" "\t+42 ").getRaw? "n" = some "\t+42 " := FieldStore.getRaw?_ofField (by decide)
  have hs : isNumeric "\t+42 " = true := by decide +kernel
  have hvalue : readInt "\t+42 " = 42 := by decide +kernel
  have hget : (FieldStore.ofField "n" "\t+42 ").get? "n" = some "\t+42 " := by
    rw [FieldStore.get?_of_getRaw? hraw, clean_of_isNumeric hs (by simp [isIllegalBlank])]
  have hread := numeric_texts.2.2.2 _ "n" _ 7 hraw hs
  have hcleaned := numeric_texts.2.2.1 _ "n" _ 7 hget hs
  rw [if_neg (by decide), hvalue] at hread
  rw [hvalue] at hcleaned
  exact ⟨hraw, hget, hs, hread.1, hcleaned.2⟩

/-- From a field that holds a number behind a vertical tab, the two reads take different things. -/
theorem numeric_texts_vertical_tab :
    (FieldStore.ofField "n" "\x0B42").getRaw? "n" = some "\x0B42" ∧ isNumeric "\x0B42" = true ∧
      readInt "\x0B42" = 42 ∧ (FieldStore.ofField "n" "\x0B42").getInt? "n" = none ∧
      (FieldStore.ofField "n" "\x0B42").getInt "n" 7 = 0 := by
  have hraw : (FieldStore.ofField "n" "\x0B42").getRaw? "n" = some "\x0B42" := FieldStore.getRaw?_ofField (by decide)
  have hs : isNumeric "\x0B42" = true := by decide +kernel
  have hclean : clean "\x0B42" = "\uFFFD42" := by
    rw [clean_of_low fun c hc => (of_mem_numeric hs hc).1]
    decide +kernel
  have hget : (FieldStore.ofField "n" "\x0B42").get? "n" = some "\uFFFD42" := by
    rw [FieldStore.get?_of_getRaw? hraw, hclean]
  refine ⟨hraw, hs, by decide +kernel, FieldStore.getInt?_of_not_isNumeric hget (by decide +kernel), ?_⟩
  have hvalue : readInt "\uFFFD42" = 0 := by decide +kernel
  rw [FieldStore.getInt, hget, Option.map_some, Option.getD_some, hvalue]

/-! ## Integers and pages -/

/-- A text that starts with an integral numeral is read as the value of the numeral, clamped to 64 bits, and one without
a numeral as zero. So the page of a listing has between one and five thousand entries and does not start before the
first, whatever the fields hold. -/
theorem readInt_saturates :
    (∀ (s : String) (text : List Char), numericPrefix s = (text, true) → text ≠ [] →
      readInt s = clampInt64 (signedValue text)) ∧
    (∀ s : String, (numericPrefix s).1 = [] → readInt s = 0) ∧
    ∀ (store : FieldStore) (defaultLimit : Int), 1 ≤ defaultLimit →
      (1 ≤ (store.limitOffset defaultLimit).1 ∧ (store.limitOffset defaultLimit).1 ≤ 5000) ∧
        0 ≤ (store.limitOffset defaultLimit).2 ∧ (store.limitOffset defaultLimit).2 ≤ maxInt64 :=
  ⟨fun _ _ => readInt_of_integral, fun _ => readInt_of_no_prefix, fun _ _ => FieldStore.limitOffset_bounds⟩

/-- A number one below the least integer, a text without a number, and a page that asks for too much. -/
theorem readInt_saturates_below :
    numericPrefix " -9223372036854775809x" = ("-9223372036854775809".toList, true) ∧
      readInt " -9223372036854775809x" = minInt64 ∧ readInt "x1" = 0 ∧
      1 ≤ ((FieldStore.ofField "limit" "99999999999999999999").limitOffset 50).1 ∧
      ((FieldStore.ofField "limit" "99999999999999999999").limitOffset 50).1 ≤ 5000 := by
  obtain ⟨hintegral, hnone, hpage⟩ := readInt_saturates
  have hwritten : numericPrefix " -9223372036854775809x" = ("-9223372036854775809".toList, true) := by decide +kernel
  have hpage := hpage (FieldStore.ofField "limit" "99999999999999999999") 50 (by decide)
  refine ⟨hwritten, ?_, hnone "x1" (by decide +kernel), hpage.1⟩
  rw [hintegral _ _ hwritten (by decide)]
  decide +kernel

end WikiGateway
