import WikiGateway.Decimal.Numeral
import WikiGateway.Proofs.Text.Runs
import WikiGateway.Proofs.Text.Trim

/-!
# The language of numerals

The texts of numerals are the regular language `numerals`. The reader finds the longest of them that a text starts
with: what it reads is in the language (`Numeral.of_take?`), and a numeral with any text behind it is read at least as
far as it goes (`Numeral.take?_text`).

* `Numeral.mem_numerals_iff`: the language is made of the texts of well-formed numerals.
* `isLongestPrefix_of_scan`, `not_isPrefix_of_scan`: the longest prefix in the language, if there is one.
* `isNumeric_iff`: a text is numeric if it is a numeral between blanks.
-/

namespace WikiGateway

open Computability Text

/-! ## The language -/

/-- A plus or a minus. -/
def isSignChar (c : Char) : Bool := c == '+' || c == '-'

/-- The letter of an exponent. -/
def isExponentLetter (c : Char) : Bool := c == 'e' || c == 'E'

/-- Decimal digits, at least one. -/
def digitRuns : Language Char := oneOf Char.isDigit * (oneOf Char.isDigit)∗

/-- A sign, or none. -/
def optionalSigns : Language Char := 1 + oneOf isSignChar

/-- Digits with an optional fraction, or a fraction alone. -/
def mantissas : Language Char :=
  digitRuns * (1 + oneOf (· == '.') * (oneOf Char.isDigit)∗) + oneOf (· == '.') * digitRuns

/-- A power of ten, or none. -/
def optionalExponents : Language Char := 1 + oneOf isExponentLetter * (optionalSigns * digitRuns)

/-- The numerals as they are written. -/
def numerals : Language Char := optionalSigns * mantissas * optionalExponents

/-- The six ASCII blanks. -/
def asciiBlanks : List Char := [' ', '\t', '\n', '\r', '\x0B', '\x0C']

theorem isAsciiBlank_iff {c : Char} : isAsciiBlank c = true ↔ c ∈ asciiBlanks := by
  have hnat : ∀ d : Char, c = d ↔ c.toNat = d.toNat := fun d => Char.toNat_inj.symm
  simp only [isAsciiBlank, asciiBlanks, List.mem_cons, List.not_mem_nil, or_false, Bool.or_eq_true, beq_iff_eq,
    Bool.and_eq_true, decide_eq_true_eq, hnat]
  have hvalues : ' '.toNat = 32 ∧ '\t'.toNat = 9 ∧ '\n'.toNat = 10 ∧ '\r'.toNat = 13 ∧ '\x0B'.toNat = 11 ∧
      '\x0C'.toNat = 12 := by decide
  omega

/-! ## Signs and digits -/

theorem mem_optionalSigns {cs : List Char} : cs ∈ optionalSigns ↔ ∃ sign, Sign.text sign = cs := by
  rw [optionalSigns, Language.mem_add, Language.mem_one, mem_oneOf]
  constructor
  · rintro (rfl | ⟨c, hc, rfl⟩)
    · exact ⟨none, rfl⟩
    · rcases Bool.or_eq_true_iff.mp hc with hplus | hminus
      · exact ⟨some .plus, by rw [eq_of_beq hplus]; rfl⟩
      · exact ⟨some .minus, by rw [eq_of_beq hminus]; rfl⟩
  · rintro ⟨sign, rfl⟩
    cases sign with
    | none => exact .inl rfl
    | some sign => cases sign <;> exact .inr ⟨_, by decide, rfl⟩

/-- A sign is read unless another one follows none. -/
theorem Sign.take_text {sign : Option Sign} {rest : List Char} (h : rest.head?.any isSignChar = false) :
    Sign.take (Sign.text sign ++ rest) = (sign, rest) := by
  cases sign with
  | some sign => cases sign <;> rfl
  | none =>
    rw [Sign.text, List.nil_append]
    unfold Sign.take
    split
    · cases h
    · cases h
    · rfl

theorem Sign.text_take (cs : List Char) : Sign.text (Sign.take cs).1 ++ (Sign.take cs).2 = cs := by
  unfold Sign.take
  split <;> rfl

/-- A digit is neither a sign nor a point nor the letter of an exponent. -/
theorem not_isSignChar_of_isDigit {c : Char} (h : c.isDigit = true) :
    isSignChar c = false ∧ c ≠ '.' ∧ isExponentLetter c = false := by
  refine ⟨?_, ?_, ?_⟩
  · rw [isSignChar, Bool.or_eq_false_iff, beq_eq_false_iff_ne, beq_eq_false_iff_ne]
    constructor <;> rintro rfl <;> cases h
  · rintro rfl
    cases h
  · rw [isExponentLetter, Bool.or_eq_false_iff, beq_eq_false_iff_ne, beq_eq_false_iff_ne]
    constructor <;> rintro rfl <;> cases h

/-! ## Exponents -/

namespace Exponent

/-- An exponent as numerals have it. -/
structure IsWellFormed (e : Exponent) : Prop where
  letter : isExponentLetter e.letter = true
  digits : e.digits ∈ digitRuns

variable {e : Exponent} {cs rest : List Char}

theorem IsWellFormed.isDigit_eq_false (h : e.IsWellFormed) : e.letter.isDigit = false := by
  rcases Bool.or_eq_true_iff.mp h.letter with he | hE
  · rw [eq_of_beq he]
    decide
  · rw [eq_of_beq hE]
    decide

/-- What is read of an exponent stands in front. -/
theorem of_take? (h : take? cs = some e) : e.IsWellFormed ∧ e.text <+: cs := by
  unfold take? at h
  split at h
  · cases h
  · rename_i letter behind
    rw [Option.ite_none_right_eq_some] at h
    obtain ⟨hletter, h⟩ := h
    rw [Option.ite_none_left_eq_some, Option.some.injEq] at h
    obtain ⟨hdigits, rfl⟩ := h
    refine ⟨⟨?_, ?_⟩, ?_⟩
    · rcases hletter with rfl | rfl <;> rfl
    · refine mem_oneOf_mul_kstar.mpr ⟨?_, fun c hc => List.mem_takeWhile_imp hc⟩
      rwa [List.isEmpty_iff] at hdigits
    · have hread : Sign.text (Sign.take behind).1 ++ (Sign.take behind).2.takeWhile Char.isDigit <+:
          Sign.text (Sign.take behind).1 ++ (Sign.take behind).2 :=
        (List.prefix_append_right_inj _).mpr (List.takeWhile_prefix _)
      rw [Sign.text_take] at hread
      exact (List.prefix_cons_inj letter).mpr hread

/-- An exponent is read at least as far as it goes. -/
theorem take?_text (h : e.IsWellFormed) (rest : List Char) :
    ∃ more, take? (e.text ++ rest) = some { e with digits := e.digits ++ more } := by
  obtain ⟨hne, hdigits⟩ := mem_oneOf_mul_kstar.mp h.digits
  obtain ⟨d, ds, hcons⟩ := List.exists_cons_of_ne_nil hne
  have hhead : (e.digits ++ rest).head?.any isSignChar = false := by
    rw [hcons, List.cons_append, List.head?_cons, Option.any_some]
    exact (not_isSignChar_of_isDigit (hdigits d (hcons ▸ List.mem_cons_self))).1
  refine ⟨rest.takeWhile Char.isDigit, ?_⟩
  have hletter : e.letter = 'e' ∨ e.letter = 'E' := by simpa [isExponentLetter] using h.letter
  rw [text, List.cons_append, List.append_assoc, take?, if_pos hletter, Sign.take_text hhead]
  simp only [List.takeWhile_append_of_pos hdigits]
  rw [if_neg (by simp [hne])]

end Exponent

/-! ## Numerals -/

namespace Numeral

/-- The exponent of a numeral as written. -/
def exponentText (exponent : Option Exponent) : List Char := (exponent.map Exponent.text).getD []

/-- A numeral as texts have it: digits before or after the point, and an exponent with digits. -/
structure IsWellFormed (n : Numeral) : Prop where
  whole : ∀ c ∈ n.whole, c.isDigit = true
  fraction : ∀ c ∈ n.fraction.getD [], c.isDigit = true
  digits : n.whole ≠ [] ∨ n.fraction.getD [] ≠ []
  exponent : ∀ e ∈ n.exponent, e.IsWellFormed

variable {n m : Numeral} {cs rest : List Char}

theorem text_eq (n : Numeral) :
    n.text = Sign.text n.sign ++ (n.whole ++ (fractionText n.fraction ++ exponentText n.exponent)) := by
  rw [text, exponentText, List.append_assoc, List.append_assoc]

/-! ### What is written is in the language -/

theorem mem_mantissas {cs : List Char} : cs ∈ mantissas ↔ ∃ whole fraction, whole ++ fractionText fraction = cs ∧
    (∀ c ∈ whole, c.isDigit = true) ∧ (∀ c ∈ fraction.getD [], c.isDigit = true) ∧
      (whole ≠ [] ∨ fraction.getD [] ≠ []) := by
  rw [mantissas, Language.mem_add, Language.mem_mul, mem_oneOf_mul]
  constructor
  · rintro (⟨whole, hwhole, tail, htail, rfl⟩ | ⟨c, hc, digits, hdigits, rfl⟩)
    · obtain ⟨hne, hwhole⟩ := mem_oneOf_mul_kstar.mp hwhole
      rcases (Language.mem_add _ _ _).mp htail with hnone | hpoint
      · exact ⟨whole, none, by rw [(Language.mem_one tail).mp hnone]; rfl, hwhole, by simp, .inl hne⟩
      · obtain ⟨c, hc, digits, hdigits, rfl⟩ := mem_oneOf_mul.mp hpoint
        rw [beq_iff_eq] at hc
        exact ⟨whole, some digits, by rw [hc]; rfl, hwhole, mem_kstar_oneOf.mp hdigits, .inl hne⟩
    · obtain ⟨hne, hdigits⟩ := mem_oneOf_mul_kstar.mp hdigits
      rw [beq_iff_eq] at hc
      exact ⟨[], some digits, by rw [hc]; rfl, by simp, hdigits, .inr hne⟩
  · rintro ⟨whole, fraction, rfl, hwhole, hfraction, hne⟩
    cases fraction with
    | none =>
      have hwhole' : whole ∈ digitRuns := mem_oneOf_mul_kstar.mpr ⟨by simpa using hne, hwhole⟩
      exact .inl ⟨whole, hwhole', [], .inl rfl, rfl⟩
    | some digits =>
      by_cases hempty : whole = []
      · subst hempty
        have hdigits : digits ∈ digitRuns := mem_oneOf_mul_kstar.mpr ⟨by simpa using hne, hfraction⟩
        exact .inr ⟨'.', rfl, digits, hdigits, rfl⟩
      · have hpoint : '.' :: digits ∈ oneOf (· == '.') * (oneOf Char.isDigit)∗ :=
          mem_oneOf_mul.mpr ⟨'.', rfl, digits, mem_kstar_oneOf.mpr hfraction, rfl⟩
        exact .inl ⟨whole, mem_oneOf_mul_kstar.mpr ⟨hempty, hwhole⟩, _, .inr hpoint, rfl⟩

theorem mem_optionalExponents {cs : List Char} : cs ∈ optionalExponents ↔
    ∃ exponent, exponentText exponent = cs ∧ ∀ e ∈ exponent, e.IsWellFormed := by
  rw [optionalExponents, Language.mem_add, Language.mem_one, mem_oneOf_mul]
  constructor
  · rintro (rfl | ⟨letter, hletter, tail, htail, rfl⟩)
    · exact ⟨none, rfl, by simp⟩
    · obtain ⟨signText, hsign, digits, hdigits, rfl⟩ := Language.mem_mul.mp htail
      obtain ⟨sign, rfl⟩ := mem_optionalSigns.mp hsign
      refine ⟨some ⟨letter, sign, digits⟩, rfl, ?_⟩
      rintro e ⟨⟩
      exact ⟨hletter, hdigits⟩
  · rintro ⟨exponent, rfl, hexponent⟩
    cases exponent with
    | none => exact .inl rfl
    | some e =>
      have he := hexponent e rfl
      exact .inr ⟨e.letter, he.letter, _, Language.append_mem_mul (mem_optionalSigns.mpr ⟨e.sign, rfl⟩) he.digits, rfl⟩

/-- The language is made of the texts of well-formed numerals. -/
theorem mem_numerals_iff {cs : List Char} : cs ∈ numerals ↔ ∃ n : Numeral, n.IsWellFormed ∧ n.text = cs := by
  rw [numerals, Language.mem_mul]
  constructor
  · rintro ⟨front, hfront, tail, htail, rfl⟩
    obtain ⟨signText, hsign, mantissa, hmantissa, rfl⟩ := Language.mem_mul.mp hfront
    obtain ⟨sign, rfl⟩ := mem_optionalSigns.mp hsign
    obtain ⟨whole, fraction, rfl, hwhole, hfraction, hdigits⟩ := mem_mantissas.mp hmantissa
    obtain ⟨exponent, rfl, hexponent⟩ := mem_optionalExponents.mp htail
    refine ⟨⟨sign, whole, fraction, exponent⟩, ⟨hwhole, hfraction, hdigits, hexponent⟩, ?_⟩
    rw [text, exponentText, ← List.append_assoc]
  · rintro ⟨n, hn, rfl⟩
    have hmantissa : n.whole ++ fractionText n.fraction ∈ mantissas :=
      mem_mantissas.mpr ⟨n.whole, n.fraction, rfl, hn.whole, hn.fraction, hn.digits⟩
    have hfront : Sign.text n.sign ++ (n.whole ++ fractionText n.fraction) ∈ optionalSigns * mantissas :=
      Language.append_mem_mul (mem_optionalSigns.mpr ⟨n.sign, rfl⟩) hmantissa
    refine ⟨_, hfront, _, mem_optionalExponents.mpr ⟨n.exponent, rfl, hn.exponent⟩, ?_⟩
    rw [text, exponentText, ← List.append_assoc]

/-! ### What is read -/

theorem take?_eq (sign : Option Sign) {body : List Char} (h : body.head?.any isSignChar = false) :
    take? (Sign.text sign ++ body) =
      if (body.takeWhile Char.isDigit).isEmpty &&
          ((takeFraction (body.dropWhile Char.isDigit)).1.getD []).isEmpty then none
      else some ⟨sign, body.takeWhile Char.isDigit, (takeFraction (body.dropWhile Char.isDigit)).1,
        Exponent.take? (takeFraction (body.dropWhile Char.isDigit)).2⟩ := by
  rw [take?, Sign.take_text h]

theorem fractionText_takeFraction (cs : List Char) : fractionText (takeFraction cs).1 ++ (takeFraction cs).2 = cs := by
  unfold takeFraction
  split
  · rw [fractionText, List.cons_append, List.takeWhile_append_dropWhile]
  · rfl

theorem isDigit_of_mem_takeFraction {c : Char} (hc : c ∈ (takeFraction cs).1.getD []) : c.isDigit = true := by
  unfold takeFraction at hc
  split at hc
  · exact List.mem_takeWhile_imp hc
  · cases hc

/-- What is read stands in front and is well-formed. -/
theorem of_take? (h : take? cs = some n) : n.IsWellFormed ∧ n.text <+: cs := by
  rw [take?, Option.ite_none_left_eq_some, Option.some.injEq] at h
  obtain ⟨hdigits, rfl⟩ := h
  generalize hbody : (Sign.take cs).2 = body at hdigits ⊢
  generalize htail : (takeFraction (body.dropWhile Char.isDigit)).2 = tail
  constructor
  · refine ⟨fun c hc => List.mem_takeWhile_imp hc, fun c hc => isDigit_of_mem_takeFraction hc, ?_, ?_⟩
    · rw [Bool.and_eq_true, List.isEmpty_iff, List.isEmpty_iff, not_and_or] at hdigits
      exact hdigits
    · intro e he
      exact (Exponent.of_take? he).1
  · have hexponent : exponentText (Exponent.take? tail) <+: tail := by
      cases he : Exponent.take? tail with
      | none => exact List.nil_prefix
      | some e => exact (Exponent.of_take? he).2
    have hcs : Sign.text (Sign.take cs).1 ++ (body.takeWhile Char.isDigit ++
        (fractionText (takeFraction (body.dropWhile Char.isDigit)).1 ++ tail)) = cs := by
      rw [← htail, fractionText_takeFraction, List.takeWhile_append_dropWhile, ← hbody, Sign.text_take]
    have hread : Sign.text (Sign.take cs).1 ++ (body.takeWhile Char.isDigit ++
        (fractionText (takeFraction (body.dropWhile Char.isDigit)).1 ++ exponentText (Exponent.take? tail))) <+:
          Sign.text (Sign.take cs).1 ++ (body.takeWhile Char.isDigit ++
            (fractionText (takeFraction (body.dropWhile Char.isDigit)).1 ++ tail)) := by
      rwa [List.prefix_append_right_inj, List.prefix_append_right_inj, List.prefix_append_right_inj]
    rw [text_eq]
    rwa [hcs] at hread

/-- Behind the sign, a numeral goes on with a digit or a point. -/
theorem IsWellFormed.head? (h : n.IsWellFormed) (rest : List Char) :
    (n.whole ++ (fractionText n.fraction ++ rest)).head?.any isSignChar = false := by
  cases hwhole : n.whole with
  | cons d ds => exact (not_isSignChar_of_isDigit (h.whole d (hwhole ▸ List.mem_cons_self))).1
  | nil =>
    cases hfraction : n.fraction with
    | some digits => rfl
    | none =>
      have hdigits := h.digits
      rw [hwhole, hfraction] at hdigits
      simp at hdigits

/-- An exponent, or none, is read at least as far as it goes, also if digits and a fraction are read before. -/
theorem length_exponentText_le {exponent : Option Exponent} {f : List Char → List Char}
    (h : ∀ e ∈ exponent, e.IsWellFormed) (hf : ∀ e ∈ exponent, ∀ cs, f (e.letter :: cs) = e.letter :: cs)
    (rest : List Char) :
    (exponentText exponent).length ≤ (exponentText (Exponent.take? (f (exponentText exponent ++ rest)))).length := by
  cases exponent with
  | none => exact Nat.zero_le _
  | some e =>
    obtain ⟨more, hmore⟩ := Exponent.take?_text (h e rfl) rest
    have hstay : f (exponentText (some e) ++ rest) = e.text ++ rest := hf e rfl _
    rw [hstay, hmore]
    show e.text.length ≤ (Exponent.text { e with digits := e.digits ++ more }).length
    simp only [Exponent.text, List.length_cons, List.length_append]
    omega

/-- Digits do not go on with the letter of an exponent. -/
theorem dropWhile_letter {e : Exponent} (h : e.IsWellFormed) (cs : List Char) :
    (e.letter :: cs).dropWhile Char.isDigit = e.letter :: cs := by
  rw [List.dropWhile_cons, if_neg (by simp [h.isDigit_eq_false])]

theorem takeFraction_letter {e : Exponent} (h : e.IsWellFormed) (cs : List Char) :
    takeFraction (e.letter :: cs) = (none, e.letter :: cs) := by
  have hpoint : e.letter ≠ '.' := by
    intro hpoint
    have hletter := h.letter
    rw [hpoint] at hletter
    cases hletter
  unfold takeFraction
  split
  · rename_i heq
    exact absurd (List.cons.inj heq).1 hpoint
  · rfl

/-- A numeral is read at least as far as it goes, whatever follows. A part of it that ends in digits may take more of
them from what follows, but only if no further part stands behind it. -/
theorem take?_text (h : n.IsWellFormed) (rest : List Char) :
    ∃ m, take? (n.text ++ rest) = some m ∧ n.text.length ≤ m.text.length := by
  have hhead := h.head? (exponentText n.exponent ++ rest)
  have htext : n.text ++ rest = Sign.text n.sign ++
      (n.whole ++ (fractionText n.fraction ++ (exponentText n.exponent ++ rest))) := by
    simp only [text_eq, List.append_assoc]
  rw [htext, take?_eq n.sign hhead]
  generalize hbody : exponentText n.exponent ++ rest = tail
  cases hfraction : n.fraction with
  | some digits =>
    have hdigits : ∀ c ∈ digits, c.isDigit = true := fun c hc => h.fraction c (by rwa [hfraction])
    have hexponent := length_exponentText_le h.exponent
      (fun e he => dropWhile_letter (h.exponent e he)) rest
    have hpoint : ∀ c ∈ ('.' :: (digits ++ tail)).head?, c.isDigit = false := by simp
    obtain ⟨hwhole, hbehind⟩ := takeWhile_append_of_head? h.whole hpoint
    rw [hbody] at hexponent
    simp only [fractionText, List.cons_append, hwhole, hbehind, takeFraction, List.takeWhile_append_of_pos hdigits,
      List.dropWhile_append_of_pos hdigits]
    have hread : ¬ (n.whole.isEmpty && ((some (digits ++ tail.takeWhile Char.isDigit)).getD []).isEmpty) = true := by
      have hne := h.digits
      rw [hfraction] at hne
      rw [Bool.and_eq_true, List.isEmpty_iff, List.isEmpty_iff, Option.getD_some, List.append_eq_nil_iff]
      rintro ⟨hwhole, hempty, -⟩
      exact hne.elim (· hwhole) (· hempty)
    rw [if_neg hread]
    refine ⟨_, rfl, ?_⟩
    simp only [text_eq, hfraction, fractionText, List.length_append, List.length_cons]
    omega
  | none =>
    have hne : n.whole ≠ [] := by
      have hdigits := h.digits
      rw [hfraction] at hdigits
      simpa using hdigits
    have hexponent := length_exponentText_le (f := fun cs => (takeFraction (cs.dropWhile Char.isDigit)).2)
      h.exponent (fun e he cs => by
        have hletter := h.exponent e he
        simp only [dropWhile_letter hletter, takeFraction_letter hletter]) rest
    rw [hbody] at hexponent
    simp only [fractionText, List.nil_append, List.takeWhile_append_of_pos h.whole,
      List.dropWhile_append_of_pos h.whole]
    rw [if_neg (by simp [hne])]
    refine ⟨_, rfl, ?_⟩
    simp only [text_eq, hfraction, fractionText, List.length_append, List.length_nil]
    omega

/-! ### The characters of a numeral -/

/-- The characters of numerals: digits, signs, points and the letters of exponents. -/
def isNumeralChar (c : Char) : Bool := c.isDigit || isSignChar c || c == '.' || isExponentLetter c

theorem isAsciiBlank_of_isNumeralChar {c : Char} (h : isNumeralChar c = true) : isAsciiBlank c = false := by
  rw [Bool.eq_false_iff]
  intro hblank
  rw [isAsciiBlank_iff] at hblank
  have hnone : (asciiBlanks.all fun d => !isNumeralChar d) = true := by decide
  have hnot : (!isNumeralChar c) = true := List.all_eq_true.mp hnone c hblank
  rw [h] at hnot
  cases hnot

theorem isSignChar_of_mem_text {sign : Option Sign} {c : Char} (hc : c ∈ Sign.text sign) : isSignChar c = true := by
  cases sign with
  | none => cases hc
  | some sign =>
    rw [List.mem_singleton.mp hc]
    cases sign <;> rfl

theorem IsWellFormed.isNumeralChar (h : n.IsWellFormed) : ∀ c ∈ n.text, Numeral.isNumeralChar c = true := by
  intro c hc
  simp only [text_eq, List.mem_append] at hc
  unfold Numeral.isNumeralChar
  rcases hc with hsign | hwhole | hfraction | hexponent
  · simp [isSignChar_of_mem_text hsign]
  · simp [h.whole c hwhole]
  · cases hn : n.fraction with
    | none =>
      rw [hn] at hfraction
      cases hfraction
    | some digits =>
      rw [hn] at hfraction
      rcases List.mem_cons.mp hfraction with rfl | hdigit
      · rfl
      · simp [h.fraction c (by rwa [hn])]
  · cases hn : n.exponent with
    | none =>
      rw [hn] at hexponent
      cases hexponent
    | some e =>
      rw [hn] at hexponent
      have he := h.exponent e hn
      rcases List.mem_cons.mp hexponent with rfl | hbehind
      · simp [he.letter]
      · rcases List.mem_append.mp hbehind with hsign | hdigit
        · simp [isSignChar_of_mem_text hsign]
        · simp [(mem_oneOf_mul_kstar.mp he.digits).2 c hdigit]

theorem IsWellFormed.text_ne_nil (h : n.IsWellFormed) : n.text ≠ [] := by
  intro hempty
  simp only [text_eq, List.append_eq_nil_iff] at hempty
  obtain ⟨-, hwhole, hfraction, -⟩ := hempty
  rcases h.digits with hne | hne
  · exact hne hwhole
  · cases hn : n.fraction with
    | none => exact hne (by rw [hn]; rfl)
    | some digits =>
      rw [hn] at hfraction
      cases hfraction

/-- A numeral is a plain integer if it is written with neither a point nor the letter of an exponent. -/
theorem IsWellFormed.isIntegral_iff (h : n.IsWellFormed) :
    n.isIntegral = true ↔ '.' ∉ n.text ∧ 'e' ∉ n.text ∧ 'E' ∉ n.text := by
  rw [isIntegral, Bool.and_eq_true, Option.isNone_iff_eq_none, Option.isNone_iff_eq_none]
  constructor
  · rintro ⟨hfraction, hexponent⟩
    have hplain : ∀ c ∈ n.text, isSignChar c = true ∨ c.isDigit = true := by
      intro c hc
      rw [text_eq, hfraction, hexponent] at hc
      rcases List.mem_append.mp hc with hsign | hwhole
      · exact .inl (isSignChar_of_mem_text hsign)
      · exact .inr (h.whole c (by simpa [fractionText, exponentText] using hwhole))
    refine ⟨fun hc => ?_, fun hc => ?_, fun hc => ?_⟩ <;> rcases hplain _ hc with hbad | hbad <;> cases hbad
  · rintro ⟨hpoint, he, hE⟩
    constructor
    · cases hn : n.fraction with
      | none => rfl
      | some digits =>
        refine absurd ?_ hpoint
        simp [text_eq, hn, fractionText]
    · cases hn : n.exponent with
      | none => rfl
      | some e =>
        have hmem : e.letter ∈ n.text := by simp [text_eq, hn, exponentText, Exponent.text]
        rcases Bool.or_eq_true_iff.mp (h.exponent e hn).letter with hletter | hletter
        · exact absurd (eq_of_beq hletter ▸ hmem) he
        · exact absurd (eq_of_beq hletter ▸ hmem) hE

end Numeral

/-! ## The longest numeral in front -/

/-- The longest text of a language that a text starts with. -/
structure IsLongestPrefix (l : Language Char) (cs front : List Char) : Prop where
  mem : front ∈ l
  isPrefix : front <+: cs
  longest : ∀ other ∈ l, other <+: cs → other.length ≤ front.length

/-- What is read is the longest numeral in front of the text without its blanks. -/
theorem isLongestPrefix_of_scan {cs : List Char} {n : Numeral} (h : Numeral.scan cs = some n) :
    IsLongestPrefix numerals (cs.dropWhile isAsciiBlank) n.text := by
  obtain ⟨hn, hfront⟩ := Numeral.of_take? h
  refine ⟨Numeral.mem_numerals_iff.mpr ⟨n, hn, rfl⟩, hfront, ?_⟩
  rintro other hother ⟨rest, hrest⟩
  obtain ⟨m, hm, rfl⟩ := Numeral.mem_numerals_iff.mp hother
  obtain ⟨read, hread, hle⟩ := Numeral.take?_text hm rest
  rw [hrest] at hread
  have hsame : some n = some read := h.symm.trans hread
  rw [Option.some.inj hsame]
  exact hle

/-- Where nothing is read, no numeral stands in front. -/
theorem not_isPrefix_of_scan {cs : List Char} (h : Numeral.scan cs = none) :
    ∀ other ∈ numerals, ¬ other <+: cs.dropWhile isAsciiBlank := by
  rintro other hother ⟨rest, hrest⟩
  obtain ⟨m, hm, rfl⟩ := Numeral.mem_numerals_iff.mp hother
  obtain ⟨read, hread, -⟩ := Numeral.take?_text hm rest
  rw [hrest] at hread
  cases h.symm.trans hread

/-- A text without its blanks is numeric if it is a numeral: the longest numeral in front is then the whole text. -/
theorem isNumeric_iff_mem {s : String} :
    isNumeric s = true ↔ (trimEnd isAsciiBlank s.toList).dropWhile isAsciiBlank ∈ numerals := by
  simp only [isNumeric]
  cases hscan : Numeral.scan (trimEnd isAsciiBlank s.toList) with
  | none =>
    refine iff_of_false (by simp) fun hmem => ?_
    exact not_isPrefix_of_scan hscan _ hmem (List.prefix_refl _)
  | some n =>
    have hlongest := isLongestPrefix_of_scan hscan
    simp only [beq_iff_eq]
    constructor
    · intro hlength
      rw [← hlongest.isPrefix.eq_of_length hlength]
      exact hlongest.mem
    · intro hmem
      exact Nat.le_antisymm hlongest.isPrefix.length_le (hlongest.longest _ hmem (List.prefix_refl _))

/-- A text is numeric if it is a numeral between blanks. -/
theorem isNumeric_iff {s : String} :
    isNumeric s = true ↔ s.toList ∈ (oneOf isAsciiBlank)∗ * numerals * (oneOf isAsciiBlank)∗ := by
  rw [isNumeric_iff_mem]
  constructor
  · intro hmem
    obtain ⟨blanks, hs, hblanks⟩ := trimEnd_append_blanks isAsciiBlank s.toList
    rw [hs, ← List.takeWhile_append_dropWhile (p := isAsciiBlank) (l := trimEnd isAsciiBlank s.toList)]
    have hfront : (trimEnd isAsciiBlank s.toList).takeWhile isAsciiBlank ∈ (oneOf isAsciiBlank)∗ :=
      mem_kstar_oneOf.mpr fun c hc => List.mem_takeWhile_imp hc
    exact Language.append_mem_mul (Language.append_mem_mul hfront hmem) (mem_kstar_oneOf.mpr hblanks)
  · intro hmem
    obtain ⟨body, hbody, behind, hbehind, hs⟩ := Language.mem_mul.mp hmem
    obtain ⟨front, hfront, numeral, hnumeral, rfl⟩ := Language.mem_mul.mp hbody
    obtain ⟨n, hn, rfl⟩ := Numeral.mem_numerals_iff.mp hnumeral
    have hends : ∀ c ∈ n.text, isAsciiBlank c = false := fun c hc =>
      Numeral.isAsciiBlank_of_isNumeralChar (hn.isNumeralChar c hc)
    have hlast : ∀ c ∈ (front ++ n.text).getLast?, isAsciiBlank c = false := by
      intro c hc
      rw [List.getLast?_append_of_ne_nil _ hn.text_ne_nil] at hc
      exact hends c (List.mem_of_mem_getLast? hc)
    rw [← hs, trimEnd_append (mem_kstar_oneOf.mp hbehind) hlast,
      (takeWhile_append_of_head? (mem_kstar_oneOf.mp hfront) fun c hc => hends c (List.mem_of_mem_head? hc)).2]
    exact hnumeral

/-- A numeric text is made of the characters of numerals and of blanks. -/
theorem of_mem_of_isNumeric {s : String} (h : isNumeric s = true) {c : Char} (hc : c ∈ s.toList) :
    Numeral.isNumeralChar c = true ∨ isAsciiBlank c = true := by
  obtain ⟨body, hbody, behind, hbehind, hs⟩ := Language.mem_mul.mp (isNumeric_iff.mp h)
  obtain ⟨front, hfront, numeral, hnumeral, rfl⟩ := Language.mem_mul.mp hbody
  obtain ⟨n, hn, rfl⟩ := Numeral.mem_numerals_iff.mp hnumeral
  rw [← hs, List.mem_append, List.mem_append] at hc
  rcases hc with (hc | hc) | hc
  · exact .inr (mem_kstar_oneOf.mp hfront c hc)
  · exact .inl (hn.isNumeralChar c hc)
  · exact .inr (mem_kstar_oneOf.mp hbehind c hc)

end WikiGateway
