import WikiGateway.Proofs.Unicode.Replacement

/-!
# What cleaning does

Cleaning takes three shortcuts: printable ASCII is left as it is, characters are replaced only if one is illegal, and a
text that passes the quick check is not normalized. None of them shows, if the normalization is lawful
(`Normalizer.IsLawful`): a text is cleaned as if all its illegal characters were replaced and the result was normalized
(`Normalizer.cleanFully`).

* `Normalizer.clean_laws`: no shortcut shows, no illegal character is left, and cleaning twice is cleaning once.
* `clean_of_low`: below U+0300 cleaning only replaces illegal characters.
-/

namespace WikiGateway.Text

/-! ## Illegal characters -/

/-- A character that no XML document may hold: a control character other than tab, line feed and return, or one of the
two noncharacters at the end of the first plane. -/
def IsXmlIllegal (c : Char) : Prop :=
  (c.toNat < 0x20 ∧ c ≠ '\t' ∧ c ≠ '\n' ∧ c ≠ '\r') ∨ c = '\uFFFE' ∨ c = '\uFFFF'

instance : DecidablePred IsXmlIllegal := fun c =>
  inferInstanceAs (Decidable ((c.toNat < 0x20 ∧ c ≠ '\t' ∧ c ≠ '\n' ∧ c ≠ '\r') ∨ c = '\uFFFE' ∨ c = '\uFFFF'))

/-- The text with U+FFFD for every character that no XML document may hold. -/
def withoutIllegal (cs : List Char) : List Char := cs.map fun c => if IsXmlIllegal c then '\uFFFD' else c

section
variable {c : Char} {cs : List Char}

theorem isIllegal_iff : isIllegal c = true ↔ IsXmlIllegal c := by
  have hnat : ∀ d : Char, c = d ↔ c.toNat = d.toNat := fun d => Char.toNat_inj.symm
  have hvalues : '\t'.toNat = 9 ∧ '\n'.toNat = 10 ∧ '\r'.toNat = 13 ∧ '\uFFFE'.toNat = 0xFFFE ∧
      '\uFFFF'.toNat = 0xFFFF := by decide
  simp only [isIllegal, IsXmlIllegal, Bool.or_eq_true, Bool.and_eq_true, beq_iff_eq, decide_eq_true_eq, ne_eq, hnat]
  omega

theorem replaceIllegal_eq (cs : List Char) : replaceIllegal cs = withoutIllegal cs := by
  rw [replaceIllegal, withoutIllegal]
  refine List.map_congr_left fun c _ => ?_
  simp only [isIllegal_iff]
  rfl

/-- Nothing is replaced where nothing is illegal. -/
theorem withoutIllegal_eq_self (h : ∀ c ∈ cs, ¬ IsXmlIllegal c) : withoutIllegal cs = cs := by
  have hkept : ∀ c ∈ cs, (if IsXmlIllegal c then '\uFFFD' else c) = id c := fun c hc => if_neg (h c hc)
  rw [withoutIllegal, List.map_congr_left hkept, List.map_id]

theorem not_isXmlIllegal_of_mem (h : c ∈ withoutIllegal cs) : ¬ IsXmlIllegal c := by
  obtain ⟨d, -, rfl⟩ := List.mem_map.mp h
  split
  · decide
  · assumption

theorem not_isXmlIllegal_of_isPlain (h : isPlain c = true) : ¬ IsXmlIllegal c := by
  rw [isPlain, Bool.and_eq_true, decide_eq_true_eq, decide_eq_true_eq] at h
  rintro (⟨hlow, -⟩ | rfl | rfl)
  · omega
  · have hvalue : '\uFFFE'.toNat = 0xFFFE := rfl
    omega
  · have hvalue : '\uFFFF'.toNat = 0xFFFF := rfl
    omega

theorem withoutIllegal_of_isPlain (h : cs.all isPlain = true) : withoutIllegal cs = cs :=
  withoutIllegal_eq_self fun c hc => not_isXmlIllegal_of_isPlain (List.all_eq_true.mp h c hc)

end

/-! ## Lawful normalizations -/

namespace Normalizer

/-- The laws of a normalization: it changes nothing a second time, nothing that passes its quick check and no printable
ASCII, and it makes no illegal character that was not there. -/
structure IsLawful (n : Normalizer) : Prop where
  idempotent : ∀ cs, n.normalize (n.normalize cs) = n.normalize cs
  quick : ∀ cs, n.isQuick cs = true → n.normalize cs = cs
  plain : ∀ cs, (∀ c ∈ cs, isPlain c = true) → n.normalize cs = cs
  legal : ∀ cs, ∀ c ∈ n.normalize cs, IsXmlIllegal c → c ∈ cs

/-- Replaces all illegal characters and normalizes the result. -/
def cleanFully (n : Normalizer) (s : String) : String := String.ofList (n.normalize (withoutIllegal s.toList))

variable {n : Normalizer} {s : String}

/-- Cleaning without the first shortcut: the quick check decides whether the replaced text is normalized. -/
theorem clean_of_not_plain (h : s.toList.all isPlain = false) :
    n.clean s = String.ofList (if n.isQuick (withoutIllegal s.toList) then withoutIllegal s.toList
      else n.normalize (withoutIllegal s.toList)) := by
  have hlegal : (if s.toList.any isIllegal then replaceIllegal s.toList else s.toList) = withoutIllegal s.toList := by
    split
    · exact replaceIllegal_eq s.toList
    · rename_i hnone
      rw [Bool.not_eq_true, List.any_eq_false] at hnone
      exact (withoutIllegal_eq_self fun c hc hillegal => hnone c hc (isIllegal_iff.mpr hillegal)).symm
  rw [clean, if_neg (by simp [h])]
  simp only [hlegal]

/-- No shortcut of cleaning shows. -/
theorem clean_eq_cleanFully (h : n.IsLawful) (s : String) : n.clean s = n.cleanFully s := by
  cases hplain : s.toList.all isPlain with
  | true =>
    have hnormal : n.normalize s.toList = s.toList := h.plain s.toList (List.all_eq_true.mp hplain)
    rw [clean, if_pos hplain, cleanFully, withoutIllegal_of_isPlain hplain, hnormal, String.ofList_toList]
  | false =>
    rw [clean_of_not_plain hplain, cleanFully]
    split
    · rename_i hquick
      rw [h.quick _ hquick]
    · rfl

theorem not_isXmlIllegal_of_mem_cleanFully (h : n.IsLawful) {c : Char} (hc : c ∈ (n.cleanFully s).toList) :
    ¬ IsXmlIllegal c := by
  rw [cleanFully, String.toList_ofList] at hc
  intro hillegal
  exact not_isXmlIllegal_of_mem (h.legal _ c hc hillegal) hillegal

/-- A text that was cleaned has nothing left to replace, and is normal. -/
theorem cleanFully_cleanFully (h : n.IsLawful) (s : String) : n.cleanFully (n.cleanFully s) = n.cleanFully s := by
  have hkept : withoutIllegal (n.cleanFully s).toList = (n.cleanFully s).toList :=
    withoutIllegal_eq_self fun c hc => not_isXmlIllegal_of_mem_cleanFully h hc
  calc n.cleanFully (n.cleanFully s)
      = String.ofList (n.normalize (n.cleanFully s).toList) := by rw [cleanFully, hkept]
    _ = n.cleanFully s := by rw [cleanFully, String.toList_ofList, h.idempotent]

/-- By a lawful normalization a text is cleaned as if every illegal character was replaced and the result normalized. No
illegal character is left, cleaning twice is cleaning once, and a list is cleaned text by text. -/
theorem clean_laws (h : n.IsLawful) :
    (∀ s, n.clean s = n.cleanFully s) ∧ (∀ s, ∀ c ∈ (n.clean s).toList, ¬ IsXmlIllegal c) ∧
      (∀ s, n.clean (n.clean s) = n.clean s) ∧ ∀ values, n.cleanAll values = values.map n.cleanFully := by
  refine ⟨clean_eq_cleanFully h, ?_, ?_, ?_⟩
  · intro s c hc
    rw [clean_eq_cleanFully h] at hc
    exact not_isXmlIllegal_of_mem_cleanFully h hc
  · intro s
    rw [clean_eq_cleanFully h, clean_eq_cleanFully h, cleanFully_cleanFully h]
  · intro values
    exact List.map_congr_left fun s _ => clean_eq_cleanFully h s

/-! ### A small normalization -/

/-- The normalization that knows one pair only: an `e` and the acute accent behind it become one character. -/
def composeAcute : List Char → List Char
  | 'e' :: '\u0301' :: rest => '\u00E9' :: composeAcute rest
  | c :: rest => c :: composeAcute rest
  | [] => []

/-- Composing the one pair; a text without the accent needs no work. -/
def acute : Normalizer := ⟨composeAcute, fun cs => cs.all (· != '\u0301')⟩

theorem composeAcute_eq_self {cs : List Char} (h : ∀ c ∈ cs, c ≠ '\u0301') : composeAcute cs = cs := by
  fun_induction composeAcute cs with
  | case1 rest ih => exact absurd rfl (h '\u0301' (by simp))
  | case2 c rest hpair ih => rw [ih fun d hd => h d (List.mem_cons_of_mem c hd)]
  | case3 => rfl

theorem mem_of_mem_composeAcute {cs : List Char} {c : Char} (h : c ∈ composeAcute cs) : c ∈ cs ∨ c = '\u00E9' := by
  fun_induction composeAcute cs with
  | case1 rest ih =>
    rcases List.mem_cons.mp h with rfl | hrest
    · exact .inr rfl
    · exact (ih hrest).imp (fun hc => by simp [hc]) id
  | case2 d rest hpair ih =>
    rcases List.mem_cons.mp h with rfl | hrest
    · exact .inl List.mem_cons_self
    · exact (ih hrest).imp (List.mem_cons_of_mem d) id
  | case3 => cases h

/-- Composing makes no accent at the front. -/
theorem head?_composeAcute {cs : List Char} (h : (composeAcute cs).head? = some '\u0301') :
    cs.head? = some '\u0301' := by
  fun_induction composeAcute cs with
  | case1 rest ih => cases h
  | case2 c rest hpair ih => exact h
  | case3 => cases h

theorem composeAcute_composeAcute (cs : List Char) : composeAcute (composeAcute cs) = composeAcute cs := by
  fun_induction composeAcute cs with
  | case1 rest ih =>
    rw [composeAcute, ih]
    rintro - ⟨⟩
  | case2 c rest hpair ih =>
    rw [composeAcute, ih]
    intro rest' hc hfront
    have hhead : rest.head? = some '\u0301' := head?_composeAcute (by rw [hfront]; rfl)
    obtain ⟨tail, htail⟩ := List.head?_eq_some_iff.mp hhead
    exact hpair tail hc htail
  | case3 => rfl

theorem isLawful_acute : acute.IsLawful where
  idempotent := composeAcute_composeAcute
  quick cs h := composeAcute_eq_self fun c hc => bne_iff_ne.mp (List.all_eq_true.mp h c hc)
  plain cs h := composeAcute_eq_self fun c hc hne => by
    have hplain := h c hc
    rw [hne] at hplain
    revert hplain
    decide
  legal cs c hc hillegal := by
    rcases mem_of_mem_composeAcute hc with hmem | rfl
    · exact hmem
    · exact absurd hillegal (by decide)

/-- An accent is composed, a control character replaced and a tab kept; the result is cleaned. -/
theorem clean_laws_accent : acute.IsLawful ∧ acute.clean "Cafe\u0301\x01\t" = "Caf\u00E9\uFFFD\t" ∧
    acute.clean (acute.clean "Cafe\u0301\x01\t") = acute.clean "Cafe\u0301\x01\t" ∧
      acute.cleanAll ["Cafe\u0301\x01\t", "plain"] = ["Caf\u00E9\uFFFD\t", "plain"] := by
  obtain ⟨hfully, -, htwice, hlist⟩ := clean_laws isLawful_acute
  have haccent : acute.cleanFully "Cafe\u0301\x01\t" = "Caf\u00E9\uFFFD\t" := by decide +kernel
  have hplain : acute.cleanFully "plain" = "plain" := by decide +kernel
  refine ⟨isLawful_acute, ?_, htwice _, ?_⟩
  · rw [hfully, haccent]
  · rw [hlist, List.map_cons, List.map_cons, haccent, hplain, List.map_nil]

end Normalizer

/-! ## Text of low characters -/

/-- Below U+0300 cleaning only replaces illegal characters: what is left is normal. -/
theorem clean_of_low {s : String} (h : ∀ c ∈ s.toList, c.toNat < 0x300) :
    clean s = String.ofList (withoutIllegal s.toList) := by
  rw [clean]
  cases hplain : s.toList.all isPlain with
  | true =>
    rw [Normalizer.clean, if_pos hplain, withoutIllegal_of_isPlain hplain, String.ofList_toList]
  | false =>
    have hquick : nfcNormalizer.isQuick (withoutIllegal s.toList) = true := by
      refine Unicode.isQuickNfc_of_settled fun c hc => ?_
      obtain ⟨d, hd, rfl⟩ := List.mem_map.mp hc
      split
      · exact .inr rfl
      · exact .inl (h d hd)
    rw [Normalizer.clean_of_not_plain hplain, if_pos hquick]

end WikiGateway.Text
