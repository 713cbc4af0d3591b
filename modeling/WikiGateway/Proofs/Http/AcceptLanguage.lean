import Mathlib.Data.List.TakeWhile
import WikiGateway.Proofs.Http.LanguageRanges
import WikiGateway.Proofs.Text.Digits
import WikiGateway.Proofs.Text.Runs

/-!
# Accept-Language as a list

Whatever a header is, what is read of it are codes of the grammar with weights up to 1 (`of_mem_mentions`). A header
that is written as a list (`headerText`) is read entry by entry: no entry is split and no two are merged, because a code
ends where neither a letter nor a hyphen follows (`takeCode_append`), a weight where neither a digit nor a point does
(`takeWeight_append`), and a comma starts neither.

* `parseAcceptLanguage_laws`: the languages of any header, and those of a header written as a list.
-/

namespace WikiGateway

open Computability

namespace AcceptLanguage

/-! ## The grammar of codes -/

/-- One to eight lower-case letters. -/
def tags : Language Char := {cs | cs ≠ [] ∧ cs.length ≤ 8 ∧ ∀ c ∈ cs, isLetter c = true}

/-- A hyphen and a tag. -/
def subtag : Language Char := Text.oneOf (· == '-') * tags

/-- A tag and further ones behind hyphens, or a star. -/
def codes : Language Char := tags * subtag∗ + Text.oneOf (· == '*')

variable {cs rest tag : List Char}

theorem mem_codes : cs ∈ codes ↔ (∃ tag ∈ tags, ∃ more ∈ subtag∗, tag ++ more = cs) ∨ cs = ['*'] := by
  rw [codes, Language.mem_add, Language.mem_mul, Text.mem_oneOf]
  simp only [beq_iff_eq, exists_eq_left]

theorem mem_codes_of_mem_tags (h : tag ∈ tags) : tag ∈ codes :=
  mem_codes.mpr (.inl ⟨tag, h, [], Language.nil_mem_kstar subtag, List.append_nil tag⟩)

theorem mem_subtag : cs ∈ subtag ↔ ∃ tag ∈ tags, '-' :: tag = cs := by
  rw [subtag, Text.mem_oneOf_mul]
  simp only [beq_iff_eq, exists_eq_left]

/-- The characters of codes. -/
def isCodeChar (c : Char) : Bool := isLetter c || c == '-' || c == '*'

theorem isCodeChar_of_mem_codes (h : cs ∈ codes) : ∀ c ∈ cs, isCodeChar c = true := by
  have htags : ∀ tag ∈ tags, ∀ c ∈ tag, isCodeChar c = true := by
    intro tag htag c hc
    simp [isCodeChar, htag.2.2 c hc]
  rcases mem_codes.mp h with ⟨tag, htag, more, hmore, rfl⟩ | rfl
  · obtain ⟨pieces, rfl, hpieces⟩ := Language.mem_kstar.mp hmore
    intro c hc
    rcases List.mem_append.mp hc with hc | hc
    · exact htags tag htag c hc
    · obtain ⟨piece, hpiece, hc⟩ := List.mem_flatten.mp hc
      obtain ⟨sub, hsub, rfl⟩ := mem_subtag.mp (hpieces piece hpiece)
      rcases List.mem_cons.mp hc with rfl | hc
      · rfl
      · exact htags sub hsub c hc
  · simp [isCodeChar]

/-! ## What is read is of the grammar -/

section Read

variable {p : Char → Bool} {count : Nat}

theorem takeUpTo_class : ∀ c ∈ takeUpTo count p cs, p c = true := fun _ h => List.mem_takeWhile_imp h

theorem length_takeUpTo_le : (takeUpTo count p cs).length ≤ count :=
  (List.takeWhile_sublist p).length_le.trans (List.length_take_le count cs)

theorem takeUpTo_mem_tags (h : (takeUpTo 8 isLetter cs).isEmpty = false) : takeUpTo 8 isLetter cs ∈ tags :=
  ⟨List.isEmpty_eq_false_iff.mp h, length_takeUpTo_le, takeUpTo_class⟩

theorem takeSubtags_mem (cs : List Char) : takeSubtags cs ∈ subtag∗ := by
  fun_induction takeSubtags cs with
  | case1 rest tag hempty => exact Language.nil_mem_kstar subtag
  | case2 rest tag htag ih =>
    have hfirst : '-' :: tag ∈ subtag := mem_subtag.mpr ⟨tag, takeUpTo_mem_tags (by simpa using htag), rfl⟩
    have hle : subtag * subtag∗ ≤ subtag∗ := mul_kstar_le_kstar
    exact hle (Language.append_mem_mul hfirst ih)
  | case3 => exact Language.nil_mem_kstar subtag

theorem takeCode_mem (h : (takeCode cs).isEmpty = false) : takeCode cs ∈ codes := by
  unfold takeCode at h ⊢
  split at h
  · exact mem_codes.mpr (.inr rfl)
  · simp only at h ⊢
    split at h
    · cases h
    · rename_i hfirst
      rw [if_neg hfirst]
      exact mem_codes.mpr (.inl ⟨_, takeUpTo_mem_tags (by simpa using hfirst), _, takeSubtags_mem _, rfl⟩)

theorem isDigit_of_mem_replicate {n : Nat} {c : Char} (h : c ∈ List.replicate n '0') : c.isDigit = true := by
  rw [List.eq_of_mem_replicate h]
  rfl

/-- The places of a weight are three digits with the zeros that are left out. -/
theorem takePlaces_lt (hp : ∀ c, p c = true → c.isDigit = true) (cs : List Char) : (takePlaces p cs).1 < 1000 := by
  unfold takePlaces
  split
  · rename_i behind
    have hdigits : ∀ c ∈ takeUpTo 3 p behind ++ List.replicate (3 - (takeUpTo 3 p behind).length) '0',
        c.isDigit = true := by
      intro c hc
      rcases List.mem_append.mp hc with hc | hc
      · exact hp c (takeUpTo_class c hc)
      · exact isDigit_of_mem_replicate hc
    have hlength : (takeUpTo 3 p behind ++ List.replicate (3 - (takeUpTo 3 p behind).length) '0').length = 3 := by
      have hle : (takeUpTo 3 p behind).length ≤ 3 := length_takeUpTo_le
      rw [List.length_append, List.length_replicate]
      omega
    have hlt := Text.decimalValue_lt hdigits
    rw [hlength] at hlt
    simp only [Text.digitsValue_eq]
    exact hlt
  · exact Nat.zero_lt_succ _

theorem takeWeight_le {w : Nat} (h : (takeWeight cs).1 = some w) : w ≤ 1000 := by
  unfold takeWeight at h
  split at h
  · exact (Option.some.inj h).ge
  · rw [← Option.some.inj h]
    exact (takePlaces_lt (fun _ hc => hc) _).le
  · cases h

theorem takeParameter_le (cs : List Char) : (takeParameter cs).1 ≤ 1000 := by
  simp only [takeParameter]
  split
  · exact Nat.le_refl _
  · rename_i behind hbehind
    show ((takeWeight behind).1.getD 1000) ≤ 1000
    cases hweight : (takeWeight behind).1 with
    | none => exact Nat.le_refl _
    | some w => exact takeWeight_le hweight

/-- What is mentioned has a code of the grammar and a weight up to 1. -/
theorem of_mem_mentions {r : LanguageRange} (h : r ∈ mentions cs) : r.code.toList ∈ codes ∧ r.weight ≤ 1000 := by
  fun_induction mentions cs with
  | case1 => cases h
  | case2 c rest code hempty ih => exact ih h
  | case3 c rest code hcode parameter ih =>
    rcases List.mem_cons.mp h with rfl | h
    · have hmem : code ∈ codes := takeCode_mem (by simpa using hcode)
      exact ⟨by rwa [String.toList_ofList], takeParameter_le _⟩
    · exact ih h

end Read

/-! ## Weights as they are written -/

/-- A weight between 0 and 1 as it is written, with at most three places. -/
inductive WrittenWeight where
  | one
  | onePoint (zeros : Fin 4)
  | zero
  | zeroPoint (places : List Char) (short : places.length ≤ 3) (digits : ∀ c ∈ places, c.isDigit = true)

namespace WrittenWeight

def text : WrittenWeight → List Char
  | one => ['1']
  | onePoint zeros => '1' :: '.' :: List.replicate zeros '0'
  | zero => ['0']
  | zeroPoint places _ _ => '0' :: '.' :: places

/-- The weight in thousandths. -/
def thousandths : WrittenWeight → Nat
  | one => 1000
  | onePoint _ => 1000
  | zero => 0
  | zeroPoint places _ _ => Text.decimalValue places * 10 ^ (3 - places.length)

theorem isDigit_or_point (w : WrittenWeight) : ∀ c ∈ w.text, c.isDigit = true ∨ c = '.' := by
  intro c hc
  cases w with
  | one => exact .inl (List.mem_singleton.mp hc ▸ rfl)
  | onePoint zeros =>
    rcases List.mem_cons.mp hc with rfl | hc
    · exact .inl rfl
    · rcases List.mem_cons.mp hc with rfl | hc
      · exact .inr rfl
      · exact .inl (isDigit_of_mem_replicate hc)
  | zero => exact .inl (List.mem_singleton.mp hc ▸ rfl)
  | zeroPoint places short digits =>
    rcases List.mem_cons.mp hc with rfl | hc
    · exact .inl rfl
    · rcases List.mem_cons.mp hc with rfl | hc
      · exact .inr rfl
      · exact .inl (digits c hc)

end WrittenWeight

/-! ## What is written is read -/

section Write

variable {p : Char → Bool} {count : Nat} {run : List Char}

/-- A run that is not too long is taken where something else follows. -/
theorem takeUpTo_append (hrun : ∀ c ∈ run, p c = true) (hshort : run.length ≤ count)
    (hend : ∀ c ∈ rest.head?, p c = false) : takeUpTo count p (run ++ rest) = run := by
  have htake : (run ++ rest).take count = run ++ rest.take (count - run.length) := by
    rw [List.take_append, List.take_of_length_le hshort]
  have hcut : ∀ c ∈ (rest.take (count - run.length)).head?, p c = false := by
    intro c hc
    rw [List.head?_take] at hc
    split at hc
    · cases hc
    · exact hend c hc
  rw [takeUpTo, htake]
  exact (takeWhile_append_of_head? hrun hcut).1

theorem takeTag_append (htag : tag ∈ tags) (hend : ∀ c ∈ rest.head?, isLetter c = false) :
    takeUpTo 8 isLetter (tag ++ rest) = tag := takeUpTo_append htag.2.2 htag.2.1 hend

/-- No letter stands where further tags begin or the code ends. -/
theorem head?_subtags {pieces : List (List Char)} (hpieces : ∀ piece ∈ pieces, piece ∈ subtag)
    (hend : ∀ c ∈ rest.head?, isLetter c = false) : ∀ c ∈ (pieces.flatten ++ rest).head?, isLetter c = false := by
  cases pieces with
  | nil => exact hend
  | cons piece pieces =>
    obtain ⟨tag, htag, rfl⟩ := mem_subtag.mp (hpieces piece List.mem_cons_self)
    intro c hc
    rw [← Option.some.inj hc]
    rfl

/-- Further tags are taken up to where neither a letter nor a hyphen follows. -/
theorem takeSubtags_append {pieces : List (List Char)} (hpieces : ∀ piece ∈ pieces, piece ∈ subtag)
    (hend : ∀ c ∈ rest.head?, isLetter c = false ∧ c ≠ '-') :
    takeSubtags (pieces.flatten ++ rest) = pieces.flatten := by
  induction pieces with
  | nil =>
    rw [List.flatten_nil, List.nil_append, takeSubtags]
    intro behind hbehind
    subst hbehind
    exact (hend '-' rfl).2 rfl
  | cons piece pieces ih =>
    obtain ⟨hpiece, hmore⟩ := List.forall_mem_cons.mp hpieces
    obtain ⟨tag, htag, rfl⟩ := mem_subtag.mp hpiece
    have htaken : takeUpTo 8 isLetter (tag ++ (pieces.flatten ++ rest)) = tag :=
      takeTag_append htag (head?_subtags hmore fun c hc => (hend c hc).1)
    have hne : tag.isEmpty = false := List.isEmpty_eq_false_iff.mpr htag.1
    rw [List.flatten_cons, List.append_assoc, List.cons_append, takeSubtags]
    simp only [htaken, hne, Bool.false_eq_true, if_false, List.drop_left, ih hmore, List.cons_append]

/-- A code is taken up to where neither a letter nor a hyphen follows. -/
theorem takeCode_append {code : List Char} (hcode : code ∈ codes)
    (hend : ∀ c ∈ rest.head?, isLetter c = false ∧ c ≠ '-') : takeCode (code ++ rest) = code := by
  rcases mem_codes.mp hcode with ⟨tag, htag, more, hmore, rfl⟩ | rfl
  · obtain ⟨pieces, rfl, hpieces⟩ := Language.mem_kstar.mp hmore
    have htaken : takeUpTo 8 isLetter (tag ++ (pieces.flatten ++ rest)) = tag :=
      takeTag_append htag (head?_subtags hpieces fun c hc => (hend c hc).1)
    have hne : tag.isEmpty = false := List.isEmpty_eq_false_iff.mpr htag.1
    rw [List.append_assoc, takeCode]
    · simp only [htaken, hne, Bool.false_eq_true, if_false, List.drop_left, takeSubtags_append hpieces hend]
    · -- A tag does not begin with a star.
      intro behind hstar
      obtain ⟨c, tag, rfl⟩ := List.exists_cons_of_ne_nil htag.1
      have hletter : isLetter c = true := htag.2.2 c List.mem_cons_self
      rw [(List.cons.inj hstar).1] at hletter
      exact absurd hletter (by decide)
  · rfl

/-- Digits after a point are read as thousandths up to where no digit follows. -/
theorem takePlaces_append (hrun : ∀ c ∈ run, p c = true) (hshort : run.length ≤ 3)
    (hend : ∀ c ∈ rest.head?, p c = false) :
    takePlaces p ('.' :: (run ++ rest)) = (Text.decimalValue run * 10 ^ (3 - run.length), rest) := by
  have htaken := takeUpTo_append hrun hshort hend
  simp only [takePlaces, htaken, List.drop_left, Text.digitsValue_eq, Text.decimalValue_append, Text.decimalValue_zeros,
    List.length_replicate, Nat.add_zero]

theorem takePlaces_of_no_point (hend : ∀ c ∈ rest.head?, c ≠ '.') : takePlaces p rest = (0, rest) := by
  rw [takePlaces]
  intro behind hbehind
  subst hbehind
  exact hend '.' rfl rfl

/-- A weight is taken up to where neither a digit nor a point follows. -/
theorem takeWeight_append (w : WrittenWeight) (hend : ∀ c ∈ rest.head?, c.isDigit = false ∧ c ≠ '.') :
    takeWeight (w.text ++ rest) = (some w.thousandths, rest) := by
  have hpoint : ∀ c ∈ rest.head?, c ≠ '.' := fun c hc => (hend c hc).2
  cases w with
  | one => simp only [WrittenWeight.text, List.cons_append, List.nil_append, takeWeight,
      takePlaces_of_no_point hpoint, WrittenWeight.thousandths]
  | onePoint zeros =>
    have hzeros : ∀ c ∈ List.replicate zeros.val '0', (c == '0') = true := by
      intro c hc
      rw [List.eq_of_mem_replicate hc]
      rfl
    have hshort : (List.replicate zeros.val '0').length ≤ 3 := by
      rw [List.length_replicate]
      omega
    have hnext : ∀ c ∈ rest.head?, (c == '0') = false := by
      intro c hc
      rw [beq_eq_false_iff_ne]
      rintro rfl
      exact absurd (hend '0' hc).1 (by decide)
    simp only [WrittenWeight.text, List.cons_append, takeWeight, takePlaces_append hzeros hshort hnext,
      WrittenWeight.thousandths]
  | zero => simp only [WrittenWeight.text, List.cons_append, List.nil_append, takeWeight,
      takePlaces_of_no_point hpoint, WrittenWeight.thousandths]
  | zeroPoint places short digits =>
    have hread := takePlaces_append digits short fun c hc => (hend c hc).1
    simp only [WrittenWeight.text, List.cons_append, takeWeight, hread, WrittenWeight.thousandths]

end Write

/-! ## Lists of languages -/

/-- A language of a list as it is written, in any case of its letters and with the spaces around it. -/
structure ListedLanguage where
  code : List Char
  isCode : code.map Char.toLower ∈ codes
  weight : Option WrittenWeight
  before : Nat
  after : Nat

namespace ListedLanguage

/-- The weight with its name, or nothing. -/
def parameter (entry : ListedLanguage) : List Char := entry.weight.elim [] fun w => ';' :: 'q' :: '=' :: w.text

def text (entry : ListedLanguage) : List Char :=
  List.replicate entry.before ' ' ++ (entry.code ++ (entry.parameter ++ List.replicate entry.after ' '))

/-- The code in lower case with the weight, which is 1 if none is written. -/
def range (entry : ListedLanguage) : LanguageRange :=
  ⟨String.ofList (entry.code.map Char.toLower), entry.weight.elim 1000 WrittenWeight.thousandths⟩

end ListedLanguage

/-- The entries with commas between them. -/
def headerText (entries : List ListedLanguage) : String :=
  String.ofList ([','].intercalate (entries.map ListedLanguage.text))

section Lower

/-- Code characters are the lower case of ASCII letters only. -/
theorem lowerChar_of_isCodeChar {c : Char} (h : isCodeChar c.toLower = true) : lowerChar c = [c.toLower] := by
  rw [lowerChar]
  split
  · subst c
    exact absurd h (by decide)
  · split
    · subst c
      exact absurd h (by decide)
    · rfl

theorem flatMap_lowerChar_code (h : cs.map Char.toLower ∈ codes) : cs.flatMap lowerChar = cs.map Char.toLower := by
  have hchars : ∀ c ∈ cs, lowerChar c = [c.toLower] := fun c hc =>
    lowerChar_of_isCodeChar (isCodeChar_of_mem_codes h c.toLower (List.mem_map_of_mem hc))
  rw [List.flatMap_congr hchars, ← List.map_eq_flatMap]

theorem lowerChar_of_isDigit {c : Char} (h : c.isDigit = true) : lowerChar c = [c] := by
  have hupper : ¬ (c.val ≥ 'A'.val ∧ c.val ≤ 'Z'.val) := by
    simp only [Char.isDigit, Bool.and_eq_true, decide_eq_true_eq, ge_iff_le, UInt32.le_iff_toNat_le] at h ⊢
    have hA : 'A'.val.toNat = 65 := rfl
    have hnine : '9'.val.toNat = 57 := rfl
    omega
  have hlower : c.toLower = c := dif_neg hupper
  rw [lowerChar]
  split
  · subst c
    exact absurd h (by decide)
  · split
    · subst c
      exact absurd h (by decide)
    · rw [hlower]

theorem flatMap_lowerChar_eq_self (h : ∀ c ∈ cs, lowerChar c = [c]) : cs.flatMap lowerChar = cs := by
  rw [List.flatMap_congr h, List.flatMap_singleton']

theorem flatMap_lowerChar_spaces (n : Nat) :
    (List.replicate n ' ').flatMap lowerChar = List.replicate n ' ' := by
  refine flatMap_lowerChar_eq_self fun c hc => ?_
  rw [List.eq_of_mem_replicate hc]
  rfl

theorem flatMap_lowerChar_parameter (entry : ListedLanguage) :
    entry.parameter.flatMap lowerChar = entry.parameter := by
  refine flatMap_lowerChar_eq_self fun c hc => ?_
  rw [ListedLanguage.parameter] at hc
  cases hweight : entry.weight with
  | none =>
    rw [hweight] at hc
    cases hc
  | some w =>
    rw [hweight, Option.elim_some] at hc
    simp only [List.mem_cons] at hc
    rcases hc with rfl | rfl | rfl | hc
    · rfl
    · rfl
    · rfl
    · rcases w.isDigit_or_point c hc with hdigit | rfl
      · exact lowerChar_of_isDigit hdigit
      · rfl

theorem flatMap_lowerChar_text (entry : ListedLanguage) :
    entry.text.flatMap lowerChar = List.replicate entry.before ' ' ++
      (entry.code.map Char.toLower ++ (entry.parameter ++ List.replicate entry.after ' ')) := by
  rw [ListedLanguage.text, List.flatMap_append, List.flatMap_append, List.flatMap_append, flatMap_lowerChar_spaces,
    flatMap_lowerChar_code entry.isCode, flatMap_lowerChar_parameter, flatMap_lowerChar_spaces]

end Lower

/-! ## Entry by entry -/

section Entries

/-- What begins no code is skipped. -/
theorem mentions_skip {c : Char} (hstar : c ≠ '*') (hletter : isLetter c = false) :
    mentions (c :: rest) = mentions rest := by
  have hcode : (takeCode (c :: rest)).isEmpty = true := by
    rw [takeCode]
    · have hnone : takeUpTo 8 isLetter (c :: rest) = [] := by
        rw [takeUpTo, List.take_succ_cons, List.takeWhile_cons_of_neg (by simp [hletter])]
      simp only [hnone, List.isEmpty_nil, if_true]
    · intro behind hbehind
      exact hstar (List.cons.inj hbehind).1
  rw [mentions]
  simp only [hcode, if_true]

theorem mentions_comma : mentions (',' :: rest) = mentions rest := mentions_skip (by decide) (by decide)

theorem mentions_spaces (n : Nat) : mentions (List.replicate n ' ' ++ rest) = mentions rest := by
  induction n with
  | zero => rfl
  | succ n ih => rw [List.replicate_succ, List.cons_append, mentions_skip (by decide) (by decide), ih]

theorem mentions_code {code : List Char} (hcode : code ∈ codes)
    (hend : ∀ c ∈ rest.head?, isLetter c = false ∧ c ≠ '-') :
    mentions (code ++ rest) = ⟨String.ofList code, (takeParameter rest).1⟩ :: mentions (takeParameter rest).2 := by
  have hne : code ≠ [] := by
    rintro rfl
    rcases mem_codes.mp hcode with ⟨tag, htag, more, hmore, hnil⟩ | hstar
    · exact htag.1 (List.append_eq_nil_iff.mp hnil).1
    · cases hstar
  have htaken := takeCode_append hcode hend
  obtain ⟨c, behind, rfl⟩ := List.exists_cons_of_ne_nil hne
  rw [List.cons_append] at htaken
  rw [List.cons_append, mentions]
  simp only [htaken, List.isEmpty_cons, Bool.false_eq_true, if_false]
  rw [← List.cons_append, List.drop_left]

variable (hend : ∀ c ∈ rest.head?, c = ',')
include hend

/-- Behind an entry stands a space or the comma. -/
theorem head?_spaces (n : Nat) : ∀ c ∈ (List.replicate n ' ' ++ rest).head?, c = ' ' ∨ c = ',' := by
  cases n with
  | zero => exact fun c hc => .inr (hend c hc)
  | succ n =>
    intro c hc
    exact .inl (Option.some.inj hc).symm

omit hend in
theorem afterWeightName?_text (w : WrittenWeight) (behind : List Char) :
    afterWeightName? (';' :: 'q' :: '=' :: (w.text ++ behind)) = some (w.text ++ behind) := by
  have hblanks : (w.text ++ behind).dropWhile Text.isSpace = w.text ++ behind := by cases w <;> rfl
  have hname : ('q' :: '=' :: (w.text ++ behind)).dropWhile Text.isSpace = 'q' :: '=' :: (w.text ++ behind) := rfl
  have hequals : ('=' :: (w.text ++ behind)).dropWhile Text.isSpace = '=' :: (w.text ++ behind) := rfl
  simp only [afterWeightName?, hname, hequals, hblanks]

/-- What follows a code is its weight, up to the spaces or the comma behind it. -/
theorem takeParameter_append (entry : ListedLanguage) :
    ∃ n, takeParameter (entry.parameter ++ (List.replicate entry.after ' ' ++ rest)) =
      (entry.range.weight, List.replicate n ' ' ++ rest) := by
  rw [ListedLanguage.parameter, ListedLanguage.range]
  cases hweight : entry.weight with
  | none =>
    have hspaces : ∀ c ∈ List.replicate entry.after ' ', Text.isSpace c = true := by
      intro c hc
      rw [List.eq_of_mem_replicate hc]
      rfl
    have hrest : ∀ c ∈ rest.head?, Text.isSpace c = false := by
      intro c hc
      rw [hend c hc]
      rfl
    have hname : afterWeightName? rest = none := by
      rw [afterWeightName?]
      intro behind hbehind
      subst hbehind
      exact absurd (hend ';' rfl) (by decide)
    refine ⟨0, ?_⟩
    simp only [Option.elim_none, List.nil_append, takeParameter, (takeWhile_append_of_head? hspaces hrest).2, hname,
      List.replicate_zero]
  | some w =>
    have hdigit : ∀ c ∈ (List.replicate entry.after ' ' ++ rest).head?, c.isDigit = false ∧ c ≠ '.' := by
      intro c hc
      rcases head?_spaces hend entry.after c hc with rfl | rfl
      · decide
      · decide
    have hread := takeWeight_append w hdigit
    refine ⟨entry.after, ?_⟩
    rw [Option.elim_some, Option.elim_some, List.cons_append, List.cons_append, List.cons_append, takeParameter,
      List.dropWhile_cons_of_neg (by decide), afterWeightName?_text]
    simp only [hread, Option.getD_some]

/-- An entry is read as its language, up to the comma behind it. -/
theorem mentions_text (entry : ListedLanguage) :
    mentions (entry.text.flatMap lowerChar ++ rest) = entry.range :: mentions rest := by
  have hbehind : ∀ c ∈ (entry.parameter ++ (List.replicate entry.after ' ' ++ rest)).head?,
      isLetter c = false ∧ c ≠ '-' := by
    intro c hc
    rw [ListedLanguage.parameter] at hc
    cases hweight : entry.weight with
    | none =>
      rw [hweight] at hc
      rcases head?_spaces hend entry.after c hc with rfl | rfl <;> decide
    | some w =>
      rw [hweight] at hc
      rw [← Option.some.inj hc]
      decide
  obtain ⟨n, hparameter⟩ := takeParameter_append hend entry
  rw [flatMap_lowerChar_text, List.append_assoc, List.append_assoc, List.append_assoc, mentions_spaces,
    mentions_code entry.isCode hbehind, hparameter, mentions_spaces]
  rfl

omit hend in
/-- A list is read entry by entry. -/
theorem mentions_headerText (entries : List ListedLanguage) :
    mentions ((headerText entries).toList.flatMap lowerChar) = entries.map ListedLanguage.range := by
  rw [headerText, String.toList_ofList]
  induction entries with
  | nil => rw [List.map_nil, List.intercalate_nil, List.flatMap_nil, mentions, List.map_nil]
  | cons entry entries ih =>
    cases entries with
    | nil =>
      have hread : mentions (entry.text.flatMap lowerChar ++ []) = entry.range :: mentions [] :=
        mentions_text (fun c hc => by cases hc) entry
      rw [List.append_nil, mentions] at hread
      rw [List.map_cons, List.map_nil, List.intercalate_singleton, hread, List.map_cons, List.map_nil]
    | cons next entries =>
      have hread : ∀ behind, mentions (entry.text.flatMap lowerChar ++ ',' :: behind) =
          entry.range :: mentions (',' :: behind) := by
        intro behind
        refine mentions_text (fun c hc => ?_) entry
        rw [List.head?_cons] at hc
        exact (Option.some.inj hc).symm
      have hcomma : [','].flatMap lowerChar = [','] := rfl
      rw [List.map_cons, List.map_cons, List.intercalate_cons_cons, List.flatMap_append, List.flatMap_append, hcomma,
        List.append_assoc, List.singleton_append, hread, mentions_comma, ← List.map_cons, ih, ← List.map_cons]

end Entries

end AcceptLanguage

open AcceptLanguage LanguageRange

/-- What is parsed is sorted: the languages of weight 0 are left out, and a code that comes again changes the weight at
its first place. -/
theorem parseAcceptLanguage_eq (header : String) :
    parseAcceptLanguage header =
      (latest ((mentions (header.toList.flatMap lowerChar)).filter (·.weight ≠ 0))).mergeSort byWeight := by
  have hfilter : (mentions (header.toList.flatMap lowerChar)).filter (·.weight != 0) =
      (mentions (header.toList.flatMap lowerChar)).filter (·.weight ≠ 0) :=
    List.filter_congr fun r _ => by
      by_cases h : r.weight = 0 <;> simp [h]
  rw [← foldl_mention, ← hfilter]
  rfl

/-- The codes of a header are different ones of the grammar, with weights between 0 and 1 in descending order. Of a
header that is written as a list, each language is there that has a weight other than 0, where its code first comes with
such a weight and with the last one, and languages of the same weight keep this order. -/
theorem parseAcceptLanguage_laws :
    (∀ header, ((parseAcceptLanguage header).map code).Nodup ∧
      (∀ r ∈ parseAcceptLanguage header, r.code.toList ∈ codes ∧ 0 < r.weight ∧ r.weight ≤ 1000) ∧
      (parseAcceptLanguage header).Pairwise fun a b => b.weight ≤ a.weight) ∧
    ∀ entries ranges, parseAcceptLanguage (headerText entries) = ranges ↔
      IsStableSort (latest ((entries.map ListedLanguage.range).filter (·.weight ≠ 0))) ranges := by
  refine ⟨fun header => ⟨?_, ?_, ?_⟩, fun entries ranges => ?_⟩
  · rw [parseAcceptLanguage_eq]
    have hperm := List.mergeSort_perm
      (latest ((mentions (header.toList.flatMap lowerChar)).filter (·.weight ≠ 0))) byWeight
    exact (hperm.map code).nodup_iff.mpr (nodup_codes_latest _)
  · intro r hr
    rw [parseAcceptLanguage_eq, List.mem_mergeSort] at hr
    obtain ⟨hmention, hweight⟩ := List.mem_filter.mp (mem_of_mem_latest hr)
    obtain ⟨hcode, hle⟩ := of_mem_mentions hmention
    exact ⟨hcode, Nat.pos_of_ne_zero (of_decide_eq_true hweight), hle⟩
  · rw [parseAcceptLanguage_eq]
    exact (isStableSort_mergeSort _).descending
  · rw [parseAcceptLanguage_eq, mentions_headerText]
    constructor
    · rintro rfl
      exact isStableSort_mergeSort _
    · exact (isStableSort_mergeSort _).unique

theorem parseAcceptLanguage_laws_two :
    parseAcceptLanguage "EN;q=0.5, fr" = [⟨"fr", 1000⟩, ⟨"en", 500⟩] ∧ "en".toList ∈ codes := by
  have hen : ['e', 'n'] ∈ codes := mem_codes_of_mem_tags ⟨by decide, by decide, List.all_eq_true.mp rfl⟩
  have hfr : ['f', 'r'] ∈ codes := mem_codes_of_mem_tags ⟨by decide, by decide, List.all_eq_true.mp rfl⟩
  have hread : parseAcceptLanguage "EN;q=0.5, fr" = [⟨"fr", 1000⟩, ⟨"en", 500⟩] := by
    refine (parseAcceptLanguage_laws.2
      [⟨['E', 'N'], hen, some (.zeroPoint ['5'] (by decide) (List.all_eq_true.mp rfl)), 0, 0⟩,
        ⟨['f', 'r'], hfr, none, 1, 0⟩] _).mpr ⟨by decide, fun w => ?_⟩
    show _ = [(⟨"en", 500⟩ : LanguageRange), ⟨"fr", 1000⟩].filter (·.weight = w)
    rcases eq_or_ne w 500 with rfl | hw
    · rfl
    · simp [List.filter_cons, hw.symm]
  have hmem : ⟨"en", 500⟩ ∈ parseAcceptLanguage "EN;q=0.5, fr" := by simp [hread]
  exact ⟨hread, ((parseAcceptLanguage_laws.1 _).2.1 _ hmem).1⟩

end WikiGateway
