import WikiGateway.Text.Chars

/-!
# Accept-Language

A header lists languages with weights between 0 and 1. A language without a weight has weight 1, languages of weight 0
are left out, and a language that comes twice keeps its first place and takes its last weight. What is no language is
skipped.

* `parseAcceptLanguage`: the languages by descending weight, those of equal weight in the order of the header.
-/

namespace WikiGateway

/-- A language with its weight in thousandths. -/
structure LanguageRange where
  /-- The code in lower case, or a star. -/
  code : String
  /-- The weight in thousandths. -/
  weight : Nat
deriving DecidableEq, Repr, Inhabited

namespace LanguageRange

/-- The weight as a decimal with at least one place. -/
def weightText (range : LanguageRange) : String :=
  let places := [range.weight / 100 % 10, range.weight / 10 % 10, range.weight % 10]
  let kept := (places.reverse.dropWhile (· == 0)).reverse
  let digits := if kept.isEmpty then [0] else kept
  (range.weight / 1000).repr ++ "." ++ String.join (digits.map (fun n => n.repr))

end LanguageRange

namespace AcceptLanguage

/-- The lower case of a character, as far as it is ASCII: two characters beyond ASCII have an ASCII letter as their
lower case. -/
def lowerChar (c : Char) : List Char :=
  if c = '\u212A' then ['k'] else if c = '\u0130' then ['i', '\u0307'] else [c.toLower]

/-- Whether a character is a lower-case letter. -/
def isLetter (c : Char) : Bool := 'a' ≤ c && c ≤ 'z'

/-- Up to `count` characters of a class. -/
def takeUpTo (count : Nat) (p : Char → Bool) (cs : List Char) : List Char := (cs.take count).takeWhile p

/-- The further parts of a code, each with its hyphen. -/
def takeSubtags (cs : List Char) : List Char :=
  match cs with
  | '-' :: rest =>
    let tag := takeUpTo 8 isLetter rest
    if tag.isEmpty then [] else '-' :: (tag ++ takeSubtags (rest.drop tag.length))
  | _ => []
termination_by cs.length
decreasing_by simp only [List.length_cons, List.length_drop]; omega

/-- The code at the front of a text; it is empty if none stands there. -/
def takeCode : List Char → List Char
  | '*' :: _ => ['*']
  | cs =>
    let first := takeUpTo 8 isLetter cs
    if first.isEmpty then [] else first ++ takeSubtags (cs.drop first.length)

/-- The digits of a weight after its point, at most three of a class, as thousandths. -/
def takePlaces (p : Char → Bool) : List Char → Nat × List Char
  | '.' :: cs =>
    let digits := takeUpTo 3 p cs
    (Text.digitsValue (digits ++ List.replicate (3 - digits.length) '0'), cs.drop digits.length)
  | cs => (0, cs)

/-- The weight at the front of a text, if one stands there. -/
def takeWeight : List Char → Option Nat × List Char
  | '1' :: cs => (some 1000, (takePlaces (· == '0') cs).2)
  | '0' :: cs =>
    let (places, cs) := takePlaces Char.isDigit cs
    (some places, cs)
  | cs => (none, cs)

/-- What follows the name of the weight, if a semicolon and that name stand in front. -/
def afterWeightName? (cs : List Char) : Option (List Char) :=
  match cs with
  | ';' :: cs =>
    match cs.dropWhile Text.isSpace with
    | 'q' :: cs =>
      match cs.dropWhile Text.isSpace with
      | '=' :: cs => some (cs.dropWhile Text.isSpace)
      | _ => none
    | _ => none
  | _ => none

/-- The weight of a language and the text behind it. -/
def takeParameter (cs : List Char) : Nat × List Char :=
  let cs := cs.dropWhile Text.isSpace
  match afterWeightName? cs with
  | none => (1000, cs)
  | some cs =>
    let (weight, cs) := takeWeight cs
    (weight.getD 1000, cs)

/-- The list with a language, which replaces the weight of an earlier mention. -/
def mention (range : LanguageRange) : List LanguageRange → List LanguageRange
  | [] => [range]
  | r :: rest => if r.code = range.code then range :: rest else r :: mention range rest

/-! ### Reading uses up text -/

theorem length_takePlaces_le (p : Char → Bool) (cs : List Char) : (takePlaces p cs).2.length ≤ cs.length := by
  unfold takePlaces
  split
  · simp only [List.length_drop, List.length_cons]
    omega
  · exact Nat.le_refl _

theorem length_takeWeight_le (cs : List Char) : (takeWeight cs).2.length ≤ cs.length := by
  unfold takeWeight
  split
  · exact Nat.le_succ_of_le (length_takePlaces_le _ _)
  · exact Nat.le_succ_of_le (length_takePlaces_le _ _)
  · exact Nat.le_refl _

theorem length_behindSpaces_le (cs : List Char) : (cs.dropWhile Text.isSpace).length ≤ cs.length :=
  (List.dropWhile_sublist Text.isSpace).length_le

theorem length_le_of_afterWeightName? {cs rest : List Char} (h : afterWeightName? cs = some rest) :
    rest.length ≤ cs.length := by
  unfold afterWeightName? at h
  split at h
  · rename_i behind
    have hname := length_behindSpaces_le behind
    split at h
    · rename_i more hmore
      have hequals := length_behindSpaces_le more
      rw [hmore, List.length_cons] at hname
      split at h
      · rename_i value hvalue
        have hrest := length_behindSpaces_le value
        rw [hvalue, List.length_cons] at hequals
        rw [← Option.some.inj h, List.length_cons]
        omega
      · cases h
    · cases h
  · cases h

theorem length_takeParameter_le (cs : List Char) : (takeParameter cs).2.length ≤ cs.length := by
  have hblanks := length_behindSpaces_le cs
  simp only [takeParameter]
  split
  · exact hblanks
  · rename_i rest hrest
    have hname := length_le_of_afterWeightName? hrest
    have hweight := length_takeWeight_le rest
    show (takeWeight rest).2.length ≤ cs.length
    omega

/-- The mentions of languages in a text, in order. -/
def mentions (cs : List Char) : List LanguageRange :=
  match cs with
  | [] => []
  | c :: rest =>
    let code := takeCode (c :: rest)
    if code.isEmpty then mentions rest
    else
      let parameter := takeParameter ((c :: rest).drop code.length)
      ⟨String.ofList code, parameter.1⟩ :: mentions parameter.2
termination_by cs.length
decreasing_by
  · exact Nat.lt_succ_self _
  · rename_i hcode
    have hpos : 0 < (takeCode (c :: rest)).length := List.length_pos_iff.mpr (by simpa using hcode)
    have hparameter := length_takeParameter_le ((c :: rest).drop (takeCode (c :: rest)).length)
    rw [List.length_drop, List.length_cons] at hparameter
    rw [List.length_cons]
    omega

end AcceptLanguage

open AcceptLanguage in
/-- The languages of a header by descending weight. -/
def parseAcceptLanguage (header : String) : List LanguageRange :=
  let cs := header.toList.flatMap lowerChar
  let weighted := (mentions cs).filter (·.weight != 0)
  let distinct := weighted.foldl (fun list range => mention range list) []
  distinct.mergeSort fun a b => b.weight ≤ a.weight

end WikiGateway
