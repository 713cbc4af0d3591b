import WikiGateway.Proofs.Text.Ascii
import WikiGateway.Proofs.Text.ItemByItem
import WikiGateway.Proofs.Text.Runs
import WikiGateway.Route.Segment

/-!
# Templates and their segments

A list of segments that is written as a template (`IsTemplate`) is read back from it, and every template that can be
read gives such a list. What cannot be read has a dollar sign that stands where none may (`FaultAt`), and the leftmost
one gives the error.

* `isTemplate_of_segmentsFrom`: what is read.
* `segmentsFrom_segmentsText`: what is written is read back; a name ends where no character of names follows.
* `Reached`, `Reached.text`, `Reached.placeholder`: the front of a template that has been read without a fault.
* `segmentsFrom_outcome`: the segments of a template without faults, or the error of the leftmost one.
* `parseSegments_exact`: both ways together.
-/

namespace WikiGateway

/-! ## Names -/

/-- A character that names may have: an ASCII letter or digit, or an underscore. -/
def IsNameChar (c : Char) : Prop := ('a' ≤ c ∧ c ≤ 'z') ∨ ('A' ≤ c ∧ c ≤ 'Z') ∨ ('0' ≤ c ∧ c ≤ '9') ∨ c = '_'

instance : DecidablePred IsNameChar := fun _ => inferInstanceAs (Decidable (_ ∨ _))

@[simp] theorem isPlaceholderChar_iff {c : Char} : isPlaceholderChar c = true ↔ IsNameChar c := by
  simp only [isPlaceholderChar, Char.isAlphanum, Char.isAlpha, Char.isUpper, Char.isLower, Char.isDigit,
    Bool.or_eq_true, Bool.and_eq_true, decide_eq_true_eq, beq_iff_eq, IsNameChar, Char.le_def, ge_iff_le]
  tauto

@[simp] theorem isPlaceholderChar_eq_false_iff {c : Char} : isPlaceholderChar c = false ↔ ¬ IsNameChar c := by
  rw [← isPlaceholderChar_iff, Bool.not_eq_true]

/-- The characters of a name as it is read. -/
theorem isNameChar_of_mem_takeWhile {c : Char} {cs : List Char} (h : c ∈ cs.takeWhile isPlaceholderChar) :
    IsNameChar c := isPlaceholderChar_iff.mp (List.mem_takeWhile_imp h)

/-! ## Lists of segments -/

namespace Segment

/-- A piece as templates have them: a text without dollar signs, or a placeholder with a name. -/
def IsPiece : Segment → Prop
  | literal text => text ≠ "" ∧ '$' ∉ text.toList
  | placeholder name => name ≠ "" ∧ ∀ c ∈ name.toList, IsNameChar c

/-- Two pieces that can stand side by side: a text and a placeholder, where the text behind a placeholder does not go on
with the name. -/
def Fits : Segment → Segment → Prop
  | literal _, placeholder _ => True
  | placeholder _, literal text => ∀ c ∈ text.toList.head?, ¬ IsNameChar c
  | literal _, literal _ | placeholder _, placeholder _ => False

-- the instances for lists are named, since one that tries all characters there are comes before them
instance : DecidablePred IsPiece
  | literal _ => inferInstanceAs (Decidable (_ ∧ _))
  | placeholder name => @instDecidableAnd _ _ inferInstance (List.decidableBAll IsNameChar name.toList)

instance : DecidableRel Fits
  | literal _, placeholder _ => inferInstanceAs (Decidable True)
  | placeholder _, literal text => Option.decidableForallMem text.toList.head?
  | literal _, literal _ | placeholder _, placeholder _ => inferInstanceAs (Decidable False)

end Segment

/-- A list of segments that a template can have. -/
structure IsTemplate (segments : List Segment) : Prop where
  pieces : ∀ s ∈ segments, s.IsPiece
  chain : segments.IsChain Segment.Fits

instance : DecidablePred IsTemplate := fun segments =>
  decidable_of_iff ((∀ s ∈ segments, s.IsPiece) ∧ segments.IsChain Segment.Fits)
    ⟨fun h => ⟨h.1, h.2⟩, fun h => ⟨h.pieces, h.chain⟩⟩

theorem isTemplate_cons {s : Segment} {segments : List Segment} : IsTemplate (s :: segments) ↔
    s.IsPiece ∧ (∀ next ∈ segments.head?, s.Fits next) ∧ IsTemplate segments := by
  constructor
  · rintro ⟨hpieces, hchain⟩
    obtain ⟨hpiece, hpieces⟩ := List.forall_mem_cons.mp hpieces
    obtain ⟨hfits, hchain⟩ := List.isChain_cons.mp hchain
    exact ⟨hpiece, hfits, hpieces, hchain⟩
  · rintro ⟨hpiece, hfits, hpieces, hchain⟩
    exact ⟨List.forall_mem_cons.mpr ⟨hpiece, hpieces⟩, List.isChain_cons.mpr ⟨hfits, hchain⟩⟩

@[simp] theorem toList_segmentsText_nil : (segmentsText []).toList = [] := rfl

@[simp] theorem toList_segmentsText_cons (s : Segment) (segments : List Segment) :
    (segmentsText (s :: segments)).toList = s.text.toList ++ (segmentsText segments).toList := by
  rw [segmentsText, List.map_cons, String.join_cons, String.toList_append, segmentsText]

@[simp] theorem toList_text_placeholder (name : String) :
    (Segment.placeholder name).text.toList = '$' :: name.toList := by
  rw [Segment.text, String.toList_append]
  rfl

/-! ## Reading -/

section
variable {template : String} {offset : Nat} {isBehind : Bool} {c : Char} {rest cs : List Char}

theorem segmentsFrom_nil : segmentsFrom template offset isBehind [] = .ok [] := by
  rw [segmentsFrom]

/-- A dollar sign opens a placeholder, whose name goes on as long as it can. -/
theorem segmentsFrom_dollar : segmentsFrom template offset isBehind ('$' :: rest) =
    if (rest.takeWhile isPlaceholderChar).isEmpty then .error (.danglingPlaceholder template offset)
    else if isBehind then .error (.adjacentPlaceholders template)
    else
      (segmentsFrom template (offset + 1 + (rest.takeWhile isPlaceholderChar).length) true
        (rest.dropWhile isPlaceholderChar)).map
          (.placeholder (String.ofList (rest.takeWhile isPlaceholderChar)) :: ·) := by
  rw [segmentsFrom]

/-- Any other character opens a text, which goes on to the next dollar sign. -/
theorem segmentsFrom_text (hc : c ≠ '$') : segmentsFrom template offset isBehind (c :: rest) =
    (segmentsFrom template (offset + (String.ofList (c :: rest.takeWhile (· != '$'))).utf8ByteSize) false
      (rest.dropWhile (· != '$'))).map (.literal (String.ofList (c :: rest.takeWhile (· != '$'))) :: ·) := by
  rw [segmentsFrom]
  exact hc

end

/-! ## Neighbours -/

namespace Segment

variable {s : Segment} {segments : List Segment} {name text : String}

/-- A name is read as far as it goes. -/
theorem IsPiece.isPlaceholderChar (h : (placeholder name).IsPiece) :
    ∀ c ∈ name.toList, WikiGateway.isPlaceholderChar c = true :=
  fun c hc => isPlaceholderChar_iff.mpr (h.2 c hc)

/-- A piece that is written down has a first character. -/
theorem IsPiece.exists_head? (h : s.IsPiece) : ∃ c, s.text.toList.head? = some c := by
  cases s with
  | placeholder name => exact ⟨'$', by rw [toList_text_placeholder]; rfl⟩
  | literal text =>
    obtain ⟨c, cs, htext⟩ := List.exists_cons_of_ne_nil (mt String.toList_eq_nil_iff.mp h.1)
    exact ⟨c, by rw [Segment.text, htext]; rfl⟩

/-- The first character of a text is no dollar sign. -/
theorem IsPiece.ne_dollar (h : (literal text).IsPiece) {c : Char} (hc : c ∈ text.toList.head?) : c ≠ '$' :=
  ne_of_mem_of_not_mem (List.mem_of_mem_head? hc) h.2

theorem head?_segmentsText (h : s.IsPiece) :
    (segmentsText (s :: segments)).toList.head? = s.text.toList.head? := by
  obtain ⟨c, hc⟩ := h.exists_head?
  rw [toList_segmentsText_cons, List.head?_append, hc, Option.some_or]

/-- Segments fit behind a placeholder if they are no placeholder in front and do not go on with its name. -/
theorem forall_fits_placeholder_iff (h : IsTemplate segments) :
    (∀ next ∈ segments.head?, (placeholder name).Fits next) ↔
      (∀ next ∈ segments.head?, next.name? = none) ∧
        ∀ c ∈ (segmentsText segments).toList.head?, isPlaceholderChar c = false := by
  cases segments with
  | nil => simp
  | cons next segments =>
    have hpiece := h.pieces next List.mem_cons_self
    rw [head?_segmentsText hpiece, List.head?_cons]
    cases next <;> simp [Fits, name?, text]

/-- Segments fit behind a text if they are written with a dollar sign in front. -/
theorem forall_fits_literal_iff (h : IsTemplate segments) :
    (∀ next ∈ segments.head?, (literal text).Fits next) ↔
      ∀ c ∈ (segmentsText segments).toList.head?, c = '$' := by
  cases segments with
  | nil => simp
  | cons next segments =>
    have hpiece := h.pieces next List.mem_cons_self
    rw [head?_segmentsText hpiece, List.head?_cons]
    cases next with
    | placeholder name =>
      rw [toList_text_placeholder]
      simp [Fits]
    | literal other =>
      obtain ⟨c, hc⟩ := hpiece.exists_head?
      refine iff_of_false (fun hfits => hfits _ rfl) fun hdollar => ?_
      exact hpiece.ne_dollar hc (hdollar c hc)

end Segment

/-! ## What is read -/

/-- What is read of a text is a list of segments that is written as this text. It does not begin with a placeholder if
one ends there. -/
theorem isTemplate_of_segmentsFrom {template : String} {offset : Nat} {isBehind : Bool} {cs : List Char}
    {segments : List Segment} (h : segmentsFrom template offset isBehind cs = .ok segments) :
    (segmentsText segments).toList = cs ∧ IsTemplate segments ∧
      (isBehind = true → ∀ s ∈ segments.head?, s.name? = none) := by
  fun_induction segmentsFrom template offset isBehind cs generalizing segments
  case case1 =>
    cases h
    exact ⟨rfl, ⟨by simp, .nil⟩, by simp⟩
  case case2 => cases h
  case case3 => cases h
  case case4 rest name hname hbehind ih =>
    obtain ⟨segments, hread, rfl⟩ := map_eq_ok_iff.mp h
    obtain ⟨htext, htemplate, hhead⟩ := ih hread
    have hpiece : (Segment.placeholder (String.ofList name)).IsPiece := by
      refine ⟨fun hempty => hname ?_, fun c hc => ?_⟩
      · rw [List.isEmpty_iff, ← String.toList_ofList (l := name), hempty, String.toList_empty]
      · rw [String.toList_ofList] at hc
        exact isNameChar_of_mem_takeWhile hc
    have hfits : ∀ next ∈ segments.head?, (Segment.placeholder (String.ofList name)).Fits next :=
      (Segment.forall_fits_placeholder_iff htemplate).mpr ⟨hhead rfl, htext ▸ head?_dropWhile_eq_false⟩
    refine ⟨?_, isTemplate_cons.mpr ⟨hpiece, hfits, htemplate⟩, fun htrue => absurd htrue hbehind⟩
    rw [toList_segmentsText_cons, toList_text_placeholder, String.toList_ofList, htext, List.cons_append,
      List.takeWhile_append_dropWhile]
  case case5 c rest hc text ih =>
    obtain ⟨segments, hread, rfl⟩ := map_eq_ok_iff.mp h
    obtain ⟨htext, htemplate, -⟩ := ih hread
    have hpiece : (Segment.literal text).IsPiece := by
      refine ⟨fun hempty => ?_, fun hmem => ?_⟩
      · have hnil := congrArg String.toList hempty
        rw [String.toList_ofList] at hnil
        cases hnil
      · rw [String.toList_ofList] at hmem
        rcases List.mem_cons.mp hmem with hfirst | hrest
        · exact hc hfirst.symm
        · simpa using List.mem_takeWhile_imp hrest
    have hfits : ∀ next ∈ segments.head?, (Segment.literal text).Fits next := by
      refine (Segment.forall_fits_literal_iff htemplate).mpr fun d hd => ?_
      rw [htext] at hd
      simpa using head?_dropWhile_eq_false d hd
    refine ⟨?_, isTemplate_cons.mpr ⟨hpiece, hfits, htemplate⟩, by simp [Segment.name?]⟩
    rw [toList_segmentsText_cons, Segment.text, String.toList_ofList, htext, List.cons_append,
      List.takeWhile_append_dropWhile]

/-- What is written is read back: a name goes on to its last character, since none follows that a name may have, and a
text to the next dollar sign. -/
theorem segmentsFrom_segmentsText {template : String} {segments : List Segment} (h : IsTemplate segments) {offset : Nat}
    {isBehind : Bool} (hbehind : isBehind = true → ∀ s ∈ segments.head?, s.name? = none) :
    segmentsFrom template offset isBehind (segmentsText segments).toList = .ok segments := by
  induction segments generalizing offset isBehind with
  | nil => exact segmentsFrom_nil
  | cons s segments ih =>
    obtain ⟨hpiece, hfits, htemplate⟩ := isTemplate_cons.mp h
    rw [toList_segmentsText_cons]
    cases s with
    | placeholder name =>
      obtain ⟨hhead, hend⟩ := (Segment.forall_fits_placeholder_iff htemplate).mp hfits
      obtain ⟨htake, hdrop⟩ := takeWhile_append_of_head? hpiece.isPlaceholderChar hend
      have hname : name.toList.isEmpty = false := by simpa using hpiece.1
      have hfirst : isBehind = false := by
        cases isBehind with
        | false => rfl
        | true => cases hbehind rfl _ rfl
      rw [toList_text_placeholder, List.cons_append, segmentsFrom_dollar, htake, hdrop, hname, hfirst,
        ih htemplate fun _ => hhead]
      simp [Except.map]
    | literal text =>
      obtain ⟨c, cs, htext⟩ := List.exists_cons_of_ne_nil (mt String.toList_eq_nil_iff.mp hpiece.1)
      have hplain : ∀ d ∈ c :: cs, d ≠ '$' := fun d hd => ne_of_mem_of_not_mem (htext ▸ hd) hpiece.2
      obtain ⟨hc, hcs⟩ := List.forall_mem_cons.mp hplain
      have hend := (Segment.forall_fits_literal_iff htemplate).mp hfits
      obtain ⟨htake, hdrop⟩ := takeWhile_append_of_head? (p := (· != '$')) (fun d hd => bne_iff_ne.mpr (hcs d hd))
        fun d hd => bne_eq_false_iff_eq.mpr (hend d hd)
      rw [Segment.text, htext, List.cons_append, segmentsFrom_text hc, htake, hdrop, ih htemplate (by simp), ← htext,
        String.ofList_toList]
      rfl

/-! ## Faults -/

/-- Whether a text ends in a name behind a dollar sign, which may still be empty. -/
def EndsInName (front name : List Char) : Prop :=
  ∃ before, front = before ++ '$' :: name ∧ ∀ c ∈ name, IsNameChar c

/-- Whether a text ends in a placeholder. -/
def EndsInPlaceholder (front : List Char) : Prop := ∃ name, EndsInName front name ∧ name ≠ []

/-- A dollar sign that cannot stand at its position in a template, with the error that it gives. -/
inductive FaultAt (template : String) (i : Nat) : RouteError → Prop
  /-- It is followed by no name. -/
  | dangling : template.toList[i]? = some '$' → (∀ c ∈ template.toList[i + 1]?, ¬ IsNameChar c) →
      FaultAt template i (.danglingPlaceholder template (String.ofList (template.toList.take i)).utf8ByteSize)
  /-- It starts a placeholder right behind another. -/
  | adjacent {c : Char} : template.toList[i]? = some '$' → template.toList[i + 1]? = some c →
      IsNameChar c → EndsInPlaceholder (template.toList.take i) →
      FaultAt template i (.adjacentPlaceholders template)

/-- The error of the leftmost fault of a template. -/
def FirstFault (template : String) (e : RouteError) : Prop :=
  ∃ i, FaultAt template i e ∧ ∀ j < i, ∀ e', ¬ FaultAt template j e'

section
variable {template : String} {i : Nat} {e e' : RouteError}

theorem FaultAt.dollar (h : FaultAt template i e) : template.toList[i]? = some '$' := by
  cases h <;> assumption

/-- A fault between two positions is a dollar sign of what stands there. -/
theorem FaultAt.getElem?_read {front read rest : List Char} (h : FaultAt template i e)
    (hwhole : template.toList = front ++ read ++ rest) (hge : front.length ≤ i) (hlt : i < (front ++ read).length) :
    read[i - front.length]? = some '$' := by
  rw [← List.getElem?_append_right hge, ← List.getElem?_append_left hlt, ← hwhole]
  exact h.dollar

/-- A dollar sign gives one error. -/
theorem FaultAt.unique (h : FaultAt template i e) (h' : FaultAt template i e') : e = e' := by
  cases h with
  | dangling _ hnone =>
    cases h' with
    | dangling => rfl
    | adjacent _ hc hname _ => exact absurd hname (by simp [hnone _ hc])
  | adjacent _ hc hname _ =>
    cases h' with
    | dangling _ hnone => exact absurd hname (by simp [hnone _ hc])
    | adjacent => rfl

theorem FirstFault.unique (h : FirstFault template e) (h' : FirstFault template e') : e = e' := by
  obtain ⟨i, hi, hbefore⟩ := h
  obtain ⟨j, hj, hbefore'⟩ := h'
  rcases Nat.lt_trichotomy i j with hlt | rfl | hlt
  · exact absurd hi (hbefore' i hlt e)
  · exact hi.unique hj
  · exact absurd hj (hbefore j hlt e')

end

/-! ## The front of a template -/

/-- A front of a template that has been read without a fault, with what is left; `isBehind` says that it ends in a
placeholder. -/
structure Reached (template : String) (front rest : List Char) (isBehind : Bool) : Prop where
  whole : template.toList = front ++ rest
  behind : isBehind = true ↔ EndsInPlaceholder front
  /-- A name at the end is complete. -/
  complete : ∀ name, EndsInName front name → name ≠ [] ∧ ∀ c ∈ rest.head?, isPlaceholderChar c = false
  faultless : ∀ i < front.length, ∀ e, ¬ FaultAt template i e

/-- The name at the end of a text is what stands behind its last dollar sign. -/
theorem EndsInName.eq {front behind name : List Char} (hbehind : '$' ∉ behind)
    (h : EndsInName (front ++ '$' :: behind) name) : name = behind := by
  obtain ⟨before, heq, hname⟩ := h
  have hdollar : '$' ∉ name := fun hmem => absurd (hname _ hmem) (by decide)
  rcases List.append_eq_append_iff.mp heq with ⟨as, -, has⟩ | ⟨bs, -, hbs⟩
  · cases as with
    | nil => exact (List.cons.inj has).2.symm
    | cons c as => exact absurd ((List.cons.inj has).2 ▸ by simp) hbehind
  · cases bs with
    | nil => exact (List.cons.inj hbs).2
    | cons c bs => exact absurd ((List.cons.inj hbs).2 ▸ by simp) hdollar

/-- A text without dollar signs continues the name that stands before it. -/
theorem EndsInName.of_append {front text name : List Char} (h : '$' ∉ text) (hends : EndsInName (front ++ text) name) :
    ∃ name', EndsInName front name' ∧ name = name' ++ text := by
  obtain ⟨before, heq, hname⟩ := hends
  rcases List.append_eq_append_iff.mp heq with ⟨as, -, has⟩ | ⟨bs, hfront, hbs⟩
  · exact absurd (has ▸ by simp) h
  · cases bs with
    | nil =>
      rw [List.nil_append] at hbs
      exact absurd (hbs ▸ List.mem_cons_self) h
    | cons c bs =>
      obtain ⟨rfl, rfl⟩ := List.cons.inj hbs
      exact ⟨bs, ⟨before, hfront, fun c hc => hname c (List.mem_append_left _ hc)⟩, rfl⟩

namespace Reached

variable {template : String} {front rest : List Char} {isBehind : Bool} {c : Char}

theorem start (template : String) : Reached template [] template.toList false := by
  have hnone : ∀ name, ¬ EndsInName [] name := by
    rintro name ⟨before, hnil, -⟩
    simp at hnil
  refine ⟨rfl, ?_, fun name hname => absurd hname (hnone name), by simp⟩
  simp [EndsInPlaceholder, hnone]

/-- A text is read without a fault. -/
theorem text (h : Reached template front (c :: rest) isBehind) (hc : c ≠ '$') :
    Reached template (front ++ c :: rest.takeWhile (· != '$')) (rest.dropWhile (· != '$')) false := by
  have hplain : '$' ∉ c :: rest.takeWhile (· != '$') := by
    intro hmem
    rcases List.mem_cons.mp hmem with hfirst | hrest
    · exact hc hfirst.symm
    · simpa using List.mem_takeWhile_imp hrest
  -- a name at the end would go on with the first character of the text
  have hnone : ∀ name, ¬ EndsInName (front ++ c :: rest.takeWhile (· != '$')) name := by
    intro name hname
    obtain ⟨before, -, hchars⟩ := id hname
    obtain ⟨name', hends, rfl⟩ := hname.of_append hplain
    have hc := (h.complete name' hends).2 c rfl
    exact absurd (hchars c (by simp)) (isPlaceholderChar_eq_false_iff.mp hc)
  have hwhole : template.toList =
      front ++ c :: rest.takeWhile (· != '$') ++ rest.dropWhile (· != '$') := by
    rw [h.whole, List.append_assoc, List.cons_append, List.takeWhile_append_dropWhile]
  refine ⟨hwhole, ?_, fun name hname => absurd hname (hnone name), fun i hi e hfault => ?_⟩
  · simp [EndsInPlaceholder, hnone]
  · rcases Nat.lt_or_ge i front.length with hlt | hge
    · exact h.faultless i hlt e hfault
    · exact hplain (List.mem_of_getElem? (hfault.getElem?_read hwhole hge hi))

/-- The dollar sign that comes next is followed by the first character of what is left. -/
theorem getElem?_next (h : Reached template front ('$' :: rest) isBehind) :
    template.toList[front.length]? = some '$' ∧ template.toList[front.length + 1]? = rest.head? ∧
      template.toList.take front.length = front := by
  rw [h.whole]
  simp [List.getElem?_append_right, List.head?_eq_getElem?]

/-- A dollar sign with a name that is not right behind a placeholder is no fault. -/
theorem not_faultAt (h : Reached template front ('$' :: rest) false) (hname : rest.takeWhile isPlaceholderChar ≠ [])
    (e : RouteError) : ¬ FaultAt template front.length e := by
  obtain ⟨-, hnext, hfront⟩ := h.getElem?_next
  rintro (⟨-, hnone⟩ | ⟨-, -, -, hbehind⟩)
  · cases rest with
    | nil => exact hname rfl
    | cons c rest =>
      rw [hnext] at hnone
      have hc := isPlaceholderChar_eq_false_iff.mpr (hnone c rfl)
      rw [List.takeWhile_cons_of_neg (by simp [hc])] at hname
      exact hname rfl
  · rw [hfront] at hbehind
    cases h.behind.mpr hbehind

/-- A placeholder that is not right behind another is read without a fault. -/
theorem placeholder (h : Reached template front ('$' :: rest) false) (hname : rest.takeWhile isPlaceholderChar ≠ []) :
    Reached template (front ++ '$' :: rest.takeWhile isPlaceholderChar) (rest.dropWhile isPlaceholderChar) true := by
  have hchars : ∀ c ∈ rest.takeWhile isPlaceholderChar, IsNameChar c := fun c hc => isNameChar_of_mem_takeWhile hc
  have hdollar : '$' ∉ rest.takeWhile isPlaceholderChar := fun hmem => absurd (hchars _ hmem) (by decide)
  have hends : EndsInName (front ++ '$' :: rest.takeWhile isPlaceholderChar) (rest.takeWhile isPlaceholderChar) :=
    ⟨front, rfl, hchars⟩
  have hwhole : template.toList =
      front ++ '$' :: rest.takeWhile isPlaceholderChar ++ rest.dropWhile isPlaceholderChar := by
    rw [h.whole, List.append_assoc, List.cons_append, List.takeWhile_append_dropWhile]
  refine ⟨hwhole, ?_, ?_, fun i hi e hfault => ?_⟩
  · exact iff_of_true rfl ⟨_, hends, hname⟩
  · intro name hother
    rw [hother.eq hdollar]
    exact ⟨hname, head?_dropWhile_eq_false⟩
  · rcases Nat.lt_or_ge i front.length with hlt | hge
    · exact h.faultless i hlt e hfault
    · have hread := hfault.getElem?_read hwhole hge hi
      cases hpos : i - front.length with
      | succ k =>
        rw [hpos, List.getElem?_cons_succ] at hread
        exact hdollar (List.mem_of_getElem? hread)
      | zero =>
        obtain rfl : i = front.length := by omega
        exact h.not_faultAt hname e hfault

/-- A dollar sign without a name ends the reading. -/
theorem dangling (h : Reached template front ('$' :: rest) isBehind) (hname : rest.takeWhile isPlaceholderChar = []) :
    FirstFault template (.danglingPlaceholder template (String.ofList front).utf8ByteSize) := by
  obtain ⟨hdollar, hnext, hfront⟩ := h.getElem?_next
  have hfault := FaultAt.dangling hdollar fun c hc => by
    rw [hnext] at hc
    obtain ⟨rest, rfl⟩ := List.head?_eq_some_iff.mp hc
    simpa [List.takeWhile_cons] using hname
  rw [hfront] at hfault
  exact ⟨front.length, hfault, h.faultless⟩

/-- A placeholder right behind another ends the reading. -/
theorem adjacent (h : Reached template front ('$' :: rest) true) (hname : rest.takeWhile isPlaceholderChar ≠ []) :
    FirstFault template (.adjacentPlaceholders template) := by
  obtain ⟨hdollar, hnext, hfront⟩ := h.getElem?_next
  cases rest with
  | nil => exact absurd rfl hname
  | cons c rest =>
    have hc : IsNameChar c := by
      by_contra hc
      simp [hc] at hname
    exact ⟨front.length, .adjacent hdollar hnext hc (hfront.symm ▸ h.behind.mp rfl), h.faultless⟩

end Reached

/-- Characters of names are single bytes. -/
theorem utf8Size_of_isPlaceholderChar {c : Char} (h : isPlaceholderChar c = true) : c.utf8Size = 1 := by
  rw [isPlaceholderChar, Bool.or_eq_true, beq_iff_eq] at h
  have hascii : c.toNat < 128 := by
    rcases h with h | rfl
    · exact Text.toNat_lt_of_isAlphanum h
    · decide
  rw [Char.utf8Size_eq_one_iff, UInt32.le_iff_toNat_le]
  exact Nat.le_of_lt_succ hascii

theorem utf8ByteSize_of_name {name : List Char} (h : ∀ c ∈ name, isPlaceholderChar c = true) :
    (String.ofList name).utf8ByteSize = name.length := by
  induction name with
  | nil => rfl
  | cons c name ih =>
    obtain ⟨hc, hname⟩ := List.forall_mem_cons.mp h
    rw [String.ofList_cons, String.utf8ByteSize_append, String.utf8ByteSize_singleton, ih hname,
      utf8Size_of_isPlaceholderChar hc, List.length_cons, Nat.add_comm]

/-- Reading goes on to the end of a template without faults, or else gives the error of the leftmost one. -/
theorem segmentsFrom_outcome {template : String} {front rest : List Char} {isBehind : Bool}
    (h : Reached template front rest isBehind) {offset : Nat} (hoffset : (String.ofList front).utf8ByteSize = offset) :
    (∀ segments, segmentsFrom template offset isBehind rest = .ok segments → ∀ i e, ¬ FaultAt template i e) ∧
    ∀ e, segmentsFrom template offset isBehind rest = .error e → FirstFault template e := by
  fun_induction segmentsFrom template offset isBehind rest generalizing front
  case case1 =>
    refine ⟨fun segments _ i e hfault => ?_, nofun⟩
    have hlt := (List.getElem?_eq_some_iff.mp hfault.dollar).1
    rw [h.whole, List.append_nil] at hlt
    exact h.faultless i hlt e hfault
  case case2 rest name hname =>
    refine ⟨nofun, fun e he => ?_⟩
    cases he
    exact hoffset ▸ h.dangling (List.isEmpty_iff.mp hname)
  case case3 rest name hname =>
    refine ⟨nofun, fun e he => ?_⟩
    cases he
    exact h.adjacent (mt List.isEmpty_iff.mpr hname)
  case case4 rest name hname hbehind ih =>
    rw [Bool.not_eq_true] at hbehind
    subst hbehind
    have hsize : (String.ofList (front ++ '$' :: name)).utf8ByteSize =
        (String.ofList front).utf8ByteSize + 1 + name.length := by
      rw [String.ofList_append, String.utf8ByteSize_append, String.ofList_cons, String.utf8ByteSize_append,
        String.utf8ByteSize_singleton, utf8ByteSize_of_name fun c hc => List.mem_takeWhile_imp hc, Nat.add_assoc]
      rfl
    obtain ⟨hok, herror⟩ := ih (h.placeholder (mt List.isEmpty_iff.mpr hname)) (hoffset ▸ hsize)
    refine ⟨fun segments hread => ?_, fun e hread => herror e (map_eq_error_iff.mp hread)⟩
    obtain ⟨segments, hread, -⟩ := map_eq_ok_iff.mp hread
    exact hok segments hread
  case case5 c rest hc text ih =>
    have hsize : (String.ofList (front ++ c :: rest.takeWhile (· != '$'))).utf8ByteSize =
        (String.ofList front).utf8ByteSize + text.utf8ByteSize := by
      rw [String.ofList_append, String.utf8ByteSize_append]
    obtain ⟨hok, herror⟩ := ih (h.text hc) (hoffset ▸ hsize)
    refine ⟨fun segments hread => ?_, fun e hread => herror e (map_eq_error_iff.mp hread)⟩
    obtain ⟨segments, hread, -⟩ := map_eq_ok_iff.mp hread
    exact hok segments hread

/-- **Templates and their segments.** Exactly the lists of segments that a template can have are read of the text that
they are written as. A template that is not read has a dollar sign that cannot stand where it does, and the leftmost one
gives the error. -/
theorem parseSegments_exact (template : String) :
    (∀ segments, parseSegments template = .ok segments ↔ segmentsText segments = template ∧ IsTemplate segments) ∧
    ∀ e, parseSegments template = .error e ↔ FirstFault template e := by
  have hempty : (String.ofList []).utf8ByteSize = 0 := rfl
  obtain ⟨hok, herror⟩ := segmentsFrom_outcome (Reached.start template) hempty
  constructor
  · intro segments
    constructor
    · intro h
      obtain ⟨htext, htemplate, -⟩ := isTemplate_of_segmentsFrom h
      exact ⟨String.toList_inj.mp htext, htemplate⟩
    · rintro ⟨rfl, htemplate⟩
      exact segmentsFrom_segmentsText htemplate (by simp)
  · intro e
    refine ⟨herror e, fun hfirst => ?_⟩
    cases hparse : parseSegments template with
    | ok segments =>
      obtain ⟨i, hfault, -⟩ := hfirst
      exact absurd hfault (hok segments hparse i e)
    | error e' => rw [(herror e' hparse).unique hfirst]

/-- A template with two placeholders, where the dot ends the first name, and one whose dollar sign is followed by no
name, behind a letter of two bytes. -/
theorem parseSegments_exact_names :
    parseSegments "/$user_1.é$2" =
      .ok [.literal "/", .placeholder "user_1", .literal ".é", .placeholder "2"] ∧
    parseSegments "é$/" = .error (.danglingPlaceholder "é$/" 2) := by
  refine ⟨((parseSegments_exact _).1 _).mpr ⟨by decide +kernel, by decide +kernel⟩,
    ((parseSegments_exact _).2 _).mpr ?_⟩
  have hfault : FaultAt "é$/" 1 (.danglingPlaceholder "é$/" 2) := by
    refine .dangling (by decide +kernel) ?_
    rintro _ ⟨⟩
    decide
  refine ⟨1, hfault, fun j hj e he => ?_⟩
  obtain rfl : j = 0 := by omega
  have hdollar := he.dollar
  revert hdollar
  decide +kernel

end WikiGateway
