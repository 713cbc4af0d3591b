import WikiGateway.Proofs.Pattern.Readers

/-!
# Classes before a closing bracket

Escapes and classes in front of the closing bracket of a group are read alike without the bracket, if it is left when
they are read. Whether a bracket is there decides about one escape alone: the boundary of a word in front of a brace,
where a name or bounds may follow.

* `escape?_cut`, `setRange?_cut`, `class?_cut`: escapes, items and classes without the bracket.
* `classToken?`, `classBody?_succ`: one step through a class.
-/

namespace WikiGateway.Pattern

variable {flags : Flags} {cs rest tail : List Char}

/-- What is left of a text behind a bracket does not have the bracket. -/
theorem not_suffix_of_suffix (h : rest <:+ tail) : ¬ ')' :: tail <:+ rest := by
  intro hbracket
  have hlength := (hbracket.trans h).length_le
  rw [List.length_cons] at hlength
  omega

theorem exists_append_of_suffix (h : rest <:+ cs) : ∃ text, cs = text ++ rest :=
  h.imp fun _ => Eq.symm

/-! ## Escapes -/

/-- A boundary leaves what stands behind its name. -/
theorem boundaryEscape?_suffix {a : Assertion} (h : boundaryEscape? flags cs = some (a, rest)) : rest <:+ cs := by
  by_cases hbrace : cs.head? = some '\x7b'
  · obtain ⟨text, rfl⟩ := List.head?_eq_some_iff.mp hbrace
    cases hskip : skip flags text with
    | nil =>
      rw [boundaryEscape?, hskip] at h
      cases h
    | cons c more =>
      rw [boundaryEscape?_brace hskip] at h
      split at h
      · have hname := (delimits_namedBoundary? flags).suffix h
        exact (hname.trans (hskip ▸ skip_suffix flags text)).trans (List.suffix_cons _ _)
      · cases h
        exact List.suffix_refl _
  · rw [boundaryEscape?_unnamed hbrace] at h
    cases h
    exact List.suffix_refl _

/-- A boundary before a bracket is read alike without the bracket, but if its name would have to follow. -/
theorem boundaryEscape?_cut {a : Assertion}
    (h : boundaryEscape? flags (cs ++ ')' :: tail) = some (a, rest ++ ')' :: tail)) :
    boundaryEscape? flags cs = some (a, rest) ∨ ∃ text, rest = '\x7b' :: text ∧ skip flags text = [] := by
  by_cases hbrace : cs.head? = some '\x7b'
  · obtain ⟨text, rfl⟩ := List.head?_eq_some_iff.mp hbrace
    cases hskip : skip flags (text ++ ')' :: tail) with
    | nil =>
      rw [List.cons_append, boundaryEscape?, hskip] at h
      cases h
    | cons c more =>
      rw [List.cons_append, boundaryEscape?_brace hskip] at h
      split at h
      next hc =>
        -- the name is read up to its end in front of the bracket
        have hbracket := (List.suffix_append rest _).trans ((delimits_namedBoundary? flags).suffix h)
        have hfront := skip_append (hskip ▸ hbracket)
        rw [hskip] at hfront
        cases htext : skip flags text with
        | nil =>
          rw [htext, List.nil_append] at hfront
          rw [(List.cons.inj hfront).1] at hc
          cases hc
        | cons d more' =>
          rw [htext, List.cons_append] at hfront
          obtain ⟨rfl, rfl⟩ := List.cons.inj hfront
          rw [boundaryEscape?_brace htext, if_pos hc]
          have hname : namedBoundary? flags ((c :: more') ++ ')' :: tail) = some (a, rest ++ ')' :: tail) := h
          exact .inl ((delimits_namedBoundary? flags).cut hname)
      next hc =>
        obtain ⟨rfl, hrest⟩ := Prod.mk.inj (Option.some.inj h)
        rw [← List.cons_append] at hrest
        obtain rfl := List.append_cancel_right hrest
        cases htext : skip flags text with
        | nil => exact .inr ⟨text, rfl, htext⟩
        | cons d more' =>
          obtain ⟨blanks, rfl, -, hafter⟩ := skip_cons htext
          rw [List.append_assoc, List.cons_append, hafter] at hskip
          rw [boundaryEscape?_brace htext, (List.cons.inj hskip).1, if_neg hc]
          exact .inl rfl
  · have hother : (cs ++ ')' :: tail).head? ≠ some '\x7b' := by
      cases cs with
      | nil => simp
      | cons c cs => exact hbrace
    rw [boundaryEscape?_unnamed hother] at h
    obtain ⟨rfl, hrest⟩ := Prod.mk.inj (Option.some.inj h)
    rw [boundaryEscape?_unnamed hbrace, List.append_cancel_right hrest]
    exact .inl rfl

/-- What an escape is read as hangs on its first character, and on more only for numbers, properties and boundaries. -/
theorem escape?_cases (flags : Flags) (c : Char) :
    (∃ p? : Option Primitive, ∀ text, escape? flags (c :: text) = p?.map fun p => (p, text)) ∨
    (∃ count, 0 < count ∧ ∀ text, escape? flags (c :: text) =
      (hexEscape? flags count text).map fun (c, rest) => (.char c, rest)) ∨
    (∃ isNegated, ∀ text, escape? flags (c :: text) =
      (propertyEscape? flags isNegated text).map fun (s, rest) => (.set s, rest)) ∨
    ∀ text, escape? flags (c :: text) = (boundaryEscape? flags text).map fun (a, rest) => (.assert a, rest) := by
  by_cases hx : c = 'x'
  · exact .inr (.inl ⟨2, by decide, fun text => by rw [hx, escape?]⟩)
  by_cases hu : c = 'u'
  · exact .inr (.inl ⟨4, by decide, fun text => by rw [hu, escape?]⟩)
  by_cases hU : c = 'U'
  · exact .inr (.inl ⟨8, by decide, fun text => by rw [hU, escape?]⟩)
  by_cases hp : c = 'p'
  · exact .inr (.inr (.inl ⟨false, fun text => by rw [hp, escape?]⟩))
  by_cases hP : c = 'P'
  · exact .inr (.inr (.inl ⟨true, fun text => by rw [hP, escape?]⟩))
  by_cases hb : c = 'b'
  · exact .inr (.inr (.inr fun text => by rw [hb, escape?]))
  refine .inl ⟨(escape? flags [c]).map Prod.fst, fun text => ?_⟩
  unfold escape?
  dsimp only
  split <;> simp_all

theorem escape?_suffix {c : Char} {p : Primitive} (h : escape? flags (c :: cs) = some (p, rest)) : rest <:+ cs := by
  rcases escape?_cases flags c with ⟨p?, hread⟩ | ⟨count, hcount, hread⟩ | ⟨isNegated, hread⟩ | hread
  · rw [hread] at h
    obtain ⟨_, -, heq⟩ := Option.map_eq_some_iff.mp h
    cases heq
    exact List.suffix_refl cs
  · rw [hread] at h
    exact ((delimits_hexEscape? flags hcount).map Primitive.char).suffix h
  · rw [hread] at h
    exact ((delimits_propertyEscape? flags isNegated).map Primitive.set).suffix h
  · rw [hread] at h
    obtain ⟨_, hboundary, heq⟩ := Option.map_eq_some_iff.mp h
    cases heq
    exact boundaryEscape?_suffix hboundary

/-- An escape before a bracket is read alike without the bracket, but for a boundary whose name would have to follow. -/
theorem escape?_cut {c : Char} {p : Primitive}
    (h : escape? flags (c :: (cs ++ ')' :: tail)) = some (p, rest ++ ')' :: tail)) :
    escape? flags (c :: cs) = some (p, rest) ∨
      ∃ a text, p = .assert a ∧ rest = '\x7b' :: text ∧ skip flags text = [] := by
  rcases escape?_cases flags c with ⟨p?, hread⟩ | ⟨count, hcount, hread⟩ | ⟨isNegated, hread⟩ | hread
  · rw [hread] at h ⊢
    obtain ⟨_, hp, heq⟩ := Option.map_eq_some_iff.mp h
    obtain ⟨rfl, hrest⟩ := Prod.mk.inj heq
    rw [hp, List.append_cancel_right hrest]
    exact .inl rfl
  · rw [hread] at h ⊢
    exact .inl (((delimits_hexEscape? flags hcount).map Primitive.char).cut h)
  · rw [hread] at h ⊢
    exact .inl (((delimits_propertyEscape? flags isNegated).map Primitive.set).cut h)
  · rw [hread] at h ⊢
    obtain ⟨⟨a, _⟩, hboundary, heq⟩ := Option.map_eq_some_iff.mp h
    cases heq
    rcases boundaryEscape?_cut hboundary with hcut | ⟨text, hrest, hskip⟩
    · exact .inl (by rw [hcut, Option.map_some])
    · exact .inr ⟨a, text, rfl, hrest, hskip⟩

/-! ## Classes -/

theorem setPrimitive?_suffix {p : Primitive} (h : setPrimitive? flags cs = some (p, rest)) :
    ∃ c text, cs = c :: text ∧ rest <:+ text := by
  cases cs with
  | nil => cases h
  | cons c cs =>
    refine ⟨c, cs, rfl, ?_⟩
    by_cases hc : c = '\\'
    · subst hc
      cases cs with
      | nil => cases h
      | cons d cs => exact (escape?_suffix h).trans (List.suffix_cons d cs)
    · rw [setPrimitive?] at h
      · cases h
        exact List.suffix_refl _
      · exact hc

/-- A primitive before a bracket is read alike without the bracket, if it is no assertion. -/
theorem setPrimitive?_cut {p : Primitive}
    (h : setPrimitive? flags (cs ++ ')' :: tail) = some (p, rest ++ ')' :: tail)) :
    setPrimitive? flags cs = some (p, rest) ∨ ∃ a, p = .assert a := by
  cases cs with
  | nil =>
    obtain ⟨_, hrest⟩ := Prod.mk.inj (Option.some.inj h)
    have hsuffix : rest ++ ')' :: tail <:+ tail := hrest ▸ List.suffix_refl tail
    exact absurd (List.suffix_append rest _) (not_suffix_of_suffix hsuffix)
  | cons c cs =>
    by_cases hc : c = '\\'
    · subst hc
      cases cs with
      | nil =>
        have hsuffix : rest ++ ')' :: tail <:+ tail :=
          escape?_suffix (show escape? flags (')' :: tail) = some (p, rest ++ ')' :: tail) from h)
        exact absurd (List.suffix_append rest _) (not_suffix_of_suffix hsuffix)
      | cons d cs =>
        rcases escape?_cut h with hread | ⟨a, -, rfl, -⟩
        · exact .inl hread
        · exact .inr ⟨a, rfl⟩
    · rw [List.cons_append, setPrimitive?] at h
      · obtain ⟨rfl, hrest⟩ := Prod.mk.inj (Option.some.inj h)
        rw [setPrimitive?, List.append_cancel_right hrest]
        · exact .inl rfl
        · exact hc
      · exact hc

/-- A hyphen in front of such a text stands for itself: a bracket or another hyphen follows. -/
def ClosesRange (flags : Flags) (cs : List Char) : Prop :=
  (skip flags cs).head? = some ']' ∨ (skip flags cs).head? = some '-'

/-- A range between two characters, where the second one has been read. -/
def charRange? (flags : Flags) (first : Primitive) (second? : Option (Primitive × List Char)) :
    Option (CharSet × List Char) :=
  match first, second? with
  | .char a, some (.char b, rest) =>
    if b.toNat < a.toNat || (!flags.unicode && 0x80 ≤ b.toNat) then none
    else some (.range a.toNat b.toNat, rest)
  | _, _ => none

theorem charRange?_eq_some {first : Primitive} {second? : Option (Primitive × List Char)} {s : CharSet}
    (h : charRange? flags first second? = some (s, rest)) : ∃ a b, first = .char a ∧ second? = some (.char b, rest) ∧
      ∀ rest', charRange? flags first (some (.char b, rest')) = some (s, rest') := by
  unfold charRange? at h ⊢
  split at h
  next a b more =>
    split at h
    · cases h
    next hrange =>
      cases h
      exact ⟨a, b, rfl, rfl, fun rest' => if_neg hrange⟩
  next => cases h

section
variable {first : Primitive} {more text : List Char} (hfirst : setPrimitive? flags cs = some (first, more))
include hfirst

/-- An item of a class alone. -/
theorem setRange?_alone (hne : skip flags more ≠ [])
    (h : ∀ text, skip flags more = '-' :: text → ClosesRange flags text) :
    setRange? flags cs = (itemSet? flags first).map fun s => (s, skip flags more) := by
  rw [setRange?, hfirst]
  dsimp only
  cases hmore : skip flags more with
  | nil => exact absurd hmore hne
  | cons c text =>
    by_cases hc : c = '-'
    · subst hc
      rcases h text hmore with hclose | hclose
      · obtain ⟨_, htext⟩ := List.head?_eq_some_iff.mp hclose
        simp only [htext]
      · obtain ⟨_, htext⟩ := List.head?_eq_some_iff.mp hclose
        simp only [htext]
    · split
      next heq => cases heq
      next heq => exact absurd (List.cons.inj heq).1 hc
      next => rfl

/-- A range between characters. -/
theorem setRange?_range (hmore : skip flags more = '-' :: text) (h : ¬ ClosesRange flags text) :
    setRange? flags cs = charRange? flags first (setPrimitive? flags (skip flags text)) := by
  rw [setRange?, hfirst]
  dsimp only
  rw [hmore]
  cases htext : skip flags text with
  | nil =>
    simp only [htext]
    cases first <;> rfl
  | cons c more =>
    have hbracket : c ≠ ']' := fun hc => h (.inl (by rw [htext, hc]; rfl))
    have hhyphen : c ≠ '-' := fun hc => h (.inr (by rw [htext, hc]; rfl))
    simp only [htext]
    split
    next heq => cases heq
    next heq => exact absurd (List.cons.inj heq).1 hbracket
    next heq => exact absurd (List.cons.inj heq).1 hhyphen
    next => rfl

theorem setRange?_none (h : skip flags more = []) : setRange? flags cs = none := by
  rw [setRange?, hfirst]
  dsimp only
  rw [h]

end

theorem setRange?_suffix {s : CharSet} (h : setRange? flags cs = some (s, rest)) :
    ∃ first more, setPrimitive? flags cs = some (first, more) ∧ rest <:+ skip flags more := by
  cases hfirst : setPrimitive? flags cs with
  | none =>
    rw [setRange?, hfirst] at h
    cases h
  | some read =>
    obtain ⟨first, more⟩ := read
    refine ⟨first, more, rfl, ?_⟩
    by_cases hnil : skip flags more = []
    · rw [setRange?_none hfirst hnil] at h
      cases h
    by_cases hopen : ∃ text, skip flags more = '-' :: text ∧ ¬ ClosesRange flags text
    · obtain ⟨text, hmore, hopen⟩ := hopen
      rw [setRange?_range hfirst hmore hopen] at h
      obtain ⟨_, _, -, hsecond, -⟩ := charRange?_eq_some h
      obtain ⟨c, text', htext, hsuffix⟩ := setPrimitive?_suffix hsecond
      have hback : c :: text' <:+ '-' :: text := htext ▸ (skip_suffix flags text).trans (List.suffix_cons '-' text)
      rw [hmore]
      exact hsuffix.trans ((List.suffix_cons c text').trans hback)
    · rw [setRange?_alone hfirst hnil fun text hmore => by_contra fun hno => hopen ⟨text, hmore, hno⟩] at h
      obtain ⟨_, -, heq⟩ := Option.map_eq_some_iff.mp h
      cases heq
      exact List.suffix_refl _

/-- The first character does not hang on a bracket behind. -/
theorem head?_append_of_ne {c : Char} (hc : c ≠ ')') : (cs ++ ')' :: tail).head? = some c ↔ cs.head? = some c := by
  cases cs with
  | nil => simp [hc.symm]
  | cons d cs => simp

/-- An item before a bracket is read alike without the bracket, if something of the class follows, and behind a hyphen
more of it. -/
theorem setRange?_cut {s : CharSet} (h : setRange? flags (cs ++ ')' :: tail) = some (s, rest ++ ')' :: tail))
    (hne : rest ≠ []) (hhyphen : ∀ text, rest = '-' :: text → ')' :: tail <:+ skip flags (text ++ ')' :: tail)) :
    setRange? flags cs = some (s, rest) := by
  obtain ⟨first, more, hfirst, hsuffix⟩ := setRange?_suffix h
  obtain ⟨more, rfl⟩ : ∃ text, more = text ++ ')' :: tail := by
    obtain ⟨text, htext⟩ := (List.suffix_append rest _).trans (hsuffix.trans (skip_suffix flags more))
    exact ⟨text, htext.symm⟩
  have hskip := skip_append ((List.suffix_append rest _).trans hsuffix)
  have hnil : skip flags (more ++ ')' :: tail) ≠ [] := by simp [hskip]
  by_cases hopen : ∃ text, skip flags (more ++ ')' :: tail) = '-' :: text ∧ ¬ ClosesRange flags text
  · obtain ⟨text, hmore, hopen⟩ := hopen
    rw [setRange?_range hfirst hmore hopen] at h
    obtain ⟨a, b, rfl, hsecond, hrange⟩ := charRange?_eq_some h
    have hfirst := (setPrimitive?_cut hfirst).resolve_right fun ⟨_, ha⟩ => Primitive.noConfusion ha
    -- the hyphen stands before the bracket, and so does all that is read behind it
    rw [hskip] at hmore
    cases hmid : skip flags more with
    | nil =>
      rw [hmid] at hmore
      exact absurd (List.cons.inj hmore).1 (by decide)
    | cons c mid =>
      rw [hmid, List.cons_append] at hmore
      obtain ⟨rfl, rfl⟩ := List.cons.inj hmore
      obtain ⟨_, _, htext, hread⟩ := setPrimitive?_suffix hsecond
      have hskip := skip_append ((List.suffix_append rest _).trans (hread.trans (htext ▸ List.suffix_cons _ _)))
      rw [hskip] at hsecond
      have hsecond := (setPrimitive?_cut hsecond).resolve_right fun ⟨_, hb⟩ => Primitive.noConfusion hb
      have hopen : ¬ ClosesRange flags mid := fun hclose => hopen (by
        unfold ClosesRange at hclose ⊢
        rwa [hskip, head?_append_of_ne (by decide), head?_append_of_ne (by decide)])
      rw [setRange?_range hfirst hmid hopen, hsecond]
      exact hrange rest
  · rw [setRange?_alone hfirst hnil fun text hmore => by_contra fun hno => hopen ⟨text, hmore, hno⟩] at h
    obtain ⟨s, hset, heq⟩ := Option.map_eq_some_iff.mp h
    obtain ⟨rfl, hrest⟩ := Prod.mk.inj heq
    obtain rfl := List.append_cancel_right (hskip.symm.trans hrest)
    have hfirst := (setPrimitive?_cut hfirst).resolve_right fun ⟨_, ha⟩ => by
      rw [ha] at hset
      cases hset
    rw [setRange?_alone hfirst hne, hset, Option.map_some]
    intro text htext
    by_contra hno
    refine hopen ⟨text ++ ')' :: tail, by rw [hskip, htext, List.cons_append], fun hclose => hno ?_⟩
    unfold ClosesRange at hclose ⊢
    rwa [skip_append (hhyphen text htext), head?_append_of_ne (by decide), head?_append_of_ne (by decide)] at hclose

/-! ### The start of a class -/

theorem leadingHyphens_suffix (flags : Flags) (items : SetItems) (cs : List Char) (fuel : Nat) :
    (leadingHyphens flags items cs fuel).2 <:+ cs := by
  induction fuel generalizing items cs with
  | zero => exact List.suffix_refl cs
  | succ fuel ih =>
    unfold leadingHyphens
    split
    next text => exact (ih _ _).trans ((skip_suffix flags text).trans (List.suffix_cons '-' text))
    next => exact List.suffix_refl cs

theorem leadingHyphens_cut {items items' : SetItems} {fuel fuel' : Nat} (hfuel : cs.length < fuel)
    (hfuel' : cs.length < fuel')
    (h : leadingHyphens flags items (cs ++ ')' :: tail) fuel = (items', rest ++ ')' :: tail)) :
    leadingHyphens flags items cs fuel' = (items', rest) := by
  induction fuel generalizing items cs fuel' with
  | zero => exact absurd hfuel (Nat.not_lt_zero _)
  | succ fuel ih =>
    cases fuel' with
    | zero => exact absurd hfuel' (Nat.not_lt_zero _)
    | succ fuel' =>
      by_cases hhyphen : cs.head? = some '-'
      · obtain ⟨text, rfl⟩ := List.head?_eq_some_iff.mp hhyphen
        rw [List.cons_append, leadingHyphens] at h
        rw [leadingHyphens]
        have hsuffix := leadingHyphens_suffix flags (items.add (.single '-') 0) (skip flags (text ++ ')' :: tail)) fuel
        rw [h] at hsuffix
        have hskip := skip_append ((List.suffix_append rest _).trans hsuffix)
        have hlength := (skip_suffix flags text).length_le
        rw [List.length_cons] at hfuel hfuel'
        rw [hskip] at h
        exact ih (by omega) (by omega) h
      · have hother : ∀ {text : List Char} {fuel : Nat}, text.head? ≠ some '-' →
            leadingHyphens flags items text (fuel + 1) = (items, text) := by
          intro text fuel hne
          unfold leadingHyphens
          split
          next => simp at hne
          next => rfl
        rw [hother (by rwa [ne_eq, head?_append_of_ne (by decide)])] at h
        obtain ⟨rfl, hrest⟩ := Prod.mk.inj h
        rw [hother hhyphen, List.append_cancel_right hrest]

/-- Whether a class is negated, and what follows the mark of it. -/
def takeCaret (flags : Flags) (cs : List Char) : Bool × List Char :=
  match skip flags cs with
  | '^' :: rest => (true, skip flags rest)
  | cs => (false, cs)

theorem takeCaret_caret {text : List Char} (h : skip flags cs = '^' :: text) :
    takeCaret flags cs = (true, skip flags text) := by
  simp only [takeCaret, h]

theorem takeCaret_other (h : (skip flags cs).head? ≠ some '^') : takeCaret flags cs = (false, skip flags cs) := by
  unfold takeCaret
  split
  next hskip => simp [hskip] at h
  next => rfl

/-- A closing bracket that stands for itself at the start of a class. -/
def takeBracket (flags : Flags) (items : SetItems) (cs : List Char) : SetItems × List Char :=
  match items.count, cs with
  | 0, ']' :: rest => (items.add (.single ']') 0, skip flags rest)
  | _, _ => (items, cs)

theorem takeBracket_bracket {items : SetItems} (h : items.count = 0) (cs : List Char) :
    takeBracket flags items (']' :: cs) = (items.add (.single ']') 0, skip flags cs) := by
  simp only [takeBracket, h]

theorem takeBracket_other {items : SetItems} (h : items.count = 0 → cs.head? ≠ some ']') :
    takeBracket flags items cs = (items, cs) := by
  unfold takeBracket
  split
  next hcount => exact absurd rfl (h hcount)
  next => rfl

theorem openClass_eq (flags : Flags) (cs : List Char) : openClass flags cs =
    let (isNegated, text) := takeCaret flags cs
    let (items, text) := leadingHyphens flags {} text (text.length + 1)
    (isNegated, takeBracket flags items text) := by
  have hfinish : ∀ (isNegated : Bool) (items : SetItems) (text : List Char),
      (match items.count, text with
        | 0, ']' :: rest => (isNegated, items.add (.single ']') 0, skip flags rest)
        | _, _ => (isNegated, items, text)) = (isNegated, takeBracket flags items text) := by
    intro isNegated items text
    unfold takeBracket
    split <;> rfl
  by_cases hcaret : (skip flags cs).head? = some '^'
  · obtain ⟨text, htext⟩ := List.head?_eq_some_iff.mp hcaret
    simp only [takeCaret_caret htext, openClass, htext]
    exact hfinish _ _ _
  · cases hskip : skip flags cs with
    | nil =>
      simp only [takeCaret_other hcaret, openClass, hskip]
      generalize leadingHyphens flags {} [] _ = read
      exact hfinish _ _ _
    | cons c text =>
      have hc : c ≠ '^' := by simpa [hskip] using hcaret
      simp only [takeCaret_other hcaret, openClass, hskip, List.cons.injEq, hc, false_and, imp_self, implies_true]
      exact hfinish _ _ _

theorem takeCaret_suffix (flags : Flags) (cs : List Char) : (takeCaret flags cs).2 <:+ skip flags cs := by
  unfold takeCaret
  split
  next text hskip =>
    rw [hskip]
    exact (skip_suffix flags text).trans (List.suffix_cons '^' text)
  next => exact List.suffix_refl _

theorem takeCaret_cut {isNegated : Bool} (h : takeCaret flags (cs ++ ')' :: tail) = (isNegated, rest ++ ')' :: tail)) :
    takeCaret flags cs = (isNegated, rest) := by
  have hsuffix := takeCaret_suffix flags (cs ++ ')' :: tail)
  rw [h] at hsuffix
  have hskip := skip_append ((List.suffix_append rest _).trans hsuffix)
  by_cases hcaret : (skip flags cs).head? = some '^'
  · obtain ⟨text, htext⟩ := List.head?_eq_some_iff.mp hcaret
    rw [htext] at hskip
    rw [takeCaret_caret hskip] at h
    obtain ⟨rfl, hrest⟩ := Prod.mk.inj h
    rw [takeCaret_caret htext]
    have hbehind := skip_append (hrest ▸ List.suffix_append rest _)
    rw [List.append_cancel_right (hbehind.symm.trans hrest)]
  · have hother : (skip flags (cs ++ ')' :: tail)).head? ≠ some '^' := by
      rwa [hskip, ne_eq, head?_append_of_ne (by decide)]
    rw [takeCaret_other hother, hskip] at h
    obtain ⟨rfl, hrest⟩ := Prod.mk.inj h
    rw [takeCaret_other hcaret, List.append_cancel_right hrest]

theorem takeBracket_suffix (flags : Flags) (items : SetItems) (cs : List Char) :
    (takeBracket flags items cs).2 <:+ cs := by
  unfold takeBracket
  split
  next text _ => exact (skip_suffix flags text).trans (List.suffix_cons ']' text)
  next => exact List.suffix_refl _

theorem takeBracket_cut {items items' : SetItems}
    (h : takeBracket flags items (cs ++ ')' :: tail) = (items', rest ++ ')' :: tail)) :
    takeBracket flags items cs = (items', rest) := by
  by_cases hbracket : items.count = 0 ∧ cs.head? = some ']'
  · obtain ⟨hcount, htext⟩ := hbracket
    obtain ⟨text, rfl⟩ := List.head?_eq_some_iff.mp htext
    rw [List.cons_append, takeBracket_bracket hcount] at h
    obtain ⟨rfl, hrest⟩ := Prod.mk.inj h
    have hbehind := skip_append (hrest ▸ List.suffix_append rest _)
    rw [takeBracket_bracket hcount, List.append_cancel_right (hbehind.symm.trans hrest)]
  · have hother : items.count = 0 → cs.head? ≠ some ']' := fun hcount htext => hbracket ⟨hcount, htext⟩
    rw [takeBracket_other fun hcount => by rw [ne_eq, head?_append_of_ne (by decide)]; exact hother hcount] at h
    obtain ⟨rfl, hrest⟩ := Prod.mk.inj h
    rw [takeBracket_other hother, List.append_cancel_right hrest]

theorem openClass_suffix (flags : Flags) (cs : List Char) : (openClass flags cs).2.2 <:+ skip flags cs := by
  rw [openClass_eq]
  exact (takeBracket_suffix ..).trans ((leadingHyphens_suffix ..).trans (takeCaret_suffix flags cs))

/-- The start of a class before a bracket is read alike without the bracket. -/
theorem openClass_cut {isNegated : Bool} {items : SetItems}
    (h : openClass flags (cs ++ ')' :: tail) = (isNegated, items, rest ++ ')' :: tail)) :
    openClass flags cs = (isNegated, items, rest) := by
  rw [openClass_eq] at h ⊢
  rcases hcaret : takeCaret flags (cs ++ ')' :: tail) with ⟨caret, text⟩
  rcases hhyphens : leadingHyphens flags {} text (text.length + 1) with ⟨hyphens, text'⟩
  simp only [hcaret, hhyphens, Prod.mk.injEq] at h
  obtain ⟨rfl, hbracket⟩ := h
  -- the bracket is not reached by any of the three
  have hlast := takeBracket_suffix flags hyphens text'
  rw [hbracket] at hlast
  obtain ⟨text', rfl⟩ := exists_append_of_suffix ((List.suffix_append rest _).trans hlast)
  have hmiddle := leadingHyphens_suffix flags {} text (text.length + 1)
  rw [hhyphens] at hmiddle
  obtain ⟨text, rfl⟩ := exists_append_of_suffix ((List.suffix_append text' _).trans hmiddle)
  have hlength : text.length < (text ++ ')' :: tail).length + 1 := by
    rw [List.length_append]
    omega
  simp only [takeCaret_cut hcaret, leadingHyphens_cut hlength (Nat.lt_succ_self _) hhyphens, takeBracket_cut hbracket]

/-! ### The rest of a class -/

/-- What stands at the front of the rest of a class. -/
inductive ClassToken
  | opening
  | closing
  | operator (operator : SetOperator)
  | item

/-- What stands at the front of the rest of a class, and what follows it; an item is still to be read. -/
def classToken? : List Char → Option (ClassToken × List Char)
  | [] => none
  | '[' :: rest => some (.opening, rest)
  | ']' :: rest => some (.closing, rest)
  | '&' :: '&' :: rest => some (.operator .intersection, rest)
  | '-' :: '-' :: rest => some (.operator .difference, rest)
  | '~' :: '~' :: rest => some (.operator .symmetricDifference, rest)
  | cs => some (.item, cs)

theorem classToken?_cases {token : ClassToken} (h : classToken? cs = some (token, rest)) :
    ∃ c text, cs = c :: text ∧ (token ≠ .item → rest <:+ text) ∧ (token = .item → rest = cs) := by
  unfold classToken? at h
  split at h
  next => cases h
  next => cases h; exact ⟨_, _, rfl, fun _ => List.suffix_refl _, nofun⟩
  next => cases h; exact ⟨_, _, rfl, fun _ => List.suffix_refl _, nofun⟩
  next => cases h; exact ⟨_, _, rfl, fun _ => List.suffix_cons _ _, nofun⟩
  next => cases h; exact ⟨_, _, rfl, fun _ => List.suffix_cons _ _, nofun⟩
  next => cases h; exact ⟨_, _, rfl, fun _ => List.suffix_cons _ _, nofun⟩
  next hnil _ _ _ _ _ =>
    obtain ⟨c, text, rfl⟩ := List.exists_cons_of_ne_nil hnil
    cases h
    exact ⟨c, text, rfl, fun hitem => absurd rfl hitem, fun _ => rfl⟩

theorem classToken?_append (h : cs ≠ []) :
    classToken? (cs ++ ')' :: tail) = (classToken? cs).map fun (token, rest) => (token, rest ++ ')' :: tail) := by
  obtain ⟨c, text, rfl⟩ := List.exists_cons_of_ne_nil h
  cases text with
  | nil =>
    unfold classToken?
    split <;> simp_all
  | cons d text =>
    unfold classToken?
    split <;> simp_all

theorem classBody?_succ (flags : Flags) (fuel : Nat) (isNegated : Bool) (pending : Pending) (items : SetItems)
    (cs : List Char) : classBody? flags (fuel + 1) isNegated pending items cs =
      match classToken? (skip flags cs) with
      | none => none
      | some (.opening, rest) =>
        match takeAsciiClass? flags rest with
        | some (s, rest) => classBody? flags fuel isNegated pending (items.add s 0) rest
        | none =>
          let (innerNegated, innerItems, rest) := openClass flags rest
          match classBody? flags fuel innerNegated none innerItems rest with
          | none => none
          | some (s, depth, rest) => classBody? flags fuel isNegated pending (items.add s depth) rest
      | some (.closing, rest) =>
        let (s, depth) := applyPending flags pending items
        let s := foldedSet flags s
        some (if isNegated then .compl s else s, depth + 1, rest)
      | some (.operator operator, rest) =>
        let (left, depth) := applyPending flags pending items
        classBody? flags fuel isNegated (some (left, depth, operator)) {} rest
      | some (.item, rest) =>
        match setRange? flags rest with
        | none => none
        | some (s, rest) => classBody? flags fuel isNegated pending (items.add s 0) rest := by
  rw [classBody?]
  generalize skip flags cs = text
  split
  next => rfl
  next => rfl
  next => rfl
  next => rfl
  next => rfl
  next => rfl
  next =>
    have hitem : classToken? text = some (.item, text) := by
      rw [classToken?] <;> assumption
    generalize classToken? text = token? at hitem ⊢
    subst hitem
    rfl

theorem setRange?_behind {c : Char} {s : CharSet} (h : setRange? flags (c :: cs) = some (s, rest)) : rest <:+ cs := by
  obtain ⟨_, more, hfirst, hlast⟩ := setRange?_suffix h
  obtain ⟨_, _, heq, hmore⟩ := setPrimitive?_suffix hfirst
  cases heq
  exact hlast.trans ((skip_suffix flags more).trans hmore)

section
variable {fuel : Nat} {isNegated : Bool} {pending : Pending} {items : SetItems} {s : CharSet} {depth : Nat}

/-- A class ends behind a character of its own. -/
theorem classBody?_cases (h : classBody? flags fuel isNegated pending items cs = some (s, depth, rest)) :
    ∃ c text, skip flags cs = c :: text ∧ rest <:+ text := by
  induction fuel generalizing isNegated pending items cs s depth rest with
  | zero => cases h
  | succ fuel ih =>
    have hsuffix : ∀ {isNegated pending items more s depth rest},
        classBody? flags fuel isNegated pending items more = some (s, depth, rest) → rest <:+ more := by
      intro _ _ _ more _ _ _ hbody
      obtain ⟨c, text, hskip, hrest⟩ := ih hbody
      exact hrest.trans ((List.suffix_cons c text).trans (hskip ▸ skip_suffix flags more))
    rw [classBody?_succ] at h
    rcases htoken : classToken? (skip flags cs) with _ | ⟨token, more⟩
    · rw [htoken] at h
      cases h
    obtain ⟨c, text, hskip, hmore, hitem⟩ := classToken?_cases htoken
    refine ⟨c, text, hskip, ?_⟩
    rw [htoken] at h
    cases token with
    | opening =>
      dsimp only at h
      split at h
      next hname => exact (hsuffix h).trans (((delimits_takeAsciiClass? flags).suffix hname).trans (hmore nofun))
      next =>
        have hopen := (openClass_suffix flags more).trans (skip_suffix flags more)
        split at h
        next => cases h
        next hinner => exact (hsuffix h).trans ((hsuffix hinner).trans (hopen.trans (hmore nofun)))
    | closing =>
      cases h
      exact hmore nofun
    | operator => exact (hsuffix h).trans (hmore nofun)
    | item =>
      dsimp only at h
      rw [hitem rfl, hskip] at h
      split at h
      next => cases h
      next hrange => exact (hsuffix h).trans (setRange?_behind hrange)

theorem classBody?_suffix (h : classBody? flags fuel isNegated pending items cs = some (s, depth, rest)) :
    rest <:+ cs := by
  obtain ⟨c, text, hskip, hrest⟩ := classBody?_cases h
  exact hrest.trans ((List.suffix_cons c text).trans (hskip ▸ skip_suffix flags cs))

/-- Behind a hyphen a class goes on behind blanks. -/
theorem classBody?_hyphen (h : classBody? flags fuel isNegated pending items ('-' :: cs) = some (s, depth, rest)) :
    rest <:+ skip flags cs := by
  cases fuel with
  | zero => cases h
  | succ fuel =>
    rw [classBody?_succ, skip_visible (by decide) (by decide)] at h
    by_cases hhyphen : cs.head? = some '-'
    · obtain ⟨text, rfl⟩ := List.head?_eq_some_iff.mp hhyphen
      rw [skip_visible (by decide) (by decide)]
      exact (classBody?_suffix h).trans (List.suffix_cons '-' text)
    · have hitem : classToken? ('-' :: cs) = some (.item, '-' :: cs) := by
        cases cs with
        | nil => rfl
        | cons c cs =>
          rw [classToken?]
          all_goals simp_all
      rw [hitem] at h
      dsimp only at h
      split at h
      next => cases h
      next hrange =>
        obtain ⟨_, more, hfirst, hlast⟩ := setRange?_suffix hrange
        cases hfirst
        exact (classBody?_suffix h).trans hlast

/-- The rest of a class before a bracket is read alike without the bracket. -/
theorem classBody?_cut {fuel' : Nat} (hfuel : cs.length < fuel')
    (h : classBody? flags fuel isNegated pending items (cs ++ ')' :: tail) = some (s, depth, rest ++ ')' :: tail)) :
    classBody? flags fuel' isNegated pending items cs = some (s, depth, rest) := by
  induction fuel generalizing isNegated pending items cs s depth rest fuel' with
  | zero => cases h
  | succ fuel ih =>
    obtain ⟨fuel', rfl⟩ := Nat.exists_eq_succ_of_ne_zero (Nat.ne_zero_of_lt hfuel)
    obtain ⟨_, _, hbehind, hlast⟩ := classBody?_cases h
    have hbracket := (List.suffix_append rest _).trans hlast
    have hskip := skip_append (hbehind ▸ hbracket.trans (List.suffix_cons _ _))
    have hne : skip flags cs ≠ [] := fun hnil => by
      rw [hskip, hnil] at hbehind
      obtain ⟨rfl, rfl⟩ := List.cons.inj hbehind
      exact not_suffix_of_suffix (List.suffix_refl _) hbracket
    rw [classBody?_succ, hskip, classToken?_append hne] at h
    rw [classBody?_succ]
    rcases htoken : classToken? (skip flags cs) with _ | ⟨token, more⟩
    · rw [htoken] at h
      cases h
    obtain ⟨c, text, htext, hmore, hitem⟩ := classToken?_cases htoken
    have hlength := (htext ▸ skip_suffix flags cs : c :: text <:+ cs).length_le
    rw [List.length_cons] at hlength
    rw [htoken, Option.map_some] at h
    cases token with
    | opening =>
      have hmore := (hmore nofun).length_le
      dsimp only at h ⊢
      split at h
      next s' after hname =>
        obtain ⟨after, rfl⟩ := exists_append_of_suffix ((List.suffix_append rest _).trans (classBody?_suffix h))
        have hname := (delimits_takeAsciiClass? flags).cut hname
        have hafter := ((delimits_takeAsciiClass? flags).suffix hname).length_le
        rw [hname]
        exact ih (by omega) h
      next hno =>
        -- without the bracket no named class starts here either
        have hno : takeAsciiClass? flags more = none := Option.eq_none_iff_forall_not_mem.mpr fun _ hname => by
          rw [(delimits_takeAsciiClass? flags).extend hname] at hno
          cases hno
        rcases hopen : openClass flags (more ++ ')' :: tail) with ⟨innerNegated, innerItems, after⟩
        rw [hopen] at h
        dsimp only at h
        split at h
        next => cases h
        next s' depth' last hinner =>
          obtain ⟨last, rfl⟩ := exists_append_of_suffix ((List.suffix_append rest _).trans (classBody?_suffix h))
          obtain ⟨after, rfl⟩ := exists_append_of_suffix ((List.suffix_append last _).trans (classBody?_suffix hinner))
          have hopen := openClass_cut hopen
          have hafter : after.length ≤ more.length := by
            simpa only [hopen] using ((openClass_suffix flags more).trans (skip_suffix flags more)).length_le
          have hinner : classBody? flags fuel' innerNegated none innerItems after = some (s', depth', last) :=
            ih (by omega) hinner
          have hlast := (classBody?_suffix hinner).length_le
          rw [hno, hopen]
          dsimp only
          rw [hinner]
          exact ih (by omega) h
    | closing =>
      simp only [Option.some.injEq, Prod.mk.injEq] at h ⊢
      obtain ⟨hs, hdepth, hrest⟩ := h
      exact ⟨hs, hdepth, List.append_cancel_right hrest⟩
    | operator =>
      have hmore := (hmore nofun).length_le
      exact ih (by omega) h
    | item =>
      obtain rfl := hitem rfl
      dsimp only at h ⊢
      split at h
      next => cases h
      next s' after hrange =>
        obtain ⟨after, rfl⟩ := exists_append_of_suffix ((List.suffix_append rest _).trans (classBody?_suffix h))
        -- behind the item the class goes on, which it would not in front of the bracket
        have hne : after ≠ [] := by
          rintro rfl
          obtain ⟨c, text, hskip, hlast⟩ := classBody?_cases h
          have hsuffix : c :: text <:+ ')' :: tail := hskip ▸ skip_suffix flags _
          have hlength := hsuffix.length_le
          have hlength' := ((List.suffix_append rest _).trans hlast).length_le
          simp only [List.length_cons] at hlength hlength'
          omega
        have hrange := setRange?_cut hrange hne fun text htext => by
          rw [htext] at h
          exact (List.suffix_append rest _).trans (classBody?_hyphen h)
        rw [hrange]
        have hafter := (setRange?_behind (htext ▸ hrange)).length_le
        exact ih (by omega) h

end

theorem class?_suffix {s : CharSet} {depth : Nat} (h : class? flags cs = some (s, depth, rest)) : rest <:+ cs := by
  unfold class? at h
  dsimp only at h
  split at h
  next => cases h
  next hbody =>
    obtain ⟨_, -, heq⟩ := Option.map_eq_some_iff.mp h
    cases heq
    exact (classBody?_suffix hbody).trans ((openClass_suffix flags cs).trans (skip_suffix flags cs))

/-- A class before a bracket is read alike without the bracket. -/
theorem class?_cut {s : CharSet} {depth : Nat}
    (h : class? flags (cs ++ ')' :: tail) = some (s, depth, rest ++ ')' :: tail)) :
    class? flags cs = some (s, depth, rest) := by
  unfold class? at h ⊢
  rcases hopen : openClass flags (cs ++ ')' :: tail) with ⟨isNegated, items, text⟩
  rw [hopen] at h
  dsimp only at h ⊢
  split at h
  next => cases h
  next hbody =>
    obtain ⟨s, hset, heq⟩ := Option.map_eq_some_iff.mp h
    simp only [Prod.mk.injEq] at heq
    obtain ⟨rfl, rfl, rfl⟩ := heq
    obtain ⟨text, rfl⟩ := exists_append_of_suffix ((List.suffix_append rest _).trans (classBody?_suffix hbody))
    have hopen := openClass_cut hopen
    have hlength := ((openClass_suffix flags cs).trans (skip_suffix flags cs)).length_le
    rw [hopen] at hlength ⊢
    rw [classBody?_cut (Nat.lt_succ_of_le hlength) hbody]
    dsimp only
    rw [hset, Option.map_some]

end WikiGateway.Pattern
