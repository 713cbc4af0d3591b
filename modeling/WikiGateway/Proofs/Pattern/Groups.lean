import WikiGateway.Proofs.Pattern.Classes

/-!
# Groups before a closing bracket

The choices of a group end at its closing bracket, and they are read alike where the text ends in its place.

* `choices?_suffix`: choices leave an end of the text they are read from.
* `ReadsAlike`: what is carried from step to step, with one lemma for each kind of mark.
* `choices?_cut`: choices without the bracket behind them.
-/

namespace WikiGateway.Pattern

variable {flags : Flags} {cs rest tail : List Char}

theorem openingText?_other (h : cs.head? ≠ some '?') : openingText? flags cs = some (.group flags none, cs) := by
  cases cs with
  | nil => rfl
  | cons c cs =>
    have hc : c ≠ '?' := by simpa using h
    rw [openingText?]
    all_goals simp [hc]

theorem opening?_suffix {o : Opening} (h : opening? flags cs = some (o, rest)) : rest <:+ skip flags cs := by
  rw [opening?_eq] at h
  by_cases hmark : (skip flags cs).head? = some '?'
  · obtain ⟨text, htext⟩ := List.head?_eq_some_iff.mp hmark
    rw [htext] at h ⊢
    exact ((delimits_openingText? flags).suffix h).trans (List.suffix_cons '?' text)
  · rw [openingText?_other hmark] at h
    cases h
    exact List.suffix_refl _

theorem opening?_cut {o : Opening} (h : opening? flags (cs ++ ')' :: tail) = some (o, rest ++ ')' :: tail)) :
    opening? flags cs = some (o, rest) := by
  have hskip := skip_append ((List.suffix_append rest _).trans (opening?_suffix h))
  rw [opening?_eq, hskip] at h
  rw [opening?_eq]
  by_cases hmark : (skip flags cs).head? = some '?'
  · obtain ⟨text, htext⟩ := List.head?_eq_some_iff.mp hmark
    rw [htext] at h ⊢
    exact (delimits_openingText? flags).cut h
  · have hmark' : (skip flags cs ++ ')' :: tail).head? ≠ some '?' := by
      cases hcs : skip flags cs with
      | nil => simp
      | cons c text => simpa [hcs] using hmark
    rw [openingText?_other hmark'] at h
    obtain ⟨rfl, hrest⟩ := Prod.mk.inj (Option.some.inj h)
    rw [openingText?_other hmark, List.append_cancel_right hrest]

/-! ## Choices -/

theorem skipLazyMark_suffix (cs : List Char) : skipLazyMark cs <:+ cs := by
  unfold skipLazyMark
  split
  next text => exact List.suffix_cons '?' text
  next => exact List.suffix_refl _

theorem skipLazyMark_append (cs tail : List Char) :
    skipLazyMark (cs ++ ')' :: tail) = skipLazyMark cs ++ ')' :: tail := by
  cases cs with
  | nil => rfl
  | cons c cs =>
    by_cases hc : c = '?'
    · subst hc
      rfl
    · rw [List.cons_append, skipLazyMark, skipLazyMark]
      · rfl
      all_goals simp [hc]

section
variable {fuel : Nat} {names names' : List String} {done parts : List Part} {x : Part}

/-- Choices end where nothing or a bracket follows, behind blanks. -/
theorem choices?_suffix (h : choices? fuel flags names done parts cs = some (x, names', rest)) :
    rest <:+ skip flags cs := by
  induction fuel generalizing flags names done parts cs x names' rest with
  | zero => cases h
  | succ fuel ih =>
    have hsuffix : ∀ {flags names done parts more x names' rest},
        choices? fuel flags names done parts more = some (x, names', rest) → rest <:+ more :=
      fun hmore => (ih hmore).trans (skip_suffix _ _)
    have hlazy : ∀ {flags names done more x names' rest} {parts? : Option (List Part)},
        (parts?.bind fun parts => choices? fuel flags names done parts (skipLazyMark more)) = some (x, names', rest) →
          rest <:+ more := by
      intro _ _ _ _ _ _ _ _ hmore
      obtain ⟨_, -, hmore⟩ := Option.bind_eq_some_iff.mp hmore
      exact (hsuffix hmore).trans (skipLazyMark_suffix _)
    have hpush : ∀ {flags names done parts more x names' rest} {α : Type} {value? : Option α} {part : α → Part},
        (value?.bind fun value => choices? fuel flags names done (part value :: parts) more) = some (x, names', rest) →
          rest <:+ more := by
      intro _ _ _ _ _ _ _ _ _ _ _ hmore
      obtain ⟨_, -, hmore⟩ := Option.bind_eq_some_iff.mp hmore
      exact hsuffix hmore
    rw [choices?] at h
    generalize skip flags cs = front at h ⊢
    split at h
    -- the end of the text, of the group and of a choice
    next => cases h; exact List.suffix_refl _
    next => cases h; exact List.suffix_refl _
    next => exact (hsuffix h).trans (List.suffix_cons _ _)
    -- a class
    next =>
      split at h
      next => cases h
      next hclass => exact (hsuffix h).trans ((class?_suffix hclass).trans (List.suffix_cons _ _))
    -- repetitions
    next => exact (hlazy h).trans (List.suffix_cons _ _)
    next => exact (hlazy h).trans (List.suffix_cons _ _)
    next => exact (hlazy h).trans (List.suffix_cons _ _)
    next =>
      split at h
      next => cases h
      next hbounds =>
        have hbounds := (delimits_takeBounds? _).suffix hbounds
        exact (hlazy h).trans ((skip_suffix _ _).trans (hbounds.trans (List.suffix_cons _ _)))
    -- settings of flags and groups
    next text =>
      split at h
      next => cases h
      next hopen =>
        exact (hsuffix h).trans ((opening?_suffix hopen).trans ((skip_suffix _ _).trans (List.suffix_cons _ _)))
      next hopen =>
        have hopen := (opening?_suffix hopen).trans ((skip_suffix _ _).trans (List.suffix_cons '(' text))
        split at h
        · cases h
        split at h
        next hinner => exact (hsuffix h).trans ((List.suffix_cons _ _).trans ((hsuffix hinner).trans hopen))
        next => cases h
    -- the dot and the anchors, escapes and other characters
    next => exact (hpush h).trans (List.suffix_cons _ _)
    next => exact (hsuffix h).trans (List.suffix_cons _ _)
    next => exact (hsuffix h).trans (List.suffix_cons _ _)
    next text =>
      split at h
      next => cases h
      next hescape =>
        cases text with
        | nil => cases hescape
        | cons d text =>
          have hescape := (escape?_suffix hescape).trans (List.suffix_cons d text)
          exact (hpush h).trans (hescape.trans (List.suffix_cons _ _))
    next => exact (hpush h).trans (List.suffix_cons _ _)

/-- What stands behind choices stands behind what they are read from. -/
theorem exists_append_of_choices? (h : choices? fuel flags names done parts cs = some (x, names', rest))
    (htail : tail <:+ rest) : ∃ text, cs = text ++ tail :=
  exists_append_of_suffix (htail.trans ((choices?_suffix h).trans (skip_suffix flags cs)))

/-- A character without a meaning of its own. -/
theorem choices?_plain {c : Char} {text : List Char} (h : skip flags cs = c :: text)
    (hc : c ∉ [')', '|', '[', '?', '*', '+', '\x7b', '(', '.', '^', '$', '\\']) :
    choices? (fuel + 1) flags names done parts cs =
      (primitivePart? flags (.char c)).bind fun part => choices? fuel flags names done (part :: parts) text := by
  simp only [List.mem_cons, List.not_mem_nil, or_false, not_or] at hc
  rw [choices?, h]
  split <;> simp_all

/-- Bounds are read behind a brace only if more than blanks stand between it and the bracket. -/
theorem not_choices?_brace (h : choices? fuel flags names done parts ('\x7b' :: (cs ++ ')' :: tail)) =
    some (x, names', rest ++ ')' :: tail)) : skip flags cs ≠ [] := by
  intro hnil
  cases fuel with
  | zero => cases h
  | succ fuel =>
    rw [choices?, skip_visible (by decide) (by decide)] at h
    simp only at h
    split at h
    next => cases h
    next more hbounds =>
      obtain ⟨_, -, h⟩ := Option.bind_eq_some_iff.mp h
      have hlazy := (skipLazyMark_suffix (skip flags more)).trans (skip_suffix flags more)
      have hmore := (choices?_suffix h).trans ((skip_suffix _ _).trans hlazy)
      obtain ⟨more, rfl⟩ := exists_append_of_suffix ((List.suffix_append rest _).trans hmore)
      have hno : takeBounds? flags cs = none := by
        rw [takeBounds?, hnil, takeNumber?_nil, Option.bind_none]
      rw [(delimits_takeBounds? flags).cut hbounds] at hno
      cases hno

end

/-! ### Without the bracket -/

/-- What is read with one number of steps before a bracket is read with another without it. -/
def ReadsAlike (fuel fuel' : Nat) : Prop :=
  ∀ ⦃flags : Flags⦄ ⦃names names' : List String⦄ ⦃done parts : List Part⦄ ⦃x : Part⦄ ⦃cs rest tail : List Char⦄,
    cs.length < fuel' →
    choices? fuel flags names done parts (cs ++ ')' :: tail) = some (x, names', rest ++ ')' :: tail) →
      choices? fuel' flags names done parts cs = some (x, names', rest)

section
variable {fuel fuel' : Nat} {names names' : List String} {done parts : List Part} {x : Part} {text : List Char}
variable (ih : ReadsAlike fuel fuel') (htext : text.length < fuel')
include ih htext

/-- Reading goes on behind a part. -/
theorem ReadsAlike.push {α : Type} {value? : Option α} {part : α → Part}
    (h : (value?.bind fun value => choices? fuel flags names done (part value :: parts) (text ++ ')' :: tail)) =
      some (x, names', rest ++ ')' :: tail)) :
    (value?.bind fun value => choices? fuel' flags names done (part value :: parts) text) = some (x, names', rest) := by
  obtain ⟨value, hvalue, h⟩ := Option.bind_eq_some_iff.mp h
  exact Option.bind_eq_some_iff.mpr ⟨value, hvalue, ih htext h⟩

/-- Reading goes on behind a mark of repetition. -/
theorem ReadsAlike.again {parts? : Option (List Part)}
    (h : (parts?.bind fun parts => choices? fuel flags names done parts (skipLazyMark (text ++ ')' :: tail))) =
      some (x, names', rest ++ ')' :: tail)) :
    (parts?.bind fun parts => choices? fuel' flags names done parts (skipLazyMark text)) = some (x, names', rest) := by
  obtain ⟨parts, hparts, h⟩ := Option.bind_eq_some_iff.mp h
  have hlazy := (skipLazyMark_suffix text).length_le
  rw [skipLazyMark_append] at h
  exact Option.bind_eq_some_iff.mpr ⟨parts, hparts, ih (by omega) h⟩

variable (hread : choices? (fuel + 1) flags names done parts (cs ++ ')' :: tail) =
  some (x, names', rest ++ ')' :: tail))
include hread

theorem ReadsAlike.class (hskip : skip flags (cs ++ ')' :: tail) = '[' :: (text ++ ')' :: tail))
    (hfront : skip flags cs = '[' :: text) :
    choices? (fuel' + 1) flags names done parts cs = some (x, names', rest) := by
  rw [choices?, hskip] at hread
  rw [choices?, hfront]
  simp only at hread ⊢
  split at hread
  next => cases hread
  next hclass =>
    obtain ⟨more, rfl⟩ := exists_append_of_choices? hread (List.suffix_append rest _)
    have hclass := class?_cut hclass
    have hmore := (class?_suffix hclass).length_le
    rw [hclass]
    exact ih (by omega) hread

theorem ReadsAlike.bounds (hskip : skip flags (cs ++ ')' :: tail) = '\x7b' :: (text ++ ')' :: tail))
    (hfront : skip flags cs = '\x7b' :: text) :
    choices? (fuel' + 1) flags names done parts cs = some (x, names', rest) := by
  rw [choices?, hskip] at hread
  rw [choices?, hfront]
  simp only at hread ⊢
  split at hread
  next => cases hread
  next more hbounds =>
    obtain ⟨_, -, hlast⟩ := Option.bind_eq_some_iff.mp hread
    have hlast := (choices?_suffix hlast).trans ((skip_suffix _ _).trans (skipLazyMark_suffix _))
    have hbracket := (List.suffix_append rest _).trans hlast
    obtain ⟨more, rfl⟩ := exists_append_of_suffix (hbracket.trans (skip_suffix _ _))
    have hbounds := (delimits_takeBounds? flags).cut hbounds
    have hmore := ((skip_suffix flags more).trans ((delimits_takeBounds? flags).suffix hbounds)).length_le
    rw [skip_append hbracket] at hread
    rw [hbounds]
    exact ih.again (by omega) hread

/-- A setting of flags, or a group, whose choices end at a bracket of their own. -/
theorem ReadsAlike.group (hskip : skip flags (cs ++ ')' :: tail) = '(' :: (text ++ ')' :: tail))
    (hfront : skip flags cs = '(' :: text) :
    choices? (fuel' + 1) flags names done parts cs = some (x, names', rest) := by
  rw [choices?, hskip] at hread
  rw [choices?, hfront]
  simp only at hread ⊢
  split at hread
  next => cases hread
  next hopen =>
    obtain ⟨more, rfl⟩ := exists_append_of_choices? hread (List.suffix_append rest _)
    have hopen := opening?_cut hopen
    have hmore := ((opening?_suffix hopen).trans (skip_suffix _ _)).length_le
    rw [hopen]
    exact ih (by omega) hread
  next hopen =>
    split at hread
    · cases hread
    next hname =>
      split at hread
      next hinner =>
        obtain ⟨last, rfl⟩ := exists_append_of_choices? hread (List.suffix_append rest _)
        obtain ⟨more, rfl⟩ := exists_append_of_choices? hinner (List.suffix_append (')' :: last) _)
        have hopen := opening?_cut hopen
        have hmore := ((opening?_suffix hopen).trans (skip_suffix _ _)).length_le
        have hinner : choices? fuel' _ _ [] [] more = some (_, _, ')' :: last) := ih (by omega) hinner
        have hlast := ((choices?_suffix hinner).trans (skip_suffix _ _)).length_le
        rw [List.length_cons] at hlast
        rw [hopen]
        simp only
        rw [if_neg hname, hinner]
        exact ih (by omega) hread
      next => cases hread

theorem ReadsAlike.escape (hskip : skip flags (cs ++ ')' :: tail) = '\\' :: (text ++ ')' :: tail))
    (hfront : skip flags cs = '\\' :: text) :
    choices? (fuel' + 1) flags names done parts cs = some (x, names', rest) := by
  rw [choices?, hskip] at hread
  rw [choices?, hfront]
  simp only at hread ⊢
  split at hread
  next => cases hread
  next p more hescape =>
    obtain ⟨_, -, hlast⟩ := Option.bind_eq_some_iff.mp hread
    obtain ⟨more, rfl⟩ := exists_append_of_choices? hlast (List.suffix_append rest _)
    cases text with
    | nil => exact absurd (List.suffix_append more _) (not_suffix_of_suffix (escape?_suffix hescape))
    | cons d text =>
      rcases escape?_cut hescape with hescape | ⟨_, blanks, -, rfl, hblanks⟩
      · have hmore := (escape?_suffix hescape).length_le
        rw [List.length_cons] at htext
        rw [hescape]
        exact ih.push (by omega) hread
      · -- a brace behind a boundary would start bounds, and these need more than blanks
        exact absurd hblanks (not_choices?_brace hlast)

end

/-- Choices before a bracket are read alike without the bracket, by induction on the steps: one for each mark. -/
theorem readsAlike (fuel fuel' : Nat) : ReadsAlike fuel fuel' := by
  induction fuel generalizing fuel' with
  | zero => exact fun _ _ _ _ _ _ _ _ _ _ h => nomatch h
  | succ fuel ih =>
    intro flags names names' done parts x cs rest tail hfuel h
    obtain ⟨fuel', rfl⟩ := Nat.exists_eq_succ_of_ne_zero (Nat.ne_zero_of_lt hfuel)
    have hskip := skip_append ((List.suffix_append rest _).trans (choices?_suffix h))
    cases hfront : skip flags cs with
    | nil =>
      rw [hfront, List.nil_append] at hskip
      rw [choices?, hskip] at h
      rw [choices?, hfront]
      simp only [Option.some.injEq, Prod.mk.injEq] at h ⊢
      exact ⟨h.1, h.2.1, (List.self_eq_append_left.mp h.2.2).symm⟩
    | cons c text =>
      have hlength := (hfront ▸ skip_suffix flags cs : c :: text <:+ cs).length_le
      rw [List.length_cons] at hlength
      have htext : text.length < fuel' := by omega
      rw [hfront, List.cons_append] at hskip
      by_cases hmark : c ∈ [')', '|', '[', '?', '*', '+', '\x7b', '(', '.', '^', '$', '\\']
      · simp only [List.mem_cons, List.not_mem_nil, or_false] at hmark
        rcases hmark with rfl | rfl | rfl | rfl | rfl | rfl | rfl | rfl | rfl | rfl | rfl | rfl
        -- a class, bounds, a group and an escape
        case inr.inr.inl => exact (ih fuel').class htext h hskip hfront
        case inr.inr.inr.inr.inr.inr.inl => exact (ih fuel').bounds htext h hskip hfront
        case inr.inr.inr.inr.inr.inr.inr.inl => exact (ih fuel').group htext h hskip hfront
        case inr.inr.inr.inr.inr.inr.inr.inr.inr.inr.inr => exact (ih fuel').escape htext h hskip hfront
        all_goals
          rw [choices?, hskip] at h
          rw [choices?, hfront]
          simp only at h ⊢
        -- the end of the group and of a choice
        · simp only [Option.some.injEq, Prod.mk.injEq] at h ⊢
          exact ⟨h.1, h.2.1, List.append_cancel_right h.2.2⟩
        · exact ih fuel' htext h
        -- the marks of repetition, the dot and the anchors
        · exact (ih fuel').again htext h
        · exact (ih fuel').again htext h
        · exact (ih fuel').again htext h
        · exact (ih fuel').push htext h
        · exact ih fuel' htext h
        · exact ih fuel' htext h
      · rw [choices?_plain hskip hmark] at h
        rw [choices?_plain hfront hmark]
        exact (ih fuel').push htext h

theorem choices?_cut {fuel fuel' : Nat} {names names' : List String} {done parts : List Part} {x : Part}
    (hfuel : cs.length < fuel')
    (h : choices? fuel flags names done parts (cs ++ ')' :: tail) = some (x, names', rest ++ ')' :: tail)) :
    choices? fuel' flags names done parts cs = some (x, names', rest) :=
  readsAlike fuel fuel' hfuel h

end WikiGateway.Pattern
