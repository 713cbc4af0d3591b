import WikiGateway.Proofs.Pattern.Groups
import WikiGateway.Route.Constraint

/-!
# Constraints between anchors

The text of a pattern is set between anchors before it is read. If it is a pattern by itself, a constraint allows the
values that it matches as a whole (`isFoundIn_anchored`). A text that closes the bracket in front of it is read too,
although it is no pattern.

* `Pattern.MatchesWhole`: a match from the first character to the last.
* `Pattern.read?`: the pattern of a text without regard to the limits.
* `Constraint.allows_ofPattern`: what a constraint allows that was made of a text.
-/

namespace WikiGateway

namespace Pattern

/-! ## Positions -/

section
variable {step : List Nat → List Nat} {bound : Nat}

/-- A repeated step stays below a bound that the step keeps. -/
theorem iterate_le (hstep : ∀ l, (∀ i ∈ l, i ≤ bound) → ∀ i ∈ step l, i ≤ bound) {count : Nat} {positions : List Nat}
    (h : ∀ i ∈ positions, i ≤ bound) : ∀ i ∈ iterate step count positions, i ≤ bound := by
  induction count generalizing positions with
  | zero => exact h
  | succ count ih =>
    rw [iterate]
    split
    · exact h
    · exact ih (hstep _ h)

theorem reach_le (hstep : ∀ l, (∀ i ∈ l, i ≤ bound) → ∀ i ∈ step l, i ≤ bound) {count : Nat} {seen fresh : List Nat}
    (hseen : ∀ i ∈ seen, i ≤ bound) (hfresh : ∀ i ∈ fresh, i ≤ bound) :
    ∀ i ∈ reach step count seen fresh, i ≤ bound := by
  induction count generalizing seen fresh with
  | zero => exact hseen
  | succ count ih =>
    have hnew : ∀ i ∈ (step fresh).filter fun i => !seen.contains i, i ≤ bound := fun i hi =>
      hstep fresh hfresh i (List.mem_of_mem_filter hi)
    rw [reach]
    split
    · exact hseen
    · exact ih (List.forall_mem_append.mpr ⟨hseen, hnew⟩) hnew

end

/-- A match ends in the text. -/
theorem ends_le {text : Array Char} (p : Pattern) {starts : List Nat} (h : ∀ i ∈ starts, i ≤ text.size) :
    ∀ i ∈ p.ends text starts, i ≤ text.size := by
  induction p generalizing starts with
  | empty => rwa [ends]
  | set s =>
    intro i hi
    rw [ends] at hi
    obtain ⟨j, hj, rfl⟩ := List.mem_map.mp hi
    obtain ⟨_, hchar, -⟩ := Option.any_eq_true _ _ |>.mp (List.mem_filter.mp hj).2
    have := (Array.getElem?_eq_some_iff.mp hchar).1
    omega
  | assert a =>
    intro i hi
    rw [ends] at hi
    exact h i (List.mem_of_mem_filter hi)
  | seq a b iha ihb =>
    rw [ends_seq]
    exact ihb (iha h)
  | alt a b iha ihb =>
    intro i hi
    rcases mem_ends_alt.mp hi with hi | hi
    · exact iha h i hi
    · exact ihb h i hi
  | repeated p min max ih =>
    unfold ends
    have hfirst : ∀ i ∈ iterate (ends text p) min starts, i ≤ text.size := iterate_le (fun _ hl => ih hl) h
    exact reach_le (fun _ hl => ih hl) hfirst hfirst

/-- Whether a pattern matches a text from its first character to its last. -/
def MatchesWhole (p : Pattern) (text : String) : Prop :=
  let chars := text.toList.toArray
  chars.size ∈ p.ends chars [0]

instance (p : Pattern) (text : String) : Decidable (p.MatchesWhole text) :=
  inferInstanceAs (Decidable (_ ∈ _))

theorem ends_start (text : Array Char) : (assert .start).ends text (List.range (text.size + 1)) = [0] := by
  rw [ends, List.range_succ_eq_map, List.filter_cons_of_pos (by rfl), List.filter_eq_nil_iff.mpr]
  intro i hi
  obtain ⟨j, hj, rfl⟩ := List.mem_map.mp hi
  have hj := List.mem_range.mp hj
  simp [Assertion.holdsBetween, before?, hj]

/-- The anchors hold a pattern to the whole of a text. -/
theorem isFoundIn_anchored (p : Pattern) (text : String) :
    (seq (assert .start) (seq p (assert .finish))).isFoundIn text = true ↔ p.MatchesWhole text := by
  unfold isFoundIn MatchesWhole
  dsimp only
  generalize text.toList.toArray = chars
  rw [ends_seq, ends_seq, ends_start, ends, Bool.not_eq_true', List.isEmpty_eq_false_iff_exists_mem]
  constructor
  · rintro ⟨i, hi⟩
    obtain ⟨hi, hfinish⟩ := List.mem_filter.mp hi
    have hle : i ≤ chars.size := ends_le p (by simp) i hi
    have hlast : chars.size ≤ i := by simpa [Assertion.holdsBetween] using hfinish
    rwa [← Nat.le_antisymm hle hlast]
  · intro hend
    exact ⟨chars.size, List.mem_filter.mpr ⟨hend, by simp [Assertion.holdsBetween]⟩⟩

/-! ## Reading -/

/-- The pattern of a text with how deep it is nested, without regard to the limits. -/
def read? (s : String) : Option Part :=
  match choices? (s.toList.length + 1) {} [] [] [] s.toList with
  | some (part, _, []) => some part
  | _ => none

theorem parse?_eq (s : String) : parse? s = (read? s).bind fun part =>
    if maxDepth < part.depth || maxWeight < part.pattern.weight then none else some part.pattern := by
  unfold parse? read?
  dsimp only
  rcases choices? (s.toList.length + 1) {} [] [] [] s.toList with _ | ⟨part, names, _ | ⟨c, rest⟩⟩
  · rfl
  · rfl
  · rfl

/-- A group without a name or flags. -/
theorem choices?_group (fuel : Nat) (names : List String) (done parts : List Part) (cs : List Char) :
    choices? (fuel + 1) {} names done parts ('(' :: '?' :: ':' :: cs) =
      match choices? fuel {} names [] [] cs with
      | some (part, names, ')' :: rest) =>
        choices? fuel {} names done (⟨part.pattern, part.depth + 1, true⟩ :: parts) rest
      | _ => none := by
  have hopen : opening? {} ('?' :: ':' :: cs) = some (.group {} none, cs) := rfl
  rw [choices?, skip_visible (by decide) (by decide)]
  simp only [hopen]
  rfl

end Pattern

namespace Constraint

open Pattern

theorem toList_anchored (e : String) : (anchored e).toList = '^' :: '(' :: '?' :: ':' :: (e.toList ++ [')', '$']) := by
  simp [anchored]

/-- The group between the anchors ends at a bracket, and the rest of the text is read behind it. -/
theorem read?_anchored {e : String} {whole : Part} (h : read? (anchored e) = some whole) :
    ∃ fuel inner names rest, choices? fuel {} [] [] [] (e.toList ++ [')', '$']) = some (inner, names, ')' :: rest) ∧
      ∃ names', choices? fuel {} names [] [⟨inner.pattern, inner.depth + 1, true⟩, ⟨.assert .start, 0, true⟩] rest =
        some (whole, names', []) := by
  unfold read? at h
  rw [toList_anchored, List.length_cons, List.length_cons, choices?, skip_visible (by decide) (by decide)] at h
  simp only [choices?_group] at h
  split at h
  next part names hread =>
    cases h
    split at hread
    next inner names' rest hinner => exact ⟨_, inner, names', rest, hinner, names, hread⟩
    next => cases hread
  next => cases h

/-- A closing bracket in a text before a bracket and the end is the last one or one of the text. -/
theorem append_closing_cases {cs text rest : List Char} (h : cs ++ [')', '$'] = text ++ ')' :: rest) :
    cs = text ∧ rest = ['$'] ∨ ∃ more, cs = text ++ ')' :: more ∧ rest = more ++ [')', '$'] := by
  rcases List.append_eq_append_iff.mp h with ⟨_ | ⟨c, between⟩, rfl, hrest⟩ | ⟨_ | ⟨c, between⟩, rfl, hrest⟩
  · exact .inl ⟨(List.append_nil cs).symm, (List.cons.inj hrest).2.symm⟩
  · -- the end is no bracket
    obtain ⟨-, hend⟩ := List.cons.inj hrest
    cases between <;> simp at hend
  · exact .inl ⟨List.append_nil text, (List.cons.inj hrest).2⟩
  · obtain ⟨rfl, hbehind⟩ := List.cons.inj hrest
    exact .inr ⟨between, rfl, hbehind⟩

/-- The pattern of a text between anchors, if the text is one by itself. -/
theorem read?_whole {fuel : Nat} {inner whole : Part} {names names' : List String}
    (h : choices? fuel {} names [] [⟨inner.pattern, inner.depth + 1, true⟩, ⟨.assert .start, 0, true⟩] ['$'] =
      some (whole, names', [])) :
    whole.pattern = seq (assert .start) (seq inner.pattern (assert .finish)) ∧ inner.depth ≤ whole.depth ∧
      inner.pattern.weight ≤ whole.pattern.weight := by
  cases fuel with
  | zero => cases h
  | succ fuel =>
    rw [choices?, skip_visible (by decide) (by decide)] at h
    simp only at h
    cases fuel with
    | zero => cases h
    | succ fuel =>
      rw [choices?, skip_nil] at h
      cases h
      refine ⟨rfl, ?_, ?_⟩
      · simp [Pattern.choice, Pattern.sequence]
        omega
      · simp [Pattern.choice, Pattern.sequence, weight]
        omega

/-- **Anchored patterns.** A text of which a constraint is made, with all its flags and comments, is read as a pattern
by itself, which also keeps to the limits, and the constraint allows just the values that this pattern matches from
their first character to their last. Or it is no pattern, but has a closing bracket in front of which it is one, up to
the limits; this bracket closes the one that stands behind the first anchor. -/
theorem allows_ofPattern {name e : String} {c : Constraint} (h : ofPattern name e = .ok c) :
    (∃ part, read? e = some part ∧ parse? e = some part.pattern ∧
      ∀ value, c.allows value = true ↔ part.pattern.MatchesWhole value) ∨
    read? e = none ∧ ∃ a b, e = a ++ ")" ++ b ∧ (read? a).isSome := by
  obtain ⟨p, hparse, rfl⟩ : ∃ p, parse? (anchored e) = some p ∧ c = matching p := by
    unfold ofPattern at h
    split at h
    next p hparse =>
      cases h
      exact ⟨p, hparse, rfl⟩
    next => cases h
  rw [parse?_eq] at hparse
  obtain ⟨whole, hwhole, hlimits⟩ := Option.bind_eq_some_iff.mp hparse
  split at hlimits
  · cases hlimits
  next hsmall =>
    cases hlimits
    obtain ⟨fuel, inner, names, rest, hinner, names', hbehind⟩ := read?_anchored hwhole
    obtain ⟨text, htext⟩ := exists_append_of_choices? hinner (List.suffix_refl _)
    rcases append_closing_cases htext with ⟨rfl, rfl⟩ | ⟨more, hcs, rfl⟩
    · -- the group ends at the bracket behind the text
      obtain ⟨hpattern, hdepth, hweight⟩ := read?_whole hbehind
      have hinner : choices? fuel {} [] [] [] (e.toList ++ ')' :: ['$']) =
          some (inner, names, [] ++ ')' :: ['$']) := hinner
      have hread : read? e = some inner := by
        rw [read?, choices?_cut (Nat.lt_succ_self _) hinner]
      refine .inl ⟨inner, hread, ?_, fun value => ?_⟩
      · rw [parse?_eq, hread, Option.bind_some, if_neg]
        simp only [Bool.or_eq_true, decide_eq_true_eq, not_or] at hsmall ⊢
        omega
      · rw [allows, hpattern]
        exact isFoundIn_anchored inner.pattern value
    · -- the group ends at a bracket of the text
      refine .inr ⟨?_, String.ofList text, String.ofList more, ?_, ?_⟩
      · have hinner : choices? fuel {} [] [] [] (e.toList ++ ')' :: ['$']) =
            some (inner, names, (')' :: more) ++ ')' :: ['$']) := hinner
        rw [read?, choices?_cut (Nat.lt_succ_self _) hinner]
      · rw [← String.toList_inj, hcs]
        simp
      · have hinner : choices? fuel {} [] [] [] (text ++ ')' :: (more ++ [')', '$'])) =
            some (inner, names, [] ++ ')' :: (more ++ [')', '$'])) := by
          rw [hcs, List.append_assoc] at hinner
          exact hinner
        rw [read?, String.toList_ofList, choices?_cut (Nat.lt_succ_self _) hinner]
        rfl

/-- The text of numbers is a pattern by itself. -/
theorem allows_ofPattern_digits : ∃ c part, ofPattern "1" "[0-9]+" = .ok c ∧ read? "[0-9]+" = some part ∧
    parse? "[0-9]+" = some part.pattern ∧
    ∀ value, c.allows value = true ↔ part.pattern.MatchesWhole value := by
  have hconstraint : ofPattern "1" "[0-9]+" = .ok (matching (.seq (.assert .start) (.seq
      (.repeated (.set (.range 0x30 0x39)) 1 none) (.assert .finish)))) := by decide +kernel
  rcases allows_ofPattern hconstraint with ⟨part, hread, hparse, hallows⟩ | ⟨hnone, -⟩
  · exact ⟨_, part, hconstraint, hread, hparse, hallows⟩
  · exact absurd hnone (by decide +kernel)

/-- Not every text of which a constraint is made is a pattern: one that closes a bracket and opens another is set
between the anchors as two choices, each with one of them. -/
theorem ofPattern_unbalanced : ∃ c, ofPattern "1" "a)|(?:b" = .ok c ∧ parse? "a)|(?:b" = none ∧
    c.allows "ax" = true := by
  refine ⟨matching (.alt (.seq (.assert .start) (.set (.single 'a'))) (.seq (.set (.single 'b')) (.assert .finish))),
    ?_, ?_, ?_⟩ <;> decide +kernel

end Constraint

end WikiGateway
