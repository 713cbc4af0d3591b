import Mathlib.Data.List.Induction
import Mathlib.Data.List.Nodup

/-!
# Each element where it comes first

`List.eraseDups` keeps each element of a list at its first place. One more element at the end is either there already
(`eraseDups_concat`), or new, so that no element is kept twice (`nodup_eraseDups`).

`List.eraseDupsBy` keeps the first of the elements that a test takes for the same (`eraseDupsBy_concat`): no two that
are kept are the same (`pairwise_eraseDupsBy`), and every element is the same as one that is kept
(`exists_mem_eraseDupsBy`).
-/

namespace WikiGateway

/-! ## Elements that a test takes for the same -/

section
variable {α : Type}

/-- An element at the end is kept unless it is the same as one that is kept. -/
theorem eraseDupsBy_concat (same : α → α → Bool) (x : α) : ∀ xs : List α, (xs ++ [x]).eraseDupsBy same =
    if (xs.eraseDupsBy same).any (same x) then xs.eraseDupsBy same else xs.eraseDupsBy same ++ [x]
  | [] => by simp [List.eraseDupsBy_cons]
  | first :: xs => by
    have ih := eraseDupsBy_concat same x (xs.filter fun y => same y first = false)
    rw [List.cons_append, List.eraseDupsBy_cons, List.eraseDupsBy_cons, List.filter_append]
    by_cases hsame : same x first = true
    · simp [hsame]
    · simp only [hsame, List.filter_cons, List.filter_nil, decide_true, if_true, ih, List.any_cons, Bool.false_or]
      split <;> rfl
termination_by xs => xs.length
decreasing_by exact Nat.lt_succ_of_le (List.length_filter_le _ _)

/-- What is kept stands in the order of the list. -/
theorem eraseDupsBy_sublist (same : α → α → Bool) (xs : List α) : (xs.eraseDupsBy same).Sublist xs := by
  induction xs using List.reverseRecOn with
  | nil => exact List.Sublist.refl _
  | append_singleton xs x ih =>
    rw [eraseDupsBy_concat]
    split
    · exact ih.trans (List.sublist_append_left xs [x])
    · exact ih.append (List.Sublist.refl [x])

/-- No element that is kept is the same as one that is kept before it. -/
theorem pairwise_eraseDupsBy (same : α → α → Bool) (xs : List α) :
    (xs.eraseDupsBy same).Pairwise fun first later => same later first = false := by
  induction xs using List.reverseRecOn with
  | nil => exact List.Pairwise.nil
  | append_singleton xs x ih =>
    rw [eraseDupsBy_concat]
    split
    · exact ih
    · rename_i hnew
      refine List.pairwise_append.mpr ⟨ih, List.pairwise_singleton _ _, fun first hfirst later hlater => ?_⟩
      rw [List.mem_singleton.mp hlater]
      simp only [List.any_eq_true, not_exists, not_and, Bool.not_eq_true] at hnew
      exact hnew first hfirst

/-- Every element is kept, or is the same as one that is. -/
theorem exists_mem_eraseDupsBy (same : α → α → Bool) {xs : List α} {x : α} (hx : x ∈ xs) :
    ∃ first ∈ xs.eraseDupsBy same, x = first ∨ same x first = true := by
  induction xs using List.reverseRecOn with
  | nil => cases hx
  | append_singleton xs last ih =>
    rw [eraseDupsBy_concat]
    rcases List.mem_append.mp hx with hx | hx
    · obtain ⟨first, hfirst, hsame⟩ := ih hx
      refine ⟨first, ?_, hsame⟩
      split
      · exact hfirst
      · exact List.mem_append_left _ hfirst
    · obtain rfl := List.mem_singleton.mp hx
      split
      · rename_i hold
        obtain ⟨first, hfirst, hsame⟩ := List.any_eq_true.mp hold
        exact ⟨first, hfirst, .inr hsame⟩
      · exact ⟨x, List.mem_append_right _ (List.mem_singleton_self x), .inl rfl⟩

end

/-! ## Elements that are equal -/

section
variable {α : Type} [BEq α] [LawfulBEq α]

/-- An element at the end is kept if it is new. -/
theorem eraseDups_concat (xs : List α) (x : α) :
    (xs ++ [x]).eraseDups = if x ∈ xs.eraseDups then xs.eraseDups else xs.eraseDups ++ [x] := by
  rw [List.eraseDups_append]
  by_cases hmem : x ∈ xs
  · have hold : List.removeAll [x] xs = [] := by simpa [List.removeAll] using hmem
    rw [if_pos (List.mem_eraseDups.mpr hmem), hold, List.eraseDups_nil, List.append_nil]
  · have hnew : List.removeAll [x] xs = [x] := by simpa [List.removeAll] using hmem
    rw [if_neg fun h => hmem (List.mem_eraseDups.mp h), hnew]
    rfl

theorem nodup_eraseDups (xs : List α) : xs.eraseDups.Nodup := by
  induction xs using List.reverseRecOn with
  | nil => exact List.nodup_nil
  | append_singleton xs x ih =>
    rw [eraseDups_concat]
    split
    · exact ih
    · rename_i hnew
      exact List.nodup_append.mpr ⟨ih, List.nodup_singleton x, fun a ha b hb hsame =>
        hnew (by rwa [← List.mem_singleton.mp hb, ← hsame])⟩

end

end WikiGateway
