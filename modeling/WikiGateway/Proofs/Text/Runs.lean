import Mathlib.Computability.Language

/-!
# Runs of a class

A run of elements of one class ends where an element of no such class follows (`takeWhile_append_of_head?`). The texts
of one character of a class make a language (`Text.oneOf`), whose star are the runs (`Text.mem_kstar_oneOf`).
-/

namespace WikiGateway

/-! ## Where a run ends -/

section
variable {α : Type} {p : α → Bool} {run rest : List α}

/-- What is left behind a run does not go on with it. -/
theorem head?_dropWhile_eq_false : ∀ x ∈ (run.dropWhile p).head?, p x = false := by
  intro x hx
  have hnot := List.head?_dropWhile_not p run
  rw [Option.mem_def.mp hx] at hnot
  exact hnot

/-- A run ends where something else follows. -/
theorem takeWhile_append_of_head? (hrun : ∀ x ∈ run, p x = true) (hend : ∀ x ∈ rest.head?, p x = false) :
    (run ++ rest).takeWhile p = run ∧ (run ++ rest).dropWhile p = rest := by
  rw [List.takeWhile_append_of_pos hrun, List.dropWhile_append_of_pos hrun]
  cases rest with
  | nil => simp
  | cons x rest => simp [hend x rfl]

end

/-! ## Languages of a class -/

namespace Text

open Computability

/-- The texts of one character of a class. -/
def oneOf (p : Char → Bool) : Language Char := {cs | ∃ c, p c = true ∧ cs = [c]}

variable {p : Char → Bool} {cs : List Char} {l : Language Char}

theorem mem_oneOf : cs ∈ oneOf p ↔ ∃ c, p c = true ∧ cs = [c] := Iff.rfl

/-- A text of the class and a language behind it. -/
theorem mem_oneOf_mul : cs ∈ oneOf p * l ↔ ∃ c, p c = true ∧ ∃ rest ∈ l, c :: rest = cs := by
  rw [Language.mem_mul]
  constructor
  · rintro ⟨front, ⟨c, hc, rfl⟩, rest, hrest, rfl⟩
    exact ⟨c, hc, rest, hrest, rfl⟩
  · rintro ⟨c, hc, rest, hrest, rfl⟩
    exact ⟨[c], ⟨c, hc, rfl⟩, rest, hrest, rfl⟩

/-- The texts all of whose characters are in the class. -/
theorem mem_kstar_oneOf : cs ∈ (oneOf p)∗ ↔ ∀ c ∈ cs, p c = true := by
  rw [Language.mem_kstar]
  constructor
  · rintro ⟨pieces, rfl, hpieces⟩ c hc
    obtain ⟨piece, hpiece, hc⟩ := List.mem_flatten.mp hc
    obtain ⟨d, hd, rfl⟩ := hpieces piece hpiece
    rw [List.mem_singleton.mp hc]
    exact hd
  · intro hall
    refine ⟨cs.map fun c => [c], ?_, ?_⟩
    · rw [← List.flatMap_def, List.flatMap_singleton']
    · intro piece hpiece
      obtain ⟨c, hc, rfl⟩ := List.mem_map.mp hpiece
      exact ⟨c, hall c hc, rfl⟩

/-- The texts that are not empty and all of whose characters are in the class. -/
theorem mem_oneOf_mul_kstar : cs ∈ oneOf p * (oneOf p)∗ ↔ cs ≠ [] ∧ ∀ c ∈ cs, p c = true := by
  rw [mem_oneOf_mul]
  constructor
  · rintro ⟨c, hc, rest, hrest, rfl⟩
    exact ⟨List.cons_ne_nil c rest, List.forall_mem_cons.mpr ⟨hc, mem_kstar_oneOf.mp hrest⟩⟩
  · rintro ⟨hne, hall⟩
    obtain ⟨c, rest, rfl⟩ := List.exists_cons_of_ne_nil hne
    obtain ⟨hc, hrest⟩ := List.forall_mem_cons.mp hall
    exact ⟨c, hc, rest, mem_kstar_oneOf.mpr hrest, rfl⟩

end Text

end WikiGateway
