import Mathlib.Data.List.DropRight
import WikiGateway.Proofs.Text.Runs
import WikiGateway.Text.Chars

/-!
# Trimmed texts

A trimmed text starts and ends with no blank, so that trimming it again changes nothing (`trimBoth_trimBoth`), and has
no characters of its own (`trimBoth_subset`). Blanks behind a text are all that is taken away (`trimEnd_append`). A text
that does not start with a blank keeps its start, whatever follows (`dropWhile_append_of_front`), and a character that
is no blank keeps apart what is dropped before and behind it (`dropWhile_append_cons`, `trimEnd_append_cons`). A
separator keeps apart what a text starts with and what follows (`prefix_append_cons_iff`).
-/

namespace WikiGateway.Text

/-- Dropping from the end is the library's `rdropWhile`. -/
theorem trimEnd_eq_rdropWhile (p : Char → Bool) (s : List Char) : trimEnd p s = s.rdropWhile p := rfl

/-- Dropped characters behind a text that does not end in one are taken away. -/
theorem trimEnd_append {p : Char → Bool} {s blanks : List Char} (hblanks : ∀ c ∈ blanks, p c = true)
    (hs : ∀ c ∈ s.getLast?, p c = false) : trimEnd p (s ++ blanks) = s := by
  have hblanks' : ∀ c ∈ blanks.reverse, p c = true := fun c hc => hblanks c (List.mem_reverse.mp hc)
  have hs' : ∀ c ∈ s.reverse.head?, p c = false := by rwa [List.head?_reverse]
  rw [trimEnd, List.reverse_append, (takeWhile_append_of_head? hblanks' hs').2, List.reverse_reverse]

/-- Nothing is dropped at a character that is kept. -/
theorem dropWhile_append_cons {p : Char → Bool} {c : Char} (hc : p c = false) (s rest : List Char) :
    (s ++ c :: rest).dropWhile p = s.dropWhile p ++ c :: rest := by
  rw [List.dropWhile_append, List.dropWhile_cons_of_neg (by simp [hc])]
  split
  next hempty => rw [List.isEmpty_iff.mp hempty, List.nil_append]
  next => rfl

/-- Nothing is taken from a character on that ends the run. -/
theorem takeWhile_append_cons {p : Char → Bool} {c : Char} (hc : p c = false) (s rest : List Char) :
    (s ++ c :: rest).takeWhile p = s.takeWhile p := by
  rw [List.takeWhile_append, List.takeWhile_cons_of_neg (by simp [hc]), List.append_nil]
  split
  next hwhole => exact ((List.takeWhile_prefix p).eq_of_length hwhole).symm
  next => rfl

/-- What is dropped at the end stands behind every character that is kept. -/
theorem trimEnd_append_cons {p : Char → Bool} {c : Char} (hc : p c = false) (s rest : List Char) :
    trimEnd p (s ++ c :: rest) = s ++ c :: trimEnd p rest := by
  rw [trimEnd, List.reverse_append, List.reverse_cons, List.append_assoc, List.singleton_append,
    dropWhile_append_cons hc, List.reverse_append, List.reverse_cons, List.reverse_reverse, List.append_assoc]
  rfl

/-- Dropping at the end leaves the start as it is. -/
theorem dropWhile_trimEnd {p : Char → Bool} {s : List Char} (h : s.dropWhile p = s) :
    (trimEnd p s).dropWhile p = trimEnd p s := by
  rw [List.dropWhile_eq_self_iff] at h ⊢
  intro hl
  have hfront : trimEnd p s <+: s := List.rdropWhile_prefix p s
  rw [hfront.getElem hl]
  exact h (Nat.lt_of_lt_of_le hl hfront.length_le)

/-- Trimming twice is trimming once. -/
theorem trimBoth_trimBoth (p : Char → Bool) (s : List Char) : trimBoth p (trimBoth p s) = trimBoth p s := by
  have hstart : (trimBoth p s).dropWhile p = trimBoth p s := dropWhile_trimEnd (List.dropWhile_idempotent p s)
  rw [trimBoth, hstart, trimBoth, trimEnd_eq_rdropWhile, trimEnd_eq_rdropWhile, List.rdropWhile_idempotent]

/-- A text in which nothing is dropped is trimmed. -/
theorem trimBoth_eq_self {p : Char → Bool} {s : List Char} (h : ∀ c ∈ s, p c = false) : trimBoth p s = s := by
  have hstart : s.dropWhile p = s := by
    rw [List.dropWhile_eq_self_iff]
    intro hl
    simp [h s[0] (List.getElem_mem hl)]
  have hend : ∀ hs : s ≠ [], ¬ p (s.getLast hs) = true := fun hs => by simp [h _ (List.getLast_mem hs)]
  rw [trimBoth, hstart, trimEnd_eq_rdropWhile, List.rdropWhile_eq_self_iff.mpr hend]

/-- What is left of a trimmed text was there. -/
theorem trimBoth_subset (p : Char → Bool) (s : List Char) : trimBoth p s ⊆ s := fun _ hc =>
  List.dropWhile_subset p ((List.rdropWhile_prefix p (s.dropWhile p)).subset hc)

/-- A text whose characters are mapped is trimmed where they are. -/
theorem trimBoth_map (p : Char → Bool) (f : Char → Char) (s : List Char) :
    trimBoth p (s.map f) = (trimBoth (p ∘ f) s).map f := by
  have hstart : ∀ s : List Char, (s.map f).dropWhile p = (s.dropWhile (p ∘ f)).map f := fun s => List.dropWhile_map
  rw [trimBoth, trimEnd, hstart, ← List.map_reverse, hstart, ← List.map_reverse]
  rfl

/-- A text in front that has no separator stands before the first one. -/
theorem prefix_append_cons_iff {x : Char} {rest : List Char} : ∀ {front s : List Char}, x ∉ front →
    (front <+: s ++ x :: rest ↔ front <+: s)
  | [], _, _ => by simp
  | c :: front, [], h => by
    have hne : ¬ c = x := fun heq => h (heq ▸ List.mem_cons_self)
    simp [List.cons_prefix_cons, hne]
  | c :: front, d :: s, h => by
    rw [List.cons_append, List.cons_prefix_cons, List.cons_prefix_cons,
      prefix_append_cons_iff fun hx => h (List.mem_cons_of_mem c hx)]

/-- Nothing is dropped from a text that does not start with a dropped character. -/
theorem dropWhile_append_of_front {p : Char → Bool} {s : List Char} (hs : s ≠ []) (hp : s.head?.any p = false)
    (rest : List Char) : (s ++ rest).dropWhile p = s ++ rest := by
  obtain ⟨c, cs, rfl⟩ := List.exists_cons_of_ne_nil hs
  rw [List.cons_append, List.dropWhile_cons, if_neg (by simpa using hp)]

/-- Nothing is dropped from a text in which the dropped character does not occur. -/
theorem dropWhile_append_of_not_mem {x : Char} {s : List Char} (hs : s ≠ []) (hx : x ∉ s) (rest : List Char) :
    (s ++ rest).dropWhile (· == x) = s ++ rest := by
  refine dropWhile_append_of_front hs ?_ rest
  obtain ⟨c, cs, rfl⟩ := List.exists_cons_of_ne_nil hs
  simpa using ne_of_mem_of_not_mem List.mem_cons_self hx

end WikiGateway.Text
