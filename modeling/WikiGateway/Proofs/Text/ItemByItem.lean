import Mathlib.Data.List.Forall2

/-!
# Results item by item

A computation that may fail has a result if each of its steps has one (`map_eq_ok_iff`, `bind_eq_ok_iff`), and a list
that is made of another, item by item, goes with it (`forall₂_of_mapM`, `forall₂_of_mapM_eq_some`).

* `exists_getElem?_of_forall₂`, `exists_of_mem_mapM`: an item has its partner at the same place.
* `forall₂_iff_eq_map`, `map_eq_map_of_forall₂`: lists whose partners are known, or agree.
* `find?_key_eq_none_iff`: the keys under which nothing is found.
-/

namespace WikiGateway

/-! ## Steps -/

section
variable {ε α β : Type} {x : Except ε α}

theorem map_eq_ok_iff {f : α → β} {b : β} : x.map f = .ok b ↔ ∃ a, x = .ok a ∧ f a = b := by
  cases x <;> simp [Except.map]

theorem map_eq_error_iff {f : α → β} {e : ε} : x.map f = .error e ↔ x = .error e := by
  cases x <;> simp [Except.map]

theorem bind_eq_ok_iff {f : α → Except ε β} {b : β} : x >>= f = .ok b ↔ ∃ a, x = .ok a ∧ f a = .ok b := by
  cases x <;> simp [bind, Except.bind]

end

/-! ## Lists -/

section
variable {ε α β γ : Type} {R : α → β → Prop}

/-- What is made of a list, item by item, goes with its items. -/
theorem forall₂_of_mapM {f : α → Except ε β} : ∀ {xs : List α} {ys : List β}, xs.mapM f = .ok ys →
    List.Forall₂ (fun x y => f x = .ok y) xs ys
  | [], ys, h => by
    cases h
    exact .nil
  | x :: xs, ys, h => by
    rw [List.mapM_cons] at h
    obtain ⟨y, hy, h⟩ := bind_eq_ok_iff.mp h
    obtain ⟨ys, hys, h⟩ := bind_eq_ok_iff.mp h
    cases h
    exact .cons hy (forall₂_of_mapM hys)

theorem forall₂_of_mapM_eq_some {f : α → Option β} : ∀ {xs : List α} {ys : List β}, xs.mapM f = some ys →
    List.Forall₂ (fun x y => f x = some y) xs ys
  | [], ys, h => by
    cases h
    exact .nil
  | x :: xs, ys, h => by
    rw [List.mapM_cons] at h
    obtain ⟨y, hy, h⟩ := Option.bind_eq_some_iff.mp h
    obtain ⟨ys, hys, h⟩ := Option.bind_eq_some_iff.mp h
    cases h
    exact .cons hy (forall₂_of_mapM_eq_some hys)

/-- An item has its partner at the same place. -/
theorem exists_getElem?_of_forall₂ {x : α} {xs : List α} {ys : List β} (h : List.Forall₂ R xs ys) :
    ∀ {i : Nat}, xs[i]? = some x → ∃ y, ys[i]? = some y ∧ R x y := by
  induction h with
  | nil =>
    intro i hx
    cases hx
  | cons hfirst _ ih =>
    intro i hx
    cases i with
    | zero =>
      cases hx
      exact ⟨_, rfl, hfirst⟩
    | succ i => exact ih hx

theorem exists_mem_of_forall₂ {y : β} {xs : List α} {ys : List β} (h : List.Forall₂ R xs ys) (hy : y ∈ ys) :
    ∃ x ∈ xs, R x y := by
  obtain ⟨i, hi⟩ := List.mem_iff_getElem?.mp hy
  have hflip : List.Forall₂ (fun y x => R x y) ys xs := h.flip
  obtain ⟨x, hx, hpartner⟩ := exists_getElem?_of_forall₂ hflip hi
  exact ⟨x, List.mem_of_getElem? hx, hpartner⟩

/-- What is made of a list, item by item, is made of its items. -/
theorem exists_of_mem_mapM {f : α → Except ε β} {xs : List α} {ys : List β} {y : β} (hy : y ∈ ys)
    (h : xs.mapM f = .ok ys) : ∃ x ∈ xs, f x = .ok y := by
  obtain ⟨x, hx, hmade⟩ := exists_mem_of_forall₂ (forall₂_of_mapM h) hy
  exact ⟨x, hx, hmade⟩

/-- Partners that agree in something make the same list of it. -/
theorem map_eq_map_of_forall₂ {f : α → γ} {g : β → γ} (hagree : ∀ x y, R x y → f x = g y) {xs : List α} {ys : List β}
    (h : List.Forall₂ R xs ys) : xs.map f = ys.map g := by
  induction h with
  | nil => rfl
  | cons hfirst _ ih => rw [List.map_cons, List.map_cons, hagree _ _ hfirst, ih]

/-- Items that belong to the items of a list as a function says are the list's image. -/
theorem forall₂_iff_eq_map {f : α → β} : ∀ {xs : List α} {ys : List β},
    (∀ x ∈ xs, ∀ y, R x y ↔ y = f x) → (List.Forall₂ R xs ys ↔ ys = xs.map f)
  | [], ys, _ => by simp
  | x :: xs, [], _ => by simp
  | x :: xs, y :: ys, h => by
    obtain ⟨hx, hxs⟩ := List.forall_mem_cons.mp h
    rw [List.forall₂_cons, hx y, forall₂_iff_eq_map hxs, List.map_cons, List.cons.injEq]

/-- Nothing is found under a key that no entry has. -/
theorem find?_key_eq_none_iff {entries : List (String × α)} {key : String} :
    (entries.find? (·.1 == key)).map Prod.snd = none ↔ key ∉ entries.map Prod.fst := by
  rw [Option.map_eq_none_iff, List.find?_eq_none, List.mem_map, not_exists]
  simp only [beq_iff_eq, not_and]

end

end WikiGateway
