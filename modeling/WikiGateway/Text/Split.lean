/-!
# Cutting a list at separators

`splitOn` cuts at every separator, `cut?` at the first one and `cutText?` at the first occurrence of a whole text.
`replaceText` puts one text in the place of another.

* `splitOn_ne_nil`: a cut list has at least one piece.
* `splitOn_cons_sep`, `splitOn_cons_other`: how the first element decides about the first piece.
* `splitOn_eq`: at a single separator the pieces are those of `List.splitOn`.
* `cut?_append_cons`, `of_cut?_eq_some`, `cut?_eq_none_iff`, `getD_cut?`: a list is cut at its first separator, if it
  has one; `cut?_append_cons_self`, `cut?_eq_none_of_not_mem` say so of a single separator.
* `cutText?_eq_some_iff`, `append_of_cutText?`: a list is cut at the first occurrence of a text, and the two sides give
  it back.
* `dropPrefix?_eq_some_iff`: what follows a text in front.
-/

namespace WikiGateway.Text

/-! ## Single separators -/

section
variable {α : Type} (p : α → Bool)

/-- One element in front of the pieces cut so far; the second component holds the pieces after the first. -/
def splitStep (x : α) (pieces : List α × List (List α)) : List α × List (List α) :=
  if p x then ([], pieces.1 :: pieces.2) else (x :: pieces.1, pieces.2)

/-- The pieces of a list between the elements that satisfy `p`; two neighbouring separators enclose an empty piece. -/
def splitOn (xs : List α) : List (List α) :=
  let pieces := xs.foldr (splitStep p) ([], [])
  pieces.1 :: pieces.2

/-- A cut list has at least one piece. -/
theorem splitOn_ne_nil (xs : List α) : splitOn p xs ≠ [] := by simp [splitOn]

@[simp] theorem splitOn_nil : splitOn p [] = [[]] := rfl

/-- A separator in front opens with an empty piece. -/
theorem splitOn_cons_sep {x : α} (h : p x = true) (xs : List α) : splitOn p (x :: xs) = [] :: splitOn p xs := by
  simp [splitOn, splitStep, h]

/-- Any other element belongs to the first piece. -/
theorem splitOn_cons_other {x : α} (h : p x = false) (xs : List α) :
    splitOn p (x :: xs) = (x :: (splitOn p xs).head (splitOn_ne_nil p xs)) :: (splitOn p xs).tail := by
  simp [splitOn, splitStep, h]

/-- The pieces are those that the standard library cuts. -/
theorem splitOn_eq_splitOnP : ∀ xs : List α, splitOn p xs = xs.splitOnP p
  | [] => by simp
  | x :: xs => by
    have ih := splitOn_eq_splitOnP xs
    cases h : p x with
    | true => rw [splitOn_cons_sep p h, List.splitOnP_cons_eq_if_modifyHead, if_pos h, ih]
    | false =>
      rw [splitOn_cons_other p h, List.splitOnP_cons_eq_if_modifyHead, if_neg (by simp [h]), ← ih]
      rfl

/-- The pieces between the occurrences of one element. -/
theorem splitOn_eq [BEq α] (x : α) (xs : List α) : splitOn (· == x) xs = xs.splitOn x := by
  rw [splitOn_eq_splitOnP, List.splitOn_eq_splitOnP]

/-- The two sides of the first element that satisfies `p`. -/
def cut? (xs : List α) : Option (List α × List α) :=
  match xs.dropWhile (fun x => !p x) with
  | [] => none
  | _ :: after => some (xs.takeWhile (fun x => !p x), after)

@[simp] theorem cut?_nil : cut? p [] = none := rfl

/-- The first element is the separator or belongs to the first side. -/
theorem cut?_cons (x : α) (xs : List α) :
    cut? p (x :: xs) = if p x then some ([], xs) else (cut? p xs).map fun (before, after) => (x :: before, after) := by
  cases h : p x with
  | true => simp [cut?, h]
  | false =>
    simp only [cut?, List.dropWhile_cons, List.takeWhile_cons, h]
    cases List.dropWhile (fun x => !p x) xs <;> rfl

/-- A list without separators is all on the first side. -/
theorem getD_cut? (xs : List α) : (cut? p xs).getD (xs, []) =
    (xs.takeWhile fun x => !p x, (xs.dropWhile fun x => !p x).drop 1) := by
  have happend := @List.takeWhile_append_dropWhile _ (fun x => !p x) xs
  unfold cut?
  split
  next hnil =>
    rw [hnil, List.append_nil] at happend
    simp [hnil, happend]
  next hcons => simp [hcons]

/-- Only a list without separators is not cut. -/
theorem cut?_eq_none_iff : ∀ {xs : List α}, cut? p xs = none ↔ ∀ x ∈ xs, p x = false
  | [] => by simp
  | x :: xs => by
    rw [cut?_cons]
    have ih := @cut?_eq_none_iff xs
    cases h : p x <;> simp [h, ih]

/-- Everything before the first separator goes to the first side. -/
theorem cut?_append_cons {x : α} (hx : p x = true) (after : List α) :
    ∀ {before : List α}, (∀ y ∈ before, p y = false) → cut? p (before ++ x :: after) = some (before, after)
  | [], _ => by rw [List.nil_append, cut?_cons, if_pos hx]
  | y :: before, h => by
    have hy : ¬ p y = true := by simp [h y List.mem_cons_self]
    rw [List.cons_append, cut?_cons, if_neg hy,
      cut?_append_cons hx after fun z hz => h z (List.mem_cons_of_mem y hz)]
    rfl

/-- A list that is cut has a separator between the two sides, and none before it. -/
theorem of_cut?_eq_some : ∀ {xs before after : List α}, cut? p xs = some (before, after) →
    (∀ y ∈ before, p y = false) ∧ ∃ x, p x = true ∧ xs = before ++ x :: after
  | [], _, _, h => by cases h
  | x :: xs, before, after, h => by
    rw [cut?_cons] at h
    split at h
    next hx =>
      cases h
      exact ⟨by simp, x, hx, rfl⟩
    next hx =>
      obtain ⟨⟨b, a⟩, hc, hba⟩ := Option.map_eq_some_iff.mp h
      cases hba
      obtain ⟨hb, y, hy, rfl⟩ := of_cut?_eq_some hc
      refine ⟨fun z hz => ?_, y, hy, rfl⟩
      rcases List.mem_cons.mp hz with rfl | hz
      · simpa using hx
      · exact hb z hz

end

section
variable {α : Type} [BEq α] [LawfulBEq α] {x : α}

/-- A list is cut at the first occurrence of an element. -/
theorem cut?_append_cons_self {before : List α} (h : x ∉ before) (after : List α) :
    cut? (· == x) (before ++ x :: after) = some (before, after) :=
  cut?_append_cons (· == x) (beq_self_eq_true x) after fun y hy => by
    rw [beq_eq_false_iff_ne]
    rintro rfl
    exact h hy

/-- A list without the element is not cut. -/
theorem cut?_eq_none_of_not_mem {xs : List α} (h : x ∉ xs) : cut? (· == x) xs = none := by
  rw [cut?_eq_none_iff]
  intro y hy
  rw [beq_eq_false_iff_ne]
  rintro rfl
  exact h hy

end

/-! ## Texts as separators -/

section
variable {α : Type} [BEq α]

/-- The two sides of the first occurrence of `needle`. -/
def cutText? (needle : List α) : List α → Option (List α × List α)
  | [] => if needle.isEmpty then some ([], []) else none
  | x :: xs =>
    if needle.isPrefixOf (x :: xs) then some ([], (x :: xs).drop needle.length)
    else (cutText? needle xs).map fun (before, after) => (x :: before, after)

/-- Whether `needle` occurs in a list. -/
def containsText (needle xs : List α) : Bool := (cutText? needle xs).isSome

/-- The list without a leading `needle`, if it starts so. -/
def dropPrefix? (needle xs : List α) : Option (List α) :=
  if needle.isPrefixOf xs then some (xs.drop needle.length) else none

/-- The rest is what follows `needle`. -/
theorem dropPrefix?_eq_some_iff [LawfulBEq α] {needle xs rest : List α} :
    dropPrefix? needle xs = some rest ↔ xs = needle ++ rest := by
  rw [dropPrefix?, Option.ite_none_right_eq_some, List.isPrefixOf_iff_prefix]
  constructor
  · rintro ⟨⟨behind, rfl⟩, h⟩
    rw [List.drop_left, Option.some.injEq] at h
    rw [h]
  · rintro rfl
    exact ⟨List.prefix_append _ _, by rw [List.drop_left]⟩

/-- The list with every occurrence of `needle`, from the front on, replaced by `new`. -/
def replaceText (needle new : List α) : List α → List α
  | [] => []
  | x :: xs =>
    if needle.isPrefixOf (x :: xs) then new ++ replaceText needle new (xs.drop (needle.length - 1))
    else x :: replaceText needle new xs
termination_by xs => xs.length
decreasing_by
  all_goals simp only [List.length_cons, List.length_drop]
  all_goals omega

/-- The cut is at the first occurrence. -/
theorem cutText?_eq_some_iff [LawfulBEq α] {needle after : List α} : ∀ {xs before : List α},
    cutText? needle xs = some (before, after) ↔
      xs = before ++ needle ++ after ∧ ∀ i < before.length, ¬ needle <+: xs.drop i
  | [], before => by
    by_cases hn : needle = []
    · cases before <;> simp [cutText?, hn, eq_comm]
    · simp [cutText?, hn]
  | x :: xs, before => by
    rw [cutText?]
    split
    next hp =>
      have hstart : needle <+: x :: xs := List.isPrefixOf_iff_prefix.mp hp
      obtain ⟨t, ht⟩ := hstart
      cases before with
      | nil => simp [← ht, eq_comm]
      | cons y before =>
        refine iff_of_false (by simp) fun h => ?_
        exact h.2 0 (Nat.zero_lt_succ _) ⟨t, ht⟩
    next hp =>
      have hno : ¬ needle <+: x :: xs := fun hstart => hp (List.isPrefixOf_iff_prefix.mpr hstart)
      cases before with
      | nil =>
        refine iff_of_false (by simp) fun h => hno ⟨after, ?_⟩
        rw [h.1, List.nil_append]
      | cons y before =>
        have ih := @cutText?_eq_some_iff _ needle after xs before
        have hshift : (∀ i < (y :: before).length, ¬ needle <+: (x :: xs).drop i) ↔
            ∀ i < before.length, ¬ needle <+: xs.drop i := by
          refine ⟨fun h i hi => h (i + 1) (Nat.succ_lt_succ hi), fun h i hi => ?_⟩
          cases i with
          | zero => exact hno
          | succ i => exact h i (Nat.lt_of_succ_lt_succ hi)
        rw [hshift, List.cons_append, List.cons_append, List.cons.injEq, and_assoc, ← ih, Option.map_eq_some_iff]
        constructor
        · rintro ⟨⟨front, back⟩, hcut, heq⟩
          cases heq
          exact ⟨rfl, hcut⟩
        · rintro ⟨rfl, hcut⟩
          exact ⟨_, hcut, rfl⟩

/-- The two sides of a cut give back the list. -/
theorem append_of_cutText? [LawfulBEq α] {needle before after xs : List α}
    (h : cutText? needle xs = some (before, after)) : xs = before ++ needle ++ after :=
  (cutText?_eq_some_iff.mp h).1

end

/-! ## Replacing elements -/

/-- The list with every element that satisfies `p` replaced by `x`. -/
def replaceEach {α : Type} (p : α → Bool) (x : α) (xs : List α) : List α :=
  xs.map fun y => if p y then x else y

/-- A change of some elements leaves a list without such elements as it is. -/
theorem map_ite_eq_self {α : Type} {p : α → Prop} [DecidablePred p] (change : α → α) {xs : List α}
    (h : ∀ x ∈ xs, ¬ p x) : (xs.map fun x => if p x then change x else x) = xs :=
  (List.map_congr_left fun x hx => if_neg (h x hx)).trans (List.map_id' xs)

end WikiGateway.Text
