/-!
# Reading a list item by item

Many formats are read one item after the other, where an item takes the element in front and perhaps some more. An
`ItemReader` is the step and `readAll` the run of it.

* `readAll_cons`: a run reads the first item and goes on with the rest.
* `readAll_eq_nil_iff`: only an empty list has no items.
-/

namespace WikiGateway.Text

/-- Reads one item off a list that starts with `head`, and gives what is left. -/
structure ItemReader (α β : Type) where
  /-- The item, and what is left after it. -/
  read (head : α) (rest : List α) : β × List α
  /-- No step adds to the list. -/
  length_read (head : α) (rest : List α) : (read head rest).2.length ≤ rest.length

namespace ItemReader

variable {α β : Type} (reader : ItemReader α β)

/-- Reads every item; `seen` holds those read so far, the last one first. -/
def readAllAux (seen : List β) : List α → List β
  | [] => seen.reverse
  | head :: rest => readAllAux ((reader.read head rest).1 :: seen) (reader.read head rest).2
termination_by xs => xs.length
decreasing_by
  have := reader.length_read head rest
  simp only [List.length_cons]
  omega

/-- The items of a list, in order. -/
def readAll (xs : List α) : List β := reader.readAllAux [] xs

/-- What was read before stands in front of what is read next. -/
theorem readAllAux_eq (seen : List β) (xs : List α) :
    reader.readAllAux seen xs = seen.reverse ++ reader.readAll xs := by
  induction hn : xs.length using Nat.strongRecOn generalizing seen xs with
  | ind n ih =>
    cases xs with
    | nil => simp [readAll, readAllAux]
    | cons head rest =>
      have hlen := reader.length_read head rest
      simp only [List.length_cons] at hn
      rw [readAll, readAllAux, readAllAux, ih _ (by omega) _ _ rfl, ih _ (by omega) [_] _ rfl]
      simp

@[simp] theorem readAll_nil : reader.readAll [] = [] := by simp [readAll, readAllAux]

/-- A run reads the first item and goes on with the rest. -/
theorem readAll_cons (head : α) (rest : List α) :
    reader.readAll (head :: rest) = (reader.read head rest).1 :: reader.readAll (reader.read head rest).2 := by
  rw [readAll, readAllAux, readAllAux_eq]
  simp

/-- Only an empty list has no items. -/
@[simp] theorem readAll_eq_nil_iff {xs : List α} : reader.readAll xs = [] ↔ xs = [] := by
  cases xs with
  | nil => simp
  | cons head rest => simp [readAll_cons]

end ItemReader

end WikiGateway.Text
